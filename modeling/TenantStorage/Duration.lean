/-!
# Durations

A duration is a whole number of seconds below 2^64 and a fraction in nanoseconds; it is kept as its
number of nanoseconds.

* `Duration.ofParts?` — seconds and nanoseconds together, which may be too long to be a duration.
* `Duration.times?` — a multiple, which may be too long as well.
-/

namespace TenantStorage

/-- A length of time. -/
structure Duration where
  nanoseconds : Nat
deriving DecidableEq, Repr, Inhabited

namespace Duration

/-- A whole number of seconds. -/
def ofSeconds (seconds : Nat) : Duration := ⟨seconds * 1000000000⟩

/-- A whole number of milliseconds. -/
def ofMilliseconds (milliseconds : Nat) : Duration := ⟨milliseconds * 1000000⟩

/-- The whole seconds. -/
def seconds (d : Duration) : Nat := d.nanoseconds / 1000000000

/-- What is left of the whole seconds, in nanoseconds. -/
def fraction (d : Duration) : Nat := d.nanoseconds % 1000000000

/-- The whole milliseconds. -/
def milliseconds (d : Duration) : Nat := d.nanoseconds / 1000000

instance : Add Duration := ⟨fun a b => ⟨a.nanoseconds + b.nanoseconds⟩⟩

/-- The whole seconds of a duration fit into 64 bits. -/
def Fits (d : Duration) : Prop := d.seconds < UInt64.size

instance (d : Duration) : Decidable d.Fits := inferInstanceAs (Decidable (_ < _))

/-- A number of seconds and of nanoseconds together, unless they are too long. -/
def ofParts? (seconds nanoseconds : Nat) : Option Duration :=
  let total := ofSeconds seconds + ⟨nanoseconds⟩
  if total.Fits then some total else none

/-- The `n`-fold of a duration, unless it is too long. -/
def times? (d : Duration) (n : Nat) : Option Duration :=
  let product : Duration := ⟨d.nanoseconds * n⟩
  if product.Fits then some product else none

end Duration

end TenantStorage
