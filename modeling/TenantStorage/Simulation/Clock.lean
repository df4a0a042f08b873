/-!
# A virtual clock

Time passes only while something waits.  A wait ends early when the cancellation falls into it, and no
wait is longer than `longestWait`.

* `Clock.wait` — lets time pass.
* `Clock.isCancelled` — whether the time of the cancellation has come.
-/

namespace TenantStorage.Simulation

/-- The time, and the time of the cancellation, in milliseconds. -/
structure Clock where
  now : Nat
  cancelAt : Option Nat
deriving DecidableEq, Repr, Inhabited

namespace Clock

/-- The longest time that is waited for at once: thirty years of 365 days. -/
def longestWait : Nat := 30 * 365 * 24 * 60 * 60 * 1000

/-- Whether the time of the cancellation has come. -/
def isCancelled (clock : Clock) : Bool := clock.cancelAt.any (· ≤ clock.now)

/-- The time at which a wait that begins now is over. -/
def timeAfter (clock : Clock) (milliseconds : Nat) : Nat := clock.now + min milliseconds longestWait

/-- The clock after a wait, whatever is cancelled meanwhile. -/
def advance (clock : Clock) (milliseconds : Nat) : Clock :=
  { clock with now := clock.timeAfter milliseconds }

/-- Lets time pass, or only the time until a cancellation that falls into it; tells whether all of it
    passed.  A cancellation at the very end does not cut the wait short, but it does cut the next one. -/
def wait (clock : Clock) (milliseconds : Nat) : Bool × Clock :=
  match clock.cancelAt with
  | some time =>
    if time < clock.timeAfter milliseconds then (false, { clock with now := max clock.now time })
    else (true, clock.advance milliseconds)
  | none => (true, clock.advance milliseconds)

/-- The clock with a cancellation some time from now. -/
def cancelAfter (clock : Clock) (milliseconds : Option Nat) : Clock :=
  { clock with cancelAt := milliseconds.map clock.timeAfter }

end Clock

end TenantStorage.Simulation
