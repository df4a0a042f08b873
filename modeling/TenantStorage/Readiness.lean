import TenantStorage.Failure
import TenantStorage.Program
import TenantStorage.Settings.Engine

/-!
# Bounded polling

Something is looked at again and again, with a pause after each look that finds it unready, until it is
ready, the looks are used up, a look fails, or the wait is cancelled.

* `RetryPolicy` — how many looks, how long a pause.
* `Probe` — what one look finds; `Polled` — how the wait ends.
* `RetryPolicy.poll` — the wait, over any signature that can pause and look.
* `RetryPolicy.longestPause?` — the longest time that can be spent in pauses.
-/

namespace TenantStorage

/-- How many looks there are, including the first, and the pause between two of them. -/
structure RetryPolicy where
  maxAttempts : UInt32
  maxDelay : Duration
deriving DecidableEq, Repr

/-- What one look finds. -/
inductive Probe (α : Type) where
  | ready (value : α)
  /-- Not ready, and why. -/
  | pending (condition : String)
deriving DecidableEq, Repr

/-- How a wait ends. -/
inductive Polled (α : Type) where
  /-- Ready at the last of so many looks. -/
  | ready (value : α) (attempts : Nat)
  /-- Never ready; the condition is that of the last look. -/
  | exhausted (attempts : Nat) (lastCondition : String)
  /-- A look failed. -/
  | failed (failure : Failure)
  | cancelled
deriving DecidableEq, Repr

/-- How a wait learns of the cancellation and passes the time.  A pause that is cut short by the
    cancellation returns `false`. -/
structure Timer (S : Signature) where
  cancelled : Program S Bool
  pause : Duration → Program S Bool

/-- A look that may be given up, with `none`, when the cancellation arrives. -/
abbrev Look (S : Signature) (α : Type) := Program S (Option (Except Failure (Probe α)))

namespace RetryPolicy

/-- A policy with at least one look. -/
def new (maxAttempts : UInt32) (maxDelay : Duration) : RetryPolicy :=
  ⟨if maxAttempts = 0 then 1 else maxAttempts, maxDelay⟩

/-- The policy of the readiness settings. -/
def ofSettings (readiness : Settings.Readiness) : RetryPolicy :=
  new readiness.maxAttempts readiness.maxDelay

instance : Inhabited RetryPolicy := ⟨ofSettings default⟩

/-- How many pauses there can be; also a policy without looks gets one look. -/
def pauses (policy : RetryPolicy) : Nat := policy.maxAttempts.toNat - 1

/-- The longest time that can be spent in pauses, unless it is too long to be told. -/
def longestPause? (policy : RetryPolicy) : Option Duration :=
  policy.maxDelay.times? policy.pauses

variable {S : Signature} {α : Type}

/-- Looks once, and again after a pause as long as pauses are left.  `attempts` looks came before. -/
def lookAgain (pause : Program S Bool) (look : Look S α) :
    (pauses attempts : Nat) → Program S (Polled α)
  | pauses, attempts => do
    match ← look with
    | none => return .cancelled
    | some (.error failure) => return .failed failure
    | some (.ok (.ready value)) => return .ready value (attempts + 1)
    | some (.ok (.pending condition)) =>
      match pauses with
      | 0 => return .exhausted (attempts + 1) condition
      | pauses + 1 =>
        if ← pause then lookAgain pause look pauses (attempts + 1) else return .cancelled

/-- Looks until ready.  Nothing is looked at when the cancellation is there from the start. -/
def poll (policy : RetryPolicy) (timer : Timer S) (look : Look S α) : Program S (Polled α) := do
  if ← timer.cancelled then return .cancelled
  lookAgain (timer.pause policy.maxDelay) look policy.pauses 0

end RetryPolicy

end TenantStorage
