import TenantStorage.Readiness
import TenantStorage.Simulation.Clock

/-!
# Polling scripted probes

A wait whose looks follow a script, under a virtual clock.

* `Simulation.ScriptedProbe` — a look: how long it takes and what it finds.
* `Simulation.pollScript` — the wait; after the end of the script its last look is repeated.
-/

namespace TenantStorage.Simulation

/-- A look of a script. -/
structure ScriptedProbe (α : Type) where
  /-- The time that the look takes, in milliseconds. -/
  delay : Nat
  finding : Except Failure (Probe α)

/-- What a scripted wait asks of its surroundings. -/
inductive PollAction where
  | look
  | pause (duration : Duration)
  | cancelled
deriving DecidableEq, Repr

/-- The answer to an action of a scripted wait. -/
abbrev PollAction.Answer (α : Type) : PollAction → Type
  | look => Option (Except Failure (Probe α))
  | pause _ => Bool
  | cancelled => Bool

/-- The actions of a scripted wait as operations of programs. -/
def pollActions (α : Type) : Signature := ⟨PollAction, PollAction.Answer α⟩

/-- The surroundings of a scripted wait. -/
structure PollWorld (α : Type) where
  clock : Clock
  script : List (ScriptedProbe α)
  /-- How many looks have come to their end. -/
  finished : Nat

namespace PollWorld

variable {α : Type}

/-- The next look; without a script nothing is ever ready. -/
def next (w : PollWorld α) : ScriptedProbe α :=
  w.script.headD ⟨0, .ok (.pending "none")⟩

/-- The script after the next look; the last look stays. -/
def restScript (w : PollWorld α) : List (ScriptedProbe α) :=
  match w.script with
  | _ :: second :: rest => second :: rest
  | script => script

/-- Answers an action of a scripted wait. -/
def handle : (action : PollAction) → PollWorld α → action.Answer α × PollWorld α
  | .look, w =>
    let (passed, clock) := w.clock.wait w.next.delay
    if passed then
      (some w.next.finding,
        { clock, script := w.restScript, finished := w.finished + 1 })
    else (none, { w with clock, script := w.restScript })
  | .pause duration, w =>
    let (passed, clock) := w.clock.wait duration.milliseconds
    (passed, { w with clock })
  | .cancelled, w => (w.clock.isCancelled, w)

/-- Pauses and cancellation of a scripted wait. -/
def timer : Timer (pollActions α) where
  cancelled := Program.perform (S := pollActions α) PollAction.cancelled
  pause duration := Program.perform (S := pollActions α) (PollAction.pause duration)

end PollWorld

/-- Waits with scripted looks. -/
def pollScript {α : Type} (policy : RetryPolicy) (script : List (ScriptedProbe α))
    (cancelAfter : Option Nat) : Polled α × PollWorld α :=
  let w : PollWorld α := { clock := (⟨0, none⟩ : Clock).cancelAfter cancelAfter, script, finished := 0 }
  Program.run (S := pollActions α) PollWorld.handle
    (policy.poll PollWorld.timer (Program.perform (S := pollActions α) PollAction.look)) w

end TenantStorage.Simulation
