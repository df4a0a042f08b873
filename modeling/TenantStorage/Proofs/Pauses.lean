import Mathlib.Order.Bounds.Basic
import TenantStorage.Proofs.Timing

namespace TenantStorage

open Simulation

/-!
# How long a wait pauses

A policy tells how long a wait may spend in pauses, unless that is too long for a duration.  What a wait does
spend in them is read off the clock at each of its steps.

* `Duration.times?_ofSeconds` — which multiples of whole seconds are durations.
* `Scene.paused` — the time that a wait spends in pauses; `Scene.paused_le` and `Scene.paused_of_exhausted` say
  how long that is at most, and when it is that long.
* `Scene.isGreatest_timesPaused` — the longest time that waits under one policy spend in pauses.
* `RetryPolicy.tellsPauses_iff` — the settings whose policy tells that time.
-/

/-! ### What a policy tells -/

theorem Duration.fits_ofSeconds {seconds : Nat} : (ofSeconds seconds).Fits ↔ seconds < UInt64.size := by
  rw [Fits, Duration.seconds, ofSeconds, Nat.mul_div_cancel _ (by decide)]

theorem Duration.nanoseconds_ofSeconds_mul (seconds n : Nat) :
    (ofSeconds (seconds * n)).nanoseconds = (ofSeconds seconds).nanoseconds * n :=
  Nat.mul_right_comm ..

theorem Duration.times?_ofSeconds (seconds n : Nat) : (ofSeconds seconds).times? n =
    if seconds * n < UInt64.size then some (ofSeconds (seconds * n)) else none := by
  have hproduct : (⟨(ofSeconds seconds).nanoseconds * n⟩ : Duration) = ofSeconds (seconds * n) :=
    congrArg Duration.mk (nanoseconds_ofSeconds_mul seconds n).symm
  simp only [times?, hproduct, fits_ofSeconds]

/-- A policy from settings tells its longest pause just when the seconds fit into 64 bits. -/
theorem RetryPolicy.longestPause?_ofSettings (readiness : Settings.Readiness) :
    (ofSettings readiness).longestPause? =
      if readiness.maxDelaySecs.toNat * (readiness.maxAttempts.toNat - 1) < UInt64.size
        then some (.ofSeconds (readiness.maxDelaySecs.toNat * (readiness.maxAttempts.toNat - 1)))
        else none := by
  rw [longestPause?, pauses_ofSettings]
  exact Duration.times?_ofSeconds ..

example : RetryPolicy.longestPause? default = some (.ofSeconds 45) := by decide

/-! ### The time in pauses -/

namespace Scene

variable {α : Type} {scene : Scene α} {policy : RetryPolicy} {start : Nat}

/-- How long a step pauses.  Time that a look takes does not count. -/
def pausedBy (step : Program.Move (pollActions α) Moment) : Nat :=
  match (step.op : PollAction) with
  | .pause _ => step.after.now - step.before.now
  | .look | .cancelled => 0

/-- How long is paused in some steps. -/
def timePaused : List (Program.Move (pollActions α) Moment) → Nat
  | [] => 0
  | step :: rest => pausedBy step + timePaused rest

theorem timePaused_concat (steps : List (Program.Move (pollActions α) Moment))
    (step : Program.Move (pollActions α) Moment) :
    timePaused (steps ++ [step]) = timePaused steps + pausedBy step := by
  induction steps with
  | nil => exact Nat.add_comm ..
  | cons first rest ih => rw [List.cons_append, timePaused, timePaused, ih, Nat.add_assoc]

/-- The steps of a wait that is begun at `start`. -/
def steps (scene : Scene α) (policy : RetryPolicy) (start : Nat) :
    List (Program.Move (pollActions α) Moment) :=
  (policy.poll PollWorld.timer (Program.perform (S := pollActions α) PollAction.look)).moves scene.handle
    ⟨start, []⟩

/-- The time that a wait spends in pauses. -/
def paused (scene : Scene α) (policy : RetryPolicy) (start : Nat) : Nat :=
  timePaused (scene.steps policy start)

/-- A pause lasts as long as the timer makes it, and less only if the cancellation falls into it. -/
theorem pause_cases (scene : Scene α) (duration : Duration) (m : Moment) :
    (∃ m', scene.handle (.pause duration) m = (true, m') ∧ m'.now - m.now = scene.lasts duration) ∨
    ∃ m', scene.handle (.pause duration) m = (false, m') ∧ m'.now - m.now ≤ scene.lasts duration := by
  obtain ⟨cancel, -, hlt, hpass⟩ | ⟨-, hpass⟩ := scene.pass_cases (m.now + scene.lasts duration) m
  · refine .inr ⟨_, hpass, ?_⟩
    have hmax : max m.now cancel ≤ m.now + scene.lasts duration := max_le (Nat.le_add_right ..) hlt.le
    exact Nat.sub_le_iff_le_add'.2 hmax
  · exact .inl ⟨_, hpass, Nat.add_sub_cancel_left ..⟩

/-- The rule for an action, with a log. -/
theorem ensures_action_timed {action : PollAction} {m : Moment}
    {log : List (Program.Move (pollActions α) Moment)}
    {post : action.Answer α → Moment × List (Program.Move (pollActions α) Moment) → Prop}
    (h : ∀ answer m' log', scene.handle action m = (answer, m') →
      timePaused log' = timePaused log + pausedBy ⟨m, action, answer, m'⟩ → post answer (m', log')) :
    (Program.perform (S := pollActions α) action).Ensures (Program.logged scene.conduct) Program.anyStep post
      (m, log) := by
  rintro answer ⟨m', log'⟩ ⟨⟨hanswer, hafter⟩, hlog⟩
  have htime : timePaused log' = timePaused log + pausedBy ⟨m, action, answer, m'⟩ :=
    (congrArg timePaused hlog).trans (timePaused_concat ..)
  exact ⟨trivial, h answer m' log' (Prod.ext hanswer.symm hafter.symm) htime⟩

/-- One more pause, which is shorter only if it is cut short. -/
theorem ensures_pause_timed {duration : Duration} {n : Nat} {m : Moment}
    {log : List (Program.Move (pollActions α) Moment)} (h : timePaused log = n * scene.lasts duration) :
    (PollWorld.timer.pause duration).Ensures (Program.logged scene.conduct) Program.anyStep
      (fun going after => if going then timePaused after.2 = (n + 1) * scene.lasts duration
        else timePaused after.2 ≤ (n + 1) * scene.lasts duration) (m, log) := by
  refine ensures_action_timed fun going m' log' hhandle hlog => ?_
  have hlog' : timePaused log' = n * scene.lasts duration + (m'.now - m.now) := by
    rw [hlog, h]
    rfl
  rw [hlog', Nat.succ_mul]
  obtain ⟨_, hpause, hlasts⟩ | ⟨_, hpause, hlasts⟩ := scene.pause_cases duration m
  · obtain ⟨rfl, rfl⟩ := Prod.mk.inj (hpause.symm.trans hhandle)
    exact (if_pos rfl).mpr (congrArg _ hlasts)
  · obtain ⟨rfl, rfl⟩ := Prod.mk.inj (hpause.symm.trans hhandle)
    exact (if_neg Bool.false_ne_true).mpr (Nat.add_le_add_left hlasts _)

/-- Look number `n` comes after `n` pauses of full length. -/
theorem ensures_wait_timed :
    (policy.poll PollWorld.timer (Program.perform (S := pollActions α) PollAction.look)).Ensures
      (Program.logged scene.conduct) Program.anyStep
      (RetryPolicy.Ended (fun n _ after => timePaused after.2 = n * scene.lasts policy.maxDelay)
        (fun after => timePaused after.2 ≤ policy.pauses * scene.lasts policy.maxDelay) (policy.pauses + 1))
      (⟨start, []⟩, []) := by
  refine RetryPolicy.ensures_poll_ended
    (fun n after => timePaused after.2 = n * scene.lasts policy.maxDelay) policy rfl ?_ ?_ ?_
  · refine ensures_action_timed fun cancelled m' log' _ hlog => ?_
    have hnone : timePaused log' = 0 := hlog
    cases cancelled with
    | true => exact hnone.trans_le (Nat.zero_le _)
    | false => exact hnone.trans (Nat.zero_mul _).symm
  · -- a look may take its time, but none of it is paused
    rintro n - ⟨m, log⟩ hbefore
    exact ensures_action_timed fun _ _ _ _ hlog => hlog.trans hbefore
  · -- there is a next look, so the pause before it is one of those that the policy allows
    rintro n hn condition ⟨m, log⟩ hbefore
    refine (ensures_pause_timed hbefore).imp fun going after hafter => ?_
    cases going with
    | true => exact hafter
    | false =>
      have hallowed : n + 1 ≤ policy.pauses := Nat.le_of_lt_succ hn
      calc timePaused after.2 ≤ (n + 1) * scene.lasts policy.maxDelay := hafter
        _ ≤ policy.pauses * scene.lasts policy.maxDelay := Nat.mul_le_mul_right _ hallowed

variable (scene policy start)

theorem ended_timed :
    RetryPolicy.Ended (fun n _ after => timePaused after.2 = n * scene.lasts policy.maxDelay)
      (fun after => timePaused after.2 ≤ policy.pauses * scene.lasts policy.maxDelay) (policy.pauses + 1)
      (scene.run policy start).1 ((scene.run policy start).2, scene.steps policy start) :=
  (ensures_wait_timed.run_logged fun _ _ => ⟨rfl, rfl⟩).1

/-- However a wait ends, no more is paused than after every look but the last. -/
theorem paused_le : scene.paused policy start ≤ policy.pauses * scene.lasts policy.maxDelay := by
  have hle {n : Nat} (hn : n < policy.pauses + 1)
      (h : scene.paused policy start = n * scene.lasts policy.maxDelay) :
      scene.paused policy start ≤ policy.pauses * scene.lasts policy.maxDelay :=
    h.trans_le (Nat.mul_le_mul_right _ (Nat.le_of_lt_succ hn))
  -- a wait ends at a look, with fewer pauses before it than there are looks, or in one of the pauses
  match (scene.run policy start).1, scene.ended_timed policy start with
  | .ready _ _, ⟨_, hn, _, hpaused⟩ => exact hle hn hpaused
  | .exhausted _ _, ⟨_, hn, _, hpaused⟩ => exact hle (by omega) hpaused
  | .failed _, ⟨_, hn, hpaused⟩ => exact hle hn hpaused
  | .cancelled, .inl ⟨_, hn, hpaused⟩ => exact hle hn hpaused
  | .cancelled, .inr hpaused => exact hpaused

variable {scene policy start}

theorem paused_of_exhausted {attempts : Nat} {condition : String}
    (h : (scene.run policy start).1 = .exhausted attempts condition) :
    scene.paused policy start = policy.pauses * scene.lasts policy.maxDelay := by
  have hended := scene.ended_timed policy start
  rw [h] at hended
  obtain ⟨n, hn, -, hpaused⟩ := hended
  rw [paused, hpaused, Nat.succ_injective hn]

/-- No pause lasts longer than asked for. -/
def Punctual (scene : Scene α) : Prop := ∀ duration, scene.lasts duration ≤ duration.nanoseconds

/-- Nothing is ever ready, and nothing but the pauses takes time. -/
def neverReady : Scene α :=
  { takes := fun _ => 0
    finds := fun _ => .ok (.pending "none")
    lasts := Duration.nanoseconds
    cancelAt := none }

theorem run_neverReady (policy : RetryPolicy) (start : Nat) :
    ∃ attempts condition, ((neverReady (α := α)).run policy start).1 = .exhausted attempts condition := by
  -- which look is the last one does not matter, since none finds anything
  obtain ⟨last, hlast⟩ := (neverReady (α := α)).exists_lastLook (Nat.succ_pos policy.pauses)
  exact ⟨last + 1, "none", by rw [run_eq hlast]; rfl⟩

/-- How long waits under a policy pause with a punctual timer, whatever their looks take and find and whenever
    they are cancelled. -/
def timesPaused (α : Type) (policy : RetryPolicy) : Set Nat :=
  {time | ∃ (scene : Scene α) (start : Nat), scene.Punctual ∧ scene.paused policy start = time}

theorem isGreatest_timesPaused (α : Type) (policy : RetryPolicy) :
    IsGreatest (timesPaused α policy) (policy.pauses * policy.maxDelay.nanoseconds) := by
  constructor
  · obtain ⟨attempts, condition, hrun⟩ := run_neverReady (α := α) policy 0
    exact ⟨neverReady, 0, fun _ => le_rfl, paused_of_exhausted hrun⟩
  · rintro _ ⟨scene, start, hpunctual, rfl⟩
    exact (scene.paused_le policy start).trans (Nat.mul_le_mul_left _ (hpunctual _))

end Scene

/-! ### Settings -/

namespace RetryPolicy

theorem isGreatest_timesPaused_ofSettings (α : Type) (readiness : Settings.Readiness) :
    IsGreatest (Scene.timesPaused α (ofSettings readiness))
      (readiness.maxDelay.nanoseconds * (readiness.maxAttempts.toNat - 1)) := by
  have hgreatest := Scene.isGreatest_timesPaused α (ofSettings readiness)
  rwa [pauses_ofSettings, Nat.mul_comm] at hgreatest

/-- The policy of the settings tells how long a wait can spend in pauses: that is the pause of the settings as
    often as there are looks after the first, and no wait spends more time in pauses, whatever its looks take and
    find and whenever it is cancelled. -/
def TellsPauses (readiness : Settings.Readiness) : Prop :=
  ∃ longest, (ofSettings readiness).longestPause? = some longest ∧
    longest.nanoseconds = readiness.maxDelay.nanoseconds * (readiness.maxAttempts.toNat - 1) ∧
    ∀ (α : Type) (scene : Scene α) (start : Nat), scene.Punctual →
      scene.paused (ofSettings readiness) start ≤ longest.nanoseconds

/-- The policy of the settings tells how long a wait can spend in pauses just when the seconds of all pauses
    together fit into 64 bits.  In any case that is the longest time that waits spend in pauses. -/
theorem tellsPauses_iff (readiness : Settings.Readiness) (α : Type) :
    (TellsPauses readiness ↔
      readiness.maxDelaySecs.toNat * (readiness.maxAttempts.toNat - 1) < UInt64.size) ∧
    IsGreatest (Scene.timesPaused α (ofSettings readiness))
      (readiness.maxDelay.nanoseconds * (readiness.maxAttempts.toNat - 1)) := by
  refine ⟨⟨fun htells => ?_, fun hfits => ?_⟩, isGreatest_timesPaused_ofSettings α readiness⟩
  · -- beyond 64 bits nothing is told at all
    obtain ⟨longest, hlongest, -⟩ := htells
    by_contra hover
    rw [longestPause?_ofSettings, if_neg hover] at hlongest
    cases hlongest
  · have hproduct := Duration.nanoseconds_ofSeconds_mul readiness.maxDelaySecs.toNat
      (readiness.maxAttempts.toNat - 1)
    refine ⟨_, by rw [longestPause?_ofSettings, if_pos hfits], hproduct, fun β scene start hpunctual => ?_⟩
    rw [hproduct]
    exact (isGreatest_timesPaused_ofSettings β readiness).2 ⟨scene, start, hpunctual, rfl⟩

/-- Settings with the longest pause that can be written down. -/
def overlong : Settings.Engine :=
  { (default : Settings.Engine) with readiness := { maxAttempts := 10, maxDelaySecs := 18446744073709551615 } }

theorem overlong_not_told :
    overlong.validate = .ok () ∧ (ofSettings overlong.readiness).longestPause? = none ∧
      ¬TellsPauses overlong.readiness := by
  have hnone : (ofSettings overlong.readiness).longestPause? = none := by decide
  refine ⟨rfl, hnone, fun htells => ?_⟩
  obtain ⟨longest, hlongest, -⟩ := htells
  cases hnone.symm.trans hlongest

end RetryPolicy

end TenantStorage
