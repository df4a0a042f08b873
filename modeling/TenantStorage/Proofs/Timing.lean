import Mathlib.Algebra.BigOperators.Group.Finset.Basic
import Mathlib.Data.Nat.Find
import TenantStorage.Proofs.Readiness
import TenantStorage.Simulation.Polling

namespace TenantStorage

open Simulation

/-!
# How long a wait takes

A wait is run under a clock on which time passes only while a look or a pause lasts.  What each look takes
and finds is given beforehand, and so is the time of the cancellation; this fixes the whole run.

* `Scene` — what the looks take and find, how long the timer makes a pause, and when the wait is cancelled.
* `Scene.opening` — when each look begins; `Scene.LastLook` — which look ends the wait.
* `Scene.run_eq` — result, time and looks of every wait; `poll_under_clock` — with pauses of exactly the length
  of the policy.
* `pollScript_eq` — scripted waits are such waits, with pauses in whole milliseconds and none above thirty years.
-/

/-- What a wait meets. -/
structure Scene (α : Type) where
  /-- How long each look takes. -/
  takes : Nat → Nat
  finds : Nat → Except Failure (Probe α)
  /-- How long the timer makes a pause. -/
  lasts : Duration → Nat
  cancelAt : Option Nat

/-- The time, and when each look so far began. -/
structure Moment where
  now : Nat
  begun : List Nat

namespace Scene

variable {α : Type} (scene : Scene α) (policy : RetryPolicy) (start : Nat)

/-! ### Runs -/

/-- Lets time pass until `finish`, or only until a cancellation before it. -/
def pass (finish : Nat) (m : Moment) : Bool × Moment :=
  match scene.cancelAt.filter (· < finish) with
  | none => (true, { m with now := finish })
  | some time => (false, { m with now := max m.now time })

/-- Answers what a wait asks for. -/
def handle : (action : PollAction) → Moment → action.Answer α × Moment
  | .look, m =>
    let (passed, after) := scene.pass (m.now + scene.takes m.begun.length)
      { m with begun := m.begun ++ [m.now] }
    (if passed then some (scene.finds m.begun.length) else none, after)
  | .pause duration, m => scene.pass (m.now + scene.lasts duration) m
  | .cancelled, m => (scene.cancelAt.any (· ≤ m.now), m)

/-- A wait that is begun at the time `start`. -/
def run : Polled α × Moment :=
  Program.run (S := pollActions α) scene.handle
    (policy.poll PollWorld.timer (Program.perform (S := pollActions α) PollAction.look)) ⟨start, []⟩

/-! ### What a run comes to -/

/-- When look number `i` begins, after the looks before it and a pause after each of them. -/
def opening (i : Nat) : Nat :=
  start + ∑ j ∈ Finset.range i, scene.takes j + i * scene.lasts policy.maxDelay

/-- Look number `i` does not fail, but finds nothing ready. -/
def Unready (i : Nat) : Prop := ∃ condition, scene.finds i = .ok (.pending condition)

/-- Look number `last` ends a wait of so many looks: nothing was ready before, and either it finds something or
    no look is left. -/
def LastLook (looks last : Nat) : Prop :=
  last < looks ∧ (∀ i < last, scene.Unready i) ∧ (scene.Unready last → last + 1 = looks)

/-- The result of a wait that look number `last` ends. -/
def verdict (last : Nat) : Polled α :=
  match scene.finds last with
  | .ok (.ready value) => .ready value (last + 1)
  | .ok (.pending condition) => .exhausted (last + 1) condition
  | .error failure => .failed failure

theorem exists_lastLook {looks : Nat} (h : 0 < looks) : ∃ last, scene.LastLook looks last := by
  classical
  have hends : ∃ i, i + 1 = looks ∨ ¬scene.Unready i := ⟨looks - 1, .inl (by omega)⟩
  refine ⟨Nat.find hends, ?_, fun i hi => ?_, fun hunready => ?_⟩
  · have hle : Nat.find hends ≤ looks - 1 := Nat.find_min' hends (.inl (by omega))
    omega
  · by_contra hfinds
    exact Nat.find_min hends hi (.inr hfinds)
  · exact (Nat.find_spec hends).resolve_right (not_not.2 hunready)

variable {scene policy start}

/-- No other look ends the wait. -/
theorem LastLook.eq_of_not_unready {looks last i : Nat} (h : scene.LastLook looks last) (hle : i ≤ last)
    (hfinds : ¬scene.Unready i) : i = last := by
  by_contra hne
  exact hfinds (h.2.1 i (by omega))

theorem opening_succ (i : Nat) : scene.opening policy start (i + 1) =
    scene.opening policy start i + scene.takes i + scene.lasts policy.maxDelay := by
  rw [opening, opening, Finset.sum_range_succ, Nat.succ_mul]
  omega

theorem opening_mono {i j : Nat} (h : i ≤ j) :
    scene.opening policy start i ≤ scene.opening policy start j := by
  induction j, h using Nat.le_induction with
  | base => exact le_rfl
  | succ j _ ih =>
    rw [opening_succ]
    omega

/-! ### Step by step -/

/-- The cancellation falls neither before the start nor before `time`. -/
def Spared (scene : Scene α) (start time : Nat) : Prop :=
  ∀ cancel, scene.cancelAt = some cancel → start < cancel ∧ time ≤ cancel

/-- When the first looks began. -/
def openings (scene : Scene α) (policy : RetryPolicy) (start count : Nat) : List Nat :=
  (List.range count).map (scene.opening policy start)

/-- Result, time and looks of a wait that look number `last` ends, unless it is cancelled before. -/
def outcome (scene : Scene α) (policy : RetryPolicy) (start last : Nat) : Polled α × Moment :=
  let finish := scene.opening policy start last + scene.takes last
  match scene.cancelAt.filter fun cancel => cancel ≤ start ∨ cancel < finish with
  | none => (scene.verdict last, ⟨finish, scene.openings policy start (last + 1)⟩)
  | some cancel => (.cancelled, ⟨max start cancel,
      (scene.openings policy start (last + 1)).filter fun time => start < cancel ∧ time ≤ cancel⟩)

/-- Before look number `i`. -/
def Before (scene : Scene α) (policy : RetryPolicy) (start last i : Nat) (m : Moment) : Prop :=
  i ≤ last ∧ scene.Spared start (scene.opening policy start i) ∧
    m = ⟨scene.opening policy start i, scene.openings policy start i⟩

/-- The cancellation has come: before the first look, or after look number `i` began and before the next one. -/
def Cut (scene : Scene α) (policy : RetryPolicy) (start last : Nat) (m : Moment) : Prop :=
  ∃ cancel, scene.cancelAt = some cancel ∧
    ((cancel ≤ start ∧ m = ⟨start, []⟩) ∨
      ∃ i ≤ last, start < cancel ∧ scene.opening policy start i ≤ cancel ∧
        (i < last → cancel < scene.opening policy start (i + 1)) ∧
        (i = last → cancel < scene.opening policy start last + scene.takes last) ∧
        m = ⟨cancel, scene.openings policy start (i + 1)⟩)

/-- After look number `i`. -/
def After (scene : Scene α) (policy : RetryPolicy) (start last i : Nat) :
    Option (Except Failure (Probe α)) → Moment → Prop
  | none, m => scene.Cut policy start last m
  | some finding, m => finding = scene.finds i ∧ i ≤ last ∧
    scene.Spared start (scene.opening policy start i + scene.takes i) ∧
    m = ⟨scene.opening policy start i + scene.takes i, scene.openings policy start (i + 1)⟩

theorem pass_cases (finish : Nat) (m : Moment) :
    (∃ cancel, scene.cancelAt = some cancel ∧ cancel < finish ∧
      scene.pass finish m = (false, { m with now := max m.now cancel })) ∨
    (∀ cancel, scene.cancelAt = some cancel → finish ≤ cancel) ∧
      scene.pass finish m = (true, { m with now := finish }) := by
  cases hcancel : scene.cancelAt with
  | none => exact .inr ⟨by simp, by simp [pass, hcancel]⟩
  | some cancel =>
    by_cases hlt : cancel < finish
    · exact .inl ⟨cancel, rfl, hlt, by simp [pass, hcancel, Option.filter, hlt]⟩
    · refine .inr ⟨fun _ hc => ?_, by simp [pass, hcancel, Option.filter, hlt]⟩
      obtain rfl := Option.some.inj hc
      omega

theorem openings_succ (count : Nat) : scene.openings policy start (count + 1) =
    scene.openings policy start count ++ [scene.opening policy start count] := by
  simp [openings, List.range_succ]

@[simp] theorem length_openings (count : Nat) : (scene.openings policy start count).length = count := by
  simp [openings]

variable {last i : Nat} {m : Moment}

theorem handle_cancelled : if (scene.handle .cancelled ⟨start, []⟩).1
    then scene.Cut policy start last ⟨start, []⟩ else scene.Before policy start last 0 ⟨start, []⟩ := by
  have hopening : scene.opening policy start 0 = start := by simp [opening]
  by_cases hcancelled : scene.cancelAt.any (· ≤ start) = true
  · obtain ⟨cancel, hcancel, hle⟩ := (Option.any_eq_true ..).1 hcancelled
    rw [handle, if_pos hcancelled]
    exact ⟨cancel, hcancel, .inl ⟨of_decide_eq_true hle, rfl⟩⟩
  · rw [handle, if_neg hcancelled]
    refine ⟨Nat.zero_le last, fun cancel hcancel => ?_, by simp [hopening, openings]⟩
    simp only [hcancel, Option.any_some, decide_eq_true_eq] at hcancelled
    omega

theorem handle_look (h : scene.Before policy start last i m) :
    scene.After policy start last i (scene.handle .look m).1 (scene.handle .look m).2 := by
  obtain ⟨hi, hspared, rfl⟩ := h
  simp only [handle, length_openings, ← openings_succ]
  obtain ⟨cancel, hcancel, hlt, hpass⟩ | ⟨hle, hpass⟩ := scene.pass_cases
    (scene.opening policy start i + scene.takes i)
    ⟨scene.opening policy start i, scene.openings policy start (i + 1)⟩
  · obtain ⟨hstart, hopen⟩ := hspared cancel hcancel
    rw [hpass]
    refine ⟨cancel, hcancel, .inr ⟨i, hi, hstart, hopen, fun _ => ?_, fun heq => heq ▸ hlt, ?_⟩⟩
    · rw [opening_succ]
      omega
    · rw [max_eq_right hopen]
  · rw [hpass]
    exact ⟨rfl, hi, fun cancel hcancel => ⟨(hspared cancel hcancel).1, hle cancel hcancel⟩, rfl⟩

theorem handle_pause {finding : Except Failure (Probe α)} (hlt : i < last)
    (h : scene.After policy start last i (some finding) m) :
    if (scene.handle (.pause policy.maxDelay) m).1
      then scene.Before policy start last (i + 1) (scene.handle (.pause policy.maxDelay) m).2
      else scene.Cut policy start last (scene.handle (.pause policy.maxDelay) m).2 := by
  obtain ⟨-, hi, hspared, rfl⟩ := h
  simp only [handle, ← opening_succ]
  obtain ⟨cancel, hcancel, hbefore, hpass⟩ | ⟨hle, hpass⟩ := scene.pass_cases
    (scene.opening policy start (i + 1))
    ⟨scene.opening policy start i + scene.takes i, scene.openings policy start (i + 1)⟩
  · obtain ⟨hstart, hover⟩ := hspared cancel hcancel
    rw [hpass, if_neg (by simp)]
    refine ⟨cancel, hcancel, .inr ⟨i, hi, hstart, by omega, fun _ => hbefore, by omega, ?_⟩⟩
    rw [max_eq_right hover]
  · rw [hpass, if_pos rfl]
    exact ⟨hlt, fun cancel hcancel => ⟨(hspared cancel hcancel).1, hle cancel hcancel⟩, rfl⟩

/-- The answers of the clock. -/
def conduct (scene : Scene α) : Program.Conduct (pollActions α) Moment := fun action m answer m' =>
  answer = (scene.handle action m).1 ∧ m' = (scene.handle action m).2

theorem ensures_wait (hlast : scene.LastLook (policy.pauses + 1) last) :
    (policy.poll PollWorld.timer (Program.perform (S := pollActions α) PollAction.look)).Ensures
      scene.conduct Program.anyStep
      (RetryPolicy.Ended (scene.After policy start last) (scene.Cut policy start last)
        (policy.pauses + 1)) ⟨start, []⟩ := by
  refine RetryPolicy.ensures_poll_ended (scene.Before policy start last) policy rfl ?_ ?_ ?_
  · rintro _ _ ⟨rfl, rfl⟩
    exact ⟨trivial, handle_cancelled⟩
  · rintro i - m hbefore _ _ ⟨rfl, rfl⟩
    exact ⟨trivial, handle_look hbefore⟩
  rintro i hi condition m hafter _ _ ⟨rfl, rfl⟩
  refine ⟨trivial, handle_pause ?_ hafter⟩
  -- the last look either found something or was the last of all
  have hle : i ≤ last := hafter.2.1
  by_contra hnot
  obtain rfl : i = last := by omega
  have hend := hlast.2.2 ⟨condition, hafter.1.symm⟩
  omega

/-! ### The whole wait -/

/-- Of the looks up to the last one, those that begin by the time `cancel` are those up to the one that `cancel`
    falls into or behind. -/
theorem filter_openings {cancel : Nat} (hi : i ≤ last) (hstart : start < cancel)
    (hopen : scene.opening policy start i ≤ cancel)
    (hnext : i < last → cancel < scene.opening policy start (i + 1)) :
    (scene.openings policy start (last + 1)).filter (fun time => start < cancel ∧ time ≤ cancel) =
      scene.openings policy start (i + 1) := by
  obtain ⟨rest, rfl⟩ := Nat.exists_eq_add_of_le hi
  rw [openings, show i + rest + 1 = i + 1 + rest by omega, List.range_add, List.map_append,
    List.filter_append, List.filter_eq_self.2, List.filter_eq_nil_iff.2, List.append_nil, openings]
  · intro time htime
    obtain ⟨j, hj, rfl⟩ := List.mem_map.1 htime
    obtain ⟨k, hk, rfl⟩ := List.mem_map.1 hj
    have hle : scene.opening policy start (i + 1) ≤ scene.opening policy start (i + 1 + k) :=
      opening_mono (by omega)
    have hrest := List.mem_range.1 hk
    have hlt := hnext (by omega)
    simp only [decide_eq_true_eq]
    omega
  · intro time htime
    obtain ⟨j, hj, rfl⟩ := List.mem_map.1 htime
    have hle : scene.opening policy start j ≤ scene.opening policy start i :=
      opening_mono (by have := List.mem_range.1 hj; omega)
    simp only [decide_eq_true_eq]
    omega

/-- A wait that the cancellation spares ends with its last look. -/
theorem outcome_of_spared
    (h : scene.Spared start (scene.opening policy start last + scene.takes last)) :
    scene.outcome policy start last = (scene.verdict last,
      ⟨scene.opening policy start last + scene.takes last, scene.openings policy start (last + 1)⟩) := by
  have hfilter : scene.cancelAt.filter (fun cancel =>
      cancel ≤ start ∨ cancel < scene.opening policy start last + scene.takes last) = none := by
    rw [Option.filter_eq_none_iff]
    intro cancel hcancel
    obtain ⟨hstart, hfinish⟩ := h cancel hcancel
    simp only [decide_eq_true_eq]
    omega
  rw [outcome, hfilter]

theorem outcome_of_cut (h : scene.Cut policy start last m) :
    scene.outcome policy start last = (.cancelled, m) := by
  obtain ⟨cancel, hcancel, ⟨hle, rfl⟩ | ⟨i, hi, hstart, hopen, hnext, hfinish, rfl⟩⟩ := h
  · have hnot : ¬start < cancel := by omega
    simp [outcome, hcancel, Option.filter, hle, hnot]
  · have hbefore : cancel < scene.opening policy start last + scene.takes last := by
      rcases Nat.lt_or_eq_of_le hi with hlt | heq
      · have hmono : scene.opening policy start (i + 1) ≤ scene.opening policy start last :=
          opening_mono hlt
        have hlate := hnext hlt
        omega
      · exact hfinish heq
    have hfilter := filter_openings hi hstart hopen hnext
    simp only [outcome, hcancel, Option.filter, hbefore, or_true, decide_true, if_true, hfilter,
      max_eq_right hstart.le]

theorem outcome_of_ended {polled : Polled α} (hlast : scene.LastLook (policy.pauses + 1) last)
    (h : RetryPolicy.Ended (scene.After policy start last) (scene.Cut policy start last)
      (policy.pauses + 1) polled m) : scene.outcome policy start last = (polled, m) := by
  match polled, h with
  | .ready value _, ⟨i, _, rfl, hfinds, hle, hspared, hm⟩ =>
    obtain rfl : i = last := hlast.eq_of_not_unready hle (by simp [Unready, ← hfinds])
    rw [outcome_of_spared hspared, hm, verdict, ← hfinds]
  | .failed failure, ⟨i, _, hfinds, hle, hspared, hm⟩ =>
    obtain rfl : i = last := hlast.eq_of_not_unready hle (by simp [Unready, ← hfinds])
    rw [outcome_of_spared hspared, hm, verdict, ← hfinds]
  | .exhausted _ condition, ⟨i, hi, rfl, hfinds, hle, hspared, hm⟩ =>
    obtain rfl : i = last := by have := hlast.1; omega
    rw [outcome_of_spared hspared, hm, verdict, ← hfinds, hi]
  | .cancelled, .inl ⟨_, _, hcut⟩ => exact outcome_of_cut hcut
  | .cancelled, .inr hcut => exact outcome_of_cut hcut

theorem run_eq (hlast : scene.LastLook (policy.pauses + 1) last) :
    scene.run policy start = scene.outcome policy start last := by
  have hended : RetryPolicy.Ended (scene.After policy start last) (scene.Cut policy start last)
      (policy.pauses + 1) (scene.run policy start).1 (scene.run policy start).2 :=
    (ensures_wait hlast).run fun _ _ => ⟨rfl, rfl⟩
  exact (outcome_of_ended hlast hended).symm

theorem length_begun_le : (scene.run policy start).2.begun.length ≤ policy.pauses + 1 := by
  obtain ⟨last, hlast⟩ := scene.exists_lastLook (Nat.succ_pos policy.pauses)
  have hle : last + 1 ≤ policy.pauses + 1 := hlast.1
  rw [run_eq hlast, outcome]
  split
  · rwa [length_openings]
  · calc _ ≤ (scene.openings policy start (last + 1)).length := List.length_filter_le ..
      _ ≤ policy.pauses + 1 := by rwa [length_openings]

end Scene

/-- Every wait under a clock on which time passes only while a look or a pause lasts, cancelled or not.  There is
    at least one look and none more than the policy says; the wait is over with the first look that finds something
    or with the last one, `k` pauses after its start when `k` looks came before.  A cancellation by then takes
    effect at once, and no look begins after it. -/
theorem poll_under_clock {α : Type} (policy : RetryPolicy) (takes : Nat → Nat)
    (finds : Nat → Except Failure (Probe α)) (cancelAt : Option Nat) (start : Nat) :
    let looks := max 1 policy.maxAttempts.toNat
    let opening i := start + ∑ j ∈ Finset.range i, takes j + i * policy.maxDelay.nanoseconds
    let scene : Scene α := { takes, finds, lasts := Duration.nanoseconds, cancelAt }
    looks < UInt32.size ∧ (scene.run policy start).2.begun.length ≤ looks ∧ ∃ last < looks,
      (∀ i < last, ∃ condition, finds i = .ok (.pending condition)) ∧
      ((∃ condition, finds last = .ok (.pending condition)) → last + 1 = looks) ∧
      scene.run policy start =
        match cancelAt.filter fun cancel => cancel ≤ start ∨ cancel < opening last + takes last with
        | none =>
          (match finds last with
            | .ok (.ready value) => .ready value (last + 1)
            | .ok (.pending condition) => .exhausted (last + 1) condition
            | .error failure => .failed failure,
          ⟨opening last + takes last, (List.range (last + 1)).map opening⟩)
        | some cancel => (.cancelled, ⟨max start cancel,
            ((List.range (last + 1)).map opening).filter fun time => start < cancel ∧ time ≤ cancel⟩) := by
  intro looks opening scene
  have hlooks : policy.pauses + 1 = looks := by
    rw [RetryPolicy.pauses]
    omega
  have hsize : looks < UInt32.size := max_lt (by decide) policy.maxAttempts.toNat_lt_size
  obtain ⟨last, hlast⟩ := scene.exists_lastLook (Nat.succ_pos policy.pauses)
  exact ⟨hsize, hlooks ▸ Scene.length_begun_le, last, hlooks ▸ hlast.1, hlast.2.1,
    fun hpending => hlooks ▸ hlast.2.2 hpending, Scene.run_eq hlast⟩

/-! ### Scripted waits -/

namespace Simulation

variable {α : Type}

/-- Look number `i` of a script, of which the last look stays. -/
def scripted (script : List (ScriptedProbe α)) (i : Nat) : ScriptedProbe α :=
  (script.drop (min i (script.length - 1))).headD ⟨0, .ok (.pending "none")⟩

/-- What a scripted wait meets.  The clock counts milliseconds and lets nothing last longer than thirty years. -/
def scriptedScene (script : List (ScriptedProbe α)) (cancelAfter : Option Nat) : Scene α where
  takes i := min (scripted script i).delay Clock.longestWait
  finds i := (scripted script i).finding
  lasts duration := min duration.milliseconds Clock.longestWait
  cancelAt := cancelAfter.map (min · Clock.longestWait)

/-- The same time, and the script is where so many looks have brought it. -/
def SameTime (script : List (ScriptedProbe α)) (cancelAt : Option Nat) (w : PollWorld α) (m : Moment) :
    Prop :=
  w.clock = ⟨m.now, cancelAt⟩ ∧ w.script = script.drop (min m.begun.length (script.length - 1))

theorem restScript_eq {script : List (ScriptedProbe α)} {w : PollWorld α} {i : Nat}
    (h : w.script = script.drop (min i (script.length - 1))) :
    w.restScript = script.drop (min (i + 1) (script.length - 1)) := by
  by_cases hi : i + 1 < script.length
  · rw [min_eq_left (by omega), List.drop_eq_getElem_cons (show i < script.length by omega),
      List.drop_eq_getElem_cons hi] at h
    rw [min_eq_left (by omega), List.drop_eq_getElem_cons hi, PollWorld.restScript, h]
  · -- at most one look is left, and it stays
    have hshort : w.script.length ≤ 1 := by
      rw [h, List.length_drop]
      omega
    have hstays : w.restScript = w.script := by
      unfold PollWorld.restScript
      match w.script, hshort with
      | [], _ => rfl
      | [_], _ => rfl
    rw [hstays, h, show min i (script.length - 1) = min (i + 1) (script.length - 1) by omega]

theorem wait_eq {scene : Scene α} {clock : Clock} {m : Moment} (h : clock = ⟨m.now, scene.cancelAt⟩)
    (milliseconds : Nat) :
    clock.wait milliseconds =
      ((scene.pass (m.now + min milliseconds Clock.longestWait) m).1,
        ⟨(scene.pass (m.now + min milliseconds Clock.longestWait) m).2.now, scene.cancelAt⟩) := by
  subst h
  obtain ⟨cancel, hcancel, hlt, hpass⟩ | ⟨hle, hpass⟩ :=
    scene.pass_cases (m.now + min milliseconds Clock.longestWait) m
  · rw [hpass]
    simp only [Clock.wait, hcancel]
    exact if_pos hlt
  · rw [hpass]
    cases hcancel : scene.cancelAt with
    | none => rfl
    | some cancel =>
      simp only [Clock.wait]
      exact if_neg (not_lt.2 (hle cancel hcancel))

theorem pass_begun (scene : Scene α) (finish : Nat) (m : Moment) :
    (scene.pass finish m).2.begun = m.begun := by
  obtain ⟨_, _, _, hpass⟩ | ⟨_, hpass⟩ := scene.pass_cases finish m <;> rw [hpass]

theorem handle_sameTime (script : List (ScriptedProbe α)) (cancelAfter : Option Nat)
    (action : PollAction) {w : PollWorld α} {m : Moment}
    (h : SameTime script (scriptedScene script cancelAfter).cancelAt w m) :
    (PollWorld.handle action w).1 = ((scriptedScene script cancelAfter).handle action m).1 ∧
      SameTime script (scriptedScene script cancelAfter).cancelAt (PollWorld.handle action w).2
        ((scriptedScene script cancelAfter).handle action m).2 := by
  obtain ⟨hclock, hscript⟩ := h
  have hrest := restScript_eq hscript
  have hnext : w.next = scripted script m.begun.length := by rw [PollWorld.next, hscript, scripted]
  cases action with
  | cancelled =>
    refine ⟨?_, hclock, hscript⟩
    simp only [PollWorld.handle, Clock.isCancelled, hclock, Scene.handle]
  | pause duration =>
    have hwait := wait_eq hclock duration.milliseconds
    simp only [PollWorld.handle, hwait, Scene.handle]
    exact ⟨rfl, rfl, by rw [pass_begun]; exact hscript⟩
  | look =>
    have htakes : min w.next.delay Clock.longestWait =
        (scriptedScene script cancelAfter).takes m.begun.length := by rw [hnext]; rfl
    have hfinds : w.next.finding = (scriptedScene script cancelAfter).finds m.begun.length := by
      rw [hnext]; rfl
    -- the look is noted before time passes
    have hwait := wait_eq (m := { m with begun := m.begun ++ [m.now] }) hclock w.next.delay
    simp only [htakes] at hwait
    simp only [PollWorld.handle, hwait, hfinds, Scene.handle]
    split
    · exact ⟨rfl, rfl, by rw [pass_begun, List.length_append]; exact hrest⟩
    · exact ⟨rfl, rfl, by rw [pass_begun, List.length_append]; exact hrest⟩

/-- Scripted waits are waits under a clock: the same result after the same time. -/
theorem pollScript_eq (policy : RetryPolicy) (script : List (ScriptedProbe α)) (cancelAfter : Option Nat) :
    (pollScript policy script cancelAfter).1 = ((scriptedScene script cancelAfter).run policy 0).1 ∧
      (pollScript policy script cancelAfter).2.clock.now =
        ((scriptedScene script cancelAfter).run policy 0).2.now := by
  have hstart : SameTime script (scriptedScene script cancelAfter).cancelAt
      { clock := (⟨0, none⟩ : Clock).cancelAfter cancelAfter, script, finished := 0 } ⟨0, []⟩ := by
    refine ⟨congrArg (Clock.mk 0) ?_, by simp⟩
    exact congrArg (cancelAfter.map ·) (funext fun _ => Nat.zero_add _)
  have hended := Program.run_related (SameTime script (scriptedScene script cancelAfter).cancelAt)
    (fun action _ _ h => handle_sameTime script cancelAfter action h)
    (policy.poll PollWorld.timer (Program.perform (S := pollActions α) PollAction.look)) hstart
  exact ⟨hended.1, congrArg Clock.now hended.2.1⟩

end Simulation

end TenantStorage
