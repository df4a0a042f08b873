import TenantStorage.Proofs.Program
import TenantStorage.Readiness

namespace TenantStorage.RetryPolicy

/-!
# What a wait ensures

A wait is a number of looks with pauses between them.  It is described by what holds before each look and
after it, by its number, and by what holds when a pause was cut short.

* `Ended` — how a wait may end; `ensures_lookAgain` — by induction on the pauses that are left.
* `ensures_poll_ended` — the whole wait, look by look.
* `ensures_poll` — when only the number of looks that found nothing ready matters; `ensures_poll_found` — when
  only what is found matters.
* `ofSettings_pauses` — validated settings allow as many looks as they say.
-/

variable {S : Signature} {α σ : Type} {conduct guarantee : Program.Conduct S σ}
  {pause : Program S Bool} {look : Look S α} {timer : Timer S}

/-! ### Look by look -/

/-- How a wait of so many looks ends, when `looked n` is what holds after the look that `n` others came before,
    and `cut` what holds when the cancellation fell into a pause or was there before any look. -/
def Ended (looked : Nat → Option (Except Failure (Probe α)) → σ → Prop) (cut : σ → Prop) (looks : Nat) :
    Polled α → σ → Prop
  | .ready value attempts, s =>
    ∃ n < looks, attempts = n + 1 ∧ looked n (some (.ok (.ready value))) s
  | .exhausted attempts condition, s =>
    ∃ n, n + 1 = looks ∧ attempts = looks ∧ looked n (some (.ok (.pending condition))) s
  | .failed failure, s => ∃ n < looks, looked n (some (.error failure)) s
  | .cancelled, s => (∃ n < looks, looked n none s) ∨ cut s

section Ended

variable {waiting : Nat → σ → Prop} {looked : Nat → Option (Except Failure (Probe α)) → σ → Prop}
  {cut : σ → Prop} {looks : Nat}

theorem ensures_lookAgain
    (hlook : ∀ n < looks, ∀ s, waiting n s → look.Ensures conduct guarantee (looked n) s)
    (hpause : ∀ n, n + 1 < looks → ∀ condition s, looked n (some (.ok (.pending condition))) s →
      pause.Ensures conduct guarantee (fun going s => if going then waiting (n + 1) s else cut s) s)
    (pauses : Nat) {attempts : Nat} {s : σ} (hlooks : attempts + pauses + 1 = looks)
    (h : waiting attempts s) :
    (lookAgain pause look pauses attempts).Ensures conduct guarantee (Ended looked cut looks) s := by
  -- by induction on the pauses that are left; `attempts` grows as they get fewer
  induction pauses generalizing attempts s with
  | zero =>
    unfold lookAgain
    rw [Program.ensures_bind]
    refine (hlook attempts (by omega) s h).imp fun seen s' hlooked => ?_
    match seen with
    | none => exact Or.inl ⟨attempts, by omega, hlooked⟩
    | some (.error _) => exact ⟨attempts, by omega, hlooked⟩
    | some (.ok (.ready _)) => exact ⟨attempts, by omega, rfl, hlooked⟩
    | some (.ok (.pending _)) => exact ⟨attempts, hlooks, hlooks, hlooked⟩
  | succ pauses ih =>
    unfold lookAgain
    rw [Program.ensures_bind]
    refine (hlook attempts (by omega) s h).imp fun seen s' hlooked => ?_
    match seen with
    | none => exact Or.inl ⟨attempts, by omega, hlooked⟩
    | some (.error _) => exact ⟨attempts, by omega, hlooked⟩
    | some (.ok (.ready _)) => exact ⟨attempts, by omega, rfl, hlooked⟩
    | some (.ok (.pending condition)) =>
      simp only [Program.ensures_bind]
      refine (hpause attempts (by omega) condition s' hlooked).imp fun going s'' hpaused => ?_
      cases going with
      | true => exact ih (by omega) hpaused
      | false => exact Or.inr hpaused

variable (waiting) in
theorem ensures_poll_ended (policy : RetryPolicy) (hlooks : policy.pauses + 1 = looks) {s : σ}
    (hcancelled : timer.cancelled.Ensures conduct guarantee
      (fun cancelled s => if cancelled then cut s else waiting 0 s) s)
    (hlook : ∀ n < looks, ∀ s, waiting n s → look.Ensures conduct guarantee (looked n) s)
    (hpause : ∀ n, n + 1 < looks → ∀ condition s, looked n (some (.ok (.pending condition))) s →
      (timer.pause policy.maxDelay).Ensures conduct guarantee
        (fun going s => if going then waiting (n + 1) s else cut s) s) :
    (policy.poll timer look).Ensures conduct guarantee (Ended looked cut looks) s := by
  rw [poll, Program.ensures_bind]
  refine hcancelled.imp fun cancelled s' hstart => ?_
  cases cancelled with
  | true => exact Or.inr hstart
  | false => exact ensures_lookAgain hlook hpause policy.pauses (by omega) hstart

end Ended

/-! ### By the number of looks -/

variable {waiting : Nat → σ → Prop} {found : α → σ → Prop} {gaveUp : σ → Prop}

/-- What a wait comes to, when `looks` is the number of looks that it may take. -/
def Waited (waiting : Nat → σ → Prop) (found : α → σ → Prop) (gaveUp : σ → Prop) (looks : Nat) :
    Polled α → σ → Prop
  | .ready value _, s => found value s
  | .exhausted attempts _, s => attempts = looks ∧ waiting looks s
  | .failed _, s | .cancelled, s => gaveUp s

/-- What one look comes to, after `n` looks that found nothing ready. -/
def Looked (waiting : Nat → σ → Prop) (found : α → σ → Prop) (gaveUp : σ → Prop) (n : Nat) :
    Option (Except Failure (Probe α)) → σ → Prop
  | some (.ok (.ready value)), s => found value s
  | some (.ok (.pending _)), s => waiting (n + 1) s
  | some (.error _), s | none, s => gaveUp s

theorem Ended.waited {looks : Nat} {polled : Polled α} {s : σ}
    (h : Ended (Looked waiting found gaveUp) gaveUp looks polled s) :
    Waited waiting found gaveUp looks polled s := by
  match polled, h with
  | .ready _ _, ⟨_, _, _, hfound⟩ => exact hfound
  | .exhausted _ _, ⟨_, hlooks, hattempts, hwaiting⟩ => exact ⟨hattempts, hlooks ▸ hwaiting⟩
  | .failed _, ⟨_, _, hgaveUp⟩ => exact hgaveUp
  | .cancelled, .inl ⟨_, _, hgaveUp⟩ => exact hgaveUp
  | .cancelled, .inr hgaveUp => exact hgaveUp

theorem ensures_poll (policy : RetryPolicy)
    (hcancelled : ∀ s, waiting 0 s → timer.cancelled.Ensures conduct guarantee
      (fun cancelled s => if cancelled then gaveUp s else waiting 0 s) s)
    (hlook : ∀ n s, waiting n s → look.Ensures conduct guarantee (Looked waiting found gaveUp n) s)
    (hpause : ∀ n s, waiting n s → (timer.pause policy.maxDelay).Ensures conduct guarantee
      (fun going s => if going then waiting n s else gaveUp s) s)
    {s : σ} (h : waiting 0 s) :
    (policy.poll timer look).Ensures conduct guarantee
      (Waited waiting found gaveUp (policy.pauses + 1)) s := by
  have hended : (policy.poll timer look).Ensures conduct guarantee
      (Ended (Looked waiting found gaveUp) gaveUp (policy.pauses + 1)) s :=
    ensures_poll_ended waiting policy rfl (hcancelled s h) (fun n _ => hlook n)
      fun n _ _ s' hpending => hpause (n + 1) s' hpending
  exact hended.imp fun _ _ => Ended.waited

/-- What a look ensures of something that it finds ready is ensured by the whole wait. -/
theorem ensures_poll_found (policy : RetryPolicy)
    (hcancelled : ∀ s, timer.cancelled.Ensures conduct guarantee (fun _ _ => True) s)
    (hlook : ∀ s, look.Ensures conduct guarantee
      (fun seen s => ∀ value, seen = some (.ok (.ready value)) → found value s) s)
    (hpause : ∀ s, (timer.pause policy.maxDelay).Ensures conduct guarantee (fun _ _ => True) s) (s : σ) :
    (policy.poll timer look).Ensures conduct guarantee
      (fun polled s => ∀ value attempts, polled = .ready value attempts → found value s) s := by
  have hwait : (policy.poll timer look).Ensures conduct guarantee
      (Waited (fun _ _ => True) found (fun _ => True) (policy.pauses + 1)) s := by
    refine ensures_poll policy ?_ ?_ ?_ trivial
    · intro s _
      exact (hcancelled s).imp fun _ _ _ => by split <;> trivial
    · intro n s _
      refine (hlook s).imp fun seen s hseen => ?_
      match seen with
      | none | some (.error _) | some (.ok (.pending _)) => trivial
      | some (.ok (.ready value)) => exact hseen value rfl
    · intro _ s _
      exact (hpause s).imp fun _ _ _ => by split <;> trivial
  refine hwait.imp fun polled s hwaited => ?_
  rintro value attempts rfl
  exact hwaited

theorem pauses_ofSettings (readiness : Settings.Readiness) :
    (ofSettings readiness).pauses = readiness.maxAttempts.toNat - 1 := by
  rw [ofSettings, new, pauses]
  -- a zero is raised to one, which leaves no pause either
  split
  · simp [*]
  · rfl

/-- Validated settings allow as many looks as they say. -/
theorem ofSettings_pauses {readiness : Settings.Readiness} (h : readiness.validate = .ok ()) :
    (ofSettings readiness).pauses + 1 = readiness.maxAttempts.toNat := by
  have hpositive : readiness.maxAttempts ≠ 0 := by
    intro hzero
    rw [Settings.Readiness.validate, if_pos hzero] at h
    cases h
  have hnat : readiness.maxAttempts.toNat ≠ 0 := fun hzero => hpositive (UInt32.toNat_inj.1 hzero)
  rw [pauses_ofSettings]
  omega

/-- Validated settings of the engine have validated settings for waits. -/
theorem readiness_of_validate {engine : Settings.Engine} (h : engine.validate = .ok ()) :
    engine.readiness.validate = .ok () := by
  rw [Settings.Engine.validate] at h
  split at h
  · cases h
  · split at h
    · cases h
    · simp only [Except.bind, bind] at h
      split at h
      · cases h
      · exact h

end TenantStorage.RetryPolicy
