import Mathlib.Logic.Function.Basic
import TenantStorage.Proofs.Program

namespace TenantStorage

/-!
# Programs that take turns

Several programs share one state, and a schedule says which of them takes the next step.  What a program is
told depends on the others, so that all that can be said of it alone is said of its history, whatever the
answers were.

* `Program.Reply` — an operation with its answer; a history is a list of them, the newest first.
* `Program.recorded` — surroundings that answer anything and keep the history.
* `Program.Disciplined` — a property that the histories of a program have at all times.
* `Pool` — the programs, the shared state, and the log of all steps.
* `Pool.history_of_disciplined` — in a pool, too, each program has its histories.
* `Pool.lastOf` — the last step of a kind, with the program that took it.
* `Pool.run_invariant`, `Pool.run_inOrder` — what every step keeps.
* `Pool.Abreast`, `Pool.alone_of_run` — programs that do not notice each other, each as if it were alone.
-/

namespace Program

variable {S : Signature} {α : Type}

/-- An operation with its answer. -/
structure Reply (S : Signature) where
  op : S.Op
  answer : S.Answer op

/-- Surroundings that answer anything and keep the history. -/
def recorded : Conduct S (List (Reply S)) := fun op history answer history' =>
  history' = ⟨op, answer⟩ :: history

/-- Whether a program has come to its end. -/
def isDone : Program S α → Bool
  | done _ => true
  | ask _ _ => false

/-- From a history on, a program has only histories with a property, whatever the answers are. -/
def Disciplined (p : Program S α) (property : List (Reply S) → Prop) (history : List (Reply S)) : Prop :=
  p.Ensures recorded (fun _ _ _ history' => property history') (fun _ _ => True) history

end Program

/-- Programs that share a state. -/
structure Pool (ι : Type) (S : Signature) (α σ : Type) where
  programs : ι → Program S α
  state : σ
  /-- All steps so far with the programs that took them, the newest first. -/
  log : List (ι × Program.Reply S)

namespace Pool

variable {ι : Type} {S : Signature} {α β σ : Type}

/-! ### Logs -/

section Log

variable {f : Program.Reply S → Option β} {log : List (ι × Program.Reply S)}
  {reply : Program.Reply S}

/-- The last step of which something is to be told, with the program that took it. -/
def lastOf (f : Program.Reply S → Option β) (log : List (ι × Program.Reply S)) : Option (ι × β) :=
  log.findSome? fun entry => (f entry.2).map (entry.1, ·)

theorem lastOf_cons_of_some {b : β} (h : f reply = some b) (i : ι)
    (log : List (ι × Program.Reply S)) : lastOf f ((i, reply) :: log) = some (i, b) := by
  simp [lastOf, h]

theorem lastOf_cons_of_none (h : f reply = none) (i : ι) (log : List (ι × Program.Reply S)) :
    lastOf f ((i, reply) :: log) = lastOf f log := by
  simp [lastOf, h]

variable [DecidableEq ι]

/-- The steps of one program, the newest first. -/
def historyOf (i : ι) (log : List (ι × Program.Reply S)) : List (Program.Reply S) :=
  (log.filter (·.1 = i)).map (·.2)

theorem historyOf_cons_self (i : ι) (reply : Program.Reply S) (log : List (ι × Program.Reply S)) :
    historyOf i ((i, reply) :: log) = reply :: historyOf i log := by
  simp [historyOf]

theorem historyOf_cons_of_ne {i j : ι} (h : j ≠ i) (reply : Program.Reply S)
    (log : List (ι × Program.Reply S)) : historyOf i ((j, reply) :: log) = historyOf i log := by
  simp [historyOf, h]

/-- The last step of all programs is the last of the program that took it. -/
theorem findSome?_historyOf {i : ι} {b : β} (h : lastOf f log = some (i, b)) :
    (historyOf i log).findSome? f = some b := by
  induction log with
  | nil => cases h
  | cons entry rest ih =>
    obtain ⟨j, reply⟩ := entry
    cases hreply : f reply with
    | some found =>
      cases (lastOf_cons_of_some hreply j rest).symm.trans h
      rw [historyOf_cons_self, List.findSome?_cons, hreply]
    | none =>
      rw [lastOf_cons_of_none hreply] at h
      -- a step of another program leaves the history as it is
      by_cases hj : j = i
      · subst hj
        rw [historyOf_cons_self, List.findSome?_cons, hreply]
        exact ih h
      · rw [historyOf_cons_of_ne hj]
        exact ih h

/-- If a program took such a step, some program took the last one. -/
theorem lastOf_isSome {i : ι} {b : β} (h : (historyOf i log).findSome? f = some b) :
    (lastOf f log).isSome = true := by
  obtain ⟨reply, hmem, hreply⟩ := List.exists_of_findSome?_eq_some h
  obtain ⟨entry, hentry, rfl⟩ := List.mem_map.1 hmem
  rw [lastOf, List.findSome?_isSome_iff]
  exact ⟨entry, (List.mem_filter.1 hentry).1, by simp [hreply]⟩

end Log

/-! ### Steps -/

variable [DecidableEq ι] (handle : ι → (op : S.Op) → σ → S.Answer op × σ)

/-- One step of the program at `i`.  A program that is done takes none. -/
def step (pool : Pool ι S α σ) (i : ι) : Pool ι S α σ :=
  match pool.programs i with
  | .done _ => pool
  | .ask op resume =>
    let (answer, state) := handle i op pool.state
    { programs := Function.update pool.programs i (resume answer)
      state
      log := (i, ⟨op, answer⟩) :: pool.log }

/-- The steps of a schedule. -/
def run (schedule : List ι) (pool : Pool ι S α σ) : Pool ι S α σ := schedule.foldl (step handle) pool

theorem step_of_done {pool : Pool ι S α σ} {i : ι} {value : α} (h : pool.programs i = .done value) :
    pool.step handle i = pool := by
  unfold step
  rw [h]

theorem step_of_ask {pool : Pool ι S α σ} {i : ι} {op : S.Op} {resume : S.Answer op → Program S α}
    (h : pool.programs i = .ask op resume) :
    pool.step handle i =
      { programs := Function.update pool.programs i (resume (handle i op pool.state).1)
        state := (handle i op pool.state).2
        log := (i, ⟨op, (handle i op pool.state).1⟩) :: pool.log } := by
  unfold step
  rw [h]

/-- A step either is none or is the next operation of its program. -/
theorem step_cases (pool : Pool ι S α σ) (i : ι) :
    pool.step handle i = pool ∨ ∃ op resume, pool.programs i = .ask op resume ∧
      pool.step handle i =
        { programs := Function.update pool.programs i (resume (handle i op pool.state).1)
          state := (handle i op pool.state).2
          log := (i, ⟨op, (handle i op pool.state).1⟩) :: pool.log } := by
  cases hprogram : pool.programs i with
  | done value => exact .inl (step_of_done handle hprogram)
  | ask op resume => exact .inr ⟨op, resume, rfl, step_of_ask handle hprogram⟩

variable {handle}

/-- What every step keeps is kept by a schedule. -/
theorem run_invariant (invariant : Pool ι S α σ → Prop)
    (hstep : ∀ pool i, invariant pool → invariant (pool.step handle i)) (schedule : List ι)
    {pool : Pool ι S α σ} (h : invariant pool) : invariant (pool.run handle schedule) := by
  induction schedule generalizing pool with
  | nil => exact h
  | cons i rest ih => exact ih (hstep pool i h)

/-- Every program has a history with its property, and goes on from it with such histories. -/
def InOrder (property : ι → List (Program.Reply S) → Prop) (pool : Pool ι S α σ) : Prop :=
  ∀ i, property i (historyOf i pool.log) ∧
    (pool.programs i).Disciplined (property i) (historyOf i pool.log)

variable {property : ι → List (Program.Reply S) → Prop}

theorem InOrder.step {pool : Pool ι S α σ} (h : pool.InOrder property) (i : ι) :
    (pool.step handle i).InOrder property := by
  rcases step_cases handle pool i with hstep | ⟨op, resume, hprogram, hstep⟩
  · rw [hstep]
    exact h
  · rw [hstep]
    intro j
    -- the program that took the step has a longer history, the others have not noticed it
    by_cases hj : j = i
    · subst hj
      have hdisciplined := (h j).2
      rw [hprogram] at hdisciplined
      obtain ⟨hproperty, hrest⟩ := hdisciplined (handle j op pool.state).1 _ rfl
      simp only [historyOf_cons_self, Function.update_self]
      exact ⟨hproperty, hrest⟩
    · simp only [historyOf_cons_of_ne (Ne.symm hj), Function.update_of_ne hj]
      exact h j

/-- What a program in its order asks next is something that its history may be followed by. -/
theorem InOrder.next {pool : Pool ι S α σ} (h : pool.InOrder property) {i : ι} {op : S.Op}
    {resume : S.Answer op → Program S α} (hprogram : pool.programs i = .ask op resume)
    (answer : S.Answer op) : property i (⟨op, answer⟩ :: historyOf i pool.log) := by
  have hdisciplined := (h i).2
  rw [hprogram] at hdisciplined
  exact (hdisciplined answer _ rfl).1

/-- What every operation keeps that its program may ask is kept by a schedule. -/
theorem run_inOrder (keeps : σ → List (ι × Program.Reply S) → Prop)
    (hstep : ∀ i op s log, (∀ answer, property i (⟨op, answer⟩ :: historyOf i log)) → keeps s log →
      keeps (handle i op s).2 ((i, ⟨op, (handle i op s).1⟩) :: log))
    (schedule : List ι) {pool : Pool ι S α σ} (horder : pool.InOrder property)
    (h : keeps pool.state pool.log) :
    (pool.run handle schedule).InOrder property ∧
      keeps (pool.run handle schedule).state (pool.run handle schedule).log := by
  refine run_invariant (fun pool => pool.InOrder property ∧ keeps pool.state pool.log) ?_ schedule
    ⟨horder, h⟩
  rintro pool i ⟨horder, h⟩
  refine ⟨horder.step i, ?_⟩
  rcases step_cases handle pool i with hstay | ⟨op, resume, hprogram, hmove⟩
  · rw [hstay]
    exact h
  · rw [hmove]
    exact hstep i op pool.state pool.log (horder.next hprogram) h

/-- In a pool, too, the programs have only the histories that each has alone. -/
theorem history_of_disciplined (property : ι → List (Program.Reply S) → Prop) (schedule : List ι)
    {pool : Pool ι S α σ} (h : pool.InOrder property) (i : ι) :
    property i (historyOf i (pool.run handle schedule).log) :=
  (run_invariant (InOrder property) (fun _ i h => h.step i) schedule h i).1

/-! ### Programs that keep apart -/

section Apart

variable {τ : Type}

/-- A program that is now as far as it would be alone, from a start on, after so many steps.  Here `asked` is what
    it may ask for, and `alike` relates the shared state to the one that it would have alone. -/
structure Abreast (alone : (op : S.Op) → τ → S.Answer op × τ) (asked : S.Op → Prop) (alike : σ → τ → Prop)
    (p : Program S α) (start : τ) (steps : Nat) (now : Program S α) (s : σ) (t : τ) : Prop where
  alike : alike s t
  asks : now.Ensures (fun op t answer t' => (answer, t') = alone op t) (fun op _ _ _ => asked op)
    (fun _ _ => True) t
  result : now.run alone t = p.run alone start
  left : now.moves alone t = (p.moves alone start).drop steps

variable {alone : (op : S.Op) → τ → S.Answer op × τ} {asked : S.Op → Prop} {alike : σ → τ → Prop}
  {p now : Program S α} {start t : τ} {steps : Nat} {s s' : σ}

/-- The next step is the one that the program would take alone. -/
theorem Abreast.next {op : S.Op} {resume : S.Answer op → Program S α}
    (h : Abreast alone asked alike p start steps (.ask op resume) s t) (halike : alike s' (alone op t).2) :
    Abreast alone asked alike p start (steps + 1) (resume (alone op t).1) s' (alone op t).2 where
  alike := halike
  asks := (h.asks _ _ rfl).2
  result := h.result
  left := by
    rw [← List.tail_drop, ← h.left]
    rfl

/-- A program that is done takes no step, and would take none alone. -/
theorem Abreast.idle {value : α} (h : Abreast alone asked alike p start steps (.done value) s t) :
    Abreast alone asked alike p start (steps + 1) (.done value) s t where
  alike := h.alike
  asks := h.asks
  result := h.result
  left := by
    rw [← List.tail_drop, ← h.left]
    rfl

/-- A program is done when it has taken the steps that it takes alone. -/
theorem Abreast.isDone_iff (h : Abreast alone asked alike p start steps now s t) :
    now.isDone = true ↔ (p.moves alone start).length ≤ steps := by
  rw [← List.drop_eq_nil_iff, ← h.left]
  cases now with
  | done value => simp [Program.isDone, Program.moves]
  | ask op resume => simp [Program.isDone, Program.moves]

/-- A program that is done has the value that it has alone, in a state that is alike. -/
theorem Abreast.done (h : Abreast alone asked alike p start steps now s t) (hdone : now.isDone = true) :
    now = .done (p.run alone start).1 ∧ alike s (p.run alone start).2 := by
  cases now with
  | done value =>
    rw [← h.result]
    exact ⟨rfl, h.alike⟩
  | ask op resume => cases hdone

variable {alone : ι → (op : S.Op) → τ → S.Answer op × τ} {asked : ι → S.Op → Prop}
  {alike : ι → σ → τ → Prop}

/-- Where no program notices the others, each of them is always as far as it would be alone. -/
theorem run_apart
    (hown : ∀ i op s t, asked i op → alike i s t →
      (handle i op s).1 = (alone i op t).1 ∧ alike i (handle i op s).2 (alone i op t).2)
    (hothers : ∀ i j op s t, i ≠ j → asked j op → alike i s t → alike i (handle j op s).2 t)
    {p : ι → Program S α} {start : τ} (schedule : List ι) {steps : ι → Nat} {pool : Pool ι S α σ}
    (h : ∀ i, ∃ t, Abreast (alone i) (asked i) (alike i) (p i) start (steps i) (pool.programs i) pool.state t)
    (i : ι) :
    ∃ t, Abreast (alone i) (asked i) (alike i) (p i) start (steps i + schedule.count i)
      ((pool.run handle schedule).programs i) (pool.run handle schedule).state t := by
  -- by induction on the schedule, for any number of steps that were taken before
  induction schedule generalizing steps pool with
  | nil => exact h i
  | cons j rest ih =>
    have hcount : steps i + (j :: rest).count i =
        Function.update steps j (steps j + 1) i + rest.count i := by
      by_cases hi : i = j
      · subst hi
        rw [List.count_cons_self, Function.update_self]
        omega
      · rw [List.count_cons_of_ne (Ne.symm hi), Function.update_of_ne hi]
    rw [hcount]
    refine ih fun k => ?_
    obtain ⟨t, hk⟩ := h k
    cases hprogram : pool.programs j with
    | done value =>
      rw [step_of_done handle hprogram]
      by_cases hkj : k = j
      · subst hkj
        rw [hprogram] at hk ⊢
        rw [Function.update_self]
        exact ⟨t, hk.idle⟩
      · rw [Function.update_of_ne hkj]
        exact ⟨t, hk⟩
    | ask op resume =>
      rw [step_of_ask handle hprogram]
      obtain ⟨u, hj⟩ := h j
      rw [hprogram] at hj
      have hasked : asked j op := (hj.asks _ _ rfl).1
      by_cases hkj : k = j
      · subst hkj
        obtain ⟨hanswer, halike⟩ := hown k op pool.state u hasked hj.alike
        simp only [Function.update_self, hanswer]
        exact ⟨_, hj.next halike⟩
      · simp only [Function.update_of_ne hkj]
        exact ⟨t, { hk with alike := hothers k j op pool.state t hkj hasked hk.alike }⟩

/-- Where no program notices the others, each of them comes to its end with the steps that it takes alone, has
    the value that it has alone, and leaves a state that is alike. -/
theorem alone_of_run
    (hown : ∀ i op s t, asked i op → alike i s t →
      (handle i op s).1 = (alone i op t).1 ∧ alike i (handle i op s).2 (alone i op t).2)
    (hothers : ∀ i j op s t, i ≠ j → asked j op → alike i s t → alike i (handle j op s).2 t)
    {pool : Pool ι S α σ} {start : τ} (halike : ∀ i, alike i pool.state start)
    (hasks : ∀ i, (pool.programs i).Ensures (fun op t answer t' => (answer, t') = alone i op t)
      (fun op _ _ _ => asked i op) (fun _ _ => True) start) (schedule : List ι) (i : ι) :
    (((pool.run handle schedule).programs i).isDone = true ↔
        ((pool.programs i).moves (alone i) start).length ≤ schedule.count i) ∧
      (((pool.run handle schedule).programs i).isDone = true →
        (pool.run handle schedule).programs i = .done ((pool.programs i).run (alone i) start).1 ∧
          alike i (pool.run handle schedule).state ((pool.programs i).run (alone i) start).2) := by
  have hstart (i : ι) : ∃ t, Abreast (alone i) (asked i) (alike i) (pool.programs i) start 0
      (pool.programs i) pool.state t :=
    ⟨start, {
      alike := halike i
      asks := hasks i
      result := rfl
      left := rfl }⟩
  obtain ⟨t, habreast⟩ := run_apart hown hothers schedule hstart i
  rw [Nat.zero_add] at habreast
  exact ⟨habreast.isDone_iff, habreast.done⟩

end Apart

end Pool

end TenantStorage
