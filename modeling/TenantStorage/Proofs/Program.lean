import TenantStorage.Action

namespace TenantStorage

/-!
# What programs do step by step

A program is judged against a relation that says which answers the surroundings may give to an operation in
a state, and which states may follow.  `Program.Ensures` is the weakest condition on a state under which
every step that a program can take, and every end that it can come to, is as promised.

* `Program.Conduct` — such relations; also what is promised of a step.
* `Program.Ensures` — the weakest condition; `ensures_bind` and `Ensures.attempt` are its rules for sequences.
* `Program.Move`, `Program.moves` — the steps of one run under a handler.
* `Ensures.run`, `Ensures.moves` — a run under a handler that keeps to the relation is as promised.
* `run_related` — runs under two handlers that answer alike.
* `Ensures.of_step` — what every step keeps is kept by every program.
* `Program.logged` — surroundings with a log; `Ensures.logged` and `Ensures.run_logged` — what it is good for.
-/

namespace Program

variable {S : Signature} {α β σ : Type}

/-- What a step may be: the operation, the state before it, the answer, and the state after it. -/
abbrev Conduct (S : Signature) (σ : Type) := (op : S.Op) → σ → S.Answer op → σ → Prop

/-- Under surroundings that answer as `conduct` allows, every step is within `guarantee`, and the program ends
    with a value and a state that satisfy `post`. -/
def Ensures (conduct guarantee : Conduct S σ) (post : α → σ → Prop) : Program S α → σ → Prop
  | done value, s => post value s
  | ask op resume, s => ∀ answer s', conduct op s answer s' →
      guarantee op s answer s' ∧ (resume answer).Ensures conduct guarantee post s'

/-- The promise that holds of every step. -/
def anyStep : Conduct S σ := fun _ _ _ _ => True

variable {conduct guarantee guarantee' : Conduct S σ} {post post' : α → σ → Prop}

/-! ### Rules -/

@[simp] theorem ensures_done (value : α) (s : σ) :
    (done value : Program S α).Ensures conduct guarantee post s ↔ post value s := Iff.rfl

theorem ensures_ask (op : S.Op) (resume : S.Answer op → Program S α) (s : σ) :
    (ask op resume).Ensures conduct guarantee post s ↔ ∀ answer s', conduct op s answer s' →
      guarantee op s answer s' ∧ (resume answer).Ensures conduct guarantee post s' := Iff.rfl

theorem ensures_bind (p : Program S α) (next : α → Program S β) {post : β → σ → Prop} (s : σ) :
    (p >>= next).Ensures conduct guarantee post s ↔
      p.Ensures conduct guarantee (fun value => (next value).Ensures conduct guarantee post) s := by
  -- by induction on the tree: both sides ask the same operation, or are at the same leaf
  induction p generalizing s with
  | done => rfl
  | ask op resume ih =>
    rw [ensures_ask, bind_eq, bind_ask, ensures_ask]
    simp only [← bind_eq, ih]

/-- A promise may be weakened. -/
theorem Ensures.mono {p : Program S α} {s : σ} (h : p.Ensures conduct guarantee post s)
    (hstep : ∀ op s answer s', guarantee op s answer s' → guarantee' op s answer s')
    (hpost : ∀ value s, post value s → post' value s) : p.Ensures conduct guarantee' post' s := by
  induction p generalizing s with
  | done value => exact hpost value s h
  | ask op resume ih =>
    intro answer s' hconduct
    obtain ⟨hmove, hrest⟩ := h answer s' hconduct
    exact ⟨hstep op s answer s' hmove, ih answer hrest⟩

/-- The surroundings may be restricted. -/
theorem Ensures.restrict {p : Program S α} {s : σ} (h : p.Ensures conduct guarantee post s)
    {conduct' : Conduct S σ}
    (hconduct : ∀ op s answer s', conduct' op s answer s' → conduct op s answer s') :
    p.Ensures conduct' guarantee post s := by
  induction p generalizing s with
  | done => exact h
  | ask op resume ih =>
    intro answer s' hmove
    obtain ⟨hpromise, hrest⟩ := h answer s' (hconduct op s answer s' hmove)
    exact ⟨hpromise, ih answer hrest⟩

/-- What is promised at the end may be weakened. -/
theorem Ensures.imp {p : Program S α} {s : σ} (h : p.Ensures conduct guarantee post s)
    (hpost : ∀ value s, post value s → post' value s) : p.Ensures conduct guarantee post' s :=
  h.mono (fun _ _ _ _ => id) hpost

/-- Two promises may be made at once. -/
theorem Ensures.and {p : Program S α} {s : σ} (h : p.Ensures conduct guarantee post s)
    (h' : p.Ensures conduct guarantee' post' s) :
    p.Ensures conduct (fun op s answer s' => guarantee op s answer s' ∧ guarantee' op s answer s')
      (fun value s => post value s ∧ post' value s) s := by
  induction p generalizing s with
  | done => exact ⟨h, h'⟩
  | ask op resume ih =>
    intro answer s' hconduct
    obtain ⟨hmove, hrest⟩ := h answer s' hconduct
    obtain ⟨hmove', hrest'⟩ := h' answer s' hconduct
    exact ⟨⟨hmove, hmove'⟩, ih answer hrest hrest'⟩

/-- What every step within a guarantee keeps holds at every step and at the end. -/
theorem Ensures.keep {p : Program S α} {s : σ} (h : p.Ensures conduct guarantee post s)
    (invariant : σ → Prop) (hinv : invariant s)
    (hkeep : ∀ op s answer s', conduct op s answer s' → guarantee op s answer s' → invariant s →
      invariant s') :
    p.Ensures conduct (fun op s answer s' => guarantee op s answer s' ∧ invariant s)
      (fun value s => post value s ∧ invariant s) s := by
  induction p generalizing s with
  | done => exact ⟨h, hinv⟩
  | ask op resume ih =>
    intro answer s' hconduct
    -- the invariant holds before the step, which is promised, and after it, which the rest starts from
    obtain ⟨hmove, hrest⟩ := h answer s' hconduct
    exact ⟨⟨hmove, hinv⟩, ih answer hrest (hkeep op s answer s' hconduct hmove hinv)⟩

/-- Every program keeps within what every step is within. -/
theorem Ensures.of_step (hstep : ∀ op s answer s', conduct op s answer s' → guarantee op s answer s')
    (p : Program S α) (s : σ) : p.Ensures conduct guarantee (fun _ _ => True) s := by
  induction p generalizing s with
  | done => trivial
  | ask op resume ih =>
    intro answer s' hconduct
    exact ⟨hstep op s answer s' hconduct, ih answer s'⟩

/-! ### Programs that may fail -/

/-- A sequence of attempts: the second is made where the first succeeds, and a failure of the first ends
    the sequence. -/
theorem Ensures.attempt {S : Signature} {conduct guarantee : Conduct S σ} {ε : Type}
    {first : ExceptT ε (Program S) α} {next : α → ExceptT ε (Program S) β}
    {post : Except ε β → σ → Prop} {s : σ} (middle : Except ε α → σ → Prop)
    (hfirst : Program.Ensures conduct guarantee middle first.run s)
    (hok : ∀ value s, middle (.ok value) s →
      Program.Ensures conduct guarantee post (next value).run s)
    (herror : ∀ failure s, middle (.error failure) s → post (.error failure) s) :
    Program.Ensures conduct guarantee post (first >>= next).run s := by
  rw [ExceptT.run_bind, ensures_bind]
  refine hfirst.imp fun result s hmiddle => ?_
  cases result with
  | ok value => exact hok value s hmiddle
  | error failure => exact herror failure s hmiddle

/-- A program that cannot fail, followed by an attempt. -/
theorem Ensures.lift {S : Signature} {conduct guarantee : Conduct S σ} {ε : Type}
    {first : Program S α} {next : α → ExceptT ε (Program S) β} {post : Except ε β → σ → Prop} {s : σ}
    (h : first.Ensures conduct guarantee
      (fun value => Program.Ensures conduct guarantee post (next value).run) s) :
    Program.Ensures conduct guarantee post ((liftM first : ExceptT ε (Program S) α) >>= next).run s := by
  have hrun : ((liftM first : ExceptT ε (Program S) α) >>= next).run =
      first >>= fun value => (next value).run := ExceptT.run_bind_lift first next
  rw [hrun, ensures_bind]
  exact h

/-- A check, followed by an attempt where it succeeds. -/
theorem Ensures.check {S : Signature} {conduct guarantee : Conduct S σ} {ε : Type}
    {check : Except ε α} {next : α → ExceptT ε (Program S) β} {post : Except ε β → σ → Prop} {s : σ}
    (hok : ∀ value, check = .ok value → Program.Ensures conduct guarantee post (next value).run s)
    (herror : ∀ failure, check = .error failure → post (.error failure) s) :
    Program.Ensures conduct guarantee post ((liftM check : ExceptT ε (Program S) α) >>= next).run s := by
  cases check with
  | ok value => exact hok value rfl
  | error failure => exact herror failure rfl

/-! ### Runs under a handler -/

/-- One step of a run, with the states around it. -/
structure Move (S : Signature) (σ : Type) where
  before : σ
  op : S.Op
  answer : S.Answer op
  after : σ

variable (handle : (op : S.Op) → σ → S.Answer op × σ)

/-- The steps of a run in their order. -/
def moves : Program S α → σ → List (Move S σ)
  | done _, _ => []
  | ask op resume, s =>
    let (answer, s') := handle op s
    ⟨s, op, answer, s'⟩ :: (resume answer).moves s'

variable {handle}

/-- The end of a run is as promised, if all its steps are in the relation. -/
theorem Ensures.run_along {p : Program S α} {s : σ} (h : p.Ensures conduct guarantee post s)
    (hconduct : ∀ move ∈ p.moves handle s, conduct move.op move.before move.answer move.after) :
    post (p.run handle s).1 (p.run handle s).2 := by
  induction p generalizing s with
  | done => exact h
  | ask op resume ih =>
    have hmove := hconduct ⟨s, op, (handle op s).1, (handle op s).2⟩ List.mem_cons_self
    exact ih _ (h _ _ hmove).2 fun move hmem => hconduct move (List.mem_cons_of_mem _ hmem)

/-- The steps of a sequence are those of its parts. -/
theorem moves_bind (p : Program S α) (next : α → Program S β) (s : σ) :
    (p >>= next).moves handle s =
      p.moves handle s ++ (next (p.run handle s).1).moves handle (p.run handle s).2 := by
  induction p generalizing s with
  | done => rfl
  | ask op resume ih => exact congrArg (List.cons _) (ih (handle op s).1 (handle op s).2)

/-- Every step of a run is what the handler makes of the operation. -/
theorem moves_handle (p : Program S α) (s : σ) :
    ∀ move ∈ p.moves handle s, (move.answer, move.after) = handle move.op move.before := by
  induction p generalizing s with
  | done => simp [Program.moves]
  | ask op resume ih =>
    intro move hmem
    rcases List.mem_cons.1 hmem with rfl | hmem
    · rfl
    · exact ih _ _ move hmem

/-- The end of a run is as promised, if the handler keeps to the relation. -/
theorem Ensures.run {p : Program S α} {s : σ} (h : p.Ensures conduct guarantee post s)
    (hconduct : ∀ op s, conduct op s (handle op s).1 (handle op s).2) :
    post (p.run handle s).1 (p.run handle s).2 := by
  refine h.run_along fun move hmem => ?_
  obtain ⟨hanswer, hafter⟩ := Prod.mk.inj (moves_handle p s move hmem)
  rw [hanswer, hafter]
  exact hconduct move.op move.before

/-- What the handler keeps is kept from any step to the end. -/
theorem keep_of_moves {invariant : σ → Prop}
    (hkeep : ∀ op s, invariant s → invariant (handle op s).2) (p : Program S α) (s : σ) :
    (invariant s → invariant (p.run handle s).2) ∧
      ∀ move ∈ p.moves handle s, invariant move.after → invariant (p.run handle s).2 := by
  induction p generalizing s with
  | done => exact ⟨id, by simp [Program.moves]⟩
  | ask op resume ih =>
    obtain ⟨hstart, hmoves⟩ := ih (handle op s).1 (handle op s).2
    refine ⟨fun h => hstart (hkeep op s h), fun move hmem => ?_⟩
    -- after the first step the rest of the run starts; every other step is one of the rest
    rcases List.mem_cons.1 hmem with rfl | hmem
    · exact hstart
    · exact hmoves move hmem

/-- What relates the states before and after every step relates the states before and after the run. -/
theorem related_of_moves {R : σ → σ → Prop} (hrefl : ∀ s, R s s)
    (htrans : ∀ s s' s'', R s s' → R s' s'' → R s s'') {p : Program S α} {s : σ}
    (h : ∀ move ∈ p.moves handle s, R move.before move.after) : R s (p.run handle s).2 := by
  induction p generalizing s with
  | done => exact hrefl s
  | ask op resume ih =>
    have hstep := h ⟨s, op, (handle op s).1, (handle op s).2⟩ List.mem_cons_self
    exact htrans _ _ _ hstep (ih _ fun move hmem => h move (List.mem_cons_of_mem _ hmem))

/-- Two handlers that give the same answers in related states, and keep them related, give runs with the same
    result. -/
theorem run_related {τ : Type} {handle' : (op : S.Op) → τ → S.Answer op × τ} (R : σ → τ → Prop)
    (h : ∀ op s t, R s t → (handle op s).1 = (handle' op t).1 ∧ R (handle op s).2 (handle' op t).2)
    (p : Program S α) {s : σ} {t : τ} (hstart : R s t) :
    (p.run handle s).1 = (p.run handle' t).1 ∧ R (p.run handle s).2 (p.run handle' t).2 := by
  induction p generalizing s t with
  | done => exact ⟨rfl, hstart⟩
  | ask op resume ih =>
    obtain ⟨hanswer, hstep⟩ := h op s t hstart
    have hrest := ih (handle op s).1 hstep
    rw [hanswer] at hrest
    simpa only [Program.run, hanswer] using hrest

/-- Every step of a run is in the relation and as promised, if the handler keeps to the relation. -/
theorem Ensures.moves {p : Program S α} {s : σ} (h : p.Ensures conduct guarantee post s)
    (hconduct : ∀ op s, conduct op s (handle op s).1 (handle op s).2) :
    ∀ move ∈ p.moves handle s, conduct move.op move.before move.answer move.after ∧
      guarantee move.op move.before move.answer move.after := by
  induction p generalizing s with
  | done => simp [Program.moves]
  | ask op resume ih =>
    obtain ⟨hmove, hrest⟩ := h _ _ (hconduct op s)
    intro move hmem
    rcases List.mem_cons.1 hmem with rfl | hmem
    · exact ⟨hconduct op s, hmove⟩
    · exact ih _ hrest move hmem

/-! ### The steps so far -/

/-- The same surroundings, with a log of the steps so far. -/
def logged (conduct : Conduct S σ) : Conduct S (σ × List (Move S σ)) := fun op before answer after =>
  conduct op before.1 answer after.1 ∧ after.2 = before.2 ++ [⟨before.1, op, answer, after.1⟩]

/-- A log changes nothing, and only grows by steps that are as promised. -/
theorem Ensures.logged {p : Program S α} {s : σ} (h : p.Ensures conduct guarantee post s)
    (log : List (Move S σ)) :
    p.Ensures (Program.logged conduct)
      (fun op before answer after => guarantee op before.1 answer after.1 ∧ log <+: before.2)
      (fun value after => post value after.1 ∧ ∃ steps, after.2 = log ++ steps ∧
        ∀ move ∈ steps, guarantee move.op move.before move.answer move.after) (s, log) := by
  -- generalised over the steps that stand in the log already
  suffices hgrown : ∀ steps, (∀ move ∈ steps, guarantee move.op move.before move.answer move.after) →
      p.Ensures (Program.logged conduct)
        (fun op before answer after => guarantee op before.1 answer after.1 ∧ log <+: before.2)
        (fun value after => post value after.1 ∧ ∃ steps, after.2 = log ++ steps ∧
          ∀ move ∈ steps, guarantee move.op move.before move.answer move.after)
        (s, log ++ steps) by
    simpa using hgrown [] (by simp)
  induction p generalizing s with
  | done => exact fun steps hsteps => ⟨h, steps, rfl, hsteps⟩
  | ask op resume ih =>
    rintro steps hsteps answer ⟨s', log'⟩ ⟨hconduct, hlog⟩
    obtain rfl : log' = (log ++ steps) ++ [⟨s, op, answer, s'⟩] := hlog
    obtain ⟨hmove, hrest⟩ := h answer s' hconduct
    refine ⟨⟨hmove, List.prefix_append _ _⟩, ?_⟩
    rw [List.append_assoc]
    refine ih answer hrest _ fun move hmem => ?_
    rcases List.mem_append.1 hmem with hmem | hmem
    · exact hsteps move hmem
    · obtain rfl := List.mem_singleton.1 hmem
      exact hmove

/-- What is ensured with a log is ensured without one. -/
theorem Ensures.of_logged {p : Program S α} {s : σ} {log : List (Move S σ)}
    {guarantee' : Conduct S (σ × List (Move S σ))} {post' : α → σ × List (Move S σ) → Prop}
    (h : p.Ensures (Program.logged conduct) guarantee' post' (s, log))
    (hstep : ∀ op before answer after, guarantee' op before answer after →
      guarantee op before.1 answer after.1)
    (hpost : ∀ value after, post' value after → post value after.1) :
    p.Ensures conduct guarantee post s := by
  induction p generalizing s log with
  | done value => exact hpost value _ h
  | ask op resume ih =>
    intro answer s' hconduct
    obtain ⟨hmove, hrest⟩ := h answer (s', log ++ [⟨s, op, answer, s'⟩]) ⟨hconduct, rfl⟩
    exact ⟨hstep _ _ _ _ hmove, ih answer hrest⟩

/-- What is ensured with a log holds of a run with the steps that it has taken. -/
theorem Ensures.run_logged {p : Program S α} {s : σ} {log : List (Move S σ)}
    {guarantee : Conduct S (σ × List (Move S σ))} {post : α → σ × List (Move S σ) → Prop}
    (h : p.Ensures (Program.logged conduct) guarantee post (s, log))
    (hconduct : ∀ op s, conduct op s (handle op s).1 (handle op s).2) :
    post (p.run handle s).1 ((p.run handle s).2, log ++ p.moves handle s) ∧
      ∀ done move rest, p.moves handle s = done ++ move :: rest →
        guarantee move.op (move.before, log ++ done) move.answer
          (move.after, log ++ done ++ [move]) := by
  induction p generalizing s log with
  | done value =>
    refine ⟨by simpa [Program.moves] using h, fun done move rest hmoves => ?_⟩
    cases (List.nil_eq_append_iff.1 hmoves).2
  | ask op resume ih =>
    obtain ⟨hmove, hrest⟩ := h (handle op s).1
      ((handle op s).2, log ++ [⟨s, op, (handle op s).1, (handle op s).2⟩]) ⟨hconduct op s, rfl⟩
    -- the rest goes on with a log that is longer by the first step
    obtain ⟨hpost, hmoves⟩ := ih _ hrest
    refine ⟨by simpa [Program.moves, Program.run] using hpost, fun done move rest hsplit => ?_⟩
    cases done with
    | nil =>
      cases hsplit
      simpa using hmove
    | cons first done =>
      obtain ⟨rfl, hrest⟩ := List.cons.inj hsplit
      simpa using hmoves done move rest hrest

end Program

end TenantStorage
