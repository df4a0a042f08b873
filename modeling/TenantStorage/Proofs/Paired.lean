import TenantStorage.Proofs.Talk

namespace TenantStorage

/-!
# Two programs in step

Two programs, or one with two values, are in step when one who sees only part of what they say cannot tell them
apart: they ask for operations that look the same, and go on in step after answers that look the same.

* `SameResult` — attempts that succeed with related values, or fail alike.
* `Program.View` — what is seen of operations and of replies.
* `Program.Paired` — programs in step; `Paired.bind` and its like put it together from the parts.
* `Paired.of_asks` — a program that keeps nothing back is in step with itself.
* `Paired.run` — programs in step run in step, under handlers that keep what is not seen apart.
-/

/-- Two attempts that succeed with related values, or fail alike. -/
inductive SameResult {ε α β : Type} (same : α → β → Prop) : Except ε α → Except ε β → Prop where
  | ok {a : α} {b : β} (h : same a b) : SameResult same (.ok a) (.ok b)
  | error (failure : ε) : SameResult same (.error failure) (.error failure)

theorem SameResult.of_eq {ε α : Type} {result result' : Except ε α} (h : result = result') :
    SameResult (· = ·) result result' := by
  subst h
  cases result with
  | ok value => exact .ok rfl
  | error failure => exact .error failure

/-- What is told of a failure is told of both. -/
theorem SameResult.mapError {ε α β : Type} {same : α → β → Prop} {result : Except ε α} {result' : Except ε β}
    (h : SameResult same result result') (tell : ε → ε) :
    SameResult same (result.mapError tell) (result'.mapError tell) := by
  cases h with
  | ok h => exact .ok h
  | error failure => exact .error (tell failure)

theorem SameResult.map_eq {ε α β : Type} {f : α → β} {result result' : Except ε α}
    (h : SameResult (fun a b => f a = f b) result result') : result.map f = result'.map f := by
  cases h with
  | ok h => exact congrArg Except.ok h
  | error => rfl

theorem SameResult.isOk_eq {ε α β : Type} {same : α → β → Prop} {result : Except ε α} {result' : Except ε β}
    (h : SameResult same result result') : result.isOk = result'.isOk := by
  cases h <;> rfl

namespace Program

variable {S : Signature} {α α' β β' σ τ : Type}

/-- What is seen of operations, and of operations with their answers. -/
structure View (S : Signature) where
  seenOp : S.Op → S.Op
  seen : Reply S → Reply S

variable {view : View S}

/-- Two programs in step, whose ends are related. -/
inductive Paired (view : View S) (ends : α → α' → Prop) : Program S α → Program S α' → Prop where
  | done {a : α} {b : α'} (h : ends a b) : Paired view ends (.done a) (.done b)
  | ask {op op' : S.Op} {resume : S.Answer op → Program S α} {resume' : S.Answer op' → Program S α'}
      (hop : view.seenOp op = view.seenOp op')
      (h : ∀ x y, view.seen ⟨op, x⟩ = view.seen ⟨op', y⟩ → Paired view ends (resume x) (resume' y)) :
      Paired view ends (.ask op resume) (.ask op' resume')

variable {ends : α → α' → Prop} {ends' : β → β' → Prop}

/-! ### Rules -/

theorem Paired.mono {more : α → α' → Prop} {p : Program S α} {q : Program S α'} (h : Paired view ends p q)
    (hmore : ∀ a b, ends a b → more a b) : Paired view more p q := by
  induction h with
  | done h => exact .done (hmore _ _ h)
  | ask hop _ ih => exact .ask hop ih

theorem Paired.bind {p : Program S α} {q : Program S α'} {next : α → Program S β} {next' : α' → Program S β'}
    (h : Paired view ends p q) (hnext : ∀ a b, ends a b → Paired view ends' (next a) (next' b)) :
    Paired view ends' (p >>= next) (q >>= next') := by
  induction h with
  | done h => exact hnext _ _ h
  | ask hop _ ih => exact .ask hop ih

theorem Paired.perform {op op' : S.Op} {ends : S.Answer op → S.Answer op' → Prop}
    (hop : view.seenOp op = view.seenOp op')
    (hends : ∀ x y, view.seen ⟨op, x⟩ = view.seen ⟨op', y⟩ → ends x y) :
    Paired view ends (Program.perform op) (Program.perform op') :=
  .ask hop fun x y h => .done (hends x y h)

/-- An operation of which nothing is kept back. -/
def Open (view : View S) (op : S.Op) : Prop :=
  ∀ x y, view.seen ⟨op, x⟩ = view.seen ⟨op, y⟩ → x = y

/-- A program that keeps nothing back is in step with itself. -/
theorem Paired.of_asks {p : Program S α} (h : p.Asks (Open view)) : Paired view (· = ·) p p := by
  induction p with
  | done value => exact .done rfl
  | ask op resume ih =>
    refine .ask rfl fun x y hseen => ?_
    rw [h.1 x y hseen]
    exact ih y (h.2 y)

/-! ### Attempts -/

/-- Two sequences of attempts: the first attempts are in step, and what follows them where they succeed. -/
theorem Paired.attempt {S : Signature} {view : View S} {ε : Type} {same : α → α' → Prop}
    {same' : β → β' → Prop} {first : ExceptT ε (Program S) α} {first' : ExceptT ε (Program S) α'}
    {next : α → ExceptT ε (Program S) β} {next' : α' → ExceptT ε (Program S) β'}
    (hfirst : Paired view (SameResult same) first.run first'.run)
    (hnext : ∀ a b, same a b → Paired view (SameResult same') (next a).run (next' b).run) :
    Paired view (SameResult same') (first >>= next).run (first' >>= next').run := by
  rw [ExceptT.run_bind, ExceptT.run_bind]
  refine hfirst.bind fun result result' h => ?_
  cases h with
  | ok h => exact hnext _ _ h
  | error failure => exact .done (.error failure)

/-- Programs that cannot fail, followed by attempts. -/
theorem Paired.lift {S : Signature} {view : View S} {ε : Type} {same' : β → β' → Prop} {ends : α → α' → Prop}
    {first : Program S α} {first' : Program S α'} {next : α → ExceptT ε (Program S) β}
    {next' : α' → ExceptT ε (Program S) β'} (hfirst : Paired view ends first first')
    (hnext : ∀ a b, ends a b → Paired view (SameResult same') (next a).run (next' b).run) :
    Paired view (SameResult same') ((liftM first : ExceptT ε (Program S) α) >>= next).run
      ((liftM first' : ExceptT ε (Program S) α') >>= next').run := by
  have hrun {γ δ : Type} (p : Program S γ) (f : γ → ExceptT ε (Program S) δ) :
      ((liftM p : ExceptT ε (Program S) γ) >>= f).run = p >>= fun value => (f value).run :=
    ExceptT.run_bind_lift p f
  rw [hrun, hrun]
  exact hfirst.bind hnext

/-- The same check, followed by attempts where it succeeds. -/
theorem Paired.check {S : Signature} {view : View S} {ε : Type} {same : β → β' → Prop} {check : Except ε α}
    {next : α → ExceptT ε (Program S) β} {next' : α → ExceptT ε (Program S) β'}
    (hnext : ∀ value, Paired view (SameResult same) (next value).run (next' value).run) :
    Paired view (SameResult same) ((liftM check : ExceptT ε (Program S) α) >>= next).run
      ((liftM check : ExceptT ε (Program S) α) >>= next').run := by
  cases check with
  | ok value => exact hnext value
  | error failure => exact .done (.error failure)

/-- An attempt that keeps nothing back is in step with itself. -/
theorem Paired.same {S : Signature} {view : View S} {ε : Type} {attempt : ExceptT ε (Program S) α}
    (h : Asks (Open view) attempt.run) : Paired view (SameResult (· = ·)) attempt.run attempt.run :=
  (Paired.of_asks h).mono fun _ _ => .of_eq

/-! ### Runs -/

variable {handle : (op : S.Op) → σ → S.Answer op × σ} {handle' : (op : S.Op) → τ → S.Answer op × τ}

/-- Programs in step run in step, if each pair of good steps from related states gives replies that look the same
    and related states. -/
theorem Paired.run {related : σ → τ → Prop} {good : Move S σ → Prop} {good' : Move S τ → Prop}
    (hstep : ∀ op op' s t, view.seenOp op = view.seenOp op' → related s t →
      good ⟨s, op, (handle op s).1, (handle op s).2⟩ → good' ⟨t, op', (handle' op' t).1, (handle' op' t).2⟩ →
      view.seen ⟨op, (handle op s).1⟩ = view.seen ⟨op', (handle' op' t).1⟩ ∧
        related (handle op s).2 (handle' op' t).2)
    {p : Program S α} {q : Program S α'} (h : Paired view ends p q) {s : σ} {t : τ} (hrelated : related s t)
    (hgood : ∀ move ∈ p.moves handle s, good move) (hgood' : ∀ move ∈ q.moves handle' t, good' move) :
    ends (p.run handle s).1 (q.run handle' t).1 ∧ related (p.run handle s).2 (q.run handle' t).2 ∧
      (p.talk handle s).map view.seen = (q.talk handle' t).map view.seen := by
  induction h generalizing s t with
  | done h => exact ⟨h, hrelated, rfl⟩
  | @ask op op' resume resume' hop _ ih =>
    obtain ⟨hfirst, hrest⟩ := List.forall_mem_cons.1 hgood
    obtain ⟨hfirst', hrest'⟩ := List.forall_mem_cons.1 hgood'
    obtain ⟨hseen, hafter⟩ := hstep op op' s t hop hrelated hfirst hfirst'
    obtain ⟨hends, hfinal, htalk⟩ := ih _ _ hseen hafter hrest hrest'
    exact ⟨hends, hfinal, congrArg₂ List.cons hseen htalk⟩

end Program

end TenantStorage
