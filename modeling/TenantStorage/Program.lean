/-!
# Programs that talk to their surroundings

Everything the library does outside its own values goes through a `Program`: a finite tree
whose inner nodes ask the surroundings for one operation and go on with the answer.  The
same tree can then be run against a store in memory, against scripted peers, under a
virtual clock, or interleaved with other trees.

* `Signature` — the operations that can be asked for, each with its type of answers.
* `Program` — the trees over a signature, a monad.
* `Program.run` — the answers come from a handler that threads a state.
* `Program.expand` — every operation is replaced by a program over another signature.
* `run_bind` — programs in sequence run one after the other.
-/

namespace TenantStorage

/-- Operations together with the type of answers to each. -/
structure Signature where
  Op : Type
  Answer : Op → Type

/-- A finite tree of operations over `S` that ends with a value of type `α`. -/
inductive Program (S : Signature) (α : Type) where
  | done (value : α)
  | ask (op : S.Op) (resume : S.Answer op → Program S α)

namespace Program

variable {S T : Signature} {α β γ σ : Type}

/-! ### Sequencing -/

/-- Goes on with `next` at every leaf. -/
def bind : Program S α → (α → Program S β) → Program S β
  | done value, next => next value
  | ask op resume, next => ask op fun answer => (resume answer).bind next

/-- The program that asks for a single operation and returns its answer. -/
def perform (op : S.Op) : Program S (S.Answer op) :=
  ask op done

instance : Monad (Program S) where
  pure := done
  bind := bind

@[simp] theorem bind_done (value : α) (next : α → Program S β) :
    (done value).bind next = next value := rfl

@[simp] theorem bind_ask (op : S.Op) (resume : S.Answer op → Program S α)
    (next : α → Program S β) :
    (ask op resume).bind next = ask op fun answer => (resume answer).bind next := rfl

theorem bind_eq (p : Program S α) (next : α → Program S β) : p >>= next = p.bind next := rfl

theorem pure_eq (value : α) : (pure value : Program S α) = done value := rfl

@[simp] theorem bind_done_right (p : Program S α) : p.bind done = p := by
  induction p with
  | done => rfl
  | ask op resume ih => simp [ih]

theorem bind_assoc (p : Program S α) (f : α → Program S β) (g : β → Program S γ) :
    (p.bind f).bind g = p.bind fun value => (f value).bind g := by
  induction p with
  | done => rfl
  | ask op resume ih => simp [ih]

instance : LawfulMonad (Program S) :=
  LawfulMonad.mk' _ (fun p => bind_done_right p) (fun _ _ => rfl) (fun p f g => bind_assoc p f g)

/-! ### Running -/

/-- Runs a program with a handler that answers each operation and changes a state. -/
def run (handle : (op : S.Op) → σ → S.Answer op × σ) : Program S α → σ → α × σ
  | done value, state => (value, state)
  | ask op resume, state =>
    let (answer, state) := handle op state
    (resume answer).run handle state

@[simp] theorem run_done (handle : (op : S.Op) → σ → S.Answer op × σ) (value : α) (state : σ) :
    (done value : Program S α).run handle state = (value, state) := rfl

theorem run_bind (handle : (op : S.Op) → σ → S.Answer op × σ) (p : Program S α)
    (next : α → Program S β) (state : σ) :
    (p.bind next).run handle state =
      (next (p.run handle state).1).run handle (p.run handle state).2 := by
  induction p generalizing state with
  | done => rfl
  | ask op resume ih => exact ih (handle op state).1 (handle op state).2

/-! ### Replacing operations by programs -/

/-- Replaces every operation by a program over `T` that computes its answer. -/
def expand (define : (op : S.Op) → Program T (S.Answer op)) : Program S α → Program T α
  | done value => done value
  | ask op resume => (define op).bind fun answer => (resume answer).expand define

end Program

end TenantStorage
