import TenantStorage.Failure

namespace TenantStorage.Failure

/-!
# Failures inside wrappers

A failure travels outwards through wrappers that say where it happened.  Whoever handles it asks for its root, so
wrappers do not count, however many there are and in whatever order.

* `Wrapper`, `wrap` — the two wrappers, and any number of them around a failure.
* `root_wrap`, `exists_wrap_root`, `root_ne_around` — every failure is its root inside wrappers, and the root is
  what is left when no wrapper is.
* `HandledAlike`, `handledAlike_of_root` — all questions have the same answers for failures with the same root.
* `Lasting`, `isRetryable_eq_false_iff` — the causes that do not go away by themselves.
* `handling_wrap` — how a wrapped failure is handled.
-/

/-! ### Wrappers -/

/-- What a wrapper says about the failure inside it. -/
inductive Wrapper where
  | context (project operation : String)
  | interfaceCreation (interface : String)
deriving DecidableEq, Repr

/-- One wrapper around a failure. -/
def Wrapper.around : Wrapper → Failure → Failure
  | context project operation, source => .context project operation source
  | interfaceCreation interface, source => .interfaceCreation interface source

/-- Wrappers around a failure, the outermost first. -/
def wrap (wrappers : List Wrapper) (f : Failure) : Failure := wrappers.foldr Wrapper.around f

@[simp] theorem wrap_cons (w : Wrapper) (wrappers : List Wrapper) (f : Failure) :
    wrap (w :: wrappers) f = w.around (wrap wrappers f) := rfl

@[simp] theorem root_around (w : Wrapper) (f : Failure) : (w.around f).root = f.root := by
  cases w <;> rfl

/-- Wrapping keeps the root. -/
theorem root_wrap (wrappers : List Wrapper) (f : Failure) : (wrap wrappers f).root = f.root := by
  induction wrappers with
  | nil => rfl
  | cons w wrappers ih => rw [wrap_cons, root_around, ih]

/-- A failure is its root inside wrappers. -/
theorem exists_wrap_root (f : Failure) : ∃ wrappers, wrap wrappers f.root = f := by
  induction f with
  | context project operation source ih =>
    obtain ⟨wrappers, hsource⟩ := ih
    refine ⟨.context project operation :: wrappers, ?_⟩
    show context project operation (wrap wrappers source.root) = _
    rw [hsource]
  | interfaceCreation interface source ih =>
    obtain ⟨wrappers, hsource⟩ := ih
    refine ⟨.interfaceCreation interface :: wrappers, ?_⟩
    show interfaceCreation interface (wrap wrappers source.root) = _
    rw [hsource]
  | _ => exact ⟨[], rfl⟩

/-- A root is not a wrapper. -/
theorem root_ne_around (f : Failure) (w : Wrapper) (source : Failure) : f.root ≠ w.around source := by
  induction f with
  | context _ _ _ ih | interfaceCreation _ _ ih => exact ih
  | _ => cases w <;> exact nofun

/-! ### Handling -/

/-- Two failures are handled alike: all questions have the same answers. -/
structure HandledAlike (f g : Failure) : Prop where
  requeue : f.requeue = g.requeue
  isRetryable : f.isRetryable = g.isRetryable
  isTransient : f.isTransient = g.isTransient
  isNotFound : f.isNotFound = g.isNotFound
  isAlreadyExists : f.isAlreadyExists = g.isAlreadyExists

/-- All questions are about the root. -/
theorem handledAlike_of_root {f g : Failure} (h : f.root = g.root) : HandledAlike f g := by
  have hrequeue : f.requeue = g.requeue := by rw [requeue, h, requeue]
  exact
    { requeue := hrequeue
      isRetryable := by rw [isRetryable, hrequeue, isRetryable]
      isTransient := by rw [isTransient, h, isTransient]
      isNotFound := by rw [isNotFound, h, isNotFound]
      isAlreadyExists := by rw [isAlreadyExists, h, isAlreadyExists] }

/-- The causes that stay until somebody changes something. -/
inductive Lasting : Failure → Prop where
  | configuration (message : String) : Lasting (.configuration message)
  | validation (message : String) : Lasting (.validation message)
  | cancelled (operation : String) : Lasting (.cancelled operation)
  | seedSecretMissing (svm username : String) : Lasting (.seedSecretMissing svm username)

/-- Trying again is of no use for just those causes. -/
theorem isRetryable_eq_false_iff {f : Failure} : f.isRetryable = false ↔ Lasting f.root := by
  rw [isRetryable, requeue]
  -- only the root counts, and it is some failure or other
  generalize f.root = cause
  cases cause with
  | configuration message => exact ⟨fun _ => .configuration message, fun _ => rfl⟩
  | validation message => exact ⟨fun _ => .validation message, fun _ => rfl⟩
  | cancelled operation => exact ⟨fun _ => .cancelled operation, fun _ => rfl⟩
  | seedSecretMissing svm username => exact ⟨fun _ => .seedSecretMissing svm username, fun _ => rfl⟩
  | _ => exact ⟨nofun, nofun⟩

/-- A connection may come back, so trying again is of use. -/
theorem isRetryable_of_isTransient {f : Failure} (h : f.isTransient = true) : f.isRetryable = true := by
  cases hretry : f.isRetryable with
  | true => rfl
  | false =>
    have hlasting : Lasting f.root := isRetryable_eq_false_iff.1 hretry
    rw [isTransient] at h
    generalize f.root = cause at h hlasting
    cases hlasting <;> cases h

/-- What is missing is not in the way. -/
theorem not_isNotFound_and_isAlreadyExists (f : Failure) : ¬(f.isNotFound = true ∧ f.isAlreadyExists = true) := by
  rw [isNotFound, isAlreadyExists]
  generalize f.root = cause
  cases cause <;> exact nofun

/-- **Wrapping never changes how a failure is handled.**  Whatever wrappers stand around it, in any number and order,
    the failure has the same root, which is no wrapper, and gives the same answers to all questions about it.  Every
    failure is its root inside such wrappers.  What lies in a connection can be tried again; only four kinds of
    causes cannot; and nothing is both missing and in the way. -/
theorem handling_wrap (wrappers : List Wrapper) (f : Failure) :
    ((wrap wrappers f).root = f.root ∧ ∀ (w : Wrapper) (source : Failure), (wrap wrappers f).root ≠ w.around source) ∧
      HandledAlike (wrap wrappers f) f ∧
      (∃ outer, wrap outer f.root = f) ∧
      (f.isTransient = true → f.isRetryable = true) ∧
      (f.isRetryable = false ↔ Lasting f.root) ∧
      ¬(f.isNotFound = true ∧ f.isAlreadyExists = true) := by
  have hroot := root_wrap wrappers f
  exact ⟨⟨hroot, root_ne_around _⟩, handledAlike_of_root hroot, exists_wrap_root f, isRetryable_of_isTransient,
    isRetryable_eq_false_iff, not_isNotFound_and_isAlreadyExists f⟩

end TenantStorage.Failure
