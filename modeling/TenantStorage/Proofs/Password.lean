import TenantStorage.Password

namespace TenantStorage.Password

/-!
# The length of a generated password

* `length_of_choose`, `length_of_shuffle` — the steps of the generation.
* `length_of_generate` — the whole password; `ne_empty_of_generate` — so it is never empty.
-/

variable {words left : Words} {cs cs' : List Char}

theorem length_of_choose {alphabet : List Char} {count : Nat}
    (h : choose alphabet count words = some (cs, left)) : cs.length = count := by
  induction count generalizing words cs with
  | zero =>
    cases h
    rfl
  | succ count ih =>
    simp only [choose, Option.bind_eq_bind, Option.bind_eq_some_iff] at h
    obtain ⟨⟨i, _⟩, -, c, -, ⟨rest, _⟩, hrest, hcs⟩ := h
    cases hcs
    exact congrArg Nat.succ (ih hrest)

/-- An exchange keeps the length. -/
theorem length_swap (cs : List Char) (i j : Nat) : (swap cs i j).length = cs.length := by
  unfold swap
  split <;> simp

theorem length_of_shuffle {i : Nat} (h : shuffle i cs words = some (cs', left)) :
    cs'.length = cs.length := by
  induction i generalizing cs words with
  | zero =>
    cases h
    rfl
  | succ i ih =>
    simp only [shuffle, Option.bind_eq_bind, Option.bind_eq_some_iff] at h
    obtain ⟨⟨j, _⟩, -, hrest⟩ := h
    exact (ih hrest).trans (length_swap cs (i + 1) j)

/-- A generated password has its length. -/
theorem length_of_generate {password : String} (h : generate words = some (password, left)) :
    password.toList.length = length := by
  simp only [generate, Option.bind_eq_bind, Option.bind_eq_some_iff] at h
  obtain ⟨⟨ds, _⟩, hdigits, ⟨ls, _⟩, hletters, ⟨cs, _⟩, hshuffled, hpassword⟩ := h
  cases hpassword
  rw [String.toList_ofList, length_of_shuffle hshuffled, List.length_append, length_of_choose hdigits,
    length_of_choose hletters]
  rfl

/-- A generated password is not empty. -/
theorem ne_empty_of_generate {password : String} (h : generate words = some (password, left)) :
    password ≠ "" := by
  rintro rfl
  cases length_of_generate h

end TenantStorage.Password
