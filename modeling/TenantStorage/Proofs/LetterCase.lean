import Mathlib.Data.List.Forall2
import Mathlib.Data.List.Infix
import TenantStorage.Text.Case

namespace TenantStorage.Text

/-!
# Words in any letter case

A message is searched for a word by folding the letters `A` to `Z` of the message and comparing characters.

* `Spells`, `Mentions` — a word in any letter case, and a text with such a word somewhere in it.
* `lower_eq_iff` — what becomes a word when letters are folded is a spelling of it.
* `contains_lower_iff` — the search finds just those.

Two characters outside ASCII have ASCII letters in their Unicode lower case.  U+0130 becomes `i` and the
combining dot U+0307, which no word of ASCII letters contains, and U+212A becomes `k`.  For a word without
`k` the search therefore finds the same as one that folds all letters.
-/

/-- Some characters spell a word: each is that of the word or its capital. -/
def Spells (part word : List Char) : Prop :=
  List.Forall₂ (fun c letter => c = letter ∨ c = letter.toUpper) part word

/-- A text has somewhere a part that spells a word. -/
def Mentions (text word : String) : Prop :=
  ∃ before part after, text.toList = before ++ part ++ after ∧ Spells part word.toList

/-- Whether a character is in lower case, or no letter. -/
def IsSmall (c : Char) : Prop := lowerChar c = c

instance : DecidablePred IsSmall := fun c => inferInstanceAs (Decidable (lowerChar c = c))

/-! ### Single letters -/

/-- What holds of the 128 ASCII characters, by number, holds of each small enough character. -/
theorem ascii_forall {P : Char → Prop} (h : ∀ n < 128, P (Char.ofNat n)) {c : Char} (hc : c.toNat < 128) :
    P c := by
  have hchar := h c.toNat hc
  rwa [Char.ofNat_toNat] at hchar

theorem toUpper_lowerChar {c : Char} (h : 'A' ≤ c ∧ c ≤ 'Z') : (lowerChar c).toUpper = c := by
  have hhigh : c.toNat ≤ 90 := h.2
  revert h
  exact ascii_forall (P := fun c => 'A' ≤ c ∧ c ≤ 'Z' → (lowerChar c).toUpper = c) (by decide) (by omega)

theorem lowerChar_toUpper {letter : Char} (h : IsSmall letter) : lowerChar letter.toUpper = letter := by
  by_cases hletter : 'a' ≤ letter ∧ letter ≤ 'z'
  · have hhigh : letter.toNat ≤ 122 := hletter.2
    revert h
    exact ascii_forall (P := fun c => IsSmall c → lowerChar c.toUpper = c) (by decide) (by omega)
  · have hsame : letter.toUpper = letter := dif_neg hletter
    rw [hsame]
    exact h

/-- A folded letter stays as it is. -/
theorem isSmall_lowerChar (c : Char) : IsSmall (lowerChar c) := by
  by_cases hcapital : 'A' ≤ c ∧ c ≤ 'Z'
  · have hhigh : c.toNat ≤ 90 := hcapital.2
    exact ascii_forall (P := fun c => IsSmall (lowerChar c)) (by decide) (by omega)
  · have hsame : lowerChar c = c := if_neg hcapital
    rw [hsame]
    exact hsame

theorem lowerChar_eq_iff {c letter : Char} (h : IsSmall letter) :
    lowerChar c = letter ↔ c = letter ∨ c = letter.toUpper := by
  constructor
  · intro heq
    by_cases hcapital : 'A' ≤ c ∧ c ≤ 'Z'
    · exact .inr (by rw [← heq, toUpper_lowerChar hcapital])
    · exact .inl (by rw [← heq, lowerChar, if_neg hcapital])
  · rintro (rfl | rfl)
    · exact h
    · exact lowerChar_toUpper h

/-! ### Words -/

theorem map_lowerChar_eq_iff {part word : List Char} (h : ∀ letter ∈ word, IsSmall letter) :
    part.map lowerChar = word ↔ Spells part word := by
  induction word generalizing part with
  | nil => simp [Spells]
  | cons letter rest ih =>
    obtain ⟨hletter, hrest⟩ := List.forall_mem_cons.1 h
    cases part with
    | nil => simp [Spells]
    | cons c tail =>
      rw [List.map_cons, List.cons.injEq, lowerChar_eq_iff hletter, ih hrest, Spells, Spells,
        List.forall₂_cons]

theorem occursIn_iff {part whole : List Char} : occursIn part whole = true ↔ part <:+: whole := by
  induction whole with
  | nil => simp [occursIn]
  | cons c rest ih => rw [occursIn, Bool.or_eq_true, List.isPrefixOf_iff_prefix, ih, List.infix_cons_iff]

theorem lower_lower (text : String) : lower (lower text) = lower text := by
  rw [lower, lower, String.toList_ofList, List.map_map]
  exact congrArg String.ofList (List.map_congr_left fun c _ => isSmall_lowerChar c)

/-- A word that folding leaves alone has small letters only. -/
theorem isSmall_of_lower {word : String} (h : lower word = word) : ∀ letter ∈ word.toList, IsSmall letter := by
  have hsame : word.toList.map lowerChar = word.toList.map id := by
    rw [List.map_id, ← String.toList_ofList (l := word.toList.map lowerChar)]
    exact congrArg String.toList h
  exact List.map_inj_left.1 hsame

/-- What becomes a word is a spelling of it. -/
theorem lower_eq_iff {text word : String} (h : lower word = word) :
    lower text = word ↔ Spells text.toList word.toList := by
  rw [← map_lowerChar_eq_iff (isSmall_of_lower h), ← String.toList_inj, lower, String.toList_ofList]

/-- The search in the lower case of a text finds a word in any letter case. -/
theorem contains_lower_iff {text word : String} (h : lower word = word) :
    contains (lower text) word = true ↔ Mentions text word := by
  have hsmall := isSmall_of_lower h
  rw [contains, occursIn_iff, lower, String.toList_ofList]
  constructor
  · rintro ⟨before, after, hwhole⟩
    obtain ⟨front, last, htext, hfront, -⟩ := List.map_eq_append_iff.1 hwhole.symm
    obtain ⟨first, part, rfl, -, hpart⟩ := List.map_eq_append_iff.1 hfront
    exact ⟨first, part, last, htext, (map_lowerChar_eq_iff hsmall).1 hpart⟩
  · rintro ⟨before, part, after, htext, hspells⟩
    refine ⟨before.map lowerChar, after.map lowerChar, ?_⟩
    rw [htext, List.map_append, List.map_append, (map_lowerChar_eq_iff hsmall).2 hspells]

end TenantStorage.Text
