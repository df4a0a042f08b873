import Mathlib.Data.List.DropRight
import Mathlib.Data.List.TakeWhile
import TenantStorage.Text.Blank

namespace TenantStorage.Text

/-!
# Blanks at the ends of a text

* `whiteSpace` — the characters with the Unicode property `White_Space`, one by one.
* `IsTrimmed` — a text without the blanks at its ends.
* `isTrimmed_iff` — every text is trimmed to one other, and trimming finds it.
-/

/-- The numbers of the characters with the Unicode property `White_Space`. -/
def whiteSpace : List Nat :=
  [0x09, 0x0a, 0x0b, 0x0c, 0x0d, 0x20, 0x85, 0xa0, 0x1680, 0x2000, 0x2001, 0x2002, 0x2003, 0x2004, 0x2005, 0x2006,
    0x2007, 0x2008, 0x2009, 0x200a, 0x2028, 0x2029, 0x202f, 0x205f, 0x3000]

/-- One text is what another one has between blanks, and neither begins nor ends with a blank itself. -/
def IsTrimmed (text trimmed : String) : Prop :=
  (∃ front back, text.toList = front ++ trimmed.toList ++ back ∧ ∀ c ∈ front ++ back, c.toNat ∈ whiteSpace) ∧
    ∀ c, trimmed.toList.head? = some c ∨ trimmed.toList.getLast? = some c → c.toNat ∉ whiteSpace

theorem isBlank_iff {c : Char} : isBlank c = true ↔ c.toNat ∈ whiteSpace := by
  simp only [isBlank, whiteSpace, List.mem_cons, List.not_mem_nil, Bool.or_eq_true, Bool.and_eq_true,
    decide_eq_true_eq, beq_iff_eq, or_false]
  omega

/-- Blanks at the front are dropped up to the first character that is none. -/
theorem dropWhile_isBlank {front back : List Char} (hfront : ∀ c ∈ front, isBlank c = true)
    (hback : ∀ c, back.head? = some c → isBlank c = false) : (front ++ back).dropWhile isBlank = back := by
  rw [List.dropWhile_append_of_pos hfront]
  cases back with
  | nil => rfl
  | cons c rest => exact List.dropWhile_cons_of_neg (by simp [hback c rfl])

/-- The text between blanks is what trimming leaves, if it neither begins nor ends with one. -/
theorem trimChars_append {front middle back : List Char} (hfront : ∀ c ∈ front, isBlank c = true)
    (hback : ∀ c ∈ back, isBlank c = true)
    (hends : ∀ c, middle.head? = some c ∨ middle.getLast? = some c → isBlank c = false) :
    trimChars (front ++ middle ++ back) = middle := by
  cases middle with
  | nil =>
    -- nothing but blanks: all are dropped from the front
    have hnone : (front ++ [] ++ back).dropWhile isBlank = [] := by
      simp only [List.append_nil, List.dropWhile_eq_nil_iff, List.mem_append]
      exact fun c hc => hc.elim (hfront c) (hback c)
    rw [trimChars, hnone]
    rfl
  | cons c rest =>
    -- neither from the front nor from the back is anything of the middle dropped
    have hhead : ∀ other, (c :: rest ++ back).head? = some other → isBlank other = false :=
      fun other hother => hends other (.inl hother)
    rw [trimChars, List.append_assoc, dropWhile_isBlank hfront hhead, List.reverse_append, dropWhile_isBlank,
      List.reverse_reverse]
    · simpa only [List.mem_reverse] using hback
    · simpa only [List.head?_reverse] using fun other hother => hends other (.inr hother)

/-- What is left when blanks are dropped does not begin with one. -/
theorem isBlank_of_head?_dropWhile {cs : List Char} {c : Char} (h : (cs.dropWhile isBlank).head? = some c) :
    isBlank c = false := by
  simpa [h] using List.head?_dropWhile_not isBlank cs

/-- Trimming leaves what is between blanks. -/
theorem exists_trimChars (cs : List Char) :
    (∃ front back, cs = front ++ trimChars cs ++ back ∧ ∀ c ∈ front ++ back, isBlank c = true) ∧
      ∀ c, (trimChars cs).head? = some c ∨ (trimChars cs).getLast? = some c → isBlank c = false := by
  have hfront : cs.takeWhile isBlank ++ cs.dropWhile isBlank = cs := List.takeWhile_append_dropWhile
  have hback : trimChars cs ++ (cs.dropWhile isBlank).rtakeWhile isBlank = cs.dropWhile isBlank :=
    List.rdropWhile_append_rtakeWhile
  refine ⟨⟨cs.takeWhile isBlank, (cs.dropWhile isBlank).rtakeWhile isBlank, ?_, fun c hc => ?_⟩, ?_⟩
  · rw [List.append_assoc, hback, hfront]
  · exact (List.mem_append.1 hc).elim List.mem_takeWhile_imp List.mem_rtakeWhile_imp
  · rintro c (hhead | hlast)
    · have hdropped : (cs.dropWhile isBlank).head? = some c := by
        rw [← hback, List.head?_append, hhead, Option.some_or]
      exact isBlank_of_head?_dropWhile hdropped
    · rw [trimChars, List.getLast?_reverse] at hlast
      exact isBlank_of_head?_dropWhile hlast

/-- Every text is trimmed to one other, which trimming finds. -/
theorem isTrimmed_iff {text trimmed : String} : IsTrimmed text trimmed ↔ trimmed = trim text := by
  constructor
  · rintro ⟨⟨front, back, htext, hblank⟩, hends⟩
    simp only [List.mem_append, ← isBlank_iff] at hblank
    simp only [← isBlank_iff, Bool.not_eq_true] at hends
    rw [trim, htext, trimChars_append (fun c hc => hblank c (.inl hc)) (fun c hc => hblank c (.inr hc)) hends,
      String.ofList_toList]
  · rintro rfl
    obtain ⟨hparts, hends⟩ := exists_trimChars text.toList
    simp only [IsTrimmed, trim, String.toList_ofList, ← isBlank_iff, Bool.not_eq_true]
    exact ⟨hparts, hends⟩

end TenantStorage.Text
