import TenantStorage.Octets.Percent
import TenantStorage.Proofs.LetterCase
import TenantStorage.Proofs.Octets

namespace TenantStorage.Percent

/-!
# Percent encoding is undone

Encoding goes character by character.  It is the same as going octet by octet, as long as only ASCII characters
stand for themselves, and then each octet is read back by itself.

* `Marked` — what can stand for itself: ASCII characters other than `%`; `marked_isUnreserved`.
* `writeOctet`, `encode_eq_flatMap` — an octet by itself, and an encoded text as that of its octets.
* `decode_encode`, `decode?_component` — what is encoded is read back.
* `mem_component_cases` — the characters of an encoded part of a path.
-/

/-! ### What stands for itself -/

/-- Only ASCII characters stand for themselves, and the percent sign does not. -/
def Marked (keep : Char → Bool) : Prop := ∀ c, keep c = true → c.toNat < 128 ∧ c ≠ '%'

theorem lt_of_isUnreserved {c : Char} (h : isUnreserved c = true) : c.toNat < 128 := by
  simp only [isUnreserved, Bool.or_eq_true, beq_iff_eq] at h
  rcases h with (((halphanum | rfl) | rfl) | rfl) | rfl
  · have hrange : ((65 ≤ c.toNat ∧ c.toNat ≤ 90) ∨ (97 ≤ c.toNat ∧ c.toNat ≤ 122)) ∨
        48 ≤ c.toNat ∧ c.toNat ≤ 57 := by
      rcases Bool.or_eq_true_iff.1 halphanum with halpha | hdigit
      · rcases Bool.or_eq_true_iff.1 halpha with hupper | hlower
        · exact .inl (.inl (of_decide_eq_true hupper))
        · exact .inl (.inr ((Bool.and_eq_true_iff.1 hlower).imp of_decide_eq_true of_decide_eq_true))
      · exact .inr ((Bool.and_eq_true_iff.1 hdigit).imp of_decide_eq_true of_decide_eq_true)
    omega
  all_goals decide

theorem marked_isUnreserved : Marked isUnreserved := by
  intro c hc
  refine ⟨lt_of_isUnreserved hc, ?_⟩
  rintro rfl
  exact absurd hc (by decide)

/-! ### Octets -/

/-- An octet by itself: as the character with its number, if that stands for itself, or by its number. -/
def writeOctet (keep : Char → Bool) (octet : UInt8) : List Char :=
  if keep (Char.ofNat octet.toNat) then [Char.ofNat octet.toNat] else encodeOctet octet

theorem toNat_ofNat_of_lt {n : Nat} (h : n < 256) : (Char.ofNat n).toNat = n := by
  have hvalid : n.isValidChar := .inl (Nat.lt_trans h (by decide))
  rw [Char.ofNat, dif_pos hvalid]
  rfl

/-- The octets of a character outside ASCII are outside ASCII. -/
theorem le_of_mem_encodeChar {c : Char} (h : 128 ≤ c.toNat) : ∀ octet ∈ Utf8.encodeChar c, 128 ≤ octet.toNat := by
  have hvalid : c.toNat < 0xd800 ∨ 0xdfff < c.toNat ∧ c.toNat < 0x110000 := c.valid
  intro octet hoctet
  simp only [Utf8.encodeChar, if_neg (Nat.not_lt.2 h)] at hoctet
  -- two, three or four octets
  split at hoctet
  · simp only [List.mem_cons, List.not_mem_nil, or_false] at hoctet
    rcases hoctet with rfl | rfl <;> rw [UInt8.toNat_ofNat'] <;> omega
  split at hoctet
  · simp only [List.mem_cons, List.not_mem_nil, or_false] at hoctet
    rcases hoctet with rfl | rfl | rfl <;> rw [UInt8.toNat_ofNat'] <;> omega
  · simp only [List.mem_cons, List.not_mem_nil, or_false] at hoctet
    rcases hoctet with rfl | rfl | rfl | rfl <;> rw [UInt8.toNat_ofNat'] <;> omega

variable {keep : Char → Bool}

/-- A character is written octet by octet. -/
theorem encodeChar_eq_flatMap (h : Marked keep) (c : Char) :
    encodeChar keep c = (Utf8.encodeChar c).flatMap (writeOctet keep) := by
  by_cases hascii : c.toNat < 128
  · -- the only octet has the number of the character
    have hoctets : Utf8.encodeChar c = [UInt8.ofNat c.toNat] := if_pos hascii
    have hnumber : (UInt8.ofNat c.toNat).toNat = c.toNat := UInt8.toNat_ofNat_of_lt' (by simp only [UInt8.size]; omega)
    rw [encodeChar, hoctets, List.flatMap_singleton, List.flatMap_singleton, writeOctet, hnumber, Char.ofNat_toNat]
  · have hkeep : ¬keep c = true := fun hc => hascii (h c hc).1
    have hoctet : ∀ octet ∈ Utf8.encodeChar c, writeOctet keep octet = encodeOctet octet := by
      intro octet hoctet
      have hhigh := le_of_mem_encodeChar (Nat.le_of_not_lt hascii) octet hoctet
      refine if_neg fun hc => ?_
      have hlow := (h _ hc).1
      rw [toNat_ofNat_of_lt octet.toNat_lt] at hlow
      omega
    rw [encodeChar, if_neg hkeep]
    exact List.flatMap_congr fun octet hmem => (hoctet octet hmem).symm

/-- An encoded text is that of its octets. -/
theorem encode_eq_flatMap (h : Marked keep) (cs : List Char) :
    encode keep cs = (Utf8.encodeChars cs).flatMap (writeOctet keep) := by
  rw [encode, Utf8.encodeChars, List.flatMap_assoc, funext (encodeChar_eq_flatMap h)]

/-! ### Reading back -/

theorem hexValue?_hexDigit : ∀ n < 16, Text.hexValue? (hexDigit n) = some n := by decide

/-- An octet is read back, whatever follows. -/
theorem decode_writeOctet (h : Marked keep) (octet : UInt8) (rest : List Char) :
    decode (writeOctet keep octet ++ rest) = octet :: decode rest := by
  rw [writeOctet]
  split
  · rename_i hc
    obtain ⟨hascii, hpercent⟩ := h _ hc
    have hoctets : Utf8.encodeChar (Char.ofNat octet.toNat) = [octet] := by
      rw [toNat_ofNat_of_lt octet.toNat_lt] at hascii
      simp only [Utf8.encodeChar, toNat_ofNat_of_lt octet.toNat_lt, if_pos hascii, UInt8.ofNat_toNat]
    rw [List.singleton_append, decode, hoctets, List.singleton_append]
    exact fun a b others hc _ => hpercent hc
  · have hlow : octet.toNat % 16 < 16 := Nat.mod_lt _ (by decide)
    have hhigh : octet.toNat / 16 < 16 := Nat.div_lt_of_lt_mul octet.toNat_lt
    show decode ('%' :: hexDigit (octet.toNat / 16) :: hexDigit (octet.toNat % 16) :: rest) = _
    rw [decode, hexValue?_hexDigit _ hhigh, hexValue?_hexDigit _ hlow]
    simp only [Nat.div_add_mod, UInt8.ofNat_toNat]

theorem decode_flatMap (h : Marked keep) (octets : List UInt8) : decode (octets.flatMap (writeOctet keep)) = octets := by
  induction octets with
  | nil => rfl
  | cons octet rest ih => rw [List.flatMap_cons, decode_writeOctet h, ih]

/-- What is encoded is read back as the octets of the text. -/
theorem decode_encode (h : Marked keep) (cs : List Char) : decode (encode keep cs) = Utf8.encodeChars cs := by
  rw [encode_eq_flatMap h, decode_flatMap h]

/-- A part of a path is read back as the text. -/
theorem decode?_component (text : String) : Utf8.decode? (decode (component text).toList) = some text := by
  rw [component, String.toList_ofList, decode_encode marked_isUnreserved]
  exact Utf8.decode?_encode text

/-! ### Characters -/

/-- A part of a path is written with characters that never have a meaning of their own, and percent signs. -/
theorem mem_component_cases {text : String} : ∀ c ∈ (component text).toList, isUnreserved c = true ∨ c = '%' := by
  have hdigit : ∀ n < 16, isUnreserved (hexDigit n) = true := by decide
  intro c hc
  rw [component, String.toList_ofList, encode_eq_flatMap marked_isUnreserved, List.mem_flatMap] at hc
  obtain ⟨octet, -, hoctet⟩ := hc
  rw [writeOctet] at hoctet
  split at hoctet
  · obtain rfl := List.mem_singleton.1 hoctet
    exact .inl ‹_›
  · have hlow : octet.toNat % 16 < 16 := Nat.mod_lt _ (by decide)
    have hhigh : octet.toNat / 16 < 16 := Nat.div_lt_of_lt_mul octet.toNat_lt
    simp only [encodeOctet, List.mem_cons, List.not_mem_nil, or_false] at hoctet
    rcases hoctet with rfl | rfl | rfl
    · exact .inr rfl
    · exact .inl (hdigit _ hhigh)
    · exact .inl (hdigit _ hlow)

end TenantStorage.Percent
