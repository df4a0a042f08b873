import TenantStorage.Octets.Encoding
import TenantStorage.Proofs.Octets

/-!
# Texts behind a byte order mark

A text is read back from its octets in each of the encodings that a mark tells apart.

* `Utf16.encode` — a text in UTF-16: a unit for a character below U+10000, and a pair of surrogates for any other.
* `Utf16.decodeLossy_encode` — such a text is read back.
* `Encoding.mark` — what stands in front of a text to tell its encoding.
* `Encoding.Writes` — octets for a text, with a mark or without; `Encoding.textOf_of_writes` — it is read back.
-/

namespace TenantStorage

/-! ### UTF-16 -/

namespace Utf16

/-- The two octets of a unit. -/
def Order.octets : Order → Nat → List UInt8
  | .little, unit => [UInt8.ofNat (unit % 0x100), UInt8.ofNat (unit / 0x100)]
  | .big, unit => [UInt8.ofNat (unit / 0x100), UInt8.ofNat (unit % 0x100)]

/-- The octets of a character.  What is above U+FFFF is cut into two halves of ten bits. -/
def encodeChar (order : Order) (c : Char) : List UInt8 :=
  if c.toNat < 0x10000 then order.octets c.toNat
  else order.octets (0xd800 + (c.toNat - 0x10000) / 0x400) ++ order.octets (0xdc00 + (c.toNat - 0x10000) % 0x400)

/-- The octets of a text. -/
def encode (order : Order) (text : String) : List UInt8 := text.toList.flatMap (encodeChar order)

variable {order : Order} {lead : Option Nat} {unit : Nat} {rest : List UInt8}

/-- The octets of a unit take the decoder one step on. -/
theorem charsFrom_octets (h : unit < 0x10000) :
    charsFrom order lead (order.octets unit ++ rest) =
      (step lead unit).1 ++ charsFrom order (step lead unit).2 rest := by
  have hlow : (UInt8.ofNat (unit % 0x100)).toNat = unit % 0x100 :=
    UInt8.toNat_ofNat_of_lt' (by simp only [UInt8.size]; omega)
  have hhigh : (UInt8.ofNat (unit / 0x100)).toNat = unit / 0x100 :=
    UInt8.toNat_ofNat_of_lt' (by simp only [UInt8.size]; omega)
  have hunit : unit / 0x100 * 0x100 + unit % 0x100 = unit := Nat.div_add_mod' unit 0x100
  cases order <;>
    simp only [Order.octets, List.cons_append, List.nil_append, charsFrom, Order.unit, hlow, hhigh, hunit]

/-- The octets of a character make that character. -/
theorem charsFrom_encodeChar (c : Char) :
    charsFrom order none (encodeChar order c ++ rest) = some c :: charsFrom order none rest := by
  have hvalid : c.toNat < 0xd800 ∨ 0xdfff < c.toNat ∧ c.toNat < 0x110000 := c.valid
  have hchar := Char.ofNat_toNat c
  rw [encodeChar]
  generalize c.toNat = n at hvalid hchar
  subst hchar
  split
  -- a unit by itself, and no surrogate, because no character is one
  · have hfirst : step none n = ([some (Char.ofNat n)], none) := if_pos (by omega)
    rw [charsFrom_octets ‹_›, hfirst]
    rfl
  -- two units: the decoder waits after the leading surrogate, and the trailing one completes the character
  · have hlead : step none (0xd800 + (n - 0x10000) / 0x400) = ([], some (0xd800 + (n - 0x10000) / 0x400)) := by
      rw [step, first, if_neg (by omega), if_pos (by omega)]
    have hpair : step (some (0xd800 + (n - 0x10000) / 0x400)) (0xdc00 + (n - 0x10000) % 0x400) =
        ([some (Char.ofNat n)], none) := by
      have hvalue : 0x10000 + (n - 0x10000) / 0x400 * 0x400 + (n - 0x10000) % 0x400 = n := by omega
      rw [step, if_pos (by omega), Nat.add_sub_cancel_left, Nat.add_sub_cancel_left, hvalue]
    rw [List.append_assoc, charsFrom_octets (by omega), hlead, charsFrom_octets (by omega), hpair]
    rfl

theorem charsFrom_encode (cs : List Char) :
    charsFrom order none (cs.flatMap (encodeChar order)) = cs.map some := by
  induction cs with
  | nil => rfl
  | cons c rest ih => rw [List.flatMap_cons, charsFrom_encodeChar, ih, List.map_cons]

/-- A text in UTF-16 is read back. -/
theorem decodeLossy_encode (order : Order) (text : String) : decodeLossy order (encode order text) = text := by
  rw [decodeLossy, encode, charsFrom_encode, List.map_map]
  simp [Function.comp_def]

end Utf16

/-! ### Byte order marks -/

namespace Encoding

/-- The octets of a text. -/
def encode : Encoding → String → List UInt8
  | .utf8 => Utf8.encode
  | .utf16 order => Utf16.encode order

/-- The character U+FEFF, which in front of a text tells the encoding. -/
def mark (encoding : Encoding) : List UInt8 := encoding.encode "\ufeff"

theorem decodeLossy_encode (encoding : Encoding) (text : String) :
    encoding.decodeLossy (encoding.encode text) = text := by
  cases encoding with
  | utf8 => exact Utf8.decodeLossy_encode text
  | utf16 order => exact Utf16.decodeLossy_encode order text

theorem detect_mark (encoding : Encoding) (octets : List UInt8) :
    detect (encoding.mark ++ octets) = (encoding, octets) := by
  cases encoding with
  | utf8 => rfl
  | utf16 order => cases order <;> rfl

/-- A text without U+FEFF in front does not begin with a mark in UTF-8. -/
theorem detect_encode {text : String} (h : text.toList.head? ≠ some '\ufeff') :
    detect (Utf8.encode text) = (.utf8, Utf8.encode text) := by
  have hhead : (Utf8.units (Utf8.encode text)).head? = text.toList.head?.map some := by
    rw [Utf8.units, Utf8.encode, Utf8.unitsFrom_encodeChars, List.head?_map]
  have hwhole : (Utf8.units (Utf8.encode text)).head? ≠ some none := by
    rw [hhead]
    cases text.toList.head? <;> simp
  -- the mark of UTF-8 makes U+FEFF, and the octets of the other two marks are ill-formed there
  unfold detect
  split
  · next rest heq =>
    have hmark : (Utf8.units (0xef :: 0xbb :: 0xbf :: rest)).head? = some (some '\ufeff') := rfl
    rw [heq, hmark] at hhead
    obtain ⟨c, hc, hsame⟩ := Option.map_eq_some_iff.1 hhead.symm
    exact absurd (hc.trans hsame) h
  · next rest heq =>
    rw [heq] at hwhole
    exact absurd rfl hwhole
  · next rest heq =>
    rw [heq] at hwhole
    exact absurd rfl hwhole
  · rfl

/-- Octets stand for a text: behind a mark in the encoding that it tells, or without one in UTF-8. -/
inductive Writes (text : String) : List UInt8 → Prop where
  | marked (encoding : Encoding) : Writes text (encoding.mark ++ encoding.encode text)
  | plain (h : text.toList.head? ≠ some '\ufeff') : Writes text (Utf8.encode text)

/-- Every text is read back from its octets. -/
theorem textOf_of_writes {text : String} {octets : List UInt8} (h : Writes text octets) :
    textOf octets = text := by
  cases h with
  | marked encoding =>
    rw [textOf, detect_mark]
    exact encoding.decodeLossy_encode text
  | plain h =>
    rw [textOf, detect_encode h]
    exact Utf8.decodeLossy_encode text

end Encoding

end TenantStorage
