import TenantStorage.Octets.Base64
import TenantStorage.Octets.Utf8

namespace TenantStorage

/-!
# Written forms of octets and texts

What is written in UTF-8 or in base64 is read back as it was.

* `Utf8.Spells` — octets that take the decoder through exactly one character; `spells_encodeChar`.
* `Utf8.decodeLossy_encode`, `Utf8.decode?_encode`, `Utf8.fault?_encode` — a text in UTF-8 has no fault, and is what it was.
* `Utf8.encode_eq` — the octets of a text are the ones that it is stored as.
* `Utf8.decodeLossy_eq_empty_iff` — octets that are not UTF-8 are no empty text either.
* `Base64.decode?_encode` — octets in base64, with each of the three paddings.
* `Base64.Standard` — how the standard puts octets into digits; `Base64.standard_encode`.
-/

/-! ### UTF-8 -/

namespace Utf8

/-- From a state, the octets make one character. -/
inductive Spells : State → List UInt8 → Char → Prop where
  | last {state : State} {octet : UInt8} {c : Char} (h : step state octet.toNat = ([some c], .between)) :
      Spells state [octet] c
  | next {state after : State} {octet : UInt8} {rest : List UInt8} {c : Char}
      (h : step state octet.toNat = ([], after)) (hrest : Spells after rest c) :
      Spells state (octet :: rest) c

variable {state : State} {octets rest : List UInt8} {c : Char}

/-- The units of octets that begin with those of a character. -/
theorem Spells.unitsFrom (h : Spells state octets c) :
    unitsFrom state (octets ++ rest) = some c :: unitsFrom .between rest := by
  induction h with
  | last h =>
    rw [List.singleton_append, Utf8.unitsFrom, h]
    rfl
  | next h _ ih =>
    rw [List.cons_append, Utf8.unitsFrom, h]
    exact ih

/-- Octets that begin with those of a character have no fault before its end. -/
theorem Spells.faultFrom (h : Spells state octets c)
    (hrest : ∀ start position, faultFrom .between start position rest = none) (start position : Nat) :
    faultFrom state start position (octets ++ rest) = none := by
  induction h generalizing start position with
  | @last state octet c h =>
    cases state with
    | between =>
      rw [step] at h
      simp only [List.singleton_append, Utf8.faultFrom, h]
      exact hrest _ _
    | within =>
      simp only [List.singleton_append, Utf8.faultFrom, h]
      exact hrest _ _
  | @next state after octet rest c h _ ih =>
    cases state with
    | between =>
      rw [step] at h
      simp only [List.cons_append, Utf8.faultFrom, h]
      exact ih _ _
    | within =>
      simp only [List.cons_append, Utf8.faultFrom, h]
      exact ih _ _

theorem toNat_tail {n : Nat} (h : n < 0x40) : (UInt8.ofNat (0x80 + n)).toNat = 0x80 + n :=
  UInt8.toNat_ofNat_of_lt' (Nat.lt_of_lt_of_le (Nat.add_lt_add_left h 0x80) (by decide))

/-- The last of the octets to come. -/
theorem Spells.tail {low high value n : Nat} (hlow : low ≤ 0x80 + n) (hhigh : 0x80 + n ≤ high)
    (hn : n < 0x40) (hvalue : Char.ofNat (value * 64 + n) = c) :
    Spells (.within low high 1 value) [UInt8.ofNat (0x80 + n)] c := by
  apply Spells.last
  rw [toNat_tail hn, step, if_pos ⟨hlow, hhigh⟩, if_pos (Nat.le_refl 1), Nat.add_sub_cancel_left, hvalue]

/-- One of the octets to come, but not the last. -/
theorem Spells.more {low high left value n : Nat} (hlow : low ≤ 0x80 + n) (hhigh : 0x80 + n ≤ high)
    (hn : n < 0x40) (hrest : Spells (.within 0x80 0xbf (left + 1) (value * 64 + n)) rest c) :
    Spells (.within low high (left + 2) value) (UInt8.ofNat (0x80 + n) :: rest) c := by
  refine Spells.next ?_ hrest
  rw [toNat_tail hn, step, if_pos ⟨hlow, hhigh⟩, if_neg (by omega), Nat.add_sub_cancel_left]
  rfl

/-- The first of two octets. -/
theorem first_two : ∀ m < 0x20, 2 ≤ m →
    step .between (UInt8.ofNat (0xc0 + m)).toNat = ([], .within 0x80 0xbf 1 m) := by decide

/-- The first of three octets; the next one may not make what two octets make, nor a surrogate. -/
theorem first_three : ∀ m < 0x10, step .between (UInt8.ofNat (0xe0 + m)).toNat =
    ([], .within (if m = 0 then 0xa0 else 0x80) (if m = 0xd then 0x9f else 0xbf) 2 m) := by decide

/-- The first of four octets; the next one may not make what three octets make, nor more than there are. -/
theorem first_four : ∀ m < 5, step .between (UInt8.ofNat (0xf0 + m)).toNat =
    ([], .within (if m = 0 then 0x90 else 0x80) (if m = 4 then 0x8f else 0xbf) 3 m) := by decide

/-- The octets of a character make that character. -/
theorem spells_encodeChar (c : Char) : Spells .between (encodeChar c) c := by
  have hvalid : c.toNat < 0xd800 ∨ 0xdfff < c.toNat ∧ c.toNat < 0x110000 := c.valid
  have hchar := Char.ofNat_toNat c
  rw [encodeChar]
  generalize c.toNat = n at hvalid hchar
  subst hchar
  dsimp only
  -- one, two, three or four octets; the bounds of the second one are met because there are no surrogates
  split
  · apply Spells.last
    rw [UInt8.toNat_ofNat_of_lt' (by simp only [UInt8.size]; omega), step, first, if_pos ‹_›]
  split
  · refine .next (first_two (n / 0x40) ?_ ?_) (.tail ?_ ?_ ?_ (congrArg _ ?_)) <;> omega
  split
  · refine .next (first_three (n / 0x1000) ?_) (.more ?_ ?_ ?_ (.tail ?_ ?_ ?_ (congrArg _ ?_))) <;> grind
  · refine .next (first_four (n / 0x40000) ?_)
      (.more ?_ ?_ ?_ (.more ?_ ?_ ?_ (.tail ?_ ?_ ?_ (congrArg _ ?_)))) <;> grind

theorem unitsFrom_encodeChars (cs : List Char) : unitsFrom .between (encodeChars cs) = cs.map some := by
  induction cs with
  | nil => rfl
  | cons c rest ih =>
    rw [encodeChars, List.flatMap_cons, (spells_encodeChar c).unitsFrom, ← encodeChars, ih, List.map_cons]

/-- A text in UTF-8 is read back. -/
theorem decodeLossy_encode (text : String) : decodeLossy (encode text) = text := by
  rw [decodeLossy, units, encode, unitsFrom_encodeChars, List.map_map]
  simp [Function.comp_def]

theorem decode?_encode (text : String) : decode? (encode text) = some text := by
  have hunits (cs : List Char) : (cs.map some).mapM id = some cs := by
    induction cs with
    | nil => rfl
    | cons c rest ih => simp [ih]
  rw [decode?, units, encode, unitsFrom_encodeChars, hunits, Option.map_some, String.ofList_toList]

/-- A text in UTF-8 has no fault. -/
theorem fault?_encode (text : String) : fault? (encode text) = none := by
  have hchars (cs : List Char) (start position : Nat) :
      faultFrom .between start position (encodeChars cs) = none := by
    induction cs generalizing start position with
    | nil => rfl
    | cons c rest ih =>
      rw [encodeChars, List.flatMap_cons]
      exact (spells_encodeChar c).faultFrom ih start position
  exact hchars text.toList 0 0

/-- The octets of a character are those of the standard encoder. -/
theorem encodeChar_eq (c : Char) : encodeChar c = String.utf8EncodeChar c := by
  have hvalid : c.toNat < 0xd800 ∨ 0xdfff < c.toNat ∧ c.toNat < 0x110000 := c.valid
  have hsame : c.val.toNat = c.toNat := rfl
  simp only [encodeChar, String.utf8EncodeChar, hsame, Nat.div_one, Nat.add_comm]
  generalize c.toNat = n at hvalid
  by_cases hone : n < 0x80
  · simp only [hone, if_true, show n ≤ 127 by omega]
  by_cases htwo : n < 0x800
  · simp only [hone, htwo, if_true, if_false, show ¬n ≤ 127 by omega, show n ≤ 2047 by omega,
      show n / 64 % 32 = n / 64 by omega]
  by_cases hthree : n < 0x10000
  · simp only [hone, htwo, hthree, if_true, if_false, show ¬n ≤ 127 by omega, show ¬n ≤ 2047 by omega,
      show n ≤ 65535 by omega, show n / 0x1000 % 16 = n / 0x1000 by omega]
  · simp only [hone, htwo, hthree, if_false, show ¬n ≤ 127 by omega, show ¬n ≤ 2047 by omega,
      show ¬n ≤ 65535 by omega, show n / 0x40000 % 8 = n / 0x40000 by omega]

/-- The octets of a text are the ones that it is stored as. -/
theorem encode_eq (text : String) : encode text = text.toUTF8.data.toList := by
  show encodeChars text.toList = text.toByteArray.data.toList
  rw [← String.utf8Encode_toList, List.utf8Encode, List.data_toByteArray, encodeChars, funext encodeChar_eq]

/-- An octet makes a unit, or it is within a character. -/
theorem first_ne_nothing (n : Nat) : (first n).1 ≠ [] ∨ (first n).2 ≠ .between := by
  unfold first
  repeat' split
  all_goals simp

theorem step_ne_nothing (state : State) (n : Nat) : (step state n).1 ≠ [] ∨ (step state n).2 ≠ .between := by
  cases state with
  | between => exact first_ne_nothing n
  | within low high left value =>
    rw [step]
    split
    · dsimp only
      split <;> simp
    · simp

/-- Only where there are no octets, and no character has been begun, there are no units. -/
theorem unitsFrom_eq_nil_iff {state : State} {octets : List UInt8} :
    unitsFrom state octets = [] ↔ state = .between ∧ octets = [] := by
  induction octets generalizing state with
  | nil => cases state <;> simp [unitsFrom]
  | cons octet rest ih =>
    have hunits : unitsFrom state (octet :: rest) =
        (step state octet.toNat).1 ++ unitsFrom (step state octet.toNat).2 rest := by
      cases state <;> rfl
    have hstep := step_ne_nothing state octet.toNat
    rw [hunits, List.append_eq_nil_iff, ih]
    simp only [reduceCtorEq, and_false, iff_false]
    rintro ⟨hnone, hbetween, -⟩
    exact hstep.elim (absurd hnone) (absurd hbetween)

/-- Octets are read as the empty text only if there are none, ill-formed parts included. -/
theorem decodeLossy_eq_empty_iff {octets : List UInt8} : decodeLossy octets = "" ↔ octets = [] := by
  rw [decodeLossy, units, ← String.toList_eq_nil_iff, String.toList_ofList, List.map_eq_nil_iff,
    unitsFrom_eq_nil_iff]
  simp

/-- A state in which no ASCII octet goes on with the character that is being read. -/
def State.Whole : State → Prop
  | .between => True
  | .within low _ _ _ => 0x80 ≤ low

theorem whole_first (n : Nat) : (first n).2.Whole := by
  unfold first
  repeat' split
  all_goals simp [State.Whole]

theorem whole_step {state : State} (h : state.Whole) (n : Nat) : (step state n).2.Whole := by
  cases state with
  | between => exact whole_first n
  | within low high left value =>
    rw [step]
    split
    · dsimp only
      split <;> simp [State.Whole]
    · exact whole_first n

/-- An ASCII octet at the end is a character by itself, whatever stands before it. -/
theorem exists_unitsFrom_concat {octet : UInt8} (hascii : octet.toNat < 0x80) (octets : List UInt8) {state : State}
    (h : state.Whole) :
    ∃ found, unitsFrom state (octets ++ [octet]) = found ++ [some (Char.ofNat octet.toNat)] := by
  induction octets generalizing state with
  | nil =>
    have hfirst : first octet.toNat = ([some (Char.ofNat octet.toNat)], .between) := if_pos hascii
    cases state with
    | between => exact ⟨[], by simp [unitsFrom, step, hfirst]⟩
    | within low high left value =>
      have hlow : ¬(low ≤ octet.toNat ∧ octet.toNat ≤ high) := fun hrange => by
        have hwhole : 0x80 ≤ low := h
        omega
      exact ⟨[none], by simp [unitsFrom, step, hlow, hfirst]⟩
  | cons next rest ih =>
    obtain ⟨found, hfound⟩ := ih (whole_step h next.toNat)
    refine ⟨(step state next.toNat).1 ++ found, ?_⟩
    rw [List.cons_append, List.append_assoc, ← hfound]
    cases state <;> rfl

/-- So a text that is read back ends in it. -/
theorem exists_decode?_concat {octet : UInt8} (hascii : octet.toNat < 0x80) {octets : List UInt8} {text : String}
    (h : decode? (octets ++ [octet]) = some text) :
    ∃ front, text.toList = front ++ [Char.ofNat octet.toNat] := by
  have hwhole : State.between.Whole := trivial
  obtain ⟨found, hunits⟩ := exists_unitsFrom_concat hascii octets hwhole
  obtain ⟨chars, hchars, rfl⟩ := Option.map_eq_some_iff.1 h
  rw [units, hunits, List.mapM_append] at hchars
  obtain ⟨front, -, hrest⟩ := Option.bind_eq_some_iff.1 hchars
  refine ⟨front, ?_⟩
  rw [String.toList_ofList]
  simpa [eq_comm] using hrest

end Utf8

/-! ### Base64 -/

namespace Base64

/-- The character of six bits has them as its value. -/
theorem value?_char : ∀ n < 64, value? (char n) = some n := by decide

/-- No six bits are written as padding. -/
theorem char_ne_padding : ∀ n < 64, char n ≠ '=' := by decide

theorem ofNat_eq (octet : UInt8) {n : Nat} (h : n = octet.toNat) : UInt8.ofNat n = octet := by
  rw [h, UInt8.ofNat_toNat]

theorem decodeChars?_encodeOctets (octets : List UInt8) :
    decodeChars? (encodeOctets octets) = some octets := by
  induction octets using encodeOctets.induct with
  | case1 => rfl
  | case2 a =>
    have ha := a.toNat_lt
    simp only [encodeOctets, decodeChars?, decodeLast?, List.isEmpty_nil, ↓reduceIte]
    rw [value?_char _ (by omega), value?_char _ (by omega)]
    simp only [Option.bind_eq_bind, Option.bind_some, Option.pure_def]
    rw [if_pos (by omega), ofNat_eq a (by omega)]
  | case3 a b =>
    have ha := a.toNat_lt
    have hb := b.toNat_lt
    simp only [encodeOctets, decodeChars?, decodeLast?, List.isEmpty_nil, ↓reduceIte]
    rw [value?_char _ (by omega), value?_char _ (by omega), value?_char _ (by omega)]
    simp only [Option.bind_eq_bind, Option.bind_some, Option.pure_def]
    rw [if_neg (char_ne_padding _ (by omega)), if_pos (by omega), ofNat_eq a (by omega), ofNat_eq b (by omega)]
  | case4 a b c rest ih =>
    have ha := a.toNat_lt
    have hb := b.toNat_lt
    have hc := c.toNat_lt
    simp only [encodeOctets, decodeChars?]
    rw [if_neg (char_ne_padding _ (by omega)), value?_char _ (by omega), value?_char _ (by omega),
      value?_char _ (by omega), value?_char _ (by omega), ih]
    simp only [Option.bind_eq_bind, Option.bind_some, Option.pure_def]
    rw [ofNat_eq a (by omega), ofNat_eq b (by omega), ofNat_eq c (by omega)]

/-- Octets in base64 are read back. -/
theorem decode?_encode (octets : List UInt8) : decode? (encode octets) = some octets := by
  rw [decode?, encode, String.toList_ofList, decodeChars?_encodeOctets]

/-- The digits in the order of their values. -/
def alphabet : String := "ABCDEFGHIJKLMNOPQRSTUVWXYZabcdefghijklmnopqrstuvwxyz0123456789+/"

/-- A character is the digit with a value. -/
def IsDigit (c : Char) (value : Nat) : Prop := alphabet.toList[value]? = some c

instance (c : Char) (value : Nat) : Decidable (IsDigit c value) := inferInstanceAs (Decidable (_ = _))

/-- Octets and their characters in standard base64.  Three octets are one number of 24 bits, which has four digits
    of six bits.  At the end one octet is filled up to two digits and two octets to three, with bits that are zero,
    and the digits are filled up to four characters. -/
inductive Standard : List UInt8 → List Char → Prop where
  | nil : Standard [] []
  | one {a : UInt8} {p q : Char} {w x : Nat} (hp : IsDigit p w) (hq : IsDigit q x)
      (h : a.toNat * 16 = w * 64 + x) : Standard [a] [p, q, '=', '=']
  | two {a b : UInt8} {p q r : Char} {w x y : Nat} (hp : IsDigit p w) (hq : IsDigit q x) (hr : IsDigit r y)
      (h : (a.toNat * 256 + b.toNat) * 4 = (w * 64 + x) * 64 + y) : Standard [a, b] [p, q, r, '=']
  | three {a b c : UInt8} {octets : List UInt8} {p q r s : Char} {chars : List Char} {w x y z : Nat}
      (hp : IsDigit p w) (hq : IsDigit q x) (hr : IsDigit r y) (hs : IsDigit s z)
      (h : (a.toNat * 256 + b.toNat) * 256 + c.toNat = ((w * 64 + x) * 64 + y) * 64 + z)
      (hrest : Standard octets chars) : Standard (a :: b :: c :: octets) (p :: q :: r :: s :: chars)

theorem isDigit_char : ∀ n < 64, IsDigit (char n) n := by decide +kernel

theorem standard_encodeOctets (octets : List UInt8) : Standard octets (encodeOctets octets) := by
  induction octets using encodeOctets.induct with
  | case1 => exact .nil
  | case2 a =>
    have ha := a.toNat_lt
    refine .one (isDigit_char _ ?_) (isDigit_char _ ?_) ?_ <;> omega
  | case3 a b =>
    have ha := a.toNat_lt
    have hb := b.toNat_lt
    refine .two (isDigit_char _ ?_) (isDigit_char _ ?_) (isDigit_char _ ?_) ?_ <;> omega
  | case4 a b c rest ih =>
    have ha := a.toNat_lt
    have hb := b.toNat_lt
    have hc := c.toNat_lt
    refine .three (isDigit_char _ ?_) (isDigit_char _ ?_) (isDigit_char _ ?_) (isDigit_char _ ?_) ?_ ih <;> omega

/-- The written form is that of the standard. -/
theorem standard_encode (octets : List UInt8) : Standard octets (encode octets).toList := by
  rw [encode, String.toList_ofList]
  exact standard_encodeOctets octets

end Base64

end TenantStorage
