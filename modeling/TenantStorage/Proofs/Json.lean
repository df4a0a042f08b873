import Mathlib.Data.List.TakeWhile
import TenantStorage.Json.Parse
import TenantStorage.Json.Print

namespace TenantStorage.Json

/-!
# The text of a JSON value is read back

* `Json.Plain` — the values that the library writes.
* `Json.Scans` — characters that the scanner takes for tokens, whatever it has found before.
* `Json.IsScanned`, `Json.IsAssembled` — the two halves of reading, for a value in any place.
* `Json.parse?_print` — a plain value is what its text is read as.
-/

/-- Values whose strings are text and whose numbers are integers. -/
inductive Plain : Json → Prop where
  | null : Plain .null
  | bool (value : Bool) : Plain (.bool value)
  | integer (negative : Bool) (n : Nat) : Plain (.number ⟨negative, n, ""⟩)
  | text (text : String) : Plain (.ofText text)
  | array {items : List Json} (h : ∀ item ∈ items, Plain item) : Plain (.array items)
  | record {members : List (String × Json)} (h : ∀ member ∈ members, Plain member.2) :
      Plain (.record members)

theorem plain_ofNat (n : Nat) : Plain (.ofNat n) := .integer false n

/-! ### Numbers -/

/-- Only zero is written with a zero at the front. -/
theorem head?_toDigits {n : Nat} (h : 0 < n) : (Nat.toDigits 10 n).head? ≠ some '0' := by
  induction n using Nat.strongRecOn with
  | ind n ih =>
    rw [Nat.toDigits_eq_if (by omega)]
    split
    · have hdigit : ∀ d < 10, 0 < d → d.digitChar ≠ '0' := by decide
      simpa using hdigit n ‹_› h
    · have hfront := ih (n / 10) (by omega) (by omega)
      obtain ⟨c, rest, hcons⟩ := List.exists_cons_of_ne_nil (Nat.toDigits_ne_nil (n := n / 10) (b := 10))
      rw [hcons] at hfront ⊢
      exact hfront

/-- Numbers are written without leading zeros. -/
theorem not_leading_zero (n : Nat) :
    ¬ ((Nat.toDigits 10 n).head? = some '0' ∧ 1 < (Nat.toDigits 10 n).length) := by
  rintro ⟨hhead, hlength⟩
  rcases Nat.eq_zero_or_pos n with rfl | hpos
  · revert hlength; decide
  · exact head?_toDigits hpos hhead

theorem decimal_toDigits (n : Nat) : decimal (Nat.toDigits 10 n) = n := by
  rw [decimal, ← Nat.ofDigitChars_eq_foldl, Nat.ofDigitChars_ten_toDigits]

theorem isDigit_of_mem_toDigits {n : Nat} {c : Char} (h : c ∈ Nat.toDigits 10 n) : c.isDigit = true :=
  Nat.isDigit_of_mem_toDigits (by omega) (by omega) h

/-- The digits of a number are read as the number. -/
theorem unsigned?_toDigits (negative : Bool) (n : Nat) :
    unsigned? negative (Nat.toDigits 10 n) = some ⟨negative, n, ""⟩ := by
  have htake : (Nat.toDigits 10 n).takeWhile Char.isDigit = Nat.toDigits 10 n :=
    List.takeWhile_eq_self_iff.2 fun _ => isDigit_of_mem_toDigits
  have hdrop : (Nat.toDigits 10 n).dropWhile Char.isDigit = [] :=
    List.dropWhile_eq_nil_iff.2 fun _ => isDigit_of_mem_toDigits
  simp only [unsigned?, htake, hdrop, decimal_toDigits]
  rw [if_neg]
  simpa [isTail, isExponent, Nat.toDigits_ne_nil] using fun hhead => Nat.not_lt.1 fun hlength =>
    not_leading_zero n ⟨hhead, hlength⟩

theorem chars_integer (negative : Bool) (n : Nat) : Number.chars ⟨negative, n, ""⟩ =
    (if negative then ['-'] else []) ++ Nat.toDigits 10 n := by
  simp [Number.chars]

/-- An integer is read back. -/
theorem number?_chars (negative : Bool) (n : Nat) :
    number? (Number.chars ⟨negative, n, ""⟩) = some ⟨negative, n, ""⟩ := by
  rw [chars_integer]
  cases negative with
  | true => exact unsigned?_toDigits true n
  | false =>
    rw [if_neg Bool.false_ne_true, List.nil_append, number?]
    · exact unsigned?_toDigits false n
    · intro cs h
      have hminus : '-' ∈ Nat.toDigits 10 n := by simp [h]
      exact absurd (isDigit_of_mem_toDigits hminus) (by decide)

/-! ### Scanning -/

/-- From between tokens to between tokens, the scanner takes characters for tokens, with `rest` behind them. -/
def Scans (cs : List Char) (tokens : List Token) (rest : Units) : Prop :=
  ∀ found, Scan.run .idle found (cs.map some ++ rest) = Scan.run .idle (tokens.reverse ++ found) rest

/-- What ends a number or a word: the end of the input, a comma or a closing bracket. -/
def Delimited (rest : Units) : Prop :=
  ∀ u ∈ rest.head?, u = some ',' ∨ u = some ']' ∨ u = some '}'

variable {cs cs' : List Char} {tokens tokens' : List Token} {rest : Units}

theorem Scans.append (h : Scans cs tokens (cs'.map some ++ rest)) (h' : Scans cs' tokens' rest) :
    Scans (cs ++ cs') (tokens ++ tokens') rest := by
  intro found
  rw [List.map_append, List.append_assoc, h, h', List.reverse_append, List.append_assoc]

theorem scans_nil : Scans [] [] rest := fun _ => rfl

/-- A number or a word is complete where something ends it. -/
theorem run_of_delimited (state : Scan) {before found : List Token} (hrest : Delimited rest)
    (hstate : (∃ cs, state = .number cs) ∨ ∃ cs, state = .word cs)
    (hfinish : state.finish = some before) :
    Scan.run state found rest = Scan.run .idle (before.reverse ++ found) rest := by
  cases rest with
  | nil =>
    have hidle : Scan.idle.finish = some [] := rfl
    simp [Scan.run, hfinish, hidle]
  | cons u rest =>
    rcases hrest u rfl with rfl | rfl | rfl <;> rcases hstate with ⟨cs, rfl⟩ | ⟨cs, rfl⟩ <;>
      simp [Scan.run, Scan.step, hfinish, Scan.isNumeric, Scan.start, Scan.isSpace]

theorem scans_null (hrest : Delimited rest) : Scans Token.null.chars [.null] rest := fun _ =>
  run_of_delimited (.word ['l', 'l', 'u', 'n']) hrest (.inr ⟨_, rfl⟩) rfl

theorem scans_bool (value : Bool) (hrest : Delimited rest) :
    Scans (Token.bool value).chars [.bool value] rest := fun _ =>
  match value with
  | true => run_of_delimited (.word ['e', 'u', 'r', 't']) hrest (.inr ⟨_, rfl⟩) rfl
  | false => run_of_delimited (.word ['e', 's', 'l', 'a', 'f']) hrest (.inr ⟨_, rfl⟩) rfl

/-- Within a number, the scanner takes all that numbers consist of. -/
theorem run_number (front : List Char) (found : List Token) (hcs : ∀ c ∈ cs, Scan.isNumeric c = true) :
    Scan.run (.number front) found (cs.map some ++ rest) =
      Scan.run (.number (cs.reverse ++ front)) found rest := by
  induction cs generalizing front with
  | nil => rfl
  | cons c cs ih =>
    obtain ⟨hc, hrest⟩ := List.forall_mem_cons.1 hcs
    rw [List.map_cons, List.cons_append, Scan.run, Scan.step, if_pos hc, List.reverse_cons, List.append_assoc]
    exact ih (c :: front) hrest

theorem start_of_isDigit {c : Char} (h : c.isDigit = true) : Scan.start c = some ([], .number [c]) := by
  have hspace : Scan.isSpace c = false := by
    rw [Bool.eq_false_iff]
    intro hspace
    simp only [Scan.isSpace, Bool.or_eq_true, beq_iff_eq] at hspace
    rcases hspace with ((rfl | rfl) | rfl) | rfl <;> exact absurd h (by decide)
  simp [Scan.start, hspace, h]

theorem scans_integer (negative : Bool) (n : Nat) (hrest : Delimited rest) :
    Scans (Number.chars ⟨negative, n, ""⟩) [.number ⟨negative, n, ""⟩] rest := by
  have hnumeric : ∀ c ∈ Number.chars ⟨negative, n, ""⟩, Scan.isNumeric c = true := by
    intro c hc
    rw [chars_integer, List.mem_append] at hc
    rcases hc with hc | hc
    · obtain rfl : c = '-' := by cases negative <;> simp_all
      decide
    · simp [Scan.isNumeric, isDigit_of_mem_toDigits hc]
  have hread := number?_chars negative n
  -- the first character is a sign or a digit
  obtain ⟨c, cs, hcons, hstart⟩ : ∃ c cs, Number.chars ⟨negative, n, ""⟩ = c :: cs ∧
      Scan.start c = some ([], .number [c]) := by
    rw [chars_integer]
    cases negative with
    | true => exact ⟨'-', _, rfl, by decide⟩
    | false =>
      obtain ⟨c, cs, hcons⟩ := List.exists_cons_of_ne_nil (Nat.toDigits_ne_nil (n := n) (b := 10))
      have hmem : c ∈ Nat.toDigits 10 n := by rw [hcons]; exact List.mem_cons_self
      exact ⟨c, cs, hcons, start_of_isDigit (isDigit_of_mem_toDigits hmem)⟩
  rw [hcons] at hnumeric hread ⊢
  intro found
  rw [List.map_cons, List.cons_append, Scan.run, Scan.step, hstart]
  dsimp only
  rw [run_number _ _ (List.forall_mem_cons.1 hnumeric).2]
  exact run_of_delimited _ hrest (.inl ⟨_, rfl⟩) (by simp [Scan.finish, hread])

/-! ### Strings -/

/-- In front of other pieces, the piece stands for the character. -/
def StandsFor (piece : Piece) (c : Char) : Prop :=
  ∀ pieces, charsOf (piece :: pieces) = (charsOf pieces).map (c :: ·)

theorem standsFor_char (c : Char) : StandsFor (.char c) c := fun _ => rfl

theorem standsFor_unit {c : Char} (h : c.toNat < 0x20) : StandsFor (.unit c.toNat) c := by
  intro pieces
  conv => lhs; unfold charsOf
  rw [if_neg (by omega), if_neg (by omega), Char.ofNat_toNat]

theorem hexValue?_hexDigit : ∀ n < 16, Text.hexValue? (Text.hexDigit n) = some n := by decide

/-- Within a string, the scanner takes what is written for a character for one piece, which stands for it. -/
theorem run_escapeChar (c : Char) (pieces : List Piece) (found : List Token) (rest : Units) :
    ∃ piece, StandsFor piece c ∧ Scan.run (.string pieces) found ((escapeChar c).map some ++ rest) =
      Scan.run (.string (piece :: pieces)) found rest := by
  unfold escapeChar
  split
  iterate 7 exact ⟨_, standsFor_char _, rfl⟩
  split
  · rename_i hcontrol
    refine ⟨_, standsFor_unit hcontrol, ?_⟩
    have hoctet : (UInt8.ofNat c.toNat).toNat = c.toNat :=
      UInt8.toNat_ofNat_of_lt' (Nat.lt_trans hcontrol (by decide))
    have hzero : Text.hexValue? '0' = some 0 := by decide
    have hhigh := hexValue?_hexDigit (c.toNat / 16) (by omega)
    have hlow := hexValue?_hexDigit (c.toNat % 16) (by omega)
    have hnumber : 16 * (c.toNat / 16) + c.toNat % 16 = c.toNat := by omega
    simp [Scan.run, Scan.step, Text.hexPair, hoctet, hzero, hhigh, hlow, hnumber]
  · rename_i hquote hbackslash _ _ _ _ _ hcontrol
    have hquote : c ≠ '"' := hquote
    have hbackslash : c ≠ '\\' := hbackslash
    refine ⟨_, standsFor_char _, ?_⟩
    simp [Scan.run, Scan.step, hquote, hbackslash, hcontrol]

/-- Within a string, the scanner takes what is written for a text for pieces that stand for it. -/
theorem run_escaped (text : List Char) (pieces : List Piece) (found : List Token) (rest : Units) :
    ∃ written, charsOf written = some text ∧
      Scan.run (.string pieces) found ((text.flatMap escapeChar).map some ++ rest) =
        Scan.run (.string (written.reverse ++ pieces)) found rest := by
  induction text generalizing pieces with
  | nil => exact ⟨[], rfl, rfl⟩
  | cons c text ih =>
    obtain ⟨piece, hpiece, hrun⟩ :=
      run_escapeChar c pieces found ((text.flatMap escapeChar).map some ++ rest)
    obtain ⟨written, hwritten, hrest⟩ := ih (piece :: pieces)
    refine ⟨piece :: written, ?_, ?_⟩
    · rw [hpiece, hwritten, Option.map_some]
    · rw [List.flatMap_cons, List.map_append, List.append_assoc, hrun, hrest, List.reverse_cons,
        List.append_assoc, List.singleton_append]

theorem scans_string (text : String) (rest : Units) :
    Scans (Token.string (some text)).chars [.string (some text)] rest := by
  intro found
  obtain ⟨written, hwritten, hrun⟩ := run_escaped text.toList [] found (some '"' :: rest)
  have htext : textOf written = some text := by
    rw [textOf, hwritten, Option.map_some, String.ofList_toList]
  have hquote (units : Units) :
      Scan.run .idle found (some '"' :: units) = Scan.run (.string []) found units := rfl
  simp only [Token.chars, Option.getD_some, List.map_cons, List.map_append, List.map_nil, List.cons_append,
    List.append_assoc, List.nil_append]
  rw [hquote, hrun, List.append_nil, Scan.run, Scan.step, if_pos (by decide), List.reverse_reverse, htext]

/-! ### Values -/

/-- A character that is a token by itself. -/
theorem Scans.cons {c : Char} {token : Token} (hc : Scan.start c = some ([token], .idle))
    (h : Scans cs tokens rest) : Scans (c :: cs) (token :: tokens) rest := by
  intro found
  rw [List.map_cons, List.cons_append, Scan.run, Scan.step, hc]
  dsimp only
  rw [h]
  simp

/-- Wherever something ends it, the scanner takes the text of the value for its tokens. -/
def IsScanned (value : Json) : Prop :=
  ∀ rest, Delimited rest → Scans (value.toTokens.flatMap Token.chars) value.toTokens rest

theorem delimited_restItems (items : List Json) :
    Delimited (((restItems items).flatMap Token.chars).map some ++ rest) := by
  cases items with
  | nil => rintro _ ⟨⟩; exact .inr (.inl rfl)
  | cons => rintro _ ⟨⟩; exact .inl rfl

theorem scans_restItems {items : List Json} (h : ∀ item ∈ items, IsScanned item) :
    Scans ((restItems items).flatMap Token.chars) (restItems items) rest := by
  induction items with
  | nil => exact Scans.cons rfl scans_nil
  | cons item items ih =>
    obtain ⟨hitem, hitems⟩ := List.forall_mem_cons.1 h
    rw [restItems, List.cons_append, List.flatMap_cons, List.flatMap_append]
    exact Scans.cons rfl ((hitem _ (delimited_restItems items)).append (ih hitems))

/-- The members of a record. -/
def membersOf (members : List (String × Json)) : List (Text × Json) :=
  members.map fun member => (some member.1, member.2)

theorem delimited_restMembers (members : List (String × Json)) :
    Delimited (((restMembers (membersOf members)).flatMap Token.chars).map some ++ rest) := by
  cases members with
  | nil => rintro _ ⟨⟩; exact .inr (.inr rfl)
  | cons => rintro _ ⟨⟩; exact .inl rfl

/-- A key with its value. -/
theorem scans_member (key : String) {value : Json} (hvalue : IsScanned value) (hrest : Delimited rest) :
    Scans ((Token.string (some key) :: .colon :: value.toTokens).flatMap Token.chars)
      (.string (some key) :: .colon :: value.toTokens) rest := by
  rw [List.flatMap_cons]
  exact (scans_string key _).append (.cons rfl (hvalue rest hrest))

theorem scans_restMembers {members : List (String × Json)} (h : ∀ member ∈ members, IsScanned member.2) :
    Scans ((restMembers (membersOf members)).flatMap Token.chars) (restMembers (membersOf members)) rest := by
  induction members with
  | nil => exact Scans.cons rfl scans_nil
  | cons member members ih =>
    obtain ⟨hmember, hmembers⟩ := List.forall_mem_cons.1 h
    rw [membersOf, List.map_cons, restMembers, ← membersOf, List.cons_append, List.flatMap_cons,
      List.flatMap_append]
    exact Scans.cons rfl ((scans_member _ hmember (delimited_restMembers members)).append (ih hmembers))

theorem Plain.isScanned {value : Json} (h : Plain value) : IsScanned value := by
  -- by induction on the value; the rest of an array or an object ends every item of it
  induction h with
  | null =>
    intro rest hrest
    exact scans_null hrest
  | bool value =>
    intro rest hrest
    cases value with
    | true => exact scans_bool true hrest
    | false => exact scans_bool false hrest
  | integer negative n =>
    intro rest hrest
    simpa [toTokens, Token.chars] using scans_integer negative n hrest
  | text text =>
    intro rest hrest
    simpa [toTokens, ofText] using scans_string text rest
  | @array items _ ih =>
    intro rest hrest
    cases items with
    | nil => exact Scans.cons rfl (Scans.cons rfl scans_nil)
    | cons item items =>
      obtain ⟨hitem, hitems⟩ := List.forall_mem_cons.1 ih
      rw [toTokens, List.cons_append, List.flatMap_cons, List.flatMap_append]
      exact Scans.cons rfl ((hitem _ (delimited_restItems items)).append (scans_restItems hitems))
  | @record members _ ih =>
    intro rest hrest
    cases members with
    | nil => exact Scans.cons rfl (Scans.cons rfl scans_nil)
    | cons member members =>
      obtain ⟨hmember, hmembers⟩ := List.forall_mem_cons.1 ih
      rw [Json.record, List.map_cons, toTokens, ← membersOf, List.cons_append, List.flatMap_cons,
        List.flatMap_append]
      exact Scans.cons rfl ((scans_member _ hmember (delimited_restMembers members)).append
        (scans_restMembers hmembers))

/-! ### Assembly -/

/-- In any place, the tokens of the value are assembled to it. -/
def IsAssembled (value : Json) : Prop :=
  ∀ stack tail, Assembly.run (.value stack) (value.toTokens ++ tail) =
    Assembly.run (.complete value stack) tail

theorem run_restItems {items : List Json} (h : ∀ item ∈ items, IsAssembled item) (done : List Json)
    (stack : List Frame) (tail : List Token) :
    Assembly.run (.separator (.array done) stack) (restItems items ++ tail) =
      Assembly.run (.complete (.array (done.reverse ++ items)) stack) tail := by
  induction items generalizing done with
  | nil => rw [List.append_nil]; rfl
  | cons item items ih =>
    obtain ⟨hitem, hitems⟩ := List.forall_mem_cons.1 h
    have hcomma : Assembly.run (.separator (.array done) stack) (restItems (item :: items) ++ tail) =
        Assembly.run (.value (.array done :: stack)) (item.toTokens ++ (restItems items ++ tail)) := by
      rw [restItems, List.cons_append, List.cons_append, List.append_assoc]
      rfl
    rw [hcomma, hitem, Assembly.complete, ih hitems, List.reverse_cons, List.append_assoc,
      List.singleton_append]

theorem run_restMembers {members : List (String × Json)} (h : ∀ member ∈ members, IsAssembled member.2)
    (done : List (Text × Json)) (key : Text) (stack : List Frame) (tail : List Token) :
    Assembly.run (.separator (.object done key) stack) (restMembers (membersOf members) ++ tail) =
      Assembly.run (.complete (.object (done.reverse ++ membersOf members)) stack) tail := by
  induction members generalizing done key with
  | nil =>
    rw [membersOf, List.map_nil, List.append_nil]
    rfl
  | cons member members ih =>
    obtain ⟨hmember, hmembers⟩ := List.forall_mem_cons.1 h
    have hcomma : Assembly.run (.separator (.object done key) stack)
          (restMembers (membersOf (member :: members)) ++ tail) =
        Assembly.run (.value (.object done (some member.1) :: stack))
          (member.2.toTokens ++ (restMembers (membersOf members) ++ tail)) := by
      rw [membersOf, List.map_cons, restMembers, ← membersOf, List.cons_append, List.cons_append,
        List.append_assoc]
      rfl
    rw [hcomma, hmember, Assembly.complete, ih hmembers, List.reverse_cons, List.append_assoc]
    rfl

/-- No value begins with a bracket that closes. -/
theorem Plain.run_firstItem {value : Json} (h : Plain value) (stack : List Frame) (tail : List Token) :
    Assembly.run (.firstItem stack) (value.toTokens ++ tail) =
      Assembly.run (.value (.array [] :: stack)) (value.toTokens ++ tail) := by
  cases h with
  | @array items _ => cases items <;> rfl
  | @record members _ => cases members <;> rfl
  | _ => rfl

theorem Plain.isAssembled {value : Json} (h : Plain value) : IsAssembled value := by
  induction h with
  | @array items hplain ih =>
    intro stack tail
    cases items with
    | nil => rfl
    | cons item items =>
      obtain ⟨hitem, hitems⟩ := List.forall_mem_cons.1 ih
      have hopen : Assembly.run (.value stack) ((Json.array (item :: items)).toTokens ++ tail) =
          Assembly.run (.firstItem stack) (item.toTokens ++ (restItems items ++ tail)) := by
        rw [toTokens, List.cons_append, List.cons_append, List.append_assoc]
        rfl
      rw [hopen, (hplain item List.mem_cons_self).run_firstItem, hitem, Assembly.complete, run_restItems hitems]
      rfl
  | @record members _ ih =>
    intro stack tail
    cases members with
    | nil => rfl
    | cons member members =>
      obtain ⟨hmember, hmembers⟩ := List.forall_mem_cons.1 ih
      have hopen : Assembly.run (.value stack) ((Json.record (member :: members)).toTokens ++ tail) =
          Assembly.run (.value (.object [] (some member.1) :: stack))
            (member.2.toTokens ++ (restMembers (membersOf members) ++ tail)) := by
        rw [Json.record, List.map_cons, toTokens, ← membersOf, List.cons_append, List.cons_append,
          List.append_assoc]
        rfl
      rw [hopen, hmember, Assembly.complete, run_restMembers hmembers]
      rfl
  | _ => exact fun _ _ => rfl

/-- **The text of a value is read back.** -/
theorem parse?_print {value : Json} (h : Plain value) : parse? value.print = some value := by
  have hscan := h.isScanned [] (by rintro _ ⟨⟩) []
  have hassemble := h.isAssembled [] []
  rw [List.append_nil] at hscan hassemble
  have htokens : tokens? (.ofString value.print) = some value.toTokens := by
    rw [tokens?, print, Units.ofString, String.toList_ofList, hscan]
    exact congrArg some (by simp)
  have hvalue : ofTokens? value.toTokens = some value := by
    rw [ofTokens?, hassemble]
    rfl
  rw [parse?, ofUnits?, htokens, Option.bind_some, hvalue]

end TenantStorage.Json
