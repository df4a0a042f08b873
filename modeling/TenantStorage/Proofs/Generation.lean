import TenantStorage.Proofs.LetterCase
import TenantStorage.Proofs.Password

namespace TenantStorage

/-!
# Which passwords are generated

Each choice of the generation can go any way it likes, since each number below a bound is the upper half of some
accepted product.  The exchanges move the last character into its place, then the one before it, and so on,
so they bring the characters into any order.

* `Words.Draw` — ways to draw a value from words, one after another.
* `Words.Steady` — words that are not taken do not matter, and words that do not suffice can be continued.
* `Words.Makes` — a value that can be drawn.
* `Words.makes_below` — every number below the bound; `Password.makes_choose` — every choice of characters;
  `Password.makes_shuffle` — every order.
* `Password.generated_iff` — the generated passwords are all texts of eight characters, two of them digits and six
  letters.
-/

variable {α β : Type}

namespace Words

/-! ### Drawing -/

/-- A way to draw a value from words, with the words that are left. -/
abbrev Draw (α : Type) := Words → Option (α × Words)

/-- The value is there, and no word is taken. -/
def give (a : α) : Draw α := fun words => some (a, words)

/-- Two draws, one after the other. -/
def andThen (draw : Draw α) (next : α → Draw β) : Draw β := fun words =>
  (draw words).bind fun drawn => next drawn.1 drawn.2

/-- What is drawn does not depend on the words behind those that are taken, and any words can be continued until
    it is drawn. -/
structure Steady (draw : Draw α) : Prop where
  append : ∀ {words left : Words} {a : α}, draw words = some (a, left) →
    ∀ more, draw (words ++ more) = some (a, left ++ more)
  completed : ∀ words : Words, ∃ more a left, draw (words ++ more) = some (a, left)

/-- Some words make the draw come to a value, and all of them are taken. -/
def Makes (draw : Draw α) (a : α) : Prop :=
  ∃ words : Words, ∀ more, draw (words ++ more) = some (a, more)

variable {draw : Draw α} {next : α → Draw β} {words left : Words} {a : α} {b : β}

theorem andThen_eq_some_iff : andThen draw next words = some (b, left) ↔
    ∃ a between, draw words = some (a, between) ∧ next a between = some (b, left) := by
  rw [andThen, Option.bind_eq_some_iff, Prod.exists]

theorem andThen_of_eq {between : Words} (h : draw words = some (a, between)) :
    andThen draw next words = next a between := by
  rw [andThen, h, Option.bind_some]

theorem Steady.give (a : α) : Steady (give a) where
  append h more := by
    obtain ⟨rfl, rfl⟩ := Prod.mk.inj (Option.some.inj h)
    rfl
  completed words := ⟨[], a, words ++ [], rfl⟩

/-- The second draw has to be steady for the values only that the first one comes to. -/
theorem Steady.andThen (h : Steady draw)
    (hnext : ∀ {a words left}, draw words = some (a, left) → Steady (next a)) :
    Steady (andThen draw next) where
  append hdrawn more := by
    obtain ⟨a, between, hfirst, hsecond⟩ := andThen_eq_some_iff.1 hdrawn
    rw [andThen_of_eq (h.append hfirst more)]
    exact (hnext hfirst).append hsecond more
  completed words := by
    obtain ⟨more, a, between, hfirst⟩ := h.completed words
    obtain ⟨further, b, left, hsecond⟩ := (hnext hfirst).completed between
    refine ⟨more ++ further, b, left, ?_⟩
    rw [← List.append_assoc, andThen_of_eq (h.append hfirst further), hsecond]

theorem Makes.give (a : α) : Makes (give a) a := ⟨[], fun _ => rfl⟩

theorem Makes.andThen (h : Makes draw a) (hnext : Makes (next a) b) : Makes (andThen draw next) b := by
  obtain ⟨words, hwords⟩ := h
  obtain ⟨further, hfurther⟩ := hnext
  refine ⟨words ++ further, fun more => ?_⟩
  rw [List.append_assoc, andThen_of_eq (hwords _), hfurther]

/-! ### Numbers below a bound -/

/-- Each number below `n` is the upper half of a product with `n` whose lower half is less than `n`. -/
theorem exists_factor {size n i : Nat} (hi : i < n) (hn : n ≤ size) :
    ∃ word < size, word * n % size < n ∧ word * n / size = i := by
  have hpos : 0 < n := Nat.zero_lt_of_lt hi
  have hsize : 0 < size := Nat.lt_of_lt_of_le hpos hn
  -- the least multiple of `n` that is not below `i * size` is less than `n` above it
  let excess := n - 1 - (i * size + (n - 1)) % n
  have hexcess : (i * size + (n - 1)) / n * n = i * size + excess := by
    have hdivision := Nat.div_add_mod' (i * size + (n - 1)) n
    have hrest := Nat.mod_lt (i * size + (n - 1)) hpos
    omega
  have hsmall : excess < n := by omega
  refine ⟨(i * size + (n - 1)) / n, ?_, ?_, ?_⟩
  · rw [Nat.div_lt_iff_lt_mul hpos, Nat.mul_comm size n]
    calc i * size + (n - 1) < i * size + size := by omega
      _ = (i + 1) * size := (Nat.succ_mul i size).symm
      _ ≤ n * size := Nat.mul_le_mul_right size hi
  · rw [hexcess, Nat.mul_add_mod_self_right, Nat.mod_eq_of_lt (Nat.lt_of_lt_of_le hsmall hn)]
    exact hsmall
  · rw [hexcess, Nat.add_comm, Nat.add_mul_div_right _ _ hsize,
      Nat.div_eq_of_lt (Nat.lt_of_lt_of_le hsmall hn), Nat.zero_add]

/-- Lower halves less than the bound are accepted. -/
theorem le_zone (bits n : Nat) : n - 1 ≤ zone bits n := by
  have hmultiple : n ≤ n * Nat.pow 2 (bits - bitLength n) := Nat.le_mul_of_pos_right n (Nat.two_pow_pos _)
  exact Nat.sub_le_sub_right hmultiple 1

/-- Every number below the bound can be drawn. -/
theorem makes_below {bits n i : Nat} (hbits : bits ≤ 64) (hi : i < n) (hn : n ≤ Nat.pow 2 bits) :
    Makes (below bits n) i := by
  obtain ⟨word, hword, hlow, hhigh⟩ := exists_factor hi hn
  have hfits : word < 2 ^ 64 := Nat.lt_of_lt_of_le hword (Nat.pow_le_pow_right (by omega) hbits)
  have hvalue : (UInt64.ofNat word).toNat % Nat.pow 2 bits = word := by
    rw [UInt64.toNat_ofNat_of_lt' hfits, Nat.mod_eq_of_lt hword]
  refine ⟨[UInt64.ofNat word], fun more => ?_⟩
  have haccepted : word * n % Nat.pow 2 bits ≤ zone bits n :=
    Nat.le_trans (Nat.le_sub_one_of_lt hlow) (le_zone bits n)
  simp only [List.singleton_append, below, hvalue, if_pos haccepted, hhigh]

/-- What is drawn is below the bound. -/
theorem lt_of_below {bits n i : Nat} (hn : 0 < n) (h : below bits n words = some (i, left)) : i < n := by
  induction words with
  | nil => cases h
  | cons word rest ih =>
    rw [below] at h
    split at h
    · cases h
      have hword : word.toNat % Nat.pow 2 bits < Nat.pow 2 bits := Nat.mod_lt _ (Nat.two_pow_pos bits)
      exact Nat.div_lt_of_lt_mul (Nat.mul_lt_mul_of_pos_right hword hn)
    · exact ih h

/-- A word that is not accepted is passed over. -/
theorem steady_below {bits n : Nat} (hbits : bits ≤ 64) (hpos : 0 < n) (hn : n ≤ Nat.pow 2 bits) :
    Steady (below bits n) where
  append {words left i} h more := by
    induction words with
    | nil => cases h
    | cons word rest ih =>
      rw [below] at h
      rw [List.cons_append, below]
      split at h
      · rw [if_pos ‹_›]
        cases h
        rfl
      · rw [if_neg ‹_›]
        exact ih h
  completed words := by
    induction words with
    | nil =>
      obtain ⟨enough, henough⟩ := makes_below hbits hpos hn
      exact ⟨enough ++ [], 0, [], henough []⟩
    | cons word rest ih =>
      obtain ⟨more, i, left, hmore⟩ := ih
      by_cases haccepted : word.toNat % Nat.pow 2 bits * n % Nat.pow 2 bits ≤ zone bits n
      · exact ⟨more, _, _, if_pos haccepted⟩
      · exact ⟨more, i, left, (if_neg haccepted).trans hmore⟩

end Words

namespace Password

open Words

variable {alphabet cs cs' : List Char} {words left : Words}

/-! ### Choosing characters -/

/-- The rest of a choice, when the place of its first character has been drawn. -/
theorem choose_succ (alphabet : List Char) (count : Nat) : choose alphabet (count + 1) =
    andThen (below 64 alphabet.length) fun i words => alphabet[i]?.bind fun c =>
      andThen (choose alphabet count) (fun rest => give (c :: rest)) words := rfl

theorem mem_of_choose {count : Nat} (h : choose alphabet count words = some (cs, left)) :
    ∀ c ∈ cs, c ∈ alphabet := by
  induction count generalizing words cs with
  | zero =>
    cases h
    simp
  | succ count ih =>
    rw [choose_succ] at h
    obtain ⟨i, _, -, hi⟩ := andThen_eq_some_iff.1 h
    obtain ⟨c, hc, hrest⟩ := Option.bind_eq_some_iff.1 hi
    obtain ⟨rest, _, hchosen, hgiven⟩ := andThen_eq_some_iff.1 hrest
    cases hgiven
    exact List.forall_mem_cons.2 ⟨List.mem_of_getElem? hc, ih hchosen⟩

/-- Every choice from an alphabet can be made. -/
theorem makes_choose (hfits : alphabet.length ≤ Nat.pow 2 64) (h : ∀ c ∈ cs, c ∈ alphabet) :
    Makes (choose alphabet cs.length) cs := by
  induction cs with
  | nil => exact .give []
  | cons c cs ih =>
    obtain ⟨hc, hcs⟩ := List.forall_mem_cons.1 h
    obtain ⟨i, hi, hplace⟩ := List.getElem_of_mem hc
    rw [List.length_cons, choose_succ]
    refine (makes_below (Nat.le_refl 64) hi hfits).andThen ?_
    simp only [List.getElem?_eq_getElem hi, hplace, Option.bind_some]
    exact (ih hcs).andThen (.give _)

theorem steady_choose (hpos : 0 < alphabet.length) (hfits : alphabet.length ≤ Nat.pow 2 64) (count : Nat) :
    Steady (choose alphabet count) := by
  induction count with
  | zero => exact .give []
  | succ count ih =>
    rw [choose_succ]
    refine (steady_below (Nat.le_refl 64) hpos hfits).andThen fun {i _ _} hi => ?_
    -- the place is one of the alphabet
    simp only [List.getElem?_eq_getElem (lt_of_below hpos hi), Option.bind_some]
    exact ih.andThen fun _ => .give _

/-! ### Shuffling -/

theorem swap_of_lt {i j : Nat} (hi : i < cs.length) (hj : j < cs.length) :
    swap cs i j = (cs.set i cs[j]).set j cs[i] := by
  rw [swap, List.getElem?_eq_getElem hi, List.getElem?_eq_getElem hj]

/-- An exchange keeps all characters. -/
theorem perm_swap (cs : List Char) (i j : Nat) : (swap cs i j).Perm cs := by
  unfold swap
  split
  · rename_i hfirst hsecond
    obtain ⟨hi, rfl⟩ := List.getElem?_eq_some_iff.1 hfirst
    obtain ⟨hj, rfl⟩ := List.getElem?_eq_some_iff.1 hsecond
    exact List.set_set_perm hi hj
  · exact .refl cs

/-- An exchange with a position before it brings a character into its place, and leaves those behind. -/
theorem drop_swap {i j : Nat} (hi : i < cs.length) (hj : j ≤ i) :
    (swap cs i j).drop i = cs[j] :: cs.drop (i + 1) := by
  have hlength : i < (swap cs i j).length := by rwa [length_swap]
  rw [List.drop_eq_getElem_cons hlength]
  simp only [swap_of_lt hi (Nat.lt_of_le_of_lt hj hi)]
  congr 1
  · rcases Nat.lt_or_eq_of_le hj with hlt | rfl
    · rw [List.getElem_set_ne (Nat.ne_of_lt hlt), List.getElem_set_self]
    · rw [List.getElem_set_self]
  · rw [List.drop_set_of_lt (Nat.lt_succ_of_le hj), List.drop_set_of_lt (Nat.lt_succ_self i)]

theorem shuffle_succ (i : Nat) (cs : List Char) : shuffle (i + 1) cs =
    andThen (below 32 (i + 2)) fun j => shuffle i (swap cs (i + 1) j) := rfl

/-- A shuffle keeps all characters. -/
theorem perm_of_shuffle {i : Nat} (h : shuffle i cs words = some (cs', left)) : cs'.Perm cs := by
  induction i generalizing cs words with
  | zero =>
    cases h
    exact .refl _
  | succ i ih =>
    rw [shuffle_succ] at h
    obtain ⟨j, _, -, hrest⟩ := andThen_eq_some_iff.1 h
    exact (ih hrest).trans (perm_swap cs (i + 1) j)

/-- Where two orders agree from some position on, the characters before it are the same. -/
theorem perm_take {n : Nat} (hperm : cs.Perm cs') (hbehind : cs.drop n = cs'.drop n) :
    (cs.take n).Perm (cs'.take n) := by
  rw [← List.perm_append_right_iff (cs.drop n), List.take_append_drop, hbehind, List.take_append_drop]
  exact hperm

/-- Every order can be made in which what stands behind the positions to come is as it has to be. -/
theorem makes_shuffle {i : Nat} (hi : i < cs.length) (hfits : i + 1 ≤ Nat.pow 2 32) (hperm : cs.Perm cs')
    (hbehind : cs.drop (i + 1) = cs'.drop (i + 1)) : Makes (shuffle i cs) cs' := by
  induction i generalizing cs with
  | zero =>
    -- all but the first character are in place, so the first is, too
    have hfirst := perm_take hperm hbehind
    obtain ⟨c, rest, rfl⟩ := List.exists_cons_of_length_pos hi
    obtain ⟨c', rest', rfl⟩ := List.exists_cons_of_length_pos (hperm.length_eq ▸ hi)
    obtain rfl : rest = rest' := hbehind
    obtain rfl : c = c' := by simpa using hfirst
    exact .give _
  | succ i ih =>
    have hi' : i + 1 < cs'.length := hperm.length_eq ▸ hi
    -- the character that belongs to the last of the positions to come stands at one of them
    obtain ⟨j, hj, _, hplace⟩ : ∃ j, j < i + 2 ∧ ∃ h : j < cs.length, cs[j] = cs'[i + 1] := by
      have hmem : cs'[i + 1] ∈ cs.take (i + 2) :=
        (perm_take hperm hbehind).mem_iff.2 (List.mem_take_iff_getElem.2 ⟨i + 1, by omega, rfl⟩)
      obtain ⟨j, hj, hplace⟩ := List.mem_take_iff_getElem.1 hmem
      exact ⟨j, by omega, by omega, hplace⟩
    have hmoved : (swap cs (i + 1) j).drop (i + 1) = cs'.drop (i + 1) := by
      rw [drop_swap hi (Nat.le_of_lt_succ hj), hplace, hbehind, ← List.drop_eq_getElem_cons hi']
    have hlength : i < (swap cs (i + 1) j).length := by
      rw [length_swap]
      exact Nat.lt_of_succ_lt hi
    rw [shuffle_succ]
    exact (makes_below (by decide) hj hfits).andThen
      (ih hlength (Nat.le_of_succ_le hfits) ((perm_swap cs (i + 1) j).trans hperm) hmoved)

theorem steady_shuffle {i : Nat} (hfits : i + 1 ≤ Nat.pow 2 32) (cs : List Char) : Steady (shuffle i cs) := by
  induction i generalizing cs with
  | zero => exact .give cs
  | succ i ih =>
    rw [shuffle_succ]
    exact (steady_below (by decide) (Nat.succ_pos _) hfits).andThen fun _ => ih (Nat.le_of_succ_le hfits) _

/-! ### The whole password -/

theorem generate_eq : generate = andThen (choose digits digitCount) fun ds =>
    andThen (choose letters (length - digitCount)) fun ls =>
      andThen (shuffle (length - 1) (ds ++ ls)) fun cs => give (String.ofList cs) := rfl

theorem isAlphanum_lt {c : Char} (h : c.isAlphanum = true) : c.toNat < 128 := by
  have hkinds : ((decide (c.val ≥ 'A'.val ∧ c.val ≤ 'Z'.val) || c.val ≥ 'a'.val && c.val ≤ 'z'.val) ||
      c.val ≥ '0'.val && c.val ≤ '9'.val) = true := h
  simp only [Bool.or_eq_true, Bool.and_eq_true, decide_eq_true_eq, UInt32.le_iff_toNat_le, ge_iff_le] at hkinds
  have hupper : c.toNat = c.val.toNat := rfl
  have hbounds : 'Z'.val.toNat = 90 ∧ 'z'.val.toNat = 122 ∧ '9'.val.toNat = 57 := by decide
  omega

theorem mem_digits_of_isDigit {c : Char} (h : c.isDigit = true) : c ∈ digits := by
  have hall : ∀ n < 128, (Char.ofNat n).isDigit = true → Char.ofNat n ∈ digits := by decide
  have hascii : c.toNat < 128 := isAlphanum_lt (by simp [Char.isAlphanum, h])
  exact Text.ascii_forall (P := fun c => c.isDigit = true → c ∈ digits) hall hascii h

theorem mem_letters_of_isAlpha {c : Char} (h : c.isAlpha = true) : c ∈ letters := by
  have hall : ∀ n < 128, (Char.ofNat n).isAlpha = true → Char.ofNat n ∈ letters := by decide
  have hascii : c.toNat < 128 := isAlphanum_lt (by simp [Char.isAlphanum, h])
  exact Text.ascii_forall (P := fun c => c.isAlpha = true → c ∈ letters) hall hascii h

theorem kind_of_mem_digits : ∀ c ∈ digits, c.isDigit = true ∧ c.isAlpha = false := by
  have hall : digits.all (fun c => c.isDigit && !c.isAlpha) = true := by decide
  simpa using hall

theorem kind_of_mem_letters : ∀ c ∈ letters, c.isDigit = false ∧ c.isAlpha = true := by
  have hall : letters.all (fun c => !c.isDigit && c.isAlpha) = true := by decide
  simpa using hall

/-- What is chosen from an alphabet has what all its characters have. -/
theorem countP_of_choose (has : Bool) {count : Nat} (h : choose alphabet count words = some (cs, left))
    {p : Char → Bool} (hp : ∀ c ∈ alphabet, p c = has) : cs.countP p = if has then count else 0 := by
  have hcs : ∀ c ∈ cs, p c = has := fun c hc => hp c (mem_of_choose h c hc)
  cases has with
  | true => rw [if_pos rfl, List.countP_eq_length.2 hcs, length_of_choose h]
  | false => simpa using hcs

/-- Texts of eight ASCII characters, two of them digits and six letters. -/
structure Shape (text : String) : Prop where
  length_eq : text.toList.length = 8
  digits_eq : text.toList.countP Char.isDigit = 2
  letters_eq : text.toList.countP Char.isAlpha = 6

/-- Whatever the words are, two digits and six letters are put into some order. -/
theorem shape_of_generate {text : String} (h : generate words = some (text, left)) : Shape text := by
  have hlength := length_of_generate h
  rw [generate_eq] at h
  obtain ⟨ds, _, hds, hrest⟩ := andThen_eq_some_iff.1 h
  obtain ⟨ls, _, hls, hmixed⟩ := andThen_eq_some_iff.1 hrest
  obtain ⟨cs, _, hcs, hgiven⟩ := andThen_eq_some_iff.1 hmixed
  cases hgiven
  have hcount (p : Char → Bool) : (String.ofList cs).toList.countP p = ds.countP p + ls.countP p := by
    rw [String.toList_ofList, (perm_of_shuffle hcs).countP_eq, List.countP_append]
  constructor
  · exact hlength
  · rw [hcount, countP_of_choose true hds fun c hc => (kind_of_mem_digits c hc).1,
      countP_of_choose false hls fun c hc => (kind_of_mem_letters c hc).1]
    rfl
  · rw [hcount, countP_of_choose false hds fun c hc => (kind_of_mem_digits c hc).2,
      countP_of_choose true hls fun c hc => (kind_of_mem_letters c hc).2]
    rfl

/-- A text of this shape is an order of its digits and its letters. -/
theorem Shape.makes {text : String} (h : Shape text) : Makes generate text := by
  let ds := text.toList.filter Char.isDigit
  let ls := text.toList.filter fun c => !c.isDigit
  have hds : ds.length = 2 := List.countP_eq_length_filter.symm.trans h.digits_eq
  have horder : (ds ++ ls).Perm text.toList := List.filter_append_perm _ _
  have hls : ls.length = 6 := by
    have hlength := horder.length_eq
    rw [List.length_append, hds, h.length_eq] at hlength
    omega
  -- there is no room for characters that are neither
  have hletters : ∀ c ∈ ls, c.isAlpha = true := by
    have hall : ls.countP Char.isAlpha = text.toList.countP Char.isAlpha := by
      rw [List.countP_filter]
      refine List.countP_congr fun c _ => ?_
      cases halpha : c.isAlpha with
      | true => simp [(kind_of_mem_letters c (mem_letters_of_isAlpha halpha)).1]
      | false => simp
    rw [← List.countP_eq_length, hall, h.letters_eq, hls]
  have hmakesDigits : Makes (choose digits digitCount) ds := by
    have hmakes : Makes (choose digits ds.length) ds :=
      makes_choose (by decide) fun c hc => mem_digits_of_isDigit (List.mem_filter.1 hc).2
    rwa [hds] at hmakes
  have hmakesLetters : Makes (choose letters (length - digitCount)) ls := by
    have hmakes : Makes (choose letters ls.length) ls :=
      makes_choose (by decide) fun c hc => mem_letters_of_isAlpha (hletters c hc)
    rwa [hls] at hmakes
  have hlast : 7 < (ds ++ ls).length := by rw [horder.length_eq, h.length_eq]; decide
  have hmakesOrder : Makes (shuffle (length - 1) (ds ++ ls)) text.toList :=
    makes_shuffle hlast (by decide) horder (by
      rw [List.drop_of_length_le, List.drop_of_length_le]
      · exact Nat.le_of_eq h.length_eq
      · exact Nat.le_of_eq (horder.length_eq.trans h.length_eq))
  rw [generate_eq]
  refine hmakesDigits.andThen (hmakesLetters.andThen (hmakesOrder.andThen ?_))
  rw [String.ofList_toList]
  exact .give text

theorem steady_generate : Steady generate := by
  rw [generate_eq]
  refine (steady_choose (by decide) (by decide) _).andThen fun _ =>
    (steady_choose (by decide) (by decide) _).andThen fun _ =>
      (steady_shuffle (by decide) _).andThen fun _ => .give _

/-- **The generated passwords are the texts of eight ASCII characters of which two are digits and six letters.**
    Words that make one make it whatever words come behind, and no words lead to where nothing is generated any
    more. -/
theorem generated_iff :
    (∀ text, (∃ words left, generate words = some (text, left)) ↔ Shape text) ∧
    (∀ text, Shape text ↔ ∃ words, ∀ more, generate (words ++ more) = some (text, more)) ∧
      ∀ words, ∃ more text left, generate (words ++ more) = some (text, left) := by
  have hiff (text : String) : (∃ words left, generate words = some (text, left)) ↔ Shape text := by
    constructor
    · rintro ⟨words, left, h⟩
      exact shape_of_generate h
    · intro h
      obtain ⟨words, hwords⟩ := h.makes
      exact ⟨words ++ [], [], hwords []⟩
  refine ⟨hiff, fun text => ⟨Shape.makes, ?_⟩, steady_generate.completed⟩
  rintro ⟨words, hwords⟩
  exact shape_of_generate (hwords [])

end Password

end TenantStorage
