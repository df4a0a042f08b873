import Mathlib.Data.List.TakeWhile
import TenantStorage.Address
import TenantStorage.Proofs.Json

namespace TenantStorage.Address

/-!
# Addresses are read back

* `readOctet_toDigits`, `readGroup_hexChars` — the numerals of octets and groups are read.
* `readV4_text`, `readV4_eq_none` — four octets are read, and nothing is without a dot.
* `readGroups_join` — groups between colons are read up to where they end, `EndsGroups`.
* `longestZeros_spec` — the run that two colons stand for consists of zeros.
* `groups_ofGroups` — two groups are restored from the octets that are written for them.
* `V6.Canonical` — the three shapes that the canonical form of eight groups can have.
* `parse?_text` — an address is what its canonical form is read as.
-/

/-- The characters do not go on with a character of some kind. -/
def StopsAt (kind : Char → Bool) (rest : List Char) : Prop := ∀ c ∈ rest.head?, kind c = false

section

variable {kind : Char → Bool} {front rest : List Char}

/-- Up to where they stop, characters of a kind are taken. -/
theorem takeWhile_append_rest (hfront : ∀ c ∈ front, kind c = true) (hrest : StopsAt kind rest) :
    (front ++ rest).takeWhile kind = front := by
  rw [List.takeWhile_append_of_pos hfront]
  cases rest with
  | nil => exact List.append_nil _
  | cons c rest =>
    have hstop : kind c = false := hrest c rfl
    simp [hstop]

theorem dropWhile_append_rest (hfront : ∀ c ∈ front, kind c = true) (hrest : StopsAt kind rest) :
    (front ++ rest).dropWhile kind = rest := by
  rw [List.dropWhile_append_of_pos hfront]
  cases rest with
  | nil => rfl
  | cons c rest =>
    have hstop : kind c = false := hrest c rfl
    simp [hstop]

end

variable {rest : List Char}

/-! ### Octets -/

theorem decimal_toDigits (n : Nat) : decimal (Nat.toDigits 10 n) = n := Json.decimal_toDigits n

/-- The numeral of an octet is read. -/
theorem readOctet_toDigits (n : UInt8) (hrest : StopsAt Char.isDigit rest) :
    readOctet (Nat.toDigits 10 n.toNat ++ rest) = some (n, rest) := by
  have hdigits : ∀ c ∈ Nat.toDigits 10 n.toNat, c.isDigit = true := fun _ => Json.isDigit_of_mem_toDigits
  have hlt : n.toNat < 256 := n.toNat_lt
  have hlength : (Nat.toDigits 10 n.toNat).length ≤ 3 :=
    (Nat.length_toDigits_le_iff (by decide) (by decide)).2 (by omega)
  have hleading := Json.not_leading_zero n.toNat
  simp only [readOctet, takeWhile_append_rest hdigits hrest, dropWhile_append_rest hdigits hrest, decimal_toDigits]
  rw [if_neg, UInt8.ofNat_toNat]
  simp only [Bool.or_eq_true, Bool.and_eq_true, beq_iff_eq, List.isEmpty_iff, decide_eq_true_eq, Nat.toDigits_ne_nil,
    false_or, not_or]
  exact ⟨⟨by omega, hleading⟩, by omega⟩

theorem stopsAt_dot (cs : List Char) : StopsAt Char.isDigit ('.' :: cs) := by
  rintro _ ⟨⟩
  decide

/-- Four octets between dots are read. -/
theorem readV4_text (octets : V4) (hrest : StopsAt Char.isDigit rest) :
    readV4 (octets.text ++ rest) = some (octets, rest) := by
  have htext : octets.text ++ rest = Nat.toDigits 10 octets.a.toNat ++ '.' :: (Nat.toDigits 10 octets.b.toNat ++
      '.' :: (Nat.toDigits 10 octets.c.toNat ++ '.' :: (Nat.toDigits 10 octets.d.toNat ++ rest))) := by
    simp [V4.text]
  simp only [readV4, htext, readOctet_toDigits _ (stopsAt_dot _), readDotOctet, readOctet_toDigits _ hrest,
    Option.bind_eq_bind, Option.bind_some]
  rfl

theorem readV4_whole (octets : V4) : readV4 octets.text = some (octets, []) := by
  have hread := @readV4_text [] octets nofun
  rwa [List.append_nil] at hread

/-- Without a dot, there are no four octets. -/
theorem readV4_eq_none {cs : List Char} (h : '.' ∉ cs) : readV4 cs = none := by
  -- whatever the first octet is, no dot follows it
  have hrest : ∀ a rest, readOctet cs = some (a, rest) → readDotOctet rest = none := by
    intro a rest hread
    have hdrop : rest = cs.dropWhile Char.isDigit := by
      simp only [readOctet] at hread
      split at hread
      · cases hread
      · exact (Prod.mk.inj (Option.some.inj hread)).2.symm
    rw [readDotOctet]
    rintro rest' rfl
    have hdot : '.' ∈ cs.dropWhile Char.isDigit := hdrop ▸ List.mem_cons_self
    exact h ((List.dropWhile_sublist _).subset hdot)
  rw [readV4]
  cases hread : readOctet cs with
  | none => rfl
  | some found => simp [hrest found.1 found.2 hread]

/-! ### Groups -/

theorem hexChars_ne_nil (n : Nat) : Text.hexChars n ≠ [] := by
  rw [Text.hexChars]
  split <;> simp

/-- The numeral of a number below a power of sixteen has no more digits than the exponent. -/
theorem length_hexChars_le {n : Nat} (k : Nat) (h : n < Nat.pow 16 (k + 1)) :
    (Text.hexChars n).length ≤ k + 1 := by
  induction k generalizing n with
  | zero =>
    have hlt : n < 16 := h
    rw [Text.hexChars, if_pos hlt]
    rfl
  | succ k ih =>
    rw [Text.hexChars]
    split
    · exact Nat.le_add_left _ _
    · have hpow : Nat.pow 16 (k + 2) = Nat.pow 16 (k + 1) * 16 := rfl
      have hrest := ih (n := n / 16) (Nat.div_lt_of_lt_mul (by rwa [Nat.mul_comm, ← hpow]))
      rw [List.length_append, List.length_singleton]
      omega

theorem isHexDigit_of_mem_hexChars {n : Nat} {c : Char} (h : c ∈ Text.hexChars n) : isHexDigit c = true := by
  induction n using Nat.strongRecOn with
  | ind n ih =>
    have hdigit (d : Nat) (hd : d < 16) : isHexDigit (Text.hexDigit d) = true := by
      rw [isHexDigit, Json.hexValue?_hexDigit d hd]
      rfl
    rw [Text.hexChars] at h
    split at h
    · obtain rfl := List.mem_singleton.1 h
      exact hdigit n ‹_›
    · rcases List.mem_append.1 h with hfront | hlast
      · exact ih (n / 16) (by omega) hfront
      · obtain rfl := List.mem_singleton.1 hlast
        exact hdigit (n % 16) (Nat.mod_lt _ (by decide))

/-- The numeral of a number stands for the number. -/
theorem hexadecimal_hexChars (n : Nat) : hexadecimal (Text.hexChars n) = n := by
  induction n using Nat.strongRecOn with
  | ind n ih =>
    rw [Text.hexChars]
    split
    · simp [hexadecimal, Json.hexValue?_hexDigit n ‹_›]
    · have hfront := ih (n / 16) (by omega)
      have hlast := Json.hexValue?_hexDigit (n % 16) (Nat.mod_lt _ (by decide))
      rw [hexadecimal] at hfront ⊢
      rw [List.foldl_append, hfront, List.foldl_cons, List.foldl_nil, hlast, Option.getD_some]
      omega

/-- The numeral of a group is read. -/
theorem readGroup_hexChars (g : UInt16) (hrest : StopsAt isHexDigit rest) :
    readGroup (Text.hexChars g.toNat ++ rest) = some (g, rest) := by
  have hdigits : ∀ c ∈ Text.hexChars g.toNat, isHexDigit c = true := fun _ => isHexDigit_of_mem_hexChars
  have hlt : g.toNat < 65536 := g.toNat_lt
  have hlength : (Text.hexChars g.toNat).length ≤ 4 := length_hexChars_le 3 hlt
  simp only [readGroup, takeWhile_append_rest hdigits hrest, dropWhile_append_rest hdigits hrest,
    hexadecimal_hexChars, UInt16.ofNat_toNat]
  rw [if_neg]
  simp only [Bool.or_eq_true, List.isEmpty_iff, decide_eq_true_eq, hexChars_ne_nil, false_or]
  omega

theorem dot_not_mem_hexChars (n : Nat) : '.' ∉ Text.hexChars n := by
  intro h
  exact absurd (isHexDigit_of_mem_hexChars h) (by decide)

/-! ### Groups between colons -/

/-- A group behind a colon. -/
def colonGroup (g : UInt16) : List Char := ':' :: Text.hexChars g.toNat

theorem joinGroups_cons (g : UInt16) (groups : List UInt16) :
    joinGroups (g :: groups) = Text.hexChars g.toNat ++ groups.flatMap colonGroup := by
  induction groups generalizing g with
  | nil => simp [joinGroups]
  | cons next groups ih =>
    have hrest := ih next
    simp only [joinGroups, List.map_cons, List.flatMap_cons, colonGroup] at hrest ⊢
    rw [List.intercalate_cons_cons, hrest]
    simp

/-- Characters behind groups, with which no other group begins: there are none, or two colons. -/
def EndsGroups (rest : List Char) : Prop := rest = [] ∨ ∃ later, rest = ':' :: ':' :: later

theorem EndsGroups.readGroups_eq (h : EndsGroups rest) (limit : Nat) (first : Bool) :
    readGroups limit first rest = ([], false, rest) := by
  cases limit with
  | zero => rfl
  | succ limit =>
    rcases h with rfl | ⟨later, rfl⟩
    all_goals cases first <;> cases limit <;> rfl

theorem stopsAt_colon (cs : List Char) : StopsAt isHexDigit (':' :: cs) := by
  rintro _ ⟨⟩
  decide

theorem EndsGroups.stopsAt (h : EndsGroups rest) : StopsAt isHexDigit rest := by
  rcases h with rfl | ⟨later, rfl⟩
  · rintro _ ⟨⟩
  · exact stopsAt_colon _

theorem stopsAt_colonGroups (groups : List UInt16) (h : StopsAt isHexDigit rest) :
    StopsAt isHexDigit (groups.flatMap colonGroup ++ rest) := by
  cases groups with
  | nil => exact h
  | cons g groups => exact stopsAt_colon _

theorem dot_not_mem_colonGroups (groups : List UInt16) : '.' ∉ groups.flatMap colonGroup := by
  intro h
  obtain ⟨g, -, hg⟩ := List.mem_flatMap.1 h
  rcases List.mem_cons.1 hg with hcolon | hdigit
  · exact absurd hcolon (by decide)
  · exact dot_not_mem_hexChars _ hdigit

theorem dot_not_mem_append (groups : List UInt16) (hdot : '.' ∉ rest) : '.' ∉ groups.flatMap colonGroup ++ rest :=
  fun h => (List.mem_append.1 h).elim (dot_not_mem_colonGroups groups) hdot

theorem readV4_hexChars (n : Nat) (hdot : '.' ∉ rest) : readV4 (Text.hexChars n ++ rest) = none :=
  readV4_eq_none fun h => (List.mem_append.1 h).elim (dot_not_mem_hexChars n) hdot

/-- A group that is not the first of four octets is read, and then what follows it. -/
theorem readGroups_group {cs : List Char} {first : Bool} (limit : Nat) (g : UInt16)
    (hcs : afterColon first cs = some (Text.hexChars g.toNat ++ rest))
    (hnone : readV4 (Text.hexChars g.toNat ++ rest) = none) (hrest : StopsAt isHexDigit rest) :
    readGroups (limit + 1) first cs =
      (g :: (readGroups limit false rest).1, (readGroups limit false rest).2) := by
  simp only [readGroups, hcs, hnone, ite_self, readGroup_hexChars g hrest]

/-- Groups behind colons are read up to where they end. -/
theorem readGroups_colonGroups {groups : List UInt16} {limit : Nat} (hlimit : groups.length ≤ limit)
    (hdot : '.' ∉ rest) (hrest : EndsGroups rest) :
    readGroups limit false (groups.flatMap colonGroup ++ rest) = (groups, false, rest) := by
  -- by induction on the groups; the limit falls with every group that is read
  induction groups generalizing limit with
  | nil => exact hrest.readGroups_eq limit false
  | cons g groups ih =>
    obtain ⟨limit, rfl⟩ : ∃ n, limit = n + 1 := Nat.exists_eq_add_one.2 (Nat.lt_of_lt_of_le (Nat.succ_pos _) hlimit)
    have hnone := readV4_hexChars g.toNat (dot_not_mem_append groups hdot)
    have hcs : afterColon false ((g :: groups).flatMap colonGroup ++ rest) =
        some (Text.hexChars g.toNat ++ (groups.flatMap colonGroup ++ rest)) := by
      simp [colonGroup, afterColon]
    rw [readGroups_group limit g hcs hnone (stopsAt_colonGroups groups hrest.stopsAt),
      ih (Nat.le_of_succ_le_succ hlimit)]

/-- Groups with colons between them are read up to where they end. -/
theorem readGroups_join {groups : List UInt16} {limit : Nat} (hlimit : groups.length ≤ limit)
    (hdot : '.' ∉ rest) (hrest : EndsGroups rest) :
    readGroups limit true (joinGroups groups ++ rest) = (groups, false, rest) := by
  cases groups with
  | nil => exact hrest.readGroups_eq limit true
  | cons g groups =>
    obtain ⟨limit, rfl⟩ : ∃ n, limit = n + 1 := Nat.exists_eq_add_one.2 (Nat.lt_of_lt_of_le (Nat.succ_pos _) hlimit)
    have hnone := readV4_hexChars g.toNat (dot_not_mem_append groups hdot)
    have hcs : afterColon true (joinGroups (g :: groups) ++ rest) =
        some (Text.hexChars g.toNat ++ (groups.flatMap colonGroup ++ rest)) := by
      rw [joinGroups_cons, List.append_assoc]
      obtain ⟨c, digits, hdigits⟩ := List.exists_cons_of_ne_nil (hexChars_ne_nil g.toNat)
      rw [hdigits]
      rfl
    rw [readGroups_group limit g hcs hnone (stopsAt_colonGroups groups hrest.stopsAt),
      readGroups_colonGroups (Nat.le_of_succ_le_succ hlimit) hdot hrest]

theorem readGroups_whole {groups : List UInt16} {limit : Nat} (hlimit : groups.length ≤ limit) :
    readGroups limit true (joinGroups groups) = (groups, false, []) := by
  have hread := @readGroups_join [] groups limit hlimit List.not_mem_nil (.inl rfl)
  rwa [List.append_nil] at hread

/-! ### The run of zeros -/

theorem take_zerosAhead (groups : List UInt16) :
    groups.take (zerosAhead groups) = List.replicate (zerosAhead groups) 0 := by
  refine List.eq_replicate_iff.2 ⟨?_, fun g hg => ?_⟩
  · exact List.length_take_of_le (List.takeWhile_prefix _).length_le
  · rw [zerosAhead, ← List.prefix_iff_eq_take.1 (List.takeWhile_prefix _)] at hg
    simpa using List.mem_takeWhile_imp hg

/-- The run that is found consists of zeros. -/
theorem longestZeros_spec (groups : List UInt16) {start length : Nat} (h : longestZeros groups = (start, length)) :
    groups = groups.take start ++ List.replicate length 0 ++ groups.drop (start + length) := by
  induction groups generalizing start length with
  | nil =>
    cases h
    rfl
  | cons g groups ih =>
    simp only [longestZeros] at h
    split at h
    · -- the run at the front is as long as any behind it
      cases h
      have hzeros := take_zerosAhead (g :: groups)
      rw [List.take_zero, List.nil_append, Nat.zero_add, ← hzeros, List.take_append_drop]
    · cases h
      have hrest : groups = groups.take (longestZeros groups).1 ++ List.replicate (longestZeros groups).2 0 ++
          groups.drop ((longestZeros groups).1 + (longestZeros groups).2) := ih rfl
      rw [List.take_succ_cons, Nat.add_right_comm, List.drop_succ_cons]
      simpa using hrest

/-! ### Octets in groups -/

/-- A group is restored from its two octets. -/
theorem octets_of_group (g : UInt16) : (g >>> 8).toUInt8.toUInt16 <<< 8 ||| g.toUInt8.toUInt16 = g := by
  have hlt : g.toNat < 65536 := g.toNat_lt
  have height : UInt16.toNat 8 % 16 = 8 := by decide
  -- the shifted octet and the other one have no bit in common
  have hjoin := Nat.shiftLeft_add_eq_or_of_lt (i := 8) (Nat.mod_lt g.toNat (by decide)) (g.toNat / 256)
  have hhigh : g.toNat >>> 8 % 2 ^ 8 = g.toNat / 256 := by
    rw [Nat.shiftRight_eq_div_pow]
    omega
  have hshift : (g.toNat / 256) <<< 8 = g.toNat / 256 * 256 := Nat.shiftLeft_eq _ _
  have hfits : (g.toNat / 256) <<< 8 % 2 ^ 16 = (g.toNat / 256) <<< 8 := by omega
  refine UInt16.toNat_inj.1 ?_
  simp only [UInt16.toNat_or, UInt16.toNat_shiftLeft, UInt8.toNat_toUInt16, UInt16.toNat_toUInt8,
    UInt16.toNat_shiftRight, height, hhigh, hfits, ← hjoin]
  omega

/-- Two groups are restored from the octets that stand for them. -/
theorem groups_ofGroups (high low : UInt16) : (V4.ofGroups high low).groups = [high, low] := by
  simp only [V4.groups, V4.ofGroups, octets_of_group]

/-! ### Eight groups -/

theorem dot_not_mem_joinGroups (groups : List UInt16) : '.' ∉ joinGroups groups := by
  cases groups with
  | nil => exact List.not_mem_nil
  | cons g groups =>
    rw [joinGroups_cons]
    exact fun h => (List.mem_append.1 h).elim (dot_not_mem_hexChars _) (dot_not_mem_colonGroups groups)

/-- The canonical form has octets behind a fixed front, or it has all groups, or those before and after a run of two
    or more zeros. -/
inductive V6.Canonical (address : V6) : List Char → Prop where
  | mapped (high low : UInt16) (h : address.groups = [0, 0, 0, 0, 0, 0xffff, high, low]) :
      Canonical address ([':', ':', 'f', 'f', 'f', 'f', ':'] ++ (V4.ofGroups high low).text)
  | full : Canonical address (joinGroups address.groups)
  | short (head tail : List UInt16) (zeros : Nat) (hzeros : 1 < zeros)
      (h : address.groups = head ++ List.replicate zeros 0 ++ tail) :
      Canonical address (joinGroups head ++ [':', ':'] ++ joinGroups tail)

theorem canonical_text (address : V6) : address.Canonical address.text := by
  unfold V6.text
  split
  · exact .mapped _ _ ‹_›
  · have hspec := longestZeros_spec address.groups rfl
    dsimp only
    split
    · exact .full
    · exact .short _ _ _ (Nat.lt_of_not_le ‹_›) hspec

theorem ofGroups?_groups (address : V6) : V6.ofGroups? address.groups = some address := dif_pos address.length_eq

/-- Behind the two colons of the mapped form, a group and four octets are read. -/
theorem readGroups_mapped (octets : V4) :
    readGroups 7 true (['f', 'f', 'f', 'f', ':'] ++ octets.text) = (0xffff :: octets.groups, true, []) := by
  have hdigits : ['f', 'f', 'f', 'f'] = Text.hexChars (0xffff : UInt16).toNat := by decide +kernel
  have hoctets (limit : Nat) : readGroups (limit + 2) false (':' :: octets.text) = (octets.groups, true, []) := by
    simp [readGroups, afterColon, readV4_whole]
  have hfront : ['f', 'f', 'f', 'f', ':'] ++ octets.text =
      Text.hexChars (0xffff : UInt16).toNat ++ ':' :: octets.text := by
    rw [← hdigits]
    rfl
  have hcs : afterColon true (['f', 'f', 'f', 'f', ':'] ++ octets.text) =
      some (Text.hexChars (0xffff : UInt16).toNat ++ ':' :: octets.text) := by
    rw [← hfront]
    rfl
  have hnone : readV4 (Text.hexChars (0xffff : UInt16).toNat ++ ':' :: octets.text) = none := by
    rw [← hfront]
    rfl
  rw [readGroups_group 6 0xffff hcs hnone (stopsAt_colon _), hoctets 4]

/-- Eight groups are read back from a canonical form. -/
theorem V6.Canonical.readV6_eq {address : V6} {cs : List Char} (h : address.Canonical cs) :
    readV6 cs = some (address, []) := by
  have hgroups := ofGroups?_groups address
  have hlength := address.length_eq
  cases h with
  | mapped high low h =>
    -- there is no group before the two colons, and five are missing
    have hends : EndsGroups ([':', ':', 'f', 'f', 'f', 'f', ':'] ++ (V4.ofGroups high low).text) := .inr ⟨_, rfl⟩
    have htail := readGroups_mapped (V4.ofGroups high low)
    simp only [groups_ofGroups, List.cons_append, List.nil_append] at htail
    rw [h] at hgroups
    rw [readV6, hends.readGroups_eq]
    simp [htail, hgroups]
  | full =>
    rw [readV6, readGroups_whole (Nat.le_of_eq hlength)]
    simp [hlength, hgroups]
  | short head tail zeros hzeros h =>
    -- the groups before the two colons are fewer than eight, so the colons are read
    rw [h] at hlength
    simp only [List.length_append, List.length_replicate] at hlength
    have hdot : '.' ∉ ':' :: ':' :: joinGroups tail := by simp [dot_not_mem_joinGroups]
    have hhead : readGroups 8 true (joinGroups head ++ ':' :: ':' :: joinGroups tail) =
        (head, false, ':' :: ':' :: joinGroups tail) := readGroups_join (by omega) hdot (.inr ⟨_, rfl⟩)
    have htail : readGroups (7 - head.length) true (joinGroups tail) = (tail, false, []) :=
      readGroups_whole (by omega)
    have hcount : 8 - head.length - tail.length = zeros := by omega
    have hfew : head.length ≠ 8 := by omega
    rw [List.append_assoc, readV6, List.cons_append, List.cons_append, List.nil_append, hhead]
    simp [htail, hcount, hfew, ← h, hgroups]

/-- The canonical form of eight groups does not begin with four octets. -/
theorem V6.Canonical.readV4_eq {address : V6} {cs : List Char} (h : address.Canonical cs) : readV4 cs = none := by
  cases h with
  | mapped => rfl
  | full => exact readV4_eq_none (dot_not_mem_joinGroups _)
  | short head tail =>
    refine readV4_eq_none ?_
    simp [dot_not_mem_joinGroups]

/-! ### Addresses -/

/-- **An address is read back from its canonical form.** -/
theorem parse?_text (address : Address) : parse? address.text = some address := by
  rw [parse?, text, String.toList_ofList]
  cases address with
  | v4 octets =>
    rw [chars, parseChars?, readV4_whole]
    rfl
  | v6 address =>
    have hcanonical := canonical_text address
    rw [chars, parseChars?, hcanonical.readV4_eq, hcanonical.readV6_eq]
    rfl

end TenantStorage.Address
