import TenantStorage.SortedMap

namespace TenantStorage

/-!
# Looking up in finite maps

What `SortedMap.find?` says after each operation on a map.  Everything else about maps is derived from
these laws, so that no later proof walks through a list of entries.

* `find?_insert_self`, `find?_insert_of_ne` — a stored value is found under its key, and no other key
  notices it.
* `find?_eq_some_iff` — what is found is what is listed.
* `of_updateFirst?_eq_some`, `updateFirst?_eq_none_iff` — a change of the first value that passes a test
  is a change under one key.
* `filter_entries_of_find?` — a key that is found is listed once.
* `ofList_entries` — a map is the map of its entries.
-/

instance : Std.LawfulEqOrd KeyPair where
  eq_of_compare := by
    intro a b h
    have h' := compareLex_eq_eq.1 h
    have hfirst : a.first = b.first := Std.LawfulEqOrd.eq_of_compare h'.1
    have hsecond : a.second = b.second := Std.LawfulEqOrd.eq_of_compare h'.2
    cases a
    cases b
    simp_all

namespace SortedMap

variable {κ ν : Type} [Ord κ]

/-! ### Lists of entries -/

/-- The first value listed under `key`. -/
def lookup (key : κ) (entries : List (κ × ν)) : Option ν :=
  (entries.find? fun e => compare key e.1 == .eq).map (·.2)

@[simp] theorem lookup_nil (key : κ) : lookup key ([] : List (κ × ν)) = none := rfl

/-- A key after all others goes to the end. -/
theorem insertEntry_append [Std.TransOrd κ] {key : κ} (value : ν) {entries : List (κ × ν)}
    (h : ∀ e ∈ entries, compare e.1 key = .lt) :
    insertEntry key value entries = entries ++ [(key, value)] := by
  induction entries with
  | nil => rfl
  | cons head rest ih =>
    obtain ⟨hhead, hrest⟩ := List.forall_mem_cons.1 h
    have hgt : compare key head.1 = .gt := Std.OrientedCmp.gt_of_lt hhead
    rw [insertEntry, hgt, List.cons_append, ← ih hrest]

variable [Std.LawfulEqOrd κ]

theorem ne_of_compare_ne {a b : κ} (h : compare a b ≠ .eq) : a ≠ b := by
  rintro rfl
  exact h Std.ReflCmp.compare_self

theorem lookup_cons_self (key : κ) (value : ν) (rest : List (κ × ν)) :
    lookup key ((key, value) :: rest) = some value := by
  simp [lookup, Std.ReflCmp.compare_self]

theorem lookup_cons_of_ne {key other : κ} (h : other ≠ key) (value : ν) (rest : List (κ × ν)) :
    lookup other ((key, value) :: rest) = lookup other rest := by
  have hne : compare other key ≠ .eq := fun heq => h (Std.LawfulEqOrd.eq_of_compare heq)
  simp [lookup, hne]

theorem lookup_insertEntry_self (key : κ) (value : ν) (entries : List (κ × ν)) :
    lookup key (insertEntry key value entries) = some value := by
  induction entries with
  | nil => exact lookup_cons_self key value []
  | cons head rest ih =>
    obtain ⟨k, v⟩ := head
    unfold insertEntry
    -- the three answers of the comparison are the three places where the entry may go
    split
    · exact lookup_cons_self key value _
    · exact lookup_cons_self key value _
    · rename_i hgt
      have hne : key ≠ k := ne_of_compare_ne (by simp [hgt])
      rw [lookup_cons_of_ne hne, ih]

theorem lookup_insertEntry_of_ne {key other : κ} (h : other ≠ key) (value : ν)
    (entries : List (κ × ν)) : lookup other (insertEntry key value entries) = lookup other entries := by
  induction entries with
  | nil => rw [insertEntry, lookup_cons_of_ne h]
  | cons head rest ih =>
    obtain ⟨k, v⟩ := head
    unfold insertEntry
    split
    · rw [lookup_cons_of_ne h]
    · rename_i heq
      obtain rfl : key = k := Std.LawfulEqOrd.eq_of_compare heq
      rw [lookup_cons_of_ne h, lookup_cons_of_ne h]
    · by_cases hk : other = k
      · subst hk
        rw [lookup_cons_self, lookup_cons_self]
      · rw [lookup_cons_of_ne hk, lookup_cons_of_ne hk, ih]

/-- In a sorted list what is looked up is what is listed. -/
theorem lookup_eq_some_iff {entries : List (κ × ν)}
    (hsorted : entries.Pairwise fun a b => compare a.1 b.1 = .lt) {key : κ} {value : ν} :
    lookup key entries = some value ↔ (key, value) ∈ entries := by
  induction entries with
  | nil => simp
  | cons head rest ih =>
    obtain ⟨k, v⟩ := head
    obtain ⟨hhead, hrest⟩ := List.pairwise_cons.1 hsorted
    by_cases hk : key = k
    · subst hk
      -- the keys of the rest are all greater, so the key is listed once
      have hnot : (key, value) ∉ rest := by
        intro hmem
        have hlt : compare key key = .lt := hhead _ hmem
        simp at hlt
      simp [lookup_cons_self, hnot, eq_comm]
    · rw [lookup_cons_of_ne hk, ih hrest]
      simp [hk]

/-- A change of the first value that passes a test is a change under one key. -/
theorem lookup_updateFirst {test : ν → Bool} (change : ν → ν) {entries : List (κ × ν)}
    (hsorted : entries.Pairwise fun a b => compare a.1 b.1 = .lt) {value : ν}
    (h : (entries.map (·.2)).find? test = some value) :
    ∃ key, lookup key entries = some value ∧
      lookup key (updateFirst test change entries) = some (change value) ∧
      ∀ other, other ≠ key →
        lookup other (updateFirst test change entries) = lookup other entries := by
  induction entries with
  | nil => simp at h
  | cons head rest ih =>
    obtain ⟨k, v⟩ := head
    obtain ⟨hhead, hrest⟩ := List.pairwise_cons.1 hsorted
    rw [List.map_cons, List.find?_cons] at h
    unfold updateFirst
    by_cases hv : test v = true
    · rw [hv] at h
      obtain rfl : v = value := by simpa using h
      refine ⟨k, lookup_cons_self k v rest, ?_, fun other hne => ?_⟩
      · rw [if_pos hv, lookup_cons_self]
      · rw [if_pos hv, lookup_cons_of_ne hne, lookup_cons_of_ne hne]
    · simp only [hv] at h
      obtain ⟨key, hfound, hchanged, hothers⟩ := ih hrest h
      -- the changed key stands further down, so it is not the key of the head
      have hlt : compare k key = .lt := hhead _ ((lookup_eq_some_iff hrest).1 hfound)
      have hne : key ≠ k := (ne_of_compare_ne (by simp [hlt])).symm
      rw [if_neg hv]
      refine ⟨key, ?_, ?_, fun other hother => ?_⟩
      · rw [lookup_cons_of_ne hne, hfound]
      · rw [lookup_cons_of_ne hne, hchanged]
      · by_cases hk : other = k
        · subst hk
          rw [lookup_cons_self, lookup_cons_self]
        · rw [lookup_cons_of_ne hk, lookup_cons_of_ne hk, hothers other hother]

/-! ### Maps -/

omit [Std.LawfulEqOrd κ] in
/-- A map is the map of its entries. -/
theorem ofList_entries [Std.TransOrd κ] (m : SortedMap κ ν) : ofList m.entries = m := by
  have hfold (rest : List (κ × ν)) (m : SortedMap κ ν)
      (h : (m.entries ++ rest).Pairwise fun a b => compare a.1 b.1 = .lt) :
      (rest.foldl (fun m e => m.insert e.1 e.2) m).entries = m.entries ++ rest := by
    induction rest generalizing m with
    | nil => exact (List.append_nil _).symm
    | cons e rest ih =>
      have hinsert : (m.insert e.1 e.2).entries = m.entries ++ [e] :=
        insertEntry_append e.2 fun earlier hearlier =>
          (List.pairwise_append.1 h).2.2 earlier hearlier e List.mem_cons_self
      have happend : m.entries ++ e :: rest = m.entries ++ [e] ++ rest := by simp
      rw [List.foldl_cons, ih, hinsert, happend]
      rwa [hinsert, ← happend]
  have hentries : (ofList m.entries).entries = m.entries := hfold m.entries empty m.sorted
  rcases m with ⟨entries, hsorted⟩
  generalize ofList entries = m' at hentries
  cases m'
  cases hentries
  rfl

variable (m : SortedMap κ ν)

@[simp] theorem find?_insert_self [Std.TransOrd κ] (key : κ) (value : ν) :
    (m.insert key value).find? key = some value :=
  lookup_insertEntry_self key value m.entries

theorem find?_insert_of_ne [Std.TransOrd κ] {key other : κ} (h : other ≠ key) (value : ν) :
    (m.insert key value).find? other = m.find? other :=
  lookup_insertEntry_of_ne h value m.entries

/-- Maps that agree at a key agree there after the same insertion. -/
theorem find?_insert_congr [Std.TransOrd κ] {m m' : SortedMap κ ν} {other : κ}
    (h : m'.find? other = m.find? other) (key : κ) (value : ν) :
    (m'.insert key value).find? other = (m.insert key value).find? other := by
  rcases Classical.em (other = key) with rfl | hkey
  · rw [find?_insert_self, find?_insert_self]
  · rw [find?_insert_of_ne _ hkey, find?_insert_of_ne _ hkey, h]

theorem find?_eq_some_iff {m : SortedMap κ ν} {key : κ} {value : ν} :
    m.find? key = some value ↔ (key, value) ∈ m.entries :=
  lookup_eq_some_iff m.sorted

omit [Std.LawfulEqOrd κ] in
theorem contains_eq_isSome (key : κ) : m.contains key = (m.find? key).isSome := rfl

/-- A key that is found is listed once. -/
theorem filter_entries_of_find? {m : SortedMap κ ν} {key : κ} {value : ν}
    (h : m.find? key = some value) {p : κ × ν → Bool}
    (hp : ∀ e ∈ m.entries, p e = true ↔ e.1 = key) : m.entries.filter p = [(key, value)] := by
  have hsorted := m.sorted
  have hmem := find?_eq_some_iff.1 h
  -- the induction needs the list apart from the map that holds it
  generalize m.entries = entries at hsorted hmem hp
  induction entries with
  | nil => simp at hmem
  | cons head rest ih =>
    obtain ⟨hhead, hrest⟩ := List.pairwise_cons.1 hsorted
    rcases List.mem_cons.1 hmem with rfl | hin
    · have hnone : rest.filter p = [] := by
        rw [List.filter_eq_nil_iff]
        intro e he hpe
        have hlt : compare key e.1 = .lt := hhead e he
        exact ne_of_compare_ne (by simp [hlt]) ((hp e (by simp [he])).1 hpe).symm
      rw [List.filter_cons_of_pos ((hp _ (by simp)).2 rfl), hnone]
    · have hne : ¬ p head = true := by
        intro hpe
        have hlt : compare head.1 key = .lt := hhead _ hin
        exact ne_of_compare_ne (by simp [hlt]) ((hp head (by simp)).1 hpe)
      rw [List.filter_cons_of_neg hne, ih hrest hin fun e he => hp e (by simp [he])]

variable {test : ν → Bool} {change : ν → ν}

/-- A change of the first value that passes a test: what is found afterwards. -/
theorem of_updateFirst?_eq_some {m m' : SortedMap κ ν} {new : ν}
    (h : m.updateFirst? test change = some (new, m')) :
    ∃ key old, m.find? key = some old ∧ test old = true ∧ new = change old ∧
      m'.find? key = some new ∧ ∀ other, other ≠ key → m'.find? other = m.find? other := by
  rw [updateFirst?, Option.map_eq_some_iff] at h
  obtain ⟨old, hold, hpair⟩ := h
  obtain ⟨rfl, rfl⟩ := Prod.mk.inj hpair
  obtain ⟨key, hfound, hchanged, hothers⟩ := lookup_updateFirst change m.sorted hold
  exact ⟨key, old, hfound, List.find?_some hold, rfl, hchanged, hothers⟩

theorem updateFirst?_eq_none_iff {m : SortedMap κ ν} :
    m.updateFirst? test change = none ↔ ∀ key value, m.find? key = some value → test value = false := by
  rw [updateFirst?, Option.map_eq_none_iff, List.find?_eq_none]
  constructor
  · intro h key value hfound
    have hmem : value ∈ m.values := List.mem_map.2 ⟨_, find?_eq_some_iff.1 hfound, rfl⟩
    simpa using h value hmem
  · intro h value hmem
    obtain ⟨e, he, rfl⟩ := List.mem_map.1 hmem
    simpa using h e.1 e.2 (find?_eq_some_iff.2 he)

end SortedMap

end TenantStorage
