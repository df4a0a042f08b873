/-!
# Finite maps in key order

A `SortedMap` lists its entries by strictly increasing key, so two maps with the same
entries are equal and every walk over a map goes in key order.

* `SortedMap.find?` — the value stored under a key.
* `SortedMap.insert` — stores a value, replacing an earlier one.
* `SortedMap.ofList` — later pairs replace earlier ones.
* `SortedMap.updateFirst?` — changes the first value that satisfies a test.
* `KeyPair` — two texts as one key, the first deciding before the second.
-/

namespace TenantStorage

/-- Entries by strictly increasing key. -/
structure SortedMap (κ ν : Type) [Ord κ] where
  entries : List (κ × ν)
  sorted : entries.Pairwise fun a b => compare a.1 b.1 = .lt
deriving DecidableEq

namespace SortedMap

variable {κ ν : Type} [Ord κ]

/-! ### Insertion into a list of entries -/

/-- Puts an entry at its place, over an entry with an equal key. -/
def insertEntry (key : κ) (value : ν) : List (κ × ν) → List (κ × ν)
  | [] => [(key, value)]
  | (k, v) :: rest =>
    match compare key k with
    | .lt => (key, value) :: (k, v) :: rest
    | .eq => (key, value) :: rest
    | .gt => (k, v) :: insertEntry key value rest

theorem fst_of_mem_insertEntry {key : κ} {value : ν} {entries : List (κ × ν)} {e : κ × ν}
    (h : e ∈ insertEntry key value entries) : e.1 = key ∨ e ∈ entries := by
  induction entries with
  | nil => simp_all [insertEntry]
  | cons head rest ih =>
    obtain ⟨k, v⟩ := head
    rw [insertEntry] at h
    split at h <;> simp only [List.mem_cons] at h ⊢ <;> grind

theorem pairwise_insertEntry [Std.TransOrd κ] (key : κ) (value : ν) {entries : List (κ × ν)}
    (h : entries.Pairwise fun a b => compare a.1 b.1 = .lt) :
    (insertEntry key value entries).Pairwise fun a b => compare a.1 b.1 = .lt := by
  induction entries with
  | nil => simp [insertEntry]
  | cons head rest ih =>
    obtain ⟨k, v⟩ := head
    obtain ⟨hk, hrest⟩ := List.pairwise_cons.1 h
    rw [insertEntry]
    split
    next hlt =>
      refine List.pairwise_cons.2 ⟨fun e he => ?_, h⟩
      rcases List.mem_cons.1 he with rfl | he
      · exact hlt
      · exact Std.TransCmp.lt_trans hlt (hk e he)
    next heq =>
      refine List.pairwise_cons.2 ⟨fun e he => ?_, hrest⟩
      exact Std.TransCmp.lt_of_eq_of_lt heq (hk e he)
    next hgt =>
      refine List.pairwise_cons.2 ⟨fun e he => ?_, ih hrest⟩
      rcases fst_of_mem_insertEntry he with heq | he
      · simpa [heq] using Std.OrientedCmp.lt_of_gt hgt
      · exact hk e he

/-! ### Operations -/

/-- The map without entries. -/
def empty : SortedMap κ ν := ⟨[], .nil⟩

instance : Inhabited (SortedMap κ ν) := ⟨empty⟩

/-- Whether there is no entry. -/
def isEmpty (m : SortedMap κ ν) : Bool := m.entries.isEmpty

/-- The value stored under `key`. -/
def find? (m : SortedMap κ ν) (key : κ) : Option ν :=
  (m.entries.find? fun e => compare key e.1 == .eq).map (·.2)

/-- Whether a value is stored under `key`. -/
def contains (m : SortedMap κ ν) (key : κ) : Bool := (m.find? key).isSome

/-- Stores `value` under `key`, over a value stored there before. -/
def insert [Std.TransOrd κ] (m : SortedMap κ ν) (key : κ) (value : ν) : SortedMap κ ν :=
  ⟨insertEntry key value m.entries, pairwise_insertEntry key value m.sorted⟩

/-- The map of a list of pairs, in which a later pair replaces an earlier one. -/
def ofList [Std.TransOrd κ] (pairs : List (κ × ν)) : SortedMap κ ν :=
  pairs.foldl (fun m e => m.insert e.1 e.2) empty

/-- The values in key order. -/
def values (m : SortedMap κ ν) : List ν := m.entries.map (·.2)

/-! ### Changing one value -/

/-- Replaces the value of the first entry that satisfies `test`, with the keys untouched. -/
def updateFirst (test : ν → Bool) (change : ν → ν) : List (κ × ν) → List (κ × ν)
  | [] => []
  | (k, v) :: rest =>
    if test v then (k, change v) :: rest else (k, v) :: updateFirst test change rest

omit [Ord κ] in
theorem map_fst_updateFirst (test : ν → Bool) (change : ν → ν) (entries : List (κ × ν)) :
    (updateFirst test change entries).map (·.1) = entries.map (·.1) := by
  induction entries with
  | nil => rfl
  | cons head rest ih => obtain ⟨k, v⟩ := head; rw [updateFirst]; split <;> simp [ih]

/-- Changes the first value in key order that satisfies `test`, and returns the new value with the new
    map; `none` when no value satisfies it. -/
def updateFirst? (m : SortedMap κ ν) (test : ν → Bool) (change : ν → ν) :
    Option (ν × SortedMap κ ν) :=
  (m.values.find? test).map fun v =>
    (change v, ⟨updateFirst test change m.entries, by
      have h := (List.pairwise_map (f := Prod.fst) (R := fun a b : κ => compare a b = .lt)).2 m.sorted
      exact List.pairwise_map.1 ((map_fst_updateFirst test change m.entries).symm ▸ h)⟩)

end SortedMap

/-! ### Keys of two parts -/

/-- Two texts as one key. -/
structure KeyPair where
  first : String
  second : String
deriving DecidableEq, Repr, Inhabited

instance : Ord KeyPair := ⟨compareLex (compareOn KeyPair.first) (compareOn KeyPair.second)⟩

instance : Std.TransOrd KeyPair :=
  inferInstanceAs (Std.TransCmp (compareLex (compareOn KeyPair.first) (compareOn KeyPair.second)))

end TenantStorage
