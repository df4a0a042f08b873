import Mathlib.Data.List.Basic
import TenantStorage.Document

namespace TenantStorage

/-!
# What a document gives for a record

A reader of records collects the members whose keys it knows, in one pass that also looks for keys that are not
text and for known keys that were met before.

* `Gives` — which documents give a record, and what they give for each field.
* `gives_of_of?`, `of?_of_gives` — a reader finds the fields of just those documents.
* `Fields.of?_bind_eq_some_iff` — so what it reads can be told from what the document gives.
* `Fields.Mapping` — mappings with some fields, of which something is asked, in any order and among unknown keys.
* `Fields.Mapping.exists_fields`, `Fields.get_eq` — what a reader with defaults makes of such a mapping.
-/

variable {ν : Type} [Document ν] {names : List String} {document : ν}

/-- A document gives the fields with some names: as a mapping, whose keys are texts and of which each known one
    stands once at most, or as a sequence of at most as many items, which are the fields in order. -/
inductive Gives (names : List String) (document : ν) : (String → Option ν) → Prop where
  | byName {members : List (Option String × ν)} (hmembers : Document.members? document = some members)
      (htexts : ∀ member ∈ members, member.1 ≠ none)
      (honce : ∀ name ∈ names, (members.map (·.1)).count (some name) ≤ 1) :
      Gives names document fun name => members.lookup (some name)
  | byPosition {items : List ν} (hmembers : Document.members? document = none)
      (hitems : Document.items? document = some items) (hfew : items.length ≤ names.length) :
      Gives names document fun name => items[names.idxOf name]?

namespace Fields

omit [Document ν] in
/-- A known key is looked up among the members that are kept as among all. -/
theorem lookup_of_ofMembers? {members : List (Option String × ν)} {found : List (String × ν)}
    (h : ofMembers? names members = some found) {name : String} (hname : name ∈ names) :
    found.lookup name = members.lookup (some name) := by
  induction members generalizing found with
  | nil =>
    obtain rfl := Option.some.inj h
    rfl
  | cons member rest ih =>
    obtain ⟨key | key, value⟩ := member
    · cases h
    · obtain ⟨others, hothers, hfound⟩ := Option.bind_eq_some_iff.1 h
      have hrest := ih hothers
      by_cases hknown : key ∈ names
      · by_cases hnone : others.lookup key = none
        · have hkept : found = (key, value) :: others := by simpa [hknown, hnone, eq_comm] using hfound
          by_cases hsame : name = key
          · simp [hkept, hsame]
          · simp [hkept, List.lookup_cons, beq_false_of_ne hsame, hrest]
        · simp [hknown, Option.isSome_iff_ne_none, hnone] at hfound
      · have hkept : found = others := by simpa [hknown, eq_comm] using hfound
        have hother : name ≠ key := fun heq => hknown (heq ▸ hname)
        simp [hkept, List.lookup_cons, beq_false_of_ne hother, hrest]

omit [Document ν] in
/-- A member with a text for its key is no obstacle unless the key is known and stands again behind it. -/
theorem exists_ofMembers?_cons_iff {key : String} {value : ν} {rest : List (Option String × ν)} :
    (∃ found, ofMembers? names ((some key, value) :: rest) = some found) ↔
      (∃ found, ofMembers? names rest = some found) ∧ (key ∈ names → some key ∉ rest.map (·.1)) := by
  have hmem : some key ∈ rest.map (·.1) ↔ rest.lookup (some key) ≠ none := by
    rw [Ne, List.lookup_eq_none_iff]
    simp
  rw [hmem, ofMembers?]
  constructor
  · rintro ⟨found, h⟩
    obtain ⟨others, hothers, hfound⟩ := Option.bind_eq_some_iff.1 h
    refine ⟨⟨others, hothers⟩, fun hknown hagain => hagain ?_⟩
    rw [← lookup_of_ofMembers? hothers hknown]
    by_contra hsome
    simp [hknown, Option.isSome_iff_ne_none, hsome] at hfound
  · rintro ⟨⟨others, hothers⟩, hnew⟩
    by_cases hknown : key ∈ names
    · have hnone : others.lookup key = none := by
        rw [lookup_of_ofMembers? hothers hknown]
        exact not_not.1 (hnew hknown)
      exact ⟨(key, value) :: others, by simp [hothers, hknown, hnone]⟩
    · exact ⟨others, by simp [hothers, hknown]⟩

omit [Document ν] in
/-- The members with known keys are kept if all keys are texts and no known one stands twice. -/
theorem exists_ofMembers?_iff {members : List (Option String × ν)} :
    (∃ found, ofMembers? names members = some found) ↔
      (∀ member ∈ members, member.1 ≠ none) ∧
        ∀ name ∈ names, (members.map (·.1)).count (some name) ≤ 1 := by
  induction members with
  | nil => simp [ofMembers?]
  | cons member rest ih =>
    obtain ⟨key | key, value⟩ := member
    · simp [ofMembers?]
    · rw [exists_ofMembers?_cons_iff, ih]
      simp only [List.forall_mem_cons, List.map_cons, List.count_cons]
      constructor
      · rintro ⟨⟨htexts, honce⟩, hnew⟩
        refine ⟨⟨by simp, htexts⟩, fun name hname => ?_⟩
        have hrest := honce name hname
        by_cases hsame : key = name
        · subst hsame
          have hnone := List.count_eq_zero.2 (hnew hname)
          simp [hnone]
        · simpa [hsame] using hrest
      · rintro ⟨⟨-, htexts⟩, honce⟩
        refine ⟨⟨htexts, fun name hname => ?_⟩, fun hknown => ?_⟩
        · exact Nat.le_trans (Nat.le_add_right _ _) (honce name hname)
        have hfew := honce key hknown
        rw [beq_self_eq_true, if_pos rfl] at hfew
        exact List.count_eq_zero.1 (by omega)

omit [Document ν] in
/-- What stands in the place of a name. -/
theorem lookup_zip {items : List ν} (hfew : items.length ≤ names.length) (name : String) :
    (names.zip items).lookup name = items[names.idxOf name]? := by
  induction names generalizing items with
  | nil =>
    obtain rfl := List.length_eq_zero_iff.1 (Nat.le_zero.1 hfew)
    rfl
  | cons first rest ih =>
    cases items with
    | nil => rfl
    | cons item others =>
      by_cases hsame : name = first
      · simp [hsame]
      · rw [List.zip_cons_cons, List.lookup_cons, beq_false_of_ne hsame, List.idxOf_cons_ne _ (Ne.symm hsame),
          List.getElem?_cons_succ]
        exact ih (Nat.le_of_succ_le_succ hfew)

/-- The fields that a reader finds are those that the document gives. -/
theorem gives_of_of? {fields : Fields ν} (h : of? names document = some fields) :
    ∃ field, Gives names document field ∧ ∀ name ∈ names, fields.find? name = field name := by
  cases hmembers : Document.members? document with
  | some members =>
    rw [of?, hmembers] at h
    obtain ⟨found, hfound, rfl⟩ := Option.map_eq_some_iff.1 h
    obtain ⟨htexts, honce⟩ := exists_ofMembers?_iff.1 ⟨found, hfound⟩
    exact ⟨_, .byName hmembers htexts honce, fun name hname => lookup_of_ofMembers? hfound hname⟩
  | none =>
    rw [of?, hmembers] at h
    cases hitems : Document.items? document with
    | none => simp [hitems] at h
    | some items =>
      by_cases hfew : items.length ≤ names.length
      · simp only [hitems, if_pos hfew, Option.some.injEq] at h
        exact ⟨_, .byPosition hmembers hitems hfew, fun name _ => h ▸ lookup_zip hfew name⟩
      · simp [hitems, hfew] at h

/-- What a document gives is found by the reader. -/
theorem of?_of_gives {field : String → Option ν} (h : Gives names document field) :
    ∃ fields, of? names document = some fields ∧ ∀ name ∈ names, fields.find? name = field name := by
  cases h with
  | byName hmembers htexts honce =>
    obtain ⟨found, hfound⟩ := exists_ofMembers?_iff.2 ⟨htexts, honce⟩
    exact ⟨⟨found, false⟩, by simp [of?, hmembers, hfound],
      fun name hname => lookup_of_ofMembers? hfound hname⟩
  | byPosition hmembers hitems hfew =>
    exact ⟨⟨names.zip _, true⟩, by simp [of?, hmembers, hitems, hfew], fun name _ => lookup_zip hfew name⟩

/-- What a reader makes of the fields that it finds, it makes of those that the document gives. -/
theorem of?_bind_eq_some_iff {α : Type} {rest : Fields ν → Option α} {a : α} {P : (String → Option ν) → Prop}
    (h : ∀ fields field, (∀ name ∈ names, fields.find? name = field name) → (rest fields = some a ↔ P field)) :
    (of? names document).bind rest = some a ↔ ∃ field, Gives names document field ∧ P field := by
  constructor
  · intro hread
    obtain ⟨fields, hfields, hrest⟩ := Option.bind_eq_some_iff.1 hread
    obtain ⟨field, hgives, hagree⟩ := gives_of_of? hfields
    exact ⟨field, hgives, (h fields field hagree).1 hrest⟩
  · rintro ⟨field, hgives, hfield⟩
    obtain ⟨fields, hfields, hagree⟩ := of?_of_gives hgives
    rw [hfields]
    exact (h fields field hagree).2 hfield

end Fields

/-! ### Keys -/

omit [Document ν] in
/-- A key that does not occur is not found. -/
theorem lookup_eq_none_of_not_mem {α β : Type} [BEq α] [LawfulBEq α] {members : List (α × β)} {key : α}
    (h : key ∉ members.map (·.1)) : members.lookup key = none := by
  refine List.lookup_eq_none_iff.2 fun member hmember => ?_
  have hne : key ≠ member.1 := fun hsame => h (List.mem_map.2 ⟨member, hmember, hsame.symm⟩)
  simpa using hne

omit [Document ν] in
/-- Where a key stands once at most, the order does not matter. -/
theorem lookup_eq_of_perm {members members' : List (Option String × ν)} (hperm : members.Perm members')
    {key : Option String} (honce : (members.map (·.1)).count key ≤ 1) :
    members.lookup key = members'.lookup key := by
  induction hperm with
  | nil => rfl
  | cons member _ ih =>
    obtain ⟨first, value⟩ := member
    by_cases hsame : key = first
    · simp [hsame]
    · -- the first member is passed over, and does not count
      simp only [List.lookup_cons, beq_false_of_ne hsame]
      exact ih (by simpa [List.count_cons, Ne.symm hsame] using honce)
  | swap one other rest =>
    obtain ⟨first, value⟩ := one
    obtain ⟨second, value'⟩ := other
    by_cases hfirst : key = first
    · by_cases hsecond : key = second
      · simp [← hfirst, ← hsecond] at honce
      · simp [List.lookup_cons, beq_false_of_ne hsecond]
    · simp [List.lookup_cons, beq_false_of_ne hfirst]
  | trans hfirst _ ih ih' =>
    have hcount := (hfirst.map (·.1)).count_eq key
    exact (ih honce).trans (ih' (hcount ▸ honce))

/-! ### Fields in any order -/

namespace Fields

/-- Members give fields in their order: a field of which nothing is asked is left out, and the value of any other
    has the property that is asked for. -/
inductive Listed : List (String × Option (ν → Prop)) → List (Option String × ν) → Prop where
  | nil : Listed [] []
  | absent (name : String) {asked : List (String × Option (ν → Prop))} {members : List (Option String × ν)}
      (h : Listed asked members) : Listed ((name, none) :: asked) members
  | present (name : String) {Asked : ν → Prop} {value : ν} {asked : List (String × Option (ν → Prop))}
      {members : List (Option String × ν)} (hvalue : Asked value) (h : Listed asked members) :
      Listed ((name, some Asked) :: asked) ((some name, value) :: members)

/-- A document is a mapping with the fields that are asked for: its members are these and others with unknown keys,
    in any order. -/
def Mapping (asked : List (String × Option (ν → Prop))) (document : ν) : Prop :=
  ∃ members known unknown, Document.members? document = some members ∧ Listed asked known ∧
    (∀ member ∈ unknown, ∃ key, key ∉ asked.map (·.1) ∧ member.1 = some key) ∧
    members.Perm (known ++ unknown)

/-- What is found for a field is right: nothing if nothing is asked, and else a value that has the property. -/
abbrev Meets : Option (ν → Prop) → Option ν → Prop := Option.Rel fun Asked value => Asked value

namespace Listed

variable {asked : List (String × Option (ν → Prop))} {members : List (Option String × ν)} {name : String}

omit [Document ν] in
/-- Listed members have the names of fields for their keys. -/
theorem exists_name (h : Listed asked members) : ∀ member ∈ members, ∃ name ∈ asked.map (·.1), member.1 = some name := by
  induction h with
  | nil => simp
  | absent name _ ih =>
    intro member hmember
    obtain ⟨name', hname', hkey⟩ := ih member hmember
    exact ⟨name', List.mem_cons_of_mem _ hname', hkey⟩
  | present name _ _ ih =>
    refine List.forall_mem_cons.2 ⟨⟨name, List.mem_cons_self, rfl⟩, fun member hmember => ?_⟩
    obtain ⟨name', hname', hkey⟩ := ih member hmember
    exact ⟨name', List.mem_cons_of_mem _ hname', hkey⟩

omit [Document ν] in
/-- A key that no field has does not occur. -/
theorem not_mem_keys (h : Listed asked members) (hname : name ∉ asked.map (·.1)) :
    some name ∉ members.map (·.1) := by
  intro hkey
  obtain ⟨member, hmember, hsame⟩ := List.mem_map.1 hkey
  obtain ⟨name', hname', hkey'⟩ := h.exists_name member hmember
  exact hname (Option.some.inj (hsame.symm.trans hkey') ▸ hname')

omit [Document ν] in
/-- Fields with different names are given once. -/
theorem nodup_keys (h : Listed asked members) (hnames : (asked.map (·.1)).Nodup) : (members.map (·.1)).Nodup := by
  induction h with
  | nil => exact List.nodup_nil
  | absent name _ ih => exact ih (List.nodup_cons.1 hnames).2
  | present name _ hrest ih =>
    obtain ⟨hnew, hnames⟩ := List.nodup_cons.1 hnames
    exact List.nodup_cons.2 ⟨hrest.not_mem_keys hnew, ih hnames⟩

omit [Document ν] in
/-- Under the name of a field stands what is asked for. -/
theorem meets_lookup (h : Listed asked members) (hnames : (asked.map (·.1)).Nodup) {Asked : Option (ν → Prop)}
    (hname : asked.lookup name = some Asked) : Meets Asked (members.lookup (some name)) := by
  induction h with
  | nil => cases hname
  | @absent first asked members hrest ih =>
    obtain ⟨hnew, hnames⟩ := List.nodup_cons.1 hnames
    by_cases hsame : name = first
    · obtain rfl : none = Asked := by simpa [hsame] using hname
      rw [hsame, lookup_eq_none_of_not_mem (hrest.not_mem_keys hnew)]
      exact .none
    · exact ih hnames (by simpa [List.lookup_cons, beq_false_of_ne hsame] using hname)
  | @present first First value asked members hvalue hrest ih =>
    obtain ⟨hnew, hnames⟩ := List.nodup_cons.1 hnames
    by_cases hsame : name = first
    · obtain rfl : some First = Asked := by simpa [hsame] using hname
      rw [hsame, List.lookup_cons_self]
      exact .some hvalue
    · have hfirst : (some name == some first) = false := by simpa using hsame
      rw [List.lookup_cons, hfirst]
      exact ih hnames (by simpa [List.lookup_cons, beq_false_of_ne hsame] using hname)

end Listed

namespace Mapping

variable {asked : List (String × Option (ν → Prop))}

/-- A reader finds what is asked for. -/
theorem exists_fields (h : Mapping asked document) (names : List String) (hasked : asked.map (·.1) = names)
    (hnames : names.Nodup) :
    ∃ fields, of? names document = some fields ∧
      ∀ (name : String) {Asked : Option (ν → Prop)}, asked.lookup name = some Asked →
        Meets Asked (fields.find? name) := by
  obtain ⟨members, known, unknown, hmembers, hknown, hunknown, hperm⟩ := h
  subst hasked
  have htexts : ∀ member ∈ members, member.1 ≠ none := by
    intro member hmember
    rcases List.mem_append.1 (hperm.mem_iff.1 hmember) with hmem | hmem
    · obtain ⟨name, -, hname⟩ := hknown.exists_name member hmem
      simp [hname]
    · obtain ⟨key, -, hkey⟩ := hunknown member hmem
      simp [hkey]
  -- a known name is no key of the unknown members
  have hother {name : String} (hname : name ∈ asked.map (·.1)) : some name ∉ unknown.map (·.1) := by
    intro hmem
    obtain ⟨member, hmember, hsame⟩ := List.mem_map.1 hmem
    obtain ⟨key, hkey, hsome⟩ := hunknown member hmember
    exact hkey (Option.some.inj (hsome.symm.trans hsame) ▸ hname)
  -- so it stands once at most, whatever the order
  have honce : ∀ name ∈ asked.map (·.1), (members.map (·.1)).count (some name) ≤ 1 := by
    intro name hname
    have hcount := (hperm.map (·.1)).count_eq (some name)
    have hknownCount := List.nodup_iff_count.1 (hknown.nodup_keys hnames) (some name)
    have hunknownCount := List.count_eq_zero.2 (hother hname)
    rw [List.map_append, List.count_append] at hcount
    omega
  obtain ⟨fields, hfields, hfind⟩ := of?_of_gives (.byName hmembers htexts honce)
  refine ⟨fields, hfields, fun name _ hasked => ?_⟩
  have hname : name ∈ asked.map (·.1) := by
    by_contra habsent
    exact absurd ((lookup_eq_none_of_not_mem habsent).symm.trans hasked) nofun
  rw [hfind name hname, lookup_eq_of_perm hperm (honce name hname), List.lookup_append,
    lookup_eq_none_of_not_mem (hother hname), Option.or_none]
  exact hknown.meets_lookup hnames hasked

end Mapping

/-- What is asked of a value that is read as `a`. -/
def Reads {α : Type} (read : ν → Option α) (a : α) (value : ν) : Prop := read value = some a

section

variable {α β : Type} {fields : Fields ν} {name : String} {read : ν → Option α}

omit [Document ν]

/-- What a reader with a default makes of a field: the default if the field is left out, and else what its value
    is read as. -/
theorem get_eq {given : Option β} {Means : β → ν → Prop} {result : β → α}
    (h : Meets (given.map Means) (fields.find? name))
    (hread : ∀ b value, Means b value → read value = some (result b)) (base : α) :
    fields.get name read base = some ((given.map result).getD base) := by
  generalize hfound : fields.find? name = found at h
  cases given with
  | none =>
    cases h
    simp [get, hfound]
  | some b =>
    cases h with
    | some hvalue => simp [get, hfound, hread b _ hvalue]

/-- The same for a field of which is asked what its value is read as. -/
theorem get_eq_getD {given : Option α} (h : Meets (given.map (Reads read)) (fields.find? name)) (base : α) :
    fields.get name read base = some (given.getD base) := by
  have hread : ∀ a value, Reads read a value → read value = some (id a) := fun _ _ hvalue => hvalue
  rw [get_eq h hread, Option.map_id, id]

end

end Fields

end TenantStorage
