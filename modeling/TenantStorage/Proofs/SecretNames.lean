import TenantStorage.Settings.Engine

namespace TenantStorage.Settings

/-!
# Different projects have different secrets

A template with a placeholder makes different names for different projects: the lengths of two equal names
give the lengths of the projects, and at the first placeholder the projects themselves stand side by side.

* `Template.fill_injective` — for a template with a placeholder.
* `Template.Cuts` — a text cut at its placeholders, in the only way there is (`Cuts.unique`).
* `Template.fillChars_of_cuts` — a name is the pieces of its template with the project between them.
* `Engine.hasPlaceholder_of_validate` — settings that were validated have one.
* `Engine.secretName_injective` — the names of the secrets under validated settings.
* `Engine.secretName_separates` — what these names look like, and that projects do not share them.
-/

namespace Template

/-- The characters of a name. -/
def fillChars (template : Template) (project : List Char) : List Char :=
  template.flatMap (Part.fill project)

variable {template : Template} {p q : List Char}

/-- Every placeholder adds the length of the project to the length of a name. -/
theorem length_fillChars (template : Template) (p : List Char) :
    (template.fillChars p).length + template.count .project =
      template.length + template.count .project * p.length := by
  induction template with
  | nil => simp [fillChars]
  | cons part rest ih =>
    rw [fillChars] at ih ⊢
    cases part with
    | char c =>
      simp only [List.flatMap_cons, Part.fill, List.length_append, List.length_cons, List.length_nil,
        List.count_cons_of_ne (show Part.char c ≠ .project by simp)]
      omega
    | project =>
      simp only [List.flatMap_cons, Part.fill, List.length_append, List.length_cons,
        List.count_cons_self, Nat.add_mul, Nat.one_mul]
      omega

/-- Equal names are names of projects of the same length. -/
theorem length_eq_of_fillChars (hplace : .project ∈ template)
    (h : template.fillChars p = template.fillChars q) : p.length = q.length := by
  have hp := length_fillChars template p
  have hq := length_fillChars template q
  rw [h] at hp
  -- with at least one placeholder the lengths of the names tell those of the projects
  have hcount : 0 < template.count .project := List.count_pos_iff.2 hplace
  exact Nat.eq_of_mul_eq_mul_left hcount (by omega)

/-- Equal names with projects of the same length agree at the first placeholder. -/
theorem eq_of_fillChars (hplace : .project ∈ template) (hlength : p.length = q.length)
    (h : template.fillChars p = template.fillChars q) : p = q := by
  induction template with
  | nil => cases hplace
  | cons part rest ih =>
    cases part with
    | char c =>
      have hrest : fillChars rest p = fillChars rest q := (List.cons.inj h).2
      exact ih (by simpa using hplace) hrest
    -- here the names begin with the projects
    | project => exact (List.append_inj h hlength).1

/-- A template with a placeholder makes different names for different projects. -/
theorem fill_injective (h : template.hasPlaceholder = true) : Function.Injective template.fill := by
  intro project project' hfill
  have hplace : .project ∈ template := List.contains_iff_mem.1 h
  have hchars : template.fillChars project.toList = template.fillChars project'.toList :=
    String.ofList_injective hfill
  exact String.toList_injective
    (eq_of_fillChars hplace (length_eq_of_fillChars hplace hchars) hchars)

/-! ### Pieces of a text -/

/-- What stands for the project in a written template. -/
def placeholder : List Char := ['{', 'p', 'r', 'o', 'j', 'e', 'c', 't', '}']

/-- A text is cut at its placeholders into what stands before the first, between two and behind the last one.  No
    piece has a placeholder in it. -/
structure Cuts (text : List Char) (pieces : List (List Char)) : Prop where
  nonempty : pieces ≠ []
  free : ∀ piece ∈ pieces, ¬placeholder <:+: piece
  whole : placeholder.intercalate pieces = text

variable {text piece tail : List Char} {pieces others : List (List Char)}

theorem ofChars_placeholder (rest : List Char) : ofChars (placeholder ++ rest) = .project :: ofChars rest := rfl

theorem ofChars_cons_of_not_prefix {c : Char} {rest : List Char} (h : ¬placeholder <+: c :: rest) :
    ofChars (c :: rest) = .char c :: ofChars rest := by
  rw [ofChars]
  rintro rest' rfl rfl
  exact h ⟨rest', rfl⟩

/-- A placeholder does not begin in one piece and end behind it, since `{` is nowhere in it but at its start. -/
theorem not_prefix_append (hfree : ¬placeholder <:+: piece) (hpiece : piece ≠ [])
    (htail : ∀ c ∈ tail.head?, c = '{') : ¬placeholder <+: piece ++ tail := by
  intro hprefix
  rcases List.prefix_or_prefix_of_prefix hprefix (List.prefix_append piece tail) with hin | ⟨after, hafter⟩
  · exact hfree hin.isInfix
  · cases after with
    | nil =>
      rw [List.append_nil] at hafter
      exact hfree (hafter ▸ List.infix_rfl)
    | cons c after =>
      -- the part behind the piece is where the tail begins, so it begins with `{`
      have hinner : c ∈ placeholder.tail := by
        rw [← hafter, List.tail_append_of_ne_nil hpiece]
        simp
      rw [← hafter, List.prefix_append_right_inj] at hprefix
      obtain ⟨rest, rfl⟩ := hprefix
      obtain rfl : c = '{' := htail c rfl
      exact absurd hinner (by decide)

/-- A piece is taken as it stands. -/
theorem ofChars_append (hfree : ¬placeholder <:+: piece) (htail : ∀ c ∈ tail.head?, c = '{') :
    ofChars (piece ++ tail) = piece.map .char ++ ofChars tail := by
  induction piece with
  | nil => rfl
  | cons c rest ih =>
    have hrest : ¬placeholder <:+: rest := fun h => hfree (List.infix_cons h)
    have hstart : ¬placeholder <+: c :: (rest ++ tail) := not_prefix_append hfree (List.cons_ne_nil c rest) htail
    rw [List.cons_append, ofChars_cons_of_not_prefix hstart, ih hrest, List.map_cons, List.cons_append]

/-- The parts of a text are those of its pieces, with the project between them. -/
theorem ofChars_intercalate (hfree : ∀ piece ∈ pieces, ¬placeholder <:+: piece) :
    ofChars (placeholder.intercalate pieces) = [Part.project].intercalate (pieces.map (List.map .char)) := by
  induction pieces with
  | nil => rfl
  | cons piece rest ih =>
    obtain ⟨hpiece, hrest⟩ := List.forall_mem_cons.1 hfree
    cases rest with
    | nil =>
      have hlast : ofChars (piece ++ []) = piece.map .char ++ ofChars [] := ofChars_append hpiece (by simp)
      simpa [ofChars] using hlast
    | cons next rest =>
      have hhead : ∀ c ∈ (placeholder ++ placeholder.intercalate (next :: rest)).head?, c = '{' := by
        rintro c ⟨⟩
        rfl
      rw [List.intercalate_cons_cons, List.append_assoc, ofChars_append hpiece hhead, ofChars_placeholder, ih hrest]
      simp [List.intercalate_cons_cons]

theorem ofChars_of_cuts (h : Cuts text pieces) :
    ofChars text = [Part.project].intercalate (pieces.map (List.map .char)) := by
  rw [← h.whole, ofChars_intercalate h.free]

theorem prefix_intercalate (piece : List Char) (others : List (List Char)) :
    piece <+: placeholder.intercalate (piece :: others) := by
  cases others with
  | nil => simp
  | cons next others =>
    rw [List.intercalate_cons_cons, List.append_assoc]
    exact List.prefix_append _ _

/-- Every text can be cut at its placeholders. -/
theorem exists_cuts (text : List Char) : ∃ pieces, Cuts text pieces := by
  induction text using ofChars.induct with
  | case1 rest ih =>
    obtain ⟨pieces, hpieces⟩ := ih
    obtain ⟨first, others, rfl⟩ := List.exists_cons_of_ne_nil hpieces.nonempty
    refine ⟨[] :: first :: others, List.cons_ne_nil _ _, List.forall_mem_cons.2 ⟨by decide, hpieces.free⟩, ?_⟩
    rw [List.intercalate_cons_cons, hpieces.whole]
    rfl
  | case2 c rest hno ih =>
    obtain ⟨pieces, hpieces⟩ := ih
    obtain ⟨first, others, rfl⟩ := List.exists_cons_of_ne_nil hpieces.nonempty
    obtain ⟨hfirst, hothers⟩ := List.forall_mem_cons.1 hpieces.free
    have hwhole : placeholder.intercalate ((c :: first) :: others) = c :: rest := by
      rw [← hpieces.whole]
      cases others <;> simp [List.intercalate_cons_cons]
    refine ⟨(c :: first) :: others, List.cons_ne_nil _ _, List.forall_mem_cons.2 ⟨fun hin => ?_, hothers⟩, hwhole⟩
    rcases List.infix_cons_iff.1 hin with hstart | hin
    · -- a placeholder at the start of the piece would be one at the start of the text
      obtain ⟨rest', hrest⟩ : placeholder <+: c :: rest := hwhole ▸ hstart.trans (prefix_intercalate _ _)
      exact hno rest' (List.cons.inj hrest).1.symm (List.cons.inj hrest).2.symm
    · exact hfirst hin
  | case3 => exact ⟨[[]], List.cons_ne_nil _ _, by decide, rfl⟩

/-- There is one way to cut a text. -/
theorem Cuts.unique (h : Cuts text pieces) (hothers : Cuts text others) : pieces = others := by
  have hsplit {pieces : List (List Char)} (h : Cuts text pieces) :
      (ofChars text).splitOn .project = pieces.map (List.map .char) := by
    rw [ofChars_of_cuts h]
    exact List.splitOn_intercalate _ (by simp) (by simpa using h.nonempty)
  have hsame : pieces.map (List.map Part.char) = others.map (List.map Part.char) := (hsplit h).symm.trans (hsplit hothers)
  have hchar : Function.Injective Part.char := fun _ _ => Part.char.inj
  have hchars : Function.Injective (List.map Part.char) := fun _ _ => (List.map_inj_right hchar).1
  exact (List.map_inj_right hchars).1 hsame

/-- A text has a placeholder if there are two pieces at least. -/
theorem hasPlaceholder_iff_of_cuts (h : Cuts text pieces) : hasPlaceholder (ofChars text) = true ↔ 2 ≤ pieces.length := by
  rw [hasPlaceholder, List.contains_iff_mem, ofChars_of_cuts h]
  match pieces, h.nonempty with
  | [piece], _ => simp
  | first :: second :: others, _ => simp [List.intercalate_cons_cons]

theorem fillChars_append (front back : Template) (p : List Char) :
    fillChars (front ++ back) p = fillChars front p ++ fillChars back p := List.flatMap_append

theorem fillChars_map_char (piece p : List Char) : fillChars (piece.map .char) p = piece := by
  induction piece with
  | nil => rfl
  | cons c rest ih =>
    show c :: fillChars (rest.map .char) p = _
    rw [ih]

theorem fillChars_intercalate (pieces : List (List Char)) (p : List Char) :
    fillChars ([Part.project].intercalate (pieces.map (List.map .char))) p = p.intercalate pieces := by
  induction pieces with
  | nil => rfl
  | cons piece rest ih =>
    cases rest with
    | nil => simpa using fillChars_map_char piece p
    | cons next rest =>
      have hproject : fillChars [Part.project] p = p := List.append_nil p
      rw [List.map_cons] at ih
      rw [List.map_cons, List.map_cons, List.intercalate_cons_cons, List.intercalate_cons_cons, fillChars_append,
        fillChars_append, fillChars_map_char, hproject, ih]

/-- A name is the pieces of its template with the project between them. -/
theorem fillChars_of_cuts (h : Cuts text pieces) (p : List Char) : fillChars (ofChars text) p = p.intercalate pieces := by
  rw [ofChars_of_cuts h, fillChars_intercalate]

end Template

namespace Engine

variable {engine : Engine}

/-- Settings that were validated have a template with a placeholder. -/
theorem hasPlaceholder_of_validate (h : engine.validate = .ok ()) :
    (Template.ofText engine.secretNameTemplate).hasPlaceholder = true := by
  by_cases hplace : (Template.ofText engine.secretNameTemplate).hasPlaceholder = true
  · exact hplace
  · rw [validate] at h
    simp only [hplace] at h
    cases h

/-- Under validated settings different projects have different secrets. -/
theorem secretName_injective (h : engine.validate = .ok ()) :
    Function.Injective engine.secretName :=
  Template.fill_injective (hasPlaceholder_of_validate h)

/-- **Under validated settings the name of a secret tells its project.**  The written template can be cut at its
    placeholders in one way, into two pieces at least.  The name is these pieces with the project between them, and
    no two projects have the same name, whatever stands in the pieces and in the projects. -/
theorem secretName_separates (h : engine.validate = .ok ()) :
    ∃ pieces : List (List Char), Template.Cuts engine.secretNameTemplate.toList pieces ∧ 2 ≤ pieces.length ∧
      (∀ others, Template.Cuts engine.secretNameTemplate.toList others → others = pieces) ∧
      (∀ project, (engine.secretName project).toList = project.toList.intercalate pieces) ∧
      ∀ project project', engine.secretName project = engine.secretName project' → project = project' := by
  obtain ⟨pieces, hcuts⟩ := Template.exists_cuts engine.secretNameTemplate.toList
  have hplace : (Template.ofChars engine.secretNameTemplate.toList).hasPlaceholder = true := hasPlaceholder_of_validate h
  refine ⟨pieces, hcuts, (Template.hasPlaceholder_iff_of_cuts hcuts).1 hplace, fun others hothers => hothers.unique hcuts,
    fun project => ?_, fun project project' hsame => secretName_injective h hsame⟩
  show (String.ofList (Template.fillChars (Template.ofChars engine.secretNameTemplate.toList) project.toList)).toList = _
  rw [String.toList_ofList, Template.fillChars_of_cuts hcuts]

/-- Settings with two placeholders, and braces beside them. -/
def twofold : Engine :=
  { (default : Engine) with secretNameTemplate := "\x7b\x7bproject\x7d\x7bproject\x7dproject\x7d" }

theorem secretName_of_twofold :
    twofold.validate = .ok () ∧
      (∃ pieces, Template.Cuts twofold.secretNameTemplate.toList pieces ∧ pieces.length = 3) ∧
      twofold.secretName "\x7bproject\x7d" ≠ twofold.secretName "\x7b" := by
  have hvalid : twofold.validate = .ok () := rfl
  have hcuts : Template.Cuts twofold.secretNameTemplate.toList [['{'], [], "project\x7d".toList] := by
    refine ⟨List.cons_ne_nil _ _, fun piece hpiece hin => ?_, rfl⟩
    -- a piece that is shorter than the placeholder does not hold it
    have hshort : ∀ piece ∈ [['{'], [], "project\x7d".toList], piece.length < 9 := by decide
    have hlong : 9 ≤ piece.length := hin.length_le
    exact absurd hlong (Nat.not_le_of_lt (hshort piece hpiece))
  obtain ⟨_, -, -, -, -, hprojects⟩ := secretName_separates hvalid
  exact ⟨hvalid, ⟨_, hcuts, rfl⟩, fun hsame => absurd (hprojects _ _ hsame) (by decide)⟩

end Engine

end TenantStorage.Settings
