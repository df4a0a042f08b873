import Mathlib.Data.List.Chain
import TenantStorage.Provision.Credentials
import TenantStorage.Provision.Run

namespace TenantStorage.Kubernetes

/-!
# Names that Kubernetes takes

Kubernetes takes a Secret only if its name is a subdomain and the values of its labels are short words.  Both the
name of a project's secret and one of its labels are made from the identifier of the project.

* `IsSubdomain`, `IsLabelValue`, `Admitted` — what Kubernetes takes.
* `isSubdomain_iff` — a subdomain as a condition on neighbouring characters, which is good for texts that are
  put together.
* `IsProjectName` — a subdomain that is short enough for a label.
* `admitted_iff` — with the default settings a secret is taken if and only if its project has such a name.
-/

/-! ### The rules -/

/-- A small letter or a digit of ASCII. -/
def isPlain (c : Char) : Bool := c.isLower || c.isDigit

/-- A part of a subdomain: small letters, digits and `-`, with a letter or a digit at both ends. -/
def isPart (part : List Char) : Bool :=
  part.all (fun c => isPlain c || c == '-') && part.head?.any isPlain && part.getLast?.any isPlain

/-- Parts between dots, and at most 253 characters. -/
def isSubdomain (text : List Char) : Bool := (text.splitOn '.').all isPart && text.length ≤ 253

/-- Nothing, or at most 63 letters, digits, `.`, `_` and `-`, with a letter or a digit at both ends. -/
def isLabelValue (text : List Char) : Bool :=
  text.isEmpty || (text.all (fun c => c.isAlphanum || c == '.' || c == '_' || c == '-') &&
    text.head?.any Char.isAlphanum && text.getLast?.any Char.isAlphanum && text.length ≤ 63)

/-- What Kubernetes takes as a secret. -/
def Admitted (record : SecretRecord) : Prop :=
  isSubdomain record.name.toList = true ∧ ∀ value ∈ record.labels.values, isLabelValue value.toList = true

/-- A subdomain that is short enough for a label. -/
def IsProjectName (project : String) : Prop :=
  isSubdomain project.toList = true ∧ project.toList.length ≤ 63

instance : DecidablePred Admitted := fun _ => inferInstanceAs (Decidable (_ ∧ _))

instance : DecidablePred IsProjectName := fun _ => inferInstanceAs (Decidable (_ ∧ _))

/-! ### Subdomains by neighbouring characters -/

/-- A dot has a letter or a digit on both sides. -/
def Beside (a b : Char) : Prop := (a = '.' → isPlain b = true) ∧ (b = '.' → isPlain a = true)

instance : DecidableRel Beside := fun _ _ => inferInstanceAs (Decidable (_ ∧ _))

/-- The characters of a subdomain. -/
def isNamed (c : Char) : Bool := isPlain c || c == '-' || c == '.'

/-- What is left of the parts of a subdomain behind a character. -/
def Completes (previous : Char) : List (List Char) → Prop
  | [] => False
  | part :: parts =>
    part.all (fun c => isPlain c || c == '-') = true ∧ (previous = '.' → part.head?.any isPlain = true) ∧
      isPlain (part.getLast?.getD previous) = true ∧ parts.all isPart = true

theorem isPlain_dot : isPlain '.' = false := by decide

theorem ne_dot_of_isPlain {c : Char} (h : isPlain c = true) : c ≠ '.' := by
  rintro rfl
  cases h

theorem completes_dot_iff {parts : List (List Char)} (h : parts ≠ []) :
    Completes '.' parts ↔ parts.all isPart = true := by
  cases parts with
  | nil => exact absurd rfl h
  | cons part parts =>
    have hlast : isPlain (part.getLast?.getD '.') = part.getLast?.any isPlain := by
      cases part.getLast? with
      | none => exact isPlain_dot
      | some c => rfl
    rw [Completes, hlast, List.all_cons, isPart, Bool.and_eq_true, Bool.and_eq_true, Bool.and_eq_true]
    constructor
    · rintro ⟨hchars, hfirst, hlast, hparts⟩
      exact ⟨⟨⟨hchars, hfirst rfl⟩, hlast⟩, hparts⟩
    · rintro ⟨⟨⟨hchars, hfirst⟩, hlast⟩, hparts⟩
      exact ⟨hchars, fun _ => hfirst, hlast, hparts⟩

theorem beside_dot_iff {c : Char} : Beside c '.' ↔ isPlain c = true := by
  constructor
  · exact fun h => h.2 rfl
  · exact fun h => ⟨fun hdot => absurd hdot (ne_dot_of_isPlain h), fun _ => h⟩

theorem beside_dash_iff {c : Char} : Beside c '-' ↔ c ≠ '.' := by
  constructor
  · exact fun h hdot => absurd (h.1 hdot) (by decide)
  · exact fun h => ⟨fun hdot => absurd hdot h, fun hdash => absurd hdash (by decide)⟩

theorem beside_comm {a b : Char} : Beside a b ↔ Beside b a := and_comm

/-- The parts behind a character, by the text that they are parts of. -/
theorem completes_splitOn_iff (text : List Char) (previous : Char) : Completes previous (text.splitOn '.') ↔
    text.all isNamed = true ∧ (previous :: text ++ ['.']).IsChain Beside := by
  induction text generalizing previous with
  | nil =>
    rw [List.splitOn_nil, List.singleton_append, List.isChain_pair, beside_dot_iff]
    constructor
    · exact fun h => ⟨rfl, h.2.2.1⟩
    · exact fun h => ⟨rfl, fun hdot => absurd hdot (ne_dot_of_isPlain h.2), h.2, rfl⟩
  | cons c rest ih =>
    rw [List.cons_append, List.cons_append, List.isChain_cons_cons, List.all_cons, Bool.and_eq_true,
      List.splitOn_cons_eq_if_modifyHead]
    by_cases hc : c = '.'
    · -- the part before the dot is at its end, and a new one begins
      subst hc
      have hrest := ih '.'
      rw [completes_dot_iff (List.splitOn_ne_nil _ _)] at hrest
      rw [if_pos (beq_self_eq_true _), beside_dot_iff, Completes, hrest]
      constructor
      · rintro ⟨-, -, hplain, hnamed, hchain⟩
        exact ⟨⟨rfl, hnamed⟩, hplain, hchain⟩
      · rintro ⟨⟨-, hnamed⟩, hplain, hchain⟩
        exact ⟨rfl, fun hdot => absurd hdot (ne_dot_of_isPlain hplain), hplain, hnamed, hchain⟩
    · -- the character belongs to the same part
      obtain ⟨part, parts, hsplit⟩ := List.exists_cons_of_ne_nil (List.splitOn_ne_nil '.' rest)
      have hrest := ih c
      have hnamed : isNamed c = (isPlain c || c == '-') := by
        rw [isNamed, beq_false_of_ne hc, Bool.or_false]
      rw [hsplit, Completes] at hrest
      rw [if_neg (by simpa using hc), hsplit, List.modifyHead_cons, Completes, List.getLast?_cons, Option.getD_some,
        List.all_cons, Bool.and_eq_true, hnamed]
      constructor
      · rintro ⟨⟨hplain, hchars⟩, hfirst, hlast, hparts⟩
        obtain ⟨hrestNamed, hchain⟩ := hrest.1 ⟨hchars, fun hdot => absurd hdot hc, hlast, hparts⟩
        exact ⟨⟨hplain, hrestNamed⟩, ⟨hfirst, fun hdot => absurd hdot hc⟩, hchain⟩
      · rintro ⟨⟨hplain, hrestNamed⟩, hbeside, hchain⟩
        obtain ⟨hchars, -, hlast, hparts⟩ := hrest.2 ⟨hrestNamed, hchain⟩
        exact ⟨⟨hplain, hchars⟩, hbeside.1, hlast, hparts⟩

theorem isSubdomain_iff {text : List Char} : isSubdomain text = true ↔
    text.all isNamed = true ∧ ('.' :: text ++ ['.']).IsChain Beside ∧ text.length ≤ 253 := by
  rw [isSubdomain, Bool.and_eq_true, ← completes_dot_iff (List.splitOn_ne_nil _ _), completes_splitOn_iff,
    and_assoc, decide_eq_true_eq]

/-- A text between two others, if none of the three is empty. -/
theorem isChain_between {R : Char → Char → Prop} {front text back : List Char} {x a b y : Char}
    (hx : front.getLast? = some x) (ha : text.head? = some a) (hb : text.getLast? = some b)
    (hy : back.head? = some y) :
    (front ++ text ++ back).IsChain R ↔
      (front.IsChain R ∧ back.IsChain R) ∧ text.IsChain R ∧ R x a ∧ R b y := by
  rw [List.isChain_append, List.isChain_append, List.getLast?_append, hx, ha, hb, hy]
  simp only [Option.mem_def, Option.some_or, Option.some.injEq, forall_eq']
  constructor
  · rintro ⟨⟨hfront, htext, hfirst⟩, hback, hlast⟩
    exact ⟨⟨hfront, hback⟩, htext, hfirst, hlast⟩
  · rintro ⟨⟨hfront, hback⟩, htext, hfirst, hlast⟩
    exact ⟨⟨hfront, htext, hfirst⟩, hback, hlast⟩

theorem isSubdomain_of_ends {text : List Char} {a b : Char} (ha : text.head? = some a)
    (hb : text.getLast? = some b) : isSubdomain text = true ↔
      text.all isNamed = true ∧ (text.IsChain Beside ∧ isPlain a = true ∧ isPlain b = true) ∧ text.length ≤ 253 := by
  rw [isSubdomain_iff, ← List.singleton_append, isChain_between (x := '.') rfl ha hb rfl, beside_comm,
    beside_dot_iff, beside_dot_iff]
  simp only [List.isChain_singleton, true_and]

/-! ### The secret of a project -/

theorem isAlphanum_of_isPlain {c : Char} (h : isPlain c = true) : c.isAlphanum = true := by
  have hkinds : c.isAlphanum = (c.isUpper || c.isLower || c.isDigit) := rfl
  rw [isPlain, Bool.or_eq_true] at h
  rw [hkinds, Bool.or_eq_true, Bool.or_eq_true]
  cases h with
  | inl hlower => exact .inl (.inr hlower)
  | inr hdigit => exact .inr hdigit

theorem isNamed_iff {c : Char} : isNamed c = true ↔ (isPlain c = true ∨ c = '-') ∨ c = '.' := by
  rw [isNamed, Bool.or_eq_true, Bool.or_eq_true, beq_iff_eq, beq_iff_eq]

theorem isPlain_of_isNamed {c : Char} (h : isNamed c = true) (halphanum : c.isAlphanum = true) :
    isPlain c = true := by
  rcases isNamed_iff.1 h with (hplain | rfl) | rfl
  · exact hplain
  · cases halphanum
  · cases halphanum

theorem isLabelValue_of_ends {text : List Char} {a b : Char} (ha : text.head? = some a)
    (hb : text.getLast? = some b) : isLabelValue text = true ↔
      ((text.all (fun c => c.isAlphanum || c == '.' || c == '_' || c == '-') = true ∧ a.isAlphanum = true) ∧
        b.isAlphanum = true) ∧ text.length ≤ 63 := by
  have hne : text ≠ [] := by
    rintro rfl
    cases ha
  rw [isLabelValue, List.isEmpty_eq_false_iff.2 hne, ha, hb, Bool.false_or, Bool.and_eq_true, Bool.and_eq_true,
    Bool.and_eq_true, decide_eq_true_eq]
  rfl

/-- The characters of a subdomain may all stand in a label. -/
theorem labelled_of_isNamed {text : List Char} (h : text.all isNamed = true) :
    text.all (fun c => c.isAlphanum || c == '.' || c == '_' || c == '-') = true := by
  rw [List.all_eq_true] at h ⊢
  intro c hc
  rcases isNamed_iff.1 (h c hc) with (hplain | rfl) | rfl
  · rw [isAlphanum_of_isPlain hplain]
    rfl
  · rfl
  · rfl

/-- The name of a project's secret under the default settings. -/
theorem toList_secretName (project : String) : ((default : Settings.Engine).secretName project).toList =
    "ontap-svm-".toList ++ project.toList ++ "-credentials".toList := by
  have htemplate : Settings.Template.ofText (default : Settings.Engine).secretNameTemplate =
      "ontap-svm-".toList.map .char ++ [.project] ++ "-credentials".toList.map .char := by decide +kernel
  rw [Settings.Engine.secretName, htemplate, Settings.Template.fill, String.toList_ofList]
  simp [Settings.Template.Part.fill]

/-- The values of the labels of a project's secret under the default settings. -/
theorem values_forProject (project : String) : ((default : Settings.Labels).forProject project).values =
    ["svm-controller", "ontap-svm-provisioner", project] := by
  have hmanaged : compare "app.kubernetes.io/managed-by" "app.kubernetes.io/part-of" = .lt := by decide +kernel
  have hproject : compare "ontap.storage.io/project" "app.kubernetes.io/managed-by" = .gt := by decide +kernel
  have hproject' : compare "ontap.storage.io/project" "app.kubernetes.io/part-of" = .gt := by decide +kernel
  have hkey : (default : Settings.Labels).projectLabelKey = "ontap.storage.io/project" := rfl
  simp only [Settings.Labels.forProject, SortedMap.ofList, List.foldl_cons, List.foldl_nil, SortedMap.insert,
    SortedMap.empty, SortedMap.insertEntry, hkey, hmanaged, hproject, hproject', SortedMap.values]
  rfl

/-- The name of the secret does not ask of the ends of a project's identifier what a subdomain asks of them. -/
theorem isSubdomain_secretName_iff {project : String} {a b : Char} (ha : project.toList.head? = some a)
    (hb : project.toList.getLast? = some b) :
    isSubdomain ((default : Settings.Engine).secretName project).toList = true ↔
      project.toList.all isNamed = true ∧ (project.toList.IsChain Beside ∧ a ≠ '.' ∧ b ≠ '.') ∧
        project.toList.length ≤ 231 := by
  have hfront : "ontap-svm-".toList.all isNamed = true := by decide +kernel
  have hback : "-credentials".toList.all isNamed = true := by decide +kernel
  have hbefore : ('.' :: "ontap-svm-".toList).IsChain Beside := by decide +kernel
  have hbehind : ("-credentials".toList ++ ['.']).IsChain Beside := by decide +kernel
  have hsplit : '.' :: ("ontap-svm-".toList ++ project.toList ++ "-credentials".toList) ++ ['.'] =
      ('.' :: "ontap-svm-".toList) ++ project.toList ++ ("-credentials".toList ++ ['.']) := by simp
  have hlength : ("ontap-svm-".toList ++ project.toList ++ "-credentials".toList).length ≤ 253 ↔
      project.toList.length ≤ 231 := by
    have hfront : "ontap-svm-".toList.length = 10 := by decide +kernel
    have hback : "-credentials".toList.length = 12 := by decide +kernel
    rw [List.length_append, List.length_append]
    omega
  rw [toList_secretName, isSubdomain_iff, hsplit, isChain_between (x := '-') (y := '-') rfl ha hb rfl,
    beside_comm, beside_dash_iff, beside_dash_iff, hlength, List.all_append, List.all_append, hfront, hback,
    Bool.true_and, Bool.and_true]
  constructor
  · rintro ⟨hnamed, ⟨-, hends⟩, hlength⟩
    exact ⟨hnamed, hends, hlength⟩
  · rintro ⟨hnamed, hends, hlength⟩
    exact ⟨hnamed, ⟨⟨hbefore, hbehind⟩, hends⟩, hlength⟩

variable {project : String} {credentials : Credentials}

/-- Of the labels of a project's secret only that with the identifier of the project may be refused. -/
theorem admitted_iff_project : Admitted (Provision.projectSecret default project credentials) ↔
    isSubdomain ((default : Settings.Engine).secretName project).toList = true ∧
      isLabelValue project.toList = true := by
  have hmanaged : isLabelValue "svm-controller".toList = true := by decide +kernel
  have hpart : isLabelValue "ontap-svm-provisioner".toList = true := by decide +kernel
  show _ ∧ (∀ value ∈ ((default : Settings.Labels).forProject project).values, _) ↔ _
  rw [values_forProject]
  simp only [List.forall_mem_cons, List.not_mem_nil, false_imp_iff, implies_true, and_true, hmanaged, hpart,
    true_and]
  rfl

/-- **Names of projects.**  With the default settings Kubernetes takes the secret of a project if and only if the
    identifier of the project is a subdomain of at most 63 characters. -/
theorem admitted_iff (h : project ≠ "") :
    Admitted (Provision.projectSecret default project credentials) ↔ IsProjectName project := by
  have hne : project.toList ≠ [] := fun hempty => h (String.toList_injective (hempty.trans rfl))
  obtain ⟨a, ha⟩ : ∃ a, project.toList.head? = some a := ⟨_, List.head?_eq_some_head hne⟩
  obtain ⟨b, hb⟩ : ∃ b, project.toList.getLast? = some b := ⟨_, List.getLast?_eq_some_getLast hne⟩
  rw [admitted_iff_project, isSubdomain_secretName_iff ha hb, IsProjectName, isSubdomain_of_ends ha hb,
    isLabelValue_of_ends ha hb]
  constructor
  · -- the label asks for a letter or a digit at both ends, the name for small letters
    rintro ⟨⟨hall, ⟨hchain, -, -⟩, -⟩, ⟨⟨-, hfirst⟩, hlast⟩, hshort⟩
    have hnamed := List.all_eq_true.1 hall
    have hplain := isPlain_of_isNamed (hnamed a (List.mem_of_mem_head? ha)) hfirst
    have hplain' := isPlain_of_isNamed (hnamed b (List.mem_of_mem_getLast? hb)) hlast
    exact ⟨⟨hall, ⟨hchain, hplain, hplain'⟩, by omega⟩, hshort⟩
  · rintro ⟨⟨hall, ⟨hchain, hfirst, hlast⟩, -⟩, hshort⟩
    exact ⟨⟨hall, ⟨hchain, ne_dot_of_isPlain hfirst, ne_dot_of_isPlain hlast⟩, by omega⟩,
      ⟨⟨labelled_of_isNamed hall, isAlphanum_of_isPlain hfirst⟩, isAlphanum_of_isPlain hlast⟩, hshort⟩

/-- A request that is accepted names its project. -/
theorem projectId_ne_empty {request : Provision.Request} (h : request.validate = .ok ()) :
    request.projectId ≠ "" := by
  intro hempty
  rw [Provision.Request.validate, hempty] at h
  cases h

end TenantStorage.Kubernetes
