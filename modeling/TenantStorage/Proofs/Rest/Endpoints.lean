import Mathlib.Data.Bool.AllAny
import TenantStorage.Proofs.Percent
import TenantStorage.Proofs.Rest.Urls
import TenantStorage.Rest.Request

namespace TenantStorage.Rest

open Url

/-!
# Where requests go

The URL of a request is the endpoint of the settings without the slashes at its end, then `/api`, then the path
for the call.  Settings are accepted if their endpoint begins with one of the two schemes, which does not make it
a URL, nor one to which a path can be added.

* `Rooted`, `rooted_queryOf` — the paths that calls use.
* `WellPlaced` — the URL for a path is the endpoint's own URL with `/api` and the path behind it.
* `Usable` — an endpoint to which paths can be added.
* `Parts`, `parts_of_scheme` — an endpoint and the text for a path, read side by side.
* `wellPlaced_of_accepted_iff` — which endpoints and paths make well-placed URLs, and where requests go in any case.
-/

/-! ### Paths of calls -/

/-- A character that stands for itself in a path, and for nothing else. -/
def IsPlain (c : Char) : Prop := isPathChar c = true ∧ c ≠ '\\'

instance : DecidablePred IsPlain := fun c => inferInstanceAs (Decidable (isPathChar c = true ∧ c ≠ '\\'))

/-- A path that can stand behind an endpoint: it begins with a slash, and all characters are plain. -/
def Rooted (path : String) : Prop := path.toList.head? = some '/' ∧ ∀ c ∈ path.toList, IsPlain c

-- the instance is named since there is another one, which tries all characters there are
instance (path : String) : Decidable (Rooted path) :=
  @instDecidableAnd _ _ inferInstance (List.decidableBAll IsPlain path.toList)

theorem isPlain_of_isUnreserved {c : Char} (h : Percent.isUnreserved c = true) : IsPlain c := by
  have hascii := Percent.lt_of_isUnreserved h
  revert h
  exact Text.ascii_forall (P := fun c => Percent.isUnreserved c = true → IsPlain c) (by decide) hascii

/-- A text that is encoded as a part of a path is plain. -/
theorem isPlain_of_mem_component {text : String} : ∀ c ∈ (Percent.component text).toList, IsPlain c := by
  intro c hc
  rcases Percent.mem_component_cases c hc with hkept | rfl
  · exact isPlain_of_isUnreserved hkept
  · decide

theorem Rooted.append {front back : String} (h : Rooted front) (hback : ∀ c ∈ back.toList, IsPlain c) :
    Rooted (front ++ back) := by
  obtain ⟨hslash, hfront⟩ := h
  rw [Rooted, String.toList_append]
  refine ⟨?_, fun c hc => (List.mem_append.1 hc).elim (hfront c) (hback c)⟩
  rw [List.head?_append, hslash]
  rfl

theorem rooted_accountPath (ownerUuid username : String) : Rooted (accountPath ownerUuid username) := by
  have hfront : Rooted "/security/accounts/" := by decide
  have hslash : ∀ c ∈ "/".toList, IsPlain c := List.all_iff_forall_prop.1 rfl
  exact ((hfront.append isPlain_of_mem_component).append hslash).append isPlain_of_mem_component

/-- The paths of all calls are such. -/
theorem rooted_queryOf (call : ControllerCall) : Rooted (queryOf call).path := by
  cases call with
  | svm uuid =>
    have hfront : Rooted "/svm/svms/" := by decide
    exact hfront.append isPlain_of_mem_component
  | account ownerUuid username => exact rooted_accountPath ownerUuid username
  | setPassword ownerUuid username password => exact rooted_accountPath ownerUuid username
  | svmByName | createSvm | nodes | aggregates | createInterface | peerGroups | createAccount =>
    simp only [queryOf]
    decide

/-! ### Segments of paths -/

/-- The segments of a path as they are written. -/
def pathSegments (path : String) : List String := ((path.toList.drop 1).splitOn '/').map String.ofList

theorem mem_of_mem_splitOn {cs part : List Char} (h : part ∈ cs.splitOn '/') : ∀ c ∈ part, c ∈ cs := by
  induction cs generalizing part with
  | nil =>
    obtain rfl : part = [] := by simpa using h
    exact fun c hc => hc
  | cons first rest ih =>
    rw [List.splitOn_cons_eq_if_modifyHead] at h
    cases hsplit : rest.splitOn '/' with
    | nil => exact absurd hsplit (List.splitOn_ne_nil _ _)
    | cons head others =>
      rw [hsplit] at h ih
      intro c hc
      by_cases hslash : (first == '/') = true
      · rw [if_pos hslash] at h
        rcases List.mem_cons.1 h with rfl | hmem
        · cases hc
        · exact List.mem_cons_of_mem _ (ih hmem c hc)
      · rw [if_neg hslash, List.modifyHead_cons] at h
        rcases List.mem_cons.1 h with rfl | hmem
        · rcases List.mem_cons.1 hc with rfl | hhead
          · exact List.mem_cons_self
          · exact List.mem_cons_of_mem _ (ih List.mem_cons_self c hhead)
        · exact List.mem_cons_of_mem _ (ih (List.mem_cons_of_mem _ hmem) c hc)

theorem encode_of_forall {keep : Char → Bool} {cs : List Char} (h : ∀ c ∈ cs, keep c = true) :
    Percent.encode keep cs = cs := by
  induction cs with
  | nil => rfl
  | cons c rest ih =>
    obtain ⟨hc, hrest⟩ := List.forall_mem_cons.1 h
    rw [Percent.encode, List.flatMap_cons, Percent.encodeChar, if_pos hc, ← Percent.encode, ih hrest]
    rfl

/-- Plain characters are not changed by encoding. -/
theorem rawSegments_of_plain {cs : List Char} (h : ∀ c ∈ cs, IsPlain c) :
    rawSegments cs = (cs.splitOn '/').map String.ofList := by
  have hsame : (cs.map fun c => if isSlash c then '/' else c) = cs := by
    rw [List.map_congr_left (g := id) fun c hc => ?_, List.map_id]
    simp only [isSlash, Bool.or_eq_true, beq_iff_eq, (h c hc).2, or_false, id_eq]
    split
    · exact Eq.symm ‹_›
    · rfl
  rw [rawSegments, hsame]
  exact List.map_congr_left fun part hpart => congrArg String.ofList
    (encode_of_forall fun c hc => (h c (mem_of_mem_splitOn hpart c hc)).1)

/-- Behind `/api`, a path is as it is written. -/
theorem rawSegments_api {path : String} (h : Rooted path) :
    rawSegments ("api".toList ++ path.toList) = "api" :: pathSegments path := by
  obtain ⟨hslash, hplain⟩ := h
  obtain ⟨rest, hpath⟩ := List.head?_eq_some_iff.1 hslash
  have hrest : ∀ c ∈ rest, IsPlain c := fun c hc => hplain c (hpath ▸ List.mem_cons_of_mem _ hc)
  rw [hpath, rawSegments_append, rawSegments_of_plain hrest, pathSegments, hpath]
  rfl

/-- What is added to an endpoint for a path. -/
def apiText (path : String) : List Char := '/' :: ("api".toList ++ path.toList)

/-! ### Endpoints -/

/-- Two URLs have one scheme, one host and one port. -/
structure SameOrigin (url own : Url) : Prop where
  scheme : url.scheme = own.scheme
  host : url.host = own.host
  portNumber : url.portNumber = own.portNumber

/-- The URL for a path is well placed: it has the origin of the endpoint's own URL, the path of that without some
    slashes at its end, `/api` and the path behind it, and neither a query nor a fragment. -/
structure WellPlaced (path : String) (own url : Url) : Prop where
  origin : SameOrigin url own
  host : url.host ≠ ""
  path : ∃ before slashes, own.path = before ++ List.replicate slashes "" ∧
    url.path = before ++ "api" :: pathSegments path
  query : url.query = none
  fragment : url.fragment = none

/-- The last character that counts is neither a control character nor a space. -/
def Unpadded (endpoint : String) : Prop :=
  ∀ c, (endpoint.toList.filter (!isBreak ·)).getLast? = some c → isEdge c = false

/-- Paths can be added to an endpoint: it is a URL without a query and a fragment, and nothing is left out at its
    end but tabs and line breaks. -/
def Usable (readHost : List Char → Option (List Char)) (endpoint : String) : Prop :=
  (∃ own, parseBy? readHost endpoint = some own ∧ own.query = none ∧ own.fragment = none) ∧ Unpadded endpoint

/-! ### Two texts side by side -/

variable {readHost : List Char → Option (List Char)} {scheme : Scheme} {endpoint path : String}

/-- How an endpoint and the text for a path are read, one beside the other. -/
inductive Parts (readHost : List Char → Option (List Char)) (scheme : Scheme) (endpoint path : String) : Prop where
  /-- The path is added behind the slashes at the end, if there are any. -/
  | added (authority rest : List Char) (slashes : Nat) (h : Unpadded endpoint)
      (hown : parseBy? readHost endpoint =
        (origin? readHost scheme authority).map fun origin =>
          compose scheme origin (rest ++ List.replicate slashes '/'))
      (hurl : parseBy? readHost (urlText endpoint path) =
        (origin? readHost scheme authority).map fun origin => compose scheme origin (rest ++ apiText path))
  /-- What is left out at the end comes to stand in the middle. -/
  | padded (authority rest front : List Char) (c : Char) (hrest : rest ≠ [])
      (h : ¬Unpadded endpoint) (hedges : ∀ other ∈ front ++ [c], isEdge other = true)
      (hown : parseBy? readHost endpoint =
        (origin? readHost scheme authority).map fun origin => compose scheme origin rest)
      (hurl : parseBy? readHost (urlText endpoint path) =
        (origin? readHost scheme authority).map fun origin =>
          compose scheme origin (rest ++ (front ++ [c]) ++ apiText path))
  /-- What is left out at the end comes to stand in the authority. -/
  | nowhere (h : ¬Unpadded endpoint) (hurl : parseBy? readHost (urlText endpoint path) = none)
  /-- There is no authority, and `api` comes to stand in its place. -/
  | astray (hown : parseBy? readHost endpoint = none)
      (hurl : parseBy? readHost (urlText endpoint path) = located? readHost scheme ("api".toList ++ path.toList))

theorem bare_append_iff {front back : List Char} : Bare (front ++ back) ↔ Bare front ∧ Bare back :=
  List.forall_mem_append

theorem bare_replicate (slashes : Nat) : Bare (List.replicate slashes '/') := by
  intro c hc
  rw [List.eq_of_mem_replicate hc]
  decide

theorem Rooted.isPlain (h : Rooted path) : ∀ c ∈ apiText path, IsPlain c := by
  have hapi : ∀ c ∈ "/api".toList, IsPlain c := List.all_iff_forall_prop.1 rfl
  exact List.forall_mem_append.2 ⟨hapi, h.2⟩

theorem Rooted.bare (h : Rooted path) : Bare (apiText path) := by
  intro c hc
  obtain ⟨hplain, -⟩ := h.isPlain c hc
  constructor
  · rintro rfl
    cases hplain
  · rintro rfl
    cases hplain

theorem Rooted.isEdge (h : Rooted path) : ∀ c ∈ apiText path, isEdge c = false := by
  intro c hc
  obtain ⟨hplain, -⟩ := h.isPlain c hc
  have hlow : 0x20 < c.toNat := by
    rw [isPathChar, Bool.and_eq_true, Bool.and_eq_true, decide_eq_true_eq] at hplain
    exact hplain.1.1
  simpa [Url.isEdge] using hlow

/-- Where a path is added, its segments stand as they are written if none is a dot, and only then. -/
theorem segments_api_iff (hpath : Rooted path) (front : List Char) {before : List String} :
    segments (front ++ apiText path) = before ++ "api" :: pathSegments path ↔
      before = (base front).reverse ∧ ∀ segment ∈ pathSegments path, ¬IsDot segment := by
  have hresolved (h : ∀ segment ∈ pathSegments path, ¬IsDot segment) :
      resolve (base front) ("api" :: pathSegments path) = (base front).reverse ++ "api" :: pathSegments path :=
    resolve_of_forall (List.forall_mem_cons.2 ⟨by decide, h⟩)
  rw [apiText, segments_append, rawSegments_api hpath]
  constructor
  · intro heq
    have hdots : ∀ segment ∈ pathSegments path, ¬IsDot segment := by
      intro segment hmem
      have hresolve : segment ∈ resolve (base front) ("api" :: pathSegments path) := by
        rw [heq]
        simp [hmem]
      exact not_isDot_of_mem_resolve (not_isDot_of_mem_base front) segment hresolve
    rw [hresolved hdots] at heq
    exact ⟨(List.append_cancel_right heq).symm, hdots⟩
  · rintro ⟨rfl, hdots⟩
    exact hresolved hdots

/-- With an authority, what is added to a path without a query and a fragment stands behind it. -/
theorem wellPlaced_added {origin : String × Option Nat} (hhost : origin.1 ≠ "") (hpath : Rooted path)
    (rest : List Char) (slashes : Nat) :
    WellPlaced path (compose scheme origin (rest ++ List.replicate slashes '/'))
        (compose scheme origin (rest ++ apiText path)) ↔
      Bare rest ∧ ∀ segment ∈ pathSegments path, ¬IsDot segment := by
  constructor
  · rintro ⟨-, -, ⟨before, -, -, hurl⟩, hquery, hfragment⟩
    have hbare := bare_of_compose hquery hfragment
    rw [compose_of_bare hbare] at hurl
    exact ⟨(bare_append_iff.1 hbare).1, ((segments_api_iff hpath rest).1 hurl).2⟩
  · rintro ⟨hbare, hdots⟩
    have hown : Bare (rest ++ List.replicate slashes '/') := bare_append_iff.2 ⟨hbare, bare_replicate slashes⟩
    have hurl : Bare (rest ++ apiText path) := bare_append_iff.2 ⟨hbare, hpath.bare⟩
    obtain ⟨more, hsegments⟩ := exists_segments rest slashes
    rw [compose_of_bare hown, compose_of_bare hurl]
    have hplaced := (segments_api_iff hpath rest).2 ⟨rfl, hdots⟩
    exact ⟨⟨rfl, rfl, rfl⟩, hhost, ⟨_, more, hsegments, hplaced⟩, rfl, rfl⟩

/-- What is left out at the end of the endpoint and then counts is a change of its path. -/
theorem not_wellPlaced_padded {origin : String × Option Nat} (hpath : Rooted path) {rest front : List Char}
    {c : Char} (hrest : rest ≠ []) (hedges : ∀ other ∈ front ++ [c], isEdge other = true) :
    ¬WellPlaced path (compose scheme origin rest)
      (compose scheme origin (rest ++ (front ++ [c]) ++ apiText path)) := by
  rintro ⟨-, -, ⟨before, slashes, hown, hurl⟩, hquery, hfragment⟩
  have hbare := bare_of_compose hquery hfragment
  have hbareRest : Bare rest := (bare_append_iff.1 (bare_append_iff.1 hbare).1).1
  rw [compose_of_bare hbare] at hurl
  rw [compose_of_bare hbareRest] at hown
  obtain ⟨rfl, -⟩ := (segments_api_iff hpath _).1 hurl
  exact segments_ne_of_isEdge hrest hedges slashes hown

/-- The parts of a usable endpoint make a well-placed URL if no segment of the path is a dot. -/
theorem Parts.wellPlaced_iff (hreader : HostReader readHost) (hpath : Rooted path)
    (h : Parts readHost scheme endpoint path) :
    (∃ own url, parseBy? readHost endpoint = some own ∧ parseBy? readHost (urlText endpoint path) = some url ∧
        WellPlaced path own url) ↔
      Usable readHost endpoint ∧ ∀ segment ∈ pathSegments path, ¬IsDot segment := by
  cases h with
  | added authority rest slashes h hown hurl =>
    rw [Usable, hown, hurl]
    cases horigin : origin? readHost scheme authority with
    | none => simp
    | some origin =>
      have hhost : origin.1 ≠ "" := hreader.host_ne horigin
      rw [Option.map_some, Option.map_some]
      constructor
      · rintro ⟨own, url, hsome, hsome', hplaced⟩
        obtain rfl := Option.some.inj hsome
        obtain rfl := Option.some.inj hsome'
        obtain ⟨hbare, hdots⟩ := (wellPlaced_added hhost hpath rest slashes).1 hplaced
        have hown : Bare (rest ++ List.replicate slashes '/') := bare_append_iff.2 ⟨hbare, bare_replicate slashes⟩
        rw [compose_of_bare hown]
        exact ⟨⟨⟨_, rfl, rfl, rfl⟩, h⟩, hdots⟩
      · rintro ⟨⟨⟨own, hsome, hquery, hfragment⟩, -⟩, hdots⟩
        obtain rfl := Option.some.inj hsome
        have hbare : Bare rest := (bare_append_iff.1 (bare_of_compose hquery hfragment)).1
        exact ⟨_, _, rfl, rfl, (wellPlaced_added hhost hpath rest slashes).2 ⟨hbare, hdots⟩⟩
  | padded authority rest front c hrest h hedges hown hurl =>
    constructor
    · rintro ⟨own, url, hsome, hsome', hplaced⟩
      rw [hown] at hsome
      rw [hurl] at hsome'
      obtain ⟨origin, horigin, rfl⟩ := Option.map_eq_some_iff.1 hsome
      rw [horigin] at hsome'
      obtain rfl := Option.some.inj hsome'
      exact absurd hplaced (not_wellPlaced_padded hpath hrest hedges)
    · rintro ⟨⟨-, hunpadded⟩, -⟩
      exact absurd hunpadded h
  | nowhere h hurl =>
    constructor
    · rintro ⟨own, url, -, hsome, -⟩
      rw [hurl] at hsome
      cases hsome
    · rintro ⟨⟨-, hunpadded⟩, -⟩
      exact absurd hunpadded h
  | astray hown hurl =>
    constructor
    · rintro ⟨own, url, hsome, -⟩
      rw [hown] at hsome
      cases hsome
    · rintro ⟨⟨⟨own, hsome, -⟩, -⟩, -⟩
      rw [hown] at hsome
      cases hsome

/-- Requests go where the endpoint points, unless the endpoint is no URL. -/
theorem Parts.origin (hpath : Rooted path) (h : Parts readHost scheme endpoint path) {url : Url}
    (hurl : parseBy? readHost (urlText endpoint path) = some url) :
    (∃ own, parseBy? readHost endpoint = some own ∧ SameOrigin url own) ∨
      parseBy? readHost endpoint = none ∧ readHost "api".toList = some url.host.toList := by
  have hsame (origin : String × Option Nat) (longer shorter : List Char) :
      SameOrigin (compose scheme origin longer) (compose scheme origin shorter) := ⟨rfl, rfl, rfl⟩
  cases h with
  | added authority rest slashes h hown htext =>
    rw [htext] at hurl
    obtain ⟨origin, horigin, rfl⟩ := Option.map_eq_some_iff.1 hurl
    exact .inl ⟨_, by rw [hown, horigin, Option.map_some], hsame origin _ _⟩
  | padded authority rest front c hrest h hedges hown htext =>
    rw [htext] at hurl
    obtain ⟨origin, horigin, rfl⟩ := Option.map_eq_some_iff.1 hurl
    exact .inl ⟨_, by rw [hown, horigin, Option.map_some], hsame origin _ _⟩
  | nowhere h hnone =>
    rw [hnone] at hurl
    cases hurl
  | astray hown htext =>
    have hend : path.toList.takeWhile (!endsAuthority ·) = [] := by
      obtain ⟨rest, hrest⟩ := List.head?_eq_some_iff.1 hpath.1
      rw [hrest]
      rfl
    rw [htext, located?_append hend] at hurl
    obtain ⟨origin, horigin, rfl⟩ := Option.map_eq_some_iff.1 hurl
    have hname : (splitPort (afterUserinfo ("api".toList.takeWhile (!endsAuthority ·)))).1 = "api".toList := by
      decide
    have hhost := exists_host horigin
    rw [hname] at hhost
    exact .inr ⟨hown, hhost⟩

/-! ### Accepted endpoints -/

/-- An endpoint that is accepted begins with a scheme and two slashes. -/
theorem exists_scheme {settings : Settings.Controller} (h : settings.validate = .ok ()) :
    ∃ (scheme : Scheme) (rest : List Char),
      settings.endpoint.toList = scheme.text.toList ++ ':' :: '/' :: '/' :: rest := by
  by_cases hstart : (Text.startsWith settings.endpoint "https://" ||
      Text.startsWith settings.endpoint "http://") = true
  · rw [Bool.or_eq_true, Text.startsWith, Text.startsWith, List.isPrefixOf_iff_prefix,
      List.isPrefixOf_iff_prefix] at hstart
    rcases hstart with ⟨rest, hrest⟩ | ⟨rest, hrest⟩
    · exact ⟨.https, rest, hrest.symm⟩
    · exact ⟨.http, rest, hrest.symm⟩
  · simp [Settings.Controller.validate, hstart] at h
    cases h

/-- A text without the slashes at its end, and without the control characters and spaces at its end. -/
theorem exists_ends (back : List Char) : ∃ slashes left,
    (back.rdropWhile (· == '/')).filter (!isBreak ·) ++ List.replicate slashes '/' =
        (back.rdropWhile isEdge).filter (!isBreak ·) ++ left ∧
      back.filter (!isBreak ·) = (back.rdropWhile isEdge).filter (!isBreak ·) ++ left ∧
      (∀ c ∈ left, isEdge c = true) ∧
      ∀ c, ((back.rdropWhile isEdge).filter (!isBreak ·)).getLast? = some c → isEdge c = false := by
  have hsplit (p : Char → Bool) : back.filter (!isBreak ·) =
      (back.rdropWhile p).filter (!isBreak ·) ++ (back.rtakeWhile p).filter (!isBreak ·) := by
    rw [← List.filter_append, List.rdropWhile_append_rtakeWhile]
  have hslashes : (back.rtakeWhile (· == '/')).filter (!isBreak ·) =
      List.replicate ((back.rtakeWhile (· == '/')).filter (!isBreak ·)).length '/' := by
    refine List.eq_replicate_of_mem fun c hc => ?_
    simpa using List.mem_rtakeWhile_imp (List.mem_filter.1 hc).1
  refine ⟨((back.rtakeWhile (· == '/')).filter (!isBreak ·)).length,
    (back.rtakeWhile isEdge).filter (!isBreak ·), ?_, hsplit isEdge,
    fun c hc => List.mem_rtakeWhile_imp (List.mem_filter.1 hc).1, ?_⟩
  · rw [← hslashes, ← hsplit, ← hsplit]
  · intro c hlast
    rcases List.eq_nil_or_concat' (back.rdropWhile isEdge) with hnil | ⟨front, last, hconcat⟩
    · rw [hnil] at hlast
      cases hlast
    · have hne : back.rdropWhile isEdge ≠ [] := by simp [hconcat]
      have hedge : isEdge last = false := by
        have hnot := List.rdropWhile_last_not isEdge back hne
        simpa [hconcat] using hnot
      have hkept : c = last := by simpa [hconcat, isBreak_of_not_isEdge hedge, eq_comm] using hlast
      exact hkept ▸ hedge

theorem not_endsAuthority_of_isEdge {c : Char} (h : isEdge c = true) : endsAuthority c = false := by
  have hquery : c ≠ '?' := fun heq => absurd (heq ▸ h) (by decide)
  have hfragment : c ≠ '#' := fun heq => absurd (heq ▸ h) (by decide)
  simp [endsAuthority, not_isSlash_of_isEdge h, hquery, hfragment]

/-- Both texts are cleaned before they are read. -/
theorem parseBy?_of_scheme (readHost : List Char → Option (List Char)) (hpath : Rooted path) {back : List Char}
    (h : endpoint.toList = scheme.text.toList ++ ':' :: back) :
    parseBy? readHost endpoint =
        located? readHost scheme (((back.rdropWhile isEdge).filter (!isBreak ·)).dropWhile isSlash) ∧
      parseBy? readHost (urlText endpoint path) =
        located? readHost scheme (((back.rdropWhile (· == '/')).filter (!isBreak ·) ++
          apiText path).dropWhile isSlash) := by
  have hne : scheme.text.toList ++ [':'] ≠ [] := by simp
  have hedges : ∀ c ∈ scheme.text.toList ++ [':'], isEdge c = false :=
    List.all_iff_forall_prop.1 (by cases scheme <;> rfl)
  have hslashes : ∀ c ∈ scheme.text.toList ++ [':'], (c == '/') = false :=
    List.all_iff_forall_prop.1 (by cases scheme <;> rfl)
  rw [List.append_cons] at h
  have hclean := clean_append hne hedges
  constructor
  · refine parseBy?_of_clean ?_ readHost
    rw [h, hclean, List.append_assoc]
    rfl
  · have htext : (urlText endpoint path).toList = scheme.text.toList ++ [':'] ++
        (back.rdropWhile (· == '/') ++ apiText path) := by
      have htrimmed : (trimSlashes endpoint).toList = endpoint.toList.rdropWhile (· == '/') := String.toList_ofList
      have hadded : apiText path = "/api".toList ++ path.toList := rfl
      rw [urlText, String.toList_append, String.toList_append, htrimmed, h, rdropWhile_append hslashes, hadded]
      simp only [List.append_assoc]
    have hend : (back.rdropWhile (· == '/') ++ apiText path).rdropWhile isEdge =
        back.rdropWhile (· == '/') ++ apiText path := by
      have hsome : apiText path ≠ [] := List.cons_ne_nil _ _
      rw [List.rdropWhile_eq_self_iff]
      intro hall
      rw [List.getLast_append_of_ne_nil hall hsome, hpath.isEdge _ (List.getLast_mem hsome)]
      exact Bool.false_ne_true
    have hkept : (apiText path).filter (!isBreak ·) = apiText path := by
      rw [List.filter_eq_self]
      intro c hc
      rw [isBreak_of_not_isEdge (hpath.isEdge c hc)]
      rfl
    refine parseBy?_of_clean ?_ readHost
    rw [htext, hclean, hend, List.filter_append, hkept, List.append_assoc]
    rfl

/-- The slashes at the front are skipped together with those of the endpoint, if there is nothing else. -/
theorem dropWhile_isSlash_append (front tail : List Char) :
    (front ++ tail).dropWhile isSlash =
      if front.dropWhile isSlash = [] then tail.dropWhile isSlash else front.dropWhile isSlash ++ tail := by
  rw [List.dropWhile_append]
  simp only [List.isEmpty_iff]

/-- No character that is left out at the end is a slash. -/
theorem dropWhile_isSlash_edges {edges : List Char} (h : ∀ c ∈ edges, isEdge c = true) (front : List Char) :
    (front ++ edges).dropWhile isSlash = front.dropWhile isSlash ++ edges := by
  have hkept : edges.dropWhile isSlash = edges := by
    cases edges with
    | nil => rfl
    | cons first others =>
      have hfirst : isSlash first = false := not_isSlash_of_isEdge (h first List.mem_cons_self)
      rw [List.dropWhile_cons_of_neg (by simp [hfirst])]
  rw [dropWhile_isSlash_append, hkept]
  by_cases hfront : front.dropWhile isSlash = []
  · rw [if_pos hfront, hfront, List.nil_append]
  · rw [if_neg hfront]

/-- An authority that ends in a text ends in the same place of a longer one. -/
theorem takeWhile_dropWhile_append {p : Char → Bool} {front : List Char} (h : front.dropWhile p ≠ []) (tail : List Char) :
    (front ++ tail).takeWhile p = front.takeWhile p ∧ (front ++ tail).dropWhile p = front.dropWhile p ++ tail := by
  have hdrop : (front ++ tail).dropWhile p = front.dropWhile p ++ tail := by
    rw [List.dropWhile_append, if_neg (by simpa using h)]
  refine ⟨(List.append_left_inj (front.dropWhile p ++ tail)).1 ?_, hdrop⟩
  calc (front ++ tail).takeWhile p ++ (front.dropWhile p ++ tail)
      = front ++ tail := by rw [← hdrop, List.takeWhile_append_dropWhile]
    _ = front.takeWhile p ++ front.dropWhile p ++ tail := by rw [List.takeWhile_append_dropWhile]
    _ = front.takeWhile p ++ (front.dropWhile p ++ tail) := List.append_assoc _ _ _

/-- Without an authority there is no URL. -/
theorem located?_nil (hreader : HostReader readHost) (scheme : Scheme) : located? readHost scheme [] = none := by
  have hnone : origin? readHost scheme [] = none := by
    change (readHost []).bind _ = none
    rw [hreader.empty]
    rfl
  rw [located?, List.takeWhile_nil, hnone]
  rfl

/-- An endpoint with nothing left out at its end, and the text for a path. -/
theorem parts_of_unpadded (hreader : HostReader readHost) (hunpadded : Unpadded endpoint) {front : List Char}
    {slashes : Nat}
    (hown : parseBy? readHost endpoint =
      located? readHost scheme ((front ++ List.replicate slashes '/').dropWhile isSlash))
    (hurl : parseBy? readHost (urlText endpoint path) =
      located? readHost scheme ((front ++ apiText path).dropWhile isSlash)) :
    Parts readHost scheme endpoint path := by
  have hslashes : (List.replicate slashes '/').dropWhile isSlash = [] :=
    List.dropWhile_eq_nil_iff.2 fun c hc => by
      rw [List.eq_of_mem_replicate hc]
      rfl
  rw [dropWhile_isSlash_append] at hown hurl
  by_cases hfront : front.dropWhile isSlash = []
  · rw [if_pos hfront, hslashes, located?_nil hreader] at hown
    rw [if_pos hfront] at hurl
    exact .astray hown hurl
  · have hend : (List.replicate slashes '/').takeWhile (!endsAuthority ·) = [] := by
      cases slashes <;> rfl
    have hend' : (apiText path).takeWhile (!endsAuthority ·) = [] := rfl
    rw [if_neg hfront, located?_append hend] at hown
    rw [if_neg hfront, located?_append hend'] at hurl
    exact .added _ _ slashes hunpadded hown hurl

/-- An endpoint at whose end something is left out, and the text for a path. -/
theorem parts_of_padded (hreader : HostReader readHost) (hpadded : ¬Unpadded endpoint) {front left : List Char}
    {c : Char} (hedges : ∀ other ∈ left ++ [c], isEdge other = true)
    (hown : parseBy? readHost endpoint = located? readHost scheme (front.dropWhile isSlash))
    (hurl : parseBy? readHost (urlText endpoint path) =
      located? readHost scheme ((front ++ (left ++ [c]) ++ apiText path).dropWhile isSlash)) :
    Parts readHost scheme endpoint path := by
  have hend : (apiText path).takeWhile (!endsAuthority ·) = [] := rfl
  have hinside : ∀ other ∈ left ++ [c], (!endsAuthority other) = true := by
    intro other hmem
    rw [not_endsAuthority_of_isEdge (hedges other hmem)]
    rfl
  rw [dropWhile_isSlash_append, dropWhile_isSlash_edges hedges, if_neg (by simp), located?_append hend] at hurl
  generalize front.dropWhile isSlash = rest at hown hurl
  by_cases hauthority : rest.dropWhile (!endsAuthority ·) = []
  · -- the authority goes on to what is left out at the end of the endpoint
    have hall : (rest ++ (left ++ [c])).takeWhile (!endsAuthority ·) = rest ++ left ++ [c] := by
      rw [List.append_assoc, List.takeWhile_eq_self_iff]
      exact List.forall_mem_append.2 ⟨List.dropWhile_eq_nil_iff.1 hauthority, hinside⟩
    rw [hall, hreader.origin? scheme (hedges c (by simp))] at hurl
    exact .nowhere hpadded hurl
  · obtain ⟨htake, hdrop⟩ := takeWhile_dropWhile_append hauthority (left ++ [c])
    rw [htake, hdrop] at hurl
    exact .padded _ _ left c hauthority hpadded hedges hown hurl

theorem getLast?_scheme (name front : List Char) (last : Char) :
    (name ++ ':' :: (front ++ [last])).getLast? = some last := by
  rw [← List.cons_append, ← List.append_assoc, List.getLast?_concat]

/-- An accepted endpoint and the text for a path, side by side. -/
theorem parts_of_scheme (hreader : HostReader readHost) (hpath : Rooted path) {back : List Char}
    (h : endpoint.toList = scheme.text.toList ++ ':' :: back) :
    Parts readHost scheme endpoint path := by
  obtain ⟨hown, hurl⟩ := parseBy?_of_scheme readHost hpath h
  obtain ⟨slashes, left, hends, hwhole, hedges, hlast⟩ := exists_ends back
  have hcounts : endpoint.toList.filter (!isBreak ·) =
      scheme.text.toList ++ ':' :: ((back.rdropWhile isEdge).filter (!isBreak ·) ++ left) := by
    rw [h, ← hwhole]
    cases scheme <;> rfl
  rcases List.eq_nil_or_concat' left with rfl | ⟨others, c, rfl⟩
  · rw [List.append_nil] at hends hcounts
    rw [← hends] at hown
    have hunpadded : Unpadded endpoint := by
      intro c hc
      rw [hcounts] at hc
      rcases List.eq_nil_or_concat' ((back.rdropWhile isEdge).filter (!isBreak ·)) with
        hnil | ⟨front, last, hconcat⟩
      · have hcolon : c = ':' := by simpa [hnil, eq_comm] using hc
        rw [hcolon]
        rfl
      · rw [hconcat, getLast?_scheme] at hc
        exact hlast c (by rw [hconcat, List.getLast?_concat, hc])
    exact parts_of_unpadded hreader hunpadded hown hurl
  · have hedge : isEdge c = true := hedges c (by simp)
    have hpadded : ¬Unpadded endpoint := fun hunpadded => by
      have hno := hunpadded c (by rw [hcounts, ← List.append_assoc, getLast?_scheme])
      rw [hedge] at hno
      cases hno
    obtain rfl : slashes = 0 := by
      cases slashes with
      | zero => rfl
      | succ slashes =>
        rw [List.replicate_succ', ← List.append_assoc, ← List.append_assoc] at hends
        obtain rfl := List.singleton_inj.1 (List.append_inj' hends rfl).2
        cases hedge
    rw [List.replicate_zero, List.append_nil] at hends
    rw [hends] at hurl
    exact parts_of_padded hreader hpadded hedges hown hurl

/-- **Which accepted endpoints make well-placed URLs.**  For a reader of hosts of which no more is known than that
    it takes no empty name and no padded one, and for every endpoint that is accepted and every call, the URL for
    the path of the call is the endpoint's own URL with `/api` and the path behind it just when the endpoint is a
    URL without a query and a fragment, nothing but tabs and line breaks is left out at its end, and no segment
    of the path is a dot.  In any case a request goes to the origin of the endpoint's own URL, unless the endpoint
    is no URL: then it goes to a host that has its name from `/api`. -/
theorem wellPlaced_of_accepted_iff {readHost : List Char → Option (List Char)} (hreader : HostReader readHost)
    {settings : Settings.Controller} (haccepted : settings.validate = .ok ()) (call : ControllerCall) :
    ((∃ own url, parseBy? readHost settings.endpoint = some own ∧
        parseBy? readHost (urlText settings.endpoint (queryOf call).path) = some url ∧
        WellPlaced (queryOf call).path own url) ↔
      Usable readHost settings.endpoint ∧ ∀ segment ∈ pathSegments (queryOf call).path, ¬IsDot segment) ∧
    ∀ request, requestBy? readHost settings (queryOf call) = some request →
      (∃ own, parseBy? readHost settings.endpoint = some own ∧ SameOrigin request.url own) ∨
        parseBy? readHost settings.endpoint = none ∧ readHost "api".toList = some request.url.host.toList := by
  obtain ⟨scheme, rest, hendpoint⟩ := exists_scheme haccepted
  have hpath := rooted_queryOf call
  have hparts : Parts readHost scheme settings.endpoint (queryOf call).path :=
    parts_of_scheme hreader hpath hendpoint
  refine ⟨hparts.wellPlaced_iff hreader hpath, fun request hrequest => ?_⟩
  obtain ⟨url, hurl, rfl⟩ := Option.map_eq_some_iff.1 hrequest
  have hquery : SameOrigin (url.addQuery (queryOf call).parameters) url := by
    unfold addQuery
    split <;> exact ⟨rfl, rfl, rfl⟩
  rcases hparts.origin hpath hurl with ⟨own, hown, hsame⟩ | ⟨hnone, hhost⟩
  · exact .inl ⟨own, hown, hquery.scheme.trans hsame.scheme, hquery.host.trans hsame.host,
      hquery.portNumber.trans hsame.portNumber⟩
  · exact .inr ⟨hnone, hhost.trans (congrArg (fun host => some host.toList) hquery.host.symm)⟩

/-- Settings with a port, a path and slashes at the end of it. -/
def managed : Settings.Controller :=
  { (default : Settings.Controller) with endpoint := "https://cluster-mgmt:8443/netapp//" }

theorem wellPlaced_of_managed :
    HostReader host? ∧ managed.validate = .ok () ∧
      (∃ own url, parse? managed.endpoint = some own ∧
        parse? (urlText managed.endpoint (queryOf (.account "svm-uuid-1" "vs/admin")).path) = some url ∧
        WellPlaced (queryOf (.account "svm-uuid-1" "vs/admin")).path own url) ∧
      pathSegments (queryOf (.account "svm-uuid-1" "vs/admin")).path =
        ["security", "accounts", "svm-uuid-1", "vs%2Fadmin"] := by
  have hunpadded : Unpadded managed.endpoint := by
    intro c hc
    have hlast : (managed.endpoint.toList.filter (!isBreak ·)).getLast? = some '/' := by decide
    obtain rfl := Option.some.inj (hlast.symm.trans hc)
    rfl
  have hdots : ∀ segment ∈ pathSegments (queryOf (.account "svm-uuid-1" "vs/admin")).path, ¬IsDot segment := by
    decide
  have haccepted : managed.validate = .ok () := rfl
  obtain ⟨hplaced, -⟩ := wellPlaced_of_accepted_iff hostReader_host? haccepted (.account "svm-uuid-1" "vs/admin")
  exact ⟨hostReader_host?, rfl, hplaced.2 ⟨⟨⟨_, rfl, rfl, rfl⟩, hunpadded⟩, hdots⟩, by decide⟩

/-- Settings whose endpoint names no host. -/
def hostless : Settings.Controller := { (default : Settings.Controller) with endpoint := "https://" }

theorem hostless_goes_astray :
    hostless.validate = .ok () ∧ parse? hostless.endpoint = none ∧
      (request? hostless (queryOf (.svmByName "tenant-a"))).map
        (fun request => (request.url.host, request.url.path)) = some ("api", ["svm", "svms"]) :=
  ⟨rfl, rfl, by decide⟩

end TenantStorage.Rest
