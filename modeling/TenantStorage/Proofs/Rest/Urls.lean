import Mathlib.Data.List.DropRight
import TenantStorage.Proofs.LetterCase
import TenantStorage.Proofs.Octets
import TenantStorage.Rest.Url

namespace TenantStorage.Url

/-!
# Longer texts of URLs

What becomes of a URL when its text is made longer.  The authority ends at the first slash, so what follows it
stays where it is put: in the path, unless there is a query or a fragment already.

* `HostReader` — what is known of a reader of hosts; `hostReader_host?` for the one in use.
* `located?_append` — the authority stays the same when a path is added behind it.
* `segments_append`, `exists_segments` — the segments of a path and of a longer one.
* `clean_append` — control characters and spaces count in the middle of a longer text.
-/

/-! ### Ends of lists -/

theorem rdropWhile_append {α : Type} {p : α → Bool} {front : List α} (h : ∀ a ∈ front, p a = false)
    (back : List α) : (front ++ back).rdropWhile p = front ++ back.rdropWhile p := by
  induction back using List.reverseRecOn with
  | nil =>
    rw [List.append_nil, List.rdropWhile_nil, List.append_nil, List.rdropWhile_eq_self_iff]
    intro hne
    simp [h _ (List.getLast_mem hne)]
  | append_singleton back last ih =>
    by_cases hlast : p last = true
    · rw [← List.append_assoc, List.rdropWhile_concat_pos _ _ _ hlast, List.rdropWhile_concat_pos _ _ _ hlast, ih]
    · rw [← List.append_assoc, List.rdropWhile_concat_neg _ _ _ hlast, List.rdropWhile_concat_neg _ _ _ hlast,
        List.append_assoc]

/-! ### Cuts -/

theorem cut_of_forall {test : Char → Bool} {cs : List Char} (h : ∀ c ∈ cs, test c = false) :
    cut test cs = (cs, none) := by
  have hnone : cs.dropWhile (!test ·) = [] := List.dropWhile_eq_nil_iff.2 fun c hc => by simp [h c hc]
  rw [cut, hnone]

theorem forall_of_cut {test : Char → Bool} {cs : List Char} (h : (cut test cs).2 = none) :
    ∀ c ∈ cs, test c = false := by
  intro c hc
  by_contra hne
  have hsome : cs.dropWhile (!test ·) ≠ [] := fun hnil => by
    simpa [hne] using List.dropWhile_eq_nil_iff.1 hnil c hc
  rw [cut] at h
  split at h
  · contradiction
  · cases h

/-! ### Paths -/

/-- A segment that is the place itself or the place above. -/
def IsDot (segment : String) : Prop := isDoubleDot segment = true ∨ isSingleDot segment = true

instance : DecidablePred IsDot := fun segment =>
  inferInstanceAs (Decidable (isDoubleDot segment = true ∨ isSingleDot segment = true))

/-- What a segment that is not the last one makes of those before it, which are in reverse. -/
def climb (done : List String) (segment : String) : List String :=
  if isDoubleDot segment then done.tail
  else if isSingleDot segment then done
  else segment :: done

theorem climb_of_not_isDot {done : List String} {segment : String} (h : ¬IsDot segment) :
    climb done segment = segment :: done := by
  obtain ⟨hdouble, hsingle⟩ := not_or.1 h
  rw [climb, if_neg hdouble, if_neg hsingle]

theorem resolve_cons {done : List String} {segment : String} {rest : List String} (h : rest ≠ []) :
    resolve done (segment :: rest) = resolve (climb done segment) rest := by
  cases rest with
  | nil => exact absurd rfl h
  | cons next others =>
    rw [resolve, climb]
    split
    · rfl
    · split <;> rfl
    · simp

theorem resolve_append {front rest : List String} (done : List String) (h : rest ≠ []) :
    resolve done (front ++ rest) = resolve (front.foldl climb done) rest := by
  induction front generalizing done with
  | nil => rfl
  | cons segment others ih =>
    have hnext : others ++ rest ≠ [] := by simp [h]
    rw [List.cons_append, resolve_cons hnext, ih, List.foldl_cons]

/-- The last segment comes in by itself, or as an empty one. -/
theorem resolve_singleton (done : List String) (segment : String) :
    resolve done [segment] =
      (climb done segment).reverse ++ if IsDot segment then [""] else [] := by
  rw [resolve, climb]
  by_cases hdouble : isDoubleDot segment = true
  · simp [hdouble, IsDot]
  · by_cases hsingle : isSingleDot segment = true
    · simp [hdouble, hsingle, IsDot]
    · simp [hdouble, hsingle, IsDot]

/-- Segments without dots are kept as they are. -/
theorem resolve_of_forall {done rest : List String} (h : ∀ segment ∈ rest, ¬IsDot segment) :
    resolve done rest = done.reverse ++ rest := by
  induction rest generalizing done with
  | nil => simp [resolve]
  | cons segment others ih =>
    obtain ⟨hsegment, hothers⟩ := List.forall_mem_cons.1 h
    cases others with
    | nil => simp [resolve_singleton, climb_of_not_isDot hsegment, hsegment]
    | cons next last =>
      rw [resolve_cons (List.cons_ne_nil _ _), ih hothers, climb_of_not_isDot hsegment]
      simp

theorem not_isDot_empty : ¬IsDot "" := by decide

theorem not_isDot_of_mem_climb {done : List String} {segment : String} (h : ∀ other ∈ done, ¬IsDot other) :
    ∀ other ∈ climb done segment, ¬IsDot other := by
  intro other hother
  by_cases hdot : IsDot segment
  · have hsub : other ∈ done := by
      rw [climb] at hother
      split at hother
      · exact List.mem_of_mem_tail hother
      · rw [if_pos (hdot.resolve_left ‹_›)] at hother
        exact hother
    exact h other hsub
  · rw [climb_of_not_isDot hdot] at hother
    rcases List.mem_cons.1 hother with rfl | hmem
    · exact hdot
    · exact h other hmem

/-- No dots are left in a path. -/
theorem not_isDot_of_mem_resolve {done rest : List String} (h : ∀ segment ∈ done, ¬IsDot segment) :
    ∀ segment ∈ resolve done rest, ¬IsDot segment := by
  induction rest generalizing done with
  | nil =>
    intro segment hmem
    exact h segment (List.mem_reverse.1 hmem)
  | cons first others ih =>
    have hclimb : ∀ other ∈ climb done first, ¬IsDot other := not_isDot_of_mem_climb h
    cases others with
    | nil =>
      intro segment hmem
      rw [resolve_singleton] at hmem
      rcases List.mem_append.1 hmem with hfront | hlast
      · exact hclimb segment (List.mem_reverse.1 hfront)
      · split at hlast
        · rw [List.mem_singleton.1 hlast]
          exact not_isDot_empty
        · cases hlast
    | cons next last =>
      rw [resolve_cons (List.cons_ne_nil _ _)]
      exact ih hclimb

/-! ### Segments -/

theorem rawSegments_ne_nil (cs : List Char) : rawSegments cs ≠ [] := by
  simp [rawSegments, List.splitOn_ne_nil]

/-- A slash parts what stands before it from what follows. -/
theorem rawSegments_append (front back : List Char) :
    rawSegments (front ++ '/' :: back) = rawSegments front ++ rawSegments back := by
  simp only [rawSegments, List.map_append, List.map_cons]
  rw [show (if isSlash '/' then '/' else '/') = '/' from rfl, List.splitOn_append_cons_self, List.map_append]

theorem rawSegments_replicate (k : Nat) : rawSegments (List.replicate k '/') = List.replicate (k + 1) "" := by
  induction k with
  | zero => rfl
  | succ k ih =>
    have happend := rawSegments_append [] (List.replicate k '/')
    rw [List.nil_append, ih] at happend
    rw [List.replicate_succ, happend, List.replicate_succ]
    rfl

/-- The segments of a path that is going to be made longer, in reverse. -/
def base : List Char → List String
  | [] => []
  | _ :: rest => (rawSegments rest).foldl climb []

theorem not_isDot_of_mem_base (path : List Char) : ∀ segment ∈ base path, ¬IsDot segment := by
  have hclimb (front done : List String) (h : ∀ segment ∈ done, ¬IsDot segment) :
      ∀ segment ∈ front.foldl climb done, ¬IsDot segment := by
    induction front generalizing done with
    | nil => exact h
    | cons first others ih => exact ih (climb done first) (not_isDot_of_mem_climb h)
  cases path with
  | nil => simp [base]
  | cons slash rest => exact hclimb (rawSegments rest) [] (by simp)

/-- A path is made longer segment by segment. -/
theorem segments_append (path more : List Char) :
    segments (path ++ '/' :: more) = resolve (base path) (rawSegments more) := by
  cases path with
  | nil => rfl
  | cons slash rest =>
    change resolve [] (rawSegments (rest ++ '/' :: more)) = _
    rw [rawSegments_append, resolve_append [] (rawSegments_ne_nil more)]
    rfl

/-- A path by itself has the same segments, and empty ones for the slashes at its end. -/
theorem exists_segments (path : List Char) (k : Nat) :
    ∃ j, segments (path ++ List.replicate k '/') = (base path).reverse ++ List.replicate j "" := by
  cases k with
  | succ k =>
    refine ⟨k + 1, ?_⟩
    rw [List.replicate_succ, segments_append, rawSegments_replicate]
    exact resolve_of_forall fun segment hmem => List.eq_of_mem_replicate hmem ▸ not_isDot_empty
  | zero =>
    rw [List.replicate_zero, List.append_nil]
    cases path with
    | nil => exact ⟨1, rfl⟩
    | cons slash rest =>
      change ∃ j, resolve [] (rawSegments rest) = ((rawSegments rest).foldl climb []).reverse ++ List.replicate j ""
      obtain ⟨front, last, hraw⟩ :=
        (List.eq_nil_or_concat' (rawSegments rest)).resolve_left (rawSegments_ne_nil rest)
      rw [hraw, resolve_append [] (List.cons_ne_nil last []), resolve_singleton, List.foldl_append]
      by_cases hdot : IsDot last
      · exact ⟨1, by simp [hdot]⟩
      · exact ⟨0, by simp [hdot]⟩

/-! ### Behind the authority -/

/-- Neither a query nor a fragment begins in a text. -/
def Bare (cs : List Char) : Prop := ∀ c ∈ cs, c ≠ '?' ∧ c ≠ '#'

theorem compose_of_bare {rest : List Char} (h : Bare rest) (scheme : Scheme) (origin : String × Option Nat) :
    compose scheme origin rest = ⟨scheme, origin.1, origin.2, segments rest, none, none⟩ := by
  have hfragment : cut (· == '#') rest = (rest, none) := cut_of_forall fun c hc => by simp [(h c hc).2]
  have hquery : cut (· == '?') rest = (rest, none) := cut_of_forall fun c hc => by simp [(h c hc).1]
  simp [compose, hfragment, hquery]

theorem bare_of_compose {rest : List Char} {scheme : Scheme} {origin : String × Option Nat}
    (hquery : (compose scheme origin rest).query = none) (hfragment : (compose scheme origin rest).fragment = none) :
    Bare rest := by
  have hno : ∀ c ∈ rest, (c == '#') = false := forall_of_cut (Option.map_eq_none_iff.1 hfragment)
  simp only [compose, cut_of_forall hno] at hquery
  have hno' : ∀ c ∈ rest, (c == '?') = false := forall_of_cut (Option.map_eq_none_iff.1 hquery)
  exact fun c hc => ⟨by simpa using hno' c hc, by simpa using hno c hc⟩

/-- The authority ends where it ended, whatever is added behind it, if that does not begin inside it. -/
theorem located?_append {tail : List Char} (htail : tail.takeWhile (!endsAuthority ·) = [])
    (readHost : List Char → Option (List Char)) (scheme : Scheme) (rest : List Char) :
    located? readHost scheme (rest ++ tail) =
      (origin? readHost scheme (rest.takeWhile (!endsAuthority ·))).map fun origin =>
        compose scheme origin (rest.dropWhile (!endsAuthority ·) ++ tail) := by
  have hkept : tail.dropWhile (!endsAuthority ·) = tail := by
    have hsplit := List.takeWhile_append_dropWhile (p := (!endsAuthority ·)) (l := tail)
    rwa [htail, List.nil_append] at hsplit
  have htake : (rest ++ tail).takeWhile (!endsAuthority ·) = rest.takeWhile (!endsAuthority ·) := by
    rw [List.takeWhile_append, htail, List.append_nil]
    split
    · rename_i hlength
      exact ((List.takeWhile_prefix _).eq_of_length hlength).symm
    · rfl
  have hdrop : (rest ++ tail).dropWhile (!endsAuthority ·) = rest.dropWhile (!endsAuthority ·) ++ tail := by
    rw [List.dropWhile_append, hkept]
    split
    · rename_i hempty
      rw [List.isEmpty_iff.1 hempty, List.nil_append]
    · rfl
  rw [located?, htake, hdrop]

/-! ### Before the authority -/

theorem isBreak_of_not_isEdge {c : Char} (h : isEdge c = false) : isBreak c = false := by
  by_contra hbreak
  rw [Bool.not_eq_false, isBreak, Bool.or_eq_true, Bool.or_eq_true, beq_iff_eq, beq_iff_eq, beq_iff_eq] at hbreak
  rcases hbreak with (rfl | rfl) | rfl <;> exact absurd h (by decide)

/-- Behind a scheme, what is left out at the end is what stands behind the last character that counts. -/
theorem clean_append {front : List Char} (hne : front ≠ []) (hfront : ∀ c ∈ front, isEdge c = false)
    (back : List Char) :
    clean (front ++ back) = front ++ (back.rdropWhile isEdge).filter (!isBreak ·) := by
  have hstart : (front ++ back).dropWhile isEdge = front ++ back := by
    cases front with
    | nil => exact absurd rfl hne
    | cons c rest => simp [hfront c (by simp)]
  have hkept : front.filter (!isBreak ·) = front := by
    rw [List.filter_eq_self]
    intro c hc
    rw [isBreak_of_not_isEdge (hfront c hc)]
    rfl
  have hend : clean (front ++ back) = ((front ++ back).rdropWhile isEdge).filter (!isBreak ·) := by
    rw [clean, hstart]
    rfl
  rw [hend, rdropWhile_append hfront, List.filter_append, hkept]

theorem scheme?_append (scheme : Scheme) (rest : List Char) :
    scheme? (scheme.text.toList ++ ':' :: rest) = some (scheme, rest) := by
  cases scheme <;> rfl

theorem parseBy?_of_clean {text : String} {scheme : Scheme} {rest : List Char}
    (h : clean text.toList = scheme.text.toList ++ ':' :: rest) (readHost : List Char → Option (List Char)) :
    parseBy? readHost text = located? readHost scheme (rest.dropWhile isSlash) := by
  rw [parseBy?, h, scheme?_append]
  rfl

/-! ### Blanks at the end -/

theorem not_isSlash_of_isEdge {c : Char} (h : isEdge c = true) : isSlash c = false := by
  by_contra hslash
  rw [Bool.not_eq_false, isSlash, Bool.or_eq_true, beq_iff_eq, beq_iff_eq] at hslash
  rcases hslash with rfl | rfl <;> exact absurd h (by decide)

/-- The last slash of a text, if there is one. -/
theorem exists_last_slash (cs : List Char) :
    (∀ c ∈ cs, isSlash c = false) ∨
      ∃ front slash last, cs = front ++ slash :: last ∧ isSlash slash = true ∧
        ∀ c ∈ last, isSlash c = false := by
  induction cs with
  | nil => exact .inl (by simp)
  | cons c rest ih =>
    rcases ih with hnone | ⟨front, slash, last, rfl, hslash, hlast⟩
    · by_cases hc : isSlash c = true
      · exact .inr ⟨[], c, rest, rfl, hc, hnone⟩
      · exact .inl (List.forall_mem_cons.2 ⟨by simpa using hc, hnone⟩)
    · exact .inr ⟨c :: front, slash, last, rfl, hslash, hlast⟩

theorem rawSegments_of_forall {cs : List Char} (h : ∀ c ∈ cs, isSlash c = false) :
    rawSegments cs = [String.ofList (Percent.encode isPathChar cs)] := by
  have hsame : (cs.map fun c => if isSlash c then '/' else c) = cs := by
    rw [List.map_congr_left (g := id) fun c hc => by simp [h c hc], List.map_id]
  have hslash : '/' ∉ cs := fun hmem => absurd (h '/' hmem) (by decide)
  rw [rawSegments, hsame, List.splitOn_eq_singleton hslash]
  rfl

/-- The last segment of a text grows with it. -/
theorem exists_rawSegments (cs : List Char) :
    ∃ front last, ∀ tail : List Char, (∀ c ∈ tail, isSlash c = false) →
      rawSegments (cs ++ tail) = front ++ [String.ofList (Percent.encode isPathChar (last ++ tail))] := by
  rcases exists_last_slash cs with hnone | ⟨front, slash, last, rfl, hslash, hlast⟩
  · refine ⟨[], cs, fun tail htail => ?_⟩
    rw [rawSegments_of_forall fun c hc => (List.mem_append.1 hc).elim (hnone c) (htail c)]
    rfl
  · refine ⟨rawSegments front, last, fun tail htail => ?_⟩
    have hsame : rawSegments (front ++ slash :: (last ++ tail)) = rawSegments (front ++ '/' :: (last ++ tail)) := by
      simp [rawSegments, hslash, show isSlash '/' = true from rfl]
    rw [List.append_assoc, List.cons_append, hsame, rawSegments_append,
      rawSegments_of_forall fun c hc => (List.mem_append.1 hc).elim (hlast c) (htail c)]

/-- The octet of a control character or of a space. -/
theorem encodeChar_of_isEdge {c : Char} (h : isEdge c = true) :
    Percent.encodeChar isPathChar c =
      ['%', Percent.hexDigit (c.toNat / 16), Percent.hexDigit (c.toNat % 16)] := by
  have hn : c.toNat ≤ 0x20 := by simpa [isEdge] using h
  have hascii : c.toNat < 128 := by omega
  revert hn
  exact Text.ascii_forall (P := fun c => c.toNat ≤ 0x20 → Percent.encodeChar isPathChar c =
    ['%', Percent.hexDigit (c.toNat / 16), Percent.hexDigit (c.toNat % 16)]) (by decide) hascii

/-- A segment that ends in a control character or a space is no dot: no spelling of one ends in such an octet. -/
theorem not_isDot_of_isEdge {cs : List Char} {c : Char} (h : isEdge c = true) :
    ¬IsDot (String.ofList (Percent.encode isPathChar (cs ++ [c]))) := by
  have hn : c.toNat < 0x21 := Nat.lt_succ_of_le (by simpa [isEdge] using h)
  have hsuffix : ∀ n < 0x21, ∀ spelling ∈ ["..", ".%2e", "%2e.", "%2e%2e", ".", "%2e"],
      ¬['%', Percent.hexDigit (n / 16), Percent.hexDigit (n % 16)].map Char.toLower <:+ spelling.toList := by
    decide
  have hencode : Percent.encode isPathChar (cs ++ [c]) =
      Percent.encode isPathChar cs ++ ['%', Percent.hexDigit (c.toNat / 16), Percent.hexDigit (c.toNat % 16)] := by
    rw [Percent.encode, List.flatMap_append, List.flatMap_singleton, encodeChar_of_isEdge h]
    rfl
  intro hdot
  have hmem : String.ofList ((Percent.encode isPathChar (cs ++ [c])).map Char.toLower) ∈
      ["..", ".%2e", "%2e.", "%2e%2e", ".", "%2e"] := by
    rw [IsDot, isDoubleDot, isSingleDot, String.toList_ofList, List.contains_iff_mem, List.contains_iff_mem] at hdot
    rcases hdot with hdot | hdot
    · exact List.mem_append_left [".", "%2e"] hdot
    · exact List.mem_append_right ["..", ".%2e", "%2e.", "%2e%2e"] hdot
  refine hsuffix c.toNat hn _ hmem ?_
  rw [String.toList_ofList, hencode, List.map_append]
  exact List.suffix_append _ _

theorem length_climb_le (done : List String) (segment : String) (h : IsDot segment) :
    (climb done segment).length ≤ done.length := by
  rw [climb]
  split
  · simp
  · rw [if_pos (h.resolve_left ‹_›)]

/-- A path that is made longer behind control characters or spaces does not begin with the path itself. -/
theorem segments_ne_of_isEdge {path front : List Char} {c : Char} (hpath : path ≠ [])
    (hedges : ∀ other ∈ front ++ [c], isEdge other = true) (j : Nat) :
    segments path ≠ (base (path ++ (front ++ [c]))).reverse ++ List.replicate j "" := by
  cases path with
  | nil => exact absurd rfl hpath
  | cons slash rest =>
    obtain ⟨before, last, hgrows⟩ := exists_rawSegments rest
    have hshort := hgrows [] (by simp)
    have hlong := hgrows (front ++ [c]) fun other hmem => not_isSlash_of_isEdge (hedges other hmem)
    have hdot : ¬IsDot (String.ofList (Percent.encode isPathChar (last ++ (front ++ [c])))) := by
      rw [← List.append_assoc]
      exact not_isDot_of_isEdge (hedges c (by simp))
    change resolve [] (rawSegments rest) ≠
      ((rawSegments (rest ++ (front ++ [c]))).foldl climb []).reverse ++ List.replicate j ""
    rw [List.append_nil, List.append_nil] at hshort
    rw [hshort, hlong, resolve_append [] (List.cons_ne_nil _ []), resolve_singleton, List.foldl_append,
      List.foldl_cons, List.foldl_nil, climb_of_not_isDot hdot]
    have hmore : Percent.encode isPathChar (last ++ (front ++ [c])) =
        Percent.encode isPathChar last ++ Percent.encode isPathChar (front ++ [c]) := List.flatMap_append
    have hblank : Percent.encode isPathChar (front ++ [c]) ≠ [] := by
      simp [Percent.encode, encodeChar_of_isEdge (hedges c (by simp))]
    -- the longer path has one segment more than those before the last, and that one is not what the last makes
    intro heq
    have hlength := congrArg List.length heq
    have hend := congrArg List.getLast? heq
    by_cases hshortDot : IsDot (String.ofList (Percent.encode isPathChar last))
    · have hclimb := length_climb_le (before.foldl climb []) _ hshortDot
      rw [if_pos hshortDot] at hlength hend
      obtain rfl : j = 0 := by
        simp at hlength
        omega
      simp [hmore, hblank] at hend
    · rw [climb_of_not_isDot hshortDot, if_neg hshortDot] at hlength hend
      obtain rfl : j = 0 := by
        simpa using hlength
      simp [hmore] at hend
      exact hblank (by simpa using congrArg String.toList hend)

/-! ### Hosts -/

/-- What is known of a reader of hosts: it takes no empty name, and none that ends in a control character or a
    space, and what it makes of a name is not empty. -/
structure HostReader (readHost : List Char → Option (List Char)) : Prop where
  empty : readHost [] = none
  padded : ∀ {front : List Char} {c : Char}, isEdge c = true → readHost (front ++ [c]) = none
  nonempty : ∀ {cs host : List Char}, readHost cs = some host → host ≠ []

theorem not_isDigit_of_isEdge {c : Char} (h : isEdge c = true) : c.isDigit = false := by
  have hn : c.toNat ≤ 0x20 := by simpa [isEdge] using h
  have hascii : c.toNat < 128 := by omega
  revert hn
  exact Text.ascii_forall (P := fun c => c.toNat ≤ 0x20 → c.isDigit = false) (by decide) hascii

theorem cut_colon (cs : List Char) :
    cs = (cut (· == ':') cs).1 ++ ((cut (· == ':') cs).2.map (':' :: ·)).getD [] := by
  have hsplit := List.takeWhile_append_dropWhile (p := (!(· == ':') ·)) (l := cs)
  rw [cut]
  cases hrest : cs.dropWhile (!(· == ':') ·) with
  | nil => simp
  | cons c rest =>
    have hc : (!(c == ':')) = false := by
      have hhead := List.head?_dropWhile_not (!(· == ':') ·) cs
      simpa [hrest] using hhead
    rw [hrest] at hsplit
    simpa [show c = ':' by simpa using hc] using hsplit.symm

/-- A host and what stands behind its colon make up the authority. -/
theorem splitPort_spec (authority : List Char) :
    authority = (splitPort authority).1 ++ ((splitPort authority).2.map (':' :: ·)).getD [] := by
  unfold splitPort
  split
  · rename_i rest
    have hsplit := List.takeWhile_append_dropWhile (p := (· != ']')) (l := '[' :: rest)
    have hdrop : ('[' :: rest).drop (('[' :: rest).takeWhile (· != ']')).length =
        ('[' :: rest).dropWhile (· != ']') := by
      calc ('[' :: rest).drop (('[' :: rest).takeWhile (· != ']')).length
          = (('[' :: rest).takeWhile (· != ']') ++ ('[' :: rest).dropWhile (· != ']')).drop
              (('[' :: rest).takeWhile (· != ']')).length := by rw [hsplit]
        _ = ('[' :: rest).dropWhile (· != ']') := List.drop_left
    simp only [hdrop]
    split
    · rename_i digits hdigits
      rw [hdigits] at hsplit
      simpa using hsplit.symm
    · simp
  · exact cut_colon authority

/-- An authority that ends in a control character or a space names no place. -/
theorem HostReader.origin? {readHost : List Char → Option (List Char)} (h : HostReader readHost) (scheme : Scheme)
    {front : List Char} {c : Char} (hc : isEdge c = true) : origin? readHost scheme (front ++ [c]) = none := by
  have hafter : afterUserinfo (front ++ [c]) = afterUserinfo front ++ [c] := by
    have hat : c ≠ '@' := fun heq => absurd (heq ▸ hc) (by decide)
    simp [afterUserinfo, hat]
  have hspec := splitPort_spec (afterUserinfo front ++ [c])
  rw [Url.origin?, hafter]
  cases hport : (splitPort (afterUserinfo front ++ [c])).2 with
  | none =>
    rw [hport, Option.map_none, Option.getD_none, List.append_nil] at hspec
    simp [← hspec, h.padded hc]
  | some digits =>
    rw [hport, Option.map_some, Option.getD_some] at hspec
    have hdigits : portNumber? scheme (some digits) = none := by
      rcases List.eq_nil_or_concat' digits with rfl | ⟨others, last, rfl⟩
      · have hcolon := (List.append_inj' hspec rfl).2
        exact absurd (List.singleton_inj.1 hcolon ▸ hc) (by decide)
      · rw [← List.cons_append, ← List.append_assoc] at hspec
        obtain rfl := List.singleton_inj.1 (List.append_inj' hspec rfl).2
        have hno : c.isDigit = false := not_isDigit_of_isEdge hc
        simp [portNumber?, hno]
    simp [hport, hdigits]

theorem exists_host {readHost : List Char → Option (List Char)} {scheme : Scheme} {authority : List Char}
    {origin : String × Option Nat} (h : origin? readHost scheme authority = some origin) :
    readHost (splitPort (afterUserinfo authority)).1 = some origin.1.toList := by
  obtain ⟨host, hhost, hrest⟩ := Option.bind_eq_some_iff.1 h
  obtain ⟨portNumber, -, hpair⟩ := Option.bind_eq_some_iff.1 hrest
  obtain rfl := Option.some.inj hpair
  exact hhost.trans (congrArg some String.toList_ofList.symm)

/-- A place has a name. -/
theorem HostReader.host_ne {readHost : List Char → Option (List Char)} (h : HostReader readHost) {scheme : Scheme}
    {authority : List Char} {origin : String × Option Nat}
    (horigin : Url.origin? readHost scheme authority = some origin) : origin.1 ≠ "" := by
  have hne := h.nonempty (exists_host horigin)
  simpa using hne

/-- A character that is no digit ends the octets of an encoded text by itself. -/
theorem decode_concat {c : Char} (h : Text.hexValue? c = none) (cs : List Char) :
    Percent.decode (cs ++ [c]) = Percent.decode cs ++ Utf8.encodeChar c := by
  induction cs using Percent.decode.induct with
  | case1 a b rest high low hhigh hlow ih => simp [Percent.decode, hhigh, hlow, ih]
  | case2 a b rest hno ih =>
    have hlong (tail : List Char) :
        Percent.decode ('%' :: a :: b :: tail) = Utf8.encodeChar '%' ++ Percent.decode (a :: b :: tail) := by
      rw [Percent.decode]
      split
      · exact absurd ‹_› fun hlow => hno _ _ ‹_› hlow
      · rfl
    rw [List.cons_append, List.cons_append, List.cons_append, hlong, hlong, ← List.cons_append,
      ← List.cons_append, ih, List.append_assoc]
  | case3 c' rest hno ih =>
    have hshort : Percent.decode (c' :: rest) = Utf8.encodeChar c' ++ Percent.decode rest := by
      rw [Percent.decode]
      exact hno
    have hlong : Percent.decode (c' :: (rest ++ [c])) = Utf8.encodeChar c' ++ Percent.decode (rest ++ [c]) := by
      match rest, hno with
      | [], _ => simp [Percent.decode]
      | [a], _ =>
        by_cases hpercent : c' = '%'
        · simp [hpercent, Percent.decode, h]
        · simp [Percent.decode, hpercent]
      | a :: b :: others, hno =>
        rw [List.cons_append, List.cons_append, Percent.decode]
        exact fun _ _ _ hpercent _ => hno a b others hpercent rfl
    rw [List.cons_append, hlong, hshort, ih, List.append_assoc]
  | case4 => simp [Percent.decode]

theorem host?_of_name {cs : List Char} (h : cs.head? ≠ some '[') :
    host? cs = ((Utf8.decode? (Percent.decode cs)).map (·.toList.map Char.toLower)).bind lowered? := by
  rw [host?]
  rintro rest rfl
  exact h rfl

theorem lowered?_of_isEdge {front : List Char} {c : Char} (h : isEdge c = true) : lowered? (front ++ [c]) = none := by
  have hforbidden : isForbiddenInHost c = true := by
    rw [isForbiddenInHost, Bool.or_eq_true, Bool.or_eq_true]
    exact .inl (.inl h)
  rw [lowered?, if_pos (by simp [hforbidden])]

/-- A name that ends in a control character or a space still does so when it is decoded. -/
theorem host?_of_isEdge {front : List Char} {c : Char} (h : isEdge c = true) : host? (front ++ [c]) = none := by
  have hn : c.toNat ≤ 0x20 := by simpa [isEdge] using h
  have hascii : c.toNat < 128 := by omega
  by_cases hbracket : (front ++ [c]).head? = some '['
  · have hclose : c ≠ ']' := fun heq => absurd (heq ▸ h) (by decide)
    cases front with
    | nil => exact absurd (Option.some.inj hbracket ▸ h) (by decide)
    | cons first rest =>
      obtain rfl : first = '[' := Option.some.inj hbracket
      change bracketed? (rest ++ [c]) = none
      simp [bracketed?, hclose]
  · obtain ⟨hhex, hlower⟩ : Text.hexValue? c = none ∧ c.toLower = c := by
      revert hn
      exact Text.ascii_forall (P := fun c => c.toNat ≤ 0x20 → Text.hexValue? c = none ∧ c.toLower = c)
        (by decide) hascii
    have hoctet : Utf8.encodeChar c = [UInt8.ofNat c.toNat] := by rw [Utf8.encodeChar, if_pos hascii]
    have hvalue : (UInt8.ofNat c.toNat).toNat = c.toNat := UInt8.toNat_ofNat_of_lt' (by simp [UInt8.size]; omega)
    rw [host?_of_name hbracket, decode_concat hhex, hoctet]
    cases hdecoded : Utf8.decode? (Percent.decode front ++ [UInt8.ofNat c.toNat]) with
    | none => rfl
    | some text =>
      obtain ⟨before, htext⟩ := Utf8.exists_decode?_concat (by rw [hvalue]; exact hascii) hdecoded
      rw [hvalue, Char.ofNat_toNat] at htext
      simp [htext, hlower, lowered?_of_isEdge h]

theorem lowered?_ne_nil {cs host : List Char} (h : lowered? cs = some host) : host ≠ [] := by
  rw [lowered?] at h
  by_cases hbad : (cs.isEmpty || cs.any fun c => isForbiddenInHost c || 0x7f < c.toNat) = true
  · rw [if_pos hbad] at h
    cases h
  · rw [if_neg hbad] at h
    by_cases hnumber : endsInNumber cs = true
    · rw [if_pos hnumber] at h
      obtain ⟨address, -, rfl⟩ := Option.map_eq_some_iff.1 h
      simp [Address.V4.text]
    · rw [if_neg hnumber] at h
      obtain rfl := Option.some.inj h
      rintro rfl
      exact hbad rfl

theorem bracketed?_ne_nil {cs host : List Char} (h : bracketed? cs = some host) : host ≠ [] := by
  unfold bracketed? at h
  split at h
  · split at h
    · obtain rfl := Option.some.inj h
      exact List.cons_ne_nil _ _
    · cases h
  · cases h

/-- The reader in use is such a reader of hosts. -/
theorem hostReader_host? : HostReader host? where
  empty := rfl
  padded := host?_of_isEdge
  nonempty := by
    intro cs host h
    by_cases hbracket : cs.head? = some '['
    · obtain ⟨rest, rfl⟩ := List.head?_eq_some_iff.1 hbracket
      exact bracketed?_ne_nil h
    · rw [host?_of_name hbracket] at h
      obtain ⟨name, -, hname⟩ := Option.bind_eq_some_iff.1 h
      exact lowered?_ne_nil hname

end TenantStorage.Url
