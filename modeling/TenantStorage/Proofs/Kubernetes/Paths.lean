import Mathlib.Data.List.TakeWhile
import TenantStorage.Proofs.Kubernetes.Server

namespace TenantStorage.Kubernetes

/-!
# The paths of Secrets

A namespace and a name are put into a path as they are.  Where they are segments of a path, each Secret has
a path of its own, and every request about it can be written.

* `IsSegment` — texts that may stand between two slashes.
* `Addressable` — namespaces and names that make a path.
* `secretPath_inj` — two Secrets have one path only if they are the same.
* `readRequest_of_addressable` and its like for the other two — the requests.
-/

/-! ### Texts in a path -/

/-- Texts that may stand between two slashes of a path. -/
structure IsSegment (text : String) : Prop where
  nonempty : text ≠ ""
  chars : (text.toList.all fun c => Path.isPathChar c && c != '/') = true

/-- Namespaces and names that make the path of a Secret, within the length that a path may have. -/
structure Addressable (ns name : String) : Prop where
  isSegment_ns : IsSegment ns
  isSegment_name : IsSegment name
  fits : (secretPath ns name ++ "?").utf8ByteSize ≤ Path.longest

/-- Texts of characters that may stand in a path. -/
def IsPath (text : String) : Prop := text.toList.all Path.isPathChar = true

instance (text : String) : Decidable (IsPath text) :=
  inferInstanceAs (Decidable (text.toList.all Path.isPathChar = true))

theorem IsPath.append {text text' : String} (h : IsPath text) (h' : IsPath text') :
    IsPath (text ++ text') := by
  rw [IsPath, String.toList_append, List.all_append, Bool.and_eq_true]
  exact ⟨h, h'⟩

theorem IsSegment.of_mem {text : String} (h : IsSegment text) {c : Char} (hc : c ∈ text.toList) :
    Path.isPathChar c = true ∧ c ≠ '/' := by
  simpa using List.all_eq_true.1 h.chars c hc

theorem IsSegment.isPath {text : String} (h : IsSegment text) : IsPath text :=
  List.all_eq_true.2 fun _ hc => (h.of_mem hc).1

theorem isPath_secretsPath {ns : String} (h : IsSegment ns) : IsPath (secretsPath ns) := by
  have hfront : IsPath "/api/v1/namespaces/" := by decide
  have hback : IsPath "/secrets" := by decide
  exact (hfront.append h.isPath).append hback

theorem isPath_secretPath {ns name : String} (hns : IsSegment ns) (hname : IsSegment name) :
    IsPath (secretPath ns name) := by
  have hslash : IsPath "/" := by decide
  exact ((isPath_secretsPath hns).append hslash).append hname.isPath

/-- Characters of a path are kept, with what is kept behind them. -/
theorem charsOf?_append {cs query : List Char} (h : cs.all Path.isPathChar = true)
    (hquery : Path.charsOf? query = some query) : Path.charsOf? (cs ++ query) = some (cs ++ query) := by
  induction cs with
  | nil => exact hquery
  | cons c cs ih =>
    obtain ⟨hc, hcs⟩ := Bool.and_eq_true_iff.1 h
    rw [List.cons_append]
    unfold Path.charsOf?
    -- no character of a path begins a fragment or a query
    split
    · rename_i hnil
      cases hnil
    · rename_i hcons
      cases hcons
      exact absurd hc (by decide)
    · rename_i hcons
      cases hcons
      exact absurd hc (by decide)
    · rename_i hcons
      cases hcons
      rw [if_pos hc, ih hcs]
      rfl

/-- A path that is not too long is one, with and without a question mark. -/
theorem ofText_of_isPath {text query : String} (h : IsPath text)
    (hquery : Path.charsOf? query.toList = some query.toList)
    (hfits : (text ++ query).utf8ByteSize ≤ Path.longest) :
    Path.ofText (text ++ query) = .ok (text ++ query) := by
  rw [Path.ofText, if_neg (Nat.not_lt.2 hfits), String.toList_append, charsOf?_append h hquery]
  simp

theorem place_of_isPath {text : String} (h : IsPath text) : Server.place text = text := by
  have hends : ∀ c ∈ text.toList, (!Server.endsPath c) = true := by
    intro c hc
    have hpath := List.all_eq_true.1 h c hc
    rw [Bool.not_eq_true', Bool.eq_false_iff]
    intro hend
    simp only [Server.endsPath, Bool.or_eq_true, beq_iff_eq] at hend
    rcases hend with rfl | rfl <;> exact absurd hpath (by decide)
  rw [Server.place, List.takeWhile_eq_self_iff.2 hends, String.ofList_toList]

/-- A segment ends at the slash behind it, so that what stands around a slash can be told from the whole. -/
theorem eq_of_append_eq {front back last ns ns' name name' : String} (hback : back.toList.head? = some '/')
    (h : IsSegment ns) (h' : IsSegment ns')
    (heq : front ++ ns ++ back ++ last ++ name = front ++ ns' ++ back ++ last ++ name') :
    ns = ns' ∧ name = name' := by
  have hlists := congrArg String.toList heq
  simp only [String.toList_append, List.append_assoc] at hlists
  have hrest := List.append_cancel_left hlists
  obtain ⟨tail, htail⟩ := List.head?_eq_some_iff.1 hback
  have htake {ns : String} (h : IsSegment ns) (rest : List Char) :
      (ns.toList ++ (back.toList ++ rest)).takeWhile (· != '/') = ns.toList := by
    rw [List.takeWhile_append_of_pos fun c hc => bne_iff_ne.2 (h.of_mem hc).2, htail, List.cons_append,
      List.takeWhile_cons_of_neg (by decide), List.append_nil]
  have hns : ns.toList = ns'.toList := by rw [← htake h, hrest, htake h']
  obtain rfl := String.toList_inj.1 hns
  have hname := List.append_cancel_left (List.append_cancel_left (List.append_cancel_left hrest))
  exact ⟨rfl, String.toList_inj.1 hname⟩

/-- Two Secrets have one path only if they are the same. -/
theorem secretPath_inj {ns name ns' name' : String} (h : IsSegment ns) (h' : IsSegment ns')
    (heq : secretPath ns name = secretPath ns' name') : ns = ns' ∧ name = name' := by
  unfold secretPath secretsPath at heq
  exact eq_of_append_eq (by decide) h h' heq

/-! ### Requests -/

variable {ns name : String}

theorem readRequest_of_addressable (h : Addressable ns name) :
    readRequest ns name = .ok ⟨.get, secretPath ns name, none⟩ := by
  have hpath : Path.ofText (secretPath ns name ++ "") = .ok (secretPath ns name ++ "") :=
    ofText_of_isPath (isPath_secretPath h.isSegment_ns h.isSegment_name) rfl
      (Nat.le_trans (by simp [String.utf8ByteSize_append]) h.fits)
  rw [String.append_empty] at hpath
  rw [readRequest, hpath]
  rfl

theorem createRequest_of_addressable (h : Addressable ns name) (secret : Secret) :
    createRequest ns secret = .ok ⟨.post, secretsPath ns ++ "?", some secret⟩ := by
  have hpath : Path.ofText (secretsPath ns ++ "?") = .ok (secretsPath ns ++ "?") := by
    refine ofText_of_isPath (isPath_secretsPath h.isSegment_ns) rfl (Nat.le_trans ?_ h.fits)
    simp only [secretPath, String.utf8ByteSize_append]
    omega
  rw [createRequest, hpath]
  rfl

theorem replaceRequest_of_addressable (h : Addressable ns name) (secret : Secret) :
    replaceRequest ns name secret = .ok ⟨.put, secretPath ns name ++ "?", some secret⟩ := by
  have hpath : Path.ofText (secretPath ns name ++ "?") = .ok (secretPath ns name ++ "?") :=
    ofText_of_isPath (isPath_secretPath h.isSegment_ns h.isSegment_name) rfl h.fits
  rw [replaceRequest, hpath]
  rfl

end TenantStorage.Kubernetes
