import TenantStorage.Proofs.Percent
import TenantStorage.Rest.Request
import TenantStorage.Text.Blank

namespace TenantStorage

/-!
# Paths of accounts

An account belongs to a machine and has a name.  Both stand in the path of the account, and both are texts of which
nothing is known, so they are encoded: whatever slashes and percent signs are in them, the path has the same
number of parts.

* `Percent.Names` — a part of a path that stands for a text; `Percent.names_component`.
* `Rest.splitOn_accountPath` — the parts of the path of an account.
* `Rest.accountPath_identifies` — these parts are read back, and only calls about the account use its path.
-/

/-! ### Parts -/

/-- A part of a path stands for a text: it is that of its octets, no character in it has a meaning in a URL beside
    the percent sign, or is blank or outside ASCII, and it is read back as the text. -/
structure Percent.Names (part : List Char) (text : String) : Prop where
  written : part = (Utf8.encode text).flatMap (writeOctet isUnreserved)
  plain : ∀ c ∈ part, c ≠ '/' ∧ c ≠ '?' ∧ c ≠ '#' ∧ Text.isBlank c = false ∧ c.toNat < 128
  decoded : Utf8.decode? (decode part) = some text

theorem Percent.names_component (text : String) : Names (component text).toList text := by
  refine ⟨?_, fun c hc => ?_, decode?_component text⟩
  · rw [component, String.toList_ofList, encode_eq_flatMap marked_isUnreserved]
    rfl
  · rcases mem_component_cases c hc with hkept | rfl
    · have hascii := lt_of_isUnreserved hkept
      revert hkept
      exact Text.ascii_forall (P := fun c => isUnreserved c = true →
        c ≠ '/' ∧ c ≠ '?' ∧ c ≠ '#' ∧ Text.isBlank c = false ∧ c.toNat < 128) (by decide) hascii
    · decide

namespace Rest

open Percent

/-! ### Paths -/

theorem toList_accountPath (ownerUuid username : String) : (accountPath ownerUuid username).toList =
    "/security/accounts/".toList ++ ((component ownerUuid).toList ++ ("/".toList ++ (component username).toList)) := by
  unfold accountPath
  simp only [String.toList_append, List.append_assoc]

/-- The parts of the path of an account. -/
theorem splitOn_accountPath (ownerUuid username : String) :
    (accountPath ownerUuid username).toList.splitOn '/' =
      [[], "security".toList, "accounts".toList, (component ownerUuid).toList, (component username).toList] := by
  have hslash (text : String) : '/' ∉ (component text).toList := fun hmem =>
    ((names_component text).plain '/' hmem).1 rfl
  have hpath (owner name : List Char) : "/security/accounts/".toList ++ (owner ++ ("/".toList ++ name)) =
      ['/'].intercalate [[], "security".toList, "accounts".toList, owner, name] := by
    simp [List.intercalate_cons_cons]
  rw [toList_accountPath, hpath]
  refine List.splitOn_intercalate '/' ?_ (List.cons_ne_nil _ _)
  intro part hpart
  simp only [List.mem_cons, List.not_mem_nil, or_false] at hpart
  rcases hpart with rfl | rfl | rfl | rfl | rfl
  · exact List.not_mem_nil
  · decide
  · decide
  · exact hslash ownerUuid
  · exact hslash username

theorem component_inj {text text' : String} (h : (component text).toList = (component text').toList) : text = text' := by
  have hdecoded := (names_component text).decoded
  rw [h, (names_component text').decoded] at hdecoded
  exact (Option.some.inj hdecoded).symm

/-- Different accounts have different paths. -/
theorem eq_of_accountPath {ownerUuid username ownerUuid' username' : String}
    (h : accountPath ownerUuid username = accountPath ownerUuid' username') :
    ownerUuid = ownerUuid' ∧ username = username' := by
  have hparts := splitOn_accountPath ownerUuid username
  rw [h, splitOn_accountPath] at hparts
  simp only [List.cons.injEq, and_true, true_and] at hparts
  exact ⟨component_inj hparts.1.symm, component_inj hparts.2.symm⟩

/-- No other call has a path that begins like that of an account. -/
theorem account_of_prefix {call : ControllerCall} (h : "/security/accounts/".toList <+: (queryOf call).path.toList) :
    ∃ ownerUuid username, call = .account ownerUuid username ∨
      ∃ password, call = .setPassword ownerUuid username password := by
  cases call with
  | account ownerUuid username => exact ⟨ownerUuid, username, .inl rfl⟩
  | setPassword ownerUuid username password => exact ⟨ownerUuid, username, .inr ⟨password, rfl⟩⟩
  | svm uuid =>
    -- the paths part at the second letter
    have hpath : (queryOf (.svm uuid)).path.toList = "/svm/svms/".toList ++ (component uuid).toList :=
      String.toList_append
    rw [hpath] at h
    generalize (component uuid).toList = part at h
    obtain ⟨rest, hrest⟩ := h
    have hstart : ['/', 's', 'e'] = ['/', 's', 'v'] := congrArg (List.take 3) hrest
    exact absurd hstart (by decide)
  | svmByName | createSvm | nodes | aggregates | createInterface | peerGroups | createAccount =>
    simp only [queryOf] at h
    exact absurd h (by decide)

/-- **The path of an account names it.**  Between its slashes stand nothing, two words and two parts that stand for the
    machine and for the name, whatever texts these are.  So different accounts have different paths.  The calls that
    use the path are those that look the account up or set its password, and no others. -/
theorem accountPath_identifies (ownerUuid username : String) :
    (∃ owner name, (accountPath ownerUuid username).toList.splitOn '/' =
        [[], "security".toList, "accounts".toList, owner, name] ∧
      Names owner ownerUuid ∧ Names name username) ∧
    (∀ ownerUuid' username', accountPath ownerUuid' username' = accountPath ownerUuid username ↔
      ownerUuid' = ownerUuid ∧ username' = username) ∧
    ∀ call : ControllerCall, (queryOf call).path = accountPath ownerUuid username ↔
      call = .account ownerUuid username ∨ ∃ password, call = .setPassword ownerUuid username password := by
  refine ⟨⟨_, _, splitOn_accountPath ownerUuid username, names_component ownerUuid, names_component username⟩,
    fun ownerUuid' username' => ⟨eq_of_accountPath, ?_⟩, fun call => ⟨fun hpath => ?_, ?_⟩⟩
  · rintro ⟨rfl, rfl⟩
    rfl
  · have hstart : "/security/accounts/".toList <+: (queryOf call).path.toList := by
      rw [hpath, toList_accountPath]
      exact List.prefix_append _ _
    obtain ⟨ownerUuid', username', rfl | ⟨password, rfl⟩⟩ := account_of_prefix hstart
    · obtain ⟨rfl, rfl⟩ := eq_of_accountPath hpath
      exact .inl rfl
    · obtain ⟨rfl, rfl⟩ := eq_of_accountPath hpath
      exact .inr ⟨password, rfl⟩
  · rintro (rfl | ⟨password, rfl⟩) <;> rfl

example : accountPath "svm uuid" "vs/%2Fé" = "/security/accounts/svm%20uuid/vs%2F%252F%C3%A9" := by decide

end Rest

end TenantStorage
