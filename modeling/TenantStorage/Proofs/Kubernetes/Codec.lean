import TenantStorage.Kubernetes.Api
import TenantStorage.Proofs.Json
import TenantStorage.Proofs.Octets
import TenantStorage.Proofs.SortedMap

namespace TenantStorage.Kubernetes

/-!
# Secrets on the wire

A record is read back from its object, an object from its JSON form, and both from the body of a reply.

* `Secret.toRecord_ofRecord` — a record and its object.
* `Secret.ofJson?_toJson` — an object, whichever of its parts are missing, and its JSON form.
* `Secret.record_roundTrip` — a record, its object, and the text of its object with the entries in base64.
* `Status.toJson`, `Status.ofJson?_toJson` — the same for what the server says about a refused call.
* `secret?_answer`, `secret?_refuse` — replies that carry one or the other.
-/

namespace Secret

/-! ### Records -/

/-- A record is read back from its object. -/
theorem toRecord_ofRecord (record : SecretRecord) :
    (ofRecord record).toRecord record.ns record.name = record := by
  have hkeys : usernameKey ≠ passwordKey := by decide
  have husername : (ofRecord record).entry usernameKey = record.credentials.username := by
    have hfind : (ofRecord record).data.bind (·.find? usernameKey) =
        some (Utf8.encode record.credentials.username) :=
      (SortedMap.find?_insert_of_ne _ hkeys _).trans (SortedMap.find?_insert_self _ _ _)
    rw [entry, hfind]
    exact Utf8.decodeLossy_encode _
  have hpassword : (ofRecord record).entry passwordKey = record.credentials.password := by
    have hfind : (ofRecord record).data.bind (·.find? passwordKey) =
        some (Utf8.encode record.credentials.password) := SortedMap.find?_insert_self _ _ _
    rw [entry, hfind]
    exact Utf8.decodeLossy_encode _
  rw [toRecord, husername, hpassword]
  rfl

/-! ### The JSON form -/

/-- What is written item by item is read item by item. -/
theorem mapM_map {α β γ : Type} (read : β → Option γ) (write : α → β) {h : α → γ}
    (hread : ∀ a, read (write a) = some (h a)) (l : List α) : (l.map write).mapM read = some (l.map h) := by
  induction l with
  | nil => rfl
  | cons a l ih => simp [hread, ih]

theorem members?_record (members : List (String × Json)) : members? (.record members) = some members := by
  have hread := mapM_map (fun member : Json.Text × Json => member.1.map fun key => (key, member.2))
    (fun member : String × Json => (some member.1, member.2)) (h := id) (fun _ => rfl) members
  rw [List.map_id] at hread
  exact hread

/-- A map is read back where its values are. -/
theorem mapOf?_record {α : Type} {read : Json → Option α} (write : α → Json)
    (hread : ∀ a, read (write a) = some a) (m : SortedMap String α) :
    mapOf? read (.record (m.entries.map fun e => (e.1, write e.2))) = some m := by
  have hmembers : (m.entries.map fun e => (e.1, write e.2)).mapM
      (fun member : String × Json => (read member.2).map fun a => (member.1, a)) = some m.entries := by
    rw [mapM_map _ _ (h := id) fun e => by rw [hread]; rfl, List.map_id]
  simp [mapOf?, members?_record, hmembers, SortedMap.ofList_entries]

theorem octets?_ofText (octets : List UInt8) : octets? (.ofText (Base64.encode octets)) = some octets :=
  Base64.decode?_encode octets

variable {α : Type} {members : List (String × Json)} {key : String} {read : Json → Option α}

/-- A member is found under its own key only. -/
theorem filter_present (other : String) (write : α → Json) (value : Option α) :
    (present other write value).filter (·.1 == key) =
      if other = key then present other write value else [] := by
  cases value <;> by_cases h : other = key <;> simp [present, h]

/-- A value that may be missing is read back, if its key is that of no other member. -/
theorem lookup?_of_present (write : α → Json) {value : Option α}
    (h : members.filter (·.1 == key) = present key write value)
    (hread : ∀ a, orNull? read (write a) = some (some a)) : lookup? members key read = some value := by
  rw [lookup?, h]
  cases value <;> simp [present, hread]

theorem lookup?_of_absent (h : members.filter (·.1 == key) = []) : lookup? members key read = some none := by
  rw [lookup?, h]
  rfl

theorem isTyped_of_absent (h : members.filter (·.1 == key) = []) : isTyped members key read = true := by
  rw [isTyped, lookup?_of_absent h]
  rfl

theorem orNull?_ofText (text : String) : orNull? Json.text? (.ofText text) = some (some text) := rfl

theorem orNull?_textsToJson (m : SortedMap String String) :
    orNull? (mapOf? Json.text?) (textsToJson m) = some (some m) :=
  congrArg (Option.map some) (mapOf?_record Json.ofText (fun _ => rfl) m)

theorem orNull?_octetsToJson (m : SortedMap String (List UInt8)) :
    orNull? (mapOf? octets?) (octetsToJson m) = some (some m) :=
  congrArg (Option.map some)
    (mapOf?_record (fun octets => .ofText (Base64.encode octets)) octets?_ofText m)

/-- The members of the metadata. -/
def metadataMembers (secret : Secret) : List (String × Json) :=
  present "labels" textsToJson secret.labels ++ present "name" .ofText secret.name ++
    present "namespace" .ofText secret.ns ++ present "resourceVersion" .ofText secret.resourceVersion

/-- The metadata are read back, without the entries. -/
theorem metadata?_record (secret : Secret) : metadata? (.record secret.metadataMembers) =
    some { secret with type := none, data := none, stringData := none } := by
  have hlabels : lookup? secret.metadataMembers "labels" (mapOf? Json.text?) = some secret.labels :=
    lookup?_of_present textsToJson (by simp [metadataMembers, filter_present]) orNull?_textsToJson
  have hname : lookup? secret.metadataMembers "name" Json.text? = some secret.name :=
    lookup?_of_present .ofText (by simp [metadataMembers, filter_present]) orNull?_ofText
  have hns : lookup? secret.metadataMembers "namespace" Json.text? = some secret.ns :=
    lookup?_of_present .ofText (by simp [metadataMembers, filter_present]) orNull?_ofText
  have hversion : lookup? secret.metadataMembers "resourceVersion" Json.text? = some secret.resourceVersion :=
    lookup?_of_present .ofText (by simp [metadataMembers, filter_present]) orNull?_ofText
  have htyped : metadataIsTyped secret.metadataMembers = true := by
    simp [metadataIsTyped, isTyped_of_absent, metadataMembers, filter_present]
  simp only [metadata?, members?_record, hlabels, hname, hns, hversion, htyped, Option.bind_eq_bind,
    Option.bind_some]
  rfl

/-- The members of the JSON form. -/
def membersOf (secret : Secret) : List (String × Json) :=
  [("apiVersion", .ofText "v1"), ("kind", .ofText "Secret")] ++ present "data" octetsToJson secret.data ++
    [("metadata", .record secret.metadataMembers)] ++ present "stringData" textsToJson secret.stringData ++
    present "type" .ofText secret.type

theorem toJson_eq (secret : Secret) : secret.toJson = .record secret.membersOf := rfl

/-- **The JSON form of a Secret is read back.** -/
theorem ofJson?_toJson (secret : Secret) : ofJson? secret.toJson = some secret := by
  have hversion : isMarked secret.membersOf "apiVersion" "v1" = true := by
    simp [isMarked, membersOf, filter_present, Json.text?, Json.ofText]
  have hkind : isMarked secret.membersOf "kind" "Secret" = true := by
    simp [isMarked, membersOf, filter_present, Json.text?, Json.ofText]
  have hdata : lookup? secret.membersOf "data" (mapOf? octets?) = some secret.data :=
    lookup?_of_present octetsToJson (by simp [membersOf, filter_present]) orNull?_octetsToJson
  have hmetadata : lookup? secret.membersOf "metadata" metadata? =
      some (some { secret with type := none, data := none, stringData := none }) := by
    have hfilter : secret.membersOf.filter (·.1 == "metadata") =
        [("metadata", .record secret.metadataMembers)] := by
      simp [membersOf, filter_present]
    have hread : orNull? metadata? (.record secret.metadataMembers) =
        some (some { secret with type := none, data := none, stringData := none }) :=
      congrArg (Option.map some) secret.metadata?_record
    rw [lookup?, hfilter]
    simp [hread]
  have hstringData : lookup? secret.membersOf "stringData" (mapOf? Json.text?) = some secret.stringData :=
    lookup?_of_present textsToJson (by simp [membersOf, filter_present]) orNull?_textsToJson
  have htype : lookup? secret.membersOf "type" Json.text? = some secret.type :=
    lookup?_of_present .ofText (by simp [membersOf, filter_present]) orNull?_ofText
  have himmutable : isTyped secret.membersOf "immutable" Json.bool? = true :=
    isTyped_of_absent (by simp [membersOf, filter_present])
  simp only [ofJson?, toJson_eq, members?_record, hversion, hkind, hdata, hmetadata, hstringData, htype,
    himmutable, Option.bind_eq_bind, Option.bind_some]
  rfl

/-! ### The text -/

theorem plain_textsToJson (m : SortedMap String String) : (textsToJson m).Plain := by
  refine .record fun member hmember => ?_
  obtain ⟨e, -, rfl⟩ := List.mem_map.1 hmember
  exact .text e.2

theorem plain_octetsToJson (m : SortedMap String (List UInt8)) : (octetsToJson m).Plain := by
  refine .record fun member hmember => ?_
  obtain ⟨e, -, rfl⟩ := List.mem_map.1 hmember
  exact .text _

theorem plain_of_mem_present {write : α → Json} (hwrite : ∀ a, (write a).Plain) {value : Option α}
    {member : String × Json} (h : member ∈ present key write value) : member.2.Plain := by
  obtain ⟨a, rfl⟩ : ∃ a, (key, write a) = member := by
    cases value <;> simp_all [present]
  exact hwrite a

theorem plain_toJson (secret : Secret) : secret.toJson.Plain := by
  have hmetadata : (Json.record secret.metadataMembers).Plain := by
    refine .record fun member hmember => ?_
    simp only [metadataMembers, List.mem_append] at hmember
    rcases hmember with ((h | h) | h) | h
    · exact plain_of_mem_present plain_textsToJson h
    all_goals exact plain_of_mem_present .text h
  refine .record fun member hmember => ?_
  simp only [List.mem_append, List.mem_cons, List.not_mem_nil, or_false] at hmember
  rcases hmember with ((((rfl | rfl) | h) | rfl) | h) | h
  · exact .text _
  · exact .text _
  · exact plain_of_mem_present plain_octetsToJson h
  · exact hmetadata
  · exact plain_of_mem_present plain_textsToJson h
  · exact plain_of_mem_present .text h

/-- The text of a Secret is read back. -/
theorem parse_toJson (secret : Secret) : (Json.parse? secret.toJson.print).bind ofJson? = some secret := by
  rw [Json.parse?_print secret.plain_toJson, Option.bind_some, ofJson?_toJson]

/-! ### The entries in the text -/

/-- The values of a map in base64. -/
def inBase64 (m : SortedMap String (List UInt8)) : SortedMap String String where
  entries := m.entries.map fun e => (e.1, Base64.encode e.2)
  sorted := List.pairwise_map.2 m.sorted

theorem octetsToJson_eq (m : SortedMap String (List UInt8)) : octetsToJson m = textsToJson (inBase64 m) := by
  rw [octetsToJson, textsToJson, inBase64, List.map_map]
  rfl

/-- The entries of a Secret as its text gives them. -/
def writtenData? (text : String) : Option (SortedMap String String) := do
  let members ← members? (← Json.parse? text)
  (← lookup? members "data" (mapOf? Json.text?))

/-- The text of a Secret gives its entries in base64. -/
theorem writtenData?_toJson (secret : Secret) :
    writtenData? secret.toJson.print = secret.data.map inBase64 := by
  have hpresent : present "data" octetsToJson secret.data =
      present "data" textsToJson (secret.data.map inBase64) := by
    simp only [present, Option.map_map, Function.comp_def, octetsToJson_eq]
  have hdata : lookup? secret.membersOf "data" (mapOf? Json.text?) = some (secret.data.map inBase64) := by
    refine lookup?_of_present textsToJson ?_ orNull?_textsToJson
    rw [← hpresent]
    simp [membersOf, filter_present]
  rw [writtenData?, Json.parse?_print secret.plain_toJson]
  simp only [toJson_eq, members?_record, hdata, Option.bind_eq_bind, Option.bind_some]

/-- The entries of a record, in the order of their keys. -/
theorem data_ofRecord (record : SecretRecord) : ∃ entries, (ofRecord record).data = some entries ∧
    entries.entries = [(passwordKey, Utf8.encode record.credentials.password),
      (usernameKey, Utf8.encode record.credentials.username)] := by
  have hlt : compare passwordKey usernameKey = .lt := by decide +kernel
  refine ⟨_, rfl, ?_⟩
  simp only [SortedMap.ofList, List.foldl_cons, List.foldl_nil, SortedMap.insert, SortedMap.empty,
    SortedMap.insertEntry, hlt]

/-- **A record is read back from its object and from the text of its object.**  Labels that are left out count as
    none, and in the text the entries are the UTF-8 of the credentials in standard base64. -/
theorem record_roundTrip (record : SecretRecord) :
    (ofRecord record).toRecord record.ns record.name = record ∧
      { ofRecord record with labels := none }.toRecord record.ns record.name =
        { record with labels := .empty } ∧
      ((Json.parse? (ofRecord record).toJson.print).bind ofJson?).map (·.toRecord record.ns record.name) =
        some record ∧
      ∃ written username password, writtenData? (ofRecord record).toJson.print = some written ∧
        written.entries = [(passwordKey, password), (usernameKey, username)] ∧
        Base64.Standard record.credentials.username.toUTF8.data.toList username.toList ∧
        Base64.Standard record.credentials.password.toUTF8.data.toList password.toList := by
  refine ⟨toRecord_ofRecord record, ?_, ?_, ?_⟩
  · have hsame : { ofRecord record with labels := none }.toRecord record.ns record.name =
        { (ofRecord record).toRecord record.ns record.name with labels := .empty } := rfl
    rw [hsame, toRecord_ofRecord]
  · rw [parse_toJson, Option.map_some, toRecord_ofRecord]
  · obtain ⟨entries, hdata, hentries⟩ := data_ofRecord record
    refine ⟨inBase64 entries, Base64.encode (Utf8.encode record.credentials.username),
      Base64.encode (Utf8.encode record.credentials.password), ?_, ?_, ?_, ?_⟩
    · rw [writtenData?_toJson, hdata, Option.map_some]
    · show entries.entries.map (fun e => (e.1, Base64.encode e.2)) = _
      rw [hentries]
      rfl
    · rw [← Utf8.encode_eq]
      exact Base64.standard_encode _
    · rw [← Utf8.encode_eq]
      exact Base64.standard_encode _

end Secret

/-! ### Refusals -/

/-- The JSON form of what the server says about a refused call. -/
def Status.toJson (status : Status) : Json := .record [
  ("status", .ofText status.status),
  ("message", .ofText status.message),
  ("reason", .ofText status.reason),
  ("code", .ofNat status.code)]

/-- A refusal is read back. -/
theorem Status.ofJson?_toJson {status : Status} (h : status.code < 65536) :
    Status.ofJson? status.toJson = some status := by
  simp [Status.ofJson?, Status.toJson, Fields.of?, Document.members?, Json.record, Fields.ofMembers?,
    Fields.require, Fields.get, Fields.find?, Json.ofText, Json.text?, Json.natural?, Json.ofNat, h,
    List.lookup_cons]

theorem Status.plain_toJson (status : Status) : status.toJson.Plain := by
  refine .record fun member hmember => ?_
  simp only [List.mem_cons, List.not_mem_nil, or_false] at hmember
  rcases hmember with rfl | rfl | rfl | rfl
  · exact .text _
  · exact .text _
  · exact .text _
  · exact .integer false _

/-! ### Replies -/

/-- A reply whose body is the text of a value. -/
def Reply.ofJson (status : Nat) (value : Json) : Reply := .answer status (Utf8.encode value.print)

/-- A reply with an object is read as the object. -/
theorem secret?_answer {status : Nat} (h : ¬ (400 ≤ status ∧ status < 600)) (secret : Secret) :
    (Reply.ofJson status secret.toJson).secret? = .ok secret := by
  simp only [Reply.ofJson, Reply.secret?, Utf8.fault?_encode, Utf8.decodeLossy_encode, if_neg h,
    Secret.parse_toJson]

/-- A reply with a refusal is read as that refusal. -/
theorem secret?_refuse (status : Status) (h : 400 ≤ status.code ∧ status.code < 600) :
    (Reply.ofJson status.code status.toJson).secret? = .error (.refused status) := by
  have hread : refusal status.code status.toJson.print = status := by
    rw [refusal, Json.parse?_print status.plain_toJson, Option.bind_some,
      Status.ofJson?_toJson (by omega), Option.getD_some]
  simp only [Reply.ofJson, Reply.secret?, Utf8.fault?_encode, Utf8.decodeLossy_encode, if_pos h, hread]

end TenantStorage.Kubernetes
