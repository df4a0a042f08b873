import TenantStorage.Proofs.Blank
import TenantStorage.Proofs.Domain
import TenantStorage.Proofs.Encoding
import TenantStorage.Proofs.Rest.Fields
import TenantStorage.Rest.Reply

namespace TenantStorage

/-!
# What the body of a refusal says

The body of a reply is octets that are read as a text.  The text says the message of the error that it describes,
or if it describes none what is between the blanks at its ends.

* `answer_of_writes` — where no encoding is named, every text arrives as it was written.
* `Detail`, `Detail.Decodes` — the texts that describe an error; `Detail.decodes_written` — one is written so.
* `IsMessage` — what a text says; `refusalMessage` says the same (`isMessage_iff`).
-/

namespace Rest

/-- Where no encoding is named, a text arrives from its octets. -/
theorem answer_of_writes {text : String} {body : List UInt8} (h : Encoding.Writes text body) (status : Nat) :
    Reply.answer status body = .arrived status body text := by
  rw [Reply.answer, Encoding.textOf_of_writes h]

/-! ### Errors -/

/-- An error as a text describes it. -/
structure Detail where
  message : String
  code : Option String

namespace Detail

/-- The message, with the code behind it. -/
def text (detail : Detail) : String :=
  match detail.code with
  | some code => detail.message ++ " (code " ++ code ++ ")"
  | none => detail.message

/-- A value describes an error: a record with a message and a code.  Both are texts.  A message that is missing
    is empty; a code may be missing, or `null`. -/
def DescribedBy (detail : Detail) (value : Json) : Prop :=
  ∃ field, Gives ["message", "code"] value field ∧
    (field "message" = some (.ofText detail.message) ∨ field "message" = none ∧ detail.message = "") ∧
    match detail.code with
    | some code => field "code" = some (.ofText code)
    | none => field "code" = none ∨ field "code" = some .null

/-- A text decodes as an error: it is JSON, a record whose field `error` describes it. -/
def Decodes (detail : Detail) (body : String) : Prop :=
  ∃ value field inner, Json.parse? body = some value ∧ Gives ["error"] value field ∧
    field "error" = some inner ∧ detail.DescribedBy inner

/-- A value that describes the error. -/
def toJson (detail : Detail) : Json :=
  .record [("message", .ofText detail.message), ("code", .ofOption .ofText detail.code)]

/-- A body that describes the error. -/
def written (detail : Detail) : String := (Json.record [("error", detail.toJson)]).print

theorem plain_toJson (detail : Detail) : detail.toJson.Plain :=
  .record (by simp [Json.Plain.text, Json.plain_ofOption])

theorem describedBy_toJson (detail : Detail) : detail.DescribedBy detail.toJson := by
  refine ⟨_, .byName rfl (by simp) (by simp), .inl rfl, ?_⟩
  cases h : detail.code with
  | none => exact .inr rfl
  | some code => rfl

/-- What is written for an error decodes as it. -/
theorem decodes_written (detail : Detail) : detail.Decodes detail.written := by
  have hmember : ∀ member ∈ [("error", detail.toJson)], member.2.Plain := by simp [plain_toJson]
  exact ⟨_, _, _, Json.parse?_print (.record hmember), .byName rfl (by simp) (by simp), rfl,
    detail.describedBy_toJson⟩

end Detail

theorem get_message_iff {fields : Fields Json} {message : String} :
    fields.get "message" Json.text? "" = some message ↔
      fields.find? "message" = some (.ofText message) ∨ fields.find? "message" = none ∧ message = "" := by
  rw [get_eq_some_iff text?_iff]
  simp [HoldsDefault, IsText, or_comm]

theorem get_code_iff {fields : Fields Json} {code : Option String} :
    fields.get "code" (orNull? Json.text?) none = some code ↔
      match code with
      | some code => fields.find? "code" = some (.ofText code)
      | none => fields.find? "code" = none ∨ fields.find? "code" = some .null := by
  rw [get_orNull_eq_some_iff text?_iff not_isText_null]
  cases code <;> simp [HoldsOptional, IsText]

/-- A message is read off the two fields of a record. -/
theorem errorMessage?_of_fields {value : Json} {fields : Fields Json} {message : String}
    (h : Fields.of? ["message", "code"] value = some fields) :
    errorMessage? value = some message ↔ ∃ detail : Detail,
      fields.get "message" Json.text? "" = some detail.message ∧
        fields.get "code" (orNull? Json.text?) none = some detail.code ∧ message = detail.text := by
  have hread : errorMessage? value = (fields.get "message" Json.text? "").bind fun front =>
      (fields.get "code" (orNull? Json.text?) none).bind fun code => some (Detail.mk front code).text := by
    simp only [errorMessage?, h, Option.bind_eq_bind, Option.bind_some]
    refine congrArg _ (funext fun front => congrArg _ (funext fun code => ?_))
    cases code <;> rfl
  rw [hread]
  constructor
  · intro hsome
    obtain ⟨front, hfront, hrest⟩ := Option.bind_eq_some_iff.1 hsome
    obtain ⟨code, hcode, htext⟩ := Option.bind_eq_some_iff.1 hrest
    exact ⟨⟨front, code⟩, hfront, hcode, (Option.some.inj htext).symm⟩
  · rintro ⟨detail, hfront, hcode, rfl⟩
    rw [hfront, Option.bind_some, hcode, Option.bind_some]

theorem errorMessage?_eq_some_iff {value : Json} {message : String} :
    errorMessage? value = some message ↔
      ∃ detail : Detail, detail.DescribedBy value ∧ message = detail.text := by
  have hfields {fields : Fields Json} {field : String → Option Json}
      (hagree : ∀ name ∈ ["message", "code"], fields.find? name = field name) (detail : Detail) :
      (fields.get "message" Json.text? "" = some detail.message ∧
          fields.get "code" (orNull? Json.text?) none = some detail.code) ↔
        (field "message" = some (.ofText detail.message) ∨ field "message" = none ∧ detail.message = "") ∧
          match detail.code with
          | some code => field "code" = some (.ofText code)
          | none => field "code" = none ∨ field "code" = some .null := by
    rw [get_message_iff, get_code_iff, hagree "message" (by simp), hagree "code" (by simp)]
  constructor
  · intro hmessage
    obtain ⟨fields, hof, -⟩ := Option.bind_eq_some_iff.1 hmessage
    obtain ⟨field, hgives, hagree⟩ := Fields.gives_of_of? hof
    obtain ⟨detail, hfront, hcode, htext⟩ := (errorMessage?_of_fields hof).1 hmessage
    exact ⟨detail, ⟨field, hgives, (hfields hagree detail).1 ⟨hfront, hcode⟩⟩, htext⟩
  · rintro ⟨detail, ⟨field, hgives, hdescribed⟩, htext⟩
    obtain ⟨fields, hof, hagree⟩ := Fields.of?_of_gives hgives
    obtain ⟨hfront, hcode⟩ := (hfields hagree detail).2 hdescribed
    exact (errorMessage?_of_fields hof).2 ⟨detail, hfront, hcode, htext⟩

/-- A body describes just the errors that it decodes as. -/
theorem describedMessage?_eq_some_iff {body message : String} :
    describedMessage? body = some message ↔ ∃ detail : Detail, detail.Decodes body ∧ message = detail.text := by
  constructor
  · intro hsome
    obtain ⟨value, hvalue, hrest⟩ := Option.bind_eq_some_iff.1 hsome
    obtain ⟨fields, hof, hrequired⟩ := Option.bind_eq_some_iff.1 hrest
    obtain ⟨inner, hinner, hmessage⟩ := Option.bind_eq_some_iff.1 hrequired
    obtain ⟨field, hgives, hagree⟩ := Fields.gives_of_of? hof
    obtain ⟨detail, hdescribed, htext⟩ := errorMessage?_eq_some_iff.1 hmessage
    have hfound : field "error" = some inner := (hagree "error" (by simp)).symm.trans hinner
    exact ⟨detail, ⟨value, field, inner, hvalue, hgives, hfound, hdescribed⟩, htext⟩
  · rintro ⟨detail, ⟨value, field, inner, hvalue, hgives, hinner, hdescribed⟩, htext⟩
    obtain ⟨fields, hof, hagree⟩ := Fields.of?_of_gives hgives
    have hfound : fields.find? "error" = some inner := (hagree "error" (by simp)).trans hinner
    have hmessage : errorMessage? inner = some message := errorMessage?_eq_some_iff.2 ⟨detail, hdescribed, htext⟩
    simp [describedMessage?, hvalue, hof, Fields.require, hfound, hmessage]

/-! ### Messages -/

/-- What a text says: the error it decodes as, or if it decodes as none the text without blanks at its ends. -/
def IsMessage (body message : String) : Prop :=
  (∃ detail : Detail, detail.Decodes body ∧ message = detail.text) ∨
    (∀ detail : Detail, ¬detail.Decodes body) ∧ Text.IsTrimmed body message

/-- Every text says one thing. -/
theorem isMessage_iff {body message : String} : IsMessage body message ↔ message = refusalMessage body := by
  unfold IsMessage refusalMessage
  cases h : describedMessage? body with
  | some told =>
    have hdecodes := describedMessage?_eq_some_iff.1 h
    constructor
    · rintro (hmessage | ⟨hnone, -⟩)
      · exact Option.some.inj ((describedMessage?_eq_some_iff.2 hmessage).symm.trans h)
      · obtain ⟨detail, hdetail, -⟩ := hdecodes
        exact absurd hdetail (hnone detail)
    · rintro rfl
      exact .inl hdecodes
  | none =>
    have hno (detail : Detail) : ¬detail.Decodes body := fun hdetail => by
      rw [describedMessage?_eq_some_iff.2 ⟨detail, hdetail, rfl⟩] at h
      cases h
    simp [hno, Text.isTrimmed_iff]

end Rest

end TenantStorage
