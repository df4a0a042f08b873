import TenantStorage.Json.Domain
import TenantStorage.Json.Print
import TenantStorage.Kubernetes.Fault
import TenantStorage.Kubernetes.Secret
import TenantStorage.Program

/-!
# The API server

* `Kubernetes.Request`, `Kubernetes.Reply` — what is sent to the server and what comes back.
* `Path.ofText` — the path of a request.  Names are put into it as they are, so not every name makes one.
* `Reply.secret?` — the object in a reply, or the fault that the reply stands for.
* `Kubernetes.api` — requests as operations of programs.
-/

namespace TenantStorage.Kubernetes

/-! ### Requests -/

/-- What is done with an object. -/
inductive Method where
  | get
  | post
  | put
deriving DecidableEq, Repr

/-- The word for a method. -/
def Method.text : Method → String
  | get => "GET"
  | post => "POST"
  | put => "PUT"

/-- A request to the API server. -/
structure Request where
  method : Method
  url : String
  body : Option Secret
deriving DecidableEq

namespace Path

/-- Characters that may stand in a path as they are. -/
def isPathChar (c : Char) : Bool :=
  0x20 < c.toNat && c.toNat < 0x7f && !(['#', '<', '>', '?', '\x60'].contains c)

/-- Characters that may stand in a query as they are.  A query may hold a question mark and a grave
    accent, but no quotation mark. -/
def isQueryChar (c : Char) : Bool :=
  0x20 < c.toNat && c.toNat < 0x7f && !(['"', '#', '<', '>'].contains c)

/-- The part of a query before a `#`. -/
def queryOf? : List Char → Option (List Char)
  | [] => some []
  | '#' :: _ => some []
  | c :: rest => if isQueryChar c then (queryOf? rest).map (c :: ·) else none

/-- The part of a path and its query before a `#`. -/
def charsOf? : List Char → Option (List Char)
  | [] => some []
  | '#' :: _ => some []
  | '?' :: rest => (queryOf? rest).map ('?' :: ·)
  | c :: rest => if isPathChar c then (charsOf? rest).map (c :: ·) else none

/-- The most octets that are looked at, what will be cut off included. -/
def longest : Nat := 65534

/-- The path that a text makes; what follows a `#` is cut off. -/
def ofText (text : String) : Except Fault String :=
  if longest < text.utf8ByteSize then .error .longPath
  else match charsOf? text.toList with
    | some chars => .ok (String.ofList chars)
    | none => .error .invalidPath

end Path

/-- The path of the Secrets in a namespace. -/
def secretsPath (ns : String) : String := "/api/v1/namespaces/" ++ ns ++ "/secrets"

/-- The path of a Secret. -/
def secretPath (ns name : String) : String := secretsPath ns ++ "/" ++ name

/-- The request for an object, if namespace and name make a path. -/
def readRequest (ns name : String) : Except Fault Request :=
  (Path.ofText (secretPath ns name)).map fun url => ⟨.get, url, none⟩

/-- The request that creates an object, if its namespace makes a path. -/
def createRequest (ns : String) (secret : Secret) : Except Fault Request :=
  (Path.ofText (secretsPath ns ++ "?")).map fun url => ⟨.post, url, some secret⟩

/-- The request that replaces an object, if namespace and name make a path. -/
def replaceRequest (ns name : String) (secret : Secret) : Except Fault Request :=
  (Path.ofText (secretPath ns name ++ "?")).map fun url => ⟨.put, url, some secret⟩

/-! ### Replies -/

/-- What comes back for a request. -/
inductive Reply where
  | answer (status : Nat) (body : List UInt8)
  /-- No answer arrived. -/
  | broken (detail : String)
deriving DecidableEq, Repr

/-- The reason phrase of a status that tells of an error. -/
def reasonPhrase? (status : Nat) : Option String :=
  [ (400, "Bad Request"), (401, "Unauthorized"), (402, "Payment Required"), (403, "Forbidden"),
    (404, "Not Found"), (405, "Method Not Allowed"), (406, "Not Acceptable"),
    (407, "Proxy Authentication Required"), (408, "Request Timeout"), (409, "Conflict"),
    (410, "Gone"), (411, "Length Required"), (412, "Precondition Failed"),
    (413, "Payload Too Large"), (414, "URI Too Long"), (415, "Unsupported Media Type"),
    (416, "Range Not Satisfiable"), (417, "Expectation Failed"), (418, "I'm a teapot"),
    (421, "Misdirected Request"), (422, "Unprocessable Entity"), (423, "Locked"),
    (424, "Failed Dependency"), (426, "Upgrade Required"), (428, "Precondition Required"),
    (429, "Too Many Requests"), (431, "Request Header Fields Too Large"),
    (451, "Unavailable For Legal Reasons"), (500, "Internal Server Error"),
    (501, "Not Implemented"), (502, "Bad Gateway"), (503, "Service Unavailable"),
    (504, "Gateway Timeout"), (505, "HTTP Version Not Supported"),
    (506, "Variant Also Negotiates"), (507, "Insufficient Storage"), (508, "Loop Detected"),
    (510, "Not Extended"), (511, "Network Authentication Required") ].lookup status

/-- A status with its reason phrase. -/
def statusLine (status : Nat) : String :=
  status.repr ++ " " ++ (reasonPhrase? status).getD "<unknown status code>"

/-- Reads what the server says about a refused call. -/
def Status.ofJson? (value : Json) : Option Status := do
  let fields ← Fields.of? ["status", "message", "reason", "code"] value
  return {
    status := ← fields.require "status" Json.text?
    message := ← fields.get "message" Json.text? ""
    reason := ← fields.get "reason" Json.text? ""
    code := ← fields.require "code" (Json.natural? 65536) }

/-- The refusal in a reply.  A body that does not tell the reason is quoted. -/
def refusal (status : Nat) (body : String) : Status :=
  ((Json.parse? body).bind Status.ofJson?).getD
    ⟨statusLine status, Text.quote body, "Failed to parse error data", status⟩

/-- The object in a reply, or the fault that the reply stands for. -/
def Reply.secret? : Reply → Except Fault Secret
  | broken detail => .error (.transport detail)
  | answer status body =>
    match Utf8.fault? body with
    | some fault => .error (.notText (Utf8.faultText fault))
    | none =>
      let text := Utf8.decodeLossy body
      if 400 ≤ status ∧ status < 600 then .error (.refused (refusal status text))
      else
        match (Json.parse? text).bind Secret.ofJson? with
        | some secret => .ok secret
        | none => .error .unreadable

/-- Requests as operations of programs. -/
def api : Signature := ⟨Request, fun _ => Reply⟩

/-- Sends a request, unless it could not be written. -/
def send (request : Except Fault Request) : Program api (Except Fault Secret) :=
  match request with
  | .error fault => pure (.error fault)
  | .ok request => do return (← Program.perform (S := api) request).secret?

end TenantStorage.Kubernetes
