import TenantStorage.Action
import TenantStorage.Json.Domain
import TenantStorage.Octets.Base64
import TenantStorage.Rest.Url
import TenantStorage.Settings.Basic

/-!
# Requests to the management interface

* `Rest.Request` — a request as it is sent.
* `Rest.Query` — what a call to the storage controller asks of the interface: method, path, query, body.
* `Rest.request?` — the request for it, if the endpoint of the settings makes a URL.
-/

namespace TenantStorage.Rest

/-- What is done with a resource. -/
inductive Method where
  | get
  | post
  | patch
deriving DecidableEq, Repr

/-- The word for a method. -/
def Method.text : Method → String
  | get => "GET"
  | post => "POST"
  | patch => "PATCH"

/-- A request as it is sent. -/
structure Request where
  method : Method
  url : Url
  authorization : String
  body : Option Json

/-- What a call asks of the interface.  The path follows `/api`. -/
structure Query where
  method : Method
  path : String
  parameters : List (String × String)
  body : Option Json

/-! ### Paths and bodies -/

/-- The fields that are read of a machine. -/
def svmFields : String := "uuid,name,state,nvme,aggregates"

/-- The path of a machine. -/
def svmPath (uuid : String) : String := "/svm/svms/" ++ Percent.component uuid

/-- The path of an account. -/
def accountPath (ownerUuid username : String) : String :=
  "/security/accounts/" ++ Percent.component ownerUuid ++ "/" ++ Percent.component username

/-- An object with a single member. -/
def only (key : String) (value : Json) : Json := .record [(key, value)]

/-- The order for a machine. -/
def svmBody (order : Svm.Order) : Json := .record [
  ("name", .ofText order.name),
  ("aggregates", .array (order.aggregates.map fun name => only "name" (.ofText name))),
  ("nvme", only "enabled" (.bool order.nvmeEnabled))]

/-- A new interface. -/
def interfaceBody (interface : Interface) : Json := .record [
  ("name", .ofText interface.name),
  ("ip", .record [
    ("address", .ofText interface.ip.text),
    ("netmask", .ofText interface.netmask.toNat.repr)]),
  ("svm", only "uuid" (.ofText interface.svmUuid)),
  ("location", only "home_node" (only "uuid" (.ofText interface.nodeUuid))),
  ("service_policy", only "name" (.ofText interface.servicePolicy)),
  ("vip", .bool interface.vip)]

/-- An application through which an account logs in by password. -/
def application (name : String) : Json := .record [
  ("application", .ofText name),
  ("authentication_methods", .array [.ofText "password"])]

/-- A new account. -/
def accountBody (order : Account.Order) : Json := .record [
  ("name", .ofText order.credentials.username),
  ("owner", only "uuid" (.ofText order.ownerUuid)),
  ("password", .ofText order.credentials.password),
  ("role", only "name" (.ofText order.role)),
  ("applications", .array [application "http", application "ontapi"])]

/-! ### Calls -/

/-- What a call asks of the interface. -/
def queryOf : ControllerCall → Query
  | .svmByName name => ⟨.get, "/svm/svms", [("name", name), ("fields", svmFields)], none⟩
  | .svm uuid => ⟨.get, svmPath uuid, [("fields", svmFields)], none⟩
  | .createSvm order => ⟨.post, "/svm/svms", [], some (svmBody order)⟩
  | .nodes => ⟨.get, "/cluster/nodes", [("fields", "uuid,name")], none⟩
  | .aggregates => ⟨.get, "/storage/aggregates", [("fields", "uuid,name")], none⟩
  | .createInterface interface =>
    ⟨.post, "/network/ip/interfaces", [], some (interfaceBody interface)⟩
  | .peerGroups => ⟨.get, "/network/ip/bgp/peer-groups", [("fields", "name")], none⟩
  | .createAccount order => ⟨.post, "/security/accounts", [], some (accountBody order)⟩
  | .account ownerUuid username =>
    ⟨.get, accountPath ownerUuid username, [("fields", "name,owner,role,locked")], none⟩
  | .setPassword ownerUuid username password =>
    ⟨.patch, accountPath ownerUuid username, [], some (only "password" (.ofText password))⟩

/-! ### Requests -/

/-- The text without slashes at its end. -/
def trimSlashes (text : String) : String :=
  String.ofList (text.toList.reverse.dropWhile (· == '/')).reverse

/-- The text of the URL for a path. -/
def urlText (endpoint path : String) : String := trimSlashes endpoint ++ "/api" ++ path

/-- Basic authentication. -/
def basicAuthorization (username password : String) : String :=
  "Basic " ++ Base64.encode (Utf8.encode (username ++ ":" ++ password))

/-- The request for a query, if the endpoint makes a URL for a reader of hosts. -/
def requestBy? (readHost : List Char → Option (List Char)) (settings : Settings.Controller) (query : Query) :
    Option Request :=
  (Url.parseBy? readHost (urlText settings.endpoint query.path)).map fun url =>
    { method := query.method
      url := url.addQuery query.parameters
      authorization := basicAuthorization settings.username settings.password
      body := query.body }

/-- The request for a query, if the endpoint makes a URL. -/
def request? (settings : Settings.Controller) (query : Query) : Option Request :=
  requestBy? Url.host? settings query

/-- A request as it is logged. -/
def Request.toJson (request : Request) : Json := .record [
  ("method", .ofText request.method.text),
  ("url", .ofText request.url.text),
  ("body", request.body.getD .null),
  ("authorization", .ofText request.authorization),
  ("accept", .ofText "application/json"),
  ("content_type", if request.body.isSome then .ofText "application/json" else .null)]

end TenantStorage.Rest
