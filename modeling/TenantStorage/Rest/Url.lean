import TenantStorage.Address
import TenantStorage.Octets.Percent

/-!
# Web addresses

The reader of `http` and `https` URLs.  It forgives what browsers forgive: letter case of scheme and host,
backslashes, a wrong number of slashes after the scheme, and characters that ought to be encoded.

* `Url` — a URL in its parts.
* `Url.parseBy?` — reads a URL with a reader of hosts.
* `Url.parse?` — reads a URL; the host has to be an IPv6 address in brackets, an IPv4 address in any of its
  spellings, or an ASCII name.
* `Url.text` — the URL as it is sent, without a fragment.
* `Url.addQuery` — the URL with more names and values in its query.
-/

namespace TenantStorage

/-- The two schemes. -/
inductive Url.Scheme where
  | http
  | https
deriving DecidableEq, Repr

/-- A URL.  Path segments, query and fragment are encoded. -/
structure Url where
  scheme : Url.Scheme
  host : String
  /-- Missing when it is the default of the scheme. -/
  portNumber : Option Nat
  path : List String
  query : Option String
  fragment : Option String
deriving DecidableEq, Repr

namespace Url

/-! ### Hosts -/

/-- The name of a scheme. -/
def Scheme.text : Scheme → String
  | http => "http"
  | https => "https"

/-- The `portNumber` that a scheme stands for. -/
def Scheme.defaultPort : Scheme → Nat
  | http => 80
  | https => 443

/-- Characters that no host name has. -/
def isForbiddenInHost (c : Char) : Bool :=
  c.toNat ≤ 0x20 || c.toNat == 0x7f || "#%/:<>?@[\\]^`|".toList.contains c

/-- The digits of a number, with its base: `0x` announces sixteen, a leading zero eight. -/
def numberBase : List Char → Nat × List Char
  | '0' :: 'x' :: rest => (16, rest)
  | '0' :: 'X' :: rest => (16, rest)
  | '0' :: c :: rest => (8, c :: rest)
  | cs => (10, cs)

/-- A number in one of three bases; no digits after `0x` make zero. -/
def number? (cs : List Char) : Option Nat :=
  let (base, digits) := numberBase cs
  if cs.isEmpty then none
  else digits.foldlM (fun n c => do
    let d ← Text.hexValue? c
    if d < base then some (base * n + d) else none) 0

/-- The parts of a host between dots, without an empty last one. -/
def hostParts (host : List Char) : List (List Char) :=
  let parts := host.splitOn '.'
  if parts.getLast? == some [] && 1 < parts.length then parts.dropLast else parts

/-- Whether a host has to be read as an IPv4 address. -/
def endsInNumber (host : List Char) : Bool :=
  match (hostParts host).getLast? with
  | none => false
  | some last => (!last.isEmpty && last.all Char.isDigit) || (number? last).isSome

/-- The value of up to four numbers, the last of which fills the octets that are left. -/
def addressValue? (numbers : List Nat) : Option Nat :=
  match numbers.reverse with
  | [] => none
  | last :: before =>
    if 3 < before.length || before.any (255 < ·) || Nat.pow 256 (4 - before.length) ≤ last then none
    else some (before.reverse.foldl (fun (acc : Nat × Nat) n => (acc.1 + n * Nat.pow 256 acc.2, acc.2 - 1))
      (last, 3)).1

/-- Reads an IPv4 address in any of its spellings. -/
def ipv4? (host : List Char) : Option Address.V4 := do
  let numbers ← (hostParts host).mapM number?
  let value ← addressValue? numbers
  let octet (place : Nat) : UInt8 := UInt8.ofNat (value / place % 256)
  return ⟨octet 0x1000000, octet 0x10000, octet 0x100, octet 1⟩

/-- An IPv6 address as hosts spell it, with all groups in hexadecimal. -/
def ipv6Text (address : Address.V6) : List Char :=
  let groups := address.groups
  let (start, length) := Address.longestZeros groups
  if length ≤ 1 then Address.joinGroups groups
  else Address.joinGroups (groups.take start) ++ [':', ':'] ++
    Address.joinGroups (groups.drop (start + length))

/-- Reads an address in brackets, after the opening one. -/
def bracketed? (cs : List Char) : Option (List Char) :=
  match cs.reverse with
  | ']' :: inner =>
    match Address.readV6 inner.reverse with
    | some (address, []) => some ('[' :: ipv6Text address ++ [']'])
    | _ => none
  | _ => none

/-- Reads a host in small letters. -/
def lowered? (cs : List Char) : Option (List Char) :=
  if cs.isEmpty || cs.any (fun c => isForbiddenInHost c || 0x7f < c.toNat) then none
  else if endsInNumber cs then (ipv4? cs).map (·.text)
  else some cs

/-- Reads a host. -/
def host? : List Char → Option (List Char)
  | '[' :: rest => bracketed? rest
  | cs => ((Utf8.decode? (Percent.decode cs)).map (·.toList.map Char.toLower)).bind lowered?

/-! ### The parts of a URL -/

/-- What may not stand for itself in a path. -/
def isPathChar (c : Char) : Bool :=
  0x20 < c.toNat && c.toNat < 0x7f && !"\"#<>?`\x7b\x7d".toList.contains c

/-- What may not stand for itself in a query. -/
def isQueryChar (c : Char) : Bool :=
  0x20 < c.toNat && c.toNat < 0x7f && !"\"#<>'".toList.contains c

/-- What may not stand for itself in a fragment. -/
def isFragmentChar (c : Char) : Bool :=
  0x20 < c.toNat && c.toNat < 0x7f && !"\"<>`".toList.contains c

/-- Whether a segment means the place itself. -/
def isSingleDot (segment : String) : Bool :=
  ["." , "%2e"].contains (String.ofList (segment.toList.map Char.toLower))

/-- Whether a segment means the place above. -/
def isDoubleDot (segment : String) : Bool :=
  ["..", ".%2e", "%2e.", "%2e%2e"].contains (String.ofList (segment.toList.map Char.toLower))

/-- The segments of a path, with the steps to the place itself and to the place above carried out.  `done` are
    the segments so far, in reverse. -/
def resolve (done : List String) : List String → List String
  | [] => done.reverse
  | [segment] =>
    if isDoubleDot segment then ("" :: done.tail).reverse
    else if isSingleDot segment then ("" :: done).reverse
    else (segment :: done).reverse
  | segment :: rest =>
    if isDoubleDot segment then resolve done.tail rest
    else if isSingleDot segment then resolve done rest
    else resolve (segment :: done) rest

/-- Slashes and backslashes, which mean the same. -/
def isSlash (c : Char) : Bool := c == '/' || c == '\\'

/-- What stands between slashes, encoded. -/
def rawSegments (cs : List Char) : List String :=
  ((cs.map fun c => if isSlash c then '/' else c).splitOn '/').map fun segment =>
    String.ofList (Percent.encode isPathChar segment)

/-- The segments of a path that begins with a slash. -/
def segments (path : List Char) : List String := resolve [] (rawSegments (path.drop 1))

/-- Splits off what follows the first character that satisfies `test`. -/
def cut (test : Char → Bool) (cs : List Char) : List Char × Option (List Char) :=
  match cs.dropWhile (!test ·) with
  | [] => (cs, none)
  | _ :: rest => (cs.takeWhile (!test ·), some rest)

/-- What follows the last `@` of an authority. -/
def afterUserinfo (authority : List Char) : List Char :=
  (authority.reverse.takeWhile (· != '@')).reverse

/-- Splits a host from what stands behind its colon.  A colon inside brackets belongs to the host. -/
def splitPort (authority : List Char) : List Char × Option (List Char) :=
  match authority with
  | '[' :: _ =>
    let inner := authority.takeWhile (· != ']')
    match authority.drop inner.length with
    | ']' :: ':' :: digits => (inner ++ [']'], some digits)
    | rest => (inner ++ rest, none)
  | _ => cut (· == ':') authority

/-- Reads the `portNumber` of a URL, unless it is the default of the scheme. -/
def portNumber? (scheme : Scheme) : Option (List Char) → Option (Option Nat)
  | none => some none
  | some digits =>
    if digits.isEmpty then some none
    else if digits.all Char.isDigit then
      let n := Address.decimal digits
      if 65535 < n then none else if n = scheme.defaultPort then some none else some (some n)
    else none

/-! ### Reading -/

/-- The scheme at the front, and what follows its colon. -/
def scheme? (cs : List Char) : Option (Scheme × List Char) :=
  match cut (· == ':') cs with
  | (name, some rest) =>
    match String.ofList (name.map Char.toLower) with
    | "http" => some (.http, rest)
    | "https" => some (.https, rest)
    | _ => none
  | _ => none

/-- Control characters and the space, which do not count at the two ends. -/
def isEdge (c : Char) : Bool := c.toNat ≤ 0x20

/-- Tabs and line breaks, which do not count anywhere. -/
def isBreak (c : Char) : Bool := c == '\t' || c == '\n' || c == '\r'

/-- Drops control characters and spaces at both ends, and tabs and line breaks everywhere. -/
def clean (cs : List Char) : List Char :=
  (((cs.dropWhile isEdge).reverse.dropWhile isEdge).reverse).filter (!isBreak ·)

/-- Whether a character ends the authority. -/
def endsAuthority (c : Char) : Bool := isSlash c || c == '?' || c == '#'

/-- The host and the `portNumber` that an authority names. -/
def origin? (readHost : List Char → Option (List Char)) (scheme : Scheme) (authority : List Char) :
    Option (String × Option Nat) := do
  let (hostChars, portChars) := splitPort (afterUserinfo authority)
  return (String.ofList (← readHost hostChars), ← portNumber? scheme portChars)

/-- A URL with the path, query and fragment that follow its authority. -/
def compose (scheme : Scheme) (origin : String × Option Nat) (rest : List Char) : Url :=
  let (rest, fragment) := cut (· == '#') rest
  let (path, query) := cut (· == '?') rest
  { scheme
    host := origin.1
    portNumber := origin.2
    path := segments path
    query := query.map fun q => String.ofList (Percent.encode isQueryChar q)
    fragment := fragment.map fun f => String.ofList (Percent.encode isFragmentChar f) }

/-- Reads what follows the slashes after a scheme. -/
def located? (readHost : List Char → Option (List Char)) (scheme : Scheme) (rest : List Char) : Option Url :=
  (origin? readHost scheme (rest.takeWhile (!endsAuthority ·))).map fun origin =>
    compose scheme origin (rest.dropWhile (!endsAuthority ·))

/-- Reads a URL of one of the two schemes with a reader of hosts. -/
def parseBy? (readHost : List Char → Option (List Char)) (text : String) : Option Url :=
  (scheme? (clean text.toList)).bind fun (scheme, rest) =>
    located? readHost scheme (rest.dropWhile isSlash)

/-- Reads a URL of one of the two schemes. -/
def parse? (text : String) : Option Url := parseBy? host? text

/-! ### Writing -/

/-- The URL as it is sent. -/
def text (url : Url) : String :=
  let ending := match url.portNumber with
    | none => ""
    | some n => ":" ++ n.repr
  let query := match url.query with
    | none => ""
    | some q => "?" ++ q
  url.scheme.text ++ "://" ++ url.host ++ ending ++
    String.join (url.path.map ("/" ++ ·)) ++ query

/-- Names and values as a query. -/
def queryText (pairs : List (String × String)) : String :=
  String.ofList (['&'].intercalate
    (pairs.map fun pair => Percent.form pair.1 ++ '=' :: Percent.form pair.2))

/-- The URL with names and values after those that its query has. -/
def addQuery (url : Url) (pairs : List (String × String)) : Url :=
  if pairs.isEmpty then url
  else
    let before := match url.query with
      | none => ""
      | some q => if q = "" then "" else q ++ "&"
    { url with query := some (before ++ queryText pairs) }

end Url

end TenantStorage
