import Clearance.Http.Host
import Clearance.Http.Message
import Clearance.Numeral

/-!
# Endpoints

How a scripted client reads a URL. Its authority ends before the first slash, question mark or
hash. Behind a user in it stand the host, and the port unless it is the usual one of the scheme. A
version 6 address stands in brackets, as its colons would be taken for that of the port. Whatever
follows the host's colon must be a whole number. Of host and port the host is read first. In the
path, segments that are a dot or two are resolved.
-/

namespace Clearance.Http

/-- Where a request goes. -/
structure Endpoint where
  tls : Bool
  /-- The host, with its brackets if it has any. -/
  host : List Char
  /-- The port, unless it is the usual one. -/
  port : Option Int
  deriving DecidableEq, Repr

namespace Endpoint

/-- The usual port of the scheme. -/
def usualPort (tls : Bool) : Int :=
  if tls then 443 else 80

/-- Splits an authority behind its host, which ends before the first colon, or behind the last
closing bracket if it starts with an opening one. -/
def splitHost (authority : List Char) : List Char × List Char :=
  match authority with
  | '[' :: _ =>
    if authority.contains ']' then
      let port := (authority.reverse.takeWhile (· != ']')).reverse
      (authority.take (authority.length - port.length), port)
    else (authority.takeWhile (· != ':'), authority.dropWhile (· != ':'))
  | _ => (authority.takeWhile (· != ':'), authority.dropWhile (· != ':'))

/-- The text of the port, without the colon before it. -/
def dropColon : List Char → List Char
  | ':' :: port => port
  | port => port

/-- The authority without the user in front of it. -/
def dropUser (authority : List Char) : List Char :=
  if authority.contains '@' then (authority.dropWhile (· != '@')).drop 1 else authority

/-- The endpoint of an authority. -/
def read (tls : Bool) (authority : List Char) : Except Loss Endpoint :=
  let (host, rest) := splitHost (dropUser authority)
  let port := dropColon rest
  match Host.read host with
  | .error loss => .error loss
  | .ok host =>
    if port = [] then .ok ⟨tls, host, none⟩
    else match Numeral.readInt port with
      | .ok number => .ok ⟨tls, host, if number = usualPort tls then none else some number⟩
      | .error _ => .error (.invalidPort (String.ofList port))

/-- The host and the port, as they stand in a URL. -/
def authority (e : Endpoint) : String :=
  String.ofList e.host ++ match e.port with
    | some port => ":" ++ toString port
    | none => ""

/-- The host without brackets. -/
def bareHost (e : Endpoint) : String :=
  String.ofList (e.host.filter fun c => c != '[' && c != ']')

/-- The URL up to the path. -/
def origin (e : Endpoint) : String :=
  schemeOf e.tls ++ "://" ++ e.authority

end Endpoint

/-! ## Paths -/

/-- One step of resolving the dots of a path: `.` is the segment before it, `..` the one before
that. The first segment is the empty one before the leading slash and is never left. -/
def resolveStep (known : List (List Char)) (segment : List Char) : List (List Char) :=
  if segment = ['.'] then known
  else if segment = ['.', '.'] then (if known.length ≤ 1 then known else known.dropLast)
  else known ++ [segment]

/-- A path without the segments `.` and `..`. -/
def resolveDots (path : List Char) : String :=
  let segments := path.splitOn '/'
  if segments.contains ['.'] || segments.contains ['.', '.'] then
    let resolved := ['/'].intercalate (segments.foldl resolveStep [])
    if resolved = [] then "/" else String.ofList resolved
  else String.ofList path

/-! ## URLs -/

/-- A URL as it is read: where it leads, and to which path there. -/
structure Target where
  endpoint : Endpoint
  path : String
  deriving DecidableEq, Repr

/-- Whether a query or a fragment starts with the character. -/
def endsPath (c : Char) : Bool :=
  c == '?' || c == '#'

/-- Reads a URL with one of the two schemes. -/
def Target.read (url : String) : Except Loss Target :=
  let tls := "https:".toList.isPrefixOf url.toList
  let rest := url.toList.drop (Endpoint.schemeOf tls ++ "://").length
  let path := (rest.dropWhile fun c => c != '/' && !endsPath c).takeWhile fun c => !endsPath c
  (Endpoint.read tls (rest.takeWhile fun c => c != '/' && !endsPath c)).map fun endpoint =>
    ⟨endpoint, resolveDots path⟩

end Clearance.Http
