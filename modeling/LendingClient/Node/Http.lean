import LendingClient.Json.Reader
import LendingClient.Node.Reply
import LendingClient.Node.Question
import LendingClient.Text.Whole

/-!
# Nodes over HTTP

How a request to a node and its reply look on the wire: a request is posted as JSON under version 1.0
of the protocol, so the reply ends where the connection does, and nothing has to be put together.
-/

namespace LendingClient.Http

/-- The address of a node. -/
structure Url where
  host : String
  /-- The number that the host listens on. -/
  service : UInt16
  path : String
deriving DecidableEq

/-- The service of an address that names none. -/
def usualService : UInt16 := 80

/-- A character that ends the host of an address. -/
def endsHost (c : Char) : Bool :=
  c = ':' || c = '/' || c = '?' || c = '#'

/-- The rest of an address behind its scheme, if nobody has to be trusted for it. -/
def withoutScheme? : List Char → Option (List Char)
  | 'h' :: 't' :: 't' :: 'p' :: ':' :: '/' :: '/' :: rest => some rest
  | _ => none

/-- The service and the path behind a host. -/
def readService : List Char → Option (UInt16 × List Char)
  | ':' :: rest => do
    let service ← (Text.readUnsigned 65535 (rest.takeWhile (!endsHost ·))).toOption
    return (UInt16.ofNat service, rest.dropWhile (!endsHost ·))
  | rest => some (usualService, rest)

/-- The address that a text stands for. -/
def Url.ofText? (text : String) : Option Url := do
  let rest ← withoutScheme? text.toList
  let (service, path) ← readService (rest.dropWhile (!endsHost ·))
  let path := path.takeWhile (· ≠ '#')
  let host := rest.takeWhile (!endsHost ·)
  if host.isEmpty then none
  else return ⟨String.ofList host, service,
    String.ofList (if path.head? = some '/' then path else '/' :: path)⟩

/-- A request to a node as JSON; `count` requests were made before. -/
def envelope (count : Nat) (request : NodeRequest) : Json :=
  .object [("jsonrpc", .text "2.0"), ("id", .ofNat count), ("method", .text request.method),
    ("params", .list request.params)]

/-- A request on the wire. -/
def post (url : Url) (body : String) : String :=
  s!"POST {url.path} HTTP/1.0\r\nHost: {url.host}\r\nContent-Type: application/json\r\n" ++
    s!"Content-Length: {body.utf8ByteSize}\r\n\r\n{body}"

/-- What follows the first blank line. -/
def bodyOf : List Char → List Char
  | '\r' :: '\n' :: '\r' :: '\n' :: rest => rest
  | _ :: rest => bodyOf rest
  | [] => []

/-- The status that a reply begins with. -/
def statusOf? (reply : List Char) : Option Nat :=
  let code := ((reply.dropWhile (· ≠ ' ')).drop 1).takeWhile Char.isDigit
  if code.isEmpty then none else some (Text.valueOfDigits code)

/-- A reply that came over the wire. -/
def reply (text : String) : NodeReply :=
  match statusOf? text.toList with
  | none => .unreachable
  | some code =>
    if 200 ≤ code ∧ code < 300 then
      match Json.read? (String.ofList (bodyOf text.toList)) with
      | some json => .body json
      | none => .garbled
    else .status code

end LendingClient.Http
