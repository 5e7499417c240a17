import LendingClient.Json.Decode
import LendingClient.Json.Writer
import LendingClient.Key

/-!
# Faults of a node

A node may be out of reach, answer with a failure of the transport, refuse the request, or answer
with something that is no answer to it. To the client all of these are one kind of error, and only
the words differ.
-/

namespace LendingClient

/-- Why a text is no signature. -/
inductive SignatureFault where
  | notBase58
  | wrongSize
deriving DecidableEq

/-- The fault in words. -/
def SignatureFault.message : SignatureFault → String
  | .notBase58 => "failed to decode string to signature"
  | .wrongSize => "string decoded to wrong size for signature"

/-- Why a node's answer cannot be used. -/
inductive NodeFault where
  /-- There is no connection. -/
  | unreachable (url : String)
  /-- The answer is no JSON. -/
  | garbled
  /-- The transport reports a failure. -/
  | status (code : Nat) (url : String)
  /-- The node refused the request; it may tell what the programs wrote down. -/
  | refused (code : Int) (reason : String) (logs : List String)
  /-- The node refused the request in a form that cannot be read. -/
  | unreadableRefusal (refusal : Json) (why : Json.Mismatch)
  /-- The answer has another form. -/
  | mismatch (why : Json.Mismatch)
  /-- The answer holds no block hash. -/
  | noBlockhash
  /-- The answer holds no signature. -/
  | noSignature (why : SignatureFault)
  /-- The answer names another transaction than the one that was sent. -/
  | otherSignature (received expected : Signature)
  /-- The answer about an account is null. -/
  | noAccount (address : Key)
  /-- A fault of an answer about an account. -/
  | ofAccount (address : Key) (why : NodeFault)

/-- What a status of the transport is called. -/
def statusName : Nat → String
  | 400 => "Bad Request"
  | 401 => "Unauthorized"
  | 402 => "Payment Required"
  | 403 => "Forbidden"
  | 404 => "Not Found"
  | 405 => "Method Not Allowed"
  | 406 => "Not Acceptable"
  | 407 => "Proxy Authentication Required"
  | 408 => "Request Timeout"
  | 409 => "Conflict"
  | 410 => "Gone"
  | 411 => "Length Required"
  | 412 => "Precondition Failed"
  | 413 => "Payload Too Large"
  | 414 => "URI Too Long"
  | 415 => "Unsupported Media Type"
  | 416 => "Range Not Satisfiable"
  | 417 => "Expectation Failed"
  | 418 => "I'm a teapot"
  | 421 => "Misdirected Request"
  | 422 => "Unprocessable Entity"
  | 423 => "Locked"
  | 424 => "Failed Dependency"
  | 425 => "Too Early"
  | 426 => "Upgrade Required"
  | 428 => "Precondition Required"
  | 429 => "Too Many Requests"
  | 431 => "Request Header Fields Too Large"
  | 451 => "Unavailable For Legal Reasons"
  | 500 => "Internal Server Error"
  | 501 => "Not Implemented"
  | 502 => "Bad Gateway"
  | 503 => "Service Unavailable"
  | 504 => "Gateway Timeout"
  | 505 => "HTTP Version Not Supported"
  | 506 => "Variant Also Negotiates"
  | 507 => "Insufficient Storage"
  | 508 => "Loop Detected"
  | 510 => "Not Extended"
  | 511 => "Network Authentication Required"
  | _ => "<unknown status code>"

/-- Log lines in words, each on a line of its own below their number. -/
def logLines (logs : List String) : String :=
  if logs.isEmpty then ""
  else s!"{logs.length} log messages:\n" ++ String.join (logs.map fun line => s!"  {line}\n")

/-- The fault in words. -/
def NodeFault.message : NodeFault → String
  | .unreachable url => s!"error sending request for url ({url})"
  | .garbled => "error decoding response body"
  | .status code url =>
    let side := if code < 500 then "client" else "server"
    s!"HTTP status {side} error ({code} {statusName code}) for url ({url})"
  | .refused code reason logs => s!"RPC response error {code}: {reason}; {logLines logs}"
  | .unreadableRefusal refusal why =>
    "RPC request error: Failed to deserialize RPC error response: " ++
      s!"{refusal.compact} [{why.message}]"
  | .mismatch why => why.message
  | .noBlockhash => "parse error: expected Hash"
  | .noSignature why => s!"parse error: expected {why.message}"
  | .otherSignature received expected =>
    "RPC request error: RPC node returned mismatched signature " ++
      s!"{received.text}, expected {expected.text}"
  | .noAccount address => s!"AccountNotFound: pubkey={address.text}"
  | .ofAccount address why => s!"AccountNotFound: pubkey={address.text}: {why.message}"

end LendingClient
