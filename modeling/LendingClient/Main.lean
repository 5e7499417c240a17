import LendingClient.CommandLine.Environment
import LendingClient.CommandLine.Run
import LendingClient.Node.Basic
import LendingClient.Node.Http
import Std.Async.DNS
import Std.Async.Signal
import Std.Async.TCP
import Std.Time

/-!
# The command line

What the program asks of the system: its arguments and environment, the files of its settings and of
the signer's keys, the clock, random bytes, the node, and the user's wish to cancel. Everything else
is decided elsewhere.
-/

namespace LendingClient

open Std.Async Std.Net

/-- The addresses of a host. -/
def addressesOf (url : Http.Url) : IO (List SocketAddress) := do
  let addresses ← (DNS.getAddrInfo url.host "").block
  return addresses.toList.map fun
    | .v4 address => .v4 ⟨address, url.service⟩
    | .v6 address => .v6 ⟨address, url.service⟩

/-- Reads up to the end of a connection. -/
partial def receiveAll (socket : TCP.Socket.Client) (received : ByteArray) : IO ByteArray := do
  match ← (socket.recv? 65536).block with
  | some bytes => receiveAll socket (received ++ bytes)
  | none => return received

/-- Sends a text to an address and reads the answer. -/
def exchange (address : SocketAddress) (text : String) : IO ByteArray := do
  let socket ← TCP.Socket.Client.mk
  (socket.connect address).block
  (socket.send text.toUTF8).block
  receiveAll socket ByteArray.empty

/-- Posts a body to the first of some addresses that answers. -/
def exchangeFirst (text : String) : List SocketAddress → IO (Option ByteArray)
  | [] => return none
  | address :: addresses => do
    try return some (← exchange address text)
    catch _ => exchangeFirst text addresses

/-- Posts a request to a node. -/
def postTo (url : String) (count : Nat) (request : NodeRequest) : IO NodeReply := do
  match Http.Url.ofText? url with
  | none => return .unreachable
  | some url =>
    try
      let text := Http.post url (Http.envelope count request).compact
      match ← exchangeFirst text (← addressesOf url) with
      | none => return .unreachable
      | some bytes => return (String.fromUTF8? bytes).elim .garbled Http.reply
    catch _ => return .unreachable

/-- The seconds since 1970. -/
def secondsNow : IO Int64 := do
  let now ← Std.Time.Timestamp.now
  return Int64.ofInt now.toSecondsSinceUnixEpoch.val

/-- Thirty-two random bytes. -/
def randomSeed : IO (Octets 32) := do
  let bytes ← IO.getRandomBytes 32
  return (Octets.ofBytes? 32 bytes.toList).getD (Octets.filled 32 0)

/-- A node that is reached over the network. -/
def networkNode (url : String) (requests : IO.Ref Nat) : Node IO where
  url := url ++ (if url.endsWith "/" then "" else "/")
  commitment := .confirmed
  post request := do
    let count ← requests.modifyGet fun count => (count, count + 1)
    postTo url count request
  sleep millis := IO.sleep (UInt32.ofNat millis)
  clock := secondsNow
  freshSeed := randomSeed

/-- What ends when the user wishes to cancel; from now on the wish no longer ends the program. -/
def cancelWish (wish : IO.Ref (Option (AsyncTask Int))) : IO (AsyncTask Int) := do
  match ← wish.get with
  | some waiting => return waiting
  | none =>
    let waiting ← (← Signal.Waiter.mk .sigint false).wait
    wish.set (some waiting)
    return waiting

/-- Makes a call unless the wish to cancel comes first. -/
def raceCall (node : Node IO) (wish : IO.Ref (Option (AsyncTask Int))) (call : Call) :
    ExceptT Abort IO (Option call.Answer) := do
  let cancelled ← cancelWish wish
  if ← IO.hasFinished cancelled then return none
  let running ← IO.asTask (node.ask call).run
  match ← IO.waitAny [Task.map (fun _ => none) cancelled, Task.map some running] with
  | none => return none
  | some result => return some (← ExceptT.mk (IO.ofExcept result))

/-- The text of a file, or why it cannot be had. -/
def readText (path : String) : IO (Except FileFault String) := do
  try
    let bytes ← IO.FS.readBinFile path
    return (String.fromUTF8? bytes).elim (.error .noText) .ok
  catch
    | .noFileOrDirectory .. => return .error .missing
    | error => return .error (.other (toString error))

/-- The text of the settings file of this directory or of the nearest one above it. -/
def settingsText : (levels : Nat) → (directory : String) → IO String
  | 0, _ => return ""
  | levels + 1, directory => do
    match ← readText (directory ++ ".env") with
    | .ok text => return text
    | .error _ => settingsText levels (directory ++ "../")

/-- The words of a text that could be names of variables. -/
def wordsOf (text : String) : List String :=
  let spaced := text.toList.map fun c => if Environment.isNameChar c then c else ' '
  ((String.ofList spaced).splitOn " ").filter (!·.isEmpty)

/-- The variables that are set among some names. -/
def variablesOf : List String → IO Environment
  | [] => return {}
  | name :: names => do
    let rest ← variablesOf names
    match ← IO.getEnv name with
    | some value => return ⟨(name, value) :: rest.entries⟩
    | none => return rest

/-- Runs a command line. -/
def runWords (words : List String) : IO Exit := do
  let settings ← settingsText 64 ""
  let names := Invocation.level.choices.filterMap (·.fallback)
  let outside ← variablesOf ("HOME" :: names ++ wordsOf settings)
  let environment := outside.addFile settings
  match Invocation.read environment.value? words with
  | .error stop => return Exit.ofStop stop
  | .ok invocation =>
    let home := environment.value? "HOME"
    let pair := invocation.pair home (← readText (invocation.keyFile home))
    let node := networkNode invocation.nodeUrl (← IO.mkRef 0)
    let wish ← IO.mkRef none
    let handler : Handler IO := ⟨node.ask, raceCall node wish⟩
    return Exit.ofResult (← (Task.run handler (invocation.run pair).run).run)

end LendingClient

/-- Runs the program. -/
def main (words : List String) : IO UInt32 := do
  let exit ← LendingClient.runWords words
  IO.print exit.output
  IO.eprint exit.errors
  return exit.status.toUInt32
