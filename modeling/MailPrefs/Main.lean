import MailPrefs.CommandLine.Run
import MailPrefs.Http.Message
import Std.Async.DNS
import Std.Async.TCP

namespace MailPrefs.Program

open Std.Async Std.Net

def readFailure : IO.Error → ReadFailure
  | .noFileOrDirectory _ _ _ => .notFound
  | .inappropriateType _ code reason => byCode code reason
  | .illegalOperation code reason => byCode code reason
  | .invalidArgument _ code reason => byCode code reason
  | .permissionDenied _ code reason => byCode code reason
  | .resourceExhausted _ code reason => byCode code reason
  | e => .other (toString e)
where
  byCode (code : UInt32) (reason : String) : ReadFailure :=
    match code with
    | 20 => .notDirectory
    | 21 => .isDirectory
    | 36 => .nameTooLong
    | code => .other (reason ++ " (os error " ++ toString code ++ ")")

def readFile (path : String) : IO (Except ReadFailure String) := do
  if path.toList.contains '\x00' then return .error .zeroInName
  try
    let bytes ← IO.FS.readBinFile path
    return (String.fromUTF8? bytes).elim (.error .notText) .ok
  catch e => return .error (readFailure e)

abbrev FilesRead := List (String × Except ReadFailure String)

def knowing (i : Invocation) (files : FilesRead) : Invocation :=
  { i with read := fun path => (files.lookup path).getD (.error .notFound) }

/-- Reads all files that a run needs; which ones, the files that are read already tell. -/
def withFiles (invocation : Invocation) : Nat → FilesRead → IO Invocation
  | 0, files => return knowing invocation files
  | n + 1, files => do
    let i := knowing invocation files
    match i.paths.find? fun path => (files.lookup path).isNone with
    | none => return i
    | some path => withFiles invocation n (files ++ [(path, ← readFile path)])

def socketAddresses (u : Url) : Async (List SocketAddress) := do
  let port := UInt16.ofNat u.effectivePort
  let name :=
    match u.host with
    | .ipv6 a => a.text
    | host => host.text
  let found ← DNS.getAddrInfo name (toString u.effectivePort)
  return found.toList.map fun
    | .v4 a => .v4 ⟨a, port⟩
    | .v6 a => .v6 ⟨a, port⟩

partial def receive (socket : TCP.Socket.Client) (received : ByteArray) : Async ByteArray := do
  match ← socket.recv? 65536 with
  | some bytes => if bytes.isEmpty then return received else receive socket (received ++ bytes)
  | none => return received

def exchange (r : HttpRequest) (address : SocketAddress) : Async (Option HttpResponse) := do
  let socket ← TCP.Socket.Client.mk
  socket.connect address
  socket.sendAll #[r.message.toUTF8]
  return HttpResponse.ofBytes? (← receive socket .empty).toList

def exchangeFirst (r : HttpRequest) : List SocketAddress → Async (Option HttpResponse)
  | [] => return none
  | address :: others => do
    try exchange r address
    catch _ => exchangeFirst r others

/-- The response to a request in plain text; a secure connection cannot be made. -/
def fetch (r : HttpRequest) : IO (Option HttpResponse) := do
  if r.url.scheme = .https then return none
  try Async.block do exchangeFirst r (← socketAddresses r.url)
  catch _ => return none

def send (r : HttpRequest) : IO Arrival := do
  let start ← IO.monoMsNow
  let response ← fetch r
  return { delay := (← IO.monoMsNow) - start + 1, response }

end MailPrefs.Program

open MailPrefs Program in
def main (arguments : List String) : IO UInt32 := do
  let values ← Invocation.variableNames.mapM fun name => return (name, ← IO.getEnv name)
  let env := fun name => (values.lookup name).join
  let i ← withFiles { arguments, read := fun _ => .error .notFound, env } 2 []
  let outcome ← i.runOver send
  (← IO.getStdout).putStr (outcome.stdout i.logFilter)
  match outcome.ending with
  | .help => (← IO.getStdout).putStr Arguments.usage
  | .misuse => (← IO.getStderr).putStr Arguments.usage
  | _ => (← IO.getStderr).putStr outcome.stderr
  return .ofNat outcome.ending.exitCode
