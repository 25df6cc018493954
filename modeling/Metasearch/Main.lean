import Metasearch.CommandLine.Help
import Metasearch.CommandLine.Reader
import Metasearch.CommandLine.Task
import Metasearch.Engine.Message
import Std.Async.DNS
import Std.Async.TCP
import Std.Async.Timer

set_option autoImplicit false

/-! # The program

The outer layer: it reads files, the environment and the standard input, sends messages and
prints. What is read, sent and printed is decided elsewhere.
-/

namespace Metasearch.Program

open CommandLine Std.Async

/-! ## Surroundings -/

/-- The content of a file, if it can be read. -/
def readFile? (name : String) : IO (Option ByteArray) := do
  try
    return some (← IO.FS.readBinFile name)
  catch _ => return none

/-- The variables of the environment. -/
def readVariables : IO Config.Environment.Variables := do
  match (← readFile? "/proc/self/environ").bind String.fromUTF8? with
  | none => return []
  | some text =>
    return ((Text.splitOn '\x00' text.toList).filter fun entry => !entry.isEmpty).map fun entry =>
      let name := entry.takeWhile (· ≠ '=')
      (String.ofList name, String.ofList (entry.drop (name.length + 1)))

/-- All of the standard input. -/
partial def readInput (input : IO.FS.Stream) (done : ByteArray) : IO ByteArray := do
  let more ← input.read 65536
  if more.isEmpty then return done
  readInput input (done ++ more)

/-- The tree of a folder, if it is one. Links are not followed inside. -/
partial def readFolder? (name : String) : IO (Option FileTree) := do
  let path := (← IO.currentDir) / name
  if !(← path.isDir) then return none
  let entries ← (← path.readDir).toList.filterMapM fun entry => do
    let child := name ++ "/" ++ entry.fileName
    match (← entry.path.symlinkMetadata).type with
    | .dir => return (← readFolder? child).map fun tree => (entry.fileName, tree)
    | .file => return (← readFile? child).map fun bytes => (entry.fileName, FileTree.file bytes)
    | _ => return none
  return some (.folder entries)

/-- The content of a configuration file in the current folder or the nearest one above it. -/
def readSettings? (name : String) : IO (Option ByteArray) := do
  let names := (← IO.currentDir).toString.splitOn "/"
  (List.range names.length).reverse.findSomeM? fun above =>
    readFile? ("/".intercalate (names.take (above + 1)) ++ "/" ++ name)

/-- Reads what an invocation can see. -/
def surroundingsOf (command : Command) : IO Surroundings := do
  let environment ← readVariables
  let settings ← (Config.fileNames environment).mapM fun name => do
    return (name, ← readSettings? name)
  let settings := fun name => (settings.lookup name).join
  let file ← match command.payloadFile? with
    | some name => readFile? name
    | none => pure none
  let folder ← match command.folder? (Config.load settings environment) with
    | some name => readFolder? name
    | none => pure none
  let input ← if command.readsInput then readInput (← IO.getStdin) ByteArray.empty
    else pure ByteArray.empty
  return ⟨environment, settings, fun _ => file, fun _ => folder, input⟩

/-! ## Messages -/

/-- What a socket receives until the other side closes. -/
partial def receive (socket : TCP.Socket.Client) (done : ByteArray) : Async ByteArray := do
  match ← socket.recv? 65536 with
  | some more => receive socket (done ++ more)
  | none => return done

/-- Sends a message and receives the answer. -/
def exchange (address : Address) (message : String) : Async ByteArray := do
  let hosts ← DNS.getAddrInfo address.host (toString address.port)
  let port := address.port.toUInt16
  match hosts[0]? with
  | none => throw (IO.userError "unknown host")
  | some host =>
    let socket ← TCP.Socket.Client.mk
    socket.connect (match host with
      | .v4 host => .v4 ⟨host, port⟩
      | .v6 host => .v6 ⟨host, port⟩)
    socket.send message.toUTF8
    receive socket ByteArray.empty

/-- The result of a call. Only open connections are made. -/
def ask (connection : Connection) (call : Call) : Async (Except Failure Json) := do
  match Address.ofText? (connection.baseUrl ++ call.path) with
  | none => return .error (.connection "not an address")
  | some address =>
    if address.secure then return .error (.connection "no encrypted connection can be made")
    try
      return Message.answer (← exchange address (Message.request connection address call))
    catch failure => return .error (.connection (toString failure))

/-- The result of a call that must come in time. -/
def askInTime (connection : Connection) (timeout : Nat) (call : Call) : Async (Timed Json) := do
  let start ← IO.monoMsNow
  let late : Async (Except Failure Json) := do
    sleep (.ofNat timeout)
    return .error (.connection "operation timed out")
  let result ← Async.race (ask connection call) late
  return ⟨(← IO.monoMsNow) - start, result⟩

/-- Makes all calls at once and waits for their results. -/
def askAll (connection : Connection) (timeout : Nat) (calls : List Call) :
    IO (List (Timed Json)) := do
  let running ← calls.mapM fun call => (askInTime connection timeout call).toIO
  running.mapM fun result => (await result : Async (Timed Json)).block

/-! ## Running -/

/-- Prints a text, or the fault for which there is none. -/
def finish : Except Fault String → IO UInt32
  | .ok text => do
    IO.print text
    return 0
  | .error fault => do
    IO.eprintln ("Error: " ++ fault.message)
    return 1

def run (invocation : Invocation) : IO UInt32 := do
  match invocation.task (← surroundingsOf invocation.command) with
  | .error fault => finish (.error fault)
  | .ok (.print value) => finish (.ok (printed value))
  | .ok (.search connection timeout outcome) =>
    let answers ← askAll connection timeout (callsOf outcome)
    finish (printedHits (outcome fun number _ =>
      answers[number]?.getD ⟨0, .error (.connection "no call was made")⟩))

end Metasearch.Program

open Metasearch CommandLine in
/-- Carries out a command line. A command that fails ends with 1, a command line that makes no
sense with 2. -/
def main (words : List String) : IO UInt32 := do
  match CommandLine.read words with
  | .ok invocation => Program.run invocation
  | .error (.help topic) =>
    IO.print topic.text
    return 0
  | .error (.misuse misuse) =>
    IO.eprintln ("error: " ++ misuse.message)
    return 2
