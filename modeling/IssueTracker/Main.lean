import IssueTracker.CommandLine.Script
import IssueTracker.Http.Wire
import IssueTracker.Settings.Layers
import Std.Async.DNS
import Std.Async.TCP
import Std.Internal.UV.System
/-!
# The program

Reads the settings, carries messages over the network, and prints.
-/

open Std.Async Std.Net

namespace IssueTracker.CommandLine

/-! ## The network -/

/-- What comes back until the other side closes. -/
partial def receive (socket : TCP.Socket.Client) (acc : ByteArray) : Async ByteArray := do
  match ← socket.recv? 65536 with
  | some bytes => receive socket (acc ++ bytes)
  | none => return acc

/-- Sends a text to an address and waits for all that comes back. -/
def exchange (address : IPAddr) (port : UInt16) (text : String) : Async ByteArray := do
  let socket ← TCP.Socket.Client.mk
  socket.connect (match address with
    | .v4 addr => .v4 ⟨addr, port⟩
    | .v6 addr => .v6 ⟨addr, port⟩)
  socket.send text.toUTF8
  receive socket .empty

/-- Tries addresses in turn until one answers. -/
def exchangeAny (port : UInt16) (text : String) : List IPAddr → IO (Option ByteArray)
  | [] => return none
  | address :: rest => do
    try return some (← (exchange address port text).block)
    catch _ => exchangeAny port text rest

/-- Sends a message; there is no reply if the host cannot be reached in the open. -/
def deliver (m : Http.Message) : IO (Option Http.Reply) := do
  match m.url.authority with
  | none => return none
  | some authority =>
    if m.url.scheme ≠ "http".toList then return none
    let port := authority.port.getD 80
    let host := String.ofList (authority.host.filter fun c => c ≠ '[' && c ≠ ']')
    try
      let addresses ← (DNS.getAddrInfo host (toString port)).block
      let bytes ← exchangeAny port.toUInt16 m.text addresses.toList
      return bytes.bind fun bytes => Http.Reply.ofBytes? bytes.toList
    catch _ => return none

/-- The answer to a request. -/
def request (c : Connection) (r : Request) : IO Answer := do
  match c.message r with
  | .error e => return .error e
  | .ok m =>
    match ← deliver m with
    | some reply => return reply.answer
    | none => return .error .http

/-- Runs a program over a connection. -/
def runProgram {α : Type} (c : Connection) (report : Warning → IO Unit) :
    Program α → Option (List LinkType) → IO (Except TrackerError α)
  | .done result, _ => return result
  | .warn w rest, memory => do
    report w
    runProgram c report rest memory
  | .call r next, memory => do runProgram c report (next (← request c r)) memory
  | .consult next, memory => runProgram c report (next memory) memory
  | .remember types rest, _ => runProgram c report rest (some types)

/-! ## The surroundings -/

/-- The settings file of a name. -/
def readSettings : Option String → IO Settings.File
  | none => return .unnamed
  | some name => do
    try return .holding (← IO.FS.readFile name)
    catch _ => return .unreadable

/-- Where warnings go: into a file, or to the standard error output. -/
def openLog (traceFile : Option String) : IO (Warning → IO Unit) := do
  match traceFile with
  | none => return fun w => IO.eprintln ("WARN " ++ w.message)
  | some name =>
    let handle ← IO.FS.Handle.mk name .write
    return fun w =>
      handle.putStrLn (Json.ofMembers [("level", .str "WARN"), ("message", .str w.message)]).render

/-- Says why nothing more is done. -/
def complain (message : Option String) : IO UInt32 := do
  IO.eprintln ("Error: " ++ message.getD "the tracker, the settings or a document is unusable")
  return 1

/-- Carries out a command under some settings. -/
def carryOut (settings : Settings) (traceFile : Option String) (command : Command) : IO UInt32 := do
  let report ← openLog (traceFile.orElse fun _ => settings.log.traceFile)
  match openProject settings with
  | .error e => complain e.message?
  | .ok (connection, project) =>
    match ← runProgram connection report (command.program project) none with
    | .error e => complain e.message?
    | .ok ending =>
      ending.lines.forM IO.println
      match ending.failure with
      | none => return 0
      | some failure => complain failure.message?

end IssueTracker.CommandLine

open IssueTracker in
open CommandLine in
/-- The program. -/
def main (args : List String) : IO UInt32 := do
  match order? args with
  | none =>
    usage.forM IO.eprintln
    return misuseCode.toUInt32
  | some .help =>
    usage.forM IO.println
    return 0
  | some (.version name) =>
    IO.println (name ++ " " ++ programVersion)
    return 0
  | some (.run settingsFile command) =>
    let environment := (← Std.Internal.UV.System.osEnviron).toList
    match Settings.load (← readSettings settingsFile) environment with
    | .error e => complain e.message?
    | .ok settings =>
      try carryOut settings (environment.lookup "ISSUE_BRIDGE_TRACE_FILE") command
      catch e => complain (toString e)
