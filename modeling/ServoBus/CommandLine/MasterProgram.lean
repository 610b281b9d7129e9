import ServoBus.CommandLine.Options
import ServoBus.Service

/-!
# The bus master's command line

One request to the device of a service, named by a command: its words, and what is printed.
-/

namespace ServoBus.CommandLine

inductive Subcommand where
  | ping (id : Id)
  | read (id : Id) (offset count : UInt8)
  | write (id : Id) (offset : UInt8) (data : Bytes)
  | reset (id : Id)
  | scan (first last : Nat)
  deriving DecidableEq

structure MasterArguments where
  server : String
  replyTimeout? : Option Nat
  request : Subcommand

structure Output where
  exitCode : Nat
  stdout : String := ""
  stderr : String := ""
  deriving DecidableEq

namespace MasterArguments

def rules : Rules where
  options := [⟨"server", some 's', .text⟩, ⟨"timeout-ms", some 't', .milliseconds⟩]
  commands := ["ping", "read", "write", "reset", "scan", "help"]
  hasVersion := true

def commandRules (command : String) : Rules :=
  let number : ArgumentRule := { kind := .byte }
  match command with
  | "read" => { arguments := [number, number, number] }
  | "write" => { arguments := [number, number, { number with isRepeated := true }] }
  | "scan" =>
      let optional := { number with isRequired := false }
      { arguments := [optional, optional] }
  | _ => { arguments := [number] }

/-- The request that a command makes of the numbers behind it. -/
def request? (command : String) (numbers : List Nat) : Option Subcommand :=
  match command, numbers with
  | "ping", [id] => some (.ping ⟨UInt8.ofNat id⟩)
  | "reset", [id] => some (.reset ⟨UInt8.ofNat id⟩)
  | "read", [id, offset, count] =>
      some (.read ⟨UInt8.ofNat id⟩ (UInt8.ofNat offset) (UInt8.ofNat count))
  | "write", id :: offset :: data =>
      some (.write ⟨UInt8.ofNat id⟩ (UInt8.ofNat offset) (data.map UInt8.ofNat))
  | "scan", [] => some (.scan 0 253)
  | "scan", [first] => some (.scan first 253)
  | "scan", [first, last] => some (.scan first last)
  | _, _ => none

/-- Shows help for the program or for the one command named. -/
def help : List String → Stop
  | [] => .help
  | [command] => if rules.commands.contains command then .help else .misused
  | _ => .misused

/-- Reads the words of the program. A command's own words are checked before the options that
stand in front of it. -/
def parse (words : List String) : Except Stop MasterArguments :=
  match rules.read {} false words with
  | .error stop => .error stop
  | .ok (_, none) => .error .misused
  | .ok (parsed, some (command, rest)) =>
      if command = "help" then .error (help rest)
      else
        match (commandRules command).readAll rest with
        | .error stop => .error stop
        | .ok inner =>
            match parsed.resolve, request? command inner.numbers with
            | .ok parsed, some request =>
                .ok {
                  server := ((parsed.option? "server").bind Value.text?).getD "127.0.0.1:7000"
                  replyTimeout? := (parsed.option? "timeout-ms").bind Value.number?
                  request }
            | .error stop, _ => .error stop
            | _, none => .error .misused

/-- The settings of the master, if they are usable. -/
def config (arguments : MasterArguments) : Except Error Config :=
  match arguments.replyTimeout? with
  | none => ({} : Config).validated
  | some replyTimeout => ({ replyTimeout } : Config).validated

end MasterArguments

namespace Subcommand

def registerLine (number : Nat) (byte : UInt8) : String :=
  "0x" ++ Text.hex number ++ ": 0x" ++ Text.hex byte.toNat ++ " (" ++ toString byte.toNat ++ ")"

/-- The ids from one to another, none if the first is the greater. -/
def idsBetween (first last : Nat) : List Id :=
  (List.range' first (last + 1 - first)).map fun n => ⟨UInt8.ofNat n⟩

/-- Carries out a request; gives the lines to print. -/
def run {A : Type} [Audience A] : Subcommand → MasterM A (Except Error (List String))
  | ping id => do
      return (← Master.ping id).map fun _ => [s!"Device {id.byte.toNat} responded"]
  | read id offset count => do
      let filled ← Master.read id offset (List.replicate count.toNat 0)
      return filled.outcome.map fun _ =>
        filled.buffer.mapIdx fun index byte => registerLine (offset.toNat + index) byte
  | write id offset data => do
      return (← Master.write id offset data).map fun _ =>
        [s!"Wrote {data.length} byte(s) at 0x{Text.hex offset.toNat}"]
  | reset id => do
      return (← Master.reset id).map fun _ => [s!"Device {id.byte.toNat} reset"]
  | scan first last => do
      return (← Master.scan (idsBetween first last)).map fun found =>
        if found = [] then ["No devices found"]
        else found.map fun id => "Found device " ++ id.text

end Subcommand

/-- What is printed when reading the words ends early. Only the version has a text of its own. -/
def Output.ofStop (stop : Stop) : Output :=
  { exitCode := stop.exitCode, stdout := if stop = .version then "bioloid-cli 0.1.0\n" else "" }

/-- What is printed for an outcome. -/
def Output.ofOutcome : Except Error (List String) → Output
  | .ok lines => { exitCode := 0, stdout := String.join (lines.map (· ++ "\n")) }
  | .error cause => { exitCode := 1, stderr := "error: " ++ cause.message ++ "\n" }

/-- Runs the master's program against a service that a host reaches or not. Words that are not
understood and settings that are refused make no connection. -/
def runMaster (loopback : Loopback) (service : Service) (words : List String) :
    Except Fault (Output × Service) :=
  match MasterArguments.parse words with
  | .error stop => .ok (Output.ofStop stop, service)
  | .ok arguments =>
      match arguments.config, loopback.connect service.address.host with
      | .error cause, _ => .ok (Output.ofOutcome (.error cause), service)
      | .ok _, .error cause => .ok (Output.ofOutcome (.error cause), service)
      | .ok config, .ok () =>
          match service.dial config.replyTimeout with
          | .error fault => .error fault
          | .ok master =>
              match arguments.request.run master with
              | .error fault _ => .error fault
              | .ok outcome master => .ok (Output.ofOutcome outcome, service.close master.audience)

end ServoBus.CommandLine
