import ServoBus.Station

/-!
# The bus master

A master sends requests to its audience and waits for one reply to each. An audience is whatever
hears the bytes that a master sends, and answers with bytes of its own before the master begins to
wait; on a line of stations each one hears every byte, in the order of the line.

Requests to everyone are not answered and not waited for. Whatever a request leads to, its outcome
is a value; only a buffer that no packet can have stops the master.

Time passes only while a master waits for a reply. It is counted in whole milliseconds, each wait
reads at the pace of its master, and no wait of a millisecond or more is too short for the longest
frame. On a line that is silent there is nothing to lose until the time is up, so how often the
master looks at it is not said.
-/

namespace ServoBus

structure Heard (A : Type) where
  replies : Bytes
  audience : A

class Audience (A : Type) where
  hear : A → Bytes → Heard A
  wait : A → Nat → A

namespace Station

/-- Lets the stations of a line hear bytes one after another. -/
def hearInOrder (bytes : Bytes) : List Station → Heard (List Station)
  | [] => ⟨[], []⟩
  | station :: others =>
      let station := station.hear bytes
      let heard := hearInOrder bytes others
      ⟨station.channel.outbox ++ heard.replies, station.collect :: heard.audience⟩

/-- A station never waits for the rest of a frame, so silence changes nothing. -/
instance : Audience (List Station) where
  hear stations bytes := hearInOrder bytes stations
  wait stations _ := stations

end Station

/-- How fast a master reads. -/
structure Pace where
  /-- The whole milliseconds of a wait that are over once so many bytes are read. -/
  elapsed : Nat → Nat
  /-- The longest frame is read in less than a millisecond. -/
  elapsed_of_lt : ∀ read < maxParameters + 6, elapsed read = 0

namespace Pace

/-- So many bytes are read in every millisecond. -/
def even (bytes : Nat) (h : maxParameters + 6 ≤ bytes) : Pace where
  elapsed read := read / bytes
  elapsed_of_lt _ hread := Nat.div_eq_of_lt (Nat.lt_of_lt_of_le hread h)

/-- Accepts bytes up to the end of the first frame, as long as the time is not up. The clock is
looked at before every byte, so a line that is never silent cannot put off the end of a wait. -/
def takeFrame (pace : Pace) (timeout : Nat) (packet : Packet) (read : Nat) :
    Bytes → Packet.Assembled
  | [] => ⟨packet, .incomplete, []⟩
  | byte :: rest =>
      if timeout ≤ pace.elapsed read then ⟨packet, .incomplete, byte :: rest⟩
      else
        let report := packet.accept byte
        if report.2 = .incomplete then pace.takeFrame timeout report.1 (read + 1) rest
        else ⟨report.1, report.2, rest⟩

end Pace

structure Master (A : Type) where
  audience : A
  /-- The master's end of the line: the replies not read yet and all that was sent. -/
  channel : Channel := {}
  /-- How long to wait for a reply, in milliseconds. -/
  timeout : Nat
  pace : Pace := .even 10000 (by decide)

abbrev MasterM (A : Type) := EStateM Fault (Master A)

structure Filled (α : Type) where
  outcome : Except Error α
  buffer : Bytes

structure Received where
  outcome : Except Error Unit
  packet : Packet

namespace Master

variable {A : Type} [Audience A]

/-- Sends bytes; the audience acts on them at once. -/
def transmit (bytes : Bytes) : MasterM A (Except Error Unit) := fun master =>
  match master.channel.send bytes with
  | (.error cause, channel) => .ok (.error cause) { master with channel }
  | (.ok (), channel) =>
      let heard := Audience.hear master.audience bytes
      .ok (.ok ()) { master with
        audience := heard.audience, channel := channel.arrive heard.replies }

def requestWire (id : Id) (command : UInt8) (parameters : Bytes) : Bytes :=
  (Packet.roomy.fill id command parameters).wire

def send (id : Id) (command : UInt8) (parameters : Bytes) : MasterM A (Except Error Unit) :=
  if maxParameters < parameters.length then
    pure (.error (.protocol (.longParameters parameters.length)))
  else transmit (requestWire id command parameters)

/-- Waits for the first frame on the line and reads it into a packet. The wait ends in vain if the
time is up before a byte is read; where bytes run out, the rest of the time is silence. -/
def receive (packet : Packet) : MasterM A Received := fun master =>
  let taken := master.pace.takeFrame master.timeout packet 0 master.channel.inbox
  let master := { master with channel := { master.channel with inbox := taken.rest } }
  if taken.status = .incomplete then
    .ok ⟨.error .timeout, taken.packet.reset⟩
      { master with audience := Audience.wait master.audience master.timeout }
  else .ok ⟨taken.packet.outcome taken.status, taken.packet⟩ master

/-- Judges a sound frame as the reply to a request; gives the count of its parameters. -/
def judge (id : Id) (packet : Packet) : Except Error Nat :=
  if packet.id ≠ id then .error (.protocol (.foreignReply packet.id id))
  else if packet.flags.isClear then .ok packet.parameterCount
  else .error (.device id packet.flags)

/-- Sends a request and waits for the reply, whose parameters go to the caller's buffer. -/
def transact (id : Id) (command : UInt8) (parameters buffer : Bytes) : MasterM A (Filled Nat) := do
  match ← send id command parameters with
  | .error cause => return ⟨.error cause, buffer⟩
  | .ok () =>
      if id.isBroadcast then return ⟨.ok 0, buffer⟩
      else
        match Packet.ofStorage buffer with
        | .error fault => throw fault
        | .ok packet =>
            let received ← receive packet
            return ⟨received.outcome.bind fun _ => judge id received.packet,
              received.packet.storage⟩

/-- A request whose reply has no parameters. -/
def request (id : Id) (instruction : Instruction) (parameters : Bytes) :
    MasterM A (Except Error Unit) := do
  let filled ← transact id instruction.code parameters []
  return filled.outcome.map fun _ => ()

def ping (id : Id) : MasterM A (Except Error Unit) := request id .ping []

def action (id : Id) : MasterM A (Except Error Unit) := request id .action []

def reset (id : Id) : MasterM A (Except Error Unit) := request id .reset []

/-- Reads as many registers as the buffer has bytes. -/
def read (id : Id) (offset : UInt8) (buffer : Bytes) : MasterM A (Filled Unit) :=
  if id.isBroadcast then pure ⟨.error (.protocol .broadcastRead), buffer⟩
  else if maxParameters < buffer.length then
    pure ⟨.error (.protocol (.longRead buffer.length)), buffer⟩
  else do
    let filled ← transact id Instruction.read.code [offset, UInt8.ofNat buffer.length] buffer
    let outcome := filled.outcome.bind fun received =>
      if received = buffer.length then .ok ()
      else .error (.protocol (.wrongCount buffer.length id received))
    return ⟨outcome, filled.buffer⟩

/-- Reads `count` registers as one number, the low byte first. -/
def readNumber (id : Id) (offset : UInt8) (count : Nat) : MasterM A (Except Error Nat) := do
  let filled ← read id offset (List.replicate count 0)
  return filled.outcome.map fun _ => littleEndianValue filled.buffer

/-- Writes registers, at once or when an action asks for it. -/
def writeWith (instruction : Instruction) (id : Id) (offset : UInt8) (data : Bytes) :
    MasterM A (Except Error Unit) :=
  if maxParameters < data.length + 1 then pure (.error (.protocol (.longWrite data.length)))
  else request id instruction (offset :: data)

def write (id : Id) (offset : UInt8) (data : Bytes) : MasterM A (Except Error Unit) :=
  writeWith .write id offset data

def regWrite (id : Id) (offset : UInt8) (data : Bytes) : MasterM A (Except Error Unit) :=
  writeWith .regWrite id offset data

/-- The entries of a write to many devices behind `used` parameters, or the first mistake. -/
def entryParameters (count : UInt8) : Nat → List (Id × Bytes) → Except Error Bytes
  | _, [] => .ok []
  | used, (id, data) :: rest =>
      if data.length ≠ count.toNat then
        .error (.protocol (.unevenEntry id data.length count.toNat))
      else if maxParameters < used + 1 + data.length then .error (.protocol .longEntries)
      else
        (entryParameters count (used + 1 + data.length) rest).map fun entries =>
          id.byte :: (data ++ entries)

/-- Writes the same registers of many devices, each with data of its own. -/
def syncWrite (offset count : UInt8) (entries : List (Id × Bytes)) :
    MasterM A (Except Error Unit) :=
  match entryParameters count 2 entries with
  | .error cause => pure (.error cause)
  | .ok parameters =>
      send Id.broadcast Instruction.syncWrite.code (offset :: count :: parameters)

/-- Looks for devices; gives the ids of those that answer in any way. -/
def scan : List Id → MasterM A (Except Error (List Id))
  | [] => return .ok []
  | id :: rest => do
      if id.isReserved then scan rest
      else
        match ← ping id with
        | .ok () | .error (.device ..) => return (← scan rest).map (id :: ·)
        | .error .timeout => scan rest
        | .error cause => return .error cause

def setTimeout (milliseconds : Nat) : MasterM A Unit :=
  modify fun master => { master with timeout := milliseconds }

def pause (milliseconds : Nat) : MasterM A Unit :=
  modify fun master => { master with audience := Audience.wait master.audience milliseconds }

end Master

end ServoBus
