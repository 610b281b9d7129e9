import ServoBus.Packet.Wire
import ServoBus.Table.Access

/-!
# Devices

A device carries out the frames that are addressed to it or to everyone. It answers only those
addressed to it, under the id it had when the frame came.

A staged write waits until an action asks for it. Staging a write replaces the one that waits, and
nothing but an action takes it away.

A frame is handled in no time. What the register of the return delay asks for, a pause before each
reply, is not kept: it changes neither a reply nor what comes after it.
-/

namespace ServoBus

structure StagedWrite where
  start : UInt8
  data : Bytes
  deriving DecidableEq

structure Device where
  table : Table
  staged? : Option StagedWrite := none
  deriving DecidableEq

structure Answer where
  flags : StatusFlags
  data : Bytes := []
  deriving DecidableEq

structure Reply where
  id : Id
  answer : Answer
  deriving DecidableEq

def Reply.wire (reply : Reply) : Bytes :=
  (Packet.roomy.fill reply.id reply.answer.flags.byte reply.answer.data).wire

abbrev DeviceM := EStateM Fault Device

namespace Device

def id (device : Device) : Id := ⟨device.table.registers.byteAt Offset.id.toNat⟩

def onTable (action : TableM α) : DeviceM α := fun device =>
  match action device.table with
  | .ok value table => .ok value { device with table }
  | .error fault table => .error fault { device with table }

/-- The register `index` places behind another. -/
def registerAfter (start : UInt8) (index : Nat) : TableM UInt8 :=
  if start.toNat + index < 256 then pure (UInt8.ofNat (start.toNat + index))
  else throw .offsetOverflow

/-- Reads `count` registers one by one, beginning `index` places behind `start`. -/
def readFrom (start : UInt8) : Nat → Nat → TableM Bytes
  | _, 0 => pure []
  | index, count + 1 => do
      let offset ← registerAfter start index
      let byte ← Table.readByte offset
      let rest ← readFrom start (index + 1) count
      return byte :: rest

/-- Writes registers one by one, beginning `index` places behind `start`. -/
def writeFrom (start : UInt8) : Nat → Bytes → TableM Unit
  | _, [] => pure ()
  | index, byte :: rest => do
      let offset ← registerAfter start index
      Table.writeByte offset byte
      writeFrom start (index + 1) rest

/-- Stores the persistent registers; a device goes on when it cannot. -/
def saveTable : TableM Unit := do
  let _ ← Table.save
  return ()

/-- Writes registers, and stores the persistent ones if the first written is one of them. -/
def applyWrite (start : UInt8) (data : Bytes) : TableM Unit := do
  writeFrom start 0 data
  if (← get).isPersistent start then saveTable

/-- What a write asks for, or why it is refused. -/
def checkWrite (length : Nat) : Bytes → Except StatusFlags StagedWrite
  | start :: byte :: rest =>
      if start.toNat + (rest.length + 1) ≤ length then .ok ⟨start, byte :: rest⟩
      else .error .rangeError
  | _ => .error .instructionError

/-- Answers a read: the first register and how many of them. -/
def executeRead : Bytes → TableM Answer
  | start :: count :: _ => do
      if start.toNat + count.toNat ≤ (← get).length ∧ count.toNat ≤ maxParameters then
        return ⟨.noError, ← readFrom start 0 count.toNat⟩
      else return ⟨.rangeError, []⟩
  | _ => return ⟨.instructionError, []⟩

/-- The data of the first entry for an id, among whole entries of an id and `count` bytes. -/
def entryFor? (id : Id) (count : Nat) (entries : Bytes) : Option Bytes :=
  match entries with
  | [] => none
  | first :: rest =>
      if count ≤ rest.length then
        if first = id.byte then some (rest.take count)
        else entryFor? id count (rest.drop count)
      else none
termination_by entries.length
decreasing_by
  simp only [List.length_drop, List.length_cons]
  omega

/-- Carries out the entry of a write to many devices that is meant for this one. -/
def executeSyncWrite (id : Id) : Bytes → TableM Unit
  | start :: count :: entries => do
      if count ≠ 0 then
        match entryFor? id count.toNat entries with
        | none => return ()
        | some data =>
            if start.toNat + count.toNat ≤ (← get).length then applyWrite start data
  | _ => return ()

/-- Carries out a request. Only a write to many devices has no answer. -/
def execute (command : UInt8) (parameters : Bytes) : DeviceM (Option Answer) := do
  match Instruction.ofByte? command with
  | none => return some ⟨.instructionError, []⟩
  | some .ping => return some ⟨.noError, []⟩
  | some .read => return some (← onTable (executeRead parameters))
  | some .write =>
      match checkWrite (← get).table.length parameters with
      | .error flags => return some ⟨flags, []⟩
      | .ok request =>
          onTable (applyWrite request.start request.data)
          return some ⟨.noError, []⟩
  | some .regWrite =>
      match checkWrite (← get).table.length parameters with
      | .error flags => return some ⟨flags, []⟩
      | .ok request =>
          modify fun device => { device with staged? := some request }
          return some ⟨.noError, []⟩
  | some .action =>
      match (← get).staged? with
      | none => return some ⟨.noError, []⟩
      | some request =>
          modify fun device => { device with staged? := none }
          onTable (applyWrite request.start request.data)
          return some ⟨.noError, []⟩
  | some .reset =>
      onTable (do Table.reset; saveTable)
      return some ⟨.noError, []⟩
  | some .syncWrite =>
      onTable (executeSyncWrite (← get).id parameters)
      return none

/-- Acts on a packet whose reading ended with a status; gives the reply, if one is due. Frames for
others, unfinished ones and those with more parameters than there is storage change nothing. -/
def handle (packet : Packet) (status : ParseStatus) : DeviceM (Option Reply) := do
  let id := (← get).id
  if packet.id = id ∨ packet.id.isBroadcast then
    match status with
    | .incomplete | .tooMuchData => return none
    | .checksumMismatch _ _ =>
        return if packet.id = id then some ⟨id, ⟨.checksumError, []⟩⟩ else none
    | .complete =>
        let answer? ← execute packet.command packet.parameters
        return if packet.id = id then answer?.map fun answer => ⟨id, answer⟩ else none
  else return none

end Device

end ServoBus
