import ServoBus.Bytes
import ServoBus.Error
import ServoBus.Protocol

/-!
# Packets

A frame on the line is two sync bytes, an id, a length, a command or a status byte, the
parameters and a checksum. The length counts the parameters and two bytes more.

A `Packet` holds one frame: its fields, storage for as many parameters as it was made for, and
how far the reading of the frame has come. A frame may declare more parameters than there is
storage; those in excess are counted and summed but not kept.
-/

namespace ServoBus

/-- The byte that opens a frame, sent twice. -/
def syncByte : UInt8 := 0xFF

def maxParameters : Nat := 253

def maxFrame : Nat := 6 + maxParameters

inductive ParserState where
  | idle
  | firstSync
  | secondSync
  | idRead
  | lengthRead
  | inBody
  deriving DecidableEq

inductive ParseStatus where
  | incomplete
  | complete
  | checksumMismatch (expected received : UInt8)
  | tooMuchData
  deriving DecidableEq

/-- Whether the byte ended a frame, well or badly. -/
def ParseStatus.isDone (status : ParseStatus) : Bool := status ≠ .incomplete

/-- The complement of the sum of everything in a frame between the sync bytes and the checksum. -/
def checksum (id : Id) (length command : UInt8) (parameters : Bytes) : UInt8 :=
  ~~~(id.byte + length + command + byteSum parameters)

/-- A length that is made for some number of parameters declares that many. -/
theorem declared_ofNat {count : Nat} (h : count ≤ maxParameters) :
    (UInt8.ofNat (2 + count)).toNat - 2 = count := by
  have hlt : 2 + count < 256 := by
    simp only [maxParameters] at h
    omega
  rw [UInt8.toNat_ofNat_of_lt' hlt, Nat.add_sub_cancel_left]

structure Packet where
  storage : Bytes
  state : ParserState := .idle
  id : Id := ⟨0⟩
  length : UInt8 := 2
  /-- The command of a request, the status flags of a reply. -/
  command : UInt8 := Instruction.ping.code
  taken : Nat := 0
  /-- The running sum while a frame is read, its checksum byte otherwise. -/
  checksum : UInt8 := 0
  storage_le : storage.length ≤ maxParameters
  deriving DecidableEq

namespace Packet

/-- A packet in its first state over the given storage, which a frame must be able to fill. -/
def ofStorage (storage : Bytes) : Except Fault Packet :=
  if h : storage.length ≤ maxParameters then .ok { storage, storage_le := h }
  else .error (.packetCapacity storage.length)

theorem ofStorage_of_le {storage : Bytes} (h : storage.length ≤ maxParameters) :
    ofStorage storage = .ok { storage, storage_le := h } := dif_pos h

/-- A packet in its first state with room for the parameters of any frame. -/
def roomy : Packet :=
  { storage := List.replicate maxParameters 0, storage_le := by simp }

def capacity (packet : Packet) : Nat := packet.storage.length

theorem capacity_le (packet : Packet) : packet.capacity ≤ maxParameters := packet.storage_le

/-- The parameters that the length declares; lengths below two declare none. -/
def parameterCount (packet : Packet) : Nat := packet.length.toNat - 2

/-- The parameters that are both declared and stored. -/
def parameters (packet : Packet) : Bytes := packet.storage.take packet.parameterCount

/-- The status flags of a reply stand where a request has its command. -/
def flags (packet : Packet) : StatusFlags := ⟨packet.command⟩

def frameLength (packet : Packet) : Nat := 6 + packet.parameterCount

/-- Declares `count` parameters, or as many as there is storage for. -/
def setParameterCount (packet : Packet) (count : Nat) : Packet :=
  { packet with length := UInt8.ofNat (2 + min count packet.capacity) }

/-- Stores and declares the given parameters, or as many of them as there is storage for. -/
def setParameters (packet : Packet) (data : Bytes) : Packet :=
  { packet with
    storage := overwrite packet.storage 0 data
    length := UInt8.ofNat (2 + min data.length packet.capacity)
    storage_le := by simpa using packet.storage_le }

/-- Writes one byte of the storage, declared as a parameter or not. -/
def setStored (packet : Packet) (index : Nat) (byte : UInt8) : Except Fault Packet :=
  if index < packet.capacity then
    .ok { packet with
      storage := packet.storage.set index byte
      storage_le := by simpa using packet.storage_le }
  else .error (.badIndex packet.capacity index)

def updateChecksum (packet : Packet) : Packet :=
  { packet with
    checksum := ServoBus.checksum packet.id packet.length packet.command packet.parameters }

/-- Addresses a packet, gives it a command with parameters, and closes it by its checksum. -/
def fill (packet : Packet) (id : Id) (command : UInt8) (data : Bytes) : Packet :=
  ({ packet with id, command }.setParameters data).updateChecksum

/-- A frame may be given up at any point; its fields stay as they are. -/
def reset (packet : Packet) : Packet := { packet with state := .idle }

/-- The outcome of a frame for one who waits for it. -/
def outcome (packet : Packet) : ParseStatus → Except Error Unit
  | .incomplete => .error (.protocol .unfinishedFrame)
  | .complete => .ok ()
  | .checksumMismatch expected received => .error (.checksumMismatch expected received)
  | .tooMuchData => .error (.tooMuchData packet.parameterCount packet.capacity)

@[simp] theorem capacity_setParameters (packet : Packet) (data : Bytes) :
    (packet.setParameters data).capacity = packet.capacity := by
  simp [setParameters, capacity]

theorem parameterCount_le (packet : Packet) : packet.parameterCount ≤ maxParameters := by
  have hlength := packet.length.toNat_lt
  simp only [parameterCount, maxParameters]
  omega

theorem length_parameters (packet : Packet) :
    packet.parameters.length = min packet.parameterCount packet.capacity := by
  simp [parameters, capacity]

end Packet

end ServoBus
