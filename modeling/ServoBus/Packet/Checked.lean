import ServoBus.Packet.Assembly
import ServoBus.Packet.Wire
import ServoBus.Protocol

/-!
# Packets in bytes and buffers

The operations on a packet as a machine performs them that counts in bytes and keeps its data in
buffers: a sum that no byte holds is a fault, and so is an index past the end of a buffer. The sum
of a frame alone is meant modulo 256.

A `Use` is anything that the holder of a packet can do to it. `Packet.used` says what comes of it,
and `Packet.perform` performs it with every sum and every index checked.
-/

namespace ServoBus

/-- The sum of two bytes, if a byte can hold it. -/
def addBytes (left right : UInt8) : Except Fault UInt8 :=
  if left.toNat + right.toNat < 256 then .ok (left + right) else .error .offsetOverflow

/-- The byte at an index of a buffer. -/
def byteAt (bytes : Bytes) (index : Nat) : Except Fault UInt8 :=
  if h : index < bytes.length then .ok bytes[index] else .error (.badIndex bytes.length index)

/-- The bytes of a buffer before an index. -/
def bytesBefore (bytes : Bytes) (stop : Nat) : Except Fault Bytes :=
  if stop ≤ bytes.length then .ok (bytes.take stop) else .error (.badIndex bytes.length stop)

/-- A buffer and how many of its bytes are written. -/
structure Written where
  buffer : Bytes
  length : Nat
  deriving DecidableEq

namespace Written

/-- Writes one more byte. -/
def push (written : Written) (byte : UInt8) : Except Fault Written :=
  if written.length < written.buffer.length then
    .ok ⟨written.buffer.set written.length byte, written.length + 1⟩
  else .error (.badIndex written.buffer.length written.length)

/-- Writes bytes until the buffer is full; tells whether all of them were written. -/
def pushAll (written : Written) : Bytes → Except Fault (Written × Bool)
  | [] => .ok (written, true)
  | byte :: rest =>
      if written.buffer.length ≤ written.length then .ok (written, false)
      else do
        let longer ← written.push byte
        pushAll longer rest

end Written

namespace Packet

/-- The stored parameters, as a part of the storage. -/
def parametersChecked (packet : Packet) : Except Fault Bytes :=
  bytesBefore packet.storage (min packet.parameterCount packet.capacity)

def takeParameterChecked (packet : Packet) (byte : UInt8) : Except Fault Packet := do
  let stored ← if packet.taken < packet.capacity then packet.setStored packet.taken byte
    else .ok packet
  let taken ← addBytes (UInt8.ofNat packet.taken) 1
  .ok { stored with checksum := packet.checksum + byte, taken := taken.toNat }

/-- Only a parameter byte moves the index and goes into the storage. -/
def acceptChecked (packet : Packet) (byte : UInt8) : Except Fault (Packet × ParseStatus) :=
  if packet.state = .inBody ∧ packet.taken < packet.parameterCount then do
    let longer ← packet.takeParameterChecked byte
    .ok (longer, .incomplete)
  else .ok (packet.accept byte)

/-- Stores bytes one after another, from an index on. -/
def storeFrom (packet : Packet) (index : Nat) : Bytes → Except Fault Packet
  | [] => .ok packet
  | byte :: rest => do
      let stored ← packet.setStored index byte
      storeFrom stored (index + 1) rest

def setParameterCountChecked (packet : Packet) (count : Nat) : Except Fault Packet := do
  let length ← addBytes 2 (UInt8.ofNat (min count packet.capacity))
  .ok { packet with length }

def setParametersChecked (packet : Packet) (data : Bytes) : Except Fault Packet := do
  let kept ← bytesBefore data (min data.length packet.capacity)
  let stored ← packet.storeFrom 0 kept
  stored.setParameterCountChecked data.length

def updateChecksumChecked (packet : Packet) : Except Fault Packet := do
  let parameters ← packet.parametersChecked
  .ok { packet with
    checksum := ServoBus.checksum packet.id packet.length packet.command parameters }

/-- Writes `count` parameters from an index on, until the storage or the buffer ends; tells whether
all of them were written. -/
def pushParameters (packet : Packet) (written : Written) (index : Nat) :
    Nat → Except Fault (Written × Bool)
  | 0 => .ok (written, true)
  | count + 1 =>
      if packet.capacity ≤ index ∨ written.buffer.length ≤ written.length then .ok (written, false)
      else do
        let byte ← byteAt packet.storage index
        let longer ← written.push byte
        packet.pushParameters longer (index + 1) count

def writeToChecked (packet : Packet) (buffer : Bytes) : Except Fault Written := do
  let headed ← (Written.mk buffer 0).pushAll packet.header
  if headed.2 then
    let filled ← packet.pushParameters headed.1 0 packet.parameterCount
    if filled.2 then
      let closed ← filled.1.pushAll [packet.checksum]
      .ok closed.1
    else .ok filled.1
  else .ok headed.1

/-- What the holder of a packet with storage for `capacity` parameters can do to it. -/
inductive Use (capacity : Nat) where
  | accept (byte : UInt8)
  | setId (id : Id)
  | setCommand (command : UInt8)
  | setFlags (flags : StatusFlags)
  | setParameters (data : Bytes)
  | setParameterCount (count : Nat)
  | setStored (index : Fin capacity) (byte : UInt8)
  | updateChecksum
  | writeTo (buffer : Bytes)
  | reset

variable {capacity : Nat}

namespace Use

/-- The byte that a use takes from the line. -/
def heard? : Use capacity → Option UInt8
  | accept byte => some byte
  | _ => none

/-- Whether a use leaves the fields to the frames that are read. -/
def leavesFields : Use capacity → Bool
  | accept _ | writeTo _ | reset => true
  | _ => false

end Use

/-- What comes of a use. -/
def used (packet : Packet) : Use capacity → Packet
  | .accept byte => (packet.accept byte).1
  | .setId id => { packet with id }
  | .setCommand command => { packet with command }
  | .setFlags flags => { packet with command := flags.byte }
  | .setParameters data => packet.setParameters data
  | .setParameterCount count => packet.setParameterCount count
  | .setStored index byte => { packet with
      storage := packet.storage.set index byte
      storage_le := by simpa using packet.storage_le }
  | .updateChecksum => packet.updateChecksum
  | .writeTo _ => packet
  | .reset => packet.reset

def usedAll (packet : Packet) (uses : List (Use capacity)) : Packet := uses.foldl used packet

/-- A use with its sums and indices checked. -/
def perform (packet : Packet) : Use capacity → Except Fault Packet
  | .accept byte => do
      let report ← packet.acceptChecked byte
      .ok report.1
  | .setId id => .ok { packet with id }
  | .setCommand command => .ok { packet with command }
  | .setFlags flags => .ok { packet with command := flags.byte }
  | .setParameters data => packet.setParametersChecked data
  | .setParameterCount count => packet.setParameterCountChecked count
  | .setStored index byte => packet.setStored index byte
  | .updateChecksum => packet.updateChecksumChecked
  | .writeTo buffer => do
      let _ ← packet.writeToChecked buffer
      .ok packet
  | .reset => .ok packet.reset

def performAll (packet : Packet) : List (Use capacity) → Except Fault Packet
  | [] => .ok packet
  | use :: uses => do
      let after ← packet.perform use
      performAll after uses

end Packet

end ServoBus
