/-!
# What the bytes of a frame mean

Every frame names a device by its id byte; `0xFE` addresses every device at once, and `0xFF` would
read as one more sync byte. Seven values of the command byte are instructions that a device carries
out: `Instruction.ofByte?` reads exactly the codes that `Instruction.code` gives. In a reply the
same byte holds status flags, which tell what went wrong, one flag a bit.
-/

namespace ServoBus

structure Id where
  byte : UInt8
  deriving DecidableEq, Inhabited

namespace Id

/-- The address of every device at once. -/
def broadcast : Id := ⟨0xFE⟩

/-- The value that no frame can carry as an id. -/
def unusable : Id := ⟨0xFF⟩

def isBroadcast (id : Id) : Bool := id = broadcast

/-- Whether no single device may have this id. -/
def isReserved (id : Id) : Bool := id = broadcast || id = unusable

def text (id : Id) : String :=
  if id.isBroadcast then "BROADCAST" else toString id.byte.toNat

theorem not_isBroadcast_of_not_isReserved {id : Id} (h : ¬id.isReserved) : ¬id.isBroadcast := by
  intro hbroadcast
  apply h
  simp_all [isReserved, isBroadcast]

theorem ne_unusable_of_not_isReserved {id : Id} (h : ¬id.isReserved) : id ≠ unusable := by
  rintro rfl
  exact h rfl

end Id

inductive Instruction where
  | ping
  | read
  | write
  | regWrite
  | action
  | reset
  | syncWrite
  deriving DecidableEq

namespace Instruction

def code : Instruction → UInt8
  | ping => 0x01
  | read => 0x02
  | write => 0x03
  | regWrite => 0x04
  | action => 0x05
  | reset => 0x06
  | syncWrite => 0x83

def name : Instruction → String
  | ping => "PING"
  | read => "READ"
  | write => "WRITE"
  | regWrite => "REG_WRITE"
  | action => "ACTION"
  | reset => "RESET"
  | syncWrite => "SYNC_WRITE"

def all : List Instruction := [ping, read, write, regWrite, action, reset, syncWrite]

def ofByte? (byte : UInt8) : Option Instruction :=
  all.find? fun instruction => instruction.code = byte

theorem ofByte?_code (instruction : Instruction) : ofByte? instruction.code = some instruction := by
  cases instruction <;> rfl

theorem code_of_ofByte? {byte : UInt8} {instruction : Instruction}
    (h : ofByte? byte = some instruction) : instruction.code = byte := by
  simpa using List.find?_some h

end Instruction

/-- The name of a command byte; bytes that ask for nothing share one. -/
def commandName (byte : UInt8) : String :=
  (Instruction.ofByte? byte).elim "???" Instruction.name

structure StatusFlags where
  byte : UInt8
  deriving DecidableEq, Inhabited

namespace StatusFlags

def noError : StatusFlags := ⟨0x00⟩

/-- The parameters name registers that the device does not have. -/
def rangeError : StatusFlags := ⟨0x08⟩

/-- The checksum of the received frame was wrong. -/
def checksumError : StatusFlags := ⟨0x10⟩

/-- The command is unknown, or lacks the parameters it needs. -/
def instructionError : StatusFlags := ⟨0x40⟩

/-- The names of the flags, from the lowest bit to the highest. -/
def names : List String :=
  ["InputVoltage", "AngleLimit", "Overheating", "Range", "Checksum", "Overload", "Instruction",
    "Reserved"]

def isClear (flags : StatusFlags) : Bool := flags = noError

theorem isClear_iff (flags : StatusFlags) : flags.isClear ↔ flags.byte = 0 := by
  cases flags
  simp [isClear, noError]

/-- Whether every flag of `wanted` is set. -/
def contains (flags wanted : StatusFlags) : Bool := flags.byte &&& wanted.byte = wanted.byte

def union (a b : StatusFlags) : StatusFlags := ⟨a.byte ||| b.byte⟩

/-- The names of the flags that are set, from the lowest bit to the highest. -/
def setNames (flags : StatusFlags) : List String :=
  (names.zipIdx.filter fun entry => flags.byte.toNat.testBit entry.2).map Prod.fst

def text (flags : StatusFlags) : String :=
  if flags.isClear then "None" else " ".intercalate flags.setNames

end StatusFlags

end ServoBus
