import ServoBus.Table.Basic

/-!
# Access to control tables

How a table is read and written from outside, started, stored and reset.

A read brings the register up to date first; a write is followed by what it sets off. Both know a
field by its first register, and nothing is set off for the others.
-/

namespace ServoBus

/-- The rate that the smallest divisor stands for, in bits a second. -/
def baudClock : Nat := 2000000

namespace Table

/-! ## The part of the peripheral -/

/-- Brings a register up to date that is about to be read. -/
def refresh (offset : UInt8) : TableM Unit := do
  match (← get).peripheral with
  | .bare => pure ()
  | .servo servo =>
      if offset = Offset.temperature then rawWrite .u8 offset servo.temperature.toNat
  | .probe probe =>
      let counts := probe.countedOffset? = some offset
      let count := if counts then probe.count + 1 else probe.count
      setPeripheral (.probe { probe with refreshed := probe.refreshed ++ [offset], count })
      if counts then rawWrite .u8 offset count.toNat

def react (offset : UInt8) : TableM Unit := do
  match (← get).peripheral with
  | .bare => pure ()
  | .servo servo =>
      if offset = Offset.led then
        let value ← rawRead .u8 Offset.led
        setPeripheral (.servo { servo with ledOn := value ≠ 0 })
  | .probe probe =>
      setPeripheral (.probe { probe with written := probe.written ++ [offset] })
      match probe.copy? with
      | none => pure ()
      | some (source, target) =>
          if offset = source then
            let value ← rawRead .u8 source
            rawWrite .u8 target value

def writeInitial : TableM Unit := do
  match (← get).peripheral with
  | .bare => pure ()
  | .servo servo =>
      rawWrite .u16 Offset.model 0x000C
      rawWrite .u8 Offset.version 1
      setPeripheral (.servo { servo with ledOn := false })
  | .probe probe => rawWriteAll probe.initial

/-! ## Reading and writing -/

def read (field : Field) (offset : UInt8) : TableM Int := do
  requireRange field offset
  refresh offset
  rawRead field offset

/-- Asks the line for the rate that the baud register stands for. -/
def adoptRate : TableM Unit :=
  modify fun table =>
    { table with
      lineRate? := some (baudClock / ((table.registers.byteAt Offset.baud.toNat).toNat + 1)) }

def write (field : Field) (offset : UInt8) (value : Int) : TableM Unit := do
  rawWrite field offset value
  if offset = Offset.baud then adoptRate
  react offset

def readByte (offset : UInt8) : TableM UInt8 := do
  return UInt8.ofNat (← read .u8 offset).toNat

def writeByte (offset value : UInt8) : TableM Unit := write .u8 offset value.toNat

/-! ## Start, storage and reset -/

/-- Gives every register the value that the device starts with. -/
def reset : TableM Unit := do
  clear
  writeByte Offset.id 0
  writeByte Offset.baud 1
  writeByte Offset.returnDelay 250
  writeInitial

/-- Fills the persistent registers from storage and the others with zeros, of which the peripheral
learns nothing. Where storage fails, the table is reset. -/
def load : TableM Unit := do
  clear
  let table ← get
  match table.storage.load 0 table.registers.persistentLength with
  | .ok data => modify fun table => table.replace 0 data
  | .error _ => reset

def save : TableM (Except StorageError Unit) := fun table =>
  match table.storage.save 0 table.registers.persistent with
  | .ok storage => .ok (.ok ()) { table with storage }
  | .error cause => .ok (.error cause) table

end Table

end ServoBus
