import ServoBus.Registers
import ServoBus.Storage

/-!
# Control tables

The registers of a device with what stands behind them, the storage that keeps the persistent
ones, and the rate last asked of the line. Behind the registers there is nothing, a simulated servo,
or a probe that shows from inside what a table does. When a table turns to its peripheral, and what
the peripheral then does to the registers, is said with access to the table.

Actions on a table may meet a fault. They then leave the table as far as they had come, so a table
comes out of every action, and `TableM` carries it through faults as well.
-/

namespace ServoBus

/-! ## Peripherals -/

/-- A servo without a motor: a temperature sensor and a lamp. -/
structure Servo where
  temperature : UInt8 := 25
  ledOn : Bool := false
  deriving DecidableEq

/-- A peripheral for looking at a table from inside. It has initial register values of its own, can
count how often one register is about to be read, can copy one register to another when it is
written, and keeps the offsets for which the table turned to it. -/
structure Probe where
  initial : List (UInt8 × Field × Int) := []
  countedOffset? : Option UInt8 := none
  count : UInt8 := 0
  /-- The register to copy from and the one to copy to. -/
  copy? : Option (UInt8 × UInt8) := none
  /-- The offsets that were about to be read. -/
  refreshed : List UInt8 := []
  /-- The offsets that were written. -/
  written : List UInt8 := []
  deriving DecidableEq

inductive Peripheral where
  | bare
  | servo (servo : Servo)
  | probe (probe : Probe)
  deriving DecidableEq

namespace Peripheral

/-- The peripheral once the offsets that a probe has kept are forgotten. -/
def forgetOffsets : Peripheral → Peripheral
  | probe p => probe { p with refreshed := [], written := [] }
  | other => other

def setTemperature (peripheral : Peripheral) (celsius : UInt8) : Peripheral :=
  match peripheral with
  | servo s => servo { s with temperature := celsius }
  | other => other

end Peripheral

/-! ## The registers with a meaning of their own -/

namespace Offset

def model : UInt8 := 0x00
def version : UInt8 := 0x02
def id : UInt8 := 0x03
def baud : UInt8 := 0x04
def returnDelay : UInt8 := 0x05
def led : UInt8 := 0x19
def temperature : UInt8 := 0x2B

end Offset

structure Table where
  registers : Registers
  peripheral : Peripheral
  storage : Storage
  /-- The rate last asked of the line, in bits a second. -/
  lineRate? : Option Nat := none
  /-- Every device has the registers up to the return delay. -/
  returnDelay_lt : Offset.returnDelay.toNat < registers.length
  deriving DecidableEq

/-- An action on a table, which leaves a table behind even where a fault stops it. -/
abbrev TableM := EStateM Fault Table

theorem Registers.length_of_create {length persistent : Nat} {registers : Registers}
    (h : Registers.create length persistent = .ok registers) : registers.length = length := by
  unfold Registers.create at h
  split at h
  · split at h
    · cases h
      simp [Registers.length]
    · cases h
  · cases h

namespace Table

/-- A table of zeros. Too short a table is reported before any other fault. -/
def create (length persistent : Nat) (peripheral : Peripheral) (storage : Storage) :
    Except Fault Table :=
  if hl : Offset.returnDelay.toNat < length then
    match hr : Registers.create length persistent with
    | .error fault => .error fault
    | .ok registers =>
        .ok {
          registers
          peripheral
          storage
          returnDelay_lt := by
            rw [Registers.length_of_create hr]
            exact hl }
  else .error (.baseFields length)

def length (table : Table) : Nat := table.registers.length

/-- Whether storage keeps the register of the given number. -/
def isPersistent (table : Table) (offset : UInt8) : Bool :=
  offset.toNat < table.registers.persistentLength

/-- Replaces registers from one on, and nothing else. -/
def replace (table : Table) (start : Nat) (data : Bytes) : Table :=
  { table with
    registers := table.registers.replace start data
    returnDelay_lt := by simpa using table.returnDelay_lt }

@[simp] theorem registers_replace (table : Table) (start : Nat) (data : Bytes) :
    (table.replace start data).registers = table.registers.replace start data := rfl

@[simp] theorem length_replace (table : Table) (start : Nat) (data : Bytes) :
    (table.replace start data).length = table.length := by
  simp [length]

/-! ## Raw access, of which the peripheral learns nothing -/

/-- Stops unless a field lies within the registers. -/
def requireRange (field : Field) (offset : UInt8) : TableM Unit := fun table =>
  match table.registers.fieldRange field offset with
  | .ok _ => .ok () table
  | .error fault => .error fault table

def rawRead (field : Field) (offset : UInt8) : TableM Int := fun table =>
  match table.registers.read field offset with
  | .ok value => .ok value table
  | .error fault => .error fault table

def rawWrite (field : Field) (offset : UInt8) (value : Int) : TableM Unit := do
  requireRange field offset
  modify fun table => table.replace offset.toNat (field.encode value)

/-- Raw writes in order, up to the first that does not fit. -/
def rawWriteAll : List (UInt8 × Field × Int) → TableM Unit
  | [] => pure ()
  | (offset, field, value) :: rest => do
      rawWrite field offset value
      rawWriteAll rest

def clear : TableM Unit :=
  modify fun table => table.replace 0 (List.replicate table.length 0)

def setPeripheral (peripheral : Peripheral) : TableM Unit :=
  modify fun table => { table with peripheral }

end Table

end ServoBus
