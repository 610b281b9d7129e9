import ServoBus.Error
import ServoBus.Registers.Field

/-!
# Registers

The bytes of a control table, at most 256 of them, so that one byte numbers them all. The first
ones are persistent: they are what storage keeps.
-/

namespace ServoBus

def maxRegisters : Nat := 256

structure Registers where
  bytes : Bytes
  /-- How many registers, from the first on, storage keeps. -/
  persistentLength : Nat
  length_le : bytes.length ≤ maxRegisters
  persistentLength_le : persistentLength ≤ bytes.length
  deriving DecidableEq

namespace Registers

/-- Registers that are all zero. Too long a table is reported before too long a persistent part. -/
def create (length persistent : Nat) : Except Fault Registers :=
  if hl : length ≤ maxRegisters then
    if hp : persistent ≤ length then
      .ok {
        bytes := List.replicate length 0
        persistentLength := persistent
        length_le := by simpa using hl
        persistentLength_le := by simpa using hp }
    else .error (.persistentLength persistent length)
  else .error (.tableLength length)

def length (registers : Registers) : Nat := registers.bytes.length

/-- The register of the given number, zero past the end. -/
def byteAt (registers : Registers) (index : Nat) : UInt8 := registers.bytes.getD index 0

def persistent (registers : Registers) : Bytes :=
  registers.bytes.take registers.persistentLength

/-- The indices, the last one excluded, of a field that lies within the registers. -/
def fieldRange (registers : Registers) (field : Field) (offset : UInt8) :
    Except Fault (Nat × Nat) :=
  if offset.toNat + field.size ≤ registers.length then
    .ok (offset.toNat, offset.toNat + field.size)
  else .error (.fieldRange offset.toNat field.size registers.length)

/-- Replaces registers from one on, as far as there are any. -/
def replace (registers : Registers) (start : Nat) (data : Bytes) : Registers :=
  { registers with
    bytes := overwrite registers.bytes start data
    length_le := by simpa using registers.length_le
    persistentLength_le := by simpa using registers.persistentLength_le }

def read (registers : Registers) (field : Field) (offset : UInt8) : Except Fault Int :=
  (registers.fieldRange field offset).map fun range =>
    field.decode (slice registers.bytes range.1 field.size)

def write (registers : Registers) (field : Field) (offset : UInt8) (value : Int) :
    Except Fault Registers :=
  (registers.fieldRange field offset).map fun range =>
    registers.replace range.1 (field.encode value)

def clear (registers : Registers) : Registers :=
  registers.replace 0 (List.replicate registers.length 0)

/-- Sets every persistent register to one value. -/
def fillPersistent (registers : Registers) (value : UInt8) : Registers :=
  registers.replace 0 (List.replicate registers.persistentLength value)

@[simp] theorem length_replace (registers : Registers) (start : Nat) (data : Bytes) :
    (registers.replace start data).length = registers.length := by
  simp [replace, length]

@[simp] theorem persistentLength_replace (registers : Registers) (start : Nat) (data : Bytes) :
    (registers.replace start data).persistentLength = registers.persistentLength := rfl

theorem byteAt_replace (registers : Registers) (start : Nat) (data : Bytes) {index : Nat}
    (h : index < registers.length) :
    (registers.replace start data).byteAt index =
      if start ≤ index then (data[index - start]?).getD (registers.byteAt index)
      else registers.byteAt index := by
  have hbytes : registers.bytes[index]? = some (registers.byteAt index) := by
    have hlt : index < registers.bytes.length := h
    simp [byteAt, hlt]
  rw [byteAt, List.getD_eq_getElem?_getD]
  change (overwrite registers.bytes start data)[index]?.getD 0 = _
  rw [getElem?_overwrite, hbytes]
  rfl

/-! ## Access to a field, within the registers and past them -/

theorem fieldRange_of_le {registers : Registers} {field : Field} {offset : UInt8}
    (h : offset.toNat + field.size ≤ registers.length) :
    registers.fieldRange field offset = .ok (offset.toNat, offset.toNat + field.size) := if_pos h

theorem fieldRange_of_not_le {registers : Registers} {field : Field} {offset : UInt8}
    (h : ¬offset.toNat + field.size ≤ registers.length) :
    registers.fieldRange field offset =
      .error (.fieldRange offset.toNat field.size registers.length) := if_neg h

theorem read_of_le {registers : Registers} {field : Field} {offset : UInt8}
    (h : offset.toNat + field.size ≤ registers.length) :
    registers.read field offset =
      .ok (field.decode (slice registers.bytes offset.toNat field.size)) := by
  rw [read, fieldRange_of_le h]
  rfl

theorem read_of_not_le {registers : Registers} {field : Field} {offset : UInt8}
    (h : ¬offset.toNat + field.size ≤ registers.length) :
    registers.read field offset =
      .error (.fieldRange offset.toNat field.size registers.length) := by
  rw [read, fieldRange_of_not_le h]
  rfl

theorem write_of_le {registers : Registers} {field : Field} {offset : UInt8} (value : Int)
    (h : offset.toNat + field.size ≤ registers.length) :
    registers.write field offset value =
      .ok (registers.replace offset.toNat (field.encode value)) := by
  rw [write, fieldRange_of_le h]
  rfl

theorem write_of_not_le {registers : Registers} {field : Field} {offset : UInt8} (value : Int)
    (h : ¬offset.toNat + field.size ≤ registers.length) :
    registers.write field offset value =
      .error (.fieldRange offset.toNat field.size registers.length) := by
  rw [write, fieldRange_of_not_le h]
  rfl

/-! ## Text -/

/-- Shows registers for a reader: every byte in decimal, then how many are persistent. -/
def describe (registers : Registers) : String :=
  let shown := ", ".intercalate (registers.bytes.map fun byte => toString byte.toNat)
  "Registers \x7b bytes: [" ++ shown ++ "], num_persistent: " ++
    toString registers.persistentLength ++ " \x7d"

end Registers

end ServoBus
