import ServoBus.Registers

/-!
# Writes of fields

What runs of field writes amount to, said of plain bytes. A number is put in byte by byte in two's
complement, the low byte first, and one that does not fit is not put in at all
(`FieldWrite.putAll`). What a field then reads is the one number that it can hold and whose bytes
are there (`Field.ReadsAs`).
-/

namespace ServoBus

/-- Bytes after the `count` low ones of a number were put in, one by one. -/
def putNumber (bytes : Bytes) (start : Nat) (value : Int) : Nat → Bytes
  | 0 => bytes
  | count + 1 => (putNumber bytes start value count).set (start + count) (placeByte value count)

@[simp] theorem length_putNumber (bytes : Bytes) (start : Nat) (value : Int) (count : Nat) :
    (putNumber bytes start value count).length = bytes.length := by
  induction count with
  | zero => rfl
  | succ count ih => rw [putNumber, List.length_set, ih]

theorem getElem?_putNumber {bytes : Bytes} {start count : Nat} (value : Int)
    (h : start + count ≤ bytes.length) (index : Nat) :
    (putNumber bytes start value count)[index]? =
      if start ≤ index ∧ index < start + count then some (placeByte value (index - start))
      else bytes[index]? := by
  induction count with
  | zero => rw [if_neg (by omega), putNumber]
  | succ count ih =>
      rw [putNumber, List.getElem?_set, length_putNumber, ih (by omega)]
      by_cases hlast : start + count = index
      · have hplace : index - start = count := by omega
        rw [if_pos hlast, if_pos (by omega), if_pos (by omega), hplace]
      · rw [if_neg hlast]
        by_cases hcovered : start ≤ index ∧ index < start + count
        · rw [if_pos hcovered, if_pos (by omega)]
        · rw [if_neg hcovered, if_neg (by omega)]

/-- To put in a number byte by byte is to replace the bytes of a field at once. -/
theorem overwrite_encode {bytes : Bytes} {start : Nat} {field : Field} (value : Int)
    (h : start + field.size ≤ bytes.length) :
    overwrite bytes start (field.encode value) = putNumber bytes start value field.size := by
  have hdata : start + (field.encode value).length ≤ bytes.length := by
    rw [Field.length_encode]
    exact h
  apply List.ext_getElem?
  intro index
  rw [getElem?_overwrite_of_le hdata, getElem?_putNumber value h, Field.length_encode]
  split
  · next hcovered => exact field.getElem?_encode value (by omega)
  · rfl

/-! ## What a field reads -/

namespace Field

/-- Bytes, from an index on, are those of a number that the field can hold. -/
structure ReadsAs (field : Field) (bytes : Bytes) (start : Nat) (value : Int) : Prop where
  holds : field.Holds value
  byte : ∀ place < field.size, bytes[start + place]? = some (placeByte value place)

/-- Where a number can be read there are bytes enough. -/
theorem ReadsAs.le_length {field : Field} {bytes : Bytes} {start : Nat} {value : Int}
    (h : field.ReadsAs bytes start value) : start + field.size ≤ bytes.length := by
  have hsize := field.size_pos
  obtain ⟨hlast, -⟩ := List.getElem?_eq_some_iff.mp (h.byte (field.size - 1) (by omega))
  omega

theorem ReadsAs.slice_eq {field : Field} {bytes : Bytes} {start : Nat} {value : Int}
    (h : field.ReadsAs bytes start value) :
    slice bytes start field.size = field.encode value := by
  apply List.ext_getElem?
  intro place
  by_cases hplace : place < field.size
  · rw [slice, List.getElem?_take_of_lt hplace, List.getElem?_drop, h.byte place hplace,
      field.getElem?_encode value hplace]
  · have hslice : (slice bytes start field.size).length ≤ place := by
      rw [slice, List.length_take]
      omega
    have hencode : (field.encode value).length ≤ place := by
      rw [length_encode]
      omega
    rw [List.getElem?_eq_none hslice, List.getElem?_eq_none hencode]

/-- A field can read whatever bytes there are. -/
theorem readsAs_decode {field : Field} {bytes : Bytes} {start : Nat}
    (h : start + field.size ≤ bytes.length) :
    field.ReadsAs bytes start (field.decode (slice bytes start field.size)) := by
  have hlength : (slice bytes start field.size).length = field.size := by
    rw [slice, List.length_take, List.length_drop]
    omega
  refine ⟨holds_decode hlength, ?_⟩
  intro place hplace
  have hbyte : (slice bytes start field.size)[place]? = bytes[start + place]? := by
    rw [slice, List.getElem?_take_of_lt hplace, List.getElem?_drop]
  rw [← hbyte, ← field.getElem?_encode _ hplace, encode_decode hlength]

/-- The bytes of a field determine the number. -/
theorem readsAs_iff {field : Field} {bytes : Bytes} {start : Nat} {value : Int}
    (h : start + field.size ≤ bytes.length) :
    field.ReadsAs bytes start value ↔ field.decode (slice bytes start field.size) = value := by
  constructor
  · intro hreads
    rw [hreads.slice_eq, decode_encode hreads.holds]
  · rintro rfl
    exact readsAs_decode h

/-- A number that was put in is what the field reads, as long as its bytes stay. -/
theorem readsAs_of_putNumber {field : Field} {bytes later : Bytes} {start : Nat} {value : Int}
    (hholds : field.Holds value) (hfit : start + field.size ≤ bytes.length)
    (hstay : ∀ index, start ≤ index → index < start + field.size →
      later[index]? = (putNumber bytes start value field.size)[index]?) :
    field.ReadsAs later start value := by
  refine ⟨hholds, ?_⟩
  intro place hplace
  rw [hstay _ (by omega) (by omega), getElem?_putNumber value hfit, if_pos (by omega),
    Nat.add_sub_cancel_left]

end Field

/-! ## Runs of writes -/

/-- A number for a field that can hold it, and the register where the field begins. -/
structure FieldWrite where
  field : Field
  offset : UInt8
  value : Int
  holds : field.Holds value := by decide

namespace FieldWrite

/-- The index behind the last register of the field. -/
def limit (write : FieldWrite) : Nat := write.offset.toNat + write.field.size

def Covers (write : FieldWrite) (index : Nat) : Prop :=
  write.offset.toNat ≤ index ∧ index < write.limit

/-- Whether two writes have a register in common. -/
def Overlaps (write other : FieldWrite) : Prop :=
  write.offset.toNat < other.limit ∧ other.offset.toNat < write.limit

/-- Bytes after a write, which leaves them as they are if it does not fit. -/
def put (bytes : Bytes) (write : FieldWrite) : Bytes :=
  if write.limit ≤ bytes.length then
    putNumber bytes write.offset.toNat write.value write.field.size
  else bytes

def putAll (bytes : Bytes) (writes : List FieldWrite) : Bytes := writes.foldl put bytes

@[simp] theorem length_put (bytes : Bytes) (write : FieldWrite) :
    (put bytes write).length = bytes.length := by
  unfold put
  split
  · rw [length_putNumber]
  · rfl

@[simp] theorem length_putAll (bytes : Bytes) (writes : List FieldWrite) :
    (putAll bytes writes).length = bytes.length := by
  induction writes generalizing bytes with
  | nil => rfl
  | cons write writes ih => exact (ih (put bytes write)).trans (length_put bytes write)

theorem getElem?_put_of_not_covers {bytes : Bytes} {write : FieldWrite} {index : Nat}
    (h : write.limit ≤ bytes.length → ¬write.Covers index) :
    (put bytes write)[index]? = bytes[index]? := by
  unfold put
  split
  · next hfit => exact (getElem?_putNumber write.value hfit index).trans (if_neg (h hfit))
  · rfl

/-- A byte that no write that fits covers stays as it is. -/
theorem getElem?_putAll_of_not_covers {bytes : Bytes} {writes : List FieldWrite} {index : Nat}
    (h : ∀ write ∈ writes, write.limit ≤ bytes.length → ¬write.Covers index) :
    (putAll bytes writes)[index]? = bytes[index]? := by
  induction writes generalizing bytes with
  | nil => rfl
  | cons write writes ih =>
      have hrest : (putAll (put bytes write) writes)[index]? = (put bytes write)[index]? := by
        apply ih
        intro next hnext
        rw [length_put]
        exact h next (List.mem_cons_of_mem write hnext)
      exact hrest.trans (getElem?_put_of_not_covers (h write List.mem_cons_self))

/-- What was written is read until another write that fits reaches into it. -/
theorem readsAs_putAll {bytes : Bytes} {earlier later : List FieldWrite} {write : FieldWrite}
    (hfit : write.limit ≤ bytes.length)
    (h : ∀ next ∈ later, next.limit ≤ bytes.length → ¬next.Overlaps write) :
    write.field.ReadsAs (putAll bytes (earlier ++ write :: later)) write.offset.toNat
      write.value := by
  let before := putAll bytes earlier
  have hlength : before.length = bytes.length := length_putAll bytes earlier
  have hroom : write.limit ≤ before.length := by
    rw [hlength]
    exact hfit
  have hrun : putAll bytes (earlier ++ write :: later) = putAll (put before write) later :=
    List.foldl_append ..
  have hput : put before write =
      putNumber before write.offset.toNat write.value write.field.size := if_pos hroom
  refine Field.readsAs_of_putNumber write.holds hroom ?_
  intro index hstart hlimit
  rw [hrun, hput]
  refine getElem?_putAll_of_not_covers fun next hnext hroomy hcovers => ?_
  rw [length_putNumber, hlength] at hroomy
  refine h next hnext hroomy ⟨?_, ?_⟩
  · exact Nat.lt_of_le_of_lt hcovers.1 hlimit
  · exact Nat.lt_of_le_of_lt hstart hcovers.2

end FieldWrite

/-! ## Registers -/

namespace Registers

theorem read_eq_ok_iff {registers : Registers} {field : Field} {offset : UInt8} {value : Int} :
    registers.read field offset = .ok value ↔
      field.ReadsAs registers.bytes offset.toNat value := by
  by_cases hfit : offset.toNat + field.size ≤ registers.length
  · rw [read_of_le hfit, Field.readsAs_iff hfit, Except.ok.injEq]
  · rw [read_of_not_le hfit]
    constructor
    · intro h
      cases h
    · intro h
      exact absurd h.le_length hfit

/-- The registers that a write leaves behind. One that meets a fault leaves them as they are. -/
def written (registers : Registers) (write : FieldWrite) : Registers :=
  match registers.write write.field write.offset write.value with
  | .ok after => after
  | .error _ => registers

def writtenAll (registers : Registers) (writes : List FieldWrite) : Registers :=
  writes.foldl written registers

theorem bytes_written (registers : Registers) (write : FieldWrite) :
    (registers.written write).bytes = write.put registers.bytes := by
  unfold written FieldWrite.put
  by_cases hfit : write.limit ≤ registers.bytes.length
  · rw [write_of_le write.value hfit, if_pos hfit]
    exact overwrite_encode write.value hfit
  · rw [write_of_not_le write.value hfit, if_neg hfit]

theorem persistentLength_written (registers : Registers) (write : FieldWrite) :
    (registers.written write).persistentLength = registers.persistentLength := by
  unfold written
  by_cases hfit : write.limit ≤ registers.length
  · rw [write_of_le write.value hfit]
    rfl
  · rw [write_of_not_le write.value hfit]

/-- A run of writes does to the registers what it does to plain bytes. -/
theorem bytes_writtenAll (registers : Registers) (writes : List FieldWrite) :
    (registers.writtenAll writes).bytes = FieldWrite.putAll registers.bytes writes := by
  induction writes generalizing registers with
  | nil => rfl
  | cons write writes ih =>
      refine (ih (registers.written write)).trans ?_
      rw [bytes_written]
      rfl

theorem persistentLength_writtenAll (registers : Registers) (writes : List FieldWrite) :
    (registers.writtenAll writes).persistentLength = registers.persistentLength := by
  induction writes generalizing registers with
  | nil => rfl
  | cons write writes ih =>
      exact (ih (registers.written write)).trans (persistentLength_written registers write)

end Registers

end ServoBus
