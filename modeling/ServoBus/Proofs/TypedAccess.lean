import ServoBus.Proofs.TableAccess
import ServoBus.Registers.FieldWrite
import ServoBus.Table.Behaviour

/-!
# Typed access

Fields of every width and sign are a view of the same bytes. A run of writes, however they overlap,
leaves what it leaves in plain bytes, and a field reads the one number whose bytes are there. A
field that reaches past the last register is refused before anything happens: whatever stands behind
a table, it learns nothing of the access (`Behaviour.guarded`).

Main statement: `Registers.fields_view_plain_bytes`.
-/

namespace ServoBus

namespace Table

theorem lineRate?_rated (table : Table) (offset : UInt8) :
    (table.rated offset).lineRate? =
      if offset = Offset.baud then
        some (baudClock / ((table.registers.byteAt Offset.baud.toNat).toNat + 1))
      else table.lineRate? := by
  unfold rated
  split <;> rfl

end Table

namespace Behaviour

open Equipped

variable {State : Type}

/-- What access to fields comes to with a peripheral. It is turned to only if the field lies within
the table, and then whatever fails is its own doing. -/
structure Guarded (behaviour : Behaviour State) : Prop where
  refused : ∀ (start : Equipped State) (field : Field) (offset : UInt8),
    ¬offset.toNat + field.size ≤ start.table.length →
    let fault := Fault.fieldRange offset.toNat field.size start.table.length
    behaviour.read field offset start = .error fault start ∧
      ∀ value, behaviour.write field offset value start = .error fault start
  /-- A read hands out what stands in the field once the peripheral is done. -/
  read : ∀ (start : Equipped State) (field : Field) (offset : UInt8),
    offset.toNat + field.size ≤ start.table.length →
    (∀ fault later, behaviour.refresh offset start = .error fault later →
      behaviour.read field offset start = .error fault later) ∧
    ∀ later, behaviour.refresh offset start = .ok () later →
      offset.toNat + field.size ≤ later.table.length →
      ∃ value, behaviour.read field offset start = .ok value later ∧
        field.ReadsAs later.table.registers.bytes offset.toNat value
  /-- A write puts the number in and, but for the line at the baud register, leaves the rest to the
  peripheral. -/
  written : ∀ (start : Equipped State) (field : Field) (offset : UInt8) (value : Int),
    offset.toNat + field.size ≤ start.table.length →
    ∃ handed : Table,
      handed.registers.bytes =
        putNumber start.table.registers.bytes offset.toNat value field.size ∧
      handed.registers.persistentLength = start.table.registers.persistentLength ∧
      handed.peripheral = start.table.peripheral ∧ handed.storage = start.table.storage ∧
      handed.lineRate? =
        (if offset = Offset.baud then
          some (baudClock / ((handed.registers.byteAt Offset.baud.toNat).toNat + 1))
        else start.table.lineRate?) ∧
      behaviour.write field offset value start =
        behaviour.react offset { start with table := handed }

theorem read_of_not_le (behaviour : Behaviour State) {start : Equipped State} {field : Field}
    {offset : UInt8} (h : ¬offset.toNat + field.size ≤ start.table.length) :
    behaviour.read field offset start =
      .error (.fieldRange offset.toNat field.size start.table.length) start := by
  have hrange : onTable (Table.requireRange field offset) start =
      .error (.fieldRange offset.toNat field.size start.table.length) start :=
    onTable_of_error (Table.requireRange_of_not_le h)
  rw [read, bind_of_error hrange]

theorem write_of_not_le (behaviour : Behaviour State) {start : Equipped State} {field : Field}
    {offset : UInt8} (value : Int) (h : ¬offset.toNat + field.size ≤ start.table.length) :
    behaviour.write field offset value start =
      .error (.fieldRange offset.toNat field.size start.table.length) start := by
  have hwrite : onTable (Table.rawWrite field offset value) start =
      .error (.fieldRange offset.toNat field.size start.table.length) start :=
    onTable_of_error (Table.rawWrite_of_not_le value h)
  rw [write, bind_of_error hwrite]

theorem read_of_le (behaviour : Behaviour State) {start : Equipped State} {field : Field}
    {offset : UInt8} (h : offset.toNat + field.size ≤ start.table.length) :
    behaviour.read field offset start =
      (behaviour.refresh offset >>= fun _ => onTable (Table.rawRead field offset)) start := by
  have hrange : onTable (Table.requireRange field offset) start = .ok () start :=
    onTable_of_ok (Table.requireRange_run h)
  rw [read, bind_of_ok hrange]

theorem write_of_le (behaviour : Behaviour State) {start : Equipped State} {field : Field}
    {offset : UInt8} (value : Int) (h : offset.toNat + field.size ≤ start.table.length) :
    behaviour.write field offset value start =
      behaviour.react offset { start with
        table := (start.table.replace offset.toNat (field.encode value)).rated offset } := by
  let replaced := start.table.replace offset.toNat (field.encode value)
  have hwrite : onTable (Table.rawWrite field offset value) start =
      .ok () { start with table := replaced } := onTable_of_ok (Table.rawWrite_of_le value h)
  rw [write, bind_of_ok hwrite]
  by_cases hbaud : offset = Offset.baud
  · have hrate : Table.adoptRate replaced = .ok () (replaced.rated offset) := by
      rw [Table.rated, if_pos hbaud]
      rfl
    have hadopt : onTable Table.adoptRate { start with table := replaced } =
        .ok () { start with table := replaced.rated offset } := onTable_of_ok hrate
    rw [if_pos hbaud, bind_of_ok hadopt]
  · rw [if_neg hbaud, Table.rated, if_neg hbaud]

theorem guarded (behaviour : Behaviour State) : behaviour.Guarded where
  refused _ _ _ h := ⟨behaviour.read_of_not_le h, fun value => behaviour.write_of_not_le value h⟩
  read start field offset h := by
    rw [behaviour.read_of_le h]
    refine ⟨fun fault later hrefresh => bind_of_error hrefresh, ?_⟩
    intro later hrefresh hlater
    refine ⟨_, ?_, Field.readsAs_decode hlater⟩
    rw [bind_of_ok hrefresh]
    exact onTable_of_ok (Table.rawRead_of_le hlater)
  written start field offset value h := by
    let replaced := start.table.replace offset.toNat (field.encode value)
    refine ⟨replaced.rated offset, ?_, ?_, ?_, ?_, ?_, behaviour.write_of_le value h⟩
    · rw [Table.registers_rated]
      exact overwrite_encode value h
    · rw [Table.registers_rated]
      rfl
    · exact Table.peripheral_rated replaced offset
    · exact Table.storage_rated replaced offset
    · rw [Table.registers_rated]
      exact Table.lineRate?_rated replaced offset

end Behaviour

namespace Registers

/-- After any run of writes to fields, the bytes of registers are what the numbers make of plain
bytes, each put in byte by byte if it fits and left out if it does not; bytes that no number covers
stay, and the persistent ones are the first of these. A field within the registers reads the one
number that it can hold and whose bytes are there, and takes every number; a field that reaches past
them is refused. What was written is read back until another number is put over it. With a
peripheral of whatever kind behind the registers, and so with those that tables have, a refused
access changes nothing at all, and any other is as the peripheral makes it. -/
theorem fields_view_plain_bytes (registers : Registers) (writes : List FieldWrite) :
    let after := registers.writtenAll writes
    let plain := FieldWrite.putAll registers.bytes writes
    (after.bytes = plain ∧ plain.length = registers.length ∧
      after.persistentLength = registers.persistentLength ∧
      after.persistent = plain.take registers.persistentLength) ∧
    (∀ index, (∀ write ∈ writes, write.limit ≤ registers.length → ¬write.Covers index) →
      plain[index]? = registers.bytes[index]?) ∧
    (∀ (field : Field) (offset : UInt8), offset.toNat + field.size ≤ registers.length →
      (∃ value, after.read field offset = .ok value) ∧
      (∀ value, after.read field offset = .ok value ↔ field.ReadsAs plain offset.toNat value) ∧
      ∀ value, ∃ next, after.write field offset value = .ok next ∧
        next.bytes = putNumber plain offset.toNat value field.size) ∧
    (∀ (field : Field) (offset : UInt8), ¬offset.toNat + field.size ≤ registers.length →
      let fault := Fault.fieldRange offset.toNat field.size registers.length
      after.read field offset = .error fault ∧
      ∀ value, after.write field offset value = .error fault) ∧
    (∀ earlier write later, writes = earlier ++ write :: later →
      write.limit ≤ registers.length →
      (∀ next ∈ later, next.limit ≤ registers.length → ¬next.Overlaps write) →
      after.read write.field write.offset = .ok write.value) ∧
    ∀ State : Type,
      (∀ field offset, (Behaviour.own.read field offset : EquippedM State Int) =
        Equipped.onTable (Table.read field offset)) ∧
      (∀ field offset value, (Behaviour.own.write field offset value : EquippedM State Unit) =
        Equipped.onTable (Table.write field offset value)) ∧
      ∀ behaviour : Behaviour State, behaviour.Guarded := by
  intro after plain
  have hbytes : after.bytes = plain := bytes_writtenAll registers writes
  have hplain : plain.length = registers.length := FieldWrite.length_putAll registers.bytes writes
  have hlength : after.length = registers.length := by
    rw [length, hbytes, hplain]
  have hpersistent : after.persistentLength = registers.persistentLength :=
    persistentLength_writtenAll registers writes
  have hreads : ∀ {field : Field} {offset : UInt8} {value : Int},
      after.read field offset = .ok value ↔ field.ReadsAs plain offset.toNat value := by
    intro field offset value
    rw [read_eq_ok_iff, hbytes]
  refine ⟨⟨hbytes, hplain, hpersistent, ?_⟩, ?_, ?_, ?_, ?_, ?_⟩
  · rw [persistent, hbytes, hpersistent]
  · intro index huncovered
    exact FieldWrite.getElem?_putAll_of_not_covers huncovered
  · intro field offset hfit
    rw [← hlength] at hfit
    refine ⟨⟨_, read_of_le hfit⟩, fun value => hreads, ?_⟩
    intro value
    refine ⟨_, write_of_le value hfit, ?_⟩
    rw [← hbytes]
    exact overwrite_encode value hfit
  · intro field offset hfit
    rw [← hlength] at hfit ⊢
    exact ⟨read_of_not_le hfit, fun value => write_of_not_le value hfit⟩
  · rintro earlier write later rfl hfit hstay
    exact hreads.mpr (FieldWrite.readsAs_putAll hfit hstay)
  · intro State
    exact ⟨Behaviour.read_own, Behaviour.write_own, Behaviour.guarded⟩

/-- The longest registers, written up to the last and across the end of the persistent ones by
numbers of five types, one of which does not fit; and a peripheral that counts, behind a table that
ends before the fourth register from the baud register on. -/
theorem fields_view_plain_bytes_at_the_end :
    let registers : Registers := {
      bytes := List.replicate 256 0
      persistentLength := 2
      length_le := Nat.le_of_eq List.length_replicate
      persistentLength_le := by rw [List.length_replicate]; decide }
    let border : FieldWrite := { field := .i16, offset := 1, value := -300 }
    let writes : List FieldWrite := [
      { field := .i32, offset := 252, value := -2 },
      border,
      { field := .u32, offset := 253, value := 7 },
      { field := .u16, offset := 254, value := 0x1234 },
      { field := .i8, offset := 255, value := -128 }]
    let after := registers.writtenAll writes
    let table : Table := {
      registers := {
        bytes := [12, 0, 1, 6, 1, 250, 7]
        persistentLength := 6
        length_le := by decide
        persistentLength_le := by decide }
      peripheral := .bare
      storage := .memory .empty
      returnDelay_lt := by decide }
    let counting : Behaviour Nat := {
      refresh := fun _ => modify fun equipped => { equipped with state := equipped.state + 1 }
      react := fun _ => modify fun equipped => { equipped with state := equipped.state + 1 } }
    (registers.writtenAll writes).bytes.drop 251 = [0, 0xFE, 0xFF, 0x34, 0x80] ∧
    after.persistent = [0, 0xD4] ∧
    (FieldWrite.putAll registers.bytes writes)[251]? = registers.bytes[251]? ∧
    after.read .i32 252 = .ok (-2144010242) ∧
    after.read .u16 255 = .error (.fieldRange 255 2 256) ∧
    (border.limit ≤ registers.length ∧ after.read .i16 1 = .ok (-300)) ∧
    counting.read .u32 4 ⟨table, 0⟩ = .error (.fieldRange 4 4 7) ⟨table, 0⟩ ∧
    counting.write .u32 4 0 ⟨table, 0⟩ = .error (.fieldRange 4 4 7) ⟨table, 0⟩ := by
  intro registers border writes after table counting
  obtain ⟨⟨hbytes, -, -, hpersistent⟩, hstay, hfits, hrefused, hback, htables⟩ :=
    fields_view_plain_bytes registers writes
  obtain ⟨hread, hwrite⟩ := ((htables Nat).2.2 counting).refused ⟨table, 0⟩ .u32 4 (by decide)
  have hlength : registers.length = 256 := List.length_replicate
  rw [hlength] at hfits hrefused hback
  refine ⟨?_, ?_, ?_, ?_, ?_, ⟨?_, ?_⟩, hread, hwrite 0⟩
  · rw [hbytes]
    decide +kernel
  · rw [hpersistent]
    decide +kernel
  · exact hstay 251 (by simp [writes, border, FieldWrite.Covers, FieldWrite.limit, Field.size])
  · exact ((hfits .i32 252 (by decide)).2.1 _).mpr ⟨by decide, by decide +kernel⟩
  · exact (hrefused .u16 255 (by decide)).1
  · rw [hlength]
    decide
  · refine hback [writes[0]] border (writes.drop 2) rfl (by decide) ?_
    simp [writes, border, FieldWrite.Overlaps, FieldWrite.limit, Field.size]

end Registers

end ServoBus
