import ServoBus.Device
import ServoBus.Proofs.TableAccess

/-!
# Runs of registers

A device reads and writes many registers one by one. What stands behind the loops is said here: a
read gives what stands in the registers afterwards (`Device.readFrom_run`), a write puts its data
where it was told to (`Table.registers_applied`), and a restart ends in `Table.restarted`.
-/

namespace ServoBus

namespace Table

/-! ## Runs of registers -/

/-- The table once `count` registers from `start` on were read one by one. -/
def refreshedFrom (table : Table) (start : Nat) : Nat → Table
  | 0 => table
  | count + 1 => (table.refreshed (UInt8.ofNat start)).refreshedFrom (start + 1) count

/-- The table once registers from `start` on were written one by one. -/
def writtenFrom (table : Table) (start : Nat) : Bytes → Table
  | [] => table
  | value :: rest => (table.written (UInt8.ofNat start) value).writtenFrom (start + 1) rest

def saved (table : Table) : Table :=
  match table.storage.save 0 table.registers.persistent with
  | .ok storage => { table with storage }
  | .error _ => table

def applied (table : Table) (start : UInt8) (data : Bytes) : Table :=
  if table.isPersistent start then (table.writtenFrom start.toNat data).saved
  else table.writtenFrom start.toNat data

def initialised (table : Table) : Table :=
  match table.peripheral with
  | .servo servo =>
      { (table.replace Offset.model.toNat (Field.u16.encode 0x000C)).replace Offset.version.toNat
          (Field.u8.encode 1) with
        peripheral := .servo { servo with ledOn := false } }
  | .bare | .probe _ => table

/-- The table once every register has the value that the device starts with. -/
def restarted (table : Table) : Table :=
  ((((table.replace 0 (List.replicate table.length 0)).written Offset.id 0).written
    Offset.baud 1).written Offset.returnDelay 250).initialised

@[simp] theorem peripheral_refreshedFrom (table : Table) (start count : Nat) :
    (table.refreshedFrom start count).peripheral = table.peripheral := by
  induction count generalizing table start with
  | zero => rfl
  | succ count ih => simp [refreshedFrom, ih]

@[simp] theorem length_refreshedFrom (table : Table) (start count : Nat) :
    (table.refreshedFrom start count).length = table.length := by
  induction count generalizing table start with
  | zero => rfl
  | succ count ih => simp [refreshedFrom, ih]

@[simp] theorem persistentLength_refreshedFrom (table : Table) (start count : Nat) :
    (table.refreshedFrom start count).registers.persistentLength =
      table.registers.persistentLength := by
  induction count generalizing table start with
  | zero => rfl
  | succ count ih => simp [refreshedFrom, ih]

@[simp] theorem storage_refreshedFrom (table : Table) (start count : Nat) :
    (table.refreshedFrom start count).storage = table.storage := by
  induction count generalizing table start with
  | zero => rfl
  | succ count ih => simp [refreshedFrom, ih]

theorem length_le (table : Table) : table.length ≤ 256 := table.registers.length_le

theorem getElem?_refreshed_of_ne (table : Table) {offset : UInt8} {index : Nat}
    (h : index ≠ offset.toNat) :
    (table.refreshed offset).registers.bytes[index]? = table.registers.bytes[index]? := by
  unfold refreshed
  split
  · split
    · next servo _ _ =>
        change (overwrite table.registers.bytes offset.toNat [servo.temperature])[index]? = _
        rw [overwrite_singleton, List.getElem?_set_ne (Ne.symm h)]
    · rfl
  · rfl
  · rfl

/-- No register but the temperature needs to be brought up to date. -/
theorem getElem?_refreshed_of_ne_temperature (table : Table) (offset : UInt8) {index : Nat}
    (h : index ≠ Offset.temperature.toNat) :
    (table.refreshed offset).registers.bytes[index]? = table.registers.bytes[index]? := by
  by_cases hoffset : offset = Offset.temperature
  · subst hoffset
    exact getElem?_refreshed_of_ne table h
  · unfold refreshed
    split
    · rw [if_neg hoffset]
    · rfl
    · rfl

theorem getElem?_refreshedFrom_of_ne_temperature (table : Table) (start count : Nat) {index : Nat}
    (h : index ≠ Offset.temperature.toNat) :
    (table.refreshedFrom start count).registers.bytes[index]? = table.registers.bytes[index]? := by
  induction count generalizing table start with
  | zero => rfl
  | succ count ih => rw [refreshedFrom, ih, getElem?_refreshed_of_ne_temperature _ _ h]

/-- Reading registers leaves those before them alone. -/
theorem getElem?_refreshedFrom_of_lt (table : Table) {start count index : Nat}
    (hindex : index < start) (hfit : start + count ≤ 256) :
    (table.refreshedFrom start count).registers.bytes[index]? = table.registers.bytes[index]? := by
  induction count generalizing table start with
  | zero => rfl
  | succ count ih =>
      have hoffset : (UInt8.ofNat start).toNat = start :=
        UInt8.toNat_ofNat_of_lt' (show start < 256 by omega)
      rw [refreshedFrom, ih _ (by omega) (by omega), getElem?_refreshed_of_ne]
      omega

theorem registers_writtenFrom (table : Table) {start : Nat} (data : Bytes)
    (hfit : start + data.length ≤ 256) :
    (table.writtenFrom start data).registers = table.registers.replace start data := by
  induction data generalizing table start with
  | nil => simp [writtenFrom, Registers.replace]
  | cons value data ih =>
      simp only [List.length_cons] at hfit
      have hoffset : (UInt8.ofNat start).toNat = start :=
        UInt8.toNat_ofNat_of_lt' (show start < 256 by omega)
      rw [writtenFrom, ih _ (by omega), registers_written, hoffset]
      simp only [Registers.replace]
      congr 1
      rw [overwrite_singleton, overwrite_set_succ]

@[simp] theorem length_writtenFrom (table : Table) (start : Nat) (data : Bytes) :
    (table.writtenFrom start data).length = table.length := by
  induction data generalizing table start with
  | nil => rfl
  | cons value data ih => simp [writtenFrom, ih]

@[simp] theorem persistentLength_writtenFrom (table : Table) (start : Nat) (data : Bytes) :
    (table.writtenFrom start data).registers.persistentLength =
      table.registers.persistentLength := by
  induction data generalizing table start with
  | nil => rfl
  | cons value data ih => simp [writtenFrom, ih]

@[simp] theorem storage_writtenFrom (table : Table) (start : Nat) (data : Bytes) :
    (table.writtenFrom start data).storage = table.storage := by
  induction data generalizing table start with
  | nil => rfl
  | cons value data ih => simp [writtenFrom, ih]

@[simp] theorem registers_saved (table : Table) : table.saved.registers = table.registers := by
  unfold saved
  split <;> rfl

@[simp] theorem peripheral_saved (table : Table) : table.saved.peripheral = table.peripheral := by
  unfold saved
  split <;> rfl

@[simp] theorem length_saved (table : Table) : table.saved.length = table.length := by
  simp [length]

@[simp] theorem length_applied (table : Table) (start : UInt8) (data : Bytes) :
    (table.applied start data).length = table.length := by
  unfold applied
  split <;> simp

@[simp] theorem persistentLength_applied (table : Table) (start : UInt8) (data : Bytes) :
    (table.applied start data).registers.persistentLength = table.registers.persistentLength := by
  unfold applied
  split <;> simp

theorem view_writtenFrom {α : Type} {view : Peripheral → α} (hview : Peripheral.HidesLamp view)
    (table : Table) (start : Nat) (data : Bytes) :
    view (table.writtenFrom start data).peripheral = view table.peripheral := by
  induction data generalizing table start with
  | nil => rfl
  | cons value data ih => rw [writtenFrom, ih, view_written hview]

theorem view_applied {α : Type} {view : Peripheral → α} (hview : Peripheral.HidesLamp view)
    (table : Table) (start : UInt8) (data : Bytes) :
    view (table.applied start data).peripheral = view table.peripheral := by
  unfold applied
  split
  · rw [peripheral_saved, view_writtenFrom hview]
  · exact view_writtenFrom hview ..

theorem isOrdinary_applied {table : Table} (h : table.peripheral.IsOrdinary) (start : UInt8)
    (data : Bytes) : (table.applied start data).peripheral.IsOrdinary := by
  rw [view_applied Peripheral.hidesLamp_isOrdinary]
  exact h

/-- A write puts its data where it was told to, and no other register changes. -/
theorem registers_applied (table : Table) {start : UInt8} {data : Bytes}
    (hfit : start.toNat + data.length ≤ table.length) :
    (table.applied start data).registers = table.registers.replace start.toNat data := by
  have hle := table.length_le
  have hbyte : start.toNat + data.length ≤ 256 := by omega
  have hwritten := registers_writtenFrom table data hbyte
  unfold applied
  split
  · rw [registers_saved, hwritten]
  · exact hwritten

@[simp] theorem length_initialised (table : Table) : table.initialised.length = table.length := by
  unfold initialised
  split
  · simp [length]
  · rfl
  · rfl

@[simp] theorem persistentLength_initialised (table : Table) :
    table.initialised.registers.persistentLength = table.registers.persistentLength := by
  unfold initialised
  split <;> rfl

@[simp] theorem storage_initialised (table : Table) :
    table.initialised.storage = table.storage := by
  unfold initialised
  split <;> rfl

theorem view_initialised {α : Type} {view : Peripheral → α} (hview : Peripheral.HidesLamp view)
    (table : Table) : view table.initialised.peripheral = view table.peripheral := by
  unfold initialised
  split
  · next servo hservo =>
      rw [hservo]
      exact hview ..
  · rfl
  · rfl

@[simp] theorem length_restarted (table : Table) : table.restarted.length = table.length := by
  simp [restarted]

@[simp] theorem persistentLength_restarted (table : Table) :
    table.restarted.registers.persistentLength = table.registers.persistentLength := by
  simp [restarted]

@[simp] theorem storage_restarted (table : Table) :
    table.restarted.storage = table.storage := by
  rw [restarted, storage_initialised, storage_written, storage_written, storage_written]
  rfl

theorem view_restarted {α : Type} {view : Peripheral → α} (hview : Peripheral.HidesLamp view)
    (table : Table) : view table.restarted.peripheral = view table.peripheral := by
  rw [restarted, view_initialised hview, view_written hview, view_written hview,
    view_written hview]
  rfl

theorem isOrdinary_restarted {table : Table} (h : table.peripheral.IsOrdinary) :
    table.restarted.peripheral.IsOrdinary := by
  rw [view_restarted Peripheral.hidesLamp_isOrdinary]
  exact h

theorem isPersistent_writtenFrom (table : Table) (start : Nat) (data : Bytes) (offset : UInt8) :
    (table.writtenFrom start data).isPersistent offset = table.isPersistent offset := by
  simp [isPersistent]

theorem initialised_run {table : Table} (hordinary : table.peripheral.IsOrdinary) :
    writeInitial table = .ok () table.initialised := by
  have hlength : Offset.returnDelay.toNat < table.length := table.returnDelay_lt
  have hfive : Offset.returnDelay.toNat = 5 := rfl
  unfold writeInitial initialised
  rw [bind_of_ok (rfl : (get : TableM Table) table = .ok table table)]
  cases hperipheral : table.peripheral with
  | bare => rfl
  | servo servo =>
      dsimp only
      have hmodel : Offset.model.toNat + Field.u16.size ≤ table.length := by
        have hsize : Offset.model.toNat + Field.u16.size = 2 := rfl
        omega
      have hversion : Offset.version.toNat + Field.u8.size ≤
          (table.replace Offset.model.toNat (Field.u16.encode 0x000C)).length := by
        have hsize : Offset.version.toNat + Field.u8.size = 3 := rfl
        rw [length_replace]
        omega
      rw [bind_of_ok (rawWrite_of_le _ hmodel), bind_of_ok (rawWrite_of_le _ hversion)]
      rfl
  | probe probe => simp [hperipheral, Peripheral.IsOrdinary] at hordinary

theorem reset_run {table : Table} (hordinary : table.peripheral.IsOrdinary) :
    reset table = .ok () table.restarted := by
  have hlength : Offset.returnDelay.toNat < table.length := table.returnDelay_lt
  have hfive : Offset.returnDelay.toNat = 5 := rfl
  have hid : Offset.id.toNat = 3 := rfl
  have hbaud : Offset.baud.toNat = 4 := rfl
  let cleared := table.replace 0 (List.replicate table.length 0)
  have hcleared : cleared.peripheral.IsOrdinary := hordinary
  have hsize : cleared.length = table.length := length_replace table 0 _
  have hclear : clear table = .ok () cleared := rfl
  have hrun₁ := writeByte_run hcleared (show Offset.id.toNat < cleared.length by omega) 0
  have hordinary₁ := isOrdinary_written hcleared Offset.id 0
  have hlength₁ := length_written cleared Offset.id 0
  have hrun₂ := writeByte_run hordinary₁ (show Offset.baud.toNat < _ by omega) 1
  have hordinary₂ := isOrdinary_written hordinary₁ Offset.baud 1
  have hlength₂ := length_written (cleared.written Offset.id 0) Offset.baud 1
  have hrun₃ := writeByte_run hordinary₂ (show Offset.returnDelay.toNat < _ by omega) 250
  have hordinary₃ := isOrdinary_written hordinary₂ Offset.returnDelay 250
  rw [reset, bind_of_ok hclear, bind_of_ok hrun₁, bind_of_ok hrun₂, bind_of_ok hrun₃,
    initialised_run hordinary₃]
  rfl

end Table

namespace Device

/-! ## Many registers -/

theorem registerAfter_run {start : UInt8} {index : Nat} (h : start.toNat + index < 256)
    (table : Table) :
    registerAfter start index table = .ok (UInt8.ofNat (start.toNat + index)) table := by
  simp [registerAfter, h, pure, EStateM.pure]

/-- Reading registers one by one gives what stands there afterwards. -/
theorem readFrom_run {table : Table} (hordinary : table.peripheral.IsOrdinary) {start : UInt8}
    {index count : Nat} (h : start.toNat + index + count ≤ table.length) :
    readFrom start index count table =
      .ok (slice (table.refreshedFrom (start.toNat + index) count).registers.bytes
          (start.toNat + index) count)
        (table.refreshedFrom (start.toNat + index) count) := by
  induction count generalizing table index with
  | zero => simp [readFrom, slice, Table.refreshedFrom, pure, EStateM.pure]
  | succ count ih =>
      have hle := table.length_le
      have hoffset : (UInt8.ofNat (start.toNat + index)).toNat = start.toNat + index :=
        UInt8.toNat_ofNat_of_lt' (show start.toNat + index < 256 by omega)
      let current := table.refreshed (UInt8.ofNat (start.toNat + index))
      have hcurrent : current.peripheral.IsOrdinary := by
        rw [Table.peripheral_refreshed]
        exact hordinary
      have hlength : current.length = table.length := Table.length_refreshed table _
      have hnow : (UInt8.ofNat (start.toNat + index)).toNat < table.length := by omega
      have hlater : start.toNat + (index + 1) + count ≤ current.length := by omega
      have hread := Table.readByte_run hordinary hnow
      have hrest := ih hcurrent hlater
      rw [hoffset] at hread
      -- what the first read gave is still there after the others
      let after := current.refreshedFrom (start.toNat + (index + 1)) count
      have hkept : after.registers.byteAt (start.toNat + index) =
          current.registers.byteAt (start.toNat + index) := by
        simp only [Registers.byteAt, List.getD_eq_getElem?_getD]
        rw [Table.getElem?_refreshedFrom_of_lt current (by omega) (by omega)]
      have hbound : start.toNat + index < after.registers.bytes.length := by
        have hafter : after.length = current.length := Table.length_refreshedFrom current _ _
        change start.toNat + index < after.length
        omega
      have hslice : slice after.registers.bytes (start.toNat + index) (count + 1) =
          current.registers.byteAt (start.toNat + index) ::
            slice after.registers.bytes (start.toNat + (index + 1)) count := by
        rw [slice_succ hbound, ← hkept]
        rfl
      have hafter : table.refreshedFrom (start.toNat + index) (count + 1) = after := rfl
      rw [readFrom, bind_of_ok (registerAfter_run (by omega) table), bind_of_ok hread,
        bind_of_ok hrest, hafter, hslice]
      rfl

theorem writeFrom_run {table : Table} (hordinary : table.peripheral.IsOrdinary) {start : UInt8}
    {index : Nat} {data : Bytes} (h : start.toNat + index + data.length ≤ table.length) :
    writeFrom start index data table =
      .ok () (table.writtenFrom (start.toNat + index) data) := by
  induction data generalizing table index with
  | nil => rfl
  | cons value data ih =>
      simp only [List.length_cons] at h
      have hle := table.length_le
      have hoffset : (UInt8.ofNat (start.toNat + index)).toNat = start.toNat + index :=
        UInt8.toNat_ofNat_of_lt' (show start.toNat + index < 256 by omega)
      let current := table.written (UInt8.ofNat (start.toNat + index)) value
      have hcurrent : current.peripheral.IsOrdinary := Table.isOrdinary_written hordinary _ value
      have hlength : current.length = table.length := Table.length_written table _ value
      have hnow : (UInt8.ofNat (start.toNat + index)).toNat < table.length := by omega
      have hlater : start.toNat + (index + 1) + data.length ≤ current.length := by omega
      have hwrite := Table.writeByte_run hordinary hnow value
      have hrest := ih hcurrent hlater
      rw [writeFrom, bind_of_ok (registerAfter_run (by omega) table), bind_of_ok hwrite, hrest]
      rfl

theorem saveTable_run (table : Table) : saveTable table = .ok () table.saved := by
  unfold saveTable Table.saved
  cases hsave : table.storage.save 0 table.registers.persistent with
  | ok storage =>
      have hrun : Table.save table = .ok (.ok ()) { table with storage } := by
        simp [Table.save, hsave]
      rw [bind_of_ok hrun]
      rfl
  | error cause =>
      have hrun : Table.save table = .ok (.error cause) table := by
        simp [Table.save, hsave]
      rw [bind_of_ok hrun]
      rfl

theorem applyWrite_run {table : Table} (hordinary : table.peripheral.IsOrdinary) {start : UInt8}
    {data : Bytes} (h : start.toNat + data.length ≤ table.length) :
    applyWrite start data table = .ok () (table.applied start data) := by
  have hwrite : writeFrom start 0 data table = .ok () (table.writtenFrom start.toNat data) :=
    writeFrom_run hordinary h
  let written := table.writtenFrom start.toNat data
  have hget : (get : TableM Table) written = .ok written written := rfl
  rw [applyWrite, bind_of_ok hwrite, bind_of_ok hget, Table.isPersistent_writtenFrom]
  unfold Table.applied
  split
  · exact saveTable_run written
  · rfl

end Device

end ServoBus
