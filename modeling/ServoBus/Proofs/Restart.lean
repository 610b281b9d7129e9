import ServoBus.Proofs.RegisterRuns

/-!
# Starting a table

What a restart and a load leave in the registers. A restart ends in `Table.initialBytes`
(`Table.bytes_restarted`). A load ends in `Table.reloaded`: the bytes that storage gives and zeros
behind them, or the state after a restart where storage gives none (`Table.bytes_reloaded`).
-/

namespace ServoBus

/-! ## Storage -/

theorem MemoryImage.length_of_load {image : MemoryImage} {offset : UInt8} {count : Nat}
    {data : Bytes} (h : image.load offset count = .ok data) : data.length = count := by
  have himage := image.length_image
  unfold load at h
  split at h
  · cases h
  · next limit hlimit =>
      obtain ⟨-, hroom, rfl⟩ := limit_eq_ok_iff.mp hlimit
      split at h
      · cases h
        rw [slice, List.length_take, List.length_drop]
        omega
      · cases h

theorem StoredFile.length_of_load {file : StoredFile} {offset : UInt8} {count : Nat}
    {data : Bytes} (h : file.load offset count = .ok data) : data.length = count := by
  unfold load at h
  split at h
  · cases h
  · split at h
    · split at h
      · next hfit =>
          cases h
          rw [slice, List.length_take, List.length_drop]
          omega
      · cases h
    · cases h
    · cases h
    · split at h
      · next hzero =>
          cases h
          exact hzero.symm
      · cases h
    · split at h
      · next hzero =>
          cases h
          exact hzero.symm
      · cases h
    · cases h
      exact List.length_replicate

namespace Storage

theorem length_of_load {storage : Storage} {offset : UInt8} {count : Nat} {data : Bytes}
    (h : storage.load offset count = .ok data) : data.length = count := by
  cases storage with
  | memory image => exact MemoryImage.length_of_load h
  | file file => exact StoredFile.length_of_load h

end Storage

/-! ## Restart -/

/-- What a peripheral puts into the registers before the id when the device restarts. -/
def Peripheral.header : Peripheral → Bytes
  | .servo _ => [0x0C, 0x00, 0x01]
  | .bare | .probe _ => [0x00, 0x00, 0x00]

def Peripheral.unlit : Peripheral → Peripheral
  | .servo s => .servo { s with ledOn := false }
  | other => other

theorem Peripheral.header_unlit (peripheral : Peripheral) :
    peripheral.unlit.header = peripheral.header := by
  cases peripheral <;> rfl

theorem Peripheral.unlit_unlit (peripheral : Peripheral) :
    peripheral.unlit.unlit = peripheral.unlit := by
  cases peripheral <;> rfl

namespace Table

/-- The registers of a device that was just restarted: those with a meaning of their own, then
zeros. -/
def initialBytes (peripheral : Peripheral) (length : Nat) : Bytes :=
  peripheral.header ++ ([0, 1, 250] ++ List.replicate (length - 6) 0)

theorem hidesLamp_header : Peripheral.HidesLamp Peripheral.header := fun _ _ => rfl

@[simp] theorem header_written (table : Table) (offset value : UInt8) :
    (table.written offset value).peripheral.header = table.peripheral.header :=
  view_written hidesLamp_header ..

@[simp] theorem header_applied (table : Table) (start : UInt8) (data : Bytes) :
    (table.applied start data).peripheral.header = table.peripheral.header :=
  view_applied hidesLamp_header ..

@[simp] theorem header_restarted (table : Table) :
    table.restarted.peripheral.header = table.peripheral.header :=
  view_restarted hidesLamp_header ..

theorem length_initialBytes (peripheral : Peripheral) {length : Nat} (h : 6 ≤ length) :
    (initialBytes peripheral length).length = length := by
  have hheader : peripheral.header.length = 3 := by cases peripheral <;> rfl
  rw [initialBytes, List.length_append, hheader]
  simp only [List.length_append, List.length_cons, List.length_nil, List.length_replicate]
  omega

theorem drop_initialBytes (peripheral : Peripheral) (length : Nat) {count : Nat}
    (h : 6 ≤ count) :
    (initialBytes peripheral length).drop count = List.replicate (length - count) 0 := by
  obtain ⟨more, rfl⟩ := Nat.exists_eq_add_of_le h
  have hlength : length - 6 - more = length - (6 + more) := by omega
  cases peripheral with
  | bare | servo | probe => simp [initialBytes, Peripheral.header, Nat.add_comm 6, hlength]

/-- The table once it is cleared and the registers with a meaning of their own have their initial
values. -/
def based (table : Table) : Table :=
  (((table.replace 0 (List.replicate table.length 0)).written Offset.id 0).written Offset.baud
    1).written Offset.returnDelay 250

theorem restarted_eq (table : Table) : table.restarted = table.based.initialised := rfl

theorem peripheral_based (table : Table) : table.based.peripheral = table.peripheral := by
  rw [based, peripheral_written_of_ne _ (by decide), peripheral_written_of_ne _ (by decide),
    peripheral_written_of_ne _ (by decide)]
  rfl

/-- A restart puts the lamp out and leaves the rest of a peripheral alone. -/
theorem peripheral_restarted (table : Table) :
    table.restarted.peripheral = table.peripheral.unlit := by
  rw [restarted_eq, initialised, peripheral_based]
  cases hperipheral : table.peripheral with
  | servo servo => rfl
  | bare | probe => exact (peripheral_based table).trans hperipheral

theorem bytes_restarted (table : Table) :
    table.restarted.registers.bytes = initialBytes table.peripheral table.length := by
  have hlength : 6 ≤ table.length := table.returnDelay_lt
  obtain ⟨more, hmore⟩ := Nat.exists_eq_add_of_le hlength
  let cleared := table.replace 0 (List.replicate table.length 0)
  have hcleared : cleared.registers.bytes = List.replicate (6 + more) 0 := by
    rw [← hmore]
    exact overwrite_of_length_eq List.length_replicate
  have hbased : table.based.registers.bytes = [0, 0, 0, 0, 1, 250] ++ List.replicate more 0 := by
    change (((cleared.written Offset.id 0).written Offset.baud 1).written Offset.returnDelay
      250).registers.bytes = _
    simp only [registers_written, Registers.replace, overwrite_singleton, hcleared]
    rw [Nat.add_comm]
    rfl
  have hmodel : Field.u16.encode 0x000C = [0x0C, 0x00] := by decide
  have hversion : Field.u8.encode 1 = [0x01] := by decide
  have hrest : table.length - 6 = more := by omega
  rw [restarted_eq, initialised, peripheral_based, initialBytes, hrest]
  cases table.peripheral with
  | bare | probe => exact hbased
  | servo servo =>
      simp only [registers_replace, Registers.replace, hmodel, hversion, hbased,
        ← overwrite_set_succ, overwrite_nil]
      rfl

/-! ## Load -/

def reloaded (table : Table) : Table :=
  let cleared := table.replace 0 (List.replicate table.length 0)
  match table.storage.load 0 table.registers.persistentLength with
  | .ok data => cleared.replace 0 data
  | .error _ => cleared.restarted

theorem load_run {table : Table} (hordinary : table.peripheral.IsOrdinary) :
    load table = .ok () table.reloaded := by
  let cleared := table.replace 0 (List.replicate table.length 0)
  have hclear : clear table = .ok () cleared := rfl
  have hget : (get : TableM Table) cleared = .ok cleared cleared := rfl
  have hsame : cleared.storage.load 0 cleared.registers.persistentLength =
      table.storage.load 0 table.registers.persistentLength := rfl
  have hcleared : cleared.peripheral.IsOrdinary := hordinary
  rw [load, bind_of_ok hclear, bind_of_ok hget, hsame, reloaded]
  cases table.storage.load 0 table.registers.persistentLength with
  | ok data => rfl
  | error cause => exact reset_run hcleared

theorem eq_reloaded_of_load {table loaded : Table} (hordinary : table.peripheral.IsOrdinary)
    (h : load table = .ok () loaded) : loaded = table.reloaded := by
  rw [load_run hordinary] at h
  cases h
  rfl

@[simp] theorem length_reloaded (table : Table) : table.reloaded.length = table.length := by
  unfold reloaded
  split <;> simp

@[simp] theorem persistentLength_reloaded (table : Table) :
    table.reloaded.registers.persistentLength = table.registers.persistentLength := by
  unfold reloaded
  split <;> simp

@[simp] theorem header_reloaded (table : Table) :
    table.reloaded.peripheral.header = table.peripheral.header := by
  unfold reloaded
  split
  · rfl
  · exact header_restarted _

@[simp] theorem storage_reloaded (table : Table) : table.reloaded.storage = table.storage := by
  unfold reloaded
  split
  · rfl
  · exact storage_restarted _

theorem isOrdinary_reloaded {table : Table} (h : table.peripheral.IsOrdinary) :
    table.reloaded.peripheral.IsOrdinary := by
  unfold reloaded
  split
  · exact h
  · exact isOrdinary_restarted h

theorem bytes_reloaded (table : Table) :
    table.reloaded.registers.bytes =
      match table.storage.load 0 table.registers.persistentLength with
      | .ok data => data ++ List.replicate (table.length - table.registers.persistentLength) 0
      | .error _ => initialBytes table.peripheral table.length := by
  let cleared := table.replace 0 (List.replicate table.length 0)
  have hcleared : cleared.registers.bytes = List.replicate table.length 0 :=
    overwrite_of_length_eq List.length_replicate
  have hpersistent : table.registers.persistentLength ≤ table.length :=
    table.registers.persistentLength_le
  unfold reloaded
  cases hload : table.storage.load 0 table.registers.persistentLength with
  | ok data =>
      have hdata := Storage.length_of_load hload
      change overwrite cleared.registers.bytes 0 data = _
      rw [hcleared, overwrite_zero_of_le (by rw [List.length_replicate]; omega),
        List.drop_replicate, hdata]
  | error cause =>
      have hlength : cleared.length = table.length := length_replace ..
      change cleared.restarted.registers.bytes = _
      rw [bytes_restarted, hlength]
      rfl

end Table

end ServoBus
