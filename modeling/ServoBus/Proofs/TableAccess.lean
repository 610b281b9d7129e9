import ServoBus.Table.Access

/-!
# Access to the table of a device

A device has nothing or a servo behind its registers. Reads and writes of such a table, within its
length, meet no fault, and what they leave behind is said here without the monad: a read by
`Table.refreshed`, a write by `Table.written`, a restart by `Table.restarted`.
-/

namespace ServoBus

theorem bind_of_ok {ε σ α β : Type} {first : EStateM ε σ α} {next : α → EStateM ε σ β}
    {before after : σ} {value : α} (h : first before = .ok value after) :
    (first >>= next) before = next value after := by
  simp [bind, EStateM.bind, h]

theorem bind_of_error {ε σ α β : Type} {first : EStateM ε σ α} {next : α → EStateM ε σ β}
    {before after : σ} {fault : ε} (h : first before = .error fault after) :
    (first >>= next) before = .error fault after := by
  simp [bind, EStateM.bind, h]

/-- The part of a run that comes first did well if the whole did. -/
theorem exists_of_bind_eq_ok {ε σ α β : Type} {first : EStateM ε σ α}
    {next : α → EStateM ε σ β} {before after : σ} {result : β}
    (h : (first >>= next) before = .ok result after) :
    ∃ value middle, first before = .ok value middle ∧ next value middle = .ok result after := by
  simp only [bind, EStateM.bind] at h
  cases hfirst : first before with
  | ok value middle =>
      rw [hfirst] at h
      exact ⟨value, middle, rfl, h⟩
  | error fault middle =>
      rw [hfirst] at h
      cases h

/-! ## Fields of one byte -/

@[simp] theorem Field.encode_u8 (byte : UInt8) : Field.u8.encode (byte.toNat : Int) = [byte] := by
  have hlt := byte.toNat_lt
  have hmod : ((byte.toNat : Int) % (Field.u8.count : Int)).toNat = byte.toNat := by
    have hcount : (Field.u8.count : Int) = 256 := rfl
    rw [hcount]
    omega
  rw [encode, hmod]
  simp [size, littleEndian]

@[simp] theorem Field.decode_u8 (byte : UInt8) : Field.u8.decode [byte] = byte.toNat := by
  simp [decode, isSigned, littleEndianValue]

/-- Whether a device can have this behind its registers. -/
def Peripheral.IsOrdinary : Peripheral → Prop
  | .bare | .servo _ => True
  | .probe _ => False

/-- Whether the lamp of a servo makes no difference to a view of peripherals. -/
def Peripheral.HidesLamp {α : Type} (view : Peripheral → α) : Prop :=
  ∀ (servo : Servo) (ledOn : Bool), view (.servo { servo with ledOn }) = view (.servo servo)

theorem Peripheral.hidesLamp_isOrdinary : HidesLamp IsOrdinary := fun _ _ => rfl

namespace Table

/-! ## Raw access within the table -/

theorem requireRange_run {table : Table} {field : Field} {offset : UInt8}
    (h : offset.toNat + field.size ≤ table.length) :
    requireRange field offset table = .ok () table := by
  rw [requireRange, Registers.fieldRange_of_le h]

theorem requireRange_of_not_le {table : Table} {field : Field} {offset : UInt8}
    (h : ¬offset.toNat + field.size ≤ table.length) :
    requireRange field offset table =
      .error (.fieldRange offset.toNat field.size table.length) table := by
  rw [requireRange, Registers.fieldRange_of_not_le h]
  rfl

theorem rawWrite_of_le {table : Table} {field : Field} {offset : UInt8} (value : Int)
    (h : offset.toNat + field.size ≤ table.length) :
    rawWrite field offset value table =
      .ok () (table.replace offset.toNat (field.encode value)) := by
  rw [rawWrite, bind_of_ok (requireRange_run h)]
  rfl

theorem rawWrite_of_not_le {table : Table} {field : Field} {offset : UInt8} (value : Int)
    (h : ¬offset.toNat + field.size ≤ table.length) :
    rawWrite field offset value table =
      .error (.fieldRange offset.toNat field.size table.length) table := by
  rw [rawWrite, bind_of_error (requireRange_of_not_le h)]

theorem rawRead_of_le {table : Table} {field : Field} {offset : UInt8}
    (h : offset.toNat + field.size ≤ table.length) :
    rawRead field offset table =
      .ok (field.decode (slice table.registers.bytes offset.toNat field.size)) table := by
  rw [rawRead, Registers.read_of_le h]

theorem rawRead_byte {table : Table} {offset : UInt8} (h : offset.toNat < table.length) :
    rawRead .u8 offset table =
      .ok ((table.registers.byteAt offset.toNat).toNat : Int) table := by
  have hlt : offset.toNat < table.registers.bytes.length := h
  have hsize : slice table.registers.bytes offset.toNat Field.u8.size =
      [table.registers.byteAt offset.toNat] := slice_one hlt
  have hfit : offset.toNat + Field.u8.size ≤ table.length := h
  rw [rawRead_of_le hfit, hsize, Field.decode_u8]

/-! ## Reading a register -/

/-- The table once a register that is about to be read is up to date. -/
def refreshed (table : Table) (offset : UInt8) : Table :=
  match table.peripheral with
  | .servo servo =>
      if offset = Offset.temperature then table.replace offset.toNat [servo.temperature] else table
  | .bare | .probe _ => table

theorem refresh_run {table : Table} (hordinary : table.peripheral.IsOrdinary) {offset : UInt8}
    (h : offset.toNat < table.length) :
    refresh offset table = .ok () (table.refreshed offset) := by
  unfold refresh refreshed
  rw [bind_of_ok (rfl : (get : TableM Table) table = .ok table table)]
  cases hperipheral : table.peripheral with
  | bare => rfl
  | servo servo =>
      dsimp only
      split
      · have hfit : offset.toNat + Field.u8.size ≤ table.length := h
        rw [rawWrite_of_le _ hfit, Field.encode_u8]
      · rfl
  | probe probe => simp [hperipheral, Peripheral.IsOrdinary] at hordinary

@[simp] theorem peripheral_refreshed (table : Table) (offset : UInt8) :
    (table.refreshed offset).peripheral = table.peripheral := by
  unfold refreshed
  split
  · split <;> rfl
  · rfl
  · rfl

@[simp] theorem length_refreshed (table : Table) (offset : UInt8) :
    (table.refreshed offset).length = table.length := by
  unfold refreshed
  split
  · split <;> simp
  · rfl
  · rfl

@[simp] theorem persistentLength_refreshed (table : Table) (offset : UInt8) :
    (table.refreshed offset).registers.persistentLength = table.registers.persistentLength := by
  unfold refreshed
  split
  · split <;> rfl
  · rfl
  · rfl

@[simp] theorem storage_refreshed (table : Table) (offset : UInt8) :
    (table.refreshed offset).storage = table.storage := by
  unfold refreshed
  split
  · split <;> rfl
  · rfl
  · rfl

/-- A read brings its register up to date and gives what then stands there. -/
theorem readByte_run {table : Table} (hordinary : table.peripheral.IsOrdinary) {offset : UInt8}
    (h : offset.toNat < table.length) :
    readByte offset table =
      .ok ((table.refreshed offset).registers.byteAt offset.toNat) (table.refreshed offset) := by
  have hfit : offset.toNat + Field.u8.size ≤ table.length := h
  have hrefreshed : offset.toNat < (table.refreshed offset).length := by simpa using h
  have hread : read .u8 offset table =
      .ok (((table.refreshed offset).registers.byteAt offset.toNat).toNat : Int)
        (table.refreshed offset) := by
    rw [read, bind_of_ok (requireRange_run hfit), bind_of_ok (refresh_run hordinary h)]
    exact rawRead_byte hrefreshed
  rw [readByte, bind_of_ok hread]
  simp [pure, EStateM.pure]

/-! ## Writing a register -/

def rated (table : Table) (offset : UInt8) : Table :=
  if offset = Offset.baud then
    { table with
      lineRate? := some (baudClock / ((table.registers.byteAt Offset.baud.toNat).toNat + 1)) }
  else table

def lit (table : Table) (offset : UInt8) : Table :=
  match table.peripheral with
  | .servo servo =>
      if offset = Offset.led then
        let ledOn := table.registers.byteAt Offset.led.toNat ≠ 0
        { table with peripheral := .servo { servo with ledOn } }
      else table
  | .bare | .probe _ => table

/-- The table once one register is written, with all that follows from it. -/
def written (table : Table) (offset value : UInt8) : Table :=
  ((table.replace offset.toNat [value]).rated offset).lit offset

@[simp] theorem registers_rated (table : Table) (offset : UInt8) :
    (table.rated offset).registers = table.registers := by
  unfold rated
  split <;> rfl

@[simp] theorem peripheral_rated (table : Table) (offset : UInt8) :
    (table.rated offset).peripheral = table.peripheral := by
  unfold rated
  split <;> rfl

@[simp] theorem registers_lit (table : Table) (offset : UInt8) :
    (table.lit offset).registers = table.registers := by
  unfold lit
  split
  · split <;> rfl
  · rfl
  · rfl

@[simp] theorem storage_rated (table : Table) (offset : UInt8) :
    (table.rated offset).storage = table.storage := by
  unfold rated
  split <;> rfl

@[simp] theorem storage_lit (table : Table) (offset : UInt8) :
    (table.lit offset).storage = table.storage := by
  unfold lit
  split
  · split <;> rfl
  · rfl
  · rfl

theorem view_lit {α : Type} {view : Peripheral → α} (hview : Peripheral.HidesLamp view)
    (table : Table) (offset : UInt8) :
    view (table.lit offset).peripheral = view table.peripheral := by
  unfold lit
  split
  · next servo hservo =>
      split
      · rw [hservo]
        exact hview ..
      · rfl
  · rfl
  · rfl

theorem view_written {α : Type} {view : Peripheral → α} (hview : Peripheral.HidesLamp view)
    (table : Table) (offset value : UInt8) :
    view (table.written offset value).peripheral = view table.peripheral := by
  rw [written, view_lit hview, peripheral_rated]
  rfl

@[simp] theorem registers_written (table : Table) (offset value : UInt8) :
    (table.written offset value).registers = table.registers.replace offset.toNat [value] := by
  simp [written]

@[simp] theorem storage_written (table : Table) (offset value : UInt8) :
    (table.written offset value).storage = table.storage := by
  rw [written, storage_lit, storage_rated]
  rfl

@[simp] theorem length_written (table : Table) (offset value : UInt8) :
    (table.written offset value).length = table.length := by
  simp [length]

theorem isOrdinary_written {table : Table} (h : table.peripheral.IsOrdinary)
    (offset value : UInt8) : (table.written offset value).peripheral.IsOrdinary := by
  rw [view_written Peripheral.hidesLamp_isOrdinary]
  exact h

/-- Only a write of the lamp's register reaches the peripheral. -/
theorem peripheral_written_of_ne (table : Table) {offset : UInt8} (h : offset ≠ Offset.led)
    (value : UInt8) : (table.written offset value).peripheral = table.peripheral := by
  unfold written lit
  split
  · rw [if_neg h, peripheral_rated]
    rfl
  · rw [peripheral_rated]
    rfl
  · rw [peripheral_rated]
    rfl

theorem react_run {table : Table} (hordinary : table.peripheral.IsOrdinary) {offset : UInt8}
    (h : offset.toNat < table.length) : react offset table = .ok () (table.lit offset) := by
  unfold react lit
  rw [bind_of_ok (rfl : (get : TableM Table) table = .ok table table)]
  cases hperipheral : table.peripheral with
  | bare => rfl
  | servo servo =>
      dsimp only
      split
      · next hled =>
          subst hled
          rw [bind_of_ok (rawRead_byte h)]
          have hzero : ∀ byte : UInt8, byte.toNat = 0 ↔ byte = 0 := fun byte => by
            rw [← UInt8.toNat_inj]
            rfl
          have hlit : ∀ ledOn, setPeripheral (.servo { servo with ledOn }) table =
              .ok () { table with peripheral := .servo { servo with ledOn } } := fun _ => rfl
          simp [hlit, hzero]
      · rfl
  | probe probe => simp [hperipheral, Peripheral.IsOrdinary] at hordinary

/-- A write replaces its register, and the line or the lamp follows. -/
theorem writeByte_run {table : Table} (hordinary : table.peripheral.IsOrdinary) {offset : UInt8}
    (h : offset.toNat < table.length) (value : UInt8) :
    writeByte offset value table = .ok () (table.written offset value) := by
  have hfit : offset.toNat + Field.u8.size ≤ table.length := h
  let replaced := table.replace offset.toNat [value]
  have hordinary' : (replaced.rated offset).peripheral.IsOrdinary := by
    rw [peripheral_rated]
    exact hordinary
  have hlength : offset.toNat < (replaced.rated offset).length := by
    simpa [length, replaced] using h
  have hreact := react_run hordinary' hlength
  rw [writeByte, write, bind_of_ok (rawWrite_of_le _ hfit), Field.encode_u8]
  by_cases hbaud : offset = Offset.baud
  · have hadopt : adoptRate replaced = .ok () (replaced.rated offset) := by
      rw [rated, if_pos hbaud]
      rfl
    rw [if_pos hbaud, bind_of_ok hadopt]
    exact hreact
  · have hsame : replaced.rated offset = replaced := if_neg hbaud
    rw [hsame] at hreact
    rw [if_neg hbaud, written, hsame]
    exact hreact

end Table

end ServoBus
