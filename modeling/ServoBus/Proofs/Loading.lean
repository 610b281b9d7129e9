import ServoBus.Proofs.InStep
import ServoBus.Proofs.Succession

/-!
# All or nothing

A load clears the registers before it asks storage. It still never leaves a mixture behind: either
all the persistent registers come from storage and the peripheral learns nothing, or the table is
reset, and what a reset leaves depends on the kind of table alone (`Table.restarted_congr`).

Main statement: `Table.load_all_or_nothing`. Its last part is about what comes between a save and a
load; nothing there reaches the storage (`Table.sameKind_doneAll`).
-/

namespace ServoBus

namespace Storage

/-- Storage that gives back what it has taken: memory, or a file that is regular or can be. -/
def IsLasting : Storage → Prop
  | memory _ => True
  | file stored => stored.entry.IsPlain

theorem load_of_save {storage after : Storage} (h : storage.IsLasting) {data : Bytes}
    (hroom : data.length ≤ maxLoad) (hsave : storage.save 0 data = .ok after) :
    after.load 0 data.length = .ok data := by
  cases storage with
  | memory image =>
      have hload := load_of_save_memory hsave
      obtain ⟨saved, rfl, hworking, -⟩ := exists_of_save_memory hsave
      -- memory that has just kept something was not set to fail
      have hsame : (memory saved).setFailing false = memory saved := by
        rw [setFailing, ← hworking]
      rw [hsame] at hload
      exact hload
  | file file =>
      obtain ⟨saved, hkept, -, hload⟩ := StoredFile.exists_save_of_isPlain h hroom
      rw [save, hkept] at hsave
      cases hsave
      exact hload

end Storage

namespace Table

/-! ## Resets -/

theorem eq_of_fields {table other : Table} (hregisters : other.registers = table.registers)
    (hperipheral : other.peripheral = table.peripheral) (hstorage : other.storage = table.storage)
    (hrate : other.lineRate? = table.lineRate?) : other = table := by
  cases table
  cases other
  cases hregisters
  cases hperipheral
  cases hstorage
  cases hrate
  rfl

/-- What a reset leaves depends on the sizes of a table, on what it stores, and on its peripheral
but for the lamp. -/
theorem restarted_congr {table other : Table} (hlength : other.length = table.length)
    (hpersistent : other.registers.persistentLength = table.registers.persistentLength)
    (hperipheral : other.peripheral.unlit = table.peripheral.unlit)
    (hstorage : other.storage = table.storage) : other.restarted = table.restarted := by
  have hheader : other.peripheral.header = table.peripheral.header := by
    rw [← other.peripheral.header_unlit, hperipheral, table.peripheral.header_unlit]
  have hregisters : other.restarted.registers = table.restarted.registers := by
    have hbytes : other.restarted.registers.bytes = table.restarted.registers.bytes := by
      rw [bytes_restarted, bytes_restarted, initialBytes, initialBytes, hheader, hlength]
    have hsize : other.restarted.registers.persistentLength =
        table.restarted.registers.persistentLength := by
      rw [persistentLength_restarted, persistentLength_restarted, hpersistent]
    rw [Registers.mk.injEq]
    exact ⟨hbytes, hsize⟩
  have hrate : other.restarted.lineRate? = table.restarted.lineRate? := by
    rw [rateFollows_restarted other, rateFollows_restarted table, hregisters]
  refine eq_of_fields hregisters ?_ ?_ hrate
  · rw [peripheral_restarted, peripheral_restarted, hperipheral]
  · rw [storage_restarted, storage_restarted, hstorage]

theorem restarted_restarted (table : Table) : table.restarted.restarted = table.restarted := by
  apply restarted_congr
  · exact length_restarted table
  · exact persistentLength_restarted table
  · rw [peripheral_restarted, Peripheral.unlit_unlit]
  · exact storage_restarted table

theorem reset_cleared (table : Table) :
    reset (table.replace 0 (List.replicate table.length 0)) = reset table := by
  let cleared := table.replace 0 (List.replicate table.length 0)
  have hlength : cleared.length = table.length := length_replace table 0 _
  have hclear : clear table = .ok () cleared := rfl
  have hbytes : cleared.registers.bytes = List.replicate table.length 0 :=
    overwrite_of_length_eq List.length_replicate
  have hregisters : cleared.registers.replace 0 (List.replicate cleared.length 0) =
      cleared.registers := by
    rw [Registers.mk.injEq]
    refine ⟨?_, rfl⟩
    change overwrite cleared.registers.bytes 0 _ = cleared.registers.bytes
    rw [hbytes, hlength, overwrite_of_length_eq rfl]
  have hagain : clear cleared = .ok () cleared :=
    congrArg (EStateM.Result.ok ()) (eq_of_fields hregisters rfl rfl rfl)
  rw [reset, bind_of_ok hclear, bind_of_ok hagain]

/-! ## Loads -/

theorem load_of_load_eq_ok {table : Table} {data : Bytes}
    (h : table.storage.load 0 table.registers.persistentLength = .ok data) :
    load table =
      .ok () ((table.replace 0 (List.replicate table.length 0)).replace 0 data) := by
  let cleared := table.replace 0 (List.replicate table.length 0)
  have hload : cleared.storage.load 0 cleared.registers.persistentLength = .ok data := h
  rw [load, bind_of_ok (rfl : clear table = .ok () cleared),
    bind_of_ok (rfl : (get : TableM Table) cleared = .ok cleared cleared), hload]
  rfl

theorem load_of_load_eq_error {table : Table} {cause : StorageError}
    (h : table.storage.load 0 table.registers.persistentLength = .error cause) :
    load table = reset table := by
  let cleared := table.replace 0 (List.replicate table.length 0)
  have hload : cleared.storage.load 0 cleared.registers.persistentLength = .error cause := h
  rw [load, bind_of_ok (rfl : clear table = .ok () cleared),
    bind_of_ok (rfl : (get : TableM Table) cleared = .ok cleared cleared), hload]
  exact reset_cleared table

/-! ## What does not save -/

/-- What the holder of a table can do to it without saving it. Anything at all may be put behind
the registers. -/
inductive Act where
  | read (field : Field) (offset : UInt8)
  | write (field : Field) (offset : UInt8) (value : Int)
  | load
  | reset
  | exchange (peripheral : Peripheral)

def Act.run : Act → TableM Unit
  | read field offset => do let _ ← Table.read field offset
  | write field offset value => Table.write field offset value
  | load => Table.load
  | reset => Table.reset
  | exchange peripheral => setPeripheral peripheral

def left {α : Type} : EStateM.Result Fault Table α → Table
  | .ok _ table | .error _ table => table

def done (table : Table) (act : Act) : Table := left (act.run table)

def doneAll (table : Table) (acts : List Act) : Table := acts.foldl done table

structure SameKind (table other : Table) : Prop where
  storage : other.storage = table.storage
  length : other.length = table.length
  persistentLength : other.registers.persistentLength = table.registers.persistentLength

theorem sameKind_refl (table : Table) : table.SameKind table := ⟨rfl, rfl, rfl⟩

theorem sameKind_trans {table other third : Table} (h₁ : table.SameKind other)
    (h₂ : other.SameKind third) : table.SameKind third where
  storage := h₂.storage.trans h₁.storage
  length := h₂.length.trans h₁.length
  persistentLength := h₂.persistentLength.trans h₁.persistentLength

theorem sameKind_replace (table : Table) (start : Nat) (data : Bytes) :
    table.SameKind (table.replace start data) := ⟨rfl, length_replace .., rfl⟩

/-- Whether an action leaves the storage and the sizes of every table alone, also where it meets a
fault. -/
def KeepsKind {α : Type} (action : TableM α) : Prop :=
  ∀ table : Table, table.SameKind (left (action table))

theorem keepsKind_pure {α : Type} (value : α) : KeepsKind (pure value : TableM α) := sameKind_refl

theorem keepsKind_get : KeepsKind (get : TableM Table) := sameKind_refl

theorem keepsKind_bind {α β : Type} {first : TableM α} {next : α → TableM β}
    (hfirst : KeepsKind first) (hnext : ∀ value, KeepsKind (next value)) :
    KeepsKind (first >>= next) := by
  intro table
  have hleft := hfirst table
  simp only [bind, EStateM.bind]
  cases hrun : first table with
  | ok value middle =>
      rw [hrun] at hleft
      exact sameKind_trans hleft (hnext value middle)
  | error fault middle =>
      rw [hrun] at hleft
      exact hleft

theorem keepsKind_clear : KeepsKind clear := fun table => sameKind_replace table 0 _

theorem keepsKind_setPeripheral (peripheral : Peripheral) : KeepsKind (setPeripheral peripheral) :=
  fun _ => ⟨rfl, rfl, rfl⟩

theorem keepsKind_adoptRate : KeepsKind adoptRate := fun _ => ⟨rfl, rfl, rfl⟩

theorem keepsKind_requireRange (field : Field) (offset : UInt8) :
    KeepsKind (requireRange field offset) := by
  intro table
  unfold requireRange
  split <;> exact sameKind_refl table

theorem keepsKind_rawRead (field : Field) (offset : UInt8) : KeepsKind (rawRead field offset) := by
  intro table
  unfold rawRead
  split <;> exact sameKind_refl table

theorem keepsKind_rawWrite (field : Field) (offset : UInt8) (value : Int) :
    KeepsKind (rawWrite field offset value) :=
  keepsKind_bind (keepsKind_requireRange field offset) fun _ table => sameKind_replace table _ _

theorem keepsKind_rawWriteAll (writes : List (UInt8 × Field × Int)) :
    KeepsKind (rawWriteAll writes) := by
  induction writes with
  | nil => exact keepsKind_pure ()
  | cons entry writes ih =>
      obtain ⟨offset, field, value⟩ := entry
      exact keepsKind_bind (keepsKind_rawWrite field offset value) fun _ => ih

/-! ### The part of the peripheral -/

theorem keepsKind_refresh (offset : UInt8) : KeepsKind (refresh offset) := by
  refine keepsKind_bind keepsKind_get fun table => ?_
  split
  · exact keepsKind_pure ()
  · split
    · exact keepsKind_rawWrite _ _ _
    · exact keepsKind_pure ()
  · refine keepsKind_bind (keepsKind_setPeripheral _) fun _ => ?_
    split
    · exact keepsKind_rawWrite _ _ _
    · exact keepsKind_pure ()

theorem keepsKind_react (offset : UInt8) : KeepsKind (react offset) := by
  refine keepsKind_bind keepsKind_get fun table => ?_
  split
  · exact keepsKind_pure ()
  · split
    · exact keepsKind_bind (keepsKind_rawRead _ _) fun _ => keepsKind_setPeripheral _
    · exact keepsKind_pure ()
  · refine keepsKind_bind (keepsKind_setPeripheral _) fun _ => ?_
    split
    · exact keepsKind_pure ()
    · split
      · exact keepsKind_bind (keepsKind_rawRead _ _) fun _ => keepsKind_rawWrite _ _ _
      · exact keepsKind_pure ()

theorem keepsKind_writeInitial : KeepsKind writeInitial := by
  refine keepsKind_bind keepsKind_get fun table => ?_
  split
  · exact keepsKind_pure ()
  · exact keepsKind_bind (keepsKind_rawWrite _ _ _) fun _ =>
      keepsKind_bind (keepsKind_rawWrite _ _ _) fun _ => keepsKind_setPeripheral _
  · exact keepsKind_rawWriteAll _

/-! ### Whole actions -/

theorem keepsKind_read (field : Field) (offset : UInt8) : KeepsKind (read field offset) :=
  keepsKind_bind (keepsKind_requireRange field offset) fun _ =>
    keepsKind_bind (keepsKind_refresh offset) fun _ => keepsKind_rawRead field offset

theorem keepsKind_write (field : Field) (offset : UInt8) (value : Int) :
    KeepsKind (write field offset value) := by
  refine keepsKind_bind (keepsKind_rawWrite field offset value) fun _ => ?_
  split
  · exact keepsKind_bind keepsKind_adoptRate fun _ => keepsKind_react offset
  · exact keepsKind_react offset

theorem keepsKind_reset : KeepsKind reset :=
  keepsKind_bind keepsKind_clear fun _ => keepsKind_bind (keepsKind_write _ _ _) fun _ =>
    keepsKind_bind (keepsKind_write _ _ _) fun _ => keepsKind_bind (keepsKind_write _ _ _) fun _ =>
      keepsKind_writeInitial

theorem keepsKind_load : KeepsKind load := by
  refine keepsKind_bind keepsKind_clear fun _ => keepsKind_bind keepsKind_get fun table => ?_
  split
  · exact fun table => sameKind_replace table 0 _
  · exact keepsKind_reset

theorem sameKind_done (table : Table) (act : Act) : table.SameKind (table.done act) := by
  cases act with
  | read field offset =>
      exact keepsKind_bind (keepsKind_read field offset) (fun _ => keepsKind_pure ()) table
  | write field offset value => exact keepsKind_write field offset value table
  | load => exact keepsKind_load table
  | reset => exact keepsKind_reset table
  | exchange peripheral => exact keepsKind_setPeripheral peripheral table

theorem sameKind_doneAll (table : Table) (acts : List Act) :
    table.SameKind (table.doneAll acts) := by
  induction acts generalizing table with
  | nil => exact sameKind_refl table
  | cons act acts ih => exact sameKind_trans (sameKind_done table act) (ih (table.done act))

/-! ## Saves and loads -/

/-- What was saved is what a table of the same kind loads. -/
theorem load_of_sameKind_saved {table saved later : Table} (hlasting : table.storage.IsLasting)
    (hsave : save table = .ok (.ok ()) saved) (h : saved.SameKind later) :
    later.storage.load 0 later.registers.persistentLength = .ok table.registers.persistent ∧
      later.length = table.length ∧
      later.registers.persistentLength = table.registers.persistentLength := by
  unfold save at hsave
  split at hsave
  · next after hkept =>
      cases hsave
      have hroom : table.registers.persistent.length ≤ maxLoad := by
        rw [table.length_persistent]
        exact Nat.le_trans table.registers.persistentLength_le table.registers.length_le
      have hload := Storage.load_of_save hlasting hroom hkept
      rw [table.length_persistent] at hload
      refine ⟨?_, h.length, h.persistentLength⟩
      rw [h.storage, h.persistentLength]
      exact hload
  · cases hsave

/-- A load takes all the persistent registers from storage, puts zeros behind them, and asks and
tells the peripheral nothing, which a probe would show; or it is a reset. A reset leaves the same
behind whatever was in the registers, and a second one changes nothing. Neither touches the storage.
Hence what storage that keeps what it takes has once kept comes back whole, whatever is done to the
table meanwhile. -/
theorem load_all_or_nothing (table : Table) :
    (∀ data, table.storage.load 0 table.registers.persistentLength = .ok data →
      ∃ loaded, load table = .ok () loaded ∧
        data.length = table.registers.persistentLength ∧
        loaded.registers.bytes =
          data ++ List.replicate (table.length - table.registers.persistentLength) 0 ∧
        loaded.peripheral = table.peripheral ∧ loaded.lineRate? = table.lineRate? ∧
        loaded.storage = table.storage) ∧
    (∀ cause, table.storage.load 0 table.registers.persistentLength = .error cause →
      load table = reset table) ∧
    (table.peripheral.IsOrdinary →
      ∃ fresh, reset table = .ok () fresh ∧ fresh.storage = table.storage ∧
        reset fresh = .ok () fresh ∧
        ∀ other : Table, other.length = table.length →
          other.registers.persistentLength = table.registers.persistentLength →
          other.peripheral = table.peripheral → other.storage = table.storage →
          reset other = .ok () fresh) ∧
    ∀ saved, save table = .ok (.ok ()) saved → table.storage.IsLasting → ∀ acts,
      let later := saved.doneAll acts
      later.storage = saved.storage ∧
      ∃ loaded, load later = .ok () loaded ∧
        loaded.registers.bytes = table.registers.persistent ++
          List.replicate (table.length - table.registers.persistentLength) 0 := by
  refine ⟨?_, ?_, ?_, ?_⟩
  · intro data hload
    refine ⟨table.reloaded, ?_, Storage.length_of_load hload, ?_, ?_, ?_, table.storage_reloaded⟩
    · rw [load_of_load_eq_ok hload, reloaded, hload]
    · rw [bytes_reloaded, hload]
    · rw [reloaded, hload]
      rfl
    · rw [reloaded, hload]
      rfl
  · intro cause hload
    exact load_of_load_eq_error hload
  · intro hordinary
    have hagain := reset_run (isOrdinary_restarted hordinary)
    rw [restarted_restarted] at hagain
    refine ⟨table.restarted, reset_run hordinary, table.storage_restarted, hagain, ?_⟩
    intro other hlength hpersistent hperipheral hstorage
    have hother : other.peripheral.IsOrdinary := by
      rw [hperipheral]
      exact hordinary
    have hlamp := congrArg Peripheral.unlit hperipheral
    rw [reset_run hother, restarted_congr hlength hpersistent hlamp hstorage]
  · intro saved hsave hlasting acts later
    have hkind := sameKind_doneAll saved acts
    obtain ⟨hload, hlength, hpersistent⟩ := load_of_sameKind_saved hlasting hsave hkind
    refine ⟨hkind.storage, later.reloaded, ?_, ?_⟩
    · rw [load_of_load_eq_ok hload, reloaded, hload]
    · rw [bytes_reloaded, hload, hlength, hpersistent]

/-- A servo whose lamp shines over an empty memory cannot load, but it can save; then its registers
are reset and written, its servo is taken away, and one write meets a fault. -/
theorem load_all_or_nothing_meanwhile :
    let registers : Registers := {
      bytes := [1, 2, 3, 4, 5, 6, 7, 8]
      persistentLength := 6
      length_le := by decide
      persistentLength_le := by decide }
    let table : Table := {
      registers
      peripheral := .servo { ledOn := true }
      storage := .memory .empty
      returnDelay_lt := by decide }
    let acts : List Act :=
      [.reset, .write .u8 3 9, .exchange .bare, .write .u16 7 5, .read .i32 1]
    table.storage.load 0 table.registers.persistentLength = .error (.shortImage 0 6) ∧
      load table = reset table ∧ table.peripheral.IsOrdinary ∧
      (∃ fresh, reset table = .ok () fresh ∧ reset fresh = .ok () fresh) ∧
      ∃ saved, save table = .ok (.ok ()) saved ∧ table.storage.IsLasting ∧
        saved.storage.load 0 saved.registers.persistentLength = .ok [1, 2, 3, 4, 5, 6] ∧
        (∃ loaded, load saved = .ok () loaded ∧
          loaded.registers.bytes = [1, 2, 3, 4, 5, 6, 0, 0] ∧
          loaded.peripheral = .servo { ledOn := true }) ∧
        ∃ loaded, load (saved.doneAll acts) = .ok () loaded ∧
          loaded.registers.bytes = [1, 2, 3, 4, 5, 6, 0, 0] := by
  intro registers table acts
  obtain ⟨-, hnothing, hreset, hsaves⟩ := table.load_all_or_nothing
  have hempty : table.storage.load 0 table.registers.persistentLength =
      .error (.shortImage 0 6) := rfl
  have hlasting : table.storage.IsLasting := trivial
  obtain ⟨fresh, hfresh, -, hagain, -⟩ := hreset trivial
  obtain ⟨after, hafter⟩ := Storage.exists_save_memory (rfl : MemoryImage.empty.failing = false)
    (show table.registers.persistent.length ≤ maxStored by decide)
  let saved : Table := { table with storage := after }
  have hsave : save table = .ok (.ok ()) saved := by
    unfold save
    rw [show table.storage.save 0 table.registers.persistent = .ok after from hafter]
  have hload : saved.storage.load 0 saved.registers.persistentLength = .ok [1, 2, 3, 4, 5, 6] :=
    (load_of_sameKind_saved hlasting hsave (sameKind_refl saved)).1
  obtain ⟨loaded, hrun, -, hbytes, hperipheral, -⟩ := saved.load_all_or_nothing.1 _ hload
  obtain ⟨-, later, hlater, hlaterBytes⟩ := hsaves saved hsave hlasting acts
  exact ⟨hempty, hnothing _ hempty, trivial, ⟨fresh, hfresh, hagain⟩, saved, hsave, hlasting,
    hload, ⟨loaded, hrun, hbytes, hperipheral⟩, later, hlater, hlaterBytes⟩

end Table

end ServoBus
