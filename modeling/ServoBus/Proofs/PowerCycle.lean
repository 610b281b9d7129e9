import ServoBus.Proofs.Conduct
import ServoBus.Proofs.Restart

/-!
# What a device finds when its power comes back

A device goes on when its storage fails, so what is stored can lag behind the registers. It catches
up with the next attempt to store that succeeds: whatever packets came in between, a device started
from the same storage then has the same persistent registers (`Lived.restored_of_storedLast`).

What ties storage and registers together is `Table.recalled`: the persistent registers that a start
from the storage of a table would give. A packet after which nothing is stored changes neither them
nor the persistent registers, and any other packet stores them all.
-/

namespace ServoBus

/-! ## Memory storage -/

namespace Storage

theorem exists_save_memory {image : MemoryImage} (hworking : image.failing = false) {data : Bytes}
    (hroom : data.length ≤ maxStored) : ∃ after, (memory image).save 0 data = .ok after := by
  have hlimit : ∃ limit, image.limit 0 data.length = .ok limit := by
    simp [MemoryImage.limit, hworking, hroom]
  obtain ⟨limit, hlimit⟩ := hlimit
  obtain ⟨saved, hsave, -⟩ := MemoryImage.exists_save_of_limit hlimit
  exact ⟨memory saved, by rw [save, hsave, Except.map]⟩

theorem exists_of_save_memory {image : MemoryImage} {data : Bytes} {after : Storage}
    (h : (memory image).save 0 data = .ok after) :
    ∃ saved : MemoryImage, after = memory saved ∧ saved.failing = false ∧
      data.length ≤ maxStored ∧
      saved.image = overwrite image.image 0 data ∧
      saved.savedLength = max image.savedLength data.length := by
  have hzero : (0 : UInt8).toNat + data.length = data.length := Nat.zero_add _
  have hsave : (image.save 0 data).map memory = .ok after := h
  unfold MemoryImage.save at hsave
  split at hsave
  · cases hsave
  · next limit hlimit =>
      cases hsave
      obtain ⟨hworking, hroom, rfl⟩ := MemoryImage.limit_eq_ok_iff.mp hlimit
      rw [hzero] at hroom
      exact ⟨_, rfl, hworking, hroom, rfl, congrArg (max _) hzero⟩

theorem load_of_save_memory {image : MemoryImage} {data : Bytes} {after : Storage}
    (h : (memory image).save 0 data = .ok after) :
    (after.setFailing false).load 0 data.length = .ok data := by
  obtain ⟨saved, rfl, -, hroom, himage, hsaved⟩ := exists_of_save_memory h
  have hlimit : ({ saved with failing := false } : MemoryImage).limit 0 data.length =
      .ok data.length := by
    simp [MemoryImage.limit, hroom]
  have hfit : 0 + data.length ≤ image.image.length := by
    rw [image.length_image, Nat.zero_add]
    exact hroom
  change ({ saved with failing := false } : MemoryImage).load 0 data.length = _
  rw [MemoryImage.load, hlimit]
  dsimp only
  rw [if_pos (by omega), himage]
  exact congrArg Except.ok (slice_overwrite hfit)

theorem ne_empty_of_save_memory {image : MemoryImage} {data : Bytes} {after : Storage}
    (hsome : data ≠ []) (h : (memory image).save 0 data = .ok after) :
    after ≠ memory .empty := by
  obtain ⟨saved, rfl, -, -, -, hsaved⟩ := exists_of_save_memory h
  have hpositive := List.length_pos_iff.mpr hsome
  intro hempty
  cases hempty
  have hnothing : MemoryImage.empty.savedLength = 0 := rfl
  omega

end Storage

namespace Table

/-- The persistent registers that a start from the storage of a table would give if the storage
worked. -/
def recalled (table : Table) : Bytes :=
  match (table.storage.setFailing false).load 0 table.registers.persistentLength with
  | .ok data => data
  | .error _ =>
      (initialBytes table.peripheral table.length).take table.registers.persistentLength

theorem bytes_reloaded_eq {table fresh : Table}
    (hstorage : fresh.storage = table.storage.setFailing false)
    (hlength : fresh.length = table.length)
    (hpersistent : fresh.registers.persistentLength = table.registers.persistentLength)
    (hheader : fresh.peripheral.header = table.peripheral.header)
    (hleast : 6 ≤ table.registers.persistentLength) :
    fresh.reloaded.registers.bytes =
      table.recalled ++ List.replicate (table.length - table.registers.persistentLength) 0 := by
  rw [bytes_reloaded, hstorage, hlength, hpersistent]
  unfold recalled
  cases (table.storage.setFailing false).load 0 table.registers.persistentLength with
  | ok data => rfl
  | error cause =>
      dsimp only
      rw [← drop_initialBytes table.peripheral table.length hleast, List.take_append_drop,
        initialBytes, initialBytes, hheader]

theorem storage_saved_of_ok {table : Table} {after : Storage}
    (h : table.storage.save 0 table.registers.persistent = .ok after) :
    table.saved.storage = after := by
  rw [saved, h]

theorem length_persistent (table : Table) :
    table.registers.persistent.length = table.registers.persistentLength :=
  List.length_take_of_le table.registers.persistentLength_le

theorem length_recalled (table : Table) :
    table.recalled.length = table.registers.persistentLength := by
  unfold recalled
  cases hload : (table.storage.setFailing false).load 0 table.registers.persistentLength with
  | ok data => exact Storage.length_of_load hload
  | error cause =>
      have hinitial : (initialBytes table.peripheral table.length).length = table.length :=
        length_initialBytes table.peripheral table.returnDelay_lt
      apply List.length_take_of_le
      rw [hinitial]
      exact table.registers.persistentLength_le

theorem recalled_congr {table other : Table}
    (hstorage : other.storage.setFailing false = table.storage.setFailing false)
    (hlength : other.length = table.length)
    (hpersistent : other.registers.persistentLength = table.registers.persistentLength)
    (hheader : other.peripheral.header = table.peripheral.header) :
    other.recalled = table.recalled := by
  rw [recalled, recalled, hstorage, hlength, hpersistent, initialBytes, initialBytes, hheader]

theorem recalled_reloaded {table : Table}
    (hstorage : table.storage.setFailing false = table.storage)
    (hleast : 6 ≤ table.registers.persistentLength) :
    table.reloaded.recalled = table.reloaded.registers.persistent := by
  have hbytes : table.reloaded.registers.bytes = table.recalled ++ _ :=
    bytes_reloaded_eq hstorage.symm rfl rfl rfl hleast
  have hsame : table.reloaded.recalled = table.recalled :=
    recalled_congr (congrArg (Storage.setFailing · false) table.storage_reloaded)
      table.length_reloaded table.persistentLength_reloaded table.header_reloaded
  rw [hsame, Registers.persistent, hbytes, persistentLength_reloaded, ← table.length_recalled,
    List.take_left]

theorem exists_create {length persistent : Nat} (hleast : Offset.returnDelay.toNat < length)
    (hmost : length ≤ maxRegisters) (hpersistent : persistent ≤ length) (peripheral : Peripheral)
    (storage : Storage) :
    ∃ fresh, create length persistent peripheral storage = .ok fresh ∧ fresh.length = length ∧
      fresh.registers.persistentLength = persistent ∧ fresh.peripheral = peripheral ∧
      fresh.storage = storage := by
  have hregisters : ∃ registers, Registers.create length persistent = .ok registers ∧
      registers.persistentLength = persistent := by
    rw [Registers.create, dif_pos hmost, dif_pos hpersistent]
    exact ⟨_, rfl, rfl⟩
  obtain ⟨registers, hregisters, hkept⟩ := hregisters
  unfold create
  rw [dif_pos hleast]
  split
  · next fault hfault =>
      rw [hregisters] at hfault
      cases hfault
  · next made hmade =>
      have hlength := Registers.length_of_create hmade
      rw [hregisters] at hmade
      cases hmade
      exact ⟨_, rfl, hlength, hkept, rfl, rfl⟩

/-- A table recalls what storage has kept of it, if storage gives back what it keeps. -/
theorem recalled_saved_of_load {table : Table} {after : Storage}
    (h : table.storage.save 0 table.registers.persistent = .ok after)
    (hload : (after.setFailing false).load 0 table.registers.persistent.length =
      .ok table.registers.persistent) :
    table.saved.recalled = table.registers.persistent := by
  rw [table.length_persistent] at hload
  rw [recalled, storage_saved_of_ok h, registers_saved, hload]

theorem recalled_saved {table : Table} {image : MemoryImage} {after : Storage}
    (hmemory : table.storage = .memory image)
    (h : table.storage.save 0 table.registers.persistent = .ok after) :
    table.saved.recalled = table.registers.persistent := by
  have hkept := h
  rw [hmemory] at hkept
  exact recalled_saved_of_load h (Storage.load_of_save_memory hkept)

theorem exists_memory_saved {table : Table} {image : MemoryImage}
    (hmemory : table.storage = .memory image) :
    ∃ image, table.saved.storage = .memory image := by
  unfold saved
  split
  · next after hafter =>
      rw [hmemory] at hafter
      obtain ⟨saved, hsaved, -⟩ := Storage.exists_of_save_memory hafter
      exact ⟨saved, hsaved⟩
  · exact ⟨image, hmemory⟩

/-- A write that begins behind the persistent registers does not reach them. -/
theorem kept_applied {table : Table} {start : UInt8} {data : Bytes}
    (hstart : ¬table.isPersistent start) (hfit : start.toNat + data.length ≤ table.length) :
    (table.applied start data).storage = table.storage ∧
      (table.applied start data).registers.persistent = table.registers.persistent := by
  have hbehind : table.registers.persistentLength ≤ start.toNat := by
    simpa [isPersistent] using hstart
  refine ⟨?_, ?_⟩
  · rw [applied, if_neg hstart, storage_writtenFrom]
  · rw [registers_applied _ hfit]
    exact take_overwrite_of_le _ _ hbehind

end Table

namespace Device

/-! ## Attempts to store -/

def stores (device : Device) : Request → Bool
  | .write start _ => device.table.isPersistent start
  | .action => device.staged?.any fun write => device.table.isPersistent write.start
  | .reset => true
  | .ping | .read .. | .regWrite .. => false

theorem exists_saved_of_stores {device : Device} {request : Request}
    (h : device.stores request) :
    ∃ table : Table, (device.carriedOut request).table = table.saved ∧
      table.storage = device.table.storage := by
  have happlied : ∀ start data, device.table.isPersistent start →
      device.table.applied start data = (device.table.writtenFrom start.toNat data).saved := by
    intro start data hstart
    exact if_pos hstart
  cases request with
  | ping | read | regWrite => simp [stores] at h
  | write start data => exact ⟨_, happlied start data h, Table.storage_writtenFrom ..⟩
  | action =>
      unfold stores at h
      unfold carriedOut
      cases hstaged : device.staged? with
      | none => simp [hstaged] at h
      | some write =>
          rw [hstaged] at h
          exact ⟨_, happlied write.start write.data h, Table.storage_writtenFrom ..⟩
  | reset => exact ⟨_, rfl, Table.storage_restarted _⟩

theorem kept_of_not_stores {device : Device} (hsound : device.Sound) {request : Request}
    (hrefusal : request.refusal? device.table.length = none)
    (hmost : device.table.registers.persistentLength ≤ Offset.temperature.toNat)
    (h : ¬device.stores request) :
    (device.carriedOut request).table.storage = device.table.storage ∧
      (device.carriedOut request).table.registers.persistent =
        device.table.registers.persistent := by
  cases request with
  | ping | regWrite => exact ⟨rfl, rfl⟩
  | read start count =>
      refine ⟨Table.storage_refreshedFrom .., ?_⟩
      apply List.ext_getElem?
      intro index
      simp only [carriedOut, Registers.persistent, Table.persistentLength_refreshedFrom,
        List.getElem?_take]
      split
      · rw [Table.getElem?_refreshedFrom_of_ne_temperature]
        omega
      · rfl
  | write start data =>
      exact Table.kept_applied h (checkWrite_of_refusal?_eq_none hrefusal).2
  | action =>
      unfold stores at h
      unfold carriedOut
      cases hstaged : device.staged? with
      | none => exact ⟨rfl, rfl⟩
      | some write =>
          rw [hstaged] at h
          exact Table.kept_applied h (hsound.staged write hstaged)
  | reset => simp [stores] at h

theorem header_carriedOut (device : Device) (request : Request) :
    (device.carriedOut request).table.peripheral.header = device.table.peripheral.header :=
  carriedOut_keeps (fun table => table.peripheral.header) (by simp) (by simp) (by simp) device
    request

/-- Where nothing is stored, a start from the storage would give what it would have given before. -/
theorem recalled_of_not_stores {device : Device} (hsound : device.Sound) {request : Request}
    (hrefusal : request.refusal? device.table.length = none)
    (hmost : device.table.registers.persistentLength ≤ Offset.temperature.toNat)
    (h : ¬device.stores request) :
    (device.carriedOut request).table.recalled = device.table.recalled := by
  have hstorage := (kept_of_not_stores hsound hrefusal hmost h).1
  exact Table.recalled_congr (congrArg (Storage.setFailing · false) hstorage)
    (length_carriedOut device request) (persistentLength_carriedOut device request)
    (header_carriedOut device request)

/-- The device over a memory that works and has kept nothing yet. -/
def overEmpty (device : Device) : Device :=
  { device with table := { device.table with storage := .memory .empty } }

/-- A packet makes the device try to store its persistent registers. An empty memory would show a
trace of it. -/
def TriesToStore (device : Device) (packet : Packet) (status : ParseStatus) : Prop :=
  (device.overEmpty.handled packet status).table.storage ≠ .memory .empty

instance (device : Device) (packet : Packet) (status : ParseStatus) :
    Decidable (device.TriesToStore packet status) :=
  inferInstanceAs (Decidable (_ ≠ _))

/-- What comes of the attempt to store that a packet leads to, if it leads to one. -/
def saveFor? (device : Device) (packet : Packet) (status : ParseStatus) :
    Option (Except StorageError Unit) :=
  if device.TriesToStore packet status then
    some ((device.table.storage.save 0
      (device.handled packet status).table.registers.persistent).map fun _ => ())
  else none

theorem storage_carriedOut_overEmpty_ne {device : Device}
    (hleast : 0 < device.table.registers.persistentLength) {request : Request}
    (h : device.overEmpty.stores request) :
    (device.overEmpty.carriedOut request).table.storage ≠ .memory .empty := by
  obtain ⟨table, htable, hstorage⟩ := exists_saved_of_stores h
  have hempty : table.storage = .memory .empty := hstorage
  have hlength : table.registers.persistent.length = device.table.registers.persistentLength := by
    rw [table.length_persistent, ← table.registers_saved, ← htable, persistentLength_carriedOut]
    rfl
  have hroom : table.registers.persistent.length ≤ maxStored := by
    rw [hlength]
    exact Nat.le_trans device.table.registers.persistentLength_le device.table.length_le
  have hsome : table.registers.persistent ≠ [] := by
    apply List.ne_nil_of_length_pos
    rw [hlength]
    exact hleast
  have hworking : MemoryImage.empty.failing = false := rfl
  obtain ⟨after, hsave⟩ := Storage.exists_save_memory hworking hroom
  have hafter := Storage.ne_empty_of_save_memory hsome hsave
  rw [← hempty] at hsave
  rw [htable, Table.storage_saved_of_ok hsave]
  exact hafter

theorem triesToStore_iff {device : Device} (hsound : device.Sound)
    (hleast : 0 < device.table.registers.persistentLength)
    (hmost : device.table.registers.persistentLength ≤ Offset.temperature.toNat)
    (packet : Packet) (status : ParseStatus) :
    device.TriesToStore packet status ↔
      ∃ request, device.heeded? packet status = some request ∧ device.stores request := by
  have hempty : device.overEmpty.Sound := ⟨hsound.ordinary, hsound.staged⟩
  have hsame : device.overEmpty.heeded? packet status = device.heeded? packet status := rfl
  unfold TriesToStore
  rw [handled_eq hempty, hsame]
  cases hheeded : device.heeded? packet status with
  | none => simp [overEmpty]
  | some request =>
      have hrefusal := (heeded?_eq_some_iff.mp hheeded).2.2
      constructor
      · intro htrace
        refine ⟨request, rfl, Decidable.byContradiction ?_⟩
        intro hstore
        exact htrace (kept_of_not_stores hempty hrefusal hmost hstore).1
      · rintro ⟨_, ⟨⟩, hstore⟩
        exact storage_carriedOut_overEmpty_ne hleast hstore

/-- An attempt to store follows a request that asks for one, and it is made with the registers as
the request leaves them. -/
theorem saveFor?_eq {device : Device} (hsound : device.Sound)
    (hleast : 0 < device.table.registers.persistentLength)
    (hmost : device.table.registers.persistentLength ≤ Offset.temperature.toNat)
    (packet : Packet) (status : ParseStatus) :
    device.saveFor? packet status = (device.heeded? packet status).bind fun request =>
      if device.stores request then
        some ((device.table.storage.save 0
          (device.carriedOut request).table.registers.persistent).map fun _ => ())
      else none := by
  have htries := triesToStore_iff hsound hleast hmost packet status
  rw [saveFor?, handled_eq hsound]
  cases hheeded : device.heeded? packet status with
  | none => simp [htries, hheeded]
  | some request => simp [htries, hheeded]

/-! ## Devices that were started -/

/-- A device whose table was started as the given one is: it is of the same kind, and it keeps its
registers in memory. -/
structure StartedAs (start : Table) (device : Device) : Prop where
  sound : device.Sound
  length : device.table.length = start.length
  persistentLength :
    device.table.registers.persistentLength = start.registers.persistentLength
  header : device.table.peripheral.header = start.peripheral.header
  memory : ∃ image, device.table.storage = .memory image

theorem startedAs_carriedOut {start : Table} {device : Device} (h : StartedAs start device)
    (hmost : start.registers.persistentLength ≤ Offset.temperature.toNat) {request : Request}
    (hrefusal : request.refusal? device.table.length = none) :
    StartedAs start (device.carriedOut request) where
  sound := sound_carriedOut h.sound hrefusal
  length := (length_carriedOut device request).trans h.length
  persistentLength := (persistentLength_carriedOut device request).trans h.persistentLength
  header := (header_carriedOut device request).trans h.header
  memory := by
    obtain ⟨image, himage⟩ := h.memory
    rw [← h.persistentLength] at hmost
    by_cases hstore : device.stores request
    · obtain ⟨table, htable, hstorage⟩ := exists_saved_of_stores hstore
      rw [htable]
      exact Table.exists_memory_saved (hstorage.trans himage)
    · exact ⟨image, (kept_of_not_stores h.sound hrefusal hmost hstore).1.trans himage⟩

end Device

/-! ## Between two starts -/

inductive Event where
  | packet (packet : Packet) (status : ParseStatus)
  | storageFails (failing : Bool)

/-- A device since its power came on, and what its last attempt to store came to. -/
structure Lived where
  device : Device
  lastSave? : Option (Except StorageError Unit) := none

namespace Lived

def meet (lived : Lived) : Event → Lived
  | .packet packet status => {
      device := lived.device.handled packet status
      lastSave? := (lived.device.saveFor? packet status).or lived.lastSave? }
  | .storageFails failing =>
      { lived with
        device.table.storage := lived.device.table.storage.setFailing failing }

def meetAll (lived : Lived) (events : List Event) : Lived := events.foldl meet lived

/-- The last attempt to store succeeded, if there was one. -/
def StoredLast (lived : Lived) : Prop := ∀ cause, lived.lastSave? ≠ some (.error cause)

def Recovers (lived : Lived) : Prop :=
  lived.StoredLast → lived.device.table.recalled = lived.device.table.registers.persistent

theorem recovers_of_stores {device : Device} {image : MemoryImage}
    (hmemory : device.table.storage = .memory image) {request : Request}
    (hstore : device.stores request) :
    Recovers {
      device := device.carriedOut request
      lastSave? := some ((device.table.storage.save 0
        (device.carriedOut request).table.registers.persistent).map fun _ => ()) } := by
  obtain ⟨table, htable, hstorage⟩ := Device.exists_saved_of_stores hstore
  intro hlast
  simp only [StoredLast, htable, Table.registers_saved, ← hstorage] at hlast ⊢
  cases hsave : table.storage.save 0 table.registers.persistent with
  | error cause =>
      rw [hsave] at hlast
      exact absurd rfl (hlast cause)
  | ok after => exact Table.recalled_saved (hstorage.trans hmemory) hsave

theorem recovers_of_not_stores {lived : Lived} (h : lived.Recovers) (hsound : lived.device.Sound)
    {request : Request} (hrefusal : request.refusal? lived.device.table.length = none)
    (hmost : lived.device.table.registers.persistentLength ≤ Offset.temperature.toNat)
    (hstore : ¬lived.device.stores request) :
    Recovers { lived with device := lived.device.carriedOut request } := by
  have hregisters := (Device.kept_of_not_stores hsound hrefusal hmost hstore).2
  intro hlast
  dsimp only
  rw [hregisters, ← h hlast]
  exact Device.recalled_of_not_stores hsound hrefusal hmost hstore

variable {start : Table} {lived : Lived}

theorem kept_packet (hleast : 0 < start.registers.persistentLength)
    (hmost : start.registers.persistentLength ≤ Offset.temperature.toNat)
    (hstarted : lived.device.StartedAs start) (hrecovers : lived.Recovers)
    (packet : Packet) (status : ParseStatus) :
    (lived.meet (.packet packet status)).device.StartedAs start ∧
      (lived.meet (.packet packet status)).Recovers := by
  have hsound := hstarted.sound
  have hsome := hleast
  have hbefore := hmost
  rw [← hstarted.persistentLength] at hsome hbefore
  rw [meet, Device.saveFor?_eq hsound hsome hbefore, Device.handled_eq hsound]
  cases hheeded : lived.device.heeded? packet status with
  | none => exact ⟨hstarted, hrecovers⟩
  | some request =>
      have hrefusal := (Device.heeded?_eq_some_iff.mp hheeded).2.2
      refine ⟨Device.startedAs_carriedOut hstarted hmost hrefusal, ?_⟩
      by_cases hstore : lived.device.stores request
      · obtain ⟨image, himage⟩ := hstarted.memory
        rw [Option.bind_some, if_pos hstore, Option.some_or]
        exact recovers_of_stores himage hstore
      · rw [Option.bind_some, if_neg hstore, Option.none_or]
        exact recovers_of_not_stores hrecovers hsound hrefusal hbefore hstore

theorem kept_storageFails (hstarted : lived.device.StartedAs start) (hrecovers : lived.Recovers)
    (failing : Bool) :
    (lived.meet (.storageFails failing)).device.StartedAs start ∧
      (lived.meet (.storageFails failing)).Recovers := by
  obtain ⟨image, himage⟩ := hstarted.memory
  have hstorage : (lived.meet (.storageFails failing)).device.table.storage =
      .memory { image with failing } := by
    simp [meet, himage, Storage.setFailing]
  refine ⟨⟨⟨hstarted.sound.ordinary, hstarted.sound.staged⟩, hstarted.length,
    hstarted.persistentLength, hstarted.header, _, hstorage⟩, ?_⟩
  intro hlast
  have hworking : (lived.meet (.storageFails failing)).device.table.storage.setFailing false =
      lived.device.table.storage.setFailing false := by
    rw [hstorage, himage]
    rfl
  exact (Table.recalled_congr hworking rfl rfl rfl).trans (hrecovers hlast)

theorem kept_meetAll (hleast : 0 < start.registers.persistentLength)
    (hmost : start.registers.persistentLength ≤ Offset.temperature.toNat)
    (hstarted : lived.device.StartedAs start) (hrecovers : lived.Recovers) (events : List Event) :
    (lived.meetAll events).device.StartedAs start ∧ (lived.meetAll events).Recovers := by
  induction events generalizing lived with
  | nil => exact ⟨hstarted, hrecovers⟩
  | cons event events ih =>
      have hnext : (lived.meet event).device.StartedAs start ∧ (lived.meet event).Recovers := by
        cases event with
        | packet packet status => exact kept_packet hleast hmost hstarted hrecovers packet status
        | storageFails failing => exact kept_storageFails hstarted hrecovers failing
      exact ih hnext.1 hnext.2

/-- A servo whose table was loaded from memory that worked keeps its persistent registers over the
next start: whatever packets and failures of the memory it met, a new table over that memory comes
out of its load with those that the device has, unless the last attempt to store them failed. -/
theorem restored_of_storedLast {before : Table} {servo : Servo} {image : MemoryImage}
    (hservo : before.peripheral = .servo servo) (hmemory : before.storage = .memory image)
    (hworking : image.failing = false) (hleast : 6 ≤ before.registers.persistentLength)
    (hmost : before.registers.persistentLength ≤ Offset.temperature.toNat) :
    ∃ loaded, Table.load before = .ok () loaded ∧ ∀ events,
      let lived := meetAll { device := { table := loaded } } events
      let storage := lived.device.table.storage.setFailing false
      let persistent := before.registers.persistentLength
      lived.StoredLast → ∀ other : Servo, ∃ fresh restored,
        Table.create before.length persistent (.servo other) storage = .ok fresh ∧
          Table.load fresh = .ok () restored ∧
          restored.registers.bytes =
            lived.device.table.registers.bytes.take persistent ++
              List.replicate (before.length - persistent) 0 := by
  have hordinary : before.peripheral.IsOrdinary := by
    rw [hservo]
    trivial
  have hready : before.storage.setFailing false = before.storage := by
    rw [hmemory, Storage.setFailing, ← hworking]
  let first : Lived := { device := { table := before.reloaded } }
  have hfirst : first.device.StartedAs before := {
    sound := Device.sound_of_staged?_eq_none (Table.isOrdinary_reloaded hordinary) rfl
    length := before.length_reloaded
    persistentLength := before.persistentLength_reloaded
    header := before.header_reloaded
    memory := ⟨image, before.storage_reloaded.trans hmemory⟩ }
  have hrecovers : first.Recovers := fun _ => Table.recalled_reloaded hready hleast
  refine ⟨before.reloaded, Table.load_run hordinary, ?_⟩
  intro events lived storage persistent hlast other
  have hsome : 0 < before.registers.persistentLength := by omega
  obtain ⟨hstarted, hlived⟩ := kept_meetAll hsome hmost hfirst hrecovers events
  obtain ⟨fresh, hcreate, hlength, hpersistent, hperipheral, hstorage⟩ :=
    Table.exists_create before.returnDelay_lt before.length_le
      before.registers.persistentLength_le (.servo other) storage
  have hkind : fresh.peripheral.IsOrdinary := by
    rw [hperipheral]
    trivial
  have hheader : fresh.peripheral.header = lived.device.table.peripheral.header := by
    rw [hstarted.header, hperipheral, hservo]
    rfl
  refine ⟨fresh, fresh.reloaded, hcreate, Table.load_run hkind, ?_⟩
  rw [Table.bytes_reloaded_eq hstorage (hlength.trans hstarted.length.symm)
    (hpersistent.trans hstarted.persistentLength.symm) hheader
    (hstarted.persistentLength ▸ hleast), hlived hlast, Registers.persistent,
    hstarted.persistentLength, hstarted.length]

/-- The id is written while the memory fails, and is lost. The next write of a persistent register,
the baud register, stores both. -/
theorem restored_of_storedLast_id_and_baud :
    let registers : Registers := {
      bytes := List.replicate 50 0
      persistentLength := 24
      length_le := by decide
      persistentLength_le := by decide }
    let before : Table := {
      registers
      peripheral := .servo {}
      storage := .memory .empty
      returnDelay_lt := by decide }
    let lost : List Event := [
      .storageFails true,
      .packet (Packet.roomy.fill ⟨0⟩ Instruction.write.code [Offset.id, 5]) .complete]
    let healed : List Event := lost ++ [
      .storageFails false,
      .packet (Packet.roomy.fill ⟨5⟩ Instruction.write.code [Offset.baud, 3]) .complete]
    ∃ loaded, Table.load before = .ok () loaded ∧
      let first : Lived := { device := { table := loaded } }
      let storage := (first.meetAll healed).device.table.storage.setFailing false
      ¬(first.meetAll lost).StoredLast ∧ (first.meetAll healed).StoredLast ∧
        ∃ fresh restored,
          Table.create before.length before.registers.persistentLength (.servo {}) storage =
              .ok fresh ∧
            Table.load fresh = .ok () restored ∧
            restored.registers.bytes = [0x0C, 0x00, 0x01, 5, 3, 250] ++ List.replicate 44 0 := by
  intro registers before lost healed
  have hservo : before.peripheral = .servo {} := rfl
  have hmemory : before.storage = .memory .empty := rfl
  have hworking : MemoryImage.empty.failing = false := rfl
  have hleast : 6 ≤ before.registers.persistentLength := by decide
  have hmost : before.registers.persistentLength ≤ Offset.temperature.toNat := by decide
  obtain ⟨loaded, hload, hrestored⟩ :=
    restored_of_storedLast hservo hmemory hworking hleast hmost
  have hordinary : before.peripheral.IsOrdinary := trivial
  obtain rfl := Table.eq_reloaded_of_load hordinary hload
  have hfailed : (meetAll { device := { table := before.reloaded } } lost).lastSave?.map
      Except.isOk = some false := by decide +kernel
  have hsaved : (meetAll { device := { table := before.reloaded } } healed).lastSave?.map
      Except.isOk = some true := by decide +kernel
  have hregisters : (meetAll { device := { table := before.reloaded } }
      healed).device.table.registers.bytes.take before.registers.persistentLength ++
        List.replicate (before.length - before.registers.persistentLength) 0 =
      [0x0C, 0x00, 0x01, 5, 3, 250] ++ List.replicate 44 0 := by decide +kernel
  have hstored : (meetAll { device := { table := before.reloaded } } healed).StoredLast := by
    intro cause hcause
    rw [hcause] at hsaved
    cases hsaved
  obtain ⟨fresh, restored, hcreate, hfresh, hbytes⟩ := hrestored healed hstored {}
  refine ⟨before.reloaded, hload, ?_, hstored, fresh, restored, hcreate, hfresh,
    hbytes.trans hregisters⟩
  intro hlast
  obtain ⟨outcome, houtcome, herror⟩ := Option.map_eq_some_iff.mp hfailed
  cases outcome with
  | ok => cases herror
  | error cause => exact hlast cause houtcome

end Lived

end ServoBus
