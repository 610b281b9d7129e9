import ServoBus.Proofs.PowerCycle
import ServoBus.Service

/-!
# One connection after another

A served device is made anew for every connection, out of its file. Whatever bytes the masters
before have sent, and wherever their connections ended, the device begins with the persistent
registers that it had last and with nothing else: nothing staged, nothing of a frame, zeros behind
the persistent registers (`Service.serve_run`). A connection that ends before a reply is sent is one
that ends behind the frame.

The file holds what the next start needs because a start from it would at any time give the
persistent registers that the device has (`Device.Lasting`). A file that is too short or not there
need not be written for that: as long as nothing was stored, the registers are the initial ones.
-/

namespace ServoBus

/-! ## Connections -/

/-- What a served device learns of a master. -/
inductive Arrival where
  | bytes (bytes : Bytes)
  | silence (milliseconds : Nat)

namespace Connection

def meet (connection : Connection) : Arrival → Connection
  | .bytes bytes => (connection.hear bytes).audience
  | .silence milliseconds => connection.wait milliseconds

def meetAll (connection : Connection) (arrivals : List Arrival) : Connection :=
  arrivals.foldl meet connection

end Connection

structure Visit where
  opened : Connection
  closed : Connection

/-- Serves masters one after another, each of them until its connection ends. -/
def Service.serve (service : Service) : List (List Arrival) → Except Fault (List Visit)
  | [] => .ok []
  | arrivals :: others =>
      match service.accept with
      | .error fault => .error fault
      | .ok opened =>
          let closed := opened.meetAll arrivals
          ((service.close closed).serve others).map fun visits => ⟨opened, closed⟩ :: visits

/-! ## Files -/

namespace FileEntry

/-- A regular file, or a place where one can be created. -/
def IsPlain : FileEntry → Prop
  | regular _ | absent => True
  | directory | nullDevice | fullDevice | barred .. => False

/-- The persistent registers that a device begins with over a file: the first bytes of the file, or
the initial values of a servo if there are too few. -/
def held (entry : FileEntry) : Bytes :=
  match entry.content?.filter fun content => Service.persistentLength ≤ content.length with
  | some content => content.take Service.persistentLength
  | none => [0x0C, 0x00, 0x01, 0, 1, 250] ++ List.replicate 18 0

end FileEntry

namespace StoredFile

theorem load_prefix (path : String) {data : Bytes} (rest : Bytes) (hroom : data.length ≤ maxLoad) :
    (StoredFile.mk path (.regular (data ++ rest))).load 0 data.length = .ok data := by
  have hfit : (0 : UInt8).toNat + data.length ≤ (data ++ rest).length ∨ data.length = 0 := by
    refine Or.inl ?_
    rw [List.length_append]
    exact Nat.le_trans (Nat.le_of_eq (Nat.zero_add _)) (Nat.le_add_right ..)
  have hfront : slice (data ++ rest) (0 : UInt8).toNat data.length = data := List.take_left
  rw [load, if_neg (Nat.not_lt.mpr hroom)]
  dsimp only
  rw [if_pos hfit, hfront]

/-- Whatever stands in a plain file, it takes bytes from the first on and gives them back. -/
theorem exists_save_of_isPlain {file : StoredFile} (hplain : file.entry.IsPlain) {data : Bytes}
    (hroom : data.length ≤ maxLoad) :
    ∃ saved, file.save 0 data = .ok saved ∧ saved.entry.IsPlain ∧
      saved.load 0 data.length = .ok data := by
  have hcontent : ∃ content, file.save 0 data =
      .ok { file with entry := .regular (writeAt content 0 data) } := by
    unfold save
    cases hentry : file.entry with
    | regular content => exact ⟨content, rfl⟩
    | absent => exact ⟨[], rfl⟩
    | directory | nullDevice | fullDevice | barred => simp [hentry, FileEntry.IsPlain] at hplain
  obtain ⟨content, hsave⟩ := hcontent
  rw [writeAt_zero] at hsave
  exact ⟨_, hsave, trivial, load_prefix _ _ hroom⟩

end StoredFile

theorem Peripheral.exists_servo_iff {peripheral : Peripheral} :
    (∃ servo, peripheral = .servo servo) ↔ peripheral.header = [0x0C, 0x00, 0x01] := by
  cases peripheral with
  | servo servo => simp [Peripheral.header]
  | bare | probe => simp [Peripheral.header]

theorem Peripheral.isOrdinary_of_servo {peripheral : Peripheral}
    (h : ∃ servo, peripheral = .servo servo) : peripheral.IsOrdinary := by
  obtain ⟨servo, rfl⟩ := h
  trivial

namespace Table

/-! ## Tables of a served device -/

/-- The table of a served device: it has the standard sizes, a servo and a plain file. -/
structure Standard (table : Table) : Prop where
  length : table.length = Service.tableLength
  persistentLength : table.registers.persistentLength = Service.persistentLength
  header : table.peripheral.header = [0x0C, 0x00, 0x01]
  file : ∃ file, table.storage = .file file ∧ file.entry.IsPlain

theorem standard_of_same {table other : Table} (h : table.Standard)
    (hlength : other.length = table.length)
    (hpersistent : other.registers.persistentLength = table.registers.persistentLength)
    (hheader : other.peripheral.header = table.peripheral.header)
    (hstorage : other.storage = table.storage) : other.Standard where
  length := hlength.trans h.length
  persistentLength := hpersistent.trans h.persistentLength
  header := hheader.trans h.header
  file := by
    rw [hstorage]
    exact h.file

theorem isOrdinary_of_standard {table : Table} (h : table.Standard) :
    table.peripheral.IsOrdinary :=
  Peripheral.isOrdinary_of_servo (Peripheral.exists_servo_iff.mpr h.header)

/-- Nothing keeps such a table from being stored, and what was stored is what it then recalls. -/
theorem standard_saved {table : Table} (h : table.Standard) :
    table.saved.Standard ∧ table.saved.recalled = table.registers.persistent := by
  obtain ⟨file, hfile, hplain⟩ := h.file
  have hroom : table.registers.persistent.length ≤ maxLoad := by
    rw [table.length_persistent, h.persistentLength]
    decide
  obtain ⟨saved, hsave, hsaved, hload⟩ := StoredFile.exists_save_of_isPlain hplain hroom
  have hkept : table.storage.save 0 table.registers.persistent = .ok (.file saved) := by
    rw [hfile, Storage.save, hsave]
    rfl
  refine ⟨⟨?_, ?_, ?_, saved, storage_saved_of_ok hkept, hsaved⟩, ?_⟩
  · rw [length_saved, h.length]
  · rw [registers_saved, h.persistentLength]
  · rw [peripheral_saved, h.header]
  · exact recalled_saved_of_load hkept hload

theorem recalled_eq_held {table : Table} (h : table.Standard) {file : StoredFile}
    (hfile : table.storage = .file file) : table.recalled = file.entry.held := by
  have hinitial : (initialBytes table.peripheral table.length).take Service.persistentLength =
      [0x0C, 0x00, 0x01, 0, 1, 250] ++ List.replicate 18 0 := by
    rw [initialBytes, h.header, h.length]
    rfl
  have hplain : file.entry.IsPlain := by
    obtain ⟨same, hsame, hplain⟩ := h.file
    rw [hfile] at hsame
    cases hsame
    exact hplain
  have hroom : ¬maxLoad < Service.persistentLength := by decide
  have hload : ((Storage.file file).setFailing false).load 0 Service.persistentLength =
      file.load 0 Service.persistentLength := rfl
  rw [recalled, hfile, h.persistentLength, hload, StoredFile.load, if_neg hroom, FileEntry.held]
  cases hentry : file.entry with
  | regular content =>
      have hsome : Service.persistentLength ≠ 0 := by decide
      by_cases hlong : Service.persistentLength ≤ content.length
      · simp [FileEntry.content?, Option.filter, hlong, slice]
      · simp [FileEntry.content?, Option.filter, hlong, hsome, StoredFile.failed, hinitial]
  | absent => exact hinitial
  | directory | nullDevice | fullDevice | barred => simp [hentry, FileEntry.IsPlain] at hplain

/-! ## The start of a connection -/

def prepared (table : Table) (deviceId? : Option Id) : Table :=
  match deviceId? with
  | none => table.reloaded
  | some id =>
      if table.reloaded.registers.byteAt Offset.id.toNat = id.byte then table.reloaded
      else (table.reloaded.written Offset.id id.byte).saved

theorem refreshed_of_ne_temperature (table : Table) {offset : UInt8}
    (h : offset ≠ Offset.temperature) : table.refreshed offset = table := by
  unfold refreshed
  split
  · exact if_neg h
  · rfl
  · rfl

theorem prepare_run {table : Table} (h : table.peripheral.IsOrdinary) (deviceId? : Option Id) :
    Service.prepare deviceId? table = .ok () (table.prepared deviceId?) := by
  have hordinary := isOrdinary_reloaded h
  have hid : Offset.id.toNat < table.reloaded.length :=
    Nat.lt_trans (by decide) table.reloaded.returnDelay_lt
  unfold Service.prepare prepared
  rw [bind_of_ok (load_run h)]
  cases deviceId? with
  | none => rfl
  | some id =>
      have hread := readByte_run hordinary hid
      rw [refreshed_of_ne_temperature _ (by decide)] at hread
      dsimp only
      rw [bind_of_ok hread]
      by_cases hsame : table.reloaded.registers.byteAt Offset.id.toNat = id.byte
      · rw [if_pos hsame, if_neg (not_not_intro hsame)]
        rfl
      · rw [if_neg hsame, if_pos hsame, bind_of_ok (writeByte_run hordinary hid id.byte)]
        exact Device.saveTable_run _

@[simp] theorem length_prepared (table : Table) (deviceId? : Option Id) :
    (table.prepared deviceId?).length = table.length := by
  unfold prepared
  split
  · exact length_reloaded table
  · split <;> simp

@[simp] theorem persistentLength_prepared (table : Table) (deviceId? : Option Id) :
    (table.prepared deviceId?).registers.persistentLength = table.registers.persistentLength := by
  unfold prepared
  split
  · exact persistentLength_reloaded table
  · split <;> simp

@[simp] theorem header_prepared (table : Table) (deviceId? : Option Id) :
    (table.prepared deviceId?).peripheral.header = table.peripheral.header := by
  unfold prepared
  split
  · exact header_reloaded table
  · split <;> simp

theorem standard_prepared {table : Table} (h : table.Standard) (deviceId? : Option Id) :
    (table.prepared deviceId?).Standard ∧
      (table.prepared deviceId?).recalled = (table.prepared deviceId?).registers.persistent := by
  have hreloaded : table.reloaded.Standard :=
    standard_of_same h table.length_reloaded table.persistentLength_reloaded table.header_reloaded
      table.storage_reloaded
  have hrecalled : table.reloaded.recalled = table.reloaded.registers.persistent := by
    obtain ⟨file, hfile, -⟩ := h.file
    refine recalled_reloaded ?_ ?_
    · rw [hfile]
      rfl
    · rw [h.persistentLength]
      decide
  unfold prepared
  split
  · exact ⟨hreloaded, hrecalled⟩
  · next id =>
      split
      · exact ⟨hreloaded, hrecalled⟩
      · have hsize : (table.reloaded.written Offset.id id.byte).registers.persistentLength =
            table.reloaded.registers.persistentLength := by
          rw [registers_written]
          rfl
        have hwritten : (table.reloaded.written Offset.id id.byte).Standard :=
          standard_of_same hreloaded (length_written ..) hsize (header_written ..)
            (storage_written ..)
        obtain ⟨hsaved, hsame⟩ := standard_saved hwritten
        rw [registers_saved]
        exact ⟨hsaved, hsame⟩

theorem bytes_prepared {table : Table} (h : table.Standard) {file : StoredFile}
    (hfile : table.storage = .file file) (deviceId? : Option Id) :
    (table.prepared deviceId?).registers.bytes =
      deviceId?.elim file.entry.held (fun id => file.entry.held.set Offset.id.toNat id.byte) ++
        List.replicate (Service.tableLength - Service.persistentLength) 0 := by
  have hloaded : table.reloaded.registers.bytes =
      file.entry.held ++ List.replicate (Service.tableLength - Service.persistentLength) 0 := by
    have hready : table.storage = table.storage.setFailing false := by
      rw [hfile]
      rfl
    have hleast : 6 ≤ table.registers.persistentLength := by
      rw [h.persistentLength]
      decide
    rw [bytes_reloaded_eq hready rfl rfl rfl hleast, recalled_eq_held h hfile, h.length,
      h.persistentLength]
  have hheld : file.entry.held.length = Service.persistentLength := by
    rw [← recalled_eq_held h hfile, length_recalled, h.persistentLength]
  have hid : Offset.id.toNat < file.entry.held.length := by
    rw [hheld]
    decide
  unfold prepared
  cases deviceId? with
  | none => exact hloaded
  | some id =>
      dsimp only [Option.elim_some]
      split
      · next hsame =>
          have hset : file.entry.held.set Offset.id.toNat id.byte = file.entry.held := by
            rw [Registers.byteAt, hloaded, List.getD_eq_getElem?_getD,
              List.getElem?_append_left hid, List.getElem?_eq_getElem hid] at hsame
            rw [← hsame]
            exact List.set_getElem_self hid
          rw [hset, hloaded]
      · rw [registers_saved, registers_written]
        change overwrite table.reloaded.registers.bytes Offset.id.toNat [id.byte] = _
        rw [overwrite_singleton, hloaded, List.set_append_left _ _ hid]

end Table

/-! ## While a connection lasts -/

/-- A device of a service that can have come about: a start from its file would give the persistent
registers that it has. -/
structure Device.Lasting (device : Device) : Prop where
  sound : device.Sound
  standard : device.table.Standard
  recalled : device.table.recalled = device.table.registers.persistent

namespace Device

theorem lasting_carriedOut {device : Device} (h : device.Lasting) {request : Request}
    (hrefusal : request.refusal? device.table.length = none) :
    (device.carriedOut request).Lasting := by
  have hsound := sound_carriedOut h.sound hrefusal
  have hlength := length_carriedOut device request
  have hpersistent := persistentLength_carriedOut device request
  have hheader := header_carriedOut device request
  by_cases hstore : device.stores request
  · obtain ⟨table, htable, hstorage⟩ := exists_saved_of_stores hstore
    rw [htable, Table.length_saved] at hlength
    rw [htable, Table.registers_saved] at hpersistent
    rw [htable, Table.peripheral_saved] at hheader
    have hready : table.Standard :=
      Table.standard_of_same h.standard hlength hpersistent hheader hstorage
    obtain ⟨hstandard, hrecalled⟩ := Table.standard_saved hready
    refine ⟨hsound, ?_, ?_⟩
    · rw [htable]
      exact hstandard
    · rw [htable, Table.registers_saved]
      exact hrecalled
  · have hmost : device.table.registers.persistentLength ≤ Offset.temperature.toNat := by
      rw [h.standard.persistentLength]
      decide
    obtain ⟨hstorage, hregisters⟩ := kept_of_not_stores h.sound hrefusal hmost hstore
    refine ⟨hsound, ?_, ?_⟩
    · exact Table.standard_of_same h.standard hlength hpersistent hheader hstorage
    · rw [hregisters, ← h.recalled]
      exact recalled_of_not_stores h.sound hrefusal hmost hstore

theorem lasting_handled {device : Device} (h : device.Lasting) (packet : Packet)
    (status : ParseStatus) : (device.handled packet status).Lasting := by
  rw [handled_eq h.sound]
  cases hheeded : device.heeded? packet status with
  | none => exact h
  | some request => exact lasting_carriedOut h (heeded?_eq_some_iff.mp hheeded).2.2

end Device

namespace Connection

theorem lasting_hear {connection : Connection} (h : connection.device.Lasting) (bytes : Bytes) :
    (connection.hear bytes).audience.device.Lasting := by
  induction bytes generalizing connection with
  | nil => exact h
  | cons byte rest ih =>
      have hrun := Device.handle_run h.sound (connection.assembly.accept byte).1
        (connection.assembly.accept byte).2
      have hafter := Device.lasting_handled h (connection.assembly.accept byte).1
        (connection.assembly.accept byte).2
      rw [Device.handled, hrun] at hafter
      rw [hear]
      dsimp only
      split
      · exact ih h
      · rw [hrun]
        exact ih hafter

theorem lasting_meet {connection : Connection} (h : connection.device.Lasting)
    (arrival : Arrival) : (connection.meet arrival).device.Lasting := by
  cases arrival with
  | bytes bytes => exact lasting_hear h bytes
  | silence milliseconds =>
      have hsame : (connection.wait milliseconds).device = connection.device := by
        unfold wait
        split <;> rfl
      rw [meet, hsame]
      exact h

theorem lasting_meetAll {connection : Connection} (h : connection.device.Lasting)
    (arrivals : List Arrival) : (connection.meetAll arrivals).device.Lasting := by
  induction arrivals generalizing connection with
  | nil => exact h
  | cons arrival arrivals ih => exact ih (lasting_meet h arrival)

/-- A connection that begins with the persistent registers that were held before, but for the id
that the device is to have, and with nothing else. -/
structure BeginsWith (connection : Connection) (deviceId? : Option Id) (held : Bytes) : Prop where
  registers : connection.device.table.registers.bytes =
    deviceId?.elim held (fun id => held.set Offset.id.toNat id.byte) ++
      List.replicate (Service.tableLength - Service.persistentLength) 0
  staged : connection.device.staged? = none
  assembly : connection.assembly = Packet.roomy

/-- Whatever reaches the device over a connection, it can handle any packet. -/
def Serves (connection : Connection) : Prop :=
  ∀ arrivals packet status, ∃ reply? after,
    (connection.meetAll arrivals).device.handle packet status = .ok reply? after

theorem serves_of_lasting {connection : Connection} (h : connection.device.Lasting) :
    connection.Serves := by
  intro arrivals packet status
  exact ⟨_, _, Device.handle_run (lasting_meetAll h arrivals).sound packet status⟩

end Connection

namespace Service

/-! ## From one connection to the next -/

theorem accept_run (service : Service) (hplain : service.storage.entry.IsPlain) :
    ∃ opened, service.accept = .ok opened ∧ opened.device.Lasting ∧
      opened.BeginsWith service.deviceId? service.storage.entry.held := by
  have hleast : Offset.returnDelay.toNat < tableLength := by decide
  have hmost : tableLength ≤ maxRegisters := by decide
  have hkept : persistentLength ≤ tableLength := by decide
  obtain ⟨fresh, hcreate, hlength, hpersistent, hperipheral, hstorage⟩ :=
    Table.exists_create hleast hmost hkept (.servo service.servo) (.file service.storage)
  have hstandard : fresh.Standard := {
    length := hlength
    persistentLength := hpersistent
    header := by
      rw [hperipheral]
      rfl
    file := ⟨service.storage, hstorage, hplain⟩ }
  have hordinary := Table.isOrdinary_of_standard hstandard
  obtain ⟨hprepared, hrecalled⟩ := Table.standard_prepared hstandard service.deviceId?
  let opened : Connection := {
    device := { table := fresh.prepared service.deviceId? }
    readTimeout := service.config.readTimeout }
  refine ⟨opened, ?_, ?_, ?_⟩
  · rw [accept, hcreate]
    dsimp only
    rw [Table.prepare_run hordinary]
  · exact ⟨Device.sound_of_staged?_eq_none (Table.isOrdinary_of_standard hprepared) rfl, hprepared,
      hrecalled⟩
  · exact ⟨Table.bytes_prepared hstandard hstorage service.deviceId?, rfl, rfl⟩

theorem held_close (service : Service) {closed : Connection} (h : closed.device.Lasting) :
    (service.close closed).storage.entry.IsPlain ∧
      (service.close closed).storage.entry.held = closed.device.table.registers.persistent ∧
      (service.close closed).deviceId? = service.deviceId? := by
  obtain ⟨servo, hservo⟩ := Peripheral.exists_servo_iff.mpr h.standard.header
  obtain ⟨file, hfile, hplain⟩ := h.standard.file
  have hclose : service.close closed = { service with servo, storage := file } := by
    rw [close, hservo, hfile]
  rw [hclose, ← h.recalled, Table.recalled_eq_held h.standard hfile]
  exact ⟨hplain, rfl, rfl⟩

/-- Each connection begins with the persistent registers that the one before ended with. -/
def Follows (deviceId? : Option Id) (held : Bytes) : List Visit → Prop
  | [] => True
  | visit :: visits =>
      visit.opened.BeginsWith deviceId? held ∧
        Follows deviceId? (visit.closed.device.table.registers.bytes.take persistentLength) visits

/-- A service over a plain file takes every master in turn, and no byte that a master sends makes
the device meet a fault. The first connection begins with what the file holds, and each later one
with the persistent registers that the device had when the one before ended. -/
theorem serve_run (service : Service) (hplain : service.storage.entry.IsPlain)
    (masters : List (List Arrival)) :
    ∃ visits, service.serve masters = .ok visits ∧ visits.length = masters.length ∧
      Follows service.deviceId? service.storage.entry.held visits ∧
      ∀ visit ∈ visits, visit.opened.Serves := by
  induction masters generalizing service with
  | nil => exact ⟨[], rfl, rfl, trivial, by simp⟩
  | cons arrivals others ih =>
      obtain ⟨opened, haccept, hlasting, hbegins⟩ := service.accept_run hplain
      have hclosed := Connection.lasting_meetAll hlasting arrivals
      obtain ⟨hnext, hheld, hid⟩ := held_close service hclosed
      obtain ⟨visits, hserve, hlength, hfollows, hserves⟩ := ih _ hnext
      have htake : (opened.meetAll arrivals).device.table.registers.bytes.take persistentLength =
          (opened.meetAll arrivals).device.table.registers.persistent := by
        rw [Registers.persistent, hclosed.standard.persistentLength]
      rw [hheld, hid, ← htake] at hfollows
      refine ⟨⟨opened, opened.meetAll arrivals⟩ :: visits, ?_, ?_, ⟨hbegins, hfollows⟩, ?_⟩
      · rw [serve, haccept]
        dsimp only
        rw [hserve, Except.map]
      · rw [List.length_cons, List.length_cons, hlength]
      · exact List.forall_mem_cons.mpr ⟨Connection.serves_of_lasting hlasting, hserves⟩

/-- A file is too short, and the device is to have the id 7. The first master sets the baud register
to 3, stages a write and goes away in the middle of another one. The next one sends what is missing
of that write and then asks for the staged one, both in vain. -/
theorem serve_run_short_file :
    let service : Service := {
      config := {}
      address := { host := .name "localhost", service := 7000 }
      deviceId? := some ⟨7⟩
      storage := ⟨"servo.bin", .regular [1, 2, 3]⟩ }
    let setBaud : Bytes := [0xFF, 0xFF, 7, 4, 0x03, Offset.baud, 3, 0xEA]
    let stage : Bytes := [0xFF, 0xFF, 7, 4, 0x04, Offset.returnDelay, 5, 0xE6]
    let cut : Bytes := [0xFF, 0xFF, 7, 4, 0x03, Offset.returnDelay, 9, 0xE3]
    let act : Bytes := [0xFF, 0xFF, 7, 2, 0x05, 0xF1]
    let masters : List (List Arrival) := [
      [.bytes setBaud, .bytes (stage ++ cut.take 5)],
      [.bytes (cut.drop 5), .silence 100, .bytes act]]
    let begun (baud : UInt8) := [0x0C, 0x00, 1, 7, baud, 250] ++ List.replicate 44 0
    service.storage.entry.IsPlain ∧
      ∃ visits, service.serve masters = .ok visits ∧ (∀ visit ∈ visits, visit.opened.Serves) ∧
        visits.map (fun visit => (visit.opened.device.table.registers.bytes,
          visit.closed.device.table.registers.bytes)) =
            [(begun 1, begun 3), (begun 3, begun 3)] := by
  intro service setBaud stage cut act masters begun
  have hplain : service.storage.entry.IsPlain := trivial
  obtain ⟨visits, hserve, -, -, hserves⟩ := service.serve_run hplain masters
  have hbytes : (service.serve masters).toOption.map (List.map fun visit =>
      (visit.opened.device.table.registers.bytes, visit.closed.device.table.registers.bytes)) =
        some [(begun 1, begun 3), (begun 3, begun 3)] := by decide +kernel
  rw [hserve] at hbytes
  exact ⟨hplain, visits, hserve, hserves, Option.some.inj hbytes⟩

end Service

end ServoBus
