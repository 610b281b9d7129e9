import ServoBus.Proofs.InStep
import ServoBus.Proofs.Succession

/-!
# A lamp that outlives its table

A servo goes from one table to the next and takes its lamp along. A load clears the register of
the lamp, and the servo learns nothing of it: a lamp that shines when a load succeeds goes on
shining over a register that is zero (`Device.shines_over_zero_after_load`). It does so until the
register is written or the table restarted, or until a load fails. At any other time it shines
exactly if its register is not zero (`Watched.shines_iff_of_begun`).
-/

namespace ServoBus

/-! ## What befalls a table -/

/-- What can be done to the table of a servo. -/
inductive TableEvent where
  | restart
  /-- A load from storage with any content. -/
  | load (storage : Storage)
  /-- A new table for the servo, as every connection makes it. -/
  | connect (storage : Storage) (deviceId? : Option Id)
  | packet (packet : Packet) (status : ParseStatus)

/-- A restart or a load, of the table that is there or of a new one. -/
def TableEvent.Begins : TableEvent → Prop
  | restart | load _ | connect .. => True
  | packet .. => False

def Table.shines (table : Table) : Bool :=
  match table.peripheral with
  | .servo servo => servo.ledOn
  | .bare | .probe _ => false

namespace Device

def acted (device : Device) (action : TableM Unit) : Device :=
  match onTable action device with
  | .ok _ after | .error _ after => after

def undergone (device : Device) : TableEvent → Device
  | .restart => device.acted Table.reset
  | .load storage => { device with table.storage := storage }.acted Table.load
  | .connect storage deviceId? =>
      match Table.create device.table.length device.table.registers.persistentLength
          device.table.peripheral storage with
      | .error _ => device
      | .ok table => { table : Device }.acted (Service.prepare deviceId?)
  | .packet packet status => device.handled packet status

def reachesLamp (start : UInt8) (data : Bytes) : Bool :=
  start.toNat ≤ Offset.led.toNat && Offset.led.toNat < start.toNat + data.length

theorem reachesLamp_iff {start : UInt8} {data : Bytes} :
    reachesLamp start data = true ↔
      start.toNat ≤ Offset.led.toNat ∧ Offset.led.toNat < start.toNat + data.length := by
  simp [reachesLamp]

/-- Whether a request, once it is carried out, has set the lamp anew. -/
def setsLamp (device : Device) : Request → Bool
  | .write start data => reachesLamp start data
  | .action => device.staged?.any fun write => reachesLamp write.start write.data
  | .reset => true
  | .ping | .read .. | .regWrite .. => false

end Device

/-- A device, and whether its lamp was left lit: it shone when a load succeeded, and nothing has set
it since. -/
structure Watched where
  device : Device
  leftLit : Bool := false

namespace Watched

def undergo (watched : Watched) (event : TableEvent) : Watched where
  device := watched.device.undergone event
  leftLit :=
    match event with
    | .restart => false
    | .load storage | .connect storage _ =>
        watched.device.table.shines &&
          (storage.load 0 watched.device.table.registers.persistentLength).isOk
    | .packet packet status =>
        watched.leftLit && !(watched.device.heeded? packet status).any watched.device.setsLamp

def undergoAll (watched : Watched) (events : List TableEvent) : Watched :=
  events.foldl undergo watched

end Watched

namespace Table

/-! ## The lamp and its register -/

/-- The lamp shines if its register is not zero, or else if it was left lit. -/
structure LampShows (table : Table) (leftLit : Bool) : Prop where
  shines : table.shines = true ↔
    table.registers.byteAt Offset.led.toNat ≠ 0 ∨ leftLit = true
  register : leftLit = true → table.registers.byteAt Offset.led.toNat = 0

theorem shines_of_servo {table : Table} {servo : Servo} (h : table.peripheral = .servo servo) :
    table.shines = servo.ledOn := by
  rw [shines, h]

theorem lampShows_congr {table other : Table} {leftLit : Bool} (h : table.LampShows leftLit)
    (hperipheral : other.peripheral = table.peripheral)
    (hbyte : other.registers.byteAt Offset.led.toNat = table.registers.byteAt Offset.led.toNat) :
    other.LampShows leftLit := by
  have hshines : other.shines = table.shines := by rw [shines, shines, hperipheral]
  refine ⟨?_, ?_⟩
  · rw [hshines, hbyte]
    exact h.shines
  · rw [hbyte]
    exact h.register

theorem lampShows_of_follows {table : Table} (hled : Offset.led.toNat < table.length)
    (h : table.LampFollows) : table.LampShows false := by
  obtain ⟨servo, hservo, hlamp⟩ := h
  refine ⟨?_, by simp⟩
  rw [shines_of_servo hservo, hlamp hled]
  simp

/-- Over a register that is zero, a lamp shines only because it was left lit. -/
theorem lampShows_of_byteAt_eq_zero {table : Table}
    (h : table.registers.byteAt Offset.led.toNat = 0) : table.LampShows table.shines where
  shines := by simp [h]
  register := fun _ => h

/-! ## Loads -/

theorem lampShows_restarted {table : Table} (hlamp : Offset.led.toNat < table.length)
    (hservo : ∃ servo, table.peripheral = .servo servo) : table.restarted.LampShows false :=
  lampShows_of_follows (by rw [length_restarted]; exact hlamp) (lampFollows_restarted hservo)

/-- A load that succeeds clears the register of the lamp and leaves the lamp as it is. -/
theorem lampShows_reloaded {table : Table}
    (hkept : table.registers.persistentLength ≤ Offset.led.toNat)
    (hlamp : Offset.led.toNat < table.length)
    (hservo : ∃ servo, table.peripheral = .servo servo) :
    table.reloaded.LampShows
      (table.shines && (table.storage.load 0 table.registers.persistentLength).isOk) := by
  have hbytes := table.bytes_reloaded
  cases hload : table.storage.load 0 table.registers.persistentLength with
  | ok data =>
      rw [hload] at hbytes
      have hdata := Storage.length_of_load hload
      have hzero : table.reloaded.registers.byteAt Offset.led.toNat = 0 := by
        rw [Registers.byteAt, hbytes, List.getD_eq_getElem?_getD,
          List.getElem?_append_right (by omega), List.getElem?_replicate]
        split <;> rfl
      have hshines : table.reloaded.shines = table.shines := by
        rw [reloaded, hload]
        rfl
      have hshows := lampShows_of_byteAt_eq_zero hzero
      rw [hshines] at hshows
      simpa [Except.isOk, Except.toBool] using hshows
  | error cause =>
      let cleared := table.replace 0 (List.replicate table.length 0)
      have hcleared : Offset.led.toNat < cleared.length := by
        rw [length_replace]
        exact hlamp
      have hrestarted : table.reloaded = cleared.restarted := by rw [reloaded, hload]
      rw [hrestarted]
      simpa [Except.isOk, Except.toBool] using lampShows_restarted hcleared hservo

theorem lampShows_prepared {table : Table} {leftLit : Bool}
    (h : table.reloaded.LampShows leftLit) (deviceId? : Option Id) :
    (table.prepared deviceId?).LampShows leftLit := by
  unfold prepared
  split
  · exact h
  · next id =>
      split
      · exact h
      · refine lampShows_congr h ?_ ?_
        · rw [peripheral_saved, peripheral_written_of_ne _ (by decide)]
        · rw [registers_saved, byteAt_written_of_ne _ (by decide)]

/-! ## Packets -/

theorem exists_servo_written {table : Table} (hservo : ∃ servo, table.peripheral = .servo servo)
    (offset value : UInt8) : ∃ servo, (table.written offset value).peripheral = .servo servo := by
  rw [Peripheral.exists_servo_iff] at hservo ⊢
  rw [header_written, hservo]

theorem lampFollows_writtenFrom {table : Table}
    (hservo : ∃ servo, table.peripheral = .servo servo) {start : Nat} {data : Bytes}
    (h : table.LampFollows ∨
      start ≤ Offset.led.toNat ∧ Offset.led.toNat < start + data.length) :
    (table.writtenFrom start data).LampFollows := by
  induction data generalizing table start with
  | nil =>
      obtain hfollows | ⟨hbefore, hbehind⟩ := h
      · exact hfollows
      · rw [List.length_nil] at hbehind
        omega
  | cons value data ih =>
      refine ih (exists_servo_written hservo _ value) ?_
      obtain hfollows | ⟨hbefore, hbehind⟩ := h
      · exact Or.inl (lampFollows_written hservo (Or.inr hfollows) value)
      · by_cases hhere : start = Offset.led.toNat
        · have hled : UInt8.ofNat start = Offset.led := by
            rw [hhere]
            rfl
          exact Or.inl (lampFollows_written hservo (Or.inl hled) value)
        · rw [List.length_cons] at hbehind
          exact Or.inr ⟨by omega, by omega⟩

/-- Writes that pass by the register of the lamp are nothing to the servo. -/
theorem peripheral_writtenFrom_of_not_reached (table : Table) {start : Nat} {data : Bytes}
    (hfit : start + data.length ≤ 256)
    (h : ¬(start ≤ Offset.led.toNat ∧ Offset.led.toNat < start + data.length)) :
    (table.writtenFrom start data).peripheral = table.peripheral := by
  induction data generalizing table start with
  | nil => rfl
  | cons value data ih =>
      rw [List.length_cons] at hfit h
      have hother : UInt8.ofNat start ≠ Offset.led := by
        intro hsame
        have hstart := congrArg UInt8.toNat hsame
        rw [UInt8.toNat_ofNat_of_lt' (show start < 256 by omega)] at hstart
        omega
      rw [writtenFrom, ih _ (by omega) (by omega), peripheral_written_of_ne _ hother]

theorem lampShows_applied {table : Table} {leftLit : Bool} (h : table.LampShows leftLit)
    (hservo : ∃ servo, table.peripheral = .servo servo)
    (hlamp : Offset.led.toNat < table.length) {start : UInt8} {data : Bytes}
    (hfit : start.toNat + data.length ≤ table.length) :
    (table.applied start data).LampShows (leftLit && !Device.reachesLamp start data) := by
  have hmost := table.length_le
  by_cases hreached : Device.reachesLamp start data = true
  · have hwritten := lampFollows_writtenFrom hservo (Or.inr (Device.reachesLamp_iff.mp hreached))
    have hfollows : (table.applied start data).LampFollows := by
      unfold applied saved
      split
      · split
        · exact hwritten
        · exact hwritten
      · exact hwritten
    rw [hreached, Bool.not_true, Bool.and_false]
    exact lampShows_of_follows (by rw [length_applied]; exact hlamp) hfollows
  · have hpassed := mt Device.reachesLamp_iff.mpr hreached
    have hperipheral : (table.applied start data).peripheral = table.peripheral := by
      have hwritten := peripheral_writtenFrom_of_not_reached table (by omega) hpassed
      unfold applied
      split
      · rw [peripheral_saved, hwritten]
      · exact hwritten
    have hbyte : (table.applied start data).registers.byteAt Offset.led.toNat =
        table.registers.byteAt Offset.led.toNat := by
      rw [registers_applied _ hfit, Registers.byteAt_replace _ _ _ hlamp]
      split
      · rw [List.getElem?_eq_none (by omega)]
        rfl
      · rfl
    rw [Bool.not_eq_true] at hreached
    rw [hreached, Bool.not_false, Bool.and_true]
    exact lampShows_congr h hperipheral hbyte

theorem lampShows_refreshedFrom {table : Table} {leftLit : Bool} (h : table.LampShows leftLit)
    (start count : Nat) : (table.refreshedFrom start count).LampShows leftLit := by
  refine lampShows_congr h (peripheral_refreshedFrom ..) ?_
  simp only [Registers.byteAt, List.getD_eq_getElem?_getD]
  rw [getElem?_refreshedFrom_of_ne_temperature _ _ _ (by decide)]

end Table

namespace Device

/-! ## A servo that can have come about -/

structure HasLamp (device : Device) : Prop where
  sound : device.Sound
  servo : ∃ servo, device.table.peripheral = .servo servo
  volatile : device.table.registers.persistentLength ≤ Offset.led.toNat
  length : Offset.led.toNat < device.table.length

theorem lampShows_carriedOut {device : Device} {leftLit : Bool} (hlamp : device.HasLamp)
    (h : device.table.LampShows leftLit) {request : Request}
    (hrefusal : request.refusal? device.table.length = none) :
    (device.carriedOut request).table.LampShows (leftLit && !device.setsLamp request) := by
  cases request with
  | ping | regWrite => simpa [carriedOut, setsLamp] using h
  | read start count =>
      simpa [carriedOut, setsLamp] using Table.lampShows_refreshedFrom h start.toNat count.toNat
  | write start data =>
      exact Table.lampShows_applied h hlamp.servo hlamp.length
        (checkWrite_of_refusal?_eq_none hrefusal).2
  | action =>
      unfold carriedOut setsLamp
      cases hstaged : device.staged? with
      | none => simpa using h
      | some write =>
          exact Table.lampShows_applied h hlamp.servo hlamp.length
            (hlamp.sound.staged write hstaged)
  | reset =>
      have hrestarted := Table.lampShows_restarted hlamp.length hlamp.servo
      rw [setsLamp, Bool.not_true, Bool.and_false]
      exact Table.lampShows_congr hrestarted (Table.peripheral_saved _)
        (by rw [carriedOut, Table.registers_saved])

theorem hasLamp_of_same {device other : Device} (h : device.HasLamp)
    (hlength : other.table.length = device.table.length)
    (hpersistent : other.table.registers.persistentLength =
      device.table.registers.persistentLength)
    (hheader : other.table.peripheral.header = device.table.peripheral.header)
    (hstaged : ∀ write, other.staged? = some write →
      write.start.toNat + write.data.length ≤ device.table.length) :
    other.HasLamp := by
  have hservo : ∃ servo, other.table.peripheral = .servo servo := by
    rw [Peripheral.exists_servo_iff, hheader, ← Peripheral.exists_servo_iff]
    exact h.servo
  refine ⟨⟨Peripheral.isOrdinary_of_servo hservo, ?_⟩, hservo, ?_, ?_⟩
  · rw [hlength]
    exact hstaged
  · rw [hpersistent]
    exact h.volatile
  · rw [hlength]
    exact h.length

theorem hasLamp_carriedOut {device : Device} (h : device.HasLamp) {request : Request}
    (hrefusal : request.refusal? device.table.length = none) :
    (device.carriedOut request).HasLamp := by
  have hlength := length_carriedOut device request
  have hstaged := (sound_carriedOut h.sound hrefusal).staged
  rw [hlength] at hstaged
  exact hasLamp_of_same h hlength (persistentLength_carriedOut device request)
    (header_carriedOut device request) hstaged

theorem acted_run {device : Device} {action : TableM Unit} {table : Table}
    (h : action device.table = .ok () table) : device.acted action = { device with table } := by
  rw [acted, onTable_run h]

theorem undergone_restart {device : Device} (h : device.HasLamp) :
    device.undergone .restart = { device with table := device.table.restarted } :=
  acted_run (Table.reset_run h.sound.ordinary)

theorem undergone_load {device : Device} (h : device.HasLamp) (storage : Storage) :
    device.undergone (.load storage) =
      { device with table := { device.table with storage }.reloaded } :=
  acted_run (Table.load_run h.sound.ordinary)

theorem undergone_connect {device : Device} (h : device.HasLamp) (storage : Storage)
    (deviceId? : Option Id) :
    ∃ fresh : Table, device.undergone (.connect storage deviceId?) =
        { table := fresh.prepared deviceId? } ∧
      fresh.length = device.table.length ∧
      fresh.registers.persistentLength = device.table.registers.persistentLength ∧
      fresh.peripheral = device.table.peripheral ∧ fresh.storage = storage := by
  have hleast : Offset.returnDelay.toNat < device.table.length := device.table.returnDelay_lt
  obtain ⟨fresh, hcreate, hlength, hpersistent, hperipheral, hstorage⟩ :=
    Table.exists_create hleast device.table.length_le
      device.table.registers.persistentLength_le device.table.peripheral storage
  have hordinary : fresh.peripheral.IsOrdinary := by
    rw [hperipheral]
    exact h.sound.ordinary
  refine ⟨fresh, ?_, hlength, hpersistent, hperipheral, hstorage⟩
  rw [undergone, hcreate]
  exact acted_run (Table.prepare_run hordinary deviceId?)

end Device

namespace Watched

structure Explained (watched : Watched) : Prop where
  device : watched.device.HasLamp
  lamp : watched.device.table.LampShows watched.leftLit

theorem explained_of_undergone {watched : Watched} {event : TableEvent} {device : Device}
    (hrun : watched.device.undergone event = device) (hdevice : device.HasLamp)
    (hlamp : device.table.LampShows (watched.undergo event).leftLit) :
    (watched.undergo event).Explained := by
  subst hrun
  exact ⟨hdevice, hlamp⟩

theorem explained_restart {watched : Watched} (h : watched.device.HasLamp) :
    (watched.undergo .restart).Explained :=
  explained_of_undergone (Device.undergone_restart h)
    (Device.hasLamp_of_same h (Table.length_restarted _) (Table.persistentLength_restarted _)
      (Table.header_restarted _) h.sound.staged)
    (Table.lampShows_restarted h.length h.servo)

theorem explained_load {watched : Watched} (h : watched.device.HasLamp) (storage : Storage) :
    (watched.undergo (.load storage)).Explained := by
  let table : Table := { watched.device.table with storage }
  have hvolatile : table.registers.persistentLength ≤ Offset.led.toNat := h.volatile
  have hlamp : Offset.led.toNat < table.length := h.length
  exact explained_of_undergone (Device.undergone_load h storage)
    (Device.hasLamp_of_same h table.length_reloaded table.persistentLength_reloaded
      table.header_reloaded h.sound.staged)
    (Table.lampShows_reloaded hvolatile hlamp h.servo)

theorem explained_connect {watched : Watched} (h : watched.device.HasLamp) (storage : Storage)
    (deviceId? : Option Id) : (watched.undergo (.connect storage deviceId?)).Explained := by
  obtain ⟨fresh, hrun, hlength, hpersistent, hperipheral, hstorage⟩ :=
    Device.undergone_connect h storage deviceId?
  have hfresh : Device.HasLamp { table := fresh } :=
    Device.hasLamp_of_same h hlength hpersistent (congrArg Peripheral.header hperipheral) (by simp)
  have hprepared : Device.HasLamp { table := fresh.prepared deviceId? } :=
    Device.hasLamp_of_same hfresh (fresh.length_prepared deviceId?)
      (fresh.persistentLength_prepared deviceId?) (fresh.header_prepared deviceId?) (by simp)
  have hshines : fresh.shines = watched.device.table.shines := by
    rw [Table.shines, Table.shines, hperipheral]
  have hshows := Table.lampShows_prepared
    (Table.lampShows_reloaded hfresh.volatile hfresh.length hfresh.servo) deviceId?
  rw [hshines, hstorage, hpersistent] at hshows
  exact explained_of_undergone hrun hprepared hshows

theorem explained_packet {watched : Watched} (h : watched.Explained) (packet : Packet)
    (status : ParseStatus) : (watched.undergo (.packet packet status)).Explained := by
  have hrun := Device.handled_eq h.device.sound packet status
  cases hheeded : watched.device.heeded? packet status with
  | none =>
      rw [hheeded] at hrun
      refine explained_of_undergone hrun h.device ?_
      simpa [undergo, hheeded] using h.lamp
  | some request =>
      rw [hheeded] at hrun
      have hrefusal := (Device.heeded?_eq_some_iff.mp hheeded).2.2
      refine explained_of_undergone hrun (Device.hasLamp_carriedOut h.device hrefusal) ?_
      simpa [undergo, hheeded] using Device.lampShows_carriedOut h.device h.lamp hrefusal

theorem explained_of_begins {watched : Watched} (h : watched.device.HasLamp)
    {event : TableEvent} (hbegins : event.Begins) :
    (watched.undergo event).Explained := by
  cases event with
  | restart => exact explained_restart h
  | load storage => exact explained_load h storage
  | connect storage deviceId? => exact explained_connect h storage deviceId?
  | packet => exact hbegins.elim

theorem explained_undergo {watched : Watched} (h : watched.Explained) (event : TableEvent) :
    (watched.undergo event).Explained := by
  cases event with
  | restart | load | connect => exact explained_of_begins h.device trivial
  | packet packet status => exact explained_packet h packet status

theorem explained_undergoAll {watched : Watched} (h : watched.Explained)
    (events : List TableEvent) : (watched.undergoAll events).Explained := by
  induction events generalizing watched with
  | nil => exact h
  | cons event events ih => exact ih (explained_undergo h event)

/-- However a servo was before, once its table is restarted or loaded, its lamp shines exactly if
its register is not zero or it was left lit, and only over a register that is zero can it be left
lit. So it is from then on, whatever restarts, loads, connections and packets follow. -/
theorem shines_iff_of_begun {start : Device} {servo : Servo}
    (hservo : start.table.peripheral = .servo servo) (hsound : start.Sound)
    (hvolatile : start.table.registers.persistentLength ≤ Offset.led.toNat)
    (hlength : Offset.led.toNat < start.table.length) {first : TableEvent}
    (hbegins : first.Begins) (events : List TableEvent) :
    let watched := (undergo { device := start } first).undergoAll events
    let table := watched.device.table
    (table.shines = true ↔
      table.registers.byteAt Offset.led.toNat ≠ 0 ∨ watched.leftLit = true) ∧
      (watched.leftLit = true → table.registers.byteAt Offset.led.toNat = 0) := by
  intro watched table
  have hlamp : start.HasLamp := ⟨hsound, ⟨servo, hservo⟩, hvolatile, hlength⟩
  have hfirst : (undergo { device := start } first).Explained := explained_of_begins hlamp hbegins
  have hlast : watched.Explained := explained_undergoAll hfirst events
  exact ⟨hlast.lamp.shines, hlast.lamp.register⟩

/-- A connection is opened while the lamp shines, and the lamp is left lit. The next write runs
across its register and puts it out. -/
theorem shines_iff_of_begun_connect :
    let registers : Registers := {
      bytes := List.replicate 50 0
      persistentLength := 24
      length_le := by decide
      persistentLength_le := by decide }
    let stored : Storage := .file ⟨"servo.bin", .regular (List.replicate 24 1)⟩
    let start : Device := { table := {
      registers
      peripheral := .servo {}
      storage := stored
      returnDelay_lt := by decide } }
    let light : TableEvent :=
      .packet (Packet.roomy.fill ⟨0⟩ Instruction.write.code [Offset.led, 1]) .complete
    let darken : TableEvent :=
      .packet (Packet.roomy.fill ⟨7⟩ Instruction.write.code [0x18, 0, 0]) .complete
    ∃ left dark : Watched,
      left = (undergo { device := start } .restart).undergoAll
        [light, .connect stored (some ⟨7⟩)] ∧
      dark = (undergo { device := start } .restart).undergoAll
        [light, .connect stored (some ⟨7⟩), darken] ∧
      (left.leftLit = true ∧ left.device.table.shines = true ∧
        left.device.table.registers.byteAt Offset.led.toNat = 0) ∧
      dark.leftLit = false ∧
        (dark.device.table.shines = true ↔
          dark.device.table.registers.byteAt Offset.led.toNat ≠ 0) := by
  intro registers stored start light darken
  have hservo : start.table.peripheral = .servo {} := rfl
  have hsound : start.Sound := Device.sound_of_staged?_eq_none trivial rfl
  have hvolatile : start.table.registers.persistentLength ≤ Offset.led.toNat := by decide
  have hlength : Offset.led.toNat < start.table.length := by decide
  have hbegins : TableEvent.restart.Begins := trivial
  have hleft := shines_iff_of_begun hservo hsound hvolatile hlength hbegins
    [light, .connect stored (some ⟨7⟩)]
  have hdark := shines_iff_of_begun hservo hsound hvolatile hlength hbegins
    [light, .connect stored (some ⟨7⟩), darken]
  have hleftLit : ((undergo { device := start } .restart).undergoAll
      [light, .connect stored (some ⟨7⟩)]).leftLit = true := by decide +kernel
  have hset : ((undergo { device := start } .restart).undergoAll
      [light, .connect stored (some ⟨7⟩), darken]).leftLit = false := by decide +kernel
  have hshines := hdark.1
  rw [hset] at hshines
  simp only [Bool.false_eq_true, or_false] at hshines
  have hlit := hleft.1.mpr (Or.inr hleftLit)
  exact ⟨_, _, rfl, rfl, ⟨hleftLit, hlit, hleft.2 hleftLit⟩, hset, hshines⟩

end Watched

/-- A load after the lamp was lit leaves it lit over a register that is zero. -/
theorem Device.shines_over_zero_after_load :
    let registers : Registers := {
      bytes := List.replicate 50 0
      persistentLength := 24
      length_le := by decide
      persistentLength_le := by decide }
    let start : Device := { table := {
      registers
      peripheral := .servo {}
      storage := .memory .empty
      returnDelay_lt := by decide } }
    let reset := (start.undergone .restart).undergone
      (.packet (Packet.roomy.fill ⟨0⟩ Instruction.reset.code []) .complete)
    let lit := reset.undergone
      (.packet (Packet.roomy.fill ⟨0⟩ Instruction.write.code [Offset.led, 1]) .complete)
    let loaded := lit.undergone (.load lit.table.storage)
    (lit.table.shines = true ↔ lit.table.registers.byteAt Offset.led.toNat ≠ 0) ∧
      ¬(loaded.table.shines = true ↔ loaded.table.registers.byteAt Offset.led.toNat ≠ 0) := by
  decide +kernel

end ServoBus
