import ServoBus.Proofs.InStep

/-!
# What a read returns

A device that is asked for registers returns, register by register, what was written there last. The
history of a device is the list of its changes: writes that were carried out, at once, by an action
or as an entry of a write to many devices, and restarts, which settle every register
(`Device.changes`). Only the temperature of a servo is not what was written last but what it is.

Main statement: `Device.read_returns_last_written`.
-/

namespace ServoBus

/-! ## Changes -/

inductive Change where
  | write (start : UInt8) (data : Bytes)
  | restart
  deriving DecidableEq

namespace Change

def settles (index : Nat) : Change → Bool
  | write start data => start.toNat ≤ index && index < start.toNat + data.length
  | restart => true

def value? (initial : Bytes) (index : Nat) : Change → Option UInt8
  | write start data => data[index - start.toNat]?
  | restart => initial[index]?

def last? (index : Nat) (changes : List Change) : Option Change :=
  changes.reverse.find? (settles index)

/-- What stands in the register after all the changes, if there was no other: what the last of them
that settles it put there, or what was there before them. -/
def standing? (base initial : Bytes) (changes : List Change) (index : Nat) : Option UInt8 :=
  (last? index changes).elim base[index]? (value? initial index)

theorem last?_cons (index : Nat) (change : Change) (changes : List Change) :
    last? index (change :: changes) =
      (last? index changes).or (if change.settles index then some change else none) := by
  rw [last?, List.reverse_cons, List.find?_append, List.find?_singleton]
  rfl

/-- What the first change leaves is what was there before the others. -/
theorem standing?_cons {base next initial : Bytes} {change : Change} {index : Nat}
    (h : next[index]? =
      if change.settles index then change.value? initial index else base[index]?)
    (changes : List Change) :
    standing? base initial (change :: changes) index = standing? next initial changes index := by
  unfold standing?
  rw [last?_cons, h]
  cases last? index changes with
  | some later => rfl
  | none => split <;> rfl

end Change

/-- What a request changes that is carried out while the given write waits. -/
def Request.change? (staged? : Option StagedWrite) : Request → Option Change
  | write start data => some (.write start data)
  | action => staged?.map fun staged => .write staged.start staged.data
  | reset => some .restart
  | ping | read .. | regWrite .. => none

/-! ## The temperature -/

def Peripheral.temperature? : Peripheral → Option UInt8
  | servo s => some s.temperature
  | bare | probe _ => none

namespace Table

theorem hidesLamp_temperature? : Peripheral.HidesLamp Peripheral.temperature? := fun _ _ => rfl

theorem getElem?_refreshed_temperature {table : Table} {celsius : UInt8}
    (h : table.peripheral.temperature? = some celsius)
    (hlength : Offset.temperature.toNat < table.length) :
    (table.refreshed Offset.temperature).registers.bytes[Offset.temperature.toNat]? =
      some celsius := by
  unfold refreshed
  cases hperipheral : table.peripheral with
  | bare | probe => simp [hperipheral, Peripheral.temperature?] at h
  | servo servo =>
      rw [hperipheral] at h
      cases h
      dsimp only
      rw [if_pos rfl, registers_replace]
      change (overwrite table.registers.bytes _ _)[_]? = _
      rw [overwrite_singleton]
      exact List.getElem?_set_self hlength

theorem getElem?_refreshedFrom_temperature {table : Table} {celsius : UInt8}
    (h : table.peripheral.temperature? = some celsius) {start count : Nat}
    (hbefore : start ≤ Offset.temperature.toNat)
    (hbehind : Offset.temperature.toNat < start + count) (hfit : start + count ≤ table.length) :
    (table.refreshedFrom start count).registers.bytes[Offset.temperature.toNat]? =
      some celsius := by
  have hle := table.length_le
  induction count generalizing table start with
  | zero => omega
  | succ count ih =>
      rw [refreshedFrom]
      by_cases hhere : start = Offset.temperature.toNat
      · -- the later reads are of other registers
        subst hhere
        rw [getElem?_refreshedFrom_of_lt _ (Nat.lt_succ_self _) (by omega)]
        exact getElem?_refreshed_temperature h (by omega)
      · have hlength := length_refreshed table (UInt8.ofNat start)
        refine ih ?_ (by omega) (by omega) (by omega) (by omega)
        rw [peripheral_refreshed]
        exact h

@[simp] theorem lineRate?_refreshedFrom (table : Table) (start count : Nat) :
    (table.refreshedFrom start count).lineRate? = table.lineRate? := by
  induction count generalizing table start with
  | zero => rfl
  | succ count ih =>
      rw [refreshedFrom, ih]
      unfold refreshed
      split
      · split <;> rfl
      · rfl
      · rfl

end Table

/-! ## A servo in use -/

/-- What a servo meets: packets whose reading ended with a status, and heat or cold. -/
inductive ServoEvent where
  | packet (packet : Packet) (status : ParseStatus)
  | temperature (celsius : UInt8)

def ServoEvent.celsius? : ServoEvent → Option UInt8
  | temperature celsius => some celsius
  | packet .. => none

def ServoEvent.lastCelsius (before : UInt8) (events : List ServoEvent) : UInt8 :=
  (events.reverse.findSome? celsius?).getD before

namespace Device

def meet (device : Device) : ServoEvent → Device
  | .packet packet status => device.handled packet status
  | .temperature celsius =>
      { device with table.peripheral := device.table.peripheral.setTemperature celsius }

def meetAll (device : Device) (events : List ServoEvent) : Device := events.foldl meet device

def changeBy? (device : Device) (packet : Packet) (status : ParseStatus) : Option Change :=
  (device.heeded? packet status).bind (Request.change? device.staged?)

def changes (device : Device) : List ServoEvent → List Change
  | [] => []
  | .packet packet status :: events =>
      (device.changeBy? packet status).toList ++ (device.handled packet status).changes events
  | .temperature celsius :: events => (device.meet (.temperature celsius)).changes events

/-! ## One packet -/

theorem getElem?_carriedOut {device : Device} (hsound : device.Sound) {request : Request}
    (hrefusal : request.refusal? device.table.length = none) {index : Nat}
    (hindex : index ≠ Offset.temperature.toNat ∨ (request.change? device.staged?).isSome) :
    (device.carriedOut request).table.registers.bytes[index]? =
      match request.change? device.staged? with
      | none => device.table.registers.bytes[index]?
      | some change =>
          if change.settles index then
            change.value? (Table.initialBytes device.table.peripheral device.table.length) index
          else device.table.registers.bytes[index]? := by
  have happlied : ∀ (start : UInt8) (data : Bytes),
      start.toNat + data.length ≤ device.table.length →
      (device.table.applied start data).registers.bytes[index]? =
        if (Change.write start data).settles index then data[index - start.toNat]?
        else device.table.registers.bytes[index]? := by
    intro start data hfit
    rw [Table.registers_applied _ hfit]
    refine (getElem?_overwrite_of_le hfit index).trans ?_
    simp [Change.settles]
  cases request with
  | ping | regWrite => rfl
  | read start count =>
      have hother : index ≠ Offset.temperature.toNat := hindex.resolve_right Bool.false_ne_true
      exact Table.getElem?_refreshedFrom_of_ne_temperature _ _ _ hother
  | write start data => exact happlied start data (checkWrite_of_refusal?_eq_none hrefusal).2
  | action =>
      unfold carriedOut Request.change?
      cases hstaged : device.staged? with
      | none => rfl
      | some staged => exact happlied staged.start staged.data (hsound.staged staged hstaged)
  | reset =>
      unfold carriedOut
      rw [Table.registers_saved, Table.bytes_restarted]
      rfl

/-- A packet changes registers as it is said of it, the temperature apart. -/
theorem getElem?_handled {device : Device} (hsound : device.Sound) (packet : Packet)
    (status : ParseStatus) {index : Nat}
    (hindex : index ≠ Offset.temperature.toNat ∨ (device.changeBy? packet status).isSome) :
    (device.handled packet status).table.registers.bytes[index]? =
      match device.changeBy? packet status with
      | none => device.table.registers.bytes[index]?
      | some change =>
          if change.settles index then
            change.value? (Table.initialBytes device.table.peripheral device.table.length) index
          else device.table.registers.bytes[index]? := by
  rw [handled_eq hsound]
  unfold changeBy? at hindex ⊢
  cases hheeded : device.heeded? packet status with
  | none => rfl
  | some request =>
      rw [hheeded, Option.bind_some] at hindex
      exact getElem?_carriedOut hsound (heeded?_eq_some_iff.mp hheeded).2.2 hindex

theorem temperature?_handled {device : Device} (hsound : device.Sound) (packet : Packet)
    (status : ParseStatus) :
    (device.handled packet status).table.peripheral.temperature? =
      device.table.peripheral.temperature? := by
  rw [handled_eq hsound]
  cases device.heeded? packet status with
  | none => rfl
  | some request =>
      have hview := Table.hidesLamp_temperature?
      exact carriedOut_keeps (fun table => table.peripheral.temperature?) (by simp)
        (Table.view_applied hview) (by simp [Table.view_restarted hview]) device request

theorem exists_reply_of_read {device : Device} (hsound : device.Sound) {packet : Packet}
    (hid : packet.id = device.id) (hcommand : packet.command = Instruction.read.code)
    {first count : UInt8} {surplus : Bytes}
    (hparameters : packet.parameters = first :: count :: surplus)
    (hfit : first.toNat + count.toNat ≤ device.table.length)
    (hcount : count.toNat ≤ maxParameters) :
    ∃ reply after, device.handle packet .complete = .ok (some reply) after ∧
      reply.answer.flags = .noError := by
  have hrefusal : (Request.read first count).refusal? device.table.length = none :=
    if_pos ⟨hfit, hcount⟩
  have hanswer : device.answerFor? packet.command packet.parameters =
      some (device.answerTo (.read first count)) := by
    rw [hcommand, hparameters]
    rfl
  have hreply : device.replyFor? packet .complete =
      some ⟨device.id, device.answerTo (.read first count)⟩ := by
    rw [replyFor?, if_pos hid, hanswer]
    rfl
  have hhandle := handle_run hsound packet .complete
  rw [hreply] at hhandle
  refine ⟨_, _, hhandle, ?_⟩
  rw [answerTo, hrefusal]

theorem exists_of_handle_read {device after : Device} (hsound : device.Sound) {packet : Packet}
    {status : ParseStatus} {reply : Reply} (hcommand : packet.command = Instruction.read.code)
    (h : device.handle packet status = .ok (some reply) after)
    (hflags : reply.answer.flags = .noError) :
    ∃ first count surplus, packet.parameters = first :: count :: surplus ∧
      first.toNat + count.toNat ≤ device.table.length ∧
      reply.answer.data =
        slice (device.table.refreshedFrom first.toNat count.toNat).registers.bytes
          first.toNat count.toNat := by
  rw [handle_run hsound] at h
  injection h with hreply
  unfold replyFor? at hreply
  split at hreply
  · cases status with
    | incomplete | tooMuchData => cases hreply
    | checksumMismatch expected received =>
        cases hreply
        cases hflags
    | complete =>
        rw [hcommand] at hreply
        rcases hparameters : packet.parameters with _ | ⟨first, _ | ⟨count, surplus⟩⟩
        · rw [hparameters] at hreply
          cases hreply
          cases hflags
        · rw [hparameters] at hreply
          cases hreply
          cases hflags
        · have hanswer : device.answerFor? Instruction.read.code (first :: count :: surplus) =
              some (device.answerTo (.read first count)) := rfl
          rw [hparameters, hanswer] at hreply
          cases hreply
          refine ⟨first, count, surplus, rfl, ?_⟩
          unfold answerTo at hflags ⊢
          cases hrefusal : (Request.read first count).refusal? device.table.length with
          | some flags =>
              rw [hrefusal] at hflags
              exact absurd hflags (Request.ne_noError_of_refusal? hrefusal)
          | none =>
              rw [Request.refusal?] at hrefusal
              split at hrefusal
              · next hfit => exact ⟨hfit.1, rfl⟩
              · cases hrefusal
  · cases hreply

/-- A read that met no error was answered with what stood in the registers before it, but for the
temperature. -/
theorem getElem?_of_handle_read {device after : Device} (hsound : device.Sound) {celsius : UInt8}
    (hcelsius : device.table.peripheral.temperature? = some celsius) {packet : Packet}
    {status : ParseStatus} {reply : Reply} (hcommand : packet.command = Instruction.read.code)
    (h : device.handle packet status = .ok (some reply) after)
    (hflags : reply.answer.flags = .noError) :
    ∃ first count surplus, packet.parameters = first :: count :: surplus ∧
      reply.answer.data.length = count.toNat ∧
      ∀ place < count.toNat, reply.answer.data[place]? =
        if first.toNat + place = Offset.temperature.toNat then some celsius
        else device.table.registers.bytes[first.toNat + place]? := by
  obtain ⟨first, count, surplus, hparameters, hfit, hdata⟩ :=
    exists_of_handle_read hsound hcommand h hflags
  have hlength : (device.table.refreshedFrom first.toNat count.toNat).registers.bytes.length =
      device.table.length := Table.length_refreshedFrom ..
  refine ⟨first, count, surplus, hparameters, ?_, ?_⟩
  · rw [hdata, slice, List.length_take, List.length_drop, hlength]
    omega
  · intro place hplace
    rw [hdata, slice, List.getElem?_take_of_lt hplace, List.getElem?_drop]
    split
    · next htemperature =>
        rw [htemperature]
        exact Table.getElem?_refreshedFrom_temperature hcelsius (by omega) (by omega) hfit
    · next hother => exact Table.getElem?_refreshedFrom_of_ne_temperature _ _ _ hother

theorem heeded?_of_read {device : Device} {packet : Packet} {status : ParseStatus}
    {request : Request} (hcommand : packet.command = Instruction.read.code)
    (h : device.heeded? packet status = some request) :
    ∃ start count, request = .read start count := by
  have hasked := (heeded?_eq_some_iff.mp h).2.1
  rw [hcommand, Request.ofCommand?_code] at hasked
  rcases hparameters : packet.parameters with _ | ⟨start, _ | ⟨count, surplus⟩⟩
  · rw [hparameters] at hasked
    cases hasked
  · rw [hparameters] at hasked
    cases hasked
  · rw [hparameters] at hasked
    cases hasked
    exact ⟨start, count, rfl⟩

/-- To read registers, with success or without, changes none but the temperature, and nothing
else. -/
theorem handled_read {device : Device} (hsound : device.Sound) {packet : Packet}
    (hcommand : packet.command = Instruction.read.code) (status : ParseStatus) :
    let after := device.handled packet status
    (∀ index, index ≠ Offset.temperature.toNat →
      after.table.registers.bytes[index]? = device.table.registers.bytes[index]?) ∧
    after.table.length = device.table.length ∧ after.staged? = device.staged? ∧
    after.table.storage = device.table.storage ∧
    after.table.lineRate? = device.table.lineRate? ∧
    after.table.peripheral = device.table.peripheral := by
  intro after
  unfold after
  rw [handled_eq hsound]
  cases hheeded : device.heeded? packet status with
  | none => exact ⟨fun _ _ => rfl, rfl, rfl, rfl, rfl, rfl⟩
  | some request =>
      obtain ⟨start, count, rfl⟩ := heeded?_of_read hcommand hheeded
      exact ⟨fun index => Table.getElem?_refreshedFrom_of_ne_temperature _ _ _,
        Table.length_refreshedFrom .., rfl, Table.storage_refreshedFrom ..,
        Table.lineRate?_refreshedFrom .., Table.peripheral_refreshedFrom ..⟩

/-! ## A run -/

theorem sound_meet {device : Device} (hsound : device.Sound) (event : ServoEvent) :
    (device.meet event).Sound := by
  cases event with
  | packet packet status => exact sound_handled hsound packet status
  | temperature celsius =>
      refine ⟨?_, hsound.staged⟩
      have hordinary := hsound.ordinary
      change (device.table.peripheral.setTemperature celsius).IsOrdinary
      cases hperipheral : device.table.peripheral with
      | bare | servo => trivial
      | probe => simp [hperipheral, Peripheral.IsOrdinary] at hordinary

theorem sound_meetAll {device : Device} (hsound : device.Sound) (events : List ServoEvent) :
    (device.meetAll events).Sound := by
  induction events generalizing device with
  | nil => exact hsound
  | cons event events ih => exact ih (sound_meet hsound event)

theorem initialBytes_meet {device : Device} (hsound : device.Sound) (event : ServoEvent) :
    Table.initialBytes (device.meet event).table.peripheral (device.meet event).table.length =
      Table.initialBytes device.table.peripheral device.table.length := by
  cases event with
  | packet packet status =>
      change Table.initialBytes (device.handled packet status).table.peripheral
        (device.handled packet status).table.length = _
      rw [handled_eq hsound]
      cases device.heeded? packet status with
      | none => rfl
      | some request =>
          exact carriedOut_keeps (fun table => Table.initialBytes table.peripheral table.length)
            (by simp) (by simp [Table.initialBytes]) (by simp [Table.initialBytes]) device request
  | temperature celsius =>
      have hheader : (device.table.peripheral.setTemperature celsius).header =
          device.table.peripheral.header := by
        cases device.table.peripheral <;> rfl
      exact congrArg (· ++ _) hheader

theorem temperature?_meet {device : Device} (hsound : device.Sound) {before : UInt8}
    (h : device.table.peripheral.temperature? = some before) (event : ServoEvent) :
    (device.meet event).table.peripheral.temperature? = some (event.celsius?.getD before) := by
  cases event with
  | packet packet status => exact (temperature?_handled hsound packet status).trans h
  | temperature celsius =>
      change (device.table.peripheral.setTemperature celsius).temperature? = some celsius
      cases hperipheral : device.table.peripheral with
      | servo servo => rfl
      | bare | probe => simp [hperipheral, Peripheral.temperature?] at h

theorem temperature?_meetAll {device : Device} (hsound : device.Sound) {before : UInt8}
    (h : device.table.peripheral.temperature? = some before) (events : List ServoEvent) :
    (device.meetAll events).table.peripheral.temperature? =
      some (ServoEvent.lastCelsius before events) := by
  induction events generalizing device before with
  | nil => exact h
  | cons event events ih =>
      have hrest := ih (sound_meet hsound event) (temperature?_meet hsound h event)
      refine hrest.trans (congrArg some ?_)
      unfold ServoEvent.lastCelsius
      rw [List.reverse_cons, List.findSome?_append]
      cases events.reverse.findSome? ServoEvent.celsius? with
      | some later => rfl
      | none => cases event <;> rfl

/-- What stands in a register is what the changes have left there, the temperature apart. -/
theorem getElem?_meetAll {device : Device} (hsound : device.Sound) (events : List ServoEvent)
    {index : Nat} (hindex : index ≠ Offset.temperature.toNat) :
    (device.meetAll events).table.registers.bytes[index]? =
      Change.standing? device.table.registers.bytes
        (Table.initialBytes device.table.peripheral device.table.length) (device.changes events)
        index := by
  -- along the events: what the first of them leaves is what the others find
  induction events generalizing device with
  | nil => rfl
  | cons event events ih =>
      have hrest := ih (sound_meet hsound event)
      rw [initialBytes_meet hsound event] at hrest
      refine hrest.trans ?_
      cases event with
      | temperature celsius => rfl
      | packet packet status =>
          have hstep := getElem?_handled hsound packet status (Or.inl hindex)
          rw [changes]
          cases hchange : device.changeBy? packet status with
          | none =>
              rw [hchange] at hstep
              unfold Change.standing?
              rw [meet, hstep]
              rfl
          | some change =>
              rw [hchange] at hstep
              exact (Change.standing?_cons hstep _).symm

/-- A device with a servo, whether it was loaded, restarted or in use for long, answers a read of
registers that it has, register by register, with what its last write or restart put there, or with
what was there before; in the place of the temperature it answers with the temperature that came
last. To read, with success or without, changes no register but that of the temperature and nothing
else about the device, and a write changes none but those it names. -/
theorem read_returns_last_written {start : Device} (hsound : start.Sound) {servo : Servo}
    (hservo : start.table.peripheral = .servo servo) (events : List ServoEvent) :
    let now := start.meetAll events
    let initial := Table.initialBytes start.table.peripheral start.table.length
    (∀ packet first count surplus, packet.id = now.id →
      packet.command = Instruction.read.code → packet.parameters = first :: count :: surplus →
      first.toNat + count.toNat ≤ now.table.length → count.toNat ≤ 253 →
      ∃ reply after, now.handle packet .complete = .ok (some reply) after ∧
        reply.answer.flags = .noError) ∧
    (∀ packet status reply after, packet.command = Instruction.read.code →
      now.handle packet status = .ok (some reply) after → reply.answer.flags = .noError →
      ∃ first count surplus, packet.parameters = first :: count :: surplus ∧
        reply.answer.data.length = count.toNat ∧
        ∀ place < count.toNat, reply.answer.data[place]? =
          if first.toNat + place = 0x2B then
            some (ServoEvent.lastCelsius servo.temperature events)
          else
            Change.standing? start.table.registers.bytes initial (start.changes events)
              (first.toNat + place)) ∧
    (∀ packet status, packet.command = Instruction.read.code →
      let after := now.handled packet status
      (∀ index ≠ 0x2B, after.table.registers.bytes[index]? = now.table.registers.bytes[index]?) ∧
      after.table.length = now.table.length ∧ after.staged? = now.staged? ∧
      after.table.storage = now.table.storage ∧ after.table.lineRate? = now.table.lineRate? ∧
      after.table.peripheral = now.table.peripheral) ∧
    ∀ packet status first data, now.changeBy? packet status = some (.write first data) →
      ∀ index, ¬(first.toNat ≤ index ∧ index < first.toNat + data.length) →
        (now.handled packet status).table.registers.bytes[index]? =
          now.table.registers.bytes[index]? := by
  intro now initial
  have hnow : now.Sound := sound_meetAll hsound events
  have hcelsius : now.table.peripheral.temperature? =
      some (ServoEvent.lastCelsius servo.temperature events) :=
    temperature?_meetAll hsound (by rw [hservo]; rfl) events
  refine ⟨?_, ?_, fun packet status hcommand => handled_read hnow hcommand status, ?_⟩
  · intro packet first count surplus hid hcommand hparameters hfit hcount
    exact exists_reply_of_read hnow hid hcommand hparameters hfit hcount
  · intro packet status reply after hcommand hhandle hflags
    obtain ⟨first, count, surplus, hparameters, hlength, hplaces⟩ :=
      getElem?_of_handle_read hnow hcelsius hcommand hhandle hflags
    refine ⟨first, count, surplus, hparameters, hlength, ?_⟩
    intro place hplace
    refine (hplaces place hplace).trans ?_
    split
    · next htemperature => exact (if_pos htemperature).symm
    · next hother => exact (getElem?_meetAll hsound events hother).trans (if_neg hother).symm
  · intro packet status first data hchange index hindex
    -- a write says of every register what becomes of it, of the temperature too
    have hstep := @getElem?_handled now hnow packet status index (Or.inr (by rw [hchange]; rfl))
    rw [hchange] at hstep
    refine hstep.trans (if_neg ?_)
    simpa [Change.settles] using hindex

/-- Three writes that overlap, at once, by an action and to many devices, and a change of the
temperature before the reads. -/
theorem read_returns_last_written_overlapping :
    let servo : Servo := {}
    let start : Device := {
      table := {
        registers := {
          bytes := [12, 0, 1, 6, 1, 250] ++ List.replicate 42 0
          persistentLength := 6
          length_le := by decide
          persistentLength_le := by decide }
        peripheral := .servo servo
        storage := .memory .empty
        returnDelay_lt := by decide } }
    let write := Packet.roomy.fill ⟨6⟩ Instruction.write.code [10, 1, 2, 3]
    let regWrite := Packet.roomy.fill ⟨6⟩ Instruction.regWrite.code [11, 9]
    let action := Packet.roomy.fill Id.broadcast Instruction.action.code []
    let toMany := Packet.roomy.fill Id.broadcast Instruction.syncWrite.code [12, 1, 6, 7]
    let read := Packet.roomy.fill ⟨6⟩ Instruction.read.code [10, 34]
    let events : List ServoEvent := [.packet write .complete, .packet regWrite .complete,
      .packet action .complete, .temperature 40, .packet toMany .complete]
    let now := start.meetAll events
    (start.Sound ∧ start.table.peripheral = .servo servo ∧
      start.changes events = [.write 10 [1, 2, 3], .write 11 [9], .write 12 [7]]) ∧
    (read.id = now.id ∧ read.command = Instruction.read.code ∧ read.parameters = [10, 34] ∧
      (10 : UInt8).toNat + (34 : UInt8).toNat ≤ now.table.length ∧ ∃ reply after,
      now.handle read .complete = .ok (some reply) after ∧ reply.answer.flags = .noError ∧
      reply.answer.data[1]? = some 9 ∧ reply.answer.data[33]? = some 40) ∧
    now.changeBy? write .complete = some (.write 10 [1, 2, 3]) ∧
      (now.handled write .complete).table.registers.bytes[13]? =
        now.table.registers.bytes[13]? := by
  intro servo start write regWrite action toMany read events now
  have hsound : start.Sound := sound_of_staged?_eq_none trivial rfl
  have hservo : start.table.peripheral = .servo servo := rfl
  obtain ⟨hanswered, hread, -, hwrite⟩ := read_returns_last_written hsound hservo events
  have hchanges : start.changes events =
      [.write 10 [1, 2, 3], .write 11 [9], .write 12 [7]] := by decide +kernel
  have hchange : now.changeBy? write .complete = some (.write 10 [1, 2, 3]) := by decide +kernel
  have hnow : start.meetAll events = now := rfl
  have hwritten := hwrite write .complete 10 [1, 2, 3] hchange 13 (by decide)
  rw [hnow] at hwritten
  have hid : read.id = now.id := by decide +kernel
  have hasked : read.parameters = [10, 34] := by decide +kernel
  have hlength : now.table.length = 48 := by decide +kernel
  have hfit : (10 : UInt8).toNat + (34 : UInt8).toNat ≤ now.table.length := by
    rw [hlength]
    decide
  obtain ⟨reply, after, hhandle, hflags⟩ :=
    hanswered read 10 34 [] hid rfl hasked hfit (by decide)
  obtain ⟨first, count, surplus, hparameters, -, hplaces⟩ :=
    hread read .complete reply after rfl hhandle hflags
  rw [hasked] at hparameters
  cases hparameters
  rw [hchanges] at hplaces
  exact ⟨⟨hsound, hservo, hchanges⟩, ⟨hid, rfl, hasked, hfit, reply, after, hhandle, hflags,
    hplaces 1 (by decide), hplaces 33 (by decide)⟩, hchange, hwritten⟩

end Device

end ServoBus
