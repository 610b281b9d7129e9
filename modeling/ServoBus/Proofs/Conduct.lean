import ServoBus.Proofs.Execution
import ServoBus.Station

/-!
# What a frame makes of a device

Whatever command byte and parameters a frame has, to the device that executes them they come down
to one request or to none (`Request.ofCommand?`). A sound device executes them without a fault
(`Device.execute_run`), and a packet that it handles leaves it as it is or makes it carry out one
request that it does not refuse (`Device.handled_eq`). What a run of packets keeps is proved from
there.
-/

namespace ServoBus

namespace Request

/-- What an instruction with its parameters asks of the device with an id, if it asks for anything.
An entry of a write to many devices is a write to the device whose id it bears. -/
def ofInstruction? (id : Id) : Instruction → Bytes → Option Request
  | .ping, _ => some .ping
  | .read, start :: count :: _ => some (.read start count)
  | .write, start :: data => some (.write start data)
  | .regWrite, start :: data => some (.regWrite start data)
  | .action, _ => some .action
  | .reset, _ => some .reset
  | .syncWrite, start :: count :: entries =>
      if count = 0 then none else (Device.entryFor? id count.toNat entries).map (.write start)
  | .read, _ | .write, _ | .regWrite, _ | .syncWrite, _ => none

def ofCommand? (id : Id) (command : UInt8) (parameters : Bytes) : Option Request :=
  (Instruction.ofByte? command).bind fun instruction => ofInstruction? id instruction parameters

@[simp] theorem ofCommand?_code (id : Id) (instruction : Instruction) (parameters : Bytes) :
    ofCommand? id instruction.code parameters = ofInstruction? id instruction parameters := by
  rw [ofCommand?, Instruction.ofByte?_code, Option.bind_some]

end Request

namespace Device

def afterCommand (device : Device) (command : UInt8) (parameters : Bytes) : Device :=
  (Request.ofCommand? device.id command parameters).elim device device.after

/-- What the device answers to a command. Only a write to many devices has no answer. -/
def answerFor? (device : Device) (command : UInt8) (parameters : Bytes) : Option Answer :=
  if Instruction.ofByte? command = some .syncWrite then none
  else some ((Request.ofCommand? device.id command parameters).elim ⟨.instructionError, []⟩
    device.answerTo)

/-! ## Commands -/

theorem length_of_entryFor? {id : Id} {count : Nat} {entries data : Bytes}
    (h : entryFor? id count entries = some data) : data.length = count := by
  induction hlength : entries.length using Nat.strongRecOn generalizing entries with
  | ind length ih =>
      cases entries with
      | nil => simp [entryFor?] at h
      | cons first rest =>
          rw [entryFor?] at h
          split at h
          · next hcount =>
              split at h
              · cases h
                exact List.length_take_of_le hcount
              · refine ih (rest.drop count).length ?_ h rfl
                simp only [List.length_cons, List.length_drop] at hlength ⊢
                omega
          · cases h

theorem refusal?_entry (length : Nat) {count : Nat} (start : UInt8) {data : Bytes}
    (hdata : data.length = count) (hcount : count ≠ 0) :
    (Request.write start data).refusal? length =
      if start.toNat + count ≤ length then none else some .rangeError := by
  have hsome : data ≠ [] := by
    rintro rfl
    exact hcount hdata.symm
  rw [Request.refusal?, if_neg hsome, hdata]

theorem executeSyncWrite_run {device : Device} (hordinary : device.table.peripheral.IsOrdinary)
    (parameters : Bytes) :
    onTable (executeSyncWrite device.id parameters) device =
      .ok () (device.afterCommand Instruction.syncWrite.code parameters) := by
  unfold afterCommand
  rw [Request.ofCommand?_code]
  rcases parameters with _ | ⟨start, _ | ⟨count, entries⟩⟩
  · rfl
  · rfl
  · rw [executeSyncWrite, Request.ofInstruction?]
    by_cases hzero : count = 0
    · rw [if_neg (not_not_intro hzero), if_pos hzero]
      rfl
    · rw [if_pos hzero, if_neg hzero]
      cases hentry : entryFor? device.id count.toNat entries with
      | none => rfl
      | some data =>
          have hlength := length_of_entryFor? hentry
          have hcount : count.toNat ≠ 0 := by
            intro h
            exact hzero (UInt8.toNat_inj.mp h)
          have hrefusal := refusal?_entry device.table.length start hlength hcount
          have hget : (get : TableM Table) device.table = .ok device.table device.table := rfl
          dsimp only [Option.map_some, Option.elim_some]
          unfold after
          rw [hrefusal]
          by_cases hfit : start.toNat + count.toNat ≤ device.table.length
          · rw [if_pos hfit]
            refine onTable_run ?_
            rw [bind_of_ok hget, if_pos hfit]
            exact applyWrite_run hordinary (by omega)
          · rw [if_neg hfit]
            have hsame : { device with table := device.table } = device := rfl
            rw [← hsame]
            refine onTable_run ?_
            rw [bind_of_ok hget, if_neg hfit]
            rfl

theorem execute_syncWrite {device : Device} (hordinary : device.table.peripheral.IsOrdinary)
    (parameters : Bytes) :
    device.execute Instruction.syncWrite.code parameters =
      .ok none (device.afterCommand Instruction.syncWrite.code parameters) := by
  have hrun := executeSyncWrite_run hordinary parameters
  rw [execute, Instruction.ofByte?_code]
  dsimp only
  rw [bind_of_ok (get_run device), bind_of_ok hrun]
  rfl

theorem execute_run {device : Device} (hsound : device.Sound) (command : UInt8)
    (parameters : Bytes) :
    device.execute command parameters =
      .ok (device.answerFor? command parameters) (device.afterCommand command parameters) := by
  cases hinstruction : Instruction.ofByte? command with
  | none =>
      rw [execute, answerFor?, afterCommand, Request.ofCommand?, hinstruction]
      rfl
  | some instruction =>
      obtain rfl := Instruction.code_of_ofByte? hinstruction
      unfold answerFor?
      rw [hinstruction]
      cases instruction with
      | ping => rfl
      | read =>
          rcases parameters with _ | ⟨start, _ | ⟨count, surplus⟩⟩
          · rfl
          · rfl
          · exact execute_read hsound.ordinary start count surplus
      | write =>
          cases parameters with
          | nil => rfl
          | cons start data => exact execute_write hsound.ordinary start data
      | regWrite =>
          cases parameters with
          | nil => rfl
          | cons start data => exact execute_regWrite device start data
      | action => exact execute_action hsound parameters
      | reset => exact execute_reset hsound.ordinary parameters
      | syncWrite => exact execute_syncWrite hsound.ordinary parameters

/-! ## Packets -/

def Executes (device : Device) (packet : Packet) (status : ParseStatus) : Prop :=
  status = .complete ∧ (packet.id = device.id ∨ packet.id.isBroadcast)

instance (device : Device) (packet : Packet) (status : ParseStatus) :
    Decidable (device.Executes packet status) :=
  inferInstanceAs (Decidable (_ ∧ _))

def replyFor? (device : Device) (packet : Packet) (status : ParseStatus) : Option Reply :=
  if packet.id = device.id then
    match status with
    | .incomplete | .tooMuchData => none
    | .checksumMismatch _ _ => some ⟨device.id, ⟨.checksumError, []⟩⟩
    | .complete =>
        (device.answerFor? packet.command packet.parameters).map fun answer => ⟨device.id, answer⟩
  else none

def handled (device : Device) (packet : Packet) (status : ParseStatus) : Device :=
  match device.handle packet status with
  | .ok _ after | .error _ after => after

/-- A sound device handles any packet without a fault. -/
theorem handle_run {device : Device} (hsound : device.Sound) (packet : Packet)
    (status : ParseStatus) :
    device.handle packet status =
      .ok (device.replyFor? packet status)
        (if device.Executes packet status then
          device.afterCommand packet.command packet.parameters
        else device) := by
  rw [handle, bind_of_ok (get_run device)]
  unfold replyFor?
  by_cases hmeant : packet.id = device.id ∨ packet.id.isBroadcast
  · have hidle : status ≠ .complete → ¬device.Executes packet status := fun hstatus h => hstatus h.1
    rw [if_pos hmeant]
    cases status with
    | incomplete | tooMuchData =>
        rw [if_neg (hidle (by simp)), ite_self]
        rfl
    | checksumMismatch expected received =>
        rw [if_neg (hidle (by simp))]
        rfl
    | complete =>
        have hexecutes : device.Executes packet .complete := ⟨rfl, hmeant⟩
        have hrun := execute_run hsound packet.command packet.parameters
        rw [if_pos hexecutes]
        exact bind_of_ok hrun
  · have hid : packet.id ≠ device.id := fun h => hmeant (Or.inl h)
    have hidle : ¬device.Executes packet status := fun h => hmeant h.2
    rw [if_neg hmeant, if_neg hid, if_neg hidle]
    rfl

theorem handled_of_executes {device : Device} (hsound : device.Sound) {packet : Packet}
    {status : ParseStatus} (hexecutes : device.Executes packet status) :
    device.handled packet status = device.afterCommand packet.command packet.parameters := by
  rw [handled, handle_run hsound, if_pos hexecutes]

theorem handled_of_not_executes {device : Device} (hsound : device.Sound) {packet : Packet}
    {status : ParseStatus} (hidle : ¬device.Executes packet status) :
    device.handled packet status = device := by
  rw [handled, handle_run hsound, if_neg hidle]

/-- The request that a packet makes the device carry out, if it is executed and asks for one that is
not refused. -/
def heeded? (device : Device) (packet : Packet) (status : ParseStatus) : Option Request :=
  if device.Executes packet status then
    (Request.ofCommand? device.id packet.command packet.parameters).filter fun request =>
      request.refusal? device.table.length = none
  else none

theorem heeded?_eq_some_iff {device : Device} {packet : Packet} {status : ParseStatus}
    {request : Request} :
    device.heeded? packet status = some request ↔
      device.Executes packet status ∧
        Request.ofCommand? device.id packet.command packet.parameters = some request ∧
        request.refusal? device.table.length = none := by
  unfold heeded?
  split
  · next hexecutes => simp [hexecutes, Option.filter_eq_some_iff]
  · next hidle => simp [hidle]

/-- A packet leaves a sound device as it is, or makes it carry out a request. -/
theorem handled_eq {device : Device} (hsound : device.Sound) (packet : Packet)
    (status : ParseStatus) :
    device.handled packet status =
      (device.heeded? packet status).elim device device.carriedOut := by
  unfold heeded?
  by_cases hexecutes : device.Executes packet status
  · rw [handled_of_executes hsound hexecutes, if_pos hexecutes, afterCommand]
    cases Request.ofCommand? device.id packet.command packet.parameters with
    | none => rfl
    | some request =>
        cases hrefusal : request.refusal? device.table.length with
        | none => simp [after, hrefusal, Option.filter_some]
        | some flags => simp [after, hrefusal, Option.filter_some]
  · rw [handled_of_not_executes hsound hexecutes, if_neg hexecutes]
    rfl

/-- What reads, writes and restarts keep true of a table, every request keeps true. -/
theorem carriedOut_of {P : Table → Prop}
    (hread : ∀ table start count, P table → P (Table.refreshedFrom table start count))
    (hwrite : ∀ table start data, P table → P (Table.applied table start data))
    (hreset : ∀ table : Table, P table → P table.restarted.saved)
    {device : Device} (h : P device.table) (request : Request) :
    P (device.carriedOut request).table := by
  cases request with
  | ping | regWrite => exact h
  | read start count => exact hread _ _ _ h
  | write start data => exact hwrite _ _ _ h
  | action =>
      unfold carriedOut
      cases device.staged? with
      | none => exact h
      | some write => exact hwrite _ _ _ h
  | reset => exact hreset _ h

theorem carriedOut_keeps {α : Type} (view : Table → α)
    (hread : ∀ table start count, view (Table.refreshedFrom table start count) = view table)
    (hwrite : ∀ table start data, view (Table.applied table start data) = view table)
    (hreset : ∀ table : Table, view table.restarted.saved = view table)
    (device : Device) (request : Request) :
    view (device.carriedOut request).table = view device.table :=
  carriedOut_of (P := fun table => view table = view device.table)
    (fun table start count h => (hread table start count).trans h)
    (fun table start data h => (hwrite table start data).trans h)
    (fun table h => (hreset table).trans h) rfl request

theorem length_carriedOut (device : Device) (request : Request) :
    (device.carriedOut request).table.length = device.table.length :=
  carriedOut_keeps Table.length (by simp) (by simp) (by simp) device request

theorem persistentLength_carriedOut (device : Device) (request : Request) :
    (device.carriedOut request).table.registers.persistentLength =
      device.table.registers.persistentLength :=
  carriedOut_keeps (fun table => table.registers.persistentLength) (by simp) (by simp) (by simp)
    device request

theorem sound_handled {device : Device} (hsound : device.Sound) (packet : Packet)
    (status : ParseStatus) : (device.handled packet status).Sound := by
  rw [handled_eq hsound]
  cases hheeded : device.heeded? packet status with
  | none => exact hsound
  | some request => exact sound_carriedOut hsound (heeded?_eq_some_iff.mp hheeded).2.2

def handledAll (device : Device) (reports : List (Packet × ParseStatus)) : Device :=
  reports.foldl (fun device report => device.handled report.1 report.2) device

theorem sound_handledAll {device : Device} (hsound : device.Sound)
    (reports : List (Packet × ParseStatus)) : (device.handledAll reports).Sound := by
  induction reports generalizing device with
  | nil => exact hsound
  | cons report reports ih => exact ih (sound_handled hsound report.1 report.2)

theorem handledAll_concat (device : Device) (reports : List (Packet × ParseStatus))
    (packet : Packet) (status : ParseStatus) :
    device.handledAll (reports ++ [(packet, status)]) =
      (device.handledAll reports).handled packet status := by
  simp [handledAll]

theorem length_handledAll {device : Device} (hsound : device.Sound)
    (reports : List (Packet × ParseStatus)) :
    (device.handledAll reports).table.length = device.table.length := by
  induction reports generalizing device with
  | nil => rfl
  | cons report reports ih =>
      obtain ⟨packet, status⟩ := report
      have hrest := ih (sound_handled hsound packet status)
      refine hrest.trans ?_
      rw [handled_eq hsound]
      cases device.heeded? packet status with
      | none => rfl
      | some request => exact length_carriedOut device request

end Device

theorem Station.handle_run {station : Station} (hsound : station.device.Sound) (packet : Packet)
    (status : ParseStatus) :
    let sent := station.channel.send
      ((station.device.replyFor? packet status).elim [] Reply.wire)
    station.handle packet status =
      (.ok sent.1, { device := station.device.handled packet status, channel := sent.2 }) := by
  intro sent
  rw [handle, Device.handled, Device.handle_run hsound]
  unfold sent
  cases station.device.replyFor? packet status with
  | none =>
      rw [Option.elim_none, Channel.send_nil]
  | some reply => rfl

end ServoBus
