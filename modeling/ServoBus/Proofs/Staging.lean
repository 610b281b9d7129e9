import Mathlib.Data.List.Induction
import ServoBus.Proofs.Conduct
import ServoBus.Proofs.Dialogue

/-!
# Staged writes

A write that is staged is carried out when an action asks for it, once, and as it would be if it
came then. Which write that is follows from the packets alone that the device executed: the last one
that it was told to stage, and did not refuse, since its last action (`Packet.lastStaged?`).

Main statement: `Device.carries_out_lastStaged`.
-/

namespace ServoBus

/-! ## The history of a device -/

namespace Packet

def isAction (packet : Packet) : Bool := packet.command = Instruction.action.code

def stages (length : Nat) (packet : Packet) : Bool :=
  packet.command = Instruction.regWrite.code && (Device.checkWrite length packet.parameters).isOk

/-- Of packets that a device with so many registers executed, the last with which it staged a write
since its last action. -/
def lastStaged? (length : Nat) (packets : List Packet) : Option Packet :=
  (packets.reverse.takeWhile fun packet => !packet.isAction).find? (stages length)

theorem lastStaged?_concat (length : Nat) (packets : List Packet) (packet : Packet) :
    lastStaged? length (packets ++ [packet]) =
      if packet.isAction then none
      else if packet.stages length then some packet
      else lastStaged? length packets := by
  rw [lastStaged?, List.reverse_concat, List.takeWhile_cons]
  by_cases haction : packet.isAction
  · simp [haction]
  · by_cases hstages : packet.stages length
    · simp [haction, hstages]
    · simp [haction, hstages, lastStaged?]

theorem exists_of_stages {length : Nat} {packet : Packet} (h : packet.stages length) :
    ∃ write, Device.checkWrite length packet.parameters = .ok write := by
  have hok : (Device.checkWrite length packet.parameters).isOk := (Bool.and_eq_true_iff.mp h).2
  cases hcheck : Device.checkWrite length packet.parameters with
  | ok write => exact ⟨write, rfl⟩
  | error flags =>
      rw [hcheck] at hok
      cases hok

end Packet

theorem Request.instruction_of_ofInstruction? {id : Id} {instruction : Instruction}
    {parameters : Bytes} {request : Request}
    (h : ofInstruction? id instruction parameters = some request) :
    request.instruction = if instruction = .syncWrite then .write else instruction := by
  unfold ofInstruction? at h
  split at h
  case h_7 =>
    split at h
    · cases h
    · obtain ⟨data, -, rfl⟩ := Option.map_eq_some_iff.mp h
      rfl
  all_goals
    cases h
    try rfl

namespace Device

def executed (device : Device) : List (Packet × ParseStatus) → List Packet
  | [] => []
  | (packet, status) :: reports =>
      if device.Executes packet status then
        packet :: (device.handled packet status).executed reports
      else (device.handled packet status).executed reports

theorem executed_concat (device : Device) (reports : List (Packet × ParseStatus))
    (packet : Packet) (status : ParseStatus) :
    device.executed (reports ++ [(packet, status)]) =
      device.executed reports ++
        if (device.handledAll reports).Executes packet status then [packet] else [] := by
  induction reports generalizing device with
  | nil =>
      simp only [List.nil_append, executed]
      rfl
  | cons report reports ih =>
      simp only [List.cons_append, executed, ih]
      split <;> rfl

/-! ## What waits -/

theorem staged?_action (device : Device) : (device.carriedOut .action).staged? = none := by
  unfold carriedOut
  cases hstaged : device.staged? with
  | none => exact hstaged
  | some write => rfl

theorem staged?_regWrite (device : Device) (start : UInt8) (data : Bytes) :
    (device.after (.regWrite start data)).staged? =
      (checkWrite device.table.length (start :: data)).toOption.or device.staged? := by
  have hsame : (Request.regWrite start data).refusal? device.table.length =
      (Request.write start data).refusal? device.table.length := rfl
  unfold after
  rw [hsame]
  cases hrefusal : (Request.write start data).refusal? device.table.length with
  | none =>
      rw [(checkWrite_of_refusal?_eq_none hrefusal).1]
      rfl
  | some flags =>
      rw [checkWrite_of_refusal?_eq_some hrefusal]
      rfl

theorem table_regWrite (device : Device) (parameters : Bytes) :
    (device.afterCommand Instruction.regWrite.code parameters).table = device.table := by
  rw [afterCommand, Request.ofCommand?_code]
  cases parameters with
  | nil => rfl
  | cons start data =>
      rw [Request.ofInstruction?, Option.elim_some]
      unfold after
      split
      · rfl
      · rfl

/-- Nothing else but staging and an action touches the write that waits. -/
theorem staged?_after_of_ne (device : Device) {request : Request}
    (hregWrite : request.instruction ≠ .regWrite) (haction : request.instruction ≠ .action) :
    (device.after request).staged? = device.staged? := by
  unfold after
  split
  · cases request with
    | ping | read | write | reset => rfl
    | regWrite => exact absurd rfl hregWrite
    | action => exact absurd rfl haction
  · rfl

theorem staged?_afterCommand (device : Device) (command : UInt8) (parameters : Bytes) :
    (device.afterCommand command parameters).staged? =
      if command = Instruction.action.code then none
      else if command = Instruction.regWrite.code then
        (checkWrite device.table.length parameters).toOption.or device.staged?
      else device.staged? := by
  unfold afterCommand Request.ofCommand?
  cases hinstruction : Instruction.ofByte? command with
  | none =>
      have hunknown : ∀ instruction : Instruction, command ≠ instruction.code := by
        rintro instruction rfl
        rw [Instruction.ofByte?_code] at hinstruction
        cases hinstruction
      rw [if_neg (hunknown .action), if_neg (hunknown .regWrite)]
      rfl
  | some instruction =>
      obtain rfl := Instruction.code_of_ofByte? hinstruction
      cases instruction with
      | action => exact staged?_action device
      | regWrite =>
          cases parameters with
          | nil => rfl
          | cons start data => exact staged?_regWrite device start data
      | ping | read | write | reset | syncWrite =>
          rw [if_neg (by decide), if_neg (by decide), Option.bind_some]
          cases hrequest : Request.ofInstruction? device.id _ parameters with
          | none => rfl
          | some request =>
              have hasked := Request.instruction_of_ofInstruction? hrequest
              exact staged?_after_of_ne device (by simp [hasked]) (by simp [hasked])

theorem staged?_handled {device : Device} (hsound : device.Sound) (packet : Packet)
    (status : ParseStatus) :
    (device.handled packet status).staged? =
      if device.Executes packet status then
        if packet.isAction then none
        else if packet.stages device.table.length then
          (checkWrite device.table.length packet.parameters).toOption
        else device.staged?
      else device.staged? := by
  by_cases hexecutes : device.Executes packet status
  · rw [handled_of_executes hsound hexecutes, staged?_afterCommand, if_pos hexecutes]
    by_cases haction : packet.command = Instruction.action.code
    · simp [Packet.isAction, haction]
    · have hidle : ¬packet.isAction := by simpa [Packet.isAction] using haction
      rw [if_neg haction, if_neg hidle, Packet.stages]
      by_cases hregWrite : packet.command = Instruction.regWrite.code
      · rw [if_pos hregWrite, decide_eq_true hregWrite, Bool.true_and]
        cases checkWrite device.table.length packet.parameters with
        | ok write => rfl
        | error flags => rfl
      · rw [if_neg hregWrite, decide_eq_false hregWrite, Bool.false_and]
        rfl
  · rw [handled_of_not_executes hsound hexecutes, if_neg hexecutes]

/-- The write that waits after packets is the one with which the last of them staged a write. -/
theorem staged?_handledAll {start : Device} (hsound : start.Sound) (hstaged : start.staged? = none)
    (reports : List (Packet × ParseStatus)) :
    (start.handledAll reports).staged? =
      (Packet.lastStaged? start.table.length (start.executed reports)).bind fun packet =>
        (checkWrite start.table.length packet.parameters).toOption := by
  -- from the last packet backwards: it decides what waits, or leaves it to those before
  induction reports using List.reverseRecOn with
  | nil => exact hstaged
  | append_singleton reports report ih =>
      obtain ⟨packet, status⟩ := report
      have hrun := sound_handledAll hsound reports
      have hlength := length_handledAll hsound reports
      rw [handledAll_concat, staged?_handled hrun, hlength, executed_concat]
      by_cases hexecutes : (start.handledAll reports).Executes packet status
      · rw [if_pos hexecutes, if_pos hexecutes, Packet.lastStaged?_concat]
        by_cases haction : packet.isAction
        · rw [if_pos haction, if_pos haction, Option.bind_none]
        · by_cases hstages : packet.stages start.table.length
          · rw [if_neg haction, if_neg haction, if_pos hstages, if_pos hstages, Option.bind_some]
          · rw [if_neg haction, if_neg haction, if_neg hstages, if_neg hstages]
            exact ih
      · rw [if_neg hexecutes, if_neg hexecutes, List.append_nil]
        exact ih

/-! ## Actions -/

theorem execute_write_of_checkWrite {device : Device}
    (hordinary : device.table.peripheral.IsOrdinary) {parameters : Bytes} {write : StagedWrite}
    (hcheck : checkWrite device.table.length parameters = .ok write) :
    device.execute Instruction.write.code parameters =
      .ok (some ⟨.noError, []⟩)
        { device with table := device.table.applied write.start write.data } := by
  cases parameters with
  | nil => cases hcheck
  | cons start data =>
      cases hrefusal : (Request.write start data).refusal? device.table.length with
      | none =>
          have hsame := (checkWrite_of_refusal?_eq_none hrefusal).1.symm.trans hcheck
          obtain rfl := Except.ok.inj hsame
          exact execute_write_of_refusal?_eq_none hordinary hrefusal
      | some flags =>
          have hrefused := checkWrite_of_refusal?_eq_some hrefusal
          rw [hcheck] at hrefused
          cases hrefused

/-- To carry out the write that waits is to execute it as a write. -/
theorem carriedOut_action_of_staged {device : Device}
    (hordinary : device.table.peripheral.IsOrdinary) {parameters : Bytes} {write : StagedWrite}
    (hcheck : checkWrite device.table.length parameters = .ok write)
    (hstaged : device.staged? = some write) :
    ∃ written, device.execute Instruction.write.code parameters =
        .ok (some ⟨.noError, []⟩) written ∧
      device.carriedOut .action = { written with staged? := none } := by
  refine ⟨_, execute_write_of_checkWrite hordinary hcheck, ?_⟩
  simp only [carriedOut, hstaged]

theorem handle_action {device : Device} (hsound : device.Sound) {packet : Packet}
    {status : ParseStatus} (hexecutes : device.Executes packet status) (haction : packet.isAction) :
    device.handle packet status =
      .ok (if packet.id = device.id then some ⟨device.id, ⟨.noError, []⟩⟩ else none)
        (device.carriedOut .action) := by
  have hcommand : packet.command = Instruction.action.code := of_decide_eq_true haction
  obtain ⟨rfl, hmeant⟩ := hexecutes
  have hexecutes : device.Executes packet .complete := ⟨rfl, hmeant⟩
  rw [handle_run hsound, if_pos hexecutes]
  unfold replyFor?
  rw [hcommand]
  rfl

/-- An executed action does what a write with the parameters of the write that was staged last would
do at this moment, and nothing waits behind it. Where none was staged since the action before, it
does nothing. Staging does nothing but that, and no other packet touches the write that waits. -/
theorem carries_out_lastStaged {start : Device} (hordinary : start.table.peripheral.IsOrdinary)
    (hstaged : start.staged? = none) (reports : List (Packet × ParseStatus)) :
    let device := start.handledAll reports
    (∀ packet status, device.Executes packet status → packet.isAction →
      ∃ after,
        device.handle packet status =
          .ok (if packet.id = device.id then some ⟨device.id, ⟨.noError, []⟩⟩ else none) after ∧
        match Packet.lastStaged? start.table.length (start.executed reports) with
        | none => after = device
        | some staged => ∃ written,
            device.execute Instruction.write.code staged.parameters =
              .ok (some ⟨.noError, []⟩) written ∧
            after = { written with staged? := none }) ∧
    (∀ packet status, packet.command = Instruction.regWrite.code →
      (device.handled packet status).table = device.table) ∧
    (∀ packet status,
      ¬(device.Executes packet status ∧
        (packet.isAction ∨ packet.stages start.table.length)) →
      (device.handled packet status).staged? = device.staged?) := by
  intro device
  have hstart := sound_of_staged?_eq_none hordinary hstaged
  have hsound : device.Sound := sound_handledAll hstart reports
  have hlength : device.table.length = start.table.length := length_handledAll hstart reports
  have hwaits := staged?_handledAll hstart hstaged reports
  change device.staged? = _ at hwaits
  refine ⟨?_, ?_, ?_⟩
  · intro packet status hexecutes haction
    refine ⟨_, handle_action hsound hexecutes haction, ?_⟩
    cases hlast : Packet.lastStaged? start.table.length (start.executed reports) with
    | none =>
        rw [hlast, Option.bind_none] at hwaits
        simp only [carriedOut, hwaits]
    | some staged =>
        obtain ⟨write, hcheck⟩ := Packet.exists_of_stages (List.find?_some hlast)
        rw [hlast, Option.bind_some, hcheck] at hwaits
        rw [← hlength] at hcheck
        exact carriedOut_action_of_staged hsound.ordinary hcheck hwaits
  · intro packet status hregWrite
    by_cases hexecutes : device.Executes packet status
    · rw [handled_of_executes hsound hexecutes, hregWrite]
      exact table_regWrite device packet.parameters
    · rw [handled_of_not_executes hsound hexecutes]
  · intro packet status hother
    rw [staged?_handled hsound, hlength]
    split
    · next hexecutes =>
        have hkeeps := not_or.mp fun h => hother ⟨hexecutes, h⟩
        rw [if_neg hkeeps.1, if_neg hkeeps.2]
    · rfl

/-- A refused write leaves the one that waits, and so does a write that is carried out at once. -/
theorem carries_out_lastStaged_refused :
    let start := (Station.smallest 6).device
    let stage := Packet.roomy.fill ⟨6⟩ Instruction.regWrite.code [Offset.baud, 9]
    let refused := Packet.roomy.fill ⟨6⟩ Instruction.regWrite.code [200, 1]
    let write := Packet.roomy.fill ⟨6⟩ Instruction.write.code [Offset.baud, 7]
    let action := Packet.roomy.fill Id.broadcast Instruction.action.code []
    let reports := [(stage, ParseStatus.complete), (refused, .complete), (write, .complete)]
    let device := start.handledAll reports
    start.table.peripheral.IsOrdinary ∧ start.staged? = none ∧
      (device.Executes action .complete ∧ action.isAction = true ∧
        ∃ written,
          device.execute Instruction.write.code [Offset.baud, 9] =
            .ok (some ⟨.noError, []⟩) written ∧
          device.handle action .complete = .ok none { written with staged? := none } ∧
          device.table.lineRate? = some 250000 ∧
          (device.handled action .complete).table.lineRate? = some 200000) ∧
      (stage.command = Instruction.regWrite.code ∧
        (device.handled stage .complete).table = device.table) ∧
      (¬(device.Executes write .complete ∧
          (write.isAction = true ∨ write.stages start.table.length = true)) ∧
        (device.handled write .complete).staged? = device.staged?) := by
  intro start stage refused write action reports device
  have hordinary : start.table.peripheral.IsOrdinary := trivial
  have hexecutes : device.Executes action .complete := by decide +kernel
  have hwrite : ¬(device.Executes write .complete ∧
      (write.isAction = true ∨ write.stages start.table.length = true)) := by decide +kernel
  have hwaits : (Packet.lastStaged? start.table.length (start.executed reports)).map
      Packet.parameters = some [Offset.baud, 9] := by decide +kernel
  obtain ⟨staged, hlast, hparameters⟩ := Option.map_eq_some_iff.mp hwaits
  obtain ⟨hcarries, hstaging, hother⟩ := carries_out_lastStaged hordinary rfl reports
  have hcarried := hcarries action .complete hexecutes rfl
  rw [hlast] at hcarried
  obtain ⟨after, hhandle, written, hexecute, rfl⟩ := hcarried
  have hforall : action.id ≠ device.id := by decide +kernel
  rw [if_neg hforall] at hhandle
  rw [hparameters] at hexecute
  exact ⟨hordinary, rfl,
    ⟨hexecutes, rfl, written, hexecute, hhandle, by decide +kernel, by decide +kernel⟩,
    ⟨rfl, hstaging stage .complete rfl⟩, hwrite, hother write .complete hwrite⟩

end Device

end ServoBus
