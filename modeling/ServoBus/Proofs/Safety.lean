import ServoBus.Proofs.Conduct
import ServoBus.Proofs.Framing

/-!
# Nothing that arrives stops a device

A device is `Reached` from one without a staged write by packets, by bytes on its line and by
whatever changes its table without changing its size. Main statement: no packet and no bytes make a
reached device meet a fault (`Device.unfailing_of_reached`).
-/

namespace ServoBus

/-! ## Bytes on the line -/

/-- No frame declares more parameters than a frame can have. -/
theorem Frame.status_ne_tooMuchData (frame : Frame) :
    frame.status maxParameters ≠ .tooMuchData := by
  unfold status
  rw [if_neg (Nat.not_lt.mpr frame.length_parameters_le)]
  split <;> simp

theorem Packet.takeFrame_roomy_ne_tooMuchData (bytes : Bytes) :
    (roomy.takeFrame bytes).status ≠ .tooMuchData := by
  have hcapacity : roomy.capacity = maxParameters := List.length_replicate
  cases hnext : Frame.next? bytes with
  | none =>
      rw [takeFrame_of_next?_eq_none rfl hnext]
      simp
  | some found =>
      rw [takeFrame_of_next?_eq_some rfl hnext, hcapacity]
      exact found.1.status_ne_tooMuchData

namespace Station

def behindFrame (station : Station) : Station :=
  { station with
    channel := { station.channel with
      inbox := (Packet.roomy.takeFrame station.channel.inbox).rest } }

/-- A step handles the first frame among the bytes that wait. Without a whole one it ends in an
error, and nothing but the bytes is lost. -/
theorem step_eq (station : Station) :
    let taken := Packet.roomy.takeFrame station.channel.inbox
    station.step =
      if taken.status = .incomplete then
        (.ok (.error (if station.channel.peerPresent then .timeout else .io .channelClosed)),
          station.behindFrame)
      else
        let handled := station.behindFrame.handle taken.packet taken.status
        (handled.1.map fun outcome => outcome.map fun _ => taken.status, handled.2) := by
  intro taken
  rw [step, Channel.readFrame_eq]
  by_cases hincomplete : taken.status = .incomplete
  · simp only [taken] at hincomplete
    simp only [taken, hincomplete, if_true]
    rfl
  · simp only [taken] at hincomplete
    simp only [taken, hincomplete, if_false]
    rfl

/-- A step of a sound device ends well, and its device is as it was or has handled a packet. -/
theorem step_run {station : Station} (hsound : station.device.Sound) :
    (∃ result, station.step.1 = .ok result ∧ result ≠ .ok .tooMuchData) ∧
      (station.step.2.device = station.device ∨
        ∃ packet status, station.step.2.device = station.device.handled packet status) := by
  have hmuch := Packet.takeFrame_roomy_ne_tooMuchData station.channel.inbox
  have hrest : station.behindFrame.device.Sound := hsound
  rw [step_eq]
  split
  · exact ⟨⟨_, rfl, by simp⟩, Or.inl rfl⟩
  · dsimp only
    rw [handle_run hrest]
    refine ⟨⟨_, rfl, ?_⟩, Or.inr ⟨_, _, rfl⟩⟩
    cases (Channel.send _ _).1 with
    | error cause => simp [Except.map]
    | ok => simpa [Except.map] using hmuch

theorem sound_step {station : Station} (hsound : station.device.Sound) :
    station.step.2.device.Sound := by
  rcases (step_run hsound).2 with hsame | ⟨packet, status, hafter⟩
  · rw [hsame]
    exact hsound
  · rw [hafter]
    exact Device.sound_handled hsound packet status

theorem drain_run {station : Station} (hsound : station.device.Sound) :
    ∀ outcome ∈ station.drain.1, ∃ result, outcome = .ok result ∧ result ≠ .ok .tooMuchData := by
  fun_induction drain station with
  | case1 station hempty => simp
  | case2 station hwaiting stepped drained ih =>
      intro outcome houtcome
      rcases List.mem_cons.mp houtcome with rfl | hlater
      · exact (step_run hsound).1
      · exact ih (sound_step hsound) outcome hlater

end Station

namespace Device

/-! ## What no frame changes -/

theorem parameters_of_ofCommand?_regWrite {id : Id} {command : UInt8} {parameters : Bytes}
    {start : UInt8} {data : Bytes}
    (h : Request.ofCommand? id command parameters = some (.regWrite start data)) :
    parameters = start :: data := by
  obtain ⟨instruction, -, h⟩ := Option.bind_eq_some_iff.mp h
  unfold Request.ofInstruction? at h
  split at h
  case h_4 =>
    cases h
    rfl
  case h_7 =>
    split at h
    · cases h
    · obtain ⟨entry, -, h⟩ := Option.map_eq_some_iff.mp h
      cases h
  all_goals cases h

/-- What the device carries out, a staged write among it, came with one frame. -/
theorem staged?_carriedOut {device : Device} {packet : Packet} {request : Request}
    (hrequest : Request.ofCommand? device.id packet.command packet.parameters = some request)
    {write : StagedWrite} (hwrite : (device.carriedOut request).staged? = some write) :
    device.staged? = some write ∨ write.data.length < maxParameters := by
  cases request with
  | ping | read | write | reset => exact Or.inl hwrite
  | regWrite start data =>
      have hparameters := parameters_of_ofCommand?_regWrite hrequest
      have hlength := packet.length_parameters
      have hcapacity := packet.capacity_le
      rw [hparameters, List.length_cons] at hlength
      cases hwrite
      right
      dsimp only
      omega
  | action =>
      unfold carriedOut at hwrite
      cases hstaged : device.staged? with
      | none => simp [hstaged] at hwrite
      | some staged => simp [hstaged] at hwrite

/-! ## Reached devices -/

/-- The devices that can come of a device: it handles packets and steps on its line, and its table
may change from outside as long as its size stays. -/
inductive Reached (start : Device) : Device → Prop
  | start : Reached start start
  | handled {device : Device} (packet : Packet) (status : ParseStatus) :
      Reached start device → Reached start (device.handled packet status)
  | stepped {device : Device} (channel : Channel) :
      Reached start device → Reached start ({ device, channel } : Station).step.2.device
  | retabled {device : Device} {table : Table} :
      Reached start device → table.peripheral.IsOrdinary →
      table.length = device.table.length →
      table.registers.persistentLength = device.table.registers.persistentLength →
      Reached start { device with table }

structure Kept (start device : Device) : Prop where
  sound : device.Sound
  length : device.table.length = start.table.length
  persistentLength :
    device.table.registers.persistentLength = start.table.registers.persistentLength
  staged : ∀ write, device.staged? = some write → write.data.length < maxParameters

theorem kept_handled {start device : Device} (h : start.Kept device) (packet : Packet)
    (status : ParseStatus) : start.Kept (device.handled packet status) := by
  have hsound := sound_handled h.sound packet status
  rw [handled_eq h.sound] at hsound ⊢
  cases hheeded : device.heeded? packet status with
  | none => exact h
  | some request =>
      rw [hheeded] at hsound
      have hrequest := (heeded?_eq_some_iff.mp hheeded).2.1
      refine ⟨hsound, ?_, ?_, ?_⟩
      · exact (length_carriedOut device request).trans h.length
      · exact (persistentLength_carriedOut device request).trans h.persistentLength
      · intro write hwrite
        rcases staged?_carriedOut hrequest hwrite with hbefore | hnew
        · exact h.staged write hbefore
        · exact hnew

theorem kept_of_reached {start device : Device} (hordinary : start.table.peripheral.IsOrdinary)
    (hstaged : start.staged? = none) (hreached : Reached start device) : start.Kept device := by
  induction hreached with
  | start => exact ⟨sound_of_staged?_eq_none hordinary hstaged, rfl, rfl, by simp [hstaged]⟩
  | handled packet status _ ih => exact kept_handled ih packet status
  | stepped channel _ ih =>
      rcases (@Station.step_run { device := _, channel } ih.sound).2 with
        hsame | ⟨packet, status, hafter⟩
      · rw [hsame]
        exact ih
      · rw [hafter]
        exact kept_handled ih packet status
  | retabled _ hordinary hlength hpersistent ih =>
      refine ⟨⟨hordinary, ?_⟩, hlength.trans ih.length, hpersistent.trans ih.persistentLength,
        ih.staged⟩
      intro write hwrite
      rw [hlength]
      exact ih.sound.staged write hwrite

/-- Nothing stops the device: packets and bytes lead to no fault, no frame is too long for it, its
replies fit into frames, and so does the write that waits, which fits into its table as well. -/
structure Unfailing (device : Device) : Prop where
  handles : ∀ packet status, ∃ reply? after, device.handle packet status = .ok reply? after ∧
    ∀ reply, reply? = some reply → reply.answer.data.length ≤ maxParameters
  steps : ∀ channel : Channel, ∃ result,
    ({ device, channel } : Station).step.1 = .ok result ∧ result ≠ .ok .tooMuchData
  drains : ∀ channel : Channel, ∀ outcome ∈ ({ device, channel } : Station).drain.1,
    ∃ result, outcome = .ok result ∧ result ≠ .ok .tooMuchData
  staged : ∀ write, device.staged? = some write →
    write.start.toNat + write.data.length ≤ device.table.length ∧
      write.data.length < maxParameters

theorem length_of_replyFor? {device : Device} (hsound : device.Sound) {packet : Packet}
    {status : ParseStatus} {reply : Reply} (h : device.replyFor? packet status = some reply) :
    reply.answer.data.length ≤ maxParameters := by
  unfold replyFor? at h
  split at h
  · split at h
    · cases h
    · cases h
    · cases h
      simp
    · obtain ⟨answer, hanswer, rfl⟩ := Option.map_eq_some_iff.mp h
      have hrun := execute_run hsound packet.command packet.parameters
      rw [hanswer] at hrun
      exact length_of_execute hrun
  · cases h

/-- Whatever has come to a device that had no staged write, nothing stops it, and its table has the
size that it had. -/
theorem unfailing_of_reached {start device : Device}
    (hordinary : start.table.peripheral.IsOrdinary) (hstaged : start.staged? = none)
    (hreached : Reached start device) :
    device.Unfailing ∧ device.table.length = start.table.length ∧
      device.table.registers.persistentLength = start.table.registers.persistentLength := by
  have hkept := kept_of_reached hordinary hstaged hreached
  refine ⟨?_, hkept.length, hkept.persistentLength⟩
  exact {
    handles := fun packet status => ⟨_, _, handle_run hkept.sound packet status,
      fun _ hreply => length_of_replyFor? hkept.sound hreply⟩
    steps := fun _ => (Station.step_run hkept.sound).1
    drains := fun _ => Station.drain_run hkept.sound
    staged := fun write hwrite => ⟨hkept.sound.staged write hwrite, hkept.staged write hwrite⟩ }

/-- A write to the last of as many registers as there can be is staged, so that it could not reach
any further. -/
theorem unfailing_of_reached_last_register :
    let registers : Registers := {
      bytes := List.replicate 256 0
      persistentLength := 256
      length_le := Nat.le_of_eq List.length_replicate
      persistentLength_le := Nat.le_of_eq List.length_replicate.symm }
    let start : Device := {
      table := {
        registers
        peripheral := .servo {}
        storage := .memory .empty
        returnDelay_lt := by
          rw [Registers.length, List.length_replicate]
          decide } }
    let packet := Packet.roomy.fill ⟨0⟩ Instruction.regWrite.code [255, 7]
    let device := start.handled packet .complete
    start.table.peripheral.IsOrdinary ∧ start.staged? = none ∧ Reached start device ∧
      device.staged? = some ⟨255, [7]⟩ ∧
      device.Unfailing ∧ device.table.length = 256 ∧
      device.table.registers.persistentLength = 256 := by
  intro registers start packet device
  have hreached : Reached start device := .handled packet .complete .start
  have hordinary : start.table.peripheral.IsOrdinary := trivial
  have hlength : start.table.length = 256 := List.length_replicate
  obtain ⟨hunfailing, hkept, hpersistent⟩ := unfailing_of_reached hordinary rfl hreached
  refine ⟨hordinary, rfl, hreached, ?_, hunfailing, hkept.trans hlength, hpersistent⟩
  decide +kernel

end Device

end ServoBus
