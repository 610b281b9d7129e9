import ServoBus.Proofs.Conduct
import ServoBus.Proofs.Restart

/-!
# Who answers a broadcast

Nobody answers a frame for everyone, as long as nobody has the address of everyone for an id. A
device can be given that id, though: its id register takes any byte. It then takes a broadcast for
a frame of its own. `Station.answers_broadcast_iff` says when a broadcast is answered after any run
of packets, and that it takes a packet which writes the reserved byte into the id register.
-/

namespace ServoBus

/-! ## The id register -/

/-- The byte that a write puts into the id register, at once or when an action asks for it. -/
def Request.idByte? : Request → Option UInt8
  | .write start data | .regWrite start data =>
      if start.toNat ≤ Offset.id.toNat then data[Offset.id.toNat - start.toNat]? else none
  | .ping | .read .. | .action | .reset => none

def Packet.Renames (packet : Packet) (id : Id) : Prop :=
  ∃ bearer request, Request.ofCommand? bearer packet.command packet.parameters = some request ∧
    request.idByte? = some id.byte

namespace Device

theorem id_write (device : Device) {start : UInt8} {data : Bytes}
    (hfit : start.toNat + data.length ≤ device.table.length) :
    (device.carriedOut (.write start data)).id =
      ((Request.write start data).idByte?).elim device.id Id.mk := by
  have hid : Offset.id.toNat < device.table.registers.length :=
    Nat.lt_trans (by decide) device.table.returnDelay_lt
  rw [Device.id, carriedOut, Table.registers_applied _ hfit, Registers.byteAt_replace _ _ _ hid,
    Request.idByte?]
  split
  · cases data[Offset.id.toNat - start.toNat]? with
    | none => rfl
    | some byte => rfl
  · rfl

theorem id_read (device : Device) (start count : UInt8) :
    (device.carriedOut (.read start count)).id = device.id := by
  have hsame := Table.getElem?_refreshedFrom_of_ne_temperature device.table start.toNat count.toNat
    (show Offset.id.toNat ≠ Offset.temperature.toNat by decide)
  simp only [Device.id, Registers.byteAt, List.getD_eq_getElem?_getD]
  exact congrArg (fun byte? => Id.mk (byte?.getD 0)) hsame

theorem id_reset (device : Device) : (device.carriedOut .reset).id = ⟨0⟩ := by
  rw [Device.id, carriedOut, Table.registers_saved, Registers.byteAt, Table.bytes_restarted]
  cases device.table.peripheral with
  | bare | servo | probe => rfl

/-! ## Devices apart from everyone -/

/-- The device does not have the address of everyone for its id, nor does a write wait that would
give it this id. -/
structure Apart (device : Device) : Prop where
  id : device.id ≠ Id.broadcast
  staged : ∀ write, device.staged? = some write →
    (Request.write write.start write.data).idByte? ≠ some Id.broadcast.byte

theorem elim_mk_ne {byte? : Option UInt8} {id other : Id} (hid : id ≠ other)
    (hbyte : byte? ≠ some other.byte) : byte?.elim id Id.mk ≠ other := by
  cases byte? with
  | none => exact hid
  | some byte =>
      rintro rfl
      exact hbyte rfl

theorem apart_carriedOut {device : Device} (hsound : device.Sound) (h : device.Apart)
    {request : Request} (hrefusal : request.refusal? device.table.length = none)
    (hbyte : request.idByte? ≠ some Id.broadcast.byte) : (device.carriedOut request).Apart := by
  cases request with
  | ping => exact h
  | read start count =>
      refine ⟨?_, h.staged⟩
      rw [id_read]
      exact h.id
  | write start data =>
      refine ⟨?_, h.staged⟩
      rw [id_write device (checkWrite_of_refusal?_eq_none hrefusal).2]
      exact elim_mk_ne h.id hbyte
  | regWrite start data =>
      refine ⟨h.id, ?_⟩
      intro write hwrite
      cases hwrite
      exact hbyte
  | action =>
      cases hstaged : device.staged? with
      | none =>
          have hsame : device.carriedOut .action = device := by rw [carriedOut, hstaged]
          rw [hsame]
          exact h
      | some write =>
          have hid := id_write device (hsound.staged write hstaged)
          have happlied : device.carriedOut .action =
              { table := device.table.applied write.start write.data } := by
            rw [carriedOut, hstaged]
          rw [happlied]
          refine ⟨?_, by simp⟩
          change (device.carriedOut (.write write.start write.data)).id ≠ Id.broadcast
          rw [hid]
          exact elim_mk_ne h.id (h.staged write hstaged)
  | reset =>
      refine ⟨?_, h.staged⟩
      rw [id_reset]
      decide

theorem apart_handled {device : Device} (hsound : device.Sound) (h : device.Apart) {packet : Packet}
    {status : ParseStatus}
    (hkept : status = .complete → ¬packet.Renames Id.broadcast) :
    (device.handled packet status).Apart := by
  rw [handled_eq hsound]
  cases hheeded : device.heeded? packet status with
  | none => exact h
  | some request =>
      obtain ⟨hexecutes, hrequest, hrefusal⟩ := heeded?_eq_some_iff.mp hheeded
      refine apart_carriedOut hsound h hrefusal ?_
      intro hbyte
      exact hkept hexecutes.1 ⟨device.id, request, hrequest, hbyte⟩

theorem apart_handledAll {device : Device} (hsound : device.Sound) (h : device.Apart)
    {reports : List (Packet × ParseStatus)}
    (hkept : ∀ report ∈ reports, report.2 = .complete → ¬report.1.Renames Id.broadcast) :
    (device.handledAll reports).Apart := by
  induction reports generalizing device with
  | nil => exact h
  | cons report reports ih =>
      have hfirst := hkept report (List.mem_cons_self ..)
      have hothers := fun other hother => hkept other (List.mem_cons_of_mem _ hother)
      exact ih (sound_handled hsound report.1 report.2) (apart_handled hsound h hfirst) hothers

end Device

/-! ## Answers -/

/-- Whoever a packet is addressed to answers it: it is unsound, or whole and no write to many
devices. -/
def Packet.IsAnswered (packet : Packet) (status : ParseStatus) : Prop :=
  (∃ expected received, status = .checksumMismatch expected received) ∨
    (status = .complete ∧ Instruction.ofByte? packet.command ≠ some .syncWrite)

theorem Device.isSome_replyFor?_iff {device : Device} {packet : Packet} {status : ParseStatus} :
    (device.replyFor? packet status).isSome ↔
      packet.id = device.id ∧ packet.IsAnswered status := by
  unfold replyFor? Packet.IsAnswered
  by_cases hid : packet.id = device.id
  · rw [if_pos hid]
    cases status with
    | incomplete | tooMuchData | checksumMismatch => simp [hid]
    | complete => simp [hid, answerFor?]
  · simp [hid]

namespace Station

theorem outbox_handle_ne_iff {station : Station} (hsound : station.device.Sound)
    (hconnected : station.channel.peerPresent) (packet : Packet) (status : ParseStatus) :
    (station.handle packet status).2.channel.outbox ≠ station.channel.outbox ↔
      (station.device.replyFor? packet status).isSome := by
  rw [handle_run hsound]
  cases station.device.replyFor? packet status with
  | none => simp [Channel.send]
  | some reply =>
      have hbytes : reply.wire ≠ [] := Packet.wire_ne_nil _
      simp [Channel.send, hconnected, hbytes]

/-- After any packets, a broadcast is answered by a device that has the address of everyone for its
id, if others would answer a frame of their own like it, and by no other. No device comes to this id
without a packet that writes it into the id register. -/
theorem answers_broadcast_iff {start : Device} (hordinary : start.table.peripheral.IsOrdinary)
    (hstaged : start.staged? = none) (reports : List (Packet × ParseStatus)) {packet : Packet}
    (hbroadcast : packet.id = Id.broadcast) (status : ParseStatus) {channel : Channel}
    (hconnected : channel.peerPresent) :
    let device := start.handledAll reports
    let after := (({ device, channel } : Station).handle packet status).2
    (after.channel.outbox ≠ channel.outbox ↔
        device.id = Id.broadcast ∧ packet.IsAnswered status) ∧
      (start.id ≠ Id.broadcast →
        (∀ report ∈ reports, report.2 = .complete → ¬report.1.Renames Id.broadcast) →
        after.channel.outbox = channel.outbox) := by
  intro device after
  have hsound := Device.sound_of_staged?_eq_none hordinary hstaged
  have hrun : device.Sound := Device.sound_handledAll hsound reports
  have hanswered : after.channel.outbox ≠ channel.outbox ↔
      device.id = Id.broadcast ∧ packet.IsAnswered status := by
    have hsent := @outbox_handle_ne_iff { device, channel } hrun hconnected packet status
    rw [Device.isSome_replyFor?_iff, hbroadcast, eq_comm] at hsent
    exact hsent
  refine ⟨hanswered, ?_⟩
  intro hid hkept
  have hapart : start.Apart := ⟨hid, by simp [hstaged]⟩
  have hother := (Device.apart_handledAll hsound hapart hkept).id
  exact Decidable.byContradiction fun hsent => hother (hanswered.mp hsent).1

/-- A servo that was reset takes another id and leaves a broadcast without an answer. -/
theorem answers_broadcast_iff_other_id :
    let registers : Registers := {
      bytes := List.replicate 50 0
      persistentLength := 24
      length_le := by decide
      persistentLength_le := by decide }
    let table : Table := {
      registers
      peripheral := .servo {}
      storage := .memory .empty
      returnDelay_lt := by decide }
    let start : Device := { table := table.restarted }
    let reports : List (Packet × ParseStatus) :=
      [(Packet.roomy.fill ⟨0⟩ Instruction.write.code [Offset.id, 7], .complete)]
    let asked := Packet.roomy.fill Id.broadcast Instruction.ping.code []
    let channel : Channel := {}
    Table.reset table = .ok () start.table ∧ (start.handledAll reports).id = ⟨7⟩ ∧
      (({ device := start.handledAll reports, channel } : Station).handle asked
        .complete).2.channel.outbox = channel.outbox := by
  intro registers table start reports asked channel
  have hordinary : table.peripheral.IsOrdinary := trivial
  have hstart : table.restarted.peripheral.IsOrdinary := Table.isOrdinary_restarted hordinary
  have hbroadcast : asked.id = Id.broadcast := rfl
  have hconnected : channel.peerPresent = true := rfl
  have hid : (start.handledAll reports).id = ⟨7⟩ := by decide +kernel
  have hboth :=
    @answers_broadcast_iff start hstart rfl reports asked hbroadcast .complete channel hconnected
  have hreset : Table.reset table = .ok () start.table := Table.reset_run hordinary
  refine ⟨hreset, hid, ?_⟩
  apply Classical.byContradiction
  intro hsent
  have hother := (hboth.1.mp hsent).1
  rw [hid] at hother
  exact absurd hother (by decide)

/-- A servo that was reset and told to take the address of everyone for its id answers a broadcast
ping. -/
theorem broadcast_answered_by_renamed :
    let registers : Registers := {
      bytes := List.replicate 50 0
      persistentLength := 24
      length_le := by decide
      persistentLength_le := by decide }
    let table : Table := {
      registers
      peripheral := .servo {}
      storage := .memory .empty
      returnDelay_lt := by decide }
    let start : Device := { table := table.restarted }
    let renamed := start.handled
      (Packet.roomy.fill ⟨0⟩ Instruction.write.code [Offset.id, 0xFE]) .complete
    let asked := Packet.roomy.fill Id.broadcast Instruction.ping.code []
    Table.reset table = .ok () start.table ∧ start.id = ⟨0⟩ ∧
      (({ device := renamed } : Station).handle asked .complete).2.channel.outbox =
        [0xFF, 0xFF, 0xFE, 0x02, 0x00, 0xFF] := by
  intro registers table start renamed asked
  have hordinary : table.peripheral.IsOrdinary := trivial
  refine ⟨Table.reset_run hordinary, ?_, ?_⟩
  · decide +kernel
  · decide +kernel

end Station

end ServoBus
