import ServoBus.Proofs.Broadcast
import ServoBus.Proofs.Dialogue
import ServoBus.Proofs.Safety

/-!
# What a device answers

A device answers a packet that bears its id with one frame, or not at all. The frame bears the id
that the device had when the packet came, whatever has become of the id since. Its flags and the
number of its parameters follow from the command, its parameters and the size of the table alone
(`Instruction.flagsOn`, `Instruction.countOn`).

Main statement: `Station.disciplined_of_sound`.
-/

namespace ServoBus

/-! ## The rule for answers -/

namespace Instruction

/-- The flags of an answer from a device with so many registers. A read names the first register and
how many of them it wants; a write, at once or staged, names the first register and has data for it
at least. -/
def flagsOn (length : Nat) : Option Instruction → Bytes → StatusFlags
  | some .ping, _ | some .action, _ | some .reset, _ => .noError
  | some .read, start :: count :: _ =>
      if start.toNat + count.toNat ≤ length ∧ count.toNat ≤ maxParameters then .noError
      else .rangeError
  | some .write, start :: byte :: rest | some .regWrite, start :: byte :: rest =>
      if start.toNat + (byte :: rest).length ≤ length then .noError else .rangeError
  | _, _ => .instructionError

/-- How many parameters such an answer has: as many as a read wants, if it is not refused. -/
def countOn (length : Nat) : Option Instruction → Bytes → Nat
  | some .read, start :: count :: surplus =>
      if flagsOn length (some .read) (start :: count :: surplus) = .noError then count.toNat else 0
  | _, _ => 0

theorem flagsOn_regWrite (length : Nat) (parameters : Bytes) :
    flagsOn length (some .regWrite) parameters = flagsOn length (some .write) parameters := by
  rcases parameters with _ | ⟨start, _ | ⟨byte, rest⟩⟩
  · rfl
  · rfl
  · rfl

end Instruction

namespace Device

theorem flags_answerTo (device : Device) (request : Request) :
    (device.answerTo request).flags =
      (request.refusal? device.table.length).getD .noError := by
  unfold answerTo
  cases request.refusal? device.table.length with
  | none => rfl
  | some flags => rfl

theorem flags_answerTo_read (device : Device) (start count : UInt8) (surplus : Bytes) :
    (device.answerTo (.read start count)).flags =
      Instruction.flagsOn device.table.length (some .read) (start :: count :: surplus) := by
  rw [flags_answerTo, Request.refusal?, Instruction.flagsOn]
  split <;> rfl

theorem flags_answerTo_write (device : Device) (start : UInt8) (data : Bytes) :
    (device.answerTo (.write start data)).flags =
      Instruction.flagsOn device.table.length (some .write) (start :: data) := by
  rw [flags_answerTo, Request.refusal?]
  cases data with
  | nil => rfl
  | cons byte rest =>
      rw [if_neg (by simp), Instruction.flagsOn]
      split <;> rfl

theorem data_answerTo_of_asked_eq_nil {device : Device} {request : Request}
    (h : (device.carriedOut request).asked request = []) :
    (device.answerTo request).data = [] := by
  unfold answerTo
  split
  · exact h
  · rfl

theorem length_answerTo_read (device : Device) (start count : UInt8) :
    (device.answerTo (.read start count)).data.length =
      if (device.answerTo (.read start count)).flags = .noError then count.toNat else 0 := by
  unfold answerTo
  cases hrefusal : (Request.read start count).refusal? device.table.length with
  | none => exact (length_asked_read hrefusal).trans (if_pos rfl).symm
  | some flags => exact (if_neg (Request.ne_noError_of_refusal? hrefusal)).symm

/-- The flags and the size of an answer are as the rule says. -/
theorem answerFor?_eq (device : Device) {command : UInt8}
    (hcommand : Instruction.ofByte? command ≠ some .syncWrite) (parameters : Bytes) :
    ∃ answer, device.answerFor? command parameters = some answer ∧
      answer.flags =
        Instruction.flagsOn device.table.length (Instruction.ofByte? command) parameters ∧
      answer.data.length =
        Instruction.countOn device.table.length (Instruction.ofByte? command) parameters := by
  refine ⟨_, if_neg hcommand, ?_⟩
  unfold Request.ofCommand?
  cases hinstruction : Instruction.ofByte? command with
  | none => exact ⟨rfl, rfl⟩
  | some instruction =>
      rw [Option.bind_some]
      cases instruction with
      | syncWrite => exact absurd hinstruction hcommand
      | ping | action | reset => exact ⟨rfl, rfl⟩
      | read =>
          rcases parameters with _ | ⟨start, _ | ⟨count, surplus⟩⟩
          · exact ⟨rfl, rfl⟩
          · exact ⟨rfl, rfl⟩
          · have hflags := flags_answerTo_read device start count surplus
            have hlength := length_answerTo_read device start count
            rw [hflags] at hlength
            exact ⟨hflags, hlength⟩
      | write =>
          cases parameters with
          | nil => exact ⟨rfl, rfl⟩
          | cons start data =>
              exact ⟨flags_answerTo_write device start data,
                congrArg List.length (data_answerTo_of_asked_eq_nil rfl)⟩
      | regWrite =>
          cases parameters with
          | nil => exact ⟨rfl, rfl⟩
          | cons start data =>
              refine ⟨?_, congrArg List.length (data_answerTo_of_asked_eq_nil rfl)⟩
              rw [Instruction.flagsOn_regWrite, ← flags_answerTo_write, flags_answerTo]
              exact flags_answerTo device (.regWrite start data)

theorem handle_checksumMismatch (device : Device) (packet : Packet) (expected received : UInt8) :
    device.handle packet (.checksumMismatch expected received) =
      .ok (if packet.id = device.id then some ⟨device.id, ⟨.checksumError, []⟩⟩ else none)
        device := by
  rw [handle, bind_of_ok (get_run device)]
  by_cases hid : packet.id = device.id
  · rw [if_pos (Or.inl hid)]
    rfl
  · rw [if_neg hid]
    split <;> rfl

/-- A device that is asked by everyone's address does what it does when asked by its own. -/
theorem handled_of_isBroadcast {device : Device} (hsound : device.Sound) {packet : Packet}
    (hbroadcast : packet.id.isBroadcast) :
    device.handled packet .complete =
      device.handled { packet with id := device.id } .complete := by
  have hmeant : device.Executes packet .complete := ⟨rfl, Or.inr hbroadcast⟩
  have hown : device.Executes { packet with id := device.id } .complete := ⟨rfl, Or.inl rfl⟩
  rw [handled_of_executes hsound hmeant, handled_of_executes hsound hown]
  rfl

end Device

/-! ## Replies on the line -/

namespace Station

/-- One frame went out and nothing else. It bears an id, flags and so many parameters, and whoever
has storage for the parameters of any frame reads it as a whole one. -/
def Sends (before after : Station) (id : Id) (flags : StatusFlags) (count : Nat) : Prop :=
  ∃ frame : Frame,
    after.channel = { before.channel with outbox := before.channel.outbox ++ frame.bytes } ∧
    frame.id = id ∧ frame.command = flags.byte ∧ frame.parameters.length = count ∧
    ∀ reader : Packet, reader.state = .idle → reader.capacity = maxParameters →
      reader.takeFrame frame.bytes = ⟨reader.loaded frame, .complete, []⟩

structure Disciplined (before : Station) (packet : Packet) (status : ParseStatus)
    (after : Station) : Prop where
  /-- Only who has the id of the packet answers it, and not in every case. -/
  silent : ¬(packet.id = before.device.id ∧ packet.IsAnswered status) →
    after.channel = before.channel
  mismatch : ∀ expected received, status = .checksumMismatch expected received →
    packet.id = before.device.id → before.Sends after before.device.id .checksumError 0
  answer : status = .complete → Instruction.ofByte? packet.command ≠ some .syncWrite →
    packet.id = before.device.id →
    before.Sends after before.device.id
      (Instruction.flagsOn before.device.table.length (Instruction.ofByte? packet.command)
        packet.parameters)
      (Instruction.countOn before.device.table.length (Instruction.ofByte? packet.command)
        packet.parameters)
  idle : ¬before.device.Executes packet status → after.device = before.device
  /-- A packet for everyone is executed as one for this device alone. -/
  broadcast : status = .complete → packet.id.isBroadcast →
    after.device = before.device.handled { packet with id := before.device.id } .complete

theorem sends_of_fits {before : Station} (hconnected : before.channel.peerPresent) (device : Device)
    {reply : Reply} (hfits : reply.Fits) :
    before.Sends { device, channel := (before.channel.send reply.wire).2 } reply.id
      reply.answer.flags reply.answer.data.length := by
  refine ⟨reply.frame hfits, ?_, rfl, rfl, rfl, ?_⟩
  · rw [← Reply.wire_eq_bytes hfits, Channel.send_of_peerPresent hconnected]
  · intro reader hidle hcapacity
    have hsyncs : reader.state.syncs? = some 0 := by
      rw [hidle]
      rfl
    have htake := Packet.takeFrame_bytes hsyncs (reply.frame hfits) []
    have hstatus : (reply.frame hfits).status maxParameters = .complete :=
      Frame.status_sound_roomy hfits.id_ne reply.answer.flags.byte hfits.length_le
    rw [List.append_nil, hcapacity, hstatus] at htake
    exact htake

theorem fits_of_replyFor? {device : Device} (hsound : device.Sound) (hid : ¬device.id.isReserved)
    {packet : Packet} {status : ParseStatus} {reply : Reply}
    (hreply : device.replyFor? packet status = some reply) :
    reply.id = device.id ∧ reply.Fits := by
  have hlength := Device.length_of_replyFor? hsound hreply
  have hsame : reply.id = device.id := by
    unfold Device.replyFor? at hreply
    split at hreply
    · split at hreply
      · cases hreply
      · cases hreply
      · cases hreply
        rfl
      · obtain ⟨answer, -, rfl⟩ := Option.map_eq_some_iff.mp hreply
        rfl
    · cases hreply
  refine ⟨hsame, ?_, hlength⟩
  rw [hsame]
  exact Id.ne_unusable_of_not_isReserved hid

/-- A sound device with an id of its own keeps to the rule for answers, whatever packet it
handles. -/
theorem disciplined_handle {station : Station} (hsound : station.device.Sound)
    (hid : ¬station.device.id.isReserved) (hconnected : station.channel.peerPresent)
    (packet : Packet) (status : ParseStatus) :
    ∃ after, station.handle packet status = (.ok (.ok ()), after) ∧
      station.Disciplined packet status after := by
  have hrun := handle_run hsound packet status
  have hsent : ∀ bytes, (station.channel.send bytes).1 = .ok () := by
    intro bytes
    rw [Channel.send_of_peerPresent hconnected]
  dsimp only at hrun
  rw [hsent] at hrun
  -- what the device replies, it replies in one frame
  have hsends : ∀ reply, station.device.replyFor? packet status = some reply →
      station.Sends
        { device := station.device.handled packet status
          channel := (station.channel.send ((station.device.replyFor? packet status).elim []
            Reply.wire)).2 }
        station.device.id reply.answer.flags reply.answer.data.length := by
    intro reply hreply
    obtain ⟨hsame, hfits⟩ := fits_of_replyFor? hsound hid hreply
    rw [hreply, ← hsame]
    exact sends_of_fits hconnected _ hfits
  refine ⟨_, hrun, ?_, ?_, ?_, ?_, ?_⟩
  · intro hsilent
    have hnone : station.device.replyFor? packet status = none := by
      rw [← Option.not_isSome_iff_eq_none, Device.isSome_replyFor?_iff]
      exact hsilent
    simp [hnone]
  · rintro expected received rfl hown
    have hreply : station.device.replyFor? packet (.checksumMismatch expected received) =
        some ⟨station.device.id, ⟨.checksumError, []⟩⟩ := if_pos hown
    exact hsends _ hreply
  · rintro rfl hcommand hown
    obtain ⟨answer, hanswer, hflags, hcount⟩ :=
      station.device.answerFor?_eq hcommand packet.parameters
    have hreply : station.device.replyFor? packet .complete =
        some ⟨station.device.id, answer⟩ := by
      rw [Device.replyFor?, if_pos hown, hanswer]
      rfl
    rw [← hflags, ← hcount]
    exact hsends _ hreply
  · exact Device.handled_of_not_executes hsound
  · rintro rfl hbroadcast
    exact Device.handled_of_isBroadcast hsound hbroadcast

/-- A sound device with an id of its own, at a line that takes what it sends, keeps to the rule for
answers: whatever packet it is handed, and in every step, where the packet is the first frame among
the bytes that wait. A step without a whole frame leaves the device as it is and sends nothing. -/
theorem disciplined_of_sound {station : Station} (hsound : station.device.Sound)
    (hid : ¬station.device.id.isReserved) (hconnected : station.channel.peerPresent) :
    (∀ packet status, ∃ after, station.handle packet status = (.ok (.ok ()), after) ∧
      station.Disciplined packet status after) ∧
    let taken := Packet.roomy.takeFrame station.channel.inbox
    if taken.status = .incomplete then
      station.step = (.ok (.error .timeout), station.behindFrame)
    else
      ∃ after, station.step = (.ok (.ok taken.status), after) ∧
        station.behindFrame.Disciplined taken.packet taken.status after := by
  refine ⟨disciplined_handle hsound hid hconnected, ?_⟩
  intro taken
  have hstep := station.step_eq
  dsimp only at hstep
  change station.step = if taken.status = .incomplete then _ else _ at hstep
  split
  · next hincomplete =>
      rw [if_pos hincomplete, if_pos hconnected] at hstep
      exact hstep
  · next hdone =>
      rw [if_neg hdone] at hstep
      have hbehind : station.behindFrame.device.Sound := hsound
      obtain ⟨after, hhandle, hdisciplined⟩ :=
        disciplined_handle hbehind hid hconnected taken.packet taken.status
      refine ⟨after, ?_, hdisciplined⟩
      rw [hstep, hhandle]
      rfl

/-- A servo that takes another id answers under the one that it had. -/
theorem disciplined_of_sound_renamed :
    let station := Station.smallest 6
    let packet := Packet.roomy.fill ⟨6⟩ Instruction.write.code [Offset.id, 9]
    station.device.Sound ∧ ¬station.device.id.isReserved ∧ station.channel.peerPresent = true ∧
      ∃ after, station.handle packet .complete = (.ok (.ok ()), after) ∧
        after.device.id = ⟨9⟩ ∧ station.Sends after ⟨6⟩ .noError 0 := by
  intro station packet
  have hsound : station.device.Sound := sound_smallest 6
  have hid : ¬station.device.id.isReserved := by decide
  have hconnected : station.channel.peerPresent = true := rfl
  obtain ⟨after, hhandle, hdisciplined⟩ :=
    (disciplined_of_sound hsound hid hconnected).1 packet .complete
  have hrenamed : (station.handle packet .complete).2.device.id = ⟨9⟩ := by decide +kernel
  rw [hhandle] at hrenamed
  have hflags : Instruction.flagsOn station.device.table.length
      (Instruction.ofByte? packet.command) packet.parameters = .noError := by decide +kernel
  have hcount : Instruction.countOn station.device.table.length
      (Instruction.ofByte? packet.command) packet.parameters = 0 := by decide +kernel
  have hanswer := hdisciplined.answer rfl (by decide +kernel) (by decide +kernel)
  rw [hflags, hcount] at hanswer
  exact ⟨hsound, hid, hconnected, after, hhandle, hrenamed, hanswer⟩

end Station

end ServoBus
