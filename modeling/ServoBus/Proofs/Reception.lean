import ServoBus.Master
import ServoBus.Proofs.RoundTrip
import ServoBus.Proofs.TableAccess

/-!
# What a request comes to on any line

Once a request is sent, anything at all may lie before the master: noise, pieces of frames, frames
of others, old replies. The master waits for the first frame that the grammar finds there and no
further. What it makes of the frame is `Frame.judged`: the checksum counts before the size, the size
before the sender, and the sender before the flags.

Main statement: `Master.transact_takes_first_frame`.
-/

namespace ServoBus

/-! ## Frames as replies -/

/-- What the master makes of a frame, as the reply to a request to `id`, with room for so many
parameters. -/
def Frame.judged (frame : Frame) (id : Id) (room : Nat) : Except Error Nat :=
  if frame.expected ≠ frame.received then
    .error (.checksumMismatch frame.expected frame.received)
  else if room < frame.parameters.length then
    .error (.tooMuchData frame.parameters.length room)
  else if frame.id ≠ id then .error (.protocol (.foreignReply frame.id id))
  else if frame.command ≠ 0 then .error (.device id ⟨frame.command⟩)
  else .ok frame.parameters.length

theorem Frame.judge_loaded (frame : Frame) (packet : Packet) (id : Id) :
    (((packet.loaded frame).outcome (frame.status packet.capacity)).bind
        fun _ => Master.judge id (packet.loaded frame)) =
      frame.judged id packet.capacity := by
  have hcount := Packet.parameterCount_loaded packet frame
  have hclear : (packet.loaded frame).flags.isClear ↔ frame.command = 0 :=
    StatusFlags.isClear_iff _
  unfold judged status
  split
  · rfl
  · split
    · rw [Packet.outcome, hcount, Packet.capacity_loaded]
      rfl
    · change Master.judge id (packet.loaded frame) = _
      unfold Master.judge
      rw [hcount]
      by_cases hzero : frame.command = 0
      · rw [if_pos (hclear.mpr hzero), if_neg (not_not_intro hzero)]
        rfl
      · rw [if_neg (mt hclear.mp hzero), if_pos hzero]
        rfl

/-! ## Reading against the clock -/

namespace Pace

variable {pace : Pace} {timeout read : Nat} {packet : Packet} {bytes : Bytes}

theorem takeFrame_of_unread (h : timeout = 0 ∨ bytes = []) :
    pace.takeFrame timeout packet read bytes = ⟨packet, .incomplete, bytes⟩ := by
  cases bytes with
  | nil => rfl
  | cons byte rest =>
      have hzero : timeout = 0 := h.resolve_right (List.cons_ne_nil byte rest)
      rw [takeFrame, hzero, if_pos (Nat.zero_le _)]

theorem takeFrame_of_lt
    (h : ∀ earlier < bytes.length - (packet.takeFrame bytes).rest.length,
      pace.elapsed (read + earlier) < timeout) :
    pace.takeFrame timeout packet read bytes = packet.takeFrame bytes := by
  induction bytes generalizing packet read with
  | nil => rfl
  | cons byte rest ih =>
      have hshorter := packet.takeFrame_rest_length_lt (List.cons_ne_nil byte rest)
      have hnow : ¬timeout ≤ pace.elapsed read := Nat.not_le_of_lt (h 0 (by omega))
      unfold takeFrame
      rw [if_neg hnow]
      by_cases hincomplete : (packet.accept byte).2 = .incomplete
      · rw [Packet.takeFrame_cons_of_incomplete rest hincomplete] at h hshorter ⊢
        simp only [if_pos hincomplete]
        apply ih
        intro earlier hearlier
        have hlater := h (earlier + 1) (by simp only [List.length_cons]; omega)
        rwa [Nat.add_right_comm, Nat.add_assoc]
      · rw [Packet.takeFrame_cons_of_done rest hincomplete]
        simp only [if_neg hincomplete]

end Pace

namespace Master

variable {A : Type}

/-- The time is not up before so many bytes are read. -/
def InTime (master : Master A) (count : Nat) : Prop :=
  ∀ read < count, master.pace.elapsed read < master.timeout

theorem inTime_of_le {master : Master A} (htimeout : master.timeout ≠ 0) {count : Nat}
    (hcount : count ≤ maxParameters + 6) : master.InTime count := by
  intro read hread
  rw [master.pace.elapsed_of_lt read (Nat.lt_of_lt_of_le hread hcount)]
  exact Nat.pos_of_ne_zero htimeout

/-- The bytes that a wait reads if it is not cut short: up to the end of the first frame, or all if
there is none. -/
def awaited (inbox : Bytes) : Nat :=
  match Frame.next? inbox with
  | none => inbox.length
  | some (_, rest) => inbox.length - rest.length

/-- Of a queue that begins with a frame, nothing but the frame is read. -/
theorem awaited_bytes_le (frame : Frame) (rest : Bytes) :
    awaited (frame.bytes ++ rest) ≤ maxParameters + 6 := by
  have hnext := Frame.next?_bytes 0 frame rest
  have hfew := frame.length_parameters_le
  rw [List.replicate_zero, List.nil_append] at hnext
  rw [awaited, hnext, List.length_append, Frame.length_bytes]
  dsimp only
  omega

theorem awaited_eq {packet : Packet} (hidle : packet.state = .idle) (inbox : Bytes) :
    awaited inbox = inbox.length - (packet.takeFrame inbox).rest.length := by
  unfold awaited
  cases hnext : Frame.next? inbox with
  | none =>
      have hstatus := Packet.takeFrame_of_next?_eq_none hidle hnext
      rw [packet.takeFrame_rest_of_incomplete inbox hstatus]
      rfl
  | some found => rw [Packet.takeFrame_of_next?_eq_some hidle hnext]

theorem takeFrame_of_inTime {master : Master A} {packet : Packet} (hidle : packet.state = .idle)
    (hintime : master.InTime (awaited master.channel.inbox)) :
    master.pace.takeFrame master.timeout packet 0 master.channel.inbox =
      packet.takeFrame master.channel.inbox := by
  apply Pace.takeFrame_of_lt
  intro read hread
  rw [Nat.zero_add]
  exact hintime read (awaited_eq hidle master.channel.inbox ▸ hread)

variable [Audience A]

/-! ## Receiving -/

def expired (master : Master A) (left : Bytes) : Master A :=
  { master with
    channel := { master.channel with inbox := left }
    audience := Audience.wait master.audience master.timeout }

theorem receive_of_unread {master : Master A} (h : master.timeout = 0 ∨ master.channel.inbox = [])
    (packet : Packet) :
    receive packet master =
      .ok ⟨.error .timeout, packet.reset⟩ (master.expired master.channel.inbox) := by
  unfold receive
  dsimp only
  rw [Pace.takeFrame_of_unread h, if_pos rfl]
  rfl

section Receive

variable {master : Master A} {packet : Packet} (hidle : packet.state = .idle)
include hidle

theorem receive_of_next?_eq_none (h : Frame.next? master.channel.inbox = none)
    (hintime : master.InTime (awaited master.channel.inbox)) :
    ∃ left, receive packet master = .ok ⟨.error .timeout, left⟩ (master.expired []) := by
  have hstatus := Packet.takeFrame_of_next?_eq_none hidle h
  have hrest := packet.takeFrame_rest_of_incomplete master.channel.inbox hstatus
  refine ⟨(packet.takeFrame master.channel.inbox).packet.reset, ?_⟩
  unfold receive
  dsimp only
  rw [takeFrame_of_inTime hidle hintime, if_pos hstatus, hrest]
  rfl

theorem receive_of_next?_eq_some {frame : Frame} {rest : Bytes}
    (h : Frame.next? master.channel.inbox = some (frame, rest))
    (hintime : master.InTime (awaited master.channel.inbox)) :
    receive packet master =
      .ok ⟨(packet.loaded frame).outcome (frame.status packet.capacity), packet.loaded frame⟩
        { master with channel := { master.channel with inbox := rest } } := by
  unfold receive
  dsimp only
  rw [takeFrame_of_inTime hidle hintime, Packet.takeFrame_of_next?_eq_some hidle h,
    if_neg (frame.status_ne_incomplete _)]

end Receive

/-! ## Requests -/

def heard (master : Master A) (bytes : Bytes) : Master A :=
  let heard := Audience.hear master.audience bytes
  { master with
    audience := heard.audience
    channel := { master.channel with
      inbox := master.channel.inbox ++ heard.replies
      outbox := master.channel.outbox ++ bytes } }

theorem send_of_peerPresent {master : Master A} (hpeer : master.channel.peerPresent) (id : Id)
    (command : UInt8) {parameters : Bytes} (hparameters : parameters.length ≤ maxParameters) :
    send id command parameters master =
      .ok (.ok ()) (master.heard (requestWire id command parameters)) := by
  rw [send, if_neg (Nat.not_lt_of_le hparameters), transmit, Channel.send_of_peerPresent hpeer]
  simp only [Channel.arrive, if_pos hpeer]
  rfl

theorem transact_of_send {id : Id} (hid : ¬id.isBroadcast) {command : UInt8}
    {parameters buffer : Bytes} (hbuffer : buffer.length ≤ maxParameters) {master sent : Master A}
    (hsent : send id command parameters master = .ok (.ok ()) sent) {received : Received}
    {after : Master A}
    (hreceived : receive { storage := buffer, storage_le := hbuffer } sent = .ok received after) :
    transact id command parameters buffer master =
      .ok ⟨received.outcome.bind fun _ => judge id received.packet, received.packet.storage⟩
        after := by
  rw [transact, bind_of_ok hsent]
  dsimp only
  rw [if_neg hid, Packet.ofStorage_of_le hbuffer]
  dsimp only
  rw [bind_of_ok hreceived]
  rfl

section Sent

variable {id : Id} (hid : ¬id.isBroadcast) {command : UInt8} {parameters buffer : Bytes}
  (hbuffer : buffer.length ≤ maxParameters) {master sent : Master A}
  (hsent : send id command parameters master = .ok (.ok ()) sent)
include hid hbuffer hsent

theorem transact_of_next?_eq_none (h : Frame.next? sent.channel.inbox = none)
    (hintime : sent.InTime (awaited sent.channel.inbox)) :
    ∃ contents, transact id command parameters buffer master =
      .ok ⟨.error .timeout, contents⟩ (sent.expired []) := by
  let packet : Packet := { storage := buffer, storage_le := hbuffer }
  obtain ⟨left, hreceived⟩ := receive_of_next?_eq_none (rfl : packet.state = .idle) h hintime
  exact ⟨left.storage, transact_of_send hid hbuffer hsent hreceived⟩

theorem transact_of_next?_eq_some {frame : Frame} {rest : Bytes}
    (h : Frame.next? sent.channel.inbox = some (frame, rest))
    (hintime : sent.InTime (awaited sent.channel.inbox)) :
    transact id command parameters buffer master =
      .ok ⟨frame.judged id buffer.length, overwrite buffer 0 frame.parameters⟩
        { sent with channel := { sent.channel with inbox := rest } } := by
  let packet : Packet := { storage := buffer, storage_le := hbuffer }
  have hreceived := receive_of_next?_eq_some (rfl : packet.state = .idle) h hintime
  have hjudged : _ = frame.judged id buffer.length := frame.judge_loaded packet id
  rw [transact_of_send hid hbuffer hsent hreceived, hjudged]
  rfl

end Sent

end Master

end ServoBus
