import ServoBus.Proofs.Line
import ServoBus.Proofs.Reception

/-!
# A request and its reply

Replies reach the master whole and in order, so what lies before it is a queue of replies
(`Master.Holds`). A request makes the devices act and their replies join the queue; then the master
takes the oldest reply, unless it does not wait at all (`Master.transact_run`).
-/

namespace ServoBus

/-! ## Replies as frames -/

namespace Reply

structure Fits (reply : Reply) : Prop where
  id_ne : reply.id ≠ Id.unusable
  length_le : reply.answer.data.length ≤ maxParameters

/-- What the master makes of a reply, as the one to a request to `id`, with room for so many
parameters. -/
def judged (reply : Reply) (id : Id) (room : Nat) : Except Error Nat :=
  if room < reply.answer.data.length then .error (.tooMuchData reply.answer.data.length room)
  else if reply.id ≠ id then .error (.protocol (.foreignReply reply.id id))
  else if reply.answer.flags.isClear then .ok reply.answer.data.length
  else .error (.device id reply.answer.flags)

theorem judged_refusal (id : Id) {flags : StatusFlags} (hflags : ¬flags.isClear) (room : Nat) :
    judged ⟨id, ⟨flags, []⟩⟩ id room = .error (.device id flags) := by
  simp [judged, hflags]

theorem judged_data (id : Id) {data : Bytes} {room : Nat} (h : data.length = room) :
    judged ⟨id, ⟨.noError, data⟩⟩ id room = .ok room := by
  simp [judged, StatusFlags.isClear, h]

def frame (reply : Reply) (h : reply.Fits) : Frame :=
  Frame.sound reply.id h.id_ne reply.answer.flags.byte reply.answer.data h.length_le

theorem wire_eq_bytes {reply : Reply} (h : reply.Fits) : reply.wire = (reply.frame h).bytes :=
  Master.requestWire_eq_bytes h.id_ne reply.answer.flags.byte h.length_le

theorem judged_frame {reply : Reply} (h : reply.Fits) (id : Id) (room : Nat) :
    (reply.frame h).judged id room = reply.judged id room := by
  have hexpected : (reply.frame h).expected = (reply.frame h).received := rfl
  have hclear : reply.answer.flags.isClear ↔ (reply.frame h).command = 0 :=
    StatusFlags.isClear_iff _
  rw [Frame.judged, if_neg (not_not_intro hexpected), judged]
  by_cases hzero : (reply.frame h).command = 0
  · rw [if_neg (not_not_intro hzero), if_pos (hclear.mpr hzero)]
    rfl
  · rw [if_pos hzero, if_neg (mt hclear.mp hzero)]
    rfl

end Reply

theorem Station.fits_of_mem_repliesTo {stations : List Station} (hids : DistinctIds stations)
    {id : Id} {command : UInt8} {parameters : Bytes} {reply : Reply}
    (h : reply ∈ repliesTo stations id command parameters) : reply.Fits := by
  obtain ⟨station, hstation, hreply⟩ := List.mem_filterMap.mp h
  obtain ⟨-, hid, hrun⟩ := Device.execute_of_replyTo? hreply
  refine ⟨?_, Device.length_of_execute hrun⟩
  intro hunusable
  apply hids.unreserved station hstation
  rw [← hid, hunusable]
  rfl

namespace Master

/-! ## The queue of replies -/

/-- The line is quiet, and these replies lie before the master. -/
structure Holds (master : Master (List Station)) (queue : List Reply) : Prop where
  quiet : ∀ station ∈ master.audience, station.Quiet
  peerPresent : master.channel.peerPresent = true
  inbox : master.channel.inbox = queue.flatMap Reply.wire
  fits : ∀ reply ∈ queue, reply.Fits

theorem holds_nil {stations : List Station} (hquiet : ∀ station ∈ stations, station.Quiet)
    (timeout : Nat) : Holds { audience := stations, timeout } [] where
  quiet := hquiet
  peerPresent := rfl
  inbox := rfl
  fits := by simp

def facing (master : Master (List Station)) (queue : List Reply) : Master (List Station) :=
  { master with channel := { master.channel with inbox := queue.flatMap Reply.wire } }

def requested (master : Master (List Station)) (id : Id) (command : UInt8) (parameters : Bytes) :
    Master (List Station) :=
  { master with
    audience := master.audience.map fun station => station.told id command parameters
    channel := { master.channel with
      outbox := master.channel.outbox ++ requestWire id command parameters } }

/-- The reply that a master takes; one that does not wait takes none. -/
def taken? (timeout : Nat) (queue : List Reply) : Option Reply :=
  if timeout = 0 then none else queue.head?

def untaken (timeout : Nat) (queue : List Reply) : List Reply :=
  if timeout = 0 then queue else queue.tail

def settled (id : Id) (buffer : Bytes) : Option Reply → Filled Nat
  | none => ⟨.error .timeout, buffer⟩
  | some reply => ⟨reply.judged id buffer.length, overwrite buffer 0 reply.answer.data⟩

theorem settled_refusal (id : Id) (buffer : Bytes) {flags : StatusFlags}
    (hflags : ¬flags.isClear) :
    settled id buffer (some ⟨id, ⟨flags, []⟩⟩) = ⟨.error (.device id flags), buffer⟩ := by
  rw [settled, Reply.judged_refusal id hflags, overwrite_nil]

theorem settled_data (id : Id) {buffer data : Bytes} (h : data.length = buffer.length) :
    settled id buffer (some ⟨id, ⟨.noError, data⟩⟩) = ⟨.ok buffer.length, data⟩ := by
  rw [settled, Reply.judged_data id h, overwrite_of_length_eq h]

theorem facing_self {master : Master (List Station)} {queue : List Reply}
    (h : master.Holds queue) : master.facing queue = master := by
  rw [facing, ← h.inbox]

theorem send_run {master : Master (List Station)} {queue : List Reply} (hholds : master.Holds queue)
    {id : Id} (hid : id ≠ Id.unusable) (command : UInt8) {parameters : Bytes}
    (hparameters : parameters.length ≤ maxParameters) :
    send id command parameters master =
      .ok (.ok ()) ((master.requested id command parameters).facing
        (queue ++ Station.repliesTo master.audience id command parameters)) := by
  have hheard := Station.hearInOrder_requestWire hholds.quiet hid command hparameters
  rw [send_of_peerPresent hholds.peerPresent id command hparameters]
  simp [heard, Audience.hear, hheard, hholds.inbox, facing, requested]

/-- A master that waits takes the oldest reply, and one that does not takes none. -/
theorem receive_run {master : Master (List Station)} {queue : List Reply}
    (hholds : master.Holds queue) {packet : Packet} (hidle : packet.state = .idle) (id : Id) :
    ∃ received, receive packet master =
        .ok received (master.facing (untaken master.timeout queue)) ∧
      (⟨received.outcome.bind fun _ => judge id received.packet, received.packet.storage⟩ :
        Filled Nat) = settled id packet.storage (taken? master.timeout queue) := by
  have hsame := facing_self hholds
  unfold taken? untaken
  by_cases hzero : master.timeout = 0
  · refine ⟨⟨.error .timeout, packet.reset⟩, ?_, ?_⟩
    · rw [receive_of_unread (Or.inl hzero), if_pos hzero, hsame]
      rfl
    · rw [if_pos hzero]
      rfl
  · rw [if_neg hzero, if_neg hzero]
    cases queue with
    | nil =>
        have hinbox : master.channel.inbox = [] := hholds.inbox
        refine ⟨⟨.error .timeout, packet.reset⟩, ?_, rfl⟩
        rw [receive_of_unread (Or.inr hinbox), List.tail_nil, hsame]
        rfl
    | cons reply rest =>
        have hfits := hholds.fits reply (List.mem_cons_self ..)
        have hinbox : master.channel.inbox =
            (reply.frame hfits).bytes ++ rest.flatMap Reply.wire := by
          rw [hholds.inbox, List.flatMap_cons, Reply.wire_eq_bytes hfits]
        have hnext : Frame.next? master.channel.inbox =
            some (reply.frame hfits, rest.flatMap Reply.wire) := by
          rw [hinbox]
          exact Frame.next?_bytes 0 (reply.frame hfits) (rest.flatMap Reply.wire)
        have hintime : master.InTime (awaited master.channel.inbox) := by
          rw [hinbox]
          exact inTime_of_le hzero (awaited_bytes_le ..)
        refine ⟨_, receive_of_next?_eq_some hidle hnext hintime, ?_⟩
        rw [Frame.judge_loaded, Reply.judged_frame]
        rfl

theorem holds_requested {master : Master (List Station)} {queue : List Reply}
    (hholds : master.Holds queue) (hids : Station.DistinctIds master.audience) (id : Id)
    (command : UInt8) (parameters : Bytes) :
    ((master.requested id command parameters).facing
      (queue ++ Station.repliesTo master.audience id command parameters)).Holds
        (queue ++ Station.repliesTo master.audience id command parameters) where
  quiet := by
    intro station hstation
    obtain ⟨before, hbefore, rfl⟩ := List.mem_map.mp hstation
    exact Station.quiet_told (hholds.quiet before hbefore) id command parameters
  peerPresent := hholds.peerPresent
  inbox := rfl
  fits := by
    intro reply hreply
    rcases List.mem_append.mp hreply with hold | hnew
    · exact hholds.fits reply hold
    · exact Station.fits_of_mem_repliesTo hids hnew

/-- A request lets the devices act, adds their replies to those that wait, and takes the oldest. -/
theorem transact_run {master : Master (List Station)} {queue : List Reply}
    (hholds : master.Holds queue) (hids : Station.DistinctIds master.audience) {id : Id}
    (hid : ¬id.isReserved) (command : UInt8) {parameters buffer : Bytes}
    (hparameters : parameters.length ≤ maxParameters) (hbuffer : buffer.length ≤ maxParameters) :
    let replies := queue ++ Station.repliesTo master.audience id command parameters
    transact id command parameters buffer master =
      .ok (settled id buffer (taken? master.timeout replies))
        ((master.requested id command parameters).facing (untaken master.timeout replies)) := by
  intro replies
  have hsend := send_run hholds (Id.ne_unusable_of_not_isReserved hid) command hparameters
  have hheard := holds_requested hholds hids id command parameters
  let packet : Packet := { storage := buffer, storage_le := hbuffer }
  obtain ⟨received, hreceive, hfilled⟩ := receive_run hheard (rfl : packet.state = .idle) id
  rw [transact_of_send (Id.not_isBroadcast_of_not_isReserved hid) hbuffer hsend hreceive]
  exact congrArg (fun filled => EStateM.Result.ok filled _) hfilled

end Master

end ServoBus
