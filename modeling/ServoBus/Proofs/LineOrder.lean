import ServoBus.Proofs.Discovery

/-!
# The order of a line

All stations hear what a master sends, and their replies join one queue in the order of the line.
Where ids are distinct this order shows nowhere: each station does what it would do in any other
place, and one at most replies to a frame (`Station.repliesTo_of_perm`).

An action is `Master.Unordered` if it comes to the same value and leaves the same channel on every
order of the line, and does the same to each station. To send a request is such an action and to
wait for a reply is one, and so is whatever is made of them (`Master.unordered_bind`).

Main statement: `Master.Operation.run_of_perm`.
-/

namespace ServoBus

namespace Station

/-- The replies to a request are the same on every order of the line, since there is one at most. -/
theorem repliesTo_of_perm {stations line : List Station} (hline : line.Perm stations)
    (hids : DistinctIds stations) (id : Id) (command : UInt8) (parameters : Bytes) :
    repliesTo line id command parameters = repliesTo stations id command parameters := by
  have hperm : (repliesTo line id command parameters).Perm
      (repliesTo stations id command parameters) := hline.filterMap _
  have hfew := tail_repliesTo hids id command parameters
  cases hreplies : repliesTo stations id command parameters with
  | nil => exact List.perm_nil.mp (hreplies ▸ hperm)
  | cons reply rest =>
      rw [hreplies, List.tail_cons] at hfew
      rw [hreplies, hfew] at hperm
      rw [hfew]
      exact List.perm_singleton.mp hperm

end Station

namespace Master

variable {α β : Type} {master : Master (List Station)}

/-! ## Actions on a line in any order -/

/-- On every order of the line, the action comes to the same value and leaves the same channel, and
each station fares alike. -/
def Unordered (action : MasterM (List Station) α) (master : Master (List Station)) : Prop :=
  ∃ value channel fate, ∀ line : List Station, line.Perm master.audience →
    action { master with audience := line } =
      .ok value { master with audience := line.map fate, channel }

theorem unordered_pure (value : α) (master : Master (List Station)) :
    Unordered (pure value) master :=
  ⟨value, master.channel, id, fun line _ => by rw [List.map_id]; rfl⟩

theorem unordered_bind {first : MasterM (List Station) α} {next : α → MasterM (List Station) β}
    (hfirst : Unordered first master)
    (hnext : ∀ value after, first master = .ok value after → Unordered (next value) after) :
    Unordered (first >>= next) master := by
  obtain ⟨value, channel, fate, hrun⟩ := hfirst
  obtain ⟨last, left, further, hlast⟩ := hnext value _ (hrun master.audience (.refl _))
  refine ⟨last, left, further ∘ fate, fun line hline => ?_⟩
  have hrest := hlast (line.map fate) (hline.map fate)
  rw [List.map_map] at hrest
  rw [bind_of_ok (hrun line hline)]
  exact hrest

theorem unordered_map {action : MasterM (List Station) α} (haction : Unordered action master)
    (finish : α → β) : Unordered (do return finish (← action)) master :=
  unordered_bind haction fun value after _ => unordered_pure (finish value) after

/-! ## Sending and waiting -/

theorem unordered_send (hquiet : ∀ station ∈ master.audience, station.Quiet)
    (hids : Station.DistinctIds master.audience) {id : Id} (hid : id ≠ Id.unusable)
    (command : UInt8) (parameters : Bytes) : Unordered (send id command parameters) master := by
  unfold send
  split
  · exact unordered_pure _ master
  · next hfew =>
      rcases hsent : master.channel.send (requestWire id command parameters) with
        ⟨cause | _, channel⟩
      · refine ⟨.error cause, channel, fun station => station, fun line _ => ?_⟩
        rw [List.map_id', transmit, hsent]
      · let replies := Station.repliesTo master.audience id command parameters
        refine ⟨.ok (), channel.arrive (replies.flatMap Reply.wire),
          fun station => station.told id command parameters, fun line hline => ?_⟩
        have hheard := Station.hearInOrder_requestWire
          (fun station hstation => hquiet station (hline.mem_iff.mp hstation)) hid command
          (Nat.le_of_not_lt hfew)
        rw [Station.repliesTo_of_perm hline hids] at hheard
        rw [transmit, hsent]
        dsimp only [Audience.hear]
        rw [hheard]

theorem unordered_receive (packet : Packet) (master : Master (List Station)) :
    Unordered (receive packet) master := by
  let taken := master.pace.takeFrame master.timeout packet 0 master.channel.inbox
  let left : Channel := { master.channel with inbox := taken.rest }
  by_cases hincomplete : taken.status = .incomplete
  · refine ⟨⟨.error .timeout, taken.packet.reset⟩, left, fun station => station,
      fun line _ => ?_⟩
    rw [List.map_id', receive]
    exact if_pos hincomplete
  · refine ⟨⟨taken.packet.outcome taken.status, taken.packet⟩, left, fun station => station,
      fun line _ => ?_⟩
    rw [List.map_id', receive]
    exact if_neg hincomplete

/-! ## Requests -/

section Requests

variable (hquiet : ∀ station ∈ master.audience, station.Quiet)
  (hids : Station.DistinctIds master.audience) {id : Id} (hid : id ≠ Id.unusable)
include hquiet hids hid

theorem unordered_transact (command : UInt8) (parameters : Bytes) {buffer : Bytes}
    (hbuffer : buffer.length ≤ maxParameters) :
    Unordered (transact id command parameters buffer) master := by
  refine unordered_bind (unordered_send hquiet hids hid command parameters) ?_
  intro outcome after _
  cases outcome with
  | error cause => exact unordered_pure _ after
  | ok _ =>
      dsimp only
      split
      · exact unordered_pure _ after
      · rw [Packet.ofStorage_of_le hbuffer]
        exact unordered_map (unordered_receive _ after) _

theorem unordered_request (instruction : Instruction) (parameters : Bytes) :
    Unordered (request id instruction parameters) master :=
  unordered_map
    (unordered_transact hquiet hids hid instruction.code parameters (Nat.zero_le _)) _

theorem unordered_read (offset : UInt8) (buffer : Bytes) :
    Unordered (read id offset buffer) master := by
  unfold read
  split
  · exact unordered_pure _ master
  · split
    · exact unordered_pure _ master
    · next hfew =>
        exact unordered_map
          (unordered_transact hquiet hids hid _ _ (Nat.le_of_not_lt hfew)) _

theorem unordered_writeWith (instruction : Instruction) (offset : UInt8) (data : Bytes) :
    Unordered (writeWith instruction id offset data) master := by
  unfold writeWith
  split
  · exact unordered_pure _ master
  · exact unordered_request hquiet hids hid instruction (offset :: data)

theorem unordered_call (call : Call) : Unordered (call.run id) master := by
  cases call with
  | ping => exact unordered_map (unordered_request hquiet hids hid .ping []) _
  | read offset buffer => exact unordered_read hquiet hids hid offset buffer
  | write offset data =>
      exact unordered_map (unordered_writeWith hquiet hids hid .write offset data) _
  | regWrite offset data =>
      exact unordered_map (unordered_writeWith hquiet hids hid .regWrite offset data) _
  | action => exact unordered_map (unordered_request hquiet hids hid .action []) _
  | reset => exact unordered_map (unordered_request hquiet hids hid .reset []) _

end Requests

theorem unordered_syncWrite (hquiet : ∀ station ∈ master.audience, station.Quiet)
    (hids : Station.DistinctIds master.audience) (offset count : UInt8)
    (entries : List (Id × Bytes)) : Unordered (syncWrite offset count entries) master := by
  unfold syncWrite
  split
  · exact unordered_pure _ master
  · exact unordered_send hquiet hids (by decide) _ _

/-! ## All that a master can do -/

/-- Whatever a master sends: a call to a device, a write to many, or a frame of the caller's own. -/
inductive Operation where
  | call (id : Id) (asked : Call)
  | syncWrite (offset count : UInt8) (entries : List (Id × Bytes))
  | send (id : Id) (command : UInt8) (parameters : Bytes)
  | transact (id : Id) (command : UInt8) (parameters buffer : Bytes)

namespace Operation

def target : Operation → Id
  | call id _ | send id _ _ | transact id _ _ _ => id
  | syncWrite .. => Id.broadcast

def run {A : Type} [Audience A] : Operation → MasterM A (Filled (Option Nat))
  | call id asked => do
      let filled ← asked.run id
      return ⟨filled.outcome.map fun _ => none, filled.buffer⟩
  | syncWrite offset count entries => do
      let outcome ← Master.syncWrite offset count entries
      return ⟨outcome.map fun _ => none, []⟩
  | send id command parameters => do
      let outcome ← Master.send id command parameters
      return ⟨outcome.map fun _ => none, []⟩
  | transact id command parameters buffer => do
      let filled ← Master.transact id command parameters buffer
      return ⟨filled.outcome.map some, filled.buffer⟩

/-- A buffer that no packet can have stops the master; only here it is not looked at before. -/
def Fits : Operation → Prop
  | .transact _ _ _ buffer => buffer.length ≤ 253
  | .call .. | .syncWrite .. | .send .. => True

theorem unordered_run (hquiet : ∀ station ∈ master.audience, station.Quiet)
    (hids : Station.DistinctIds master.audience) {operation : Operation}
    (htarget : operation.target ≠ Id.unusable) (hfits : operation.Fits) :
    Unordered operation.run master := by
  unfold run
  cases operation with
  | call id asked => exact unordered_map (unordered_call hquiet hids htarget asked) _
  | syncWrite offset count entries =>
      exact unordered_map (unordered_syncWrite hquiet hids offset count entries) _
  | send id command parameters =>
      exact unordered_map (unordered_send hquiet hids htarget command parameters) _
  | transact id command parameters buffer =>
      exact unordered_map (unordered_transact hquiet hids htarget command parameters hfits) _

/-- Whatever lies before the master, however long it waits and whatever it does, it does not matter
in which order the devices stand on the line. The outcome, the caller's buffer, the bytes that are
sent and those that are left are the same in every order, and each device comes to the same. -/
theorem run_of_perm (hquiet : ∀ station ∈ master.audience, station.Quiet)
    (hids : Station.DistinctIds master.audience) {operation : Operation}
    (htarget : operation.target ≠ Id.unusable) (hfits : operation.Fits) :
    ∃ (filled : Filled (Option Nat)) (channel : Channel) (fate : Station → Station),
      operation.run master =
        .ok filled { master with audience := master.audience.map fate, channel } ∧
      ∀ line : List Station, line.Perm master.audience →
        operation.run { master with audience := line } =
          .ok filled { master with audience := line.map fate, channel } := by
  obtain ⟨filled, channel, fate, hrun⟩ := unordered_run hquiet hids htarget hfits
  exact ⟨filled, channel, fate, hrun master.audience (.refl _), hrun⟩

/-- Behind noise, to ask the servo of id 5 for its id comes to the same in the middle of the line
and at its end. -/
theorem run_of_perm_noise :
    let master : Master (List Station) := {
      audience := [Station.smallest 1, Station.smallest 5, Station.smallest 7]
      channel := { inbox := [0xFF, 3] }
      timeout := 10 }
    let operation : Operation := .transact ⟨5⟩ 2 [3, 1] [0]
    let line := [Station.smallest 7, Station.smallest 1, Station.smallest 5]
    (∀ station ∈ master.audience, station.Quiet) ∧ Station.DistinctIds master.audience ∧
    operation.target ≠ Id.unusable ∧ operation.Fits ∧ line.Perm master.audience ∧
    ∃ (filled : Filled (Option Nat)) (channel : Channel) (fate : Station → Station),
      operation.run master =
        .ok filled { master with audience := master.audience.map fate, channel } ∧
      operation.run { master with audience := line } =
        .ok filled { master with audience := line.map fate, channel } := by
  intro master operation line
  have hquiet : ∀ station ∈ master.audience, station.Quiet := by
    simp [master, Station.quiet_smallest]
  have hids : Station.DistinctIds master.audience := ⟨by decide, by decide⟩
  have htarget : operation.target ≠ Id.unusable := by decide
  have hfits : operation.Fits := Nat.le_add_left 1 252
  have hline : ([Station.smallest 7] ++ [Station.smallest 1, Station.smallest 5]).Perm
      ([Station.smallest 1, Station.smallest 5] ++ [Station.smallest 7]) := List.perm_append_comm
  obtain ⟨filled, channel, fate, hrun, horders⟩ := run_of_perm hquiet hids htarget hfits
  exact ⟨hquiet, hids, htarget, hfits, hline, filled, channel, fate, hrun, horders line hline⟩

/-- A ping that waits at servo 1 is answered when a ping to servo 2 is heard. The answer lies before
or behind the one that is waited for, as the servos stand on the line. -/
theorem run_differs_of_waiting :
    let waiting : Station := { Station.smallest 1 with channel := { inbox := pingBytes ⟨1⟩ } }
    let facing (line : List Station) : Master (List Station) := { audience := line, timeout := 10 }
    let operation : Operation := .call ⟨2⟩ .ping
    let line := [waiting] ++ [Station.smallest 2]
    let turned := [Station.smallest 2] ++ [waiting]
    turned.Perm line ∧ Station.DistinctIds line ∧ operation.target ≠ Id.unusable ∧
    operation.Fits ∧
    (∃ after, operation.run (facing line) =
      .ok ⟨.error (.protocol (.foreignReply ⟨1⟩ ⟨2⟩)), []⟩ after) ∧
    ∃ after, operation.run (facing turned) = .ok ⟨.ok none, []⟩ after := by
  intro waiting facing operation line turned
  let first := Frame.sound ⟨1⟩ (by decide) 0 [] (by decide)
  let second := Frame.sound ⟨2⟩ (by decide) 0 [] (by decide)
  let sent (line : List Station) :=
    (facing line).heard (requestWire ⟨2⟩ Instruction.ping.code [])
  have hping : requestWire ⟨2⟩ Instruction.ping.code [] = pingBytes ⟨2⟩ :=
    requestWire_ping (by decide)
  have hid : ¬(⟨2⟩ : Id).isReserved := by decide
  have hfits : Call.ping.Fits := trivial
  have hwaiting : (waiting.hear (pingBytes ⟨2⟩)).channel.outbox = first.bytes := by
    decide +kernel
  have hquiet : ((Station.smallest 2).hear (pingBytes ⟨2⟩)).channel.outbox = second.bytes := by
    decide +kernel
  have hline : (sent line).channel.inbox = first.bytes ++ second.bytes := by
    simp [sent, heard, facing, line, Audience.hear, Station.hearInOrder, hping, hwaiting, hquiet]
  have hturned : (sent turned).channel.inbox = second.bytes ++ first.bytes := by
    simp [sent, heard, facing, turned, Audience.hear, Station.hearInOrder, hping, hwaiting,
      hquiet]
  have hfound (line : List Station) (frame : Frame) (rest : Bytes)
      (h : (sent line).channel.inbox = frame.bytes ++ rest) :
      Frame.next? (sent line).channel.inbox = some (frame, rest) ∧
        (sent line).InTime (awaited (sent line).channel.inbox) := by
    rw [h]
    exact ⟨Frame.next?_bytes 0 frame rest,
      inTime_of_le (show 10 ≠ 0 by decide) (awaited_bytes_le frame rest)⟩
  let left (line : List Station) (inbox : Bytes) : Master (List Station) :=
    { sent line with channel := { (sent line).channel with inbox } }
  have hforeign : first.judged ⟨2⟩ 0 = .error (.protocol (.foreignReply ⟨1⟩ ⟨2⟩)) := by cbv
  have hown : second.judged ⟨2⟩ 0 = .ok 0 := by cbv
  have hrefused : Call.ping.run ⟨2⟩ (facing line) = .ok _ (left line second.bytes) :=
    Call.run_of_next?_eq_some hfits hid rfl (hfound _ _ _ hline).1 (hfound _ _ _ hline).2
  have hserved : Call.ping.run ⟨2⟩ (facing turned) = .ok _ (left turned first.bytes) :=
    Call.run_of_next?_eq_some hfits hid rfl (hfound _ _ _ hturned).1 (hfound _ _ _ hturned).2
  simp only [Call.buffer, List.length_nil, hforeign] at hrefused
  simp only [Call.buffer, List.length_nil, hown] at hserved
  exact ⟨List.perm_append_comm, ⟨by decide, by decide⟩, by decide, trivial,
    ⟨_, bind_of_ok hrefused⟩, ⟨_, bind_of_ok hserved⟩⟩

end Operation

end Master

end ServoBus
