import ServoBus.Proofs.Exchange

/-!
# Calls of a master to single devices

A master calls one device at a time (`Call`), and a run of calls may change how long it waits
(`Master.ReachedByCalls`). As long as it waits at all, no reply is left over from one call to the
next (`Master.Ready`), and each call comes to what the device that it is meant for made of it.
-/

namespace ServoBus

/-- What a master can ask of a single device, with its own data. -/
inductive Call where
  | ping
  | read (offset : UInt8) (buffer : Bytes)
  | write (offset : UInt8) (data : Bytes)
  | regWrite (offset : UInt8) (data : Bytes)
  | action
  | reset
  deriving DecidableEq

namespace Call

def run {A : Type} [Audience A] (call : Call) (id : Id) : MasterM A (Filled Unit) :=
  match call with
  | ping => do return ⟨← Master.ping id, []⟩
  | read offset buffer => Master.read id offset buffer
  | write offset data => do return ⟨← Master.write id offset data, []⟩
  | regWrite offset data => do return ⟨← Master.regWrite id offset data, []⟩
  | action => do return ⟨← Master.action id, []⟩
  | reset => do return ⟨← Master.reset id, []⟩

def buffer : Call → Bytes
  | read _ buffer => buffer
  | ping | write .. | regWrite .. | action | reset => []

def request : Call → Request
  | ping => .ping
  | read offset buffer => .read offset (UInt8.ofNat buffer.length)
  | write offset data => .write offset data
  | regWrite offset data => .regWrite offset data
  | action => .action
  | reset => .reset

def Fits : Call → Prop
  | read _ buffer => buffer.length ≤ maxParameters
  | write _ data | regWrite _ data => data.length + 1 ≤ maxParameters
  | ping | action | reset => True

instance (call : Call) : Decidable call.Fits :=
  match call with
  | read _ buffer => inferInstanceAs (Decidable (buffer.length ≤ maxParameters))
  | write _ data | regWrite _ data => inferInstanceAs (Decidable (data.length + 1 ≤ maxParameters))
  | ping | action | reset => isTrue trivial

def lacksData : Call → Bool
  | write _ data | regWrite _ data => data.isEmpty
  | ping | read .. | action | reset => false

def overreaches (length : Nat) : Call → Bool
  | read offset buffer => length < offset.toNat + buffer.length
  | write offset data | regWrite offset data =>
      !data.isEmpty && length < offset.toNat + data.length
  | ping | action | reset => false

def accepted (call : Call) (id : Id) (filled : Filled Nat) : Filled Unit :=
  match call with
  | read _ buffer => {
      outcome := filled.outcome.bind fun received =>
        if received = buffer.length then .ok ()
        else .error (.protocol (.wrongCount buffer.length id received))
      buffer := filled.buffer }
  | ping | write .. | regWrite .. | action | reset => ⟨filled.outcome.map fun _ => (), []⟩

variable {call : Call}

theorem length_buffer_le (hfits : call.Fits) : call.buffer.length ≤ maxParameters := by
  cases call with
  | read offset buffer => exact hfits
  | ping | write | regWrite | action | reset => exact Nat.zero_le _

theorem length_parameters_le (hfits : call.Fits) :
    call.request.parameters.length ≤ maxParameters := by
  cases call with
  | write offset data | regWrite offset data => exact hfits
  | ping | read | action | reset => simp [request, Request.parameters, maxParameters]

theorem toNat_count {offset : UInt8} {buffer : Bytes} (hfits : (read offset buffer).Fits) :
    (UInt8.ofNat buffer.length).toNat = buffer.length := by
  have hlt : buffer.length < 256 := Nat.lt_of_le_of_lt hfits (by decide)
  exact UInt8.toNat_ofNat_of_lt' hlt

theorem refusal?_request (hfits : call.Fits) (length : Nat) :
    call.request.refusal? length =
      if call.lacksData then some .instructionError
      else if call.overreaches length then some .rangeError
      else none := by
  cases call with
  | ping | action | reset => rfl
  | read offset buffer =>
      have hroom : buffer.length ≤ maxParameters := hfits
      rw [request, Request.refusal?, toNat_count hfits]
      by_cases hover : length < offset.toNat + buffer.length
      · have hfit : ¬(offset.toNat + buffer.length ≤ length ∧ buffer.length ≤ maxParameters) := by
          omega
        rw [if_neg hfit]
        simp [lacksData, overreaches, hover]
      · have hfit : offset.toNat + buffer.length ≤ length ∧ buffer.length ≤ maxParameters := by
          omega
        rw [if_pos hfit]
        simp [lacksData, overreaches, hover]
  | write offset data | regWrite offset data =>
      rw [request, Request.refusal?]
      by_cases hempty : data = []
      · simp [lacksData, hempty]
      · by_cases hover : length < offset.toNat + data.length
        · have hfit : ¬offset.toNat + data.length ≤ length := by omega
          rw [if_neg hempty, if_neg hfit]
          simp [lacksData, overreaches, hempty, hover]
        · have hfit : offset.toNat + data.length ≤ length := by omega
          rw [if_neg hempty, if_pos hfit]
          simp [lacksData, overreaches, hempty, hover]

/-! ## The call and its request -/

theorem writeWith_of_lt {A : Type} [Audience A] (instruction : Instruction) (id : Id)
    (offset : UInt8) {data : Bytes} (hlong : maxParameters < data.length + 1)
    (master : Master A) :
    (do return ⟨← Master.writeWith instruction id offset data, []⟩ : MasterM A (Filled Unit))
        master = .ok ⟨.error (.protocol (.longWrite data.length)), []⟩ master := by
  rw [Master.writeWith, if_pos hlong]
  rfl

theorem run_of_not_fits {A : Type} [Audience A] (hfits : ¬call.Fits) {id : Id}
    (hid : ¬id.isReserved) (master : Master A) :
    ∃ cause, call.run id master = .ok ⟨.error (.protocol cause), call.buffer⟩ master := by
  cases call with
  | ping | action | reset => exact absurd trivial hfits
  | read offset buffer =>
      have hbroadcast := Id.not_isBroadcast_of_not_isReserved hid
      have hlong : maxParameters < buffer.length := Nat.lt_of_not_le hfits
      refine ⟨.longRead buffer.length, ?_⟩
      rw [run, Master.read, if_neg hbroadcast, if_pos hlong]
      rfl
  | write offset data =>
      exact ⟨_, writeWith_of_lt .write id offset (Nat.lt_of_not_le hfits) master⟩
  | regWrite offset data =>
      exact ⟨_, writeWith_of_lt .regWrite id offset (Nat.lt_of_not_le hfits) master⟩

theorem request_run {A : Type} [Audience A] {id : Id} {instruction : Instruction}
    {parameters : Bytes} {master after : Master A} {filled : Filled Nat}
    (h : Master.transact id instruction.code parameters [] master = .ok filled after) :
    (do return ⟨← Master.request id instruction parameters, []⟩ : MasterM A (Filled Unit)) master =
      .ok ⟨filled.outcome.map fun _ => (), []⟩ after := by
  have hrequest : Master.request id instruction parameters master =
      .ok (filled.outcome.map fun _ => ()) after := by
    rw [Master.request, bind_of_ok h]
    rfl
  rw [bind_of_ok hrequest]
  rfl

theorem writeWith_run {A : Type} [Audience A] {id : Id} {instruction : Instruction}
    {offset : UInt8} {data : Bytes} (hshort : data.length + 1 ≤ maxParameters)
    {master after : Master A} {filled : Filled Nat}
    (h : Master.transact id instruction.code (offset :: data) [] master = .ok filled after) :
    (do return ⟨← Master.writeWith instruction id offset data, []⟩ : MasterM A (Filled Unit))
        master = .ok ⟨filled.outcome.map fun _ => (), []⟩ after := by
  rw [Master.writeWith, if_neg (Nat.not_lt_of_le hshort)]
  exact request_run h

theorem run_of_transact {A : Type} [Audience A] (hfits : call.Fits) {id : Id}
    (hid : ¬id.isReserved) {master after : Master A} {filled : Filled Nat}
    (h : Master.transact id call.request.instruction.code call.request.parameters call.buffer
      master = .ok filled after) : call.run id master = .ok (call.accepted id filled) after := by
  cases call with
  | ping | action | reset => exact request_run h
  | read offset buffer =>
      have hbroadcast := Id.not_isBroadcast_of_not_isReserved hid
      have hshort : ¬maxParameters < buffer.length := Nat.not_lt_of_le hfits
      rw [run, Master.read, if_neg hbroadcast, if_neg hshort]
      exact bind_of_ok h
  | write offset data | regWrite offset data => exact writeWith_run hfits h

/-- A call goes by the first frame that lies before the master once it is made, on any line. -/
theorem run_of_next?_eq_some {A : Type} [Audience A] (hfits : call.Fits) {id : Id}
    (hid : ¬id.isReserved) {master : Master A} (hpeer : master.channel.peerPresent)
    {frame : Frame} {rest : Bytes} :
    let sent := master.heard
      (Master.requestWire id call.request.instruction.code call.request.parameters)
    Frame.next? sent.channel.inbox = some (frame, rest) →
    sent.InTime (Master.awaited sent.channel.inbox) →
    call.run id master =
      .ok (call.accepted id ⟨frame.judged id call.buffer.length,
          overwrite call.buffer 0 frame.parameters⟩)
        { sent with channel := { sent.channel with inbox := rest } } := by
  intro sent hnext hintime
  have hsent := Master.send_of_peerPresent hpeer id call.request.instruction.code
    (length_parameters_le hfits)
  exact run_of_transact hfits hid (Master.transact_of_next?_eq_some
    (Id.not_isBroadcast_of_not_isReserved hid) (length_buffer_le hfits) hsent hnext hintime)

/-! ## What the caller gets -/

theorem accepted_none (call : Call) (id : Id) :
    call.accepted id (Master.settled id call.buffer none) = ⟨.error .timeout, call.buffer⟩ := by
  cases call with
  | ping | read | write | regWrite | action | reset => rfl

theorem accepted_refusal (call : Call) (id : Id) {flags : StatusFlags} (hflags : ¬flags.isClear) :
    call.accepted id (Master.settled id call.buffer (some ⟨id, ⟨flags, []⟩⟩)) =
      ⟨.error (.device id flags), call.buffer⟩ := by
  rw [Master.settled_refusal id call.buffer hflags]
  cases call with
  | ping | read | write | regWrite | action | reset => rfl

theorem accepted_data (call : Call) (id : Id) {data : Bytes}
    (h : data.length = call.buffer.length) :
    call.accepted id (Master.settled id call.buffer (some ⟨id, ⟨.noError, data⟩⟩)) =
      ⟨.ok (), data⟩ := by
  rw [Master.settled_data id h]
  cases call with
  | read offset buffer => simp [accepted, Call.buffer, Except.bind]
  | ping | write | regWrite | action | reset =>
      obtain rfl : data = [] := List.length_eq_zero_iff.mp h
      rfl

theorem length_asked (hfits : call.Fits) {device : Device}
    (h : call.request.refusal? device.table.length = none) :
    ((device.carriedOut call.request).asked call.request).length = call.buffer.length := by
  cases call with
  | read offset buffer =>
      have hlength := Device.length_asked_read h
      rw [toNat_count hfits] at hlength
      exact hlength
  | ping | write | regWrite | action | reset => rfl

theorem accepted_answerTo (hfits : call.Fits) (id : Id) (device : Device) :
    call.accepted id (Master.settled id call.buffer (some ⟨id, device.answerTo call.request⟩)) =
      if call.lacksData then ⟨.error (.device id .instructionError), call.buffer⟩
      else if call.overreaches device.table.length then
        ⟨.error (.device id .rangeError), call.buffer⟩
      else ⟨.ok (), (device.carriedOut call.request).asked call.request⟩ := by
  have hrefusal := refusal?_request hfits device.table.length
  rw [Device.answerTo]
  by_cases hlacks : call.lacksData
  · rw [if_pos hlacks] at hrefusal ⊢
    rw [hrefusal]
    exact accepted_refusal call id (by decide)
  · rw [if_neg hlacks] at hrefusal ⊢
    by_cases hover : call.overreaches device.table.length
    · rw [if_pos hover] at hrefusal ⊢
      rw [hrefusal]
      exact accepted_refusal call id (by decide)
    · rw [if_neg hover] at hrefusal ⊢
      rw [hrefusal]
      exact accepted_data call id (length_asked hfits hrefusal)

theorem after_request (hfits : call.Fits) (device : Device) :
    device.after call.request =
      if call.lacksData then device
      else if call.overreaches device.table.length then device
      else device.carriedOut call.request := by
  rw [Device.after, refusal?_request hfits]
  by_cases hlacks : call.lacksData
  · simp [hlacks]
  · by_cases hover : call.overreaches device.table.length
    · simp [hlacks, hover]
    · simp [hlacks, hover]

end Call

/-- A servo with as few registers as there can be, under an id. -/
def Station.smallest (id : UInt8) : Station where
  device := {
    table := {
      registers := {
        bytes := [12, 0, 1, id, 1, 250]
        persistentLength := 6
        length_le := by simp [maxRegisters]
        persistentLength_le := by simp }
      peripheral := .servo {}
      storage := .memory .empty
      returnDelay_lt := by simp [Registers.length, Offset.returnDelay] } }

theorem Station.quiet_smallest (id : UInt8) : (smallest id).Quiet := ⟨rfl, rfl, rfl⟩

theorem Station.sound_smallest (id : UInt8) : (smallest id).device.Sound :=
  Device.sound_of_staged?_eq_none trivial rfl

namespace Master

/-! ## Runs of calls -/

/-- The masters that a run of calls leads to. Ids are distinct before each call, and timeouts that
are allowed may be set in between. -/
inductive ReachedByCalls (allowed : Nat → Prop) (start : Master (List Station)) :
    Master (List Station) → Prop
  | start : ReachedByCalls allowed start start
  | call {master after : Master (List Station)} {id : Id} {call : Call} {filled : Filled Unit} :
      ReachedByCalls allowed start master → Station.DistinctIds master.audience → ¬id.isReserved →
      call.run id master = .ok filled after → ReachedByCalls allowed start after
  | setTimeout {master after : Master (List Station)} {milliseconds : Nat} :
      ReachedByCalls allowed start master → allowed milliseconds →
      Master.setTimeout milliseconds master = .ok () after → ReachedByCalls allowed start after

theorem call_run {master : Master (List Station)} {queue : List Reply}
    (hholds : master.Holds queue) (hids : Station.DistinctIds master.audience) {id : Id}
    (hid : ¬id.isReserved) {call : Call} (hfits : call.Fits) :
    let replies := queue ++ Station.repliesTo master.audience id call.request.instruction.code
      call.request.parameters
    call.run id master =
      .ok (call.accepted id (settled id call.buffer (taken? master.timeout replies)))
        ((master.requested id call.request.instruction.code call.request.parameters).facing
          (untaken master.timeout replies)) :=
  Call.run_of_transact hfits hid (transact_run hholds hids hid _ (Call.length_parameters_le hfits)
    (Call.length_buffer_le hfits))

/-- The master waits for replies and none is left over, on a quiet line of sound devices. -/
structure Ready (master : Master (List Station)) : Prop where
  quiet : ∀ station ∈ master.audience, station.Quiet
  sound : ∀ station ∈ master.audience, station.device.Sound
  peerPresent : master.channel.peerPresent = true
  inbox : master.channel.inbox = []
  waits : master.timeout ≠ 0

structure Serves (call : Call) (id : Id) (before after : Master (List Station))
    (filled : Filled Unit) : Prop where
  unfit : ¬call.Fits → (∃ cause, filled.outcome = .error (.protocol cause)) ∧ after = before
  sent : call.Fits → after.channel.outbox = before.channel.outbox ++
    requestWire id call.request.instruction.code call.request.parameters
  absent : call.Fits → (∀ station ∈ before.audience, station.device.id ≠ id) →
    filled.outcome = .error .timeout ∧ after.audience = before.audience
  present : call.Fits → ∀ front station back, before.audience = front ++ station :: back →
    station.device.id = id →
    if call.lacksData then
      filled.outcome = .error (.device id .instructionError) ∧ after.audience = before.audience
    else if call.overreaches station.device.table.length then
      filled.outcome = .error (.device id .rangeError) ∧ after.audience = before.audience
    else
      let device := station.device.carriedOut call.request
      filled = ⟨.ok (), device.asked call.request⟩ ∧
        station.device.execute call.request.instruction.code call.request.parameters =
          .ok (some ⟨.noError, filled.buffer⟩) device ∧
        after.audience = front ++ { station with device } :: back

theorem holds_of_ready {master : Master (List Station)} (hready : master.Ready) :
    master.Holds [] where
  quiet := hready.quiet
  peerPresent := hready.peerPresent
  inbox := hready.inbox
  fits := by simp

def spoken (master : Master (List Station)) (id : Id) (request : Request)
    (audience : List Station) : Master (List Station) :=
  { master with
    audience
    channel := { master.channel with
      outbox := master.channel.outbox ++
        requestWire id request.instruction.code request.parameters } }

theorem ready_spoken {master : Master (List Station)} (hready : master.Ready) (id : Id)
    (request : Request) {audience : List Station}
    (haudience : ∀ station ∈ audience, station.Quiet ∧ station.device.Sound) :
    (master.spoken id request audience).Ready where
  quiet station hstation := (haudience station hstation).1
  sound station hstation := (haudience station hstation).2
  peerPresent := hready.peerPresent
  inbox := hready.inbox
  waits := hready.waits

theorem call_run_of_absent {master : Master (List Station)} (hready : master.Ready)
    (hids : Station.DistinctIds master.audience) {id : Id} (hid : ¬id.isReserved) {call : Call}
    (hfits : call.Fits) (habsent : ∀ station ∈ master.audience, station.device.id ≠ id) :
    call.run id master = .ok ⟨.error .timeout, call.buffer⟩
      (master.spoken id call.request master.audience) := by
  have hrun := call_run (holds_of_ready hready) hids hid hfits
  have hbroadcast := Id.not_isBroadcast_of_not_isReserved hid
  simp only [List.nil_append, Station.repliesTo_of_absent habsent, taken?, untaken,
    if_neg hready.waits, List.head?_nil, List.tail_nil, Call.accepted_none] at hrun
  rw [hrun, requested, Station.map_told_of_absent hbroadcast habsent, spoken, facing]
  simp [hready.inbox]

theorem call_run_of_present {master : Master (List Station)} (hready : master.Ready)
    {front back : List Station} {station : Station}
    (haudience : master.audience = front ++ station :: back)
    (hids : Station.DistinctIds master.audience) {call : Call} (hfits : call.Fits) :
    call.run station.device.id master =
      .ok (if call.lacksData then
            ⟨.error (.device station.device.id .instructionError), call.buffer⟩
          else if call.overreaches station.device.table.length then
            ⟨.error (.device station.device.id .rangeError), call.buffer⟩
          else ⟨.ok (), (station.device.carriedOut call.request).asked call.request⟩)
        (master.spoken station.device.id call.request
          (front ++ { station with device := station.device.after call.request } :: back)) := by
  have hmem : station ∈ master.audience := by simp [haudience]
  have hrun := call_run (holds_of_ready hready) hids (hids.unreserved station hmem) hfits
  have hexecute := Device.execute_request (hready.sound station hmem) call.request
  have hreply := Device.replyTo?_of_execute hexecute
  have htold := Device.told_of_execute hexecute
  rw [haudience] at hids
  simp only [List.nil_append, haudience, Station.repliesTo_of_distinctIds hids, hreply,
    Option.toList_some, taken?, untaken, if_neg hready.waits, List.head?_cons, List.tail_cons,
    Call.accepted_answerTo hfits] at hrun
  rw [hrun, requested, haudience, Station.map_told_of_distinctIds hids, Station.told, htold, spoken,
    facing]
  simp [hready.inbox]

theorem ready_of_present {master : Master (List Station)} (hready : master.Ready)
    {front back : List Station} {station : Station}
    (haudience : master.audience = front ++ station :: back) (request : Request) :
    (master.spoken station.device.id request
      (front ++ { station with device := station.device.after request } :: back)).Ready := by
  apply ready_spoken hready
  intro other hother
  have hquiet := hready.quiet
  have hsound := hready.sound
  rw [haudience] at hquiet hsound
  rcases List.mem_append.mp hother with hfront | htail
  · exact ⟨hquiet other (by simp [hfront]), hsound other (by simp [hfront])⟩
  · rcases List.mem_cons.mp htail with rfl | hback
    · have hbefore := hquiet station (by simp)
      exact ⟨⟨hbefore.inbox, hbefore.outbox, hbefore.peerPresent⟩,
        Device.sound_after (hsound station (by simp)) request⟩
    · exact ⟨hquiet other (by simp [hback]), hsound other (by simp [hback])⟩

theorem present_of_run {master after : Master (List Station)} {filled : Filled Unit}
    (hready : master.Ready) {front back : List Station} {station : Station}
    (haudience : master.audience = front ++ station :: back)
    (hids : Station.DistinctIds master.audience) {call : Call} (hfits : call.Fits)
    (hrun : call.run station.device.id master = .ok filled after) :
    if call.lacksData then
      filled.outcome = .error (.device station.device.id .instructionError) ∧
        after.audience = master.audience
    else if call.overreaches station.device.table.length then
      filled.outcome = .error (.device station.device.id .rangeError) ∧
        after.audience = master.audience
    else
      let device := station.device.carriedOut call.request
      filled = ⟨.ok (), device.asked call.request⟩ ∧
        station.device.execute call.request.instruction.code call.request.parameters =
          .ok (some ⟨.noError, filled.buffer⟩) device ∧
        after.audience = front ++ { station with device } :: back := by
  have hsound := hready.sound station (by simp [haudience])
  have hexecute := Device.execute_request hsound call.request
  rw [call_run_of_present hready haudience hids hfits, Call.after_request hfits] at hrun
  rw [Device.answerTo, Call.refusal?_request hfits, Call.after_request hfits] at hexecute
  by_cases hlacks : call.lacksData
  · simp only [if_pos hlacks] at hrun ⊢
    cases hrun
    exact ⟨rfl, haudience.symm⟩
  · simp only [if_neg hlacks] at hrun ⊢
    by_cases hover : call.overreaches station.device.table.length
    · simp only [if_pos hover] at hrun ⊢
      cases hrun
      exact ⟨rfl, haudience.symm⟩
    · simp only [if_neg hlacks, if_neg hover] at hrun hexecute ⊢
      cases hrun
      exact ⟨rfl, hexecute, rfl⟩

theorem serves_of_ready {master : Master (List Station)} (hready : master.Ready)
    (hids : Station.DistinctIds master.audience) {id : Id} (hid : ¬id.isReserved) (call : Call) :
    ∃ filled after, call.run id master = .ok filled after ∧ after.Ready ∧
      Serves call id master after filled := by
  by_cases hfits : call.Fits
  · rcases Station.absent_or_split master.audience id with
      habsent | ⟨front, station, back, haudience, rfl⟩
    · have hrun := call_run_of_absent hready hids hid hfits habsent
      refine ⟨_, _, hrun, ready_spoken hready id call.request fun station hstation =>
        ⟨hready.quiet station hstation, hready.sound station hstation⟩, ?_⟩
      exact {
        unfit := fun hunfit => absurd hfits hunfit
        sent := fun _ => rfl
        absent := fun _ _ => ⟨rfl, rfl⟩
        present := by
          intro _ front station back haudience hsame
          exact absurd hsame (habsent station (by simp [haudience])) }
    · have hrun := call_run_of_present hready haudience hids hfits
      refine ⟨_, _, hrun, ready_of_present hready haudience call.request, ?_⟩
      exact {
        unfit := fun hunfit => absurd hfits hunfit
        sent := fun _ => rfl
        absent := fun _ habsent => absurd rfl (habsent station (by simp [haudience]))
        present := by
          intro _ front' other back' haudience' hsame
          rw [← hsame] at hrun ⊢
          exact present_of_run hready haudience' hids hfits hrun }
  · obtain ⟨cause, hrun⟩ := Call.run_of_not_fits hfits hid master
    exact ⟨_, _, hrun, hready, {
      unfit := fun _ => ⟨⟨cause, rfl⟩, rfl⟩
      sent := fun hfits' => absurd hfits' hfits
      absent := fun hfits' => absurd hfits' hfits
      present := fun hfits' => absurd hfits' hfits }⟩

/-- A master that waits stays without replies left over, whatever calls it makes. -/
theorem ready_of_reached {start master : Master (List Station)} (hstart : start.Ready)
    (hreached : ReachedByCalls (fun milliseconds => milliseconds ≠ 0) start master) :
    master.Ready := by
  induction hreached with
  | start => exact hstart
  | call _ hids hid hrun ih =>
      obtain ⟨filled, after, hrun', hready, -⟩ := serves_of_ready ih hids hid _
      rw [hrun] at hrun'
      cases hrun'
      exact hready
  | setTimeout _ hallowed hrun ih =>
      cases hrun
      exact ⟨ih.quiet, ih.sound, ih.peerPresent, ih.inbox, hallowed⟩

/-- At any point of a run of a master that waits, a call comes to what the device that it is meant
for makes of it: no frame can carry it and nothing is sent, no device has the id and none changes,
or the device refuses it and stays as it is, or carries it out and tells what it was asked. No
other device changes and no reply is left over. -/
theorem serves_of_reached {start master : Master (List Station)} (hstart : start.Ready)
    (hreached : ReachedByCalls (fun milliseconds => milliseconds ≠ 0) start master)
    (hids : Station.DistinctIds master.audience) {id : Id} (hid : ¬id.isReserved) (call : Call) :
    ∃ filled after, call.run id master = .ok filled after ∧ after.Ready ∧
      Serves call id master after filled :=
  serves_of_ready (ready_of_reached hstart hreached) hids hid call

/-- The servo of id 1 takes id 7, and is then asked for its id. -/
theorem serves_of_reached_new_id :
    let start : Master (List Station) :=
      { audience := [Station.smallest 1, Station.smallest 2], timeout := 100 }
    ∃ master, start.Ready ∧ ReachedByCalls (fun milliseconds => milliseconds ≠ 0) start master ∧
      Station.DistinctIds master.audience ∧ ¬(⟨7⟩ : Id).isReserved ∧
      ∃ filled after, (Call.read 3 [0]).run ⟨7⟩ master = .ok filled after ∧ after.Ready ∧
        Serves (.read 3 [0]) ⟨7⟩ master after filled := by
  intro start
  have hready : start.Ready := {
    quiet := by simp [start, Station.quiet_smallest]
    sound := by simp [start, Station.sound_smallest]
    peerPresent := rfl
    inbox := rfl
    waits := by decide }
  have hids : Station.DistinctIds start.audience := ⟨by decide, by decide⟩
  have hline : start.audience = [] ++ Station.smallest 1 :: [Station.smallest 2] := rfl
  have hrun := call_run_of_present hready hline hids (show (Call.write 3 [7]).Fits by decide)
  have hhere : ReachedByCalls (fun milliseconds => milliseconds ≠ 0) start start := .start
  have hreached := ReachedByCalls.call hhere hids (by decide) hrun
  refine ⟨_, hready, hreached, ⟨by decide, by decide⟩, by decide, ?_⟩
  exact serves_of_reached hready hreached ⟨by decide, by decide⟩ (by decide) _

end Master

end ServoBus
