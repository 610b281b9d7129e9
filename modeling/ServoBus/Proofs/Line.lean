import ServoBus.Master
import ServoBus.Proofs.Execution
import ServoBus.Proofs.RoundTrip

/-!
# One request on a line

On a line with nothing on its way, every device acts on a request as if it were alone with it
(`Device.told`), and what the master hears are the replies in the order of the line
(`hearInOrder_requestWire`). Where ids are distinct, one device at most is concerned.
-/

namespace ServoBus

/-! ## One device -/

namespace Device

def served (device : Device) (command : UInt8) (parameters : Bytes) : Device :=
  match device.execute command parameters with
  | .ok _ after | .error _ after => after

def told (device : Device) (id : Id) (command : UInt8) (parameters : Bytes) : Device :=
  if id = device.id ∨ id.isBroadcast then device.served command parameters else device

/-- What the device replies to a request that bears an id; a fault leaves it silent. -/
def replyTo? (device : Device) (id : Id) (command : UInt8) (parameters : Bytes) : Option Reply :=
  if id = device.id then
    match device.execute command parameters with
    | .ok answer? _ => answer?.map fun answer => ⟨device.id, answer⟩
    | .error _ _ => none
  else none

theorem told_of_ne {device : Device} {id : Id} (hid : ¬id.isBroadcast) (hne : device.id ≠ id)
    (command : UInt8) (parameters : Bytes) : device.told id command parameters = device := by
  have hother : ¬(id = device.id ∨ id.isBroadcast) := by
    rintro (heq | hbroadcast)
    · exact hne heq.symm
    · exact hid hbroadcast
  rw [told, if_neg hother]

theorem replyTo?_of_ne {device : Device} {id : Id} (hne : device.id ≠ id) (command : UInt8)
    (parameters : Bytes) : device.replyTo? id command parameters = none := by
  rw [replyTo?, if_neg (Ne.symm hne)]

theorem told_of_execute {device after : Device} {command : UInt8} {parameters : Bytes}
    {answer : Answer} (h : device.execute command parameters = .ok (some answer) after) :
    device.told device.id command parameters = after := by
  rw [told, if_pos (Or.inl rfl), served, h]

theorem replyTo?_of_execute {device after : Device} {command : UInt8} {parameters : Bytes}
    {answer : Answer} (h : device.execute command parameters = .ok (some answer) after) :
    device.replyTo? device.id command parameters = some ⟨device.id, answer⟩ := by
  rw [replyTo?, if_pos rfl, h]
  rfl

theorem execute_of_replyTo? {device : Device} {id : Id} {command : UInt8} {parameters : Bytes}
    {reply : Reply} (h : device.replyTo? id command parameters = some reply) :
    id = device.id ∧ reply.id = device.id ∧
      device.execute command parameters =
        .ok (some reply.answer) (device.told id command parameters) := by
  unfold replyTo? at h
  split at h
  · next hid =>
      split at h
      · next answer? after hrun =>
          obtain ⟨answer, hanswer, hreply⟩ := Option.map_eq_some_iff.mp h
          subst hreply
          rw [hanswer] at hrun
          refine ⟨hid, rfl, ?_⟩
          rw [hid, told_of_execute hrun]
          exact hrun
      · cases h
  · cases h

theorem handle_complete (device : Device) (packet : Packet) :
    device.handle packet .complete =
      if packet.id = device.id ∨ packet.id.isBroadcast then
        match device.execute packet.command packet.parameters with
        | .ok answer? after =>
            .ok (if packet.id = device.id then answer?.map fun answer => ⟨device.id, answer⟩
              else none) after
        | .error fault after => .error fault after
      else .ok none device := by
  rw [handle, bind_of_ok (get_run device)]
  split
  · cases hrun : device.execute packet.command packet.parameters with
    | ok answer? after => exact bind_of_ok hrun
    | error fault after => simp [bind, EStateM.bind, hrun]
  · rfl

end Device

/-! ## Sound frames -/

theorem Frame.status_sound_roomy {id : Id} (hid : id ≠ Id.unusable) (command : UInt8)
    {parameters : Bytes} (hparameters : parameters.length ≤ maxParameters) :
    (Frame.sound id hid command parameters hparameters).status maxParameters = .complete := by
  rw [status_sound, if_neg (by omega)]

theorem Packet.parameters_loaded_sound {id : Id} (hid : id ≠ Id.unusable) (command : UInt8)
    {parameters : Bytes} (hparameters : parameters.length ≤ maxParameters) :
    (roomy.loaded (Frame.sound id hid command parameters hparameters)).parameters = parameters := by
  have hcapacity : roomy.capacity = maxParameters := List.length_replicate
  rw [parameters_loaded, hcapacity]
  exact List.take_of_length_le hparameters

namespace Master

/-- A request with no more parameters than a frame can have is sent as the frame of them all. -/
theorem requestWire_eq_bytes {id : Id} (hid : id ≠ Id.unusable) (command : UInt8)
    {parameters : Bytes} (hparameters : parameters.length ≤ maxParameters) :
    requestWire id command parameters =
      (Frame.sound id hid command parameters hparameters).bytes := by
  have hall : parameters.take Packet.roomy.capacity = parameters :=
    List.take_of_length_le (by simpa [Packet.capacity, Packet.roomy] using hparameters)
  rw [requestWire, Packet.wire_eq_fullForm, Packet.fullForm_fill _ _ hid]
  congr 2

end Master

/-! ## One station -/

namespace Station

/-- Nothing is on its way to the station or from it. -/
structure Quiet (station : Station) : Prop where
  inbox : station.channel.inbox = []
  outbox : station.channel.outbox = []
  peerPresent : station.channel.peerPresent = true

def told (station : Station) (id : Id) (command : UInt8) (parameters : Bytes) : Station :=
  { station with device := station.device.told id command parameters }

theorem quiet_told {station : Station} (h : station.Quiet) (id : Id) (command : UInt8)
    (parameters : Bytes) : (station.told id command parameters).Quiet :=
  ⟨h.inbox, h.outbox, h.peerPresent⟩

theorem drain_of_inbox_eq_nil {station : Station} (h : station.channel.inbox = []) :
    station.drain = ([], station) := by
  rw [drain, dif_pos h]

theorem takeFrame_roomy (frame : Frame) :
    Packet.roomy.takeFrame frame.bytes =
      ⟨Packet.roomy.loaded frame, frame.status maxParameters, []⟩ := by
  have hcapacity : Packet.roomy.capacity = maxParameters := List.length_replicate
  have htake := Packet.takeFrame_bytes (rfl : Packet.roomy.state.syncs? = some 0) frame []
  rw [List.append_nil, hcapacity] at htake
  exact htake

theorem readFrame_arrive {station : Station} (hquiet : station.Quiet) (frame : Frame) :
    Link.readFrame (station.channel.arrive frame.bytes) Packet.roomy =
      ⟨.ok (frame.status maxParameters), Packet.roomy.loaded frame, station.channel⟩ := by
  let arrived := station.channel.arrive frame.bytes
  have hinbox : arrived.inbox = frame.bytes := by
    simp [arrived, Channel.arrive, hquiet.peerPresent, hquiet.inbox]
  have hread : { arrived with inbox := [] } = station.channel := by
    have hsame : { station.channel with inbox := [] } = station.channel := by
      rw [← hquiet.inbox]
    simp only [arrived, Channel.arrive, if_pos hquiet.peerPresent]
    exact hsame
  have hreading := Channel.readFrame_eq arrived Packet.roomy
  simp only [hinbox, takeFrame_roomy, if_neg (frame.status_ne_incomplete maxParameters),
    hread] at hreading
  exact hreading

theorem drain_arrive {station : Station} (hquiet : station.Quiet) (frame : Frame) :
    let status := frame.status maxParameters
    let handled := station.handle (Packet.roomy.loaded frame) status
    ({ station with channel := station.channel.arrive frame.bytes } : Station).drain =
      ([handled.1.map fun outcome => outcome.map fun _ => status], handled.2) := by
  intro status handled
  let arrived : Station := { station with channel := station.channel.arrive frame.bytes }
  have hstep : arrived.step =
      (handled.1.map fun outcome => outcome.map fun _ => status, handled.2) := by
    rw [step, readFrame_arrive hquiet]
  have hdone : arrived.step.2.channel.inbox = [] := by
    rw [hstep, inbox_handle]
    exact hquiet.inbox
  have hsome : ¬arrived.channel.inbox = [] := by
    simp [arrived, Channel.arrive, hquiet.peerPresent, Frame.bytes]
  change arrived.drain = _
  rw [drain, dif_neg hsome]
  dsimp only
  rw [drain_of_inbox_eq_nil hdone, hstep]

theorem hear_frame {station : Station} (hquiet : station.Quiet) (frame : Frame) :
    station.hear frame.bytes =
      (station.handle (Packet.roomy.loaded frame) (frame.status maxParameters)).2 :=
  congrArg Prod.snd (drain_arrive hquiet frame)

theorem handle_complete {station : Station} (hquiet : station.Quiet) (packet : Packet) :
    (station.handle packet .complete).2 = {
      device := station.device.told packet.id packet.command packet.parameters
      channel := { station.channel with
        outbox := (station.device.replyTo? packet.id packet.command packet.parameters).elim []
          Reply.wire } } := by
  obtain ⟨device, inbox, outbox, peerPresent, rate?⟩ := station
  obtain ⟨rfl, rfl, rfl⟩ := hquiet
  rw [handle, Device.handle_complete]
  unfold Device.told Device.served Device.replyTo?
  by_cases hid : packet.id = device.id
  · simp only [hid, true_or, if_true]
    cases hrun : device.execute packet.command packet.parameters with
    | error fault after => rfl
    | ok answer? after =>
        cases answer? with
        | none => rfl
        | some answer => simp [Channel.send]
  · by_cases hbroadcast : packet.id.isBroadcast
    · simp only [hid, hbroadcast, or_true, if_true, if_false]
      cases hrun : device.execute packet.command packet.parameters with
      | error fault after => rfl
      | ok answer? after => rfl
    · simp [hid, hbroadcast]

/-- On a quiet line a station acts on a request, and sends its reply if there is one. -/
theorem hear_requestWire {station : Station} (hquiet : station.Quiet) {id : Id}
    (hid : id ≠ Id.unusable) (command : UInt8) {parameters : Bytes}
    (hparameters : parameters.length ≤ maxParameters) :
    station.hear (Master.requestWire id command parameters) = {
      device := station.device.told id command parameters
      channel := { station.channel with
        outbox := (station.device.replyTo? id command parameters).elim [] Reply.wire } } := by
  rw [Master.requestWire_eq_bytes hid command hparameters, hear_frame hquiet,
    Frame.status_sound_roomy, handle_complete hquiet, Packet.parameters_loaded_sound]
  rfl

/-! ## The whole line -/

def repliesTo (stations : List Station) (id : Id) (command : UInt8) (parameters : Bytes) :
    List Reply :=
  stations.filterMap fun station => station.device.replyTo? id command parameters

/-- On a quiet line every device acts on a request, and the replies come in its order. -/
theorem hearInOrder_requestWire {stations : List Station}
    (hquiet : ∀ station ∈ stations, station.Quiet) {id : Id} (hid : id ≠ Id.unusable)
    (command : UInt8) {parameters : Bytes} (hparameters : parameters.length ≤ maxParameters) :
    hearInOrder (Master.requestWire id command parameters) stations = {
      replies := (repliesTo stations id command parameters).flatMap Reply.wire
      audience := stations.map fun station => station.told id command parameters } := by
  induction stations with
  | nil => rfl
  | cons station others ih =>
      have hfirst := hquiet station (List.mem_cons_self ..)
      have hothers := ih fun other hother => hquiet other (List.mem_cons_of_mem _ hother)
      have hcollect : (station.told id command parameters) =
          { device := station.device.told id command parameters
            channel := { station.channel with outbox := [] } } := by
        rw [← hfirst.outbox]
        rfl
      rw [hearInOrder, hear_requestWire hfirst hid command hparameters, hothers, List.map_cons,
        hcollect]
      cases hreply : station.device.replyTo? id command parameters with
      | none =>
          simp only [repliesTo, List.filterMap_cons, hreply]
          rfl
      | some reply =>
          simp only [repliesTo, List.filterMap_cons, hreply]
          rfl

/-- Every device can be asked alone: no two ids are the same and none is reserved. -/
structure DistinctIds (stations : List Station) : Prop where
  nodup : (stations.map fun station => station.device.id).Nodup
  unreserved : ∀ station ∈ stations, ¬station.device.id.isReserved

theorem absent_or_split (stations : List Station) (id : Id) :
    (∀ station ∈ stations, station.device.id ≠ id) ∨
      ∃ front station back, stations = front ++ station :: back ∧ station.device.id = id := by
  by_cases hpresent : ∃ station ∈ stations, station.device.id = id
  · obtain ⟨station, hstation, hid⟩ := hpresent
    obtain ⟨front, back, hsplit⟩ := List.append_of_mem hstation
    exact Or.inr ⟨front, station, back, hsplit, hid⟩
  · left
    intro station hstation hid
    exact hpresent ⟨station, hstation, hid⟩

theorem map_told_of_absent {stations : List Station} {id : Id} (hid : ¬id.isBroadcast)
    (habsent : ∀ station ∈ stations, station.device.id ≠ id) (command : UInt8)
    (parameters : Bytes) :
    stations.map (fun station => station.told id command parameters) = stations := by
  have hsame : ∀ station ∈ stations, station.told id command parameters = station := by
    intro station hstation
    rw [told, Device.told_of_ne hid (habsent station hstation)]
  rw [List.map_congr_left hsame]
  exact List.map_id stations

theorem repliesTo_of_absent {stations : List Station} {id : Id}
    (habsent : ∀ station ∈ stations, station.device.id ≠ id) (command : UInt8)
    (parameters : Bytes) : repliesTo stations id command parameters = [] := by
  rw [repliesTo, List.filterMap_eq_nil_iff]
  intro station hstation
  exact Device.replyTo?_of_ne (habsent station hstation) command parameters

theorem ne_of_distinctIds {front back : List Station} {station other : Station}
    (hids : DistinctIds (front ++ station :: back)) (hother : other ∈ front ∨ other ∈ back) :
    other.device.id ≠ station.device.id := by
  have hnodup := hids.nodup
  rw [List.map_append, List.map_cons, List.nodup_append] at hnodup
  obtain ⟨-, htail, hdisjoint⟩ := hnodup
  rcases hother with hfront | hback
  · exact hdisjoint _ (List.mem_map_of_mem hfront) _ (List.mem_cons_self ..)
  · intro heq
    apply (List.nodup_cons.mp htail).1
    rw [← heq]
    exact List.mem_map_of_mem hback

theorem map_told_of_distinctIds {front back : List Station} {station : Station}
    (hids : DistinctIds (front ++ station :: back)) (command : UInt8) (parameters : Bytes) :
    (front ++ station :: back).map
        (fun other => other.told station.device.id command parameters) =
      front ++ station.told station.device.id command parameters :: back := by
  have hbroadcast := Id.not_isBroadcast_of_not_isReserved (hids.unreserved station (by simp))
  have hfront := map_told_of_absent hbroadcast
    (fun other hother => ne_of_distinctIds hids (Or.inl hother)) command parameters
  have hback := map_told_of_absent hbroadcast
    (fun other hother => ne_of_distinctIds hids (Or.inr hother)) command parameters
  rw [List.map_append, List.map_cons, hfront, hback]

theorem repliesTo_of_distinctIds {front back : List Station} {station : Station}
    (hids : DistinctIds (front ++ station :: back)) (command : UInt8) (parameters : Bytes) :
    repliesTo (front ++ station :: back) station.device.id command parameters =
      (station.device.replyTo? station.device.id command parameters).toList := by
  have hfront := repliesTo_of_absent
    (fun other hother => ne_of_distinctIds hids (Or.inl hother)) command parameters
  have hback := repliesTo_of_absent
    (fun other hother => ne_of_distinctIds hids (Or.inr hother)) command parameters
  unfold repliesTo at hfront hback ⊢
  rw [List.filterMap_append, hfront, List.nil_append, List.filterMap_cons]
  cases station.device.replyTo? station.device.id command parameters with
  | none => exact hback
  | some reply => exact congrArg (reply :: ·) hback

/-- A request on stations with distinct ids has one reply at most. -/
theorem tail_repliesTo {stations : List Station} (hids : DistinctIds stations) (id : Id)
    (command : UInt8) (parameters : Bytes) :
    (repliesTo stations id command parameters).tail = [] := by
  rcases absent_or_split stations id with habsent | ⟨front, station, back, rfl, rfl⟩
  · rw [repliesTo_of_absent habsent, List.tail_nil]
  · rw [repliesTo_of_distinctIds hids]
    cases station.device.replyTo? station.device.id command parameters with
    | none => rfl
    | some reply => rfl

end Station

end ServoBus
