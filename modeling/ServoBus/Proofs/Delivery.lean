import ServoBus.Proofs.Dialogue

/-!
# Whom a request reaches

Every station on a line hears every byte that a master sends. On a quiet line the stations that a
request is addressed to receive it as one whole frame, and the others stay as they are
(`Master.send_delivers`). This does not hold of the unusable id, for which a master sends all the
same: its byte passes for one more sync byte, the length after it for an id, and so on, so that a
station can find a frame for itself in the data of the request.
-/

namespace ServoBus

namespace Station

/-- Bytes that arrive at the station are one whole frame to it, with a command and parameters. It
handles this frame, and no byte is left. -/
def Receives (station : Station) (bytes : Bytes) (id : Id) (command : UInt8)
    (parameters : Bytes) : Prop :=
  let arrived := station.channel.arrive bytes
  ∃ packet : Packet, packet.id = id ∧ packet.command = command ∧ packet.parameters = parameters ∧
    Link.readFrame arrived Packet.roomy = ⟨.ok .complete, packet, station.channel⟩ ∧
    let handled := station.handle packet .complete
    ({ station with channel := arrived } : Station).drain =
      ([handled.1.map fun outcome => outcome.map fun _ => .complete], handled.2)

theorem receives_requestWire {station : Station} (hquiet : station.Quiet) {id : Id}
    (hid : id ≠ Id.unusable) (command : UInt8) {parameters : Bytes}
    (hparameters : parameters.length ≤ maxParameters) :
    station.Receives (Master.requestWire id command parameters) id command parameters := by
  let frame := Frame.sound id hid command parameters hparameters
  have hread := readFrame_arrive hquiet frame
  have hdrain := drain_arrive hquiet frame
  have hparsed := Packet.parameters_loaded_sound hid command hparameters
  rw [Frame.status_sound_roomy, ← Master.requestWire_eq_bytes] at hread hdrain
  exact ⟨_, rfl, rfl, hparsed, hread, hdrain⟩

theorem hear_requestWire_of_ne {station : Station} (hquiet : station.Quiet) {id : Id}
    (hid : id ≠ Id.unusable) (hother : ¬(id = station.device.id ∨ id.isBroadcast))
    (command : UInt8) {parameters : Bytes} (hparameters : parameters.length ≤ maxParameters) :
    station.hear (Master.requestWire id command parameters) = station := by
  have hne : id ≠ station.device.id := fun h => hother (Or.inl h)
  rw [hear_requestWire hquiet hid command hparameters, Device.told, if_neg hother,
    Device.replyTo?, if_neg hne, Option.elim_none, ← hquiet.outbox]

theorem hearInOrder_eq (bytes : Bytes) (stations : List Station) :
    hearInOrder bytes stations = {
      replies := stations.flatMap fun station => (station.hear bytes).channel.outbox
      audience := stations.map fun station => (station.hear bytes).collect } := by
  induction stations with
  | nil => rfl
  | cons station others ih => rw [hearInOrder, ih, List.flatMap_cons, List.map_cons]

end Station

namespace Master

def afterSending (master : Master (List Station)) (bytes : Bytes) : Master (List Station) :=
  { master with
    audience := master.audience.map fun station => (station.hear bytes).collect
    channel := { master.channel with
      inbox := master.channel.inbox ++
        master.audience.flatMap fun station => (station.hear bytes).channel.outbox
      outbox := master.channel.outbox ++ bytes } }

/-- Whatever its id, a request that fits into a frame is sent, unless nobody is there to take it. -/
theorem send_eq (master : Master (List Station)) (id : Id) (command : UInt8) {parameters : Bytes}
    (hparameters : parameters.length ≤ maxParameters) :
    send id command parameters master =
      if master.channel.peerPresent then
        .ok (.ok ()) (master.afterSending (requestWire id command parameters))
      else .ok (.error (.io .channelBroken)) master := by
  have hfew : ¬maxParameters < parameters.length := by omega
  have hsome : requestWire id command parameters ≠ [] := Packet.wire_ne_nil _
  obtain ⟨audience, ⟨inbox, outbox, peerPresent, rate?⟩, timeout⟩ := master
  rw [send, if_neg hfew, transmit, Channel.send]
  cases peerPresent with
  | false => simp [hsome]
  | true => simp [Audience.hear, Station.hearInOrder_eq, Channel.arrive, afterSending]

/-- On a quiet line a request for any id but the unusable one is refused as a whole, or each station
it is addressed to receives it once, as the frame that was sent, and no other station changes. -/
theorem send_delivers {master : Master (List Station)}
    (hquiet : ∀ station ∈ master.audience, station.Quiet) {id : Id} (hid : id ≠ Id.unusable)
    (command : UInt8) {parameters : Bytes} (hparameters : parameters.length ≤ maxParameters) :
    let wire := requestWire id command parameters
    (send id command parameters master = .ok (.error (.io .channelBroken)) master ∧
        master.channel.peerPresent = false) ∨
      (send id command parameters master = .ok (.ok ()) (master.afterSending wire) ∧
        ∀ station ∈ master.audience,
          if id = station.device.id ∨ id.isBroadcast then
            station.Receives wire id command parameters
          else (station.hear wire).collect = station ∧
            (station.hear wire).channel.outbox = []) := by
  intro wire
  have hsend := send_eq master id command hparameters
  by_cases hpeer : master.channel.peerPresent
  · rw [if_pos hpeer] at hsend
    refine Or.inr ⟨hsend, ?_⟩
    intro station hstation
    have hstill := hquiet station hstation
    split
    · exact Station.receives_requestWire hstill hid command hparameters
    · next hother =>
        rw [Station.hear_requestWire_of_ne hstill hid hother command hparameters]
        refine ⟨?_, hstill.outbox⟩
        rw [Station.collect, Channel.collect, ← hstill.outbox]
  · rw [if_neg hpeer] at hsend
    exact Or.inl ⟨hsend, Bool.eq_false_iff.mpr hpeer⟩

theorem send_delivers_one_of_two :
    let master : Master (List Station) :=
      { audience := [Station.smallest 6, Station.smallest 7], timeout := 100 }
    let id : Id := ⟨7⟩
    let parameters : Bytes := [Offset.returnDelay, 9]
    let wire := requestWire id Instruction.write.code parameters
    (∀ station ∈ master.audience, station.Quiet) ∧ id ≠ Id.unusable ∧
      parameters.length ≤ maxParameters ∧
      send id Instruction.write.code parameters master =
        .ok (.ok ()) (master.afterSending wire) ∧
      (Station.smallest 7).Receives wire id Instruction.write.code parameters ∧
      ((Station.smallest 6).hear wire).collect = Station.smallest 6 := by
  intro master id parameters wire
  have hquiet : ∀ station ∈ master.audience, station.Quiet := by
    simp [master, Station.quiet_smallest]
  have hid : id ≠ Id.unusable := by decide
  have hparameters : parameters.length ≤ maxParameters := by decide
  have hpeer : master.channel.peerPresent = true := rfl
  rcases send_delivers hquiet hid Instruction.write.code hparameters with
    ⟨-, hgone⟩ | ⟨hsend, hheard⟩
  · rw [hpeer] at hgone
    cases hgone
  · have hseven := hheard (Station.smallest 7) (by simp [master])
    have hsix := hheard (Station.smallest 6) (by simp [master])
    rw [if_pos (by decide)] at hseven
    rw [if_neg (by decide)] at hsix
    exact ⟨hquiet, hid, hparameters, hsend, hseven, hsix.1⟩

/-- A request that bears the unusable id changes a servo with another id. Behind the id stand the
length `6`, the command `4` and the parameters, in which the servo with the id `6` reads a write of
its return delay. -/
theorem send_misdelivers_unusable :
    let master : Master (List Station) := { audience := [Station.smallest 6], timeout := 100 }
    let parameters : Bytes := [Instruction.write.code, Offset.returnDelay, 0, 0xED]
    let wire := requestWire Id.unusable Instruction.regWrite.code parameters
    (∀ station ∈ master.audience, station.Quiet ∧ ¬station.device.id.isReserved) ∧
      send Id.unusable Instruction.regWrite.code parameters master =
        .ok (.ok ()) (master.afterSending wire) ∧
      ∃ station ∈ master.audience, (station.hear wire).collect ≠ station := by
  intro master parameters wire
  have hquiet : ∀ station ∈ master.audience,
      station.Quiet ∧ ¬station.device.id.isReserved := by
    intro station hstation
    obtain rfl := List.mem_singleton.mp hstation
    exact ⟨Station.quiet_smallest 6, by decide⟩
  have hparameters : parameters.length ≤ maxParameters := by decide
  have hsend := send_eq master Id.unusable Instruction.regWrite.code hparameters
  refine ⟨hquiet, hsend, Station.smallest 6, List.mem_singleton_self _, ?_⟩
  decide +kernel

end Master

end ServoBus
