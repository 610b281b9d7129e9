import ServoBus.Proofs.Dialogue

/-!
# Looking for devices

A master that looks for devices pings one id after another. On a quiet line a ping leaves no trace
but its own bytes: a device that has the id answers and stays as it is, and where none has it the
time runs out over an empty line. So what is found under one id does not hang on what was asked
before, nor on how often.

Main statement: `Master.scan_finds_present`.
-/

namespace ServoBus

namespace Device

theorem execute_ping (device : Device) (parameters : Bytes) :
    device.execute Instruction.ping.code parameters = .ok (some ⟨.noError, []⟩) device := rfl

theorem told_ping (device : Device) (id : Id) (parameters : Bytes) :
    device.told id Instruction.ping.code parameters = device := by
  rw [told, served, execute_ping]
  exact ite_self device

end Device

namespace Station

def Present (stations : List Station) (id : Id) : Prop :=
  ∃ station ∈ stations, station.device.id = id

instance (stations : List Station) (id : Id) : Decidable (Present stations id) :=
  inferInstanceAs (Decidable (∃ station ∈ stations, station.device.id = id))

theorem map_told_ping (stations : List Station) (id : Id) (parameters : Bytes) :
    stations.map (fun station => station.told id Instruction.ping.code parameters) = stations := by
  have hsame (station : Station) : station.told id Instruction.ping.code parameters = station := by
    rw [told, Device.told_ping]
  rw [funext hsame]
  exact List.map_id stations

theorem repliesTo_ping {stations : List Station} (hids : DistinctIds stations) (id : Id) :
    repliesTo stations id Instruction.ping.code [] =
      if Present stations id then [⟨id, ⟨.noError, []⟩⟩] else [] := by
  rcases absent_or_split stations id with habsent | ⟨front, station, back, rfl, rfl⟩
  · have hnone : ¬Present stations id := fun ⟨station, hstation, hid⟩ =>
      habsent station hstation hid
    rw [if_neg hnone, repliesTo_of_absent habsent]
  · have hthere : Present (front ++ station :: back) station.device.id :=
      ⟨station, by simp, rfl⟩
    rw [if_pos hthere, repliesTo_of_distinctIds hids,
      Device.replyTo?_of_execute (station.device.execute_ping [])]
    rfl

end Station

namespace Master

def pingBytes (id : Id) : Bytes := [0xFF, 0xFF, id.byte, 2, 1, ~~~(id.byte + 2 + 1)]

theorem requestWire_ping {id : Id} (hid : id ≠ Id.unusable) :
    requestWire id Instruction.ping.code [] = pingBytes id := by
  rw [requestWire_eq_bytes hid Instruction.ping.code (Nat.zero_le _)]
  simp [Frame.bytes, Frame.sound, checksum, byteSum, pingBytes, syncByte, Instruction.code]

/-- The master once it has sent bytes and nothing is left of what came back. -/
def havingSent (master : Master (List Station)) (bytes : Bytes) : Master (List Station) :=
  { master with channel := { master.channel with
      inbox := []
      outbox := master.channel.outbox ++ bytes } }

theorem havingSent_nil {master : Master (List Station)} (hholds : master.Holds []) :
    master.havingSent [] = master := by
  have hinbox : master.channel.inbox = [] := hholds.inbox
  rw [havingSent, List.append_nil, ← hinbox]

theorem havingSent_append (master : Master (List Station)) (front back : Bytes) :
    (master.havingSent front).havingSent back = master.havingSent (front ++ back) := by
  simp only [havingSent, List.append_assoc]

theorem holds_havingSent {master : Master (List Station)} (hholds : master.Holds [])
    (bytes : Bytes) : (master.havingSent bytes).Holds [] :=
  ⟨hholds.quiet, hholds.peerPresent, rfl, hholds.fits⟩

/-- A ping on a quiet line leaves it as it was, whether it is answered or not. -/
theorem ping_run {master : Master (List Station)} (hholds : master.Holds [])
    (hids : Station.DistinctIds master.audience) (htimeout : master.timeout ≠ 0) {id : Id}
    (hid : ¬id.isReserved) :
    ping id master =
      .ok (if Station.Present master.audience id then .ok () else .error .timeout)
        (master.havingSent (pingBytes id)) := by
  have hwire := requestWire_ping (Id.ne_unusable_of_not_isReserved hid)
  have hrequested : master.requested id Instruction.ping.code [] =
      { master with channel := { master.channel with
          outbox := master.channel.outbox ++ pingBytes id } } := by
    rw [requested, Station.map_told_ping, hwire]
  have hnone : ([] : Bytes).length ≤ maxParameters := Nat.zero_le _
  have htransact := transact_run hholds hids hid Instruction.ping.code hnone hnone
  simp only [taken?, untaken, if_neg htimeout, List.nil_append, Station.repliesTo_ping hids,
    hrequested] at htransact
  rw [ping, request, bind_of_ok htransact]
  by_cases hthere : Station.Present master.audience id
  · have hsettled : settled id [] (some ⟨id, ⟨.noError, []⟩⟩) = ⟨.ok 0, []⟩ := settled_data id rfl
    rw [if_pos hthere, if_pos hthere, List.head?_cons, hsettled]
    rfl
  · rw [if_neg hthere, if_neg hthere]
    rfl

/-- On a quiet line, a master finds just those of the ids that a device has, in the order and as
often as they are looked for. Each id that can be asked is pinged once; no device changes, and
nothing is left before the master. -/
theorem scan_finds_present {master : Master (List Station)} (hholds : master.Holds [])
    (hids : Station.DistinctIds master.audience) (htimeout : master.timeout ≠ 0)
    (ids : List Id) :
    let asked := ids.filter fun id => !id.isReserved
    scan ids master =
      .ok (.ok (asked.filter fun id => Station.Present master.audience id))
        { master with channel := { master.channel with
            inbox := []
            outbox := master.channel.outbox ++ asked.flatMap pingBytes } } := by
  change scan ids master = .ok _ (master.havingSent _)
  induction ids generalizing master with
  | nil =>
      rw [scan, List.filter_nil, List.flatMap_nil, havingSent_nil hholds]
      rfl
  | cons id ids ih =>
      by_cases hid : id.isReserved
      · rw [scan, if_pos hid, ih hholds hids htimeout, List.filter_cons_of_neg (by simp [hid])]
      · have hping := ping_run hholds hids htimeout hid
        have hrest := ih (holds_havingSent hholds (pingBytes id)) hids htimeout
        rw [havingSent_append] at hrest
        rw [scan, if_neg hid, bind_of_ok hping, List.filter_cons_of_pos (by simp [hid]),
          List.flatMap_cons]
        by_cases hthere : Station.Present master.audience id
        · rw [if_pos hthere, List.filter_cons_of_pos (by simp [hthere])]
          exact bind_of_ok hrest
        · rw [if_neg hthere, List.filter_cons_of_neg (by simp [hthere])]
          exact hrest

/-- A line of two devices, one of which is looked for twice; the ids of no device and of everyone
are looked for as well. -/
theorem scan_finds_present_twice :
    let master : Master (List Station) :=
      { audience := [Station.smallest 1, Station.smallest 5], timeout := 100 }
    let ids : List Id := [⟨5⟩, ⟨9⟩, Id.broadcast, ⟨5⟩, Id.unusable, ⟨1⟩]
    master.Holds [] ∧ Station.DistinctIds master.audience ∧ master.timeout ≠ 0 ∧
    ∃ after, scan ids master = .ok (.ok [⟨5⟩, ⟨5⟩, ⟨1⟩]) after ∧
      after.audience = master.audience ∧ after.channel.inbox = [] ∧
      after.channel.outbox =
        [0xFF, 0xFF, 5, 2, 1, 0xF7, 0xFF, 0xFF, 9, 2, 1, 0xF3, 0xFF, 0xFF, 5, 2, 1, 0xF7,
          0xFF, 0xFF, 1, 2, 1, 0xFB] := by
  intro master ids
  have hholds : master.Holds [] := holds_nil (by simp [Station.quiet_smallest]) _
  have hids : Station.DistinctIds master.audience := ⟨by decide, by decide⟩
  have htimeout : master.timeout ≠ 0 := Nat.succ_ne_zero 99
  have hfound : ((ids.filter fun id => !id.isReserved).filter fun id =>
      Station.Present master.audience id) = [⟨5⟩, ⟨5⟩, ⟨1⟩] := by decide +kernel
  have hscan := scan_finds_present hholds hids htimeout ids
  dsimp only at hscan
  rw [hfound] at hscan
  exact ⟨hholds, hids, htimeout, _, hscan, rfl, rfl, rfl⟩

/-- A servo where the beginning of a frame waits takes the ping for the rest of it, and is not
found. -/
theorem scan_misses_of_waiting :
    let waiting : Station := { Station.smallest 1 with channel := { inbox := [0xFF, 0xFF, 1] } }
    let master : Master (List Station) := { audience := [waiting], timeout := 100 }
    Station.DistinctIds master.audience ∧ master.channel.inbox = [] ∧ master.timeout ≠ 0 ∧
    Station.Present master.audience ⟨1⟩ ∧ ∃ after, scan [⟨1⟩] master = .ok (.ok []) after := by
  intro waiting master
  let sent := master.heard (requestWire ⟨1⟩ Instruction.ping.code [])
  have hid : ¬(⟨1⟩ : Id).isBroadcast := by decide
  have hnone : ([] : Bytes).length ≤ maxParameters := Nat.zero_le _
  have hping : requestWire ⟨1⟩ Instruction.ping.code [] = pingBytes ⟨1⟩ :=
    requestWire_ping (by decide)
  have hunheard : (waiting.hear (pingBytes ⟨1⟩)).channel.outbox = [] := by decide +kernel
  have hsilent : sent.channel.inbox = [] := by
    simp [sent, heard, master, Audience.hear, Station.hearInOrder, hping, hunheard]
  have hnext : Frame.next? sent.channel.inbox = none := by rw [hsilent]; rfl
  have hintime : sent.InTime (awaited sent.channel.inbox) := by
    rw [hsilent]
    exact inTime_of_le (show 100 ≠ 0 by decide) (Nat.zero_le _)
  have hsent := send_of_peerPresent (rfl : master.channel.peerPresent) ⟨1⟩
    Instruction.ping.code hnone
  obtain ⟨contents, htransact⟩ := transact_of_next?_eq_none hid hnone hsent hnext hintime
  have hping : ping ⟨1⟩ master = .ok (.error .timeout) (sent.expired []) := bind_of_ok htransact
  refine ⟨⟨by decide, by decide⟩, rfl, by decide, by decide, sent.expired [], ?_⟩
  rw [scan, if_neg (by decide), bind_of_ok hping]
  rfl

end Master

end ServoBus
