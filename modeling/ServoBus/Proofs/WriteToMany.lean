import ServoBus.Proofs.Conduct
import ServoBus.Proofs.Delivery

/-!
# Writes to many devices

A write to many devices is packed by the master, entry after entry, and unpacked by every device for
itself. An id and a data byte look alike in between, and only the count tells where an entry ends,
so entries with another count of bytes are refused, and with them the whole write. What is sent
means to each device a write with the data of the first entry for it.

Main statement: `Master.syncWrite_writes_each`.
-/

namespace ServoBus

namespace Master

/-! ## Packing -/

def packed (entries : List (Id × Bytes)) : Bytes :=
  entries.flatMap fun entry => entry.1.byte :: entry.2

/-- The entries can be packed behind so many parameters: each has as many bytes as is told, and
there is room for all. -/
structure Packable (used : Nat) (count : UInt8) (entries : List (Id × Bytes)) : Prop where
  even : ∀ entry ∈ entries, entry.2.length = count.toNat
  room : used + (1 + count.toNat) * entries.length ≤ maxParameters

theorem packable_cons_iff {used : Nat} {count : UInt8} {id : Id} {data : Bytes}
    {entries : List (Id × Bytes)} :
    Packable used count ((id, data) :: entries) ↔
      data.length = count.toNat ∧ Packable (used + 1 + data.length) count entries := by
  have hroom : data.length = count.toNat →
      used + (1 + count.toNat) * (entries.length + 1) =
        used + 1 + data.length + (1 + count.toNat) * entries.length := by
    intro hdata
    rw [hdata, Nat.mul_succ]
    omega
  constructor
  · rintro ⟨heven, hfit⟩
    have hdata := heven (id, data) (List.mem_cons_self ..)
    rw [List.length_cons, hroom hdata] at hfit
    exact ⟨hdata, fun entry hentry => heven entry (List.mem_cons_of_mem _ hentry), hfit⟩
  · rintro ⟨hdata, heven, hfit⟩
    refine ⟨List.forall_mem_cons.mpr ⟨hdata, heven⟩, ?_⟩
    rw [List.length_cons, hroom hdata]
    exact hfit

theorem length_packed {used : Nat} {count : UInt8} {entries : List (Id × Bytes)}
    (h : Packable used count entries) : used + (packed entries).length ≤ maxParameters := by
  induction entries generalizing used with
  | nil => exact h.room
  | cons entry entries ih =>
      obtain ⟨id, data⟩ := entry
      have hrest := ih (packable_cons_iff.mp h).2
      simp only [packed, List.flatMap_cons, List.length_append, List.length_cons] at hrest ⊢
      omega

theorem length_parameters_of_packable {count : UInt8} {entries : List (Id × Bytes)}
    (h : Packable 2 count entries) (offset : UInt8) :
    (offset :: count :: packed entries).length ≤ maxParameters := by
  have hlength := length_packed h
  simp only [List.length_cons]
  omega

theorem entryParameters_of_packable {used : Nat} {count : UInt8} {entries : List (Id × Bytes)}
    (h : Packable used count entries) :
    entryParameters count used entries = .ok (packed entries) := by
  induction entries generalizing used with
  | nil => rfl
  | cons entry entries ih =>
      obtain ⟨id, data⟩ := entry
      obtain ⟨hdata, hrest⟩ := packable_cons_iff.mp h
      have hroom : ¬maxParameters < used + 1 + data.length := by
        have hfit := hrest.room
        omega
      rw [entryParameters, if_neg (not_not_intro hdata), if_neg hroom, ih hrest]
      rfl

theorem entryParameters_of_not_packable {used : Nat} (hused : used ≤ maxParameters) {count : UInt8}
    {entries : List (Id × Bytes)} (h : ¬Packable used count entries) :
    ∃ cause, entryParameters count used entries = .error (.protocol cause) := by
  induction entries generalizing used with
  | nil => exact absurd ⟨by simp, by simpa using hused⟩ h
  | cons entry entries ih =>
      obtain ⟨id, data⟩ := entry
      rw [entryParameters]
      split
      · exact ⟨_, rfl⟩
      · next heven =>
          split
          · exact ⟨_, rfl⟩
          · next hroom =>
              have hrest : ¬Packable (used + 1 + data.length) count entries := by
                intro hrest
                exact h (packable_cons_iff.mpr ⟨Decidable.not_not.mp heven, hrest⟩)
              obtain ⟨cause, hcause⟩ := ih (by omega) hrest
              exact ⟨cause, by rw [hcause]; rfl⟩

end Master

/-! ## Unpacking -/

namespace Device

/-- A device finds the data of the first entry that bears its id. -/
theorem entryFor?_packed (id : Id) {count : Nat} {entries : List (Id × Bytes)}
    (heven : ∀ entry ∈ entries, entry.2.length = count) :
    entryFor? id count (Master.packed entries) =
      (entries.find? fun entry => entry.1 = id).map Prod.snd := by
  induction entries with
  | nil => simp [Master.packed, entryFor?]
  | cons entry entries ih =>
      obtain ⟨other, data⟩ := entry
      have hdata : data.length = count := heven (other, data) (List.mem_cons_self ..)
      have hrest := ih fun entry hentry => heven entry (List.mem_cons_of_mem _ hentry)
      have hwhole : count ≤ (data ++ Master.packed entries).length := by
        simp [hdata]
      have hpacked : Master.packed ((other, data) :: entries) =
          other.byte :: (data ++ Master.packed entries) := rfl
      -- the device takes as many bytes as the count tells, which is what the entry has
      rw [hpacked, entryFor?, if_pos hwhole, List.take_left' hdata, List.drop_left' hdata, hrest,
        List.find?_cons]
      by_cases hid : other = id
      · simp [hid]
      · have hbyte : other.byte ≠ id.byte := fun h => hid (congrArg Id.mk h)
        simp [hid, hbyte]

/-- The device after it has executed a write with the data of the first entry for it. Without an
entry, without data, or where the data does not fit, it stays as it is. -/
def afterEntries (device : Device) (offset count : UInt8) (entries : List (Id × Bytes)) : Device :=
  match entries.find? fun entry => entry.1 = device.id with
  | some entry =>
      if count ≠ 0 ∧ offset.toNat + count.toNat ≤ device.table.length then
        device.served Instruction.write.code (offset :: entry.2)
      else device
  | none => device

theorem afterEntries_of_fits {device : Device} {offset count : UInt8} {entries : List (Id × Bytes)}
    {entry : Id × Bytes} (hentry : (entries.find? fun entry => entry.1 = device.id) = some entry)
    (hcount : count ≠ 0) (hfit : offset.toNat + count.toNat ≤ device.table.length) :
    device.afterEntries offset count entries =
      device.served Instruction.write.code (offset :: entry.2) := by
  simp only [afterEntries, hentry]
  rw [if_pos ⟨hcount, hfit⟩]

theorem execute_entry {device : Device} (hordinary : device.table.peripheral.IsOrdinary)
    {offset count : UInt8} {data : Bytes} (hdata : data.length = count.toNat) (hcount : count ≠ 0)
    (hfit : offset.toNat + count.toNat ≤ device.table.length) :
    device.execute Instruction.write.code (offset :: data) =
      .ok (some ⟨.noError, []⟩) (device.served Instruction.write.code (offset :: data)) := by
  have hsome : count.toNat ≠ 0 := fun h => hcount (UInt8.toNat_inj.mp h)
  have hrefusal := refusal?_entry device.table.length offset hdata hsome
  rw [if_pos hfit] at hrefusal
  have hrun := execute_write_of_refusal?_eq_none hordinary hrefusal
  rw [served, hrun]

/-- What a device unpacks is the first entry for it. -/
theorem afterCommand_syncWrite {device : Device} (hordinary : device.table.peripheral.IsOrdinary)
    (offset : UInt8) {count : UInt8} {entries : List (Id × Bytes)}
    (heven : ∀ entry ∈ entries, entry.2.length = count.toNat) :
    device.afterCommand Instruction.syncWrite.code (offset :: count :: Master.packed entries) =
      device.afterEntries offset count entries := by
  rw [afterCommand, Request.ofCommand?_code, Request.ofInstruction?,
    entryFor?_packed device.id heven]
  by_cases hzero : count = 0
  · rw [if_pos hzero, afterEntries]
    split
    · exact (if_neg fun h => h.1 hzero).symm
    · rfl
  · rw [if_neg hzero]
    cases hentry : entries.find? fun entry => entry.1 = device.id with
    | none => simp only [afterEntries, hentry, Option.map_none, Option.elim_none]
    | some entry =>
        have hdata := heven entry (List.mem_of_find?_eq_some hentry)
        have hsome : count.toNat ≠ 0 := fun h => hzero (UInt8.toNat_inj.mp h)
        have hrefusal := refusal?_entry device.table.length offset hdata hsome
        simp only [Option.map_some, Option.elim_some]
        by_cases hfit : offset.toNat + count.toNat ≤ device.table.length
        · rw [afterEntries_of_fits hentry hzero hfit, served, execute_write hordinary]
        · rw [if_neg hfit] at hrefusal
          simp only [after, hrefusal, afterEntries, hentry]
          rw [if_neg fun h => hfit h.2]

end Device

/-! ## The whole line -/

theorem Station.hear_syncWrite {station : Station} (hquiet : station.Quiet)
    (hordinary : station.device.table.peripheral.IsOrdinary) (offset : UInt8) {count : UInt8}
    {entries : List (Id × Bytes)} (hpackable : Master.Packable 2 count entries) :
    station.hear (Master.requestWire Id.broadcast Instruction.syncWrite.code
        (offset :: count :: Master.packed entries)) =
      { station with device := station.device.afterEntries offset count entries } := by
  have hparameters := Master.length_parameters_of_packable hpackable offset
  have hexecute := Device.execute_syncWrite hordinary (offset :: count :: Master.packed entries)
  have hreply : station.device.replyTo? Id.broadcast Instruction.syncWrite.code
      (offset :: count :: Master.packed entries) = none := by
    rw [Device.replyTo?, hexecute]
    split <;> rfl
  have htold : station.device.told Id.broadcast Instruction.syncWrite.code
      (offset :: count :: Master.packed entries) =
        station.device.afterEntries offset count entries := by
    have hmeant : Id.broadcast = station.device.id ∨ Id.broadcast.isBroadcast := Or.inr rfl
    rw [Device.told, if_pos hmeant, Device.served, hexecute]
    exact Device.afterCommand_syncWrite hordinary offset hpackable.even
  rw [hear_requestWire hquiet (by decide) _ hparameters, hreply, htold, Option.elim_none,
    ← hquiet.outbox]

namespace Master

theorem afterSending_of_silent {master : Master (List Station)} {bytes : Bytes}
    (heard : Device → Device) (hquiet : ∀ station ∈ master.audience, station.Quiet)
    (hheard : ∀ station ∈ master.audience,
      station.hear bytes = { station with device := heard station.device }) :
    master.afterSending bytes = { master with
      audience := master.audience.map fun station =>
        { station with device := heard station.device }
      channel := { master.channel with outbox := master.channel.outbox ++ bytes } } := by
  have hsilent : (master.audience.flatMap fun station => (station.hear bytes).channel.outbox) =
      [] := by
    rw [List.flatMap_eq_nil_iff]
    intro station hstation
    rw [hheard station hstation]
    exact (hquiet station hstation).outbox
  have haudience : (master.audience.map fun station => (station.hear bytes).collect) =
      master.audience.map fun station => { station with device := heard station.device } := by
    refine List.map_congr_left ?_
    intro station hstation
    rw [hheard station hstation, Station.collect, Channel.collect,
      ← (hquiet station hstation).outbox]
  rw [afterSending, hsilent, haudience, List.append_nil]

/-- Entries that can be packed are sent, unless nobody is there to take them. -/
theorem syncWrite_of_packable {count : UInt8} {entries : List (Id × Bytes)}
    (hpackable : Packable 2 count entries) (master : Master (List Station)) (offset : UInt8) :
    syncWrite offset count entries master =
      if master.channel.peerPresent then
        .ok (.ok ()) (master.afterSending (requestWire Id.broadcast Instruction.syncWrite.code
          (offset :: count :: packed entries)))
      else .ok (.error (.io .channelBroken)) master := by
  rw [syncWrite, entryParameters_of_packable hpackable]
  exact send_eq master Id.broadcast Instruction.syncWrite.code
    (length_parameters_of_packable hpackable offset)

/-- Nothing is sent of entries of which some cannot be packed. -/
theorem syncWrite_refused_iff (master : Master (List Station)) (offset count : UInt8)
    (entries : List (Id × Bytes)) :
    (∃ cause, syncWrite offset count entries master = .ok (.error (.protocol cause)) master) ↔
      ¬Packable 2 count entries := by
  constructor
  · rintro ⟨cause, hrefused⟩ hpackable
    rw [syncWrite_of_packable hpackable] at hrefused
    split at hrefused
    · cases hrefused
    · cases hrefused
  · intro hpackable
    obtain ⟨cause, hcause⟩ := entryParameters_of_not_packable (by decide) hpackable
    refine ⟨cause, ?_⟩
    rw [syncWrite, hcause]
    rfl

/-- A write to many devices is refused as a whole, and nothing is sent, exactly where its entries
cannot be packed. Otherwise one frame for everyone is sent, if there is a line; on a quiet line each
device executes the write that the first entry for it stands for, and none answers. -/
theorem syncWrite_writes_each (master : Master (List Station)) (offset count : UInt8)
    (entries : List (Id × Bytes)) :
    ((∃ cause, syncWrite offset count entries master = .ok (.error (.protocol cause)) master) ↔
      ¬Packable 2 count entries) ∧
    (Packable 2 count entries → master.channel.peerPresent →
      ∃ frame : Frame, frame.id = Id.broadcast ∧ frame.command = Instruction.syncWrite.code ∧
        frame.parameters = offset :: count :: packed entries ∧
        frame.status maxParameters = .complete ∧
        (∃ after, syncWrite offset count entries master = .ok (.ok ()) after ∧
          after.channel.outbox = master.channel.outbox ++ frame.bytes) ∧
        ((∀ station ∈ master.audience,
            station.Quiet ∧ station.device.table.peripheral.IsOrdinary) →
          syncWrite offset count entries master = .ok (.ok ()) { master with
            audience := master.audience.map fun station =>
              { station with device := station.device.afterEntries offset count entries }
            channel := { master.channel with
              outbox := master.channel.outbox ++ frame.bytes } } ∧
          ∀ station ∈ master.audience, ∀ entry,
            (entries.find? fun entry => entry.1 = station.device.id) = some entry →
            count ≠ 0 → offset.toNat + count.toNat ≤ station.device.table.length →
            station.device.execute Instruction.write.code (offset :: entry.2) =
              .ok (some ⟨.noError, []⟩) (station.device.afterEntries offset count entries))) := by
  refine ⟨syncWrite_refused_iff master offset count entries, ?_⟩
  intro hpackable hpeer
  have hparameters := length_parameters_of_packable hpackable offset
  have hid : Id.broadcast ≠ Id.unusable := by decide
  have hwire := requestWire_eq_bytes hid Instruction.syncWrite.code hparameters
  have hsend := syncWrite_of_packable hpackable master offset
  rw [if_pos hpeer, hwire] at hsend
  refine ⟨_, rfl, rfl, rfl, Frame.status_sound_roomy hid _ hparameters, ⟨_, hsend, rfl⟩, ?_⟩
  intro hline
  refine ⟨?_, ?_⟩
  · rw [hsend, ← hwire]
    refine congrArg _ (afterSending_of_silent
      (fun device => device.afterEntries offset count entries) ?_ ?_)
    · exact fun station hstation => (hline station hstation).1
    · intro station hstation
      obtain ⟨hquiet, hordinary⟩ := hline station hstation
      exact Station.hear_syncWrite hquiet hordinary offset hpackable
  · intro station hstation entry hentry hcount hfit
    have hdata := hpackable.even entry (List.mem_of_find?_eq_some hentry)
    rw [Device.afterEntries_of_fits hentry hcount hfit]
    exact Device.execute_entry (hline station hstation).2 hdata hcount hfit

/-- Of two entries for a servo the first counts, and a servo without one stays. -/
theorem syncWrite_writes_each_first_entry :
    let master : Master (List Station) :=
      { audience := [Station.smallest 6, Station.smallest 7, Station.smallest 8], timeout := 100 }
    let entries : List (Id × Bytes) := [(⟨7⟩, [50]), (⟨7⟩, [60]), (⟨6⟩, [40])]
    let seven := (Station.smallest 7).device
    Packable 2 1 entries ∧ master.channel.peerPresent = true ∧
      (∀ station ∈ master.audience,
        station.Quiet ∧ station.device.table.peripheral.IsOrdinary) ∧
      (∃ frame : Frame, frame.parameters = [Offset.returnDelay, 1, 7, 50, 7, 60, 6, 40] ∧
        ∃ after, syncWrite Offset.returnDelay 1 entries master = .ok (.ok ()) after ∧
          after.channel.outbox = frame.bytes ∧ after.channel.inbox = [] ∧
          after.audience.map (fun station => station.device.table.registers.bytes) =
            [[12, 0, 1, 6, 1, 40], [12, 0, 1, 7, 1, 50], [12, 0, 1, 8, 1, 250]]) ∧
      seven.execute Instruction.write.code [Offset.returnDelay, 50] =
        .ok (some ⟨.noError, []⟩) (seven.afterEntries Offset.returnDelay 1 entries) := by
  intro master entries seven
  have hpackable : Packable 2 1 entries := ⟨by decide, by decide⟩
  have hpeer : master.channel.peerPresent = true := rfl
  have hline : ∀ station ∈ master.audience,
      station.Quiet ∧ station.device.table.peripheral.IsOrdinary := by
    intro station hstation
    simp only [master, List.mem_cons, List.not_mem_nil, or_false] at hstation
    rcases hstation with rfl | rfl | rfl
    · exact ⟨Station.quiet_smallest 6, trivial⟩
    · exact ⟨Station.quiet_smallest 7, trivial⟩
    · exact ⟨Station.quiet_smallest 8, trivial⟩
  have hbytes : (master.audience.map fun station =>
      (station.device.afterEntries Offset.returnDelay 1 entries).table.registers.bytes) =
        [[12, 0, 1, 6, 1, 40], [12, 0, 1, 7, 1, 50], [12, 0, 1, 8, 1, 250]] := by
    decide +kernel
  obtain ⟨frame, -, -, hparameters, -, -, hquiet⟩ :=
    (syncWrite_writes_each master Offset.returnDelay 1 entries).2 hpackable hpeer
  obtain ⟨hsend, hexecute⟩ := hquiet hline
  have hseven := hexecute (Station.smallest 7) (by simp [master]) (⟨7⟩, [50]) rfl (by decide)
    (by decide)
  exact ⟨hpackable, hpeer, hline, ⟨frame, hparameters, _, hsend, rfl, rfl, hbytes⟩, hseven⟩

end Master

end ServoBus
