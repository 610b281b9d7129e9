import ServoBus.Proofs.Answering

/-!
# Refused commands

A device looks at all of a command before it touches a register, so a command that it refuses is as
if it had never come. Nothing is brought up to date for a read that is refused, nothing is written
or stored for a write that is, and no peripheral learns of either, a probe included. The same holds
of a write to many devices with a head that is malformed, with no entry for the device or with one
that reaches too far, although no flags tell of it.

Main statement: `Device.refused_leaves_no_trace`.
-/

namespace ServoBus

namespace Device

/-! ## The flags of a packet -/

/-- The status flags that come of handling a packet, whether they are sent or not. -/
def flagsOf? (device : Device) (packet : Packet) (status : ParseStatus) : Option StatusFlags :=
  if packet.id = device.id ∨ packet.id.isBroadcast then
    match status with
    | .incomplete | .tooMuchData => none
    | .checksumMismatch _ _ => some .checksumError
    | .complete =>
        match device.execute packet.command packet.parameters with
        | .ok answer? _ => answer?.map Answer.flags
        | .error _ _ => none
  else none

/-- Who sent the packet learns just these flags, if it was sent to the device alone. -/
theorem flags_of_handle {device after : Device} {packet : Packet} {status : ParseStatus}
    {reply? : Option Reply} (h : device.handle packet status = .ok reply? after) :
    reply?.map (fun reply => reply.answer.flags) =
      if packet.id = device.id then device.flagsOf? packet status else none := by
  unfold flagsOf?
  cases status with
  | incomplete | tooMuchData =>
      rw [handle, bind_of_ok (get_run device)] at h
      split at h <;> cases h <;> simp
  | checksumMismatch expected received =>
      rw [handle_checksumMismatch] at h
      cases h
      by_cases hown : packet.id = device.id <;> simp [hown]
  | complete =>
      rw [handle_complete] at h
      by_cases hown : packet.id = device.id
      · simp only [hown, true_or, if_true] at h ⊢
        cases hrun : device.execute packet.command packet.parameters with
        | error fault left =>
            rw [hrun] at h
            cases h
        | ok answer? left =>
            rw [hrun] at h
            cases h
            cases answer? <;> rfl
      · rw [if_neg hown]
        simp only [if_neg hown] at h
        split at h
        · split at h <;> cases h
          rfl
        · cases h
          rfl

/-! ## Refused requests -/

theorem executeRead_of_flags_ne {parameters : Bytes} {table after : Table} {answer : Answer}
    (h : executeRead parameters table = .ok answer after) (hflags : answer.flags ≠ .noError) :
    answer = ⟨answer.flags, []⟩ ∧ after = table := by
  unfold executeRead at h
  split at h
  · next start count surplus =>
      obtain ⟨read, table₁, hget, h⟩ := exists_of_bind_eq_ok h
      cases hget
      split at h
      · obtain ⟨bytes, table₂, -, h⟩ := exists_of_bind_eq_ok h
        cases h
        exact absurd rfl hflags
      · cases h
        exact ⟨rfl, rfl⟩
  · cases h
    exact ⟨rfl, rfl⟩

/-- Whatever is behind the registers of a device, a command that it answers with an error changes
nothing, and the answer has no parameters. -/
theorem execute_of_flags_ne {command : UInt8} {parameters : Bytes} {device after : Device}
    {answer : Answer} (h : device.execute command parameters = .ok (some answer) after)
    (hflags : answer.flags ≠ .noError) : answer = ⟨answer.flags, []⟩ ∧ after = device := by
  rcases answered_of_execute h with ⟨table, hread, rfl⟩ | ⟨hdata, hdone⟩
  · obtain ⟨hanswer, rfl⟩ := executeRead_of_flags_ne hread hflags
    exact ⟨hanswer, rfl⟩
  · refine ⟨?_, hdone.resolve_left hflags⟩
    rw [← hdata]

theorem handle_of_flagsOf? {device : Device} {packet : Packet} {status : ParseStatus}
    {flags : StatusFlags} (h : device.flagsOf? packet status = some flags)
    (hflags : flags ≠ .noError) :
    device.handle packet status =
      .ok (if packet.id = device.id then some ⟨device.id, ⟨flags, []⟩⟩ else none) device := by
  unfold flagsOf? at h
  split at h
  · next hmeant =>
      cases status with
      | incomplete | tooMuchData => cases h
      | checksumMismatch expected received =>
          cases h
          exact handle_checksumMismatch device packet expected received
      | complete =>
          rw [handle_complete, if_pos hmeant]
          cases hrun : device.execute packet.command packet.parameters with
          | error fault left => simp [hrun] at h
          | ok answer? left =>
              cases answer? with
              | none => simp [hrun] at h
              | some answer =>
                  simp only [hrun, Option.map_some, Option.some.injEq] at h
                  subst h
                  obtain ⟨hanswer, rfl⟩ := execute_of_flags_ne hrun hflags
                  rw [hanswer]
                  rfl
  · cases h

/-! ## Writes to many devices -/

/-- A device does nothing about such parameters of a write to many devices. An entry is an id and as
many bytes as the head tells; a piece of an entry at the end is none. -/
inductive Disregards (device : Device) : Bytes → Prop
  | noHead {parameters : Bytes} : parameters.length < 2 → Disregards device parameters
  | noCount (start : UInt8) (entries : Bytes) : Disregards device (start :: 0 :: entries)
  | tooFar {start count : UInt8} (entries : Bytes) :
      device.table.length < start.toNat + count.toNat →
      Disregards device (start :: count :: entries)
  | noEntry (start : UInt8) {count : UInt8} {entries : Bytes} :
      (∀ place, (place + 1) * (count.toNat + 1) ≤ entries.length →
        entries[place * (count.toNat + 1)]? ≠ some device.id.byte) →
      Disregards device (start :: count :: entries)

theorem entryFor?_eq_none {id : Id} {count : Nat} {entries : Bytes}
    (h : ∀ place, (place + 1) * (count + 1) ≤ entries.length →
      entries[place * (count + 1)]? ≠ some id.byte) : entryFor? id count entries = none := by
  fun_induction entryFor? id count entries with
  | case1 => rfl
  | case2 rest hcount =>
      refine absurd ?_ (h 0 ?_)
      · simp
      · simpa using hcount
  | case3 first rest hcount hid ih =>
      -- the entries behind the first one stand one place further on
      apply ih
      intro place hplace
      have hlater := h (place + 1)
      have hindex : (place + 1) * (count + 1) = place * (count + 1) + count + 1 := by
        rw [Nat.succ_mul]
        rfl
      rw [List.length_drop] at hplace
      rw [List.getElem?_drop, Nat.add_comm]
      rw [hindex, List.getElem?_cons_succ] at hlater
      apply hlater
      rw [Nat.succ_mul, List.length_cons]
      omega
  | case4 first rest hcount => rfl

theorem executeSyncWrite_of_disregards {device : Device} {parameters : Bytes}
    (h : device.Disregards parameters) :
    executeSyncWrite device.id parameters device.table = .ok () device.table := by
  cases h with
  | noHead hlength =>
      rcases parameters with _ | ⟨start, _ | ⟨count, entries⟩⟩
      · rfl
      · rfl
      · exact absurd hlength (Nat.not_lt_of_le (Nat.le_add_left 2 _))
  | noCount start entries => rfl
  | tooFar entries hfar =>
      rw [executeSyncWrite]
      split
      · cases entryFor? device.id _ entries with
        | none => rfl
        | some data =>
            have hget : (get : TableM Table) device.table = .ok device.table device.table := rfl
            dsimp only
            rw [bind_of_ok hget, if_neg (Nat.not_le_of_lt hfar)]
            rfl
      · rfl
  | noEntry start hentries =>
      rw [executeSyncWrite, entryFor?_eq_none hentries]
      split <;> rfl

theorem handle_of_disregards {device : Device} {packet : Packet}
    (hcommand : packet.command = Instruction.syncWrite.code)
    (h : device.Disregards packet.parameters) :
    device.handle packet .complete = .ok none device := by
  have hrun : device.execute Instruction.syncWrite.code packet.parameters = .ok none device := by
    rw [execute, Instruction.ofByte?_code]
    dsimp only
    rw [bind_of_ok (get_run device),
      bind_of_ok (onTable_run (executeSyncWrite_of_disregards h))]
    rfl
  rw [handle_complete, hcommand, hrun]
  simp

/-! ## Reads and writes -/

/-- The flags of an ordinary device that reads or writes are as the rule says. -/
theorem flagsOf?_complete {device : Device} (hordinary : device.table.peripheral.IsOrdinary)
    {packet : Packet} (hmeant : packet.id = device.id ∨ packet.id.isBroadcast)
    {instruction : Instruction} (hkind : instruction = .read ∨ instruction = .write)
    (hcommand : packet.command = instruction.code) :
    device.flagsOf? packet .complete =
      some (Instruction.flagsOn device.table.length (some instruction) packet.parameters) := by
  unfold flagsOf?
  rw [if_pos hmeant, hcommand]
  dsimp only
  rcases hkind with rfl | rfl
  · rcases packet.parameters with _ | ⟨start, _ | ⟨count, surplus⟩⟩
    · rfl
    · rfl
    · rw [execute_read hordinary]
      exact congrArg some (flags_answerTo_read device start count surplus)
  · cases packet.parameters with
    | nil => rfl
    | cons start data =>
        rw [execute_write hordinary]
        exact congrArg some (flags_answerTo_write device start data)

end Device

theorem Instruction.flagsOn_read_eq_noError_iff (length : Nat) (parameters : Bytes) :
    flagsOn length (some .read) parameters = .noError ↔
      ∃ start count surplus, parameters = start :: count :: surplus ∧
        start.toNat + count.toNat ≤ length ∧ count.toNat ≤ maxParameters := by
  constructor
  · intro h
    rcases parameters with _ | ⟨start, _ | ⟨count, surplus⟩⟩
    · cases h
    · cases h
    · rw [flagsOn] at h
      split at h
      · next hfit => exact ⟨start, count, surplus, rfl, hfit⟩
      · cases h
  · rintro ⟨start, count, surplus, rfl, hfit⟩
    exact if_pos hfit

theorem Instruction.flagsOn_write_eq_noError_iff (length : Nat) (parameters : Bytes) :
    flagsOn length (some .write) parameters = .noError ↔
      ∃ start data, parameters = start :: data ∧ data ≠ [] ∧
        start.toNat + data.length ≤ length := by
  constructor
  · intro h
    rcases parameters with _ | ⟨start, _ | ⟨byte, rest⟩⟩
    · cases h
    · cases h
    · rw [flagsOn] at h
      split at h
      · next hfit => exact ⟨start, byte :: rest, rfl, List.cons_ne_nil byte rest, hfit⟩
      · cases h
  · rintro ⟨start, data, rfl, hdata, hfit⟩
    cases data with
    | nil => exact absurd rfl hdata
    | cons byte rest => exact if_pos hfit

namespace Device

/-- A packet that leads to flags of an error leaves the device as it is, with all that is behind its
registers, and the only answer is the one that tells of the error. So does a write to many devices
about which the device can do nothing. Reads and writes lead to such flags just where they lack
parameters or reach beyond the table, or where a read asks for more than a frame can have. -/
theorem refused_leaves_no_trace (device : Device) (packet : Packet) :
    (∀ status reply? after, device.handle packet status = .ok reply? after →
      reply?.map (fun reply => reply.answer.flags) =
        if packet.id = device.id then device.flagsOf? packet status else none) ∧
    (∀ status flags, device.flagsOf? packet status = some flags → flags ≠ .noError →
      device.handle packet status =
        .ok (if packet.id = device.id then some ⟨device.id, ⟨flags, []⟩⟩ else none) device) ∧
    (packet.command = Instruction.syncWrite.code → device.Disregards packet.parameters →
      device.handle packet .complete = .ok none device) ∧
    (device.table.peripheral.IsOrdinary → (packet.id = device.id ∨ packet.id.isBroadcast) →
      (packet.command = Instruction.read.code →
        ∃ flags, device.flagsOf? packet .complete = some flags ∧
          (flags = .noError ↔ ∃ start count surplus,
            packet.parameters = start :: count :: surplus ∧
            start.toNat + count.toNat ≤ device.table.length ∧ count.toNat ≤ 253)) ∧
      (packet.command = Instruction.write.code →
        ∃ flags, device.flagsOf? packet .complete = some flags ∧
          (flags = .noError ↔ ∃ start data, packet.parameters = start :: data ∧ data ≠ [] ∧
            start.toNat + data.length ≤ device.table.length))) := by
  refine ⟨fun status reply? after h => flags_of_handle h, fun status flags h hflags =>
    handle_of_flagsOf? h hflags, handle_of_disregards, ?_⟩
  intro hordinary hmeant
  refine ⟨fun hcommand => ?_, fun hcommand => ?_⟩
  · exact ⟨_, flagsOf?_complete hordinary hmeant (Or.inl rfl) hcommand,
      Instruction.flagsOn_read_eq_noError_iff ..⟩
  · exact ⟨_, flagsOf?_complete hordinary hmeant (Or.inr rfl) hcommand,
      Instruction.flagsOn_write_eq_noError_iff ..⟩

/-- Reads and writes that begin within the table and end behind it, seen by a probe that would count
the reads, and a write to many devices whose last entry is cut off. -/
theorem refused_leaves_no_trace_at_the_end :
    let device : Device := (Station.smallest 6).device
    let probed : Device := {
      table := { device.table with peripheral := .probe { countedOffset? := some 4 } }
      staged? := some ⟨0, [1]⟩ }
    let read := Packet.roomy.fill ⟨6⟩ Instruction.read.code [4, 3]
    let write := Packet.roomy.fill Id.broadcast Instruction.write.code [5, 1, 2]
    let toMany := Packet.roomy.fill Id.broadcast Instruction.syncWrite.code [0, 1, 7, 9, 6]
    (probed.flagsOf? read .complete = some .rangeError ∧ StatusFlags.rangeError ≠ .noError ∧
      probed.handle read .complete = .ok (some ⟨⟨6⟩, ⟨.rangeError, []⟩⟩) probed) ∧
    (probed.flagsOf? write .complete = some .rangeError ∧
      probed.handle write .complete = .ok none probed) ∧
    (toMany.command = Instruction.syncWrite.code ∧ probed.Disregards toMany.parameters ∧
      probed.handle toMany .complete = .ok none probed) ∧
    device.table.peripheral.IsOrdinary ∧ (read.id = device.id ∨ read.id.isBroadcast) ∧
    read.command = Instruction.read.code ∧
    ∃ flags, device.flagsOf? read .complete = some flags ∧
      (flags = .noError ↔ ∃ start count surplus,
        read.parameters = start :: count :: surplus ∧
        start.toNat + count.toNat ≤ device.table.length ∧ count.toNat ≤ 253) := by
  intro device probed read write toMany
  have hread : probed.flagsOf? read .complete = some .rangeError := by decide +kernel
  have hwrite : probed.flagsOf? write .complete = some .rangeError := by decide +kernel
  have herror : StatusFlags.rangeError ≠ .noError := by decide
  have hparameters : toMany.parameters = [0, 1, 7, 9, 6] := by decide +kernel
  have hdisregards : probed.Disregards toMany.parameters := by
    rw [hparameters]
    refine .noEntry 0 fun place hplace => ?_
    -- there is one whole entry, for another device
    have hfirst : place = 0 := by
      change (place + 1) * 2 ≤ 3 at hplace
      omega
    subst hfirst
    decide
  have hmeant : read.id = device.id ∨ read.id.isBroadcast := Or.inl rfl
  have hreadProbed := (refused_leaves_no_trace probed read).2.1
  have hwriteProbed := (refused_leaves_no_trace probed write).2.1
  have htoMany := (refused_leaves_no_trace probed toMany).2.2.1
  have hordinary := (refused_leaves_no_trace device read).2.2.2
  exact ⟨⟨hread, herror, hreadProbed _ _ hread herror⟩, ⟨hwrite, hwriteProbed _ _ hwrite herror⟩,
    ⟨rfl, hdisregards, htoMany rfl hdisregards⟩, trivial, hmeant, rfl,
    (hordinary trivial hmeant).1 rfl⟩

end Device

end ServoBus
