import ServoBus.Packet.Checked
import ServoBus.Proofs.RoundTrip

/-!
# A packet under any use

Whoever holds a packet may set its length while a frame is read into it, so the index of the next
parameter can lie before or behind the declared end. What bounds it is that a byte moves it only
while it is below the number of parameters that the length declares then, and no length declares
more than 253 (`taken_used_le`). All sums and indices stay in range on that account
(`perform_eq`).

Main statement: `Packet.bounds_of_uses`.
-/

namespace ServoBus

/-! ## Bytes and buffers -/

theorem addBytes_ofNat {left right : Nat} (h : left + right < 256) :
    addBytes (UInt8.ofNat left) (UInt8.ofNat right) = .ok (UInt8.ofNat (left + right)) := by
  have hleft : (UInt8.ofNat left).toNat = left :=
    UInt8.toNat_ofNat_of_lt' (Nat.lt_of_le_of_lt (Nat.le_add_right left right) h)
  have hright : (UInt8.ofNat right).toNat = right :=
    UInt8.toNat_ofNat_of_lt' (Nat.lt_of_le_of_lt (Nat.le_add_left right left) h)
  rw [addBytes, hleft, hright, if_pos h, UInt8.ofNat_add]

theorem byteAt_of_lt {bytes : Bytes} {index : Nat} (h : index < bytes.length) :
    byteAt bytes index = .ok bytes[index] := dif_pos h

theorem bytesBefore_of_le {bytes : Bytes} {stop : Nat} (h : stop ≤ bytes.length) :
    bytesBefore bytes stop = .ok (bytes.take stop) := if_pos h

theorem overwrite_take_length (bytes data : Bytes) :
    overwrite bytes 0 (data.take bytes.length) = overwrite bytes 0 data := by
  apply List.ext_getElem?
  intro index
  rw [getElem?_overwrite, getElem?_overwrite, Nat.sub_zero, List.getElem?_take]
  by_cases hindex : index < bytes.length
  · rw [if_pos hindex]
  · rw [List.getElem?_eq_none (Nat.le_of_not_lt hindex)]
    rfl

/-! ## Writing into a buffer -/

def Sink.toWritten (sink : Sink) : Written := ⟨sink.buffer, sink.written.length⟩

theorem Sink.put_of_full {sink : Sink} (h : sink.room = []) (bytes : Bytes) :
    sink.put bytes = sink := by
  obtain ⟨written, room⟩ := sink
  cases h
  simp [Sink.put_eq]

namespace Written

theorem push_toWritten {sink : Sink} {old : UInt8} {room : Bytes} (hroom : sink.room = old :: room)
    (byte : UInt8) :
    sink.toWritten.push byte = .ok (Sink.toWritten ⟨sink.written ++ [byte], room⟩) := by
  have hlt : sink.toWritten.length < sink.toWritten.buffer.length := by
    simp [Sink.toWritten, Sink.buffer, hroom]
  rw [push, if_pos hlt]
  simp [Sink.toWritten, Sink.buffer, hroom]

theorem full_iff (sink : Sink) :
    sink.toWritten.buffer.length ≤ sink.toWritten.length ↔ sink.room = [] := by
  rw [← List.length_eq_zero_iff]
  simp only [Sink.toWritten, Sink.buffer, List.length_append]
  omega

theorem pushAll_toWritten (sink : Sink) (bytes : Bytes) :
    sink.toWritten.pushAll bytes =
      .ok ((sink.put bytes).toWritten, decide (bytes.length ≤ sink.room.length)) := by
  induction bytes generalizing sink with
  | nil => simp [pushAll, Sink.put]
  | cons byte rest ih =>
      cases hroom : sink.room with
      | nil =>
          rw [pushAll, if_pos ((full_iff sink).mpr hroom), Sink.put_of_full hroom]
          rfl
      | cons old room =>
          have hfull : ¬sink.toWritten.buffer.length ≤ sink.toWritten.length := by
            rw [full_iff, hroom]
            exact List.cons_ne_nil old room
          have hput : sink.put (byte :: rest) = Sink.put ⟨sink.written ++ [byte], room⟩ rest := by
            rw [Sink.put, hroom]
          rw [pushAll, if_neg hfull, push_toWritten hroom, hput]
          change pushAll (Sink.toWritten ⟨sink.written ++ [byte], room⟩) rest = _
          rw [ih]
          simp

end Written

namespace Packet

theorem pushParameters_toWritten (packet : Packet) (sink : Sink) (index count : Nat) :
    packet.pushParameters sink.toWritten index count =
      .ok ((sink.put ((packet.storage.drop index).take count)).toWritten,
        decide (count ≤ sink.room.length ∧ (count = 0 ∨ index + count ≤ packet.capacity))) := by
  induction count generalizing sink index with
  | zero => simp [pushParameters, Sink.put]
  | succ count ih =>
      by_cases hstop : packet.capacity ≤ index ∨
          sink.toWritten.buffer.length ≤ sink.toWritten.length
      · have hput : sink.put ((packet.storage.drop index).take (count + 1)) = sink := by
          rcases hstop with hindex | hfull
          · rw [List.drop_eq_nil_of_le hindex, List.take_nil, Sink.put]
          · exact Sink.put_of_full ((Written.full_iff sink).mp hfull) _
        have hnot : ¬(count + 1 ≤ sink.room.length ∧
            (count + 1 = 0 ∨ index + (count + 1) ≤ packet.capacity)) := by
          rcases hstop with hindex | hfull
          · omega
          · rw [(Written.full_iff sink).mp hfull]
            simp
        rw [pushParameters, if_pos hstop, hput, decide_eq_false hnot]
      · rw [pushParameters, if_neg hstop]
        rw [not_or, Written.full_iff] at hstop
        obtain ⟨hindex, hroom⟩ := hstop
        have hlt : index < packet.storage.length := Nat.lt_of_not_le hindex
        obtain ⟨old, room, hroom⟩ := List.exists_cons_of_ne_nil hroom
        rw [byteAt_of_lt hlt, List.drop_eq_getElem_cons hlt, List.take_succ_cons]
        let later := (packet.storage.drop (index + 1)).take count
        have hput : sink.put (packet.storage[index] :: later) =
            Sink.put ⟨sink.written ++ [packet.storage[index]], room⟩ later := by
          rw [Sink.put, hroom]
        change (sink.toWritten.push packet.storage[index] >>= fun longer =>
          packet.pushParameters longer (index + 1) count) = _
        rw [Written.push_toWritten hroom, hput]
        change packet.pushParameters (Sink.toWritten _) (index + 1) count = _
        rw [ih, hroom]
        have hcapacity : packet.capacity = packet.storage.length := rfl
        congr 3
        simp only [List.length_cons, eq_iff_iff]
        omega

/-- Written with checked indices, a packet leaves the same buffer, as full as it was. -/
theorem writeToChecked_eq (packet : Packet) (buffer : Bytes) :
    packet.writeToChecked buffer = .ok (packet.writeTo buffer).toWritten := by
  let headed := (Sink.ofBuffer buffer).put packet.header
  let filled := headed.put packet.parameters
  have hheaded : (Written.mk buffer 0).pushAll packet.header =
      .ok (headed.toWritten, decide (packet.header.length ≤ buffer.length)) :=
    Written.pushAll_toWritten (Sink.ofBuffer buffer) packet.header
  have hfilled : packet.pushParameters headed.toWritten 0 packet.parameterCount =
      .ok (filled.toWritten, decide (packet.parameterCount ≤ headed.room.length ∧
        (packet.parameterCount = 0 ∨ 0 + packet.parameterCount ≤ packet.capacity))) :=
    packet.pushParameters_toWritten headed 0 packet.parameterCount
  have hwriteTo : packet.writeTo buffer =
      if packet.parameterCount ≤ packet.capacity then filled.put [packet.checksum] else filled :=
    rfl
  have hunchecked : filled.room = [] → packet.writeTo buffer = filled := by
    intro hroom
    rw [hwriteTo, Sink.put_of_full hroom, ite_self]
  rw [writeToChecked, hheaded]
  simp only [bind, Except.bind, hfilled, decide_eq_true_eq, Written.pushAll_toWritten]
  by_cases hheader : packet.header.length ≤ buffer.length
  · rw [if_pos hheader]
    split
    · next hwhole => rw [hwriteTo, if_pos (by omega)]
    · next hpart =>
        by_cases hcount : packet.parameterCount ≤ packet.capacity
        · -- the buffer was full before the last parameter
          have hlength : headed.room.length ≤ packet.parameters.length := by
            rw [length_parameters]
            omega
          have hroom : filled.room = [] := by
            change (headed.put packet.parameters).room = []
            rw [Sink.put_eq]
            exact List.drop_eq_nil_of_le hlength
          rw [hunchecked hroom]
        · rw [hwriteTo, if_neg hcount]
  · have hroom : headed.room = [] := by
      change ((Sink.ofBuffer buffer).put packet.header).room = []
      rw [Sink.put_eq]
      exact List.drop_eq_nil_of_le (Nat.le_of_not_le hheader)
    have hfilled : filled = headed := Sink.put_of_full hroom packet.parameters
    rw [if_neg hheader, hunchecked (by rw [hfilled, hroom]), hfilled]

/-! ## One use -/

theorem parametersChecked_eq (packet : Packet) :
    packet.parametersChecked = .ok packet.parameters := by
  have hle : min packet.parameterCount packet.capacity ≤ packet.storage.length :=
    Nat.min_le_right _ _
  rw [parametersChecked, bytesBefore_of_le hle, parameters, capacity, ← List.take_eq_take_min]

theorem setStored_of_lt {packet : Packet} {index : Nat} (h : index < packet.capacity)
    (byte : UInt8) :
    packet.setStored index byte = .ok { packet with
      storage := packet.storage.set index byte
      storage_le := by simpa using packet.storage_le } := if_pos h

theorem takeParameterChecked_eq {packet : Packet} (htaken : packet.taken < maxParameters)
    (byte : UInt8) : packet.takeParameterChecked byte = .ok (packet.takeParameter byte) := by
  have hlt : packet.taken + 1 < 256 := by
    simp only [maxParameters] at htaken
    omega
  have hsum : addBytes (UInt8.ofNat packet.taken) 1 = .ok (UInt8.ofNat (packet.taken + 1)) :=
    addBytes_ofNat hlt
  have hnext : (UInt8.ofNat (packet.taken + 1)).toNat = packet.taken + 1 :=
    UInt8.toNat_ofNat_of_lt' hlt
  rw [takeParameterChecked, hsum]
  by_cases hroom : packet.taken < packet.capacity
  · rw [if_pos hroom, setStored_of_lt hroom]
    simp only [bind, Except.bind, hnext]
    rfl
  · have hstorage : packet.storage.set packet.taken byte = packet.storage :=
      List.set_eq_of_length_le (Nat.le_of_not_lt hroom)
    rw [if_neg hroom]
    simp only [bind, Except.bind, hnext, takeParameter, hstorage]

theorem acceptChecked_eq (packet : Packet) (byte : UInt8) :
    packet.acceptChecked byte = .ok (packet.accept byte) := by
  rw [acceptChecked]
  split
  · next h =>
      have htaken : packet.taken < maxParameters :=
        Nat.lt_of_lt_of_le h.2 packet.parameterCount_le
      rw [takeParameterChecked_eq htaken, accept_parameter h.1 h.2]
      rfl
  · rfl

theorem setParameterCountChecked_eq (packet : Packet) (count : Nat) :
    packet.setParameterCountChecked count = .ok (packet.setParameterCount count) := by
  have hcapacity := packet.capacity_le
  have hlt : 2 + min count packet.capacity < 256 := by
    simp only [maxParameters] at hcapacity
    omega
  have hsum : addBytes 2 (UInt8.ofNat (min count packet.capacity)) =
      .ok (UInt8.ofNat (2 + min count packet.capacity)) := addBytes_ofNat hlt
  rw [setParameterCountChecked, hsum]
  rfl

theorem storeFrom_eq (packet : Packet) (index : Nat) (data : Bytes)
    (h : index + data.length ≤ packet.capacity) :
    packet.storeFrom index data = .ok { packet with
      storage := overwrite packet.storage index data
      storage_le := by simpa using packet.storage_le } := by
  induction data generalizing packet index with
  | nil => simp [storeFrom]
  | cons byte data ih =>
      rw [List.length_cons] at h
      rw [storeFrom, setStored_of_lt (by omega)]
      simp only [bind, Except.bind]
      rw [ih _ (index + 1) (by simp only [capacity, List.length_set] at h ⊢; omega)]
      simp only [overwrite_set_succ]

theorem setParametersChecked_eq (packet : Packet) (data : Bytes) :
    packet.setParametersChecked data = .ok (packet.setParameters data) := by
  have hkept : data.take (min data.length packet.capacity) = data.take packet.storage.length := by
    rw [Nat.min_comm, capacity, ← List.take_eq_take_min]
  have hfits : 0 + (data.take packet.storage.length).length ≤ packet.capacity := by
    rw [List.length_take, capacity]
    omega
  rw [setParametersChecked, bytesBefore_of_le (Nat.min_le_left _ _), hkept]
  simp only [bind, Except.bind, storeFrom_eq packet 0 _ hfits, setParameterCountChecked_eq,
    overwrite_take_length]
  simp [setParameterCount, setParameters, capacity]

variable {capacity : Nat}

/-- No use of a packet meets a sum or an index out of range. -/
theorem perform_eq {packet : Packet} (hcapacity : packet.capacity = capacity)
    (use : Use capacity) : packet.perform use = .ok (packet.used use) := by
  subst hcapacity
  cases use with
  | accept byte => rw [perform, acceptChecked_eq, used]; rfl
  | setId id => rfl
  | setCommand command => rfl
  | setFlags flags => rfl
  | setParameters data => exact packet.setParametersChecked_eq data
  | setParameterCount count => exact packet.setParameterCountChecked_eq count
  | setStored index byte => exact setStored_of_lt index.isLt byte
  | updateChecksum => rw [perform, updateChecksumChecked, parametersChecked_eq]; rfl
  | writeTo buffer => rw [perform, writeToChecked_eq]; rfl
  | reset => rfl

theorem capacity_used (packet : Packet) (use : Use capacity) :
    (packet.used use).capacity = packet.capacity := by
  cases use with
  | accept byte => exact packet.capacity_accept byte
  | setParameters data => exact packet.capacity_setParameters data
  | setStored index byte => exact List.length_set
  | setId | setCommand | setFlags | setParameterCount | updateChecksum | writeTo | reset => rfl

/-- A byte moves the index only while a length declares parameters behind it. -/
theorem taken_accept_le {packet : Packet} (h : packet.taken ≤ maxParameters) (byte : UInt8) :
    (packet.accept byte).1.taken ≤ maxParameters := by
  cases hstate : packet.state with
  | idle | firstSync | idRead => simpa only [accept, hstate] using h
  | secondSync =>
      simp only [accept, hstate]
      split <;> exact h
  | lengthRead =>
      simp only [accept, hstate]
      exact Nat.zero_le _
  | inBody =>
      simp only [accept, hstate]
      split
      · next htaken => exact Nat.le_trans htaken packet.parameterCount_le
      · exact h

theorem taken_used_le {packet : Packet} (h : packet.taken ≤ maxParameters) (use : Use capacity) :
    (packet.used use).taken ≤ maxParameters := by
  cases use with
  | accept byte => exact taken_accept_le h byte
  | setId | setCommand | setFlags | setParameters | setParameterCount | setStored
  | updateChecksum | writeTo | reset => exact h

/-! ## Any uses -/

theorem capacity_usedAll (packet : Packet) (uses : List (Use capacity)) :
    (packet.usedAll uses).capacity = packet.capacity := by
  induction uses generalizing packet with
  | nil => rfl
  | cons use uses ih => exact (ih (packet.used use)).trans (packet.capacity_used use)

theorem taken_usedAll_le {packet : Packet} (h : packet.taken ≤ maxParameters)
    (uses : List (Use capacity)) : (packet.usedAll uses).taken ≤ maxParameters := by
  induction uses generalizing packet with
  | nil => exact h
  | cons use uses ih => exact ih (taken_used_le h use)

theorem performAll_eq {packet : Packet} (hcapacity : packet.capacity = capacity)
    (uses : List (Use capacity)) : packet.performAll uses = .ok (packet.usedAll uses) := by
  induction uses generalizing packet with
  | nil => rfl
  | cons use uses ih =>
      have hnext : (packet.used use).capacity = capacity :=
        (packet.capacity_used use).trans hcapacity
      rw [performAll, perform_eq hcapacity]
      exact ih hnext

/-- Uses that leave the fields alone come to the bytes heard since some point outside of a frame:
the beginning, or the last reset. -/
theorem exists_heard_of_leavesFields (start : Packet) {syncs : Nat}
    (hsyncs : start.state.syncs? = some syncs) (heard : Bytes) {uses : List (Use capacity)}
    (h : ∀ use ∈ uses, use.leavesFields) :
    ∃ (begun : Packet) (count : Nat) (front since : Bytes),
      begun.state.syncs? = some count ∧ begun.capacity = start.capacity ∧
      (start.acceptAll heard).usedAll uses = begun.acceptAll since ∧
      List.replicate syncs syncByte ++ (heard ++ uses.filterMap Use.heard?) =
        front ++ (List.replicate count syncByte ++ since) := by
  induction uses generalizing start syncs heard with
  | nil => exact ⟨start, syncs, [], heard, hsyncs, rfl, rfl, by simp⟩
  | cons use uses ih =>
      obtain ⟨huse, huses⟩ := List.forall_mem_cons.mp h
      cases use with
      | accept byte =>
          obtain ⟨begun, count, front, since, hbegun, hcapacity, hafter, hbytes⟩ :=
            ih start hsyncs (heard ++ [byte]) huses
          rw [acceptAll_append] at hafter
          refine ⟨begun, count, front, since, hbegun, hcapacity, hafter, ?_⟩
          rw [← hbytes, List.append_assoc]
          rfl
      | writeTo buffer => exact ih start hsyncs heard huses
      | reset =>
          obtain ⟨begun, count, front, since, hbegun, hcapacity, hafter, hbytes⟩ :=
            ih (start.acceptAll heard).reset rfl [] huses
          refine ⟨begun, count, List.replicate syncs syncByte ++ heard ++ front, since, hbegun,
            hcapacity.trans (start.capacity_acceptAll heard), hafter, ?_⟩
          rw [List.replicate_zero, List.nil_append, List.nil_append] at hbytes
          rw [List.append_assoc, ← hbytes, List.append_assoc]
          rfl
      | setId | setCommand | setFlags | setParameters | setParameterCount | setStored
      | updateChecksum => exact absurd huse Bool.false_ne_true

theorem getElem?_reports_last (packet : Packet) (front : Bytes) (byte : UInt8) :
    (packet.reports (front ++ [byte]))[front.length]? =
      some ((packet.acceptAll front).accept byte) := by
  have hle : (packet.reports front).length ≤ front.length := Nat.le_of_eq (length_reports _ _)
  rw [reports_append, List.getElem?_append_right hle, length_reports, Nat.sub_self]
  rfl

/-- A packet stays in its bounds under any use, in the middle of a frame or outside: its sums fit
into bytes, its indices stay inside the storage, and as many parameters can be seen as are both
declared and stored. A frame to which the holder left the fields, from some sync byte on, is judged
by its checksum first and by the storage next. -/
theorem bounds_of_uses {storage : Bytes} (hstorage : storage.length ≤ 253)
    (uses : List (Use storage.length)) :
    ∃ packet after, ofStorage storage = .ok packet ∧ packet.performAll uses = .ok after ∧
      after = packet.usedAll uses ∧ after.taken ≤ 253 ∧ after.capacity = storage.length ∧
      after.parametersChecked = .ok after.parameters ∧
      after.parameters.length = min after.parameterCount storage.length ∧
      ∀ (count : Nat) (during : List (Use storage.length)) (byte : UInt8) (ended : Packet)
        (status : ParseStatus), after.state.syncs? = some count →
        (∀ use ∈ during, use.leavesFields) →
        (after.usedAll during).acceptChecked byte = .ok (ended, status) →
        status ≠ .incomplete →
        ∃ (frame : Frame) (front : Bytes),
          List.replicate count 0xFF ++ (during.filterMap Use.heard? ++ [byte]) =
            front ++ frame.bytes ∧
          ended.parameterCount = frame.parameters.length ∧ ended.capacity = storage.length ∧
          status = if frame.expected ≠ frame.received then
              .checksumMismatch frame.expected frame.received
            else if storage.length < ended.parameterCount then .tooMuchData
            else .complete := by
  let packet : Packet := { storage, storage_le := hstorage }
  have hpacket : packet.capacity = storage.length := rfl
  have hcapacity : (packet.usedAll uses).capacity = storage.length := packet.capacity_usedAll uses
  refine ⟨packet, packet.usedAll uses, dif_pos hstorage, performAll_eq hpacket uses, rfl,
    taken_usedAll_le (Nat.zero_le _) uses, hcapacity, parametersChecked_eq _, ?_, ?_⟩
  · rw [length_parameters, hcapacity]
  · intro count during byte ended status hcount hduring haccept hdone
    obtain ⟨begun, syncs, earlier, since, hsyncs, hbegun, hafter, hheard⟩ :=
      exists_heard_of_leavesFields (packet.usedAll uses) hcount [] hduring
    have hused : (packet.usedAll uses).usedAll during = begun.acceptAll since := hafter
    have hreport : (begun.reports (since ++ [byte]))[since.length]? = some (ended, status) := by
      rw [acceptChecked_eq, hused] at haccept
      rw [getElem?_reports_last]
      exact congrArg some (Except.ok.inj haccept)
    obtain ⟨frame, front, before, -, hfront, rfl, hbefore, rfl⟩ :=
      exists_frame_of_report hsyncs hreport hdone
    have hall : (since ++ [byte]).take (since.length + 1) = since ++ [byte] :=
      List.take_of_length_le (by simp)
    rw [hall] at hfront
    refine ⟨frame, earlier ++ front, ?_, parameterCount_loaded before frame, ?_, ?_⟩
    · calc
        List.replicate count syncByte ++ (during.filterMap Use.heard? ++ [byte])
          = List.replicate count syncByte ++ ([] ++ during.filterMap Use.heard?) ++ [byte] := by
            rw [List.nil_append, List.append_assoc]
        _ = earlier ++ (List.replicate syncs syncByte ++ (since ++ [byte])) := by
            rw [hheard, List.append_assoc, List.append_assoc]
        _ = earlier ++ front ++ frame.bytes := by rw [hfront, List.append_assoc]
    · rw [capacity_loaded, hbefore, hbegun, hcapacity]
    · rw [hbegun, hcapacity, parameterCount_loaded]
      rfl

/-- A frame with as many parameters as a length can declare is given up in its body, with the index
far behind the length that was set meanwhile. The next frame has one parameter too many; that the
packet is written out in its middle does not matter. -/
theorem bounds_of_uses_mid_frame :
    let storage : Bytes := [0]
    let uses : List (Use storage.length) :=
      ([0xFF, 0xFF, 0x01, 0xFF, 0x03] ++ List.replicate 253 0x07 : Bytes).map Use.accept ++
        [.setParameterCount 9, .setStored ⟨0, by decide⟩ 4, .reset]
    let during : List (Use storage.length) :=
      ([0xFF, 0xFF, 0x06, 0x04] : Bytes).map Use.accept ++ .writeTo [0, 0, 0] ::
        ([0x01, 0x08, 0x09] : Bytes).map Use.accept
    storage.length ≤ 253 ∧ (∀ use ∈ during, use.leavesFields) ∧
      ∃ packet after ended, ofStorage storage = .ok packet ∧ packet.performAll uses = .ok after ∧
        after.taken = 253 ∧ after.parameterCount = 1 ∧ after.state.syncs? = some 0 ∧
        (after.usedAll during).acceptChecked 0xE3 = .ok (ended, .tooMuchData) ∧
        after.taken ≤ 253 ∧ after.capacity = storage.length ∧
        after.parameters.length = min after.parameterCount storage.length ∧
        ∃ (frame : Frame) (front : Bytes),
          during.filterMap Use.heard? ++ [0xE3] = front ++ frame.bytes ∧
          ended.parameterCount = frame.parameters.length ∧ ended.capacity = storage.length ∧
          ParseStatus.tooMuchData = if frame.expected ≠ frame.received then
              .checksumMismatch frame.expected frame.received
            else if storage.length < ended.parameterCount then .tooMuchData
            else .complete := by
  intro storage uses during
  have hstorage : storage.length ≤ 253 := by decide
  have hduring : ∀ use ∈ during, use.leavesFields := by decide
  obtain ⟨packet, after, hpacket, hafter, rfl, htaken, hcapacity, -, hlength, hframe⟩ :=
    bounds_of_uses hstorage uses
  cases hpacket
  let packet : Packet := { storage, storage_le := by decide }
  let ended : Packet :=
    { storage := [8], id := ⟨6⟩, length := 4, command := 1, taken := 2, checksum := 0xE3
      storage_le := by decide }
  have hsyncs : (packet.usedAll uses).state.syncs? = some 0 := by decide +kernel
  have haccept : ((packet.usedAll uses).usedAll during).accept 0xE3 = (ended, .tooMuchData) := by
    decide +kernel
  have hended : ((packet.usedAll uses).usedAll during).acceptChecked 0xE3 =
      .ok (ended, .tooMuchData) := by rw [acceptChecked_eq, haccept]
  exact ⟨hstorage, hduring, packet, packet.usedAll uses, ended, rfl, hafter, by decide +kernel,
    by decide +kernel, hsyncs, hended, htaken, hcapacity, hlength,
    hframe 0 during 0xE3 ended .tooMuchData hsyncs hduring hended (by decide)⟩

end Packet

end ServoBus
