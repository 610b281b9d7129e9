import ServoBus.Packet.Wire
import ServoBus.Proofs.Framing

/-!
# Writing and reading frames

What a filled packet writes is read back as it was, by any packet outside a frame; what any packet
has read, it writes as it came.

Both rest on `Frame.bytes`: the serializer writes it (`fullForm_fill`, `fullForm_loaded`), and the
grammar finds it in a stream (`Frame.next?_bytes`, `Frame.exists_append_of_next?`).
-/

namespace ServoBus

/-! ## Frames among other bytes -/

namespace Frame

theorem behindSync?_replicate (count : Nat) (bytes : Bytes) :
    behindSync? (List.replicate count syncByte ++ syncByte :: syncByte :: bytes) =
      some (List.replicate count syncByte ++ bytes) := by
  match count with
  | 0 => simp [behindSync?]
  | 1 => simp [behindSync?]
  | count + 2 =>
      have hcomm : List.replicate count syncByte ++ syncByte :: syncByte :: bytes =
          List.replicate (count + 2) syncByte ++ bytes := by
        rw [List.replicate_succ', List.replicate_succ']
        simp
      simp [List.replicate_succ, behindSync?, hcomm]

theorem ofFields?_replicate (count : Nat) (bytes : Bytes) :
    ofFields? (List.replicate count syncByte ++ bytes) = ofFields? bytes := by
  induction count with
  | zero => rfl
  | succ count ih => simp [List.replicate_succ, ofFields?, ih]

theorem ofFields?_append (frame : Frame) (rest : Bytes) :
    ofFields? (frame.id.byte :: frame.length :: frame.command ::
      (frame.parameters ++ frame.received :: rest)) = some (frame, rest) := by
  have hid : frame.id.byte ≠ syncByte := by
    intro h
    apply frame.id_ne_unusable
    rw [Id.unusable, ← syncByte, ← h]
  have hcount := frame.length_parameters
  have hbody : frame.length.toNat - 2 < (frame.parameters ++ frame.received :: rest).length := by
    simp only [List.length_append, List.length_cons]
    omega
  rw [ofFields?, dif_neg hid]
  simp only [dif_pos hbody]
  simp [← hcount]

/-- A frame is found behind any number of sync bytes. -/
theorem next?_bytes (count : Nat) (frame : Frame) (rest : Bytes) :
    next? (List.replicate count syncByte ++ (frame.bytes ++ rest)) = some (frame, rest) := by
  have hbytes : frame.bytes ++ rest = syncByte :: syncByte :: frame.id.byte :: frame.length ::
      frame.command :: (frame.parameters ++ frame.received :: rest) := by
    simp [bytes]
  rw [next?, hbytes, behindSync?_replicate, Option.bind_some, ofFields?_replicate,
    ofFields?_append]

theorem exists_append_of_behindSync? {bytes body : Bytes} (h : behindSync? bytes = some body) :
    ∃ front, bytes = front ++ syncByte :: syncByte :: body := by
  induction bytes with
  | nil => simp [behindSync?] at h
  | cons first tail ih =>
      cases tail with
      | nil => simp [behindSync?] at h
      | cons second rest =>
          rw [behindSync?] at h
          split at h
          · next hsync =>
              cases h
              exact ⟨[], by rw [hsync.1, hsync.2, List.nil_append]⟩
          · obtain ⟨front, hfront⟩ := ih h
            exact ⟨first :: front, by rw [hfront, List.cons_append]⟩

theorem exists_append_of_ofFields? {body rest : Bytes} {frame : Frame}
    (h : ofFields? body = some (frame, rest)) :
    ∃ count, body = List.replicate count syncByte ++ (frame.bytes.drop 2 ++ rest) := by
  induction body with
  | nil => simp [ofFields?] at h
  | cons id fields ih =>
      rw [ofFields?] at h
      split at h
      · next hid =>
          obtain ⟨count, hcount⟩ := ih h
          exact ⟨count + 1, by rw [hcount, hid, List.replicate_succ, List.cons_append]⟩
      · split at h
        · next length command body =>
            split at h
            · next hbody =>
                cases h
                refine ⟨0, ?_⟩
                simp only [bytes, List.replicate_zero, List.nil_append, List.cons_append,
                  List.drop_succ_cons, List.drop_zero, List.append_assoc]
                rw [← List.drop_eq_getElem_cons hbody, List.take_append_drop]
            · cases h
        · cases h

/-- A frame that is found stands in the stream as it is, right before the bytes left over. -/
theorem exists_append_of_next? {bytes rest : Bytes} {frame : Frame}
    (h : next? bytes = some (frame, rest)) : ∃ front, bytes = front ++ (frame.bytes ++ rest) := by
  obtain ⟨body, hbody, hfields⟩ := Option.bind_eq_some_iff.mp h
  obtain ⟨front, hfront⟩ := exists_append_of_behindSync? hbody
  obtain ⟨count, hcount⟩ := exists_append_of_ofFields? hfields
  -- sync bytes in excess come before the two that belong to the frame
  refine ⟨front ++ List.replicate count syncByte, ?_⟩
  have hcomm : syncByte :: syncByte :: List.replicate count syncByte =
      List.replicate count syncByte ++ [syncByte, syncByte] := by
    rw [← List.replicate_succ, ← List.replicate_succ, List.replicate_succ', List.replicate_succ']
    simp
  rw [hfront, hcount]
  calc
    front ++ syncByte :: syncByte :: (List.replicate count syncByte ++ (frame.bytes.drop 2 ++ rest))
      = front ++ ((syncByte :: syncByte :: List.replicate count syncByte) ++
          (frame.bytes.drop 2 ++ rest)) := by simp
    _ = front ++ List.replicate count syncByte ++ (frame.bytes ++ rest) := by
        rw [hcomm]
        simp [Frame.bytes]

theorem exists_take_of_mem_splitFrom {start index : Nat} {bytes : Bytes} {frame : Frame}
    (h : (index, frame) ∈ splitFrom start bytes) :
    start ≤ index ∧ ∃ front, bytes.take (index + 1 - start) = front ++ frame.bytes := by
  induction hlength : bytes.length using Nat.strongRecOn generalizing start bytes with
  | ind length ih =>
      cases hnext : next? bytes with
      | none => simp [splitFrom_of_none start hnext] at h
      | some found =>
          obtain ⟨first, rest⟩ := found
          have hrest := length_next? hnext
          obtain ⟨front, hfront⟩ := exists_append_of_next? hnext
          have hbytes := congrArg List.length hfront
          simp only [List.length_append] at hbytes
          rw [splitFrom_of_some start hnext] at h
          rcases List.mem_cons.mp h with heq | hlater
          · cases heq
            refine ⟨by omega, front, ?_⟩
            have hstop : start + (bytes.length - rest.length) - 1 + 1 - start =
                (front ++ frame.bytes).length := by
              rw [List.length_append]
              omega
            rw [hstop, hfront, ← List.append_assoc, List.take_left]
          · obtain ⟨hle, later, hlater⟩ := ih rest.length (by omega) hlater rfl
            refine ⟨by omega, front ++ first.bytes ++ later, ?_⟩
            have hstop : index + 1 - start = (front ++ first.bytes).length +
                (index + 1 - (start + (bytes.length - rest.length))) := by
              rw [List.length_append]
              omega
            generalize index + 1 - (start + (bytes.length - rest.length)) = gap at hstop hlater
            rw [hstop, hfront, ← List.append_assoc, List.take_length_add_append, hlater]
            simp only [List.append_assoc]

end Frame

namespace Packet

/-! ## Packets outside a frame -/

theorem loaded_reset (packet : Packet) (frame : Frame) :
    packet.reset.loaded frame = packet.loaded frame := rfl

theorem reports_replicate {packet : Packet} {count : Nat}
    (hcount : packet.state.syncs? = some count) (bytes : Bytes) :
    ∃ front : List (Packet × ParseStatus), front.length = count ∧
      (∀ report ∈ front, report.2 = .incomplete) ∧
      packet.reset.reports (List.replicate count syncByte ++ bytes) =
        front ++ packet.reports bytes := by
  obtain ⟨storage, state, id, length, command, taken, checksum, storage_le⟩ := packet
  cases state with
  | idle =>
      cases hcount
      exact ⟨[], rfl, by simp, rfl⟩
  | firstSync =>
      cases hcount
      refine ⟨_ :: [], rfl, ?_, rfl⟩
      simp [accept, reset]
  | secondSync =>
      cases hcount
      refine ⟨_ :: _ :: [], rfl, ?_, rfl⟩
      simp [accept, reset]
  | idRead | lengthRead | inBody => cases hcount

theorem takeFrame_replicate {packet : Packet} {count : Nat}
    (hcount : packet.state.syncs? = some count) (bytes : Bytes) :
    packet.reset.takeFrame (List.replicate count syncByte ++ bytes) = packet.takeFrame bytes := by
  obtain ⟨storage, state, id, length, command, taken, checksum, storage_le⟩ := packet
  cases state with
  | idle | firstSync | secondSync =>
      cases hcount
      rfl
  | idRead | lengthRead | inBody => cases hcount

/-- A packet outside a frame reads a whole frame. -/
theorem takeFrame_bytes {packet : Packet} {count : Nat}
    (hcount : packet.state.syncs? = some count) (frame : Frame) (rest : Bytes) :
    packet.takeFrame (frame.bytes ++ rest) =
      ⟨packet.loaded frame, frame.status packet.capacity, rest⟩ := by
  have hnext := Frame.next?_bytes count frame rest
  have htake := takeFrame_of_next?_eq_some (rfl : packet.reset.state = .idle) hnext
  rw [takeFrame_replicate hcount, loaded_reset] at htake
  exact htake

theorem reports_bytes {packet : Packet} {count : Nat}
    (hcount : packet.state.syncs? = some count) (frame : Frame) :
    ∃ front, packet.reports frame.bytes =
        front ++ [(packet.loaded frame, frame.status packet.capacity)] ∧
      ∀ report ∈ front, report.2 = .incomplete := by
  have htake := takeFrame_bytes hcount frame []
  rw [List.append_nil] at htake
  have hdone : (packet.takeFrame frame.bytes).status ≠ .incomplete := by
    rw [htake]
    exact frame.status_ne_incomplete packet.capacity
  obtain ⟨front, last, -, hfront, hreports⟩ := reports_of_done packet frame.bytes hdone
  rw [htake] at hreports
  exact ⟨packet.reports front, hreports, hfront⟩

/-! ## What a filled packet writes -/

theorem capacity_fill (packet : Packet) (id : Id) (command : UInt8) (data : Bytes) :
    (packet.fill id command data).capacity = packet.capacity := length_overwrite _ _ _

theorem parameterCount_fill (packet : Packet) (id : Id) (command : UInt8) (data : Bytes) :
    (packet.fill id command data).parameterCount = min data.length packet.capacity :=
  declared_ofNat (Nat.le_trans (Nat.min_le_right _ _) packet.capacity_le)

theorem parameters_fill (packet : Packet) (id : Id) (command : UInt8) (data : Bytes) :
    (packet.fill id command data).parameters = data.take packet.capacity := by
  rw [parameters, parameterCount_fill]
  change (overwrite packet.storage 0 data).take (min data.length packet.storage.length) = _
  have hall : (overwrite packet.storage 0 data).take packet.storage.length =
      overwrite packet.storage 0 data := List.take_of_length_le (by simp)
  rw [← List.take_take, hall, take_overwrite_zero]
  rfl

theorem length_take_capacity_le (packet : Packet) (data : Bytes) :
    (data.take packet.capacity).length ≤ maxParameters := by
  have hcapacity := packet.capacity_le
  rw [List.length_take]
  omega

theorem fullForm_fill (packet : Packet) (id : Id) (hid : id ≠ Id.unusable) (command : UInt8)
    (data : Bytes) :
    (packet.fill id command data).fullForm =
      (Frame.sound id hid command (data.take packet.capacity)
        (packet.length_take_capacity_le data)).bytes := by
  have hcount : (packet.fill id command data).parameterCount ≤
      (packet.fill id command data).capacity := by
    rw [parameterCount_fill, capacity_fill]
    exact Nat.min_le_right _ _
  have hlength : (packet.fill id command data).length =
      UInt8.ofNat (2 + (data.take packet.capacity).length) := by
    rw [List.length_take, Nat.min_comm]
    rfl
  have hchecksum : (packet.fill id command data).checksum =
      ServoBus.checksum id (packet.fill id command data).length command
        (packet.fill id command data).parameters := rfl
  rw [fullForm, if_pos hcount, header, hchecksum, parameters_fill, hlength]
  rfl

/-- A packet that has read a frame for which it has storage writes it as it came. -/
theorem fullForm_loaded (packet : Packet) (frame : Frame)
    (h : frame.parameters.length ≤ packet.capacity) :
    (packet.loaded frame).fullForm = frame.bytes := by
  have hcount : (packet.loaded frame).parameterCount ≤ (packet.loaded frame).capacity := by
    rw [parameterCount_loaded, capacity_loaded]
    exact h
  rw [fullForm, if_pos hcount, parameters_loaded, List.take_of_length_le h]
  rfl

/-! ## There and back -/

theorem reports_written (sender receiver : Packet) {count : Nat}
    (hreceiver : receiver.state.syncs? = some count) {id : Id} (hid : id ≠ Id.unusable)
    (command : UInt8) (data : Bytes) :
    ∃ front after, receiver.reports (sender.fill id command data).fullForm =
        front ++ [(after, if min data.length sender.capacity ≤ receiver.capacity then .complete
          else .tooMuchData)] ∧
      (∀ report ∈ front, report.2 = .incomplete) ∧
      after.id = id ∧ after.command = command ∧
      after.length = (sender.fill id command data).length ∧
      after.checksum = (sender.fill id command data).checksum ∧
      after.parameters = data.take (min (min data.length sender.capacity) receiver.capacity) := by
  let frame := Frame.sound id hid command (data.take sender.capacity)
    (sender.length_take_capacity_le data)
  obtain ⟨front, hreports, hfront⟩ := reports_bytes hreceiver frame
  have hlength : (sender.fill id command data).length = frame.length := by
    change UInt8.ofNat (2 + min data.length sender.capacity) =
      UInt8.ofNat (2 + (data.take sender.capacity).length)
    rw [List.length_take, Nat.min_comm]
  have hstatus : frame.status receiver.capacity =
      if min data.length sender.capacity ≤ receiver.capacity then .complete else .tooMuchData := by
    rw [Frame.status_sound, List.length_take, Nat.min_comm]
    by_cases hroom : min data.length sender.capacity ≤ receiver.capacity
    · rw [if_pos hroom, if_neg (by omega)]
    · rw [if_neg hroom, if_pos (by omega)]
  have hchecksum : (sender.fill id command data).checksum = frame.received := by
    change ServoBus.checksum id (sender.fill id command data).length command
      (sender.fill id command data).parameters = _
    rw [hlength, parameters_fill]
    rfl
  refine ⟨front, receiver.loaded frame, ?_, hfront, rfl, rfl, hlength.symm, hchecksum.symm, ?_⟩
  · rw [fullForm_fill sender id hid command data, hreports, hstatus]
  · rw [parameters_loaded]
    change (data.take sender.capacity).take receiver.capacity = _
    rw [List.take_take, List.take_eq_take_iff]
    omega

/-- A frame that ends stands in the stream up to the byte that ends it, and the packet has read
it. -/
theorem exists_frame_of_report {packet : Packet} {count : Nat}
    (hcount : packet.state.syncs? = some count) {bytes : Bytes} {index : Nat} {after : Packet}
    {status : ParseStatus} (hreport : (packet.reports bytes)[index]? = some (after, status))
    (hdone : status ≠ .incomplete) :
    ∃ frame front before,
      (count + index, frame) ∈ Frame.split (List.replicate count syncByte ++ bytes) ∧
      List.replicate count syncByte ++ bytes.take (index + 1) = front ++ frame.bytes ∧
      after = loaded before frame ∧ before.capacity = packet.capacity ∧
      status = frame.status packet.capacity := by
  -- the stream as a packet in its first state would have seen it
  let stream := List.replicate count syncByte ++ bytes
  obtain ⟨seen, hseen, -, hreports⟩ := reports_replicate hcount bytes
  have hreport' : (packet.reset.reports stream)[count + index]? = some (after, status) := by
    rw [hreports, List.getElem?_append_right (by omega), hseen, Nat.add_sub_cancel_left]
    exact hreport
  have hmem : (0 + (count + index), after, status) ∈ finishedFrom 0 packet.reset stream :=
    mem_finishedFrom hreport' hdone
  rw [Nat.zero_add, finishedFrom_eq_replay 0 rfl stream] at hmem
  obtain ⟨frame, before, hframe, hafter, hcapacity, hstatus⟩ := exists_of_mem_replay hmem
  obtain ⟨-, front, hfront⟩ := Frame.exists_take_of_mem_splitFrom hframe
  refine ⟨frame, front, before, hframe, ?_, hafter, hcapacity, hstatus⟩
  rw [← hfront, Nat.sub_zero, Nat.add_assoc]
  have hlength : (List.replicate count syncByte).length = count := List.length_replicate
  have hsyncs : (List.replicate count syncByte).take (count + (index + 1)) =
      List.replicate count syncByte := List.take_of_length_le (by omega)
  rw [List.take_append, hlength, Nat.add_sub_cancel_left, hsyncs]

theorem written_of_report {packet : Packet} {count : Nat}
    (hcount : packet.state.syncs? = some count) {bytes : Bytes} {index : Nat} {after : Packet}
    {status : ParseStatus} (hreport : (packet.reports bytes)[index]? = some (after, status))
    (hdone : status ≠ .incomplete) (hroom : after.parameterCount ≤ after.capacity) :
    ∃ frame front,
      (count + index, frame) ∈ Frame.split (List.replicate count syncByte ++ bytes) ∧
      List.replicate count syncByte ++ bytes.take (index + 1) = front ++ frame.bytes ∧
      after.fullForm = frame.bytes := by
  obtain ⟨frame, front, before, hframe, hfront, hafter, -, -⟩ :=
    exists_frame_of_report hcount hreport hdone
  refine ⟨frame, front, hframe, hfront, ?_⟩
  rw [hafter] at hroom ⊢
  rw [parameterCount_loaded, capacity_loaded] at hroom
  exact fullForm_loaded before frame hroom

/-- Writing and reading undo each other. What a filled packet writes is read, by any packet outside
a frame, as the frame that it was filled with; and a packet that has read a frame for which it has
storage, sound or not, writes the bytes of that frame as they stand in the stream. -/
theorem written_reports_inverse :
    (∀ (sender : Packet) (id : Id) (command : UInt8) (data buffer : Bytes), id ≠ Id.unusable →
      let sent := sender.fill id command data
      let count := min data.length sender.capacity
      sent.frameLength ≤ buffer.length →
      sent.frameLength = 6 + count ∧
      (sent.writeTo buffer).written.length = sent.frameLength ∧
      (sent.writeTo buffer).room = buffer.drop sent.frameLength ∧
      ∀ (receiver : Packet) (syncs : Nat), receiver.state.syncs? = some syncs →
        ∃ front after, receiver.reports (sent.writeTo buffer).written =
            front ++ [(after, if count ≤ receiver.capacity then .complete else .tooMuchData)] ∧
          (∀ report ∈ front, report.2 = .incomplete) ∧
          after.id = id ∧ after.command = command ∧ after.length = sent.length ∧
          after.checksum = sent.checksum ∧
          after.parameters = data.take (min count receiver.capacity)) ∧
    ∀ (packet : Packet) (syncs : Nat) (bytes : Bytes) (index : Nat) (after : Packet)
      (status : ParseStatus), packet.state.syncs? = some syncs →
      (packet.reports bytes)[index]? = some (after, status) → status ≠ .incomplete →
      after.parameterCount ≤ after.capacity →
      ∃ frame front,
        (syncs + index, frame) ∈ Frame.split (List.replicate syncs syncByte ++ bytes) ∧
        List.replicate syncs syncByte ++ bytes.take (index + 1) = front ++ frame.bytes ∧
        ∀ buffer : Bytes, frame.bytes.length ≤ buffer.length →
          (after.writeTo buffer).written = frame.bytes ∧
          (after.writeTo buffer).room = buffer.drop frame.bytes.length := by
  refine ⟨?_, ?_⟩
  · intro sender id command data buffer hid sent count hbuffer
    have hframe : sent.frameLength = 6 + count :=
      congrArg (6 + ·) (parameterCount_fill sender id command data)
    have hroom : sent.parameterCount ≤ sent.capacity := by
      rw [parameterCount_fill, capacity_fill]
      exact Nat.min_le_right _ _
    have hlength := length_fullForm hroom
    have hwritten : (sent.writeTo buffer).written = sent.fullForm :=
      written_writeTo sent (by omega)
    refine ⟨hframe, ?_, ?_, ?_⟩
    · rw [hwritten, hlength]
    · rw [writeTo_eq, hlength]
    · intro receiver syncs hsyncs
      rw [hwritten]
      exact reports_written sender receiver hsyncs hid command data
  · intro packet syncs bytes index after status hsyncs hreport hdone hroom
    obtain ⟨frame, front, hframe, hfront, hform⟩ :=
      written_of_report hsyncs hreport hdone hroom
    refine ⟨frame, front, hframe, hfront, fun buffer hbuffer => ⟨?_, ?_⟩⟩
    · rw [written_writeTo after (by rw [hform]; exact hbuffer), hform]
    · rw [writeTo_eq, hform]

/-- A packet in mid-frame is filled with more than it has storage for and read, behind one sync
byte, by a packet with less; a frame whose length is too small for any parameters is read by a
packet without storage. -/
theorem written_reports_inverse_corners :
    let sender : Packet := { storage := [7, 7], state := .inBody, storage_le := by decide }
    let receiver : Packet := { storage := [9], state := .firstSync, storage_le := by decide }
    let sent := sender.fill ⟨0xFE⟩ 0x03 [0xFF, 0xFF, 0x05]
    let buffer : Bytes := List.replicate 9 0
    let parser : Packet := { storage := [], state := .secondSync, storage_le := by decide }
    let after : Packet := { parser with
      state := .idle, id := ⟨5⟩, length := 1, command := 1, checksum := 0xF8 }
    (⟨0xFE⟩ ≠ Id.unusable ∧ sent.frameLength ≤ buffer.length ∧
      receiver.state.syncs? = some 1 ∧
      ∃ front after, receiver.reports (sent.writeTo buffer).written =
          front ++ [(after, .tooMuchData)] ∧
        (∀ report ∈ front, report.2 = .incomplete) ∧ after.id = ⟨0xFE⟩ ∧
        after.command = 0x03 ∧ after.length = sent.length ∧ after.checksum = sent.checksum ∧
        after.parameters = [0xFF]) ∧
    (parser.reports [0x05, 0x01, 0x01, 0xF8])[3]? = some (after, .complete) ∧
    after.parameterCount ≤ after.capacity ∧
    ∃ frame front, (2 + 3, frame) ∈ Frame.split ([0xFF, 0xFF] ++ [0x05, 0x01, 0x01, 0xF8]) ∧
      [0xFF, 0xFF] ++ [0x05, 0x01, 0x01, 0xF8] = front ++ frame.bytes ∧
      ∀ buffer : Bytes, frame.bytes.length ≤ buffer.length →
        (after.writeTo buffer).written = frame.bytes ∧
        (after.writeTo buffer).room = buffer.drop frame.bytes.length := by
  refine ⟨⟨by decide, by decide, rfl, ?_⟩, by decide, by decide, ?_⟩
  · exact (written_reports_inverse.1 _ _ _ _ _ (by decide) (by decide)).2.2.2 _ 1 rfl
  · exact written_reports_inverse.2 { storage := [], state := .secondSync, storage_le := by decide }
      2 _ 3 _ .complete rfl (by decide) (by decide) (by decide)

end Packet

end ServoBus
