import ServoBus.Packet.Frame

/-!
# The parser and the grammar

A packet that takes a stream byte by byte finishes exactly the frames into which the grammar splits
the stream, at the same bytes and with the same contents.

The step is `takeFrame_of_next?_eq_some`: up to the end of the first frame the parser goes through
the sync bytes, the fields and the body as the grammar does.
-/

namespace ServoBus

namespace Packet

/-! ## Behind the fields -/

/-- The verdict on a frame whose parameters are all taken. -/
def verdict (packet : Packet) (received : UInt8) : ParseStatus :=
  if ~~~packet.checksum ≠ received then .checksumMismatch (~~~packet.checksum) received
  else if packet.capacity < packet.taken then .tooMuchData
  else .complete

theorem accept_checksum {packet : Packet} (hstate : packet.state = .inBody)
    (htaken : packet.taken = packet.parameterCount) (received : UInt8) :
    packet.accept received =
      ({ packet with state := .idle, checksum := received }, packet.verdict received) := by
  simp only [accept, hstate, htaken, Nat.lt_irrefl, if_false, finish, verdict]
  by_cases hsum : ~~~packet.checksum = received
  · by_cases hroom : packet.capacity < packet.parameterCount
    · simp [hsum, hroom]
    · simp [hsum, hroom]
  · simp [hsum]

theorem verdict_ne_incomplete (packet : Packet) (received : UInt8) :
    packet.verdict received ≠ .incomplete := by
  unfold verdict
  split
  · simp
  · split <;> simp

theorem accept_parameter {packet : Packet} (hstate : packet.state = .inBody)
    (htaken : packet.taken < packet.parameterCount) (byte : UInt8) :
    packet.accept byte = (packet.takeParameter byte, .incomplete) := by
  simp [accept, hstate, htaken]

def takeParameters (packet : Packet) (data : Bytes) : Packet :=
  { packet with
    storage := overwrite packet.storage packet.taken data
    checksum := packet.checksum + byteSum data
    taken := packet.taken + data.length
    storage_le := by simpa using packet.storage_le }

theorem takeParameters_cons (packet : Packet) (byte : UInt8) (data : Bytes) :
    (packet.takeParameter byte).takeParameters data = packet.takeParameters (byte :: data) := by
  simp [takeParameter, takeParameters, overwrite_set_succ, UInt8.add_assoc, Nat.add_comm,
    Nat.add_left_comm]

/-- In the body the parser takes what is still declared, then judges. -/
theorem takeFrame_body {packet : Packet} (hstate : packet.state = .inBody) (data : Bytes)
    (hdata : packet.taken + data.length = packet.parameterCount) (received : UInt8)
    (rest : Bytes) :
    packet.takeFrame (data ++ received :: rest) =
      ⟨{ packet.takeParameters data with state := .idle, checksum := received },
        (packet.takeParameters data).verdict received, rest⟩ := by
  induction data generalizing packet with
  | nil =>
      have haccept := accept_checksum hstate (by simpa using hdata) received
      have hnone : packet.takeParameters [] = packet := by simp [takeParameters]
      have hdone : (packet.accept received).2 ≠ .incomplete := by
        rw [haccept]
        exact verdict_ne_incomplete packet received
      rw [hnone, List.nil_append, takeFrame_cons_of_done rest hdone, haccept]
  | cons byte data ih =>
      simp only [List.length_cons] at hdata
      have haccept := accept_parameter hstate (by omega) byte
      have hincomplete : (packet.accept byte).2 = .incomplete := by rw [haccept]
      rw [List.cons_append, takeFrame_cons_of_incomplete _ hincomplete, haccept,
        ← takeParameters_cons]
      refine ih hstate ?_
      change packet.taken + 1 + data.length = packet.parameterCount
      omega

theorem takeFrame_body_short {packet : Packet} (hstate : packet.state = .inBody) (data : Bytes)
    (hdata : packet.taken + data.length ≤ packet.parameterCount) :
    (packet.takeFrame data).status = .incomplete := by
  induction data generalizing packet with
  | nil => rfl
  | cons byte data ih =>
      simp only [List.length_cons] at hdata
      have haccept := accept_parameter hstate (by omega) byte
      have hincomplete : (packet.accept byte).2 = .incomplete := by rw [haccept]
      rw [takeFrame_cons_of_incomplete _ hincomplete, haccept]
      refine ih hstate ?_
      change packet.taken + 1 + data.length ≤ packet.parameterCount
      omega

/-! ## The fields -/

/-- The packet once id, length and command are read. -/
def opened (packet : Packet) (id : Id) (length command : UInt8) : Packet :=
  { packet with
    state := .inBody, id, length, command, taken := 0
    checksum := id.byte + length + command }

theorem takeFrame_fields {packet : Packet} (hstate : packet.state = .secondSync) {id : UInt8}
    (hid : id ≠ syncByte) (length command : UInt8) (body : Bytes) :
    packet.takeFrame (id :: length :: command :: body) =
      (packet.opened ⟨id⟩ length command).takeFrame body := by
  simp [takeFrame, accept, hstate, hid, opened]

theorem takeFrame_skip {packet : Packet} (hstate : packet.state = .secondSync) (bytes : Bytes) :
    packet.takeFrame (syncByte :: bytes) = packet.takeFrame bytes := by
  simp [takeFrame, accept, hstate]

theorem loaded_eq (packet : Packet) (frame : Frame) :
    { (packet.opened frame.id frame.length frame.command).takeParameters frame.parameters with
      state := .idle, checksum := frame.received } = packet.loaded frame := by
  simp [opened, takeParameters, loaded]

theorem verdict_eq_status (packet : Packet) (frame : Frame) :
    ((packet.opened frame.id frame.length frame.command).takeParameters
      frame.parameters).verdict frame.received = frame.status packet.capacity := by
  have htaken : ((packet.opened frame.id frame.length frame.command).takeParameters
      frame.parameters).taken = frame.parameters.length := Nat.zero_add _
  have hcapacity : ((packet.opened frame.id frame.length frame.command).takeParameters
      frame.parameters).capacity = packet.capacity := length_overwrite _ _ _
  rw [verdict, htaken, hcapacity]
  rfl

/-- Behind its sync bytes a frame is read as the grammar reads it. -/
theorem takeFrame_of_ofFields?_eq_some {packet : Packet} (hstate : packet.state = .secondSync)
    {bytes rest : Bytes} {frame : Frame} (h : Frame.ofFields? bytes = some (frame, rest)) :
    packet.takeFrame bytes = ⟨packet.loaded frame, frame.status packet.capacity, rest⟩ := by
  induction bytes with
  | nil => simp [Frame.ofFields?] at h
  | cons id fields ih =>
      rw [Frame.ofFields?] at h
      split at h
      · next hid =>
          rw [hid, takeFrame_skip hstate]
          exact ih h
      · next hid =>
          split at h
          · next length command body =>
              split at h
              · next hbody =>
                  have hsplit : body = body.take (length.toNat - 2) ++
                      body[length.toNat - 2] :: body.drop (length.toNat - 2 + 1) := by
                    rw [← List.drop_eq_getElem_cons hbody, List.take_append_drop]
                  have hcount : (packet.opened ⟨id⟩ length command).taken +
                      (body.take (length.toNat - 2)).length =
                        (packet.opened ⟨id⟩ length command).parameterCount := by
                    rw [List.length_take_of_le (Nat.le_of_lt hbody)]
                    exact Nat.zero_add _
                  have hbodyFrame := takeFrame_body (rfl : (packet.opened ⟨id⟩ length
                    command).state = .inBody) _ hcount body[length.toNat - 2]
                    (body.drop (length.toNat - 2 + 1))
                  rw [← hsplit] at hbodyFrame
                  cases h
                  rw [takeFrame_fields hstate hid, hbodyFrame, ← loaded_eq, ← verdict_eq_status]
              · cases h
          · cases h

theorem takeFrame_of_ofFields?_eq_none {packet : Packet} (hstate : packet.state = .secondSync)
    {bytes : Bytes} (h : Frame.ofFields? bytes = none) :
    (packet.takeFrame bytes).status = .incomplete := by
  induction bytes with
  | nil => rfl
  | cons id fields ih =>
      rw [Frame.ofFields?] at h
      split at h
      · next hid =>
          rw [hid, takeFrame_skip hstate]
          exact ih h
      · next hid =>
          split at h
          · next length command body =>
              split at h
              · cases h
              · next hbody =>
                  rw [takeFrame_fields hstate hid]
                  refine takeFrame_body_short rfl body ?_
                  change 0 + body.length ≤ length.toNat - 2
                  omega
          · next hshort =>
              -- one or two bytes: the parser still waits for the length or the command
              rcases fields with _ | ⟨length, _ | ⟨command, body⟩⟩
              · simp [takeFrame, accept, hstate, hid]
              · simp [takeFrame, accept, hstate, hid]
              · exact absurd rfl (hshort length command body)

/-! ## The sync bytes -/

theorem accept_noise {packet : Packet} (hidle : packet.state = .idle) {byte : UInt8}
    (hbyte : byte ≠ syncByte) : packet.accept byte = (packet, .incomplete) := by
  obtain ⟨storage, state, id, length, command, taken, checksum, storage_le⟩ := packet
  cases hidle
  simp [accept, hbyte]

theorem takeFrame_noise {packet : Packet} (hidle : packet.state = .idle) {byte : UInt8}
    (hbyte : byte ≠ syncByte) (bytes : Bytes) :
    packet.takeFrame (byte :: bytes) = packet.takeFrame bytes := by
  simp [takeFrame, accept_noise hidle hbyte]

theorem takeFrame_sync_sync {packet : Packet} (hidle : packet.state = .idle) (bytes : Bytes) :
    packet.takeFrame (syncByte :: syncByte :: bytes) =
      { packet with state := .secondSync }.takeFrame bytes := by
  simp [takeFrame, accept, hidle]

theorem takeFrame_sync_noise {packet : Packet} (hidle : packet.state = .idle) {byte : UInt8}
    (hbyte : byte ≠ syncByte) (bytes : Bytes) :
    packet.takeFrame (syncByte :: byte :: bytes) = packet.takeFrame bytes := by
  obtain ⟨storage, state, id, length, command, taken, checksum, storage_le⟩ := packet
  cases hidle
  simp [takeFrame, accept, hbyte]

theorem takeFrame_of_behindSync?_eq_some {packet : Packet} (hidle : packet.state = .idle)
    {bytes body : Bytes} (h : Frame.behindSync? bytes = some body) :
    packet.takeFrame bytes = { packet with state := .secondSync }.takeFrame body := by
  induction bytes with
  | nil => simp [Frame.behindSync?] at h
  | cons first tail ih =>
      cases tail with
      | nil => simp [Frame.behindSync?] at h
      | cons second rest =>
          rw [Frame.behindSync?] at h
          split at h
          · next hsync =>
              cases h
              rw [hsync.1, hsync.2, takeFrame_sync_sync hidle]
          · next hsync =>
              have hrest := ih h
              by_cases hfirst : first = syncByte
              · have hsecond : second ≠ syncByte := fun hs => hsync ⟨hfirst, hs⟩
                rw [hfirst, takeFrame_sync_noise hidle hsecond, ← hrest,
                  takeFrame_noise hidle hsecond]
              · rw [takeFrame_noise hidle hfirst, hrest]

theorem takeFrame_of_behindSync?_eq_none {packet : Packet} (hidle : packet.state = .idle)
    {bytes : Bytes} (h : Frame.behindSync? bytes = none) :
    (packet.takeFrame bytes).status = .incomplete := by
  induction bytes with
  | nil => rfl
  | cons first tail ih =>
      cases tail with
      | nil => simp [takeFrame, accept, hidle]
      | cons second rest =>
          rw [Frame.behindSync?] at h
          split at h
          · cases h
          · next hsync =>
              have hrest := ih h
              by_cases hfirst : first = syncByte
              · have hsecond : second ≠ syncByte := fun hs => hsync ⟨hfirst, hs⟩
                rw [hfirst, takeFrame_sync_noise hidle hsecond, ← takeFrame_noise hidle hsecond]
                exact hrest
              · rw [takeFrame_noise hidle hfirst]
                exact hrest

/-! ## Whole frames -/

/-- Up to the end of the first frame of a stream the parser reads what the grammar finds. -/
theorem takeFrame_of_next?_eq_some {packet : Packet} (hidle : packet.state = .idle)
    {bytes rest : Bytes} {frame : Frame} (h : Frame.next? bytes = some (frame, rest)) :
    packet.takeFrame bytes = ⟨packet.loaded frame, frame.status packet.capacity, rest⟩ := by
  obtain ⟨body, hbody, hfields⟩ := Option.bind_eq_some_iff.mp h
  have hsync : { packet with state := .secondSync }.state = .secondSync := rfl
  rw [takeFrame_of_behindSync?_eq_some hidle hbody, takeFrame_of_ofFields?_eq_some hsync hfields]
  rfl

theorem takeFrame_of_next?_eq_none {packet : Packet} (hidle : packet.state = .idle)
    {bytes : Bytes} (h : Frame.next? bytes = none) :
    (packet.takeFrame bytes).status = .incomplete := by
  cases hbody : Frame.behindSync? bytes with
  | none => exact takeFrame_of_behindSync?_eq_none hidle hbody
  | some body =>
      rw [takeFrame_of_behindSync?_eq_some hidle hbody]
      refine takeFrame_of_ofFields?_eq_none rfl ?_
      simpa [Frame.next?, hbody] using h

/-! ## Streams -/

/-- Only a checksum byte ends a frame, and the parser is outside of any frame then. -/
theorem state_accept_of_done {packet : Packet} {byte : UInt8}
    (h : (packet.accept byte).2 ≠ .incomplete) : (packet.accept byte).1.state = .idle := by
  cases hstate : packet.state with
  | idle | firstSync | idRead | lengthRead => simp [accept, hstate] at h
  | secondSync =>
      by_cases hsync : byte = syncByte <;> simp [accept, hstate, hsync] at h
  | inBody =>
      by_cases hbody : packet.taken < packet.parameterCount
      · simp [accept, hstate, hbody] at h
      · simp [accept, hstate, hbody, finish]

theorem state_takeFrame {packet : Packet} {bytes : Bytes}
    (h : (packet.takeFrame bytes).status ≠ .incomplete) :
    (packet.takeFrame bytes).packet.state = .idle := by
  induction bytes generalizing packet with
  | nil => exact absurd rfl h
  | cons byte rest ih =>
      by_cases hincomplete : (packet.accept byte).2 = .incomplete
      · rw [takeFrame_cons_of_incomplete rest hincomplete] at h ⊢
        exact ih h
      · rw [takeFrame_cons_of_done rest hincomplete]
        exact state_accept_of_done hincomplete

theorem acceptAll_append (packet : Packet) (front back : Bytes) :
    packet.acceptAll (front ++ back) = (packet.acceptAll front).acceptAll back :=
  List.foldl_append

theorem reports_append (packet : Packet) (front back : Bytes) :
    packet.reports (front ++ back) =
      packet.reports front ++ (packet.acceptAll front).reports back := by
  induction front generalizing packet with
  | nil => rfl
  | cons byte front ih => exact congrArg ((packet.accept byte) :: ·) (ih (packet.accept byte).1)

@[simp] theorem capacity_accept (packet : Packet) (byte : UInt8) :
    (packet.accept byte).1.capacity = packet.capacity := by
  unfold accept
  split
  · rfl
  · rfl
  · split <;> rfl
  · rfl
  · rfl
  · split
    · simp [takeParameter, capacity]
    · rfl

@[simp] theorem capacity_acceptAll (packet : Packet) (bytes : Bytes) :
    (packet.acceptAll bytes).capacity = packet.capacity := by
  induction bytes generalizing packet with
  | nil => rfl
  | cons byte bytes ih => exact (ih _).trans (capacity_accept packet byte)

@[simp] theorem length_reports (packet : Packet) (bytes : Bytes) :
    (packet.reports bytes).length = bytes.length := by
  induction bytes generalizing packet with
  | nil => rfl
  | cons byte bytes ih => simp [reports, ih]

/-- A frame ends with the first byte whose report is not incomplete. -/
theorem reports_of_done (packet : Packet) (bytes : Bytes)
    (h : (packet.takeFrame bytes).status ≠ .incomplete) :
    ∃ front last, bytes = front ++ last :: (packet.takeFrame bytes).rest ∧
      (∀ report ∈ packet.reports front, report.2 = .incomplete) ∧
      packet.reports bytes = packet.reports front ++
        ((packet.takeFrame bytes).packet, (packet.takeFrame bytes).status) ::
          (packet.takeFrame bytes).packet.reports (packet.takeFrame bytes).rest := by
  induction bytes generalizing packet with
  | nil => exact absurd rfl h
  | cons byte bytes ih =>
      by_cases hbyte : (packet.accept byte).2 = .incomplete
      · rw [takeFrame_cons_of_incomplete bytes hbyte] at h ⊢
        obtain ⟨front, last, hbytes, hfront, hreports⟩ := ih _ h
        refine ⟨byte :: front, last, ?_, ?_, ?_⟩
        · rw [List.cons_append, ← hbytes]
        · intro report hreport
          rcases List.mem_cons.mp hreport with rfl | hreport
          · exact hbyte
          · exact hfront report hreport
        · rw [reports, reports, hreports, List.cons_append]
      · rw [takeFrame_cons_of_done bytes hbyte]
        exact ⟨[], byte, rfl, by simp [reports], rfl⟩

theorem reports_of_incomplete (packet : Packet) (bytes : Bytes)
    (h : (packet.takeFrame bytes).status = .incomplete) :
    ∀ report ∈ packet.reports bytes, report.2 = .incomplete := by
  induction bytes generalizing packet with
  | nil => simp [reports]
  | cons byte bytes ih =>
      by_cases hbyte : (packet.accept byte).2 = .incomplete
      · rw [takeFrame_cons_of_incomplete bytes hbyte] at h
        intro report hreport
        rcases List.mem_cons.mp hreport with rfl | hreport
        · exact hbyte
        · exact ih _ h report hreport
      · rw [takeFrame_cons_of_done bytes hbyte] at h
        exact absurd h hbyte

theorem finishedFrom_eq_nil (start : Nat) {packet : Packet} {bytes : Bytes}
    (h : ∀ report ∈ packet.reports bytes, report.2 = .incomplete) :
    finishedFrom start packet bytes = [] := by
  rw [finishedFrom, List.map_eq_nil_iff, List.filter_eq_nil_iff]
  intro entry hentry
  have hmem := List.fst_mem_of_mem_zipIdx hentry
  simp [ParseStatus.isDone, h entry.1 hmem]

theorem finishedFrom_of_incomplete (start : Nat) (packet : Packet) {bytes : Bytes}
    (h : (packet.takeFrame bytes).status = .incomplete) :
    finishedFrom start packet bytes = [] :=
  finishedFrom_eq_nil start (reports_of_incomplete packet bytes h)

theorem finishedFrom_append (start : Nat) (packet : Packet) (front back : Bytes) :
    finishedFrom start packet (front ++ back) =
      finishedFrom start packet front ++
        finishedFrom (start + front.length) (packet.acceptAll front) back := by
  simp only [finishedFrom, reports_append, List.zipIdx_append, List.filter_append, List.map_append,
    length_reports]

theorem finishedFrom_of_done (start : Nat) (packet : Packet) {bytes : Bytes}
    (h : (packet.takeFrame bytes).status ≠ .incomplete) :
    let taken := packet.takeFrame bytes
    let stop := start + (bytes.length - taken.rest.length)
    finishedFrom start packet bytes =
      (stop - 1, taken.packet, taken.status) :: finishedFrom stop taken.packet taken.rest := by
  obtain ⟨front, last, hbytes, hfront, hreports⟩ := reports_of_done packet bytes h
  have hlength := congrArg List.length hbytes
  simp only [List.length_append, List.length_cons] at hlength
  have hstop : start + (bytes.length - (packet.takeFrame bytes).rest.length) =
      start + front.length + 1 := by omega
  have hnone : ((packet.reports front).zipIdx start).filter
      (fun entry => entry.1.2.isDone) = [] := by
    rw [List.filter_eq_nil_iff]
    intro entry hentry
    have hmem := List.fst_mem_of_mem_zipIdx hentry
    simp [ParseStatus.isDone, hfront entry.1 hmem]
  have hdone : (packet.takeFrame bytes).status.isDone = true := by simp [ParseStatus.isDone, h]
  dsimp only
  rw [hstop, finishedFrom, hreports, List.zipIdx_append, List.filter_append, hnone,
    List.zipIdx_cons, List.filter_cons_of_pos (by exact hdone), length_reports]
  rfl

/-- A packet outside a frame finishes the frames of the grammar, one after another. -/
theorem finishedFrom_eq_replay (start : Nat) {packet : Packet} (hidle : packet.state = .idle)
    (bytes : Bytes) :
    finishedFrom start packet bytes = packet.replay (Frame.splitFrom start bytes) := by
  induction hlength : bytes.length using Nat.strongRecOn generalizing start packet bytes with
  | ind length ih =>
      cases hnext : Frame.next? bytes with
      | none =>
          rw [Frame.splitFrom_of_none start hnext, replay]
          exact finishedFrom_of_incomplete start packet (takeFrame_of_next?_eq_none hidle hnext)
      | some found =>
          obtain ⟨frame, rest⟩ := found
          have htake := takeFrame_of_next?_eq_some hidle hnext
          have hdone : (packet.takeFrame bytes).status ≠ .incomplete := by
            rw [htake]
            exact frame.status_ne_incomplete packet.capacity
          have hrest := Frame.length_next? hnext
          rw [Frame.splitFrom_of_some start hnext, replay, finishedFrom_of_done start packet hdone,
            htake]
          congr 1
          exact ih rest.length (by omega) _ rfl rest rfl

theorem mem_finishedFrom {start index : Nat} {packet : Packet} {bytes : Bytes}
    {report : Packet × ParseStatus} (hreport : (packet.reports bytes)[index]? = some report)
    (hdone : report.2 ≠ .incomplete) :
    (start + index, report) ∈ finishedFrom start packet bytes := by
  refine List.mem_map.mpr ⟨(report, start + index), List.mem_filter.mpr ⟨?_, ?_⟩, rfl⟩
  · exact List.mk_add_mem_zipIdx_iff_getElem?.mpr hreport
  · simp [ParseStatus.isDone, hdone]

theorem map_fst_replay (packet : Packet) (frames : List (Nat × Frame)) :
    (packet.replay frames).map Prod.fst = frames.map Prod.fst := by
  induction frames generalizing packet with
  | nil => rfl
  | cons entry frames ih => simp [replay, ih]

theorem map_report_replay (packet : Packet) (frames : List (Nat × Frame)) :
    (packet.replay frames).map report = frames.map (Frame.report packet.capacity) := by
  induction frames generalizing packet with
  | nil => rfl
  | cons entry frames ih =>
      have hrest := ih (packet.loaded entry.2)
      rw [capacity_loaded] at hrest
      simp only [replay, List.map_cons, hrest, report, Frame.report, parameters_loaded]
      rfl

theorem takes_replay (packet : Packet) (frames : List (Nat × Frame)) {place index : Nat}
    {frame : Frame} {before after : Packet} (hframe : frames[place]? = some (index, frame))
    (hbefore : (packet :: (packet.replay frames).map (·.2.1))[place]? = some before)
    (hafter : (packet :: (packet.replay frames).map (·.2.1))[place + 1]? = some after) :
    before.Takes frame after := by
  induction frames generalizing packet place with
  | nil => simp at hframe
  | cons entry frames ih =>
      cases place with
      | zero =>
          simp only [List.getElem?_cons_zero, Option.some.injEq] at hframe hbefore
          simp only [replay, List.map_cons, List.getElem?_cons_succ, List.getElem?_cons_zero,
            Option.some.injEq, hframe] at hafter
          subst hbefore hafter
          exact takes_loaded packet frame
      | succ place =>
          simp only [List.getElem?_cons_succ, replay, List.map_cons] at hframe hbefore hafter
          exact ih (packet.loaded entry.2) hframe hbefore hafter

theorem exists_of_mem_replay {packet : Packet} {frames : List (Nat × Frame)} {index : Nat}
    {after : Packet} {status : ParseStatus} (h : (index, after, status) ∈ packet.replay frames) :
    ∃ frame before, (index, frame) ∈ frames ∧ after = loaded before frame ∧
      before.capacity = packet.capacity ∧ status = frame.status packet.capacity := by
  induction frames generalizing packet with
  | nil => simp [replay] at h
  | cons entry frames ih =>
      rcases List.mem_cons.mp h with heq | hlater
      · cases heq
        exact ⟨entry.2, packet, List.mem_cons_self, rfl, rfl, rfl⟩
      · obtain ⟨frame, before, hframe, hafter, hcapacity, hstatus⟩ := ih hlater
        rw [capacity_loaded] at hcapacity hstatus
        exact ⟨frame, before, List.mem_cons_of_mem _ hframe, hafter, hcapacity, hstatus⟩

/-- A packet outside a frame finishes the frames of the grammar, in their order, at their last
bytes and with their contents; every other byte is reported as incomplete. Each frame acts on the
packet as the one before it left it, and on nothing but the storage that it fills. -/
theorem finished_eq_split {packet : Packet} (hidle : packet.state = .idle) (bytes : Bytes) :
    (packet.finished bytes).map report =
      (Frame.split bytes).map (Frame.report packet.capacity) ∧
    (∀ place index frame before after, (Frame.split bytes)[place]? = some (index, frame) →
      (packet :: (packet.finished bytes).map (·.2.1))[place]? = some before →
      (packet :: (packet.finished bytes).map (·.2.1))[place + 1]? = some after →
      before.Takes frame after) ∧
    ∀ index report, (packet.reports bytes)[index]? = some report →
      index ∉ (Frame.split bytes).map Prod.fst → report.2 = .incomplete := by
  have hreplay : packet.finished bytes = packet.replay (Frame.split bytes) :=
    finishedFrom_eq_replay 0 hidle bytes
  refine ⟨?_, ?_, ?_⟩
  · rw [hreplay]
    exact map_report_replay packet (Frame.split bytes)
  · intro place index frame before after hframe hbefore hafter
    rw [hreplay] at hbefore hafter
    exact takes_replay packet (Frame.split bytes) hframe hbefore hafter
  · intro index report hreport hindex
    refine Decidable.byContradiction fun hdone => ?_
    have hmem : (0 + index, report) ∈ finishedFrom 0 packet bytes := mem_finishedFrom hreport hdone
    apply hindex
    rw [← map_fst_replay packet, ← hreplay]
    exact List.mem_map.mpr ⟨_, hmem, Nat.zero_add index⟩

/-- Noise, a third sync byte, a frame too long for the storage, and a frame with a wrong sum. -/
theorem finished_eq_split_noisy_line :
    let packet : Packet := { storage := [0xAA], storage_le := by decide }
    let line : Bytes := [0x00, 0xFF, 0xFF, 0xFF, 0x01, 0x04, 0x02, 0x2B, 0x01, 0xCC,
      0xFF, 0xFF, 0x07, 0x00, 0x01, 0xAB, 0xFF]
    packet.state = .idle ∧
      (packet.finished line).map report =
        [⟨9, .tooMuchData, ⟨1⟩, 4, 2, [0x2B]⟩,
          ⟨15, .checksumMismatch 0xF7 0xAB, ⟨7⟩, 0, 1, []⟩] :=
  ⟨rfl, (finished_eq_split rfl _).1.trans (by decide +kernel)⟩

end Packet

end ServoBus
