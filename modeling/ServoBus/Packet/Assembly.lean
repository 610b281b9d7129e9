import ServoBus.Packet

/-!
# Assembling a frame from its bytes

`Packet.accept` takes the next byte of the line. Outside a frame it looks for two sync bytes in a
row; further sync bytes before the id are skipped. `Packet.takeFrame` accepts bytes up to the end
of the first frame and leaves the others alone.
-/

namespace ServoBus.Packet

/-- Takes a parameter byte into the sum, and into the storage if it has a place there. -/
def takeParameter (packet : Packet) (byte : UInt8) : Packet :=
  { packet with
    storage := packet.storage.set packet.taken byte
    checksum := packet.checksum + byte
    taken := packet.taken + 1
    storage_le := by simpa using packet.storage_le }

/-- Judges a frame by its checksum byte. A wrong checksum outweighs parameters in excess. -/
def finish (packet : Packet) (received : UInt8) : Packet × ParseStatus :=
  let expected := ~~~packet.checksum
  ({ packet with state := .idle, checksum := received },
    if expected ≠ received then .checksumMismatch expected received
    else if packet.taken ≤ packet.capacity then .complete
    else .tooMuchData)

def accept (packet : Packet) (byte : UInt8) : Packet × ParseStatus :=
  match packet.state with
  | .idle =>
      ({ packet with state := if byte = syncByte then .firstSync else .idle }, .incomplete)
  | .firstSync =>
      ({ packet with state := if byte = syncByte then .secondSync else .idle }, .incomplete)
  | .secondSync =>
      if byte = syncByte then (packet, .incomplete)
      else ({ packet with state := .idRead, id := ⟨byte⟩, checksum := byte }, .incomplete)
  | .idRead =>
      ({ packet with
          state := .lengthRead, length := byte, checksum := packet.checksum + byte },
        .incomplete)
  | .lengthRead =>
      ({ packet with
          state := .inBody, command := byte, checksum := packet.checksum + byte, taken := 0 },
        .incomplete)
  | .inBody =>
      if packet.taken < packet.parameterCount then (packet.takeParameter byte, .incomplete)
      else packet.finish byte

/-- What each byte of a sequence leads to: the packet after it and its status. -/
def reports (packet : Packet) : Bytes → List (Packet × ParseStatus)
  | [] => []
  | byte :: rest =>
      let report := packet.accept byte
      report :: report.1.reports rest

def acceptAll (packet : Packet) (bytes : Bytes) : Packet :=
  bytes.foldl (fun packet byte => (packet.accept byte).1) packet

/-- A packet that has accepted bytes up to the end of a frame, or all there were. -/
structure Assembled where
  packet : Packet
  status : ParseStatus
  rest : Bytes

/-- Accepts bytes up to the end of the first frame; the status stays incomplete if none ends. -/
def takeFrame (packet : Packet) : Bytes → Assembled
  | [] => ⟨packet, .incomplete, []⟩
  | byte :: rest =>
      let report := packet.accept byte
      if report.2 = .incomplete then report.1.takeFrame rest
      else ⟨report.1, report.2, rest⟩

theorem takeFrame_cons_of_incomplete {packet : Packet} {byte : UInt8} (rest : Bytes)
    (h : (packet.accept byte).2 = .incomplete) :
    packet.takeFrame (byte :: rest) = (packet.accept byte).1.takeFrame rest := by
  simp [takeFrame, h]

theorem takeFrame_cons_of_done {packet : Packet} {byte : UInt8} (rest : Bytes)
    (h : (packet.accept byte).2 ≠ .incomplete) :
    packet.takeFrame (byte :: rest) = ⟨(packet.accept byte).1, (packet.accept byte).2, rest⟩ := by
  simp [takeFrame, h]

/-- Nothing is left of bytes among which no frame ends. -/
theorem takeFrame_rest_of_incomplete (packet : Packet) (bytes : Bytes)
    (h : (packet.takeFrame bytes).status = .incomplete) : (packet.takeFrame bytes).rest = [] := by
  induction bytes generalizing packet with
  | nil => rfl
  | cons byte rest ih =>
      by_cases hr : (packet.accept byte).2 = .incomplete
      · rw [takeFrame_cons_of_incomplete rest hr] at h ⊢
        exact ih _ h
      · rw [takeFrame_cons_of_done rest hr] at h
        exact absurd h hr

theorem takeFrame_rest_length_le (packet : Packet) (bytes : Bytes) :
    (packet.takeFrame bytes).rest.length ≤ bytes.length := by
  induction bytes generalizing packet with
  | nil => exact Nat.le_refl _
  | cons byte rest ih =>
      by_cases hr : (packet.accept byte).2 = .incomplete
      · rw [takeFrame_cons_of_incomplete rest hr]
        exact Nat.le_succ_of_le (ih _)
      · rw [takeFrame_cons_of_done rest hr]
        exact Nat.le_succ _

theorem takeFrame_rest_length_lt (packet : Packet) {bytes : Bytes} (h : bytes ≠ []) :
    (packet.takeFrame bytes).rest.length < bytes.length := by
  cases bytes with
  | nil => exact absurd rfl h
  | cons byte rest =>
      by_cases hr : (packet.accept byte).2 = .incomplete
      · rw [takeFrame_cons_of_incomplete rest hr]
        exact Nat.lt_succ_of_le (takeFrame_rest_length_le _ rest)
      · rw [takeFrame_cons_of_done rest hr]
        exact Nat.lt_succ_self _

end ServoBus.Packet
