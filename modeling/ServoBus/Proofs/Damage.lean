import ServoBus.Proofs.Answering

/-!
# Damaged frames

Damage that leaves the sync bytes and the length of a frame alone leaves its end where it was,
whatever sync bytes it brings in. As long as the sum over the frame is another one, the device finds
the checksum to be wrong and does nothing but say so.

Main statement: `Station.step_refuses_damaged`.
-/

namespace ServoBus

theorem complement_eq_iff (sum byte : UInt8) : ~~~sum = byte ↔ sum + byte = 0xFF := by
  have hsum := sum.toNat_lt
  have hbyte := byte.toNat_lt
  rw [← UInt8.toNat_inj, ← UInt8.toNat_inj]
  simp only [UInt8.toNat_not, UInt8.toNat_add, UInt8.size, UInt8.reduceToNat]
  omega

namespace Frame

/-- The checksum of a frame is right if everything behind the sync bytes sums up to a byte of
ones. -/
theorem expected_eq_received_iff (frame : Frame) :
    frame.expected = frame.received ↔ byteSum (frame.bytes.drop 2) = 0xFF := by
  have hsum : byteSum (frame.bytes.drop 2) =
      frame.id.byte + frame.length + frame.command + byteSum frame.parameters +
        frame.received := by
    simp [bytes, UInt8.add_assoc]
  rw [expected, checksum, complement_eq_iff, hsum]

/-- Bytes of a frame were replaced by others, but neither the sync bytes nor the length. The id did
not become a sync byte, and the sum over the frame is another one. -/
structure DamagedTo (frame : Frame) (damaged : Bytes) : Prop where
  length_eq : damaged.length = frame.bytes.length
  kept : ∀ index ∈ [0, 1, 3], damaged[index]? = frame.bytes[index]?
  id_ne : damaged[2]? ≠ some syncByte
  sum_ne : byteSum (damaged.drop 2) ≠ byteSum (frame.bytes.drop 2)

/-- What a sound frame was damaged to is still one frame, but its checksum is wrong. -/
theorem DamagedTo.exists_frame {frame : Frame} {damaged : Bytes} (h : frame.DamagedTo damaged)
    (hsound : frame.expected = frame.received) :
    ∃ other : Frame, other.bytes = damaged ∧ other.expected ≠ other.received := by
  have hlength := h.length_eq
  rw [length_bytes] at hlength
  rcases damaged with _ | ⟨first, _ | ⟨second, _ | ⟨id, _ | ⟨length, _ | ⟨command, body⟩⟩⟩⟩⟩
  -- no frame is as short as that
  iterate 5
    · simp only [List.length_cons, List.length_nil] at hlength
      omega
  rcases body.eq_nil_or_concat with rfl | ⟨parameters, received, rfl⟩
  · simp only [List.length_cons, List.length_nil] at hlength
    omega
  rw [List.concat_eq_append] at h hlength ⊢
  have hfirst := h.kept 0 (by decide)
  have hsecond := h.kept 1 (by decide)
  have hsame := h.kept 3 (by decide)
  have hid := h.id_ne
  simp only [bytes, List.cons_append, List.nil_append, List.getElem?_cons_zero,
    List.getElem?_cons_succ, Option.some.injEq, ne_eq] at hfirst hsecond hsame hid
  simp only [List.length_cons, List.length_append, List.length_nil] at hlength
  subst hfirst hsecond hsame
  let other : Frame := {
    id := ⟨id⟩
    length := frame.length
    command
    parameters
    received
    id_ne_unusable := fun hunusable => hid (congrArg Id.byte hunusable)
    length_parameters := by
      rw [← frame.length_parameters]
      omega }
  refine ⟨other, rfl, ?_⟩
  intro hright
  rw [expected_eq_received_iff] at hsound hright
  exact h.sum_ne (hright.trans hsound.symm)

end Frame

namespace Station

theorem handle_checksumMismatch (station : Station) (packet : Packet) (expected received : UInt8) :
    let reply : Reply := ⟨station.device.id, ⟨.checksumError, []⟩⟩
    let sent := station.channel.send (if packet.id = station.device.id then reply.wire else [])
    station.handle packet (.checksumMismatch expected received) =
      (.ok sent.1, { station with channel := sent.2 }) := by
  intro reply sent
  rw [handle, Device.handle_checksumMismatch]
  unfold sent
  by_cases hown : packet.id = station.device.id
  · rw [if_pos hown, if_pos hown]
  · rw [if_neg hown, if_neg hown, Channel.send_nil]

theorem step_checksumMismatch {station : Station} {packet : Packet} {expected received : UInt8}
    {later : Bytes} (htake : Packet.roomy.takeFrame station.channel.inbox =
      ⟨packet, .checksumMismatch expected received, later⟩) :
    let behind : Station := { station with channel := { station.channel with inbox := later } }
    let reply : Reply := ⟨station.device.id, ⟨.checksumError, []⟩⟩
    let sent := behind.channel.send (if packet.id = station.device.id then reply.wire else [])
    station.step =
      (.ok (sent.1.map fun _ => .checksumMismatch expected received),
        { behind with channel := sent.2 }) := by
  intro behind reply sent
  have hbehind : station.behindFrame = behind := by
    rw [behindFrame, htake]
  have hstep := station.step_eq
  dsimp only at hstep
  rw [htake, if_neg (by simp), hbehind, handle_checksumMismatch] at hstep
  exact hstep

/-- Where a damaged frame stands first among the bytes that wait, a step takes just its bytes and
ends with a checksum that is wrong. The device stays as it is, whatever is behind its registers. It
answers that the checksum was wrong if the damaged frame bears its id; to another one, everyone's
address included, it does not answer. -/
theorem step_refuses_damaged {station : Station} {id : Id} (hid : id ≠ Id.unusable)
    (command : UInt8) {parameters : Bytes} (hparameters : parameters.length ≤ maxParameters)
    {damaged later : Bytes}
    (hdamaged : (Frame.sound id hid command parameters hparameters).DamagedTo damaged)
    (hinbox : station.channel.inbox = damaged ++ later) :
    let behind : Station := { station with channel := { station.channel with inbox := later } }
    station.step.2.device = station.device ∧ station.step.2.channel.inbox = later ∧
      ∃ expected received, expected ≠ received ∧
        if damaged[2]? = some station.device.id.byte then
          station.channel.peerPresent → ∃ after,
            station.step = (.ok (.ok (.checksumMismatch expected received)), after) ∧
            behind.Sends after station.device.id .checksumError 0
        else station.step = (.ok (.ok (.checksumMismatch expected received)), behind) := by
  intro behind
  obtain ⟨other, rfl, hwrong⟩ := hdamaged.exists_frame rfl
  have htake := Packet.takeFrame_bytes (rfl : Packet.roomy.state.syncs? = some 0) other later
  have hstatus : other.status Packet.roomy.capacity =
      .checksumMismatch other.expected other.received := if_pos hwrong
  rw [← hinbox, hstatus] at htake
  have hstep := step_checksumMismatch htake
  have hbyte : other.bytes[2]? = some other.id.byte := rfl
  refine ⟨by rw [hstep], by rw [inbox_step, htake], other.expected, other.received, hwrong, ?_⟩
  by_cases hown : other.id = station.device.id
  · have hasked : (Packet.roomy.loaded other).id = station.device.id := hown
    rw [hbyte, if_pos (congrArg (fun id => some id.byte) hown)]
    intro hconnected
    have hline : behind.channel.peerPresent := hconnected
    have hfits : Reply.Fits ⟨station.device.id, ⟨.checksumError, []⟩⟩ := {
      id_ne := fun h => other.id_ne_unusable (hown.trans h)
      length_le := Nat.zero_le _ }
    refine ⟨_, ?_, sends_of_fits hline station.device hfits⟩
    dsimp only at hstep
    rw [hstep, if_pos hasked, Channel.send_of_peerPresent hline]
    rfl
  · have hother : ¬(Packet.roomy.loaded other).id = station.device.id := hown
    have hforeign : ¬some other.id.byte = some station.device.id.byte := by
      intro h
      exact hown (congrArg Id.mk (Option.some.inj h))
    dsimp only at hstep
    rw [hbyte, if_neg hforeign, hstep, if_neg hother, Channel.send_nil]
    rfl

/-- Sync bytes that damage brings in do not move the end of a frame. The servo whose id the frame
still bears answers, and the bytes behind the frame wait on. -/
theorem step_refuses_damaged_sync_bytes :
    let frame := Frame.sound ⟨6⟩ (by decide) Instruction.write.code [Offset.returnDelay, 9]
      (by decide)
    let damaged : Bytes := [0xFF, 0xFF, 6, 4, 0xFF, 0xFF, 5, 0xFF]
    let device := (Station.smallest 6).device
    let station : Station := { device, channel := { inbox := damaged ++ [0xFF, 0xFF] } }
    let behind : Station := { device, channel := { inbox := [0xFF, 0xFF] } }
    frame.bytes = [0xFF, 0xFF, 6, 4, 3, 5, 9, 0xE4] ∧ frame.DamagedTo damaged ∧
      station.channel.inbox = damaged ++ [0xFF, 0xFF] ∧ station.channel.peerPresent = true ∧
      station.step.2.device = device ∧
      ∃ expected received after, expected ≠ received ∧
        station.step = (.ok (.ok (.checksumMismatch expected received)), after) ∧
        behind.Sends after ⟨6⟩ .checksumError 0 := by
  intro frame damaged device station behind
  have hbytes : frame.bytes = [0xFF, 0xFF, 6, 4, 3, 5, 9, 0xE4] := by decide
  have hdamaged : frame.DamagedTo damaged := {
    length_eq := by decide
    kept := by decide
    id_ne := by decide
    sum_ne := by decide }
  have hid : damaged[2]? = some station.device.id.byte := by decide
  have hinbox : station.channel.inbox = damaged ++ [0xFF, 0xFF] := rfl
  have hconnected : station.channel.peerPresent = true := rfl
  obtain ⟨hdevice, -, expected, received, hwrong, hstep⟩ :=
    step_refuses_damaged (by decide) Instruction.write.code (by decide) hdamaged hinbox
  rw [if_pos hid] at hstep
  obtain ⟨after, hrun, hsends⟩ := hstep hconnected
  exact ⟨hbytes, hdamaged, hinbox, hconnected, hdevice, expected, received, after, hwrong, hrun,
    hsends⟩

end Station

end ServoBus
