import ServoBus.Proofs.RoundTrip

/-!
# Finding back to the frames

Noise can leave a parser anywhere in a frame that nobody sent, and whoever changes the length of a
packet in the middle of a frame moves its end. How long the parser can stay there is `Packet.due`:
each byte that is no sync byte lowers it by one at least, and it is never above 256.

Main statement: `Packet.reads_frame_behind_noise`.
-/

namespace ServoBus

namespace Packet

/-- How many bytes, none of them a sync byte, it takes at most until the parser is outside of any
frame. -/
def due (packet : Packet) : Nat :=
  match packet.state with
  | .idle => 0
  | .firstSync => 1
  | .secondSync => 256
  | .idRead => 255
  | .lengthRead => packet.parameterCount + 2
  | .inBody => packet.parameterCount - packet.taken + 1

theorem due_le (packet : Packet) : packet.due ≤ 256 := by
  have hcount := packet.parameterCount_le
  simp only [maxParameters] at hcount
  unfold due
  split <;> omega

theorem state_eq_idle_of_due {packet : Packet} (h : packet.due = 0) : packet.state = .idle := by
  cases hstate : packet.state with
  | idle => rfl
  | firstSync | secondSync | idRead | lengthRead | inBody => simp [due, hstate] at h

/-- A byte that is no sync byte brings the parser nearer to the end of a frame. -/
theorem due_accept (packet : Packet) {byte : UInt8} (hbyte : byte ≠ syncByte) :
    (packet.accept byte).1.due ≤ packet.due - 1 := by
  cases hstate : packet.state with
  | idle => simp [accept, hstate, hbyte, due]
  | firstSync => simp [accept, hstate, hbyte, due]
  | secondSync => simp [accept, hstate, hbyte, due]
  | idRead =>
      -- the length is no sync byte, so it declares one parameter less than it could
      have hlength : byte.toNat ≠ 255 := fun h => hbyte (UInt8.toNat_inj.mp h)
      have hlt := byte.toNat_lt
      simp only [accept, hstate, due, parameterCount]
      omega
  | lengthRead =>
      simp only [accept, hstate, due, parameterCount]
      omega
  | inBody =>
      by_cases htaken : packet.taken < packet.parameterCount
      · have hafter : (packet.accept byte).1.due =
            packet.parameterCount - (packet.taken + 1) + 1 := by
          rw [accept_parameter hstate htaken]
          simp only [due, takeParameter, hstate, parameterCount]
        have hbefore : packet.due = packet.parameterCount - packet.taken + 1 := by
          simp only [due, hstate]
        omega
      · simp [accept, hstate, htaken, finish, due]

theorem due_acceptAll (packet : Packet) {noise : Bytes} (hnoise : ∀ byte ∈ noise, byte ≠ syncByte) :
    (packet.acceptAll noise).due ≤ packet.due - noise.length := by
  induction noise generalizing packet with
  | nil => exact Nat.le_refl _
  | cons byte noise ih =>
      obtain ⟨hbyte, hnoise⟩ := List.forall_mem_cons.mp hnoise
      have hfirst := packet.due_accept hbyte
      have hrest : (packet.acceptAll (byte :: noise)).due ≤
          (packet.accept byte).1.due - noise.length := ih _ hnoise
      rw [List.length_cons]
      omega

theorem takeFrame_of_noise {packet : Packet} (hidle : packet.state = .idle) {noise : Bytes}
    (hnoise : ∀ byte ∈ noise, byte ≠ syncByte) :
    packet.takeFrame noise = ⟨packet, .incomplete, []⟩ := by
  induction noise with
  | nil => rfl
  | cons byte noise ih =>
      obtain ⟨hbyte, hnoise⟩ := List.forall_mem_cons.mp hnoise
      rw [takeFrame_noise hidle hbyte, ih hnoise]

/-- At most one frame ends among bytes that are no sync bytes: none can begin there. -/
theorem length_finished_of_noise (packet : Packet) {noise : Bytes}
    (hnoise : ∀ byte ∈ noise, byte ≠ syncByte) : (packet.finished noise).length ≤ 1 := by
  by_cases hincomplete : (packet.takeFrame noise).status = .incomplete
  · rw [finished, finishedFrom_of_incomplete 0 packet hincomplete]
    exact Nat.zero_le 1
  · obtain ⟨front, last, hbytes, -⟩ := reports_of_done packet noise hincomplete
    have hrest : ∀ byte ∈ (packet.takeFrame noise).rest, byte ≠ syncByte := by
      intro byte hbyte
      apply hnoise
      rw [hbytes]
      simp [hbyte]
    have hidle := state_takeFrame hincomplete
    have hlater := takeFrame_of_noise hidle hrest
    rw [finished, finishedFrom_of_done 0 packet hincomplete, List.length_cons,
      finishedFrom_of_incomplete _ _ (by rw [hlater])]
    exact Nat.le_refl 1

/-- Wherever a packet is in a frame, and whatever its fields were set to, 256 bytes that are no sync
bytes bring the parser out of it, and one frame at most ends among them. A sound frame that comes
next is read with its last byte, if there is storage for its parameters. -/
theorem reads_frame_behind_noise (packet : Packet) {noise : Bytes} (hlength : 256 ≤ noise.length)
    (hnoise : ∀ byte ∈ noise, byte ≠ 0xFF) :
    (packet.acceptAll noise).state = .idle ∧ (packet.finished noise).length ≤ 1 ∧
      ∀ frame : Frame, frame.expected = frame.received →
        frame.parameters.length ≤ packet.capacity →
        ∃ front after,
          packet.reports (noise ++ frame.bytes) =
            packet.reports noise ++ (front ++ [(after, .complete)]) ∧
          (∀ report ∈ front, report.2 = .incomplete) ∧
          after.id = frame.id ∧ after.command = frame.command ∧
          after.parameters = frame.parameters := by
  have hnone : (packet.acceptAll noise).due = 0 := by
    have hdue := packet.due_le
    have hafter := packet.due_acceptAll hnoise
    omega
  have hidle := state_eq_idle_of_due hnone
  refine ⟨hidle, packet.length_finished_of_noise hnoise, ?_⟩
  intro frame hsound hroom
  have hsyncs : (packet.acceptAll noise).state.syncs? = some 0 := by
    rw [hidle]
    rfl
  have hcapacity := packet.capacity_acceptAll noise
  have hstatus : frame.status (packet.acceptAll noise).capacity = .complete := by
    rw [hcapacity, Frame.status, if_neg (not_not_intro hsound), if_neg (Nat.not_lt.mpr hroom)]
  obtain ⟨front, hreports, hfront⟩ := reports_bytes hsyncs frame
  refine ⟨front, (packet.acceptAll noise).loaded frame, ?_, hfront, rfl, rfl, ?_⟩
  · rw [reports_append, hreports, hstatus]
  · rw [parameters_loaded, hcapacity]
    exact List.take_of_length_le hroom

/-- No bound below 256 would do. Behind two sync bytes, 255 bytes can be the beginning of a frame
with as many parameters as a length can declare that is no sync byte; the next byte ends it. -/
theorem reads_frame_behind_noise_longest :
    let packet : Packet := { storage := [0], state := .secondSync, storage_le := by decide }
    let noise : Bytes := List.replicate 256 0xFE
    let frame := Frame.sound ⟨5⟩ (by decide) Instruction.ping.code [7] (by decide)
    256 ≤ noise.length ∧ (∀ byte ∈ noise, byte ≠ 0xFF) ∧ frame.expected = frame.received ∧
      frame.parameters.length ≤ packet.capacity ∧
      (packet.acceptAll (noise.take 255)).state = .inBody ∧
      (packet.acceptAll noise).state = .idle ∧ (packet.finished noise).length ≤ 1 ∧
      ∃ front after,
        packet.reports (noise ++ frame.bytes) =
          packet.reports noise ++ (front ++ [(after, .complete)]) ∧
        (∀ report ∈ front, report.2 = .incomplete) ∧
        after.id = ⟨5⟩ ∧ after.command = Instruction.ping.code ∧ after.parameters = [7] := by
  intro packet noise frame
  have hlength : 256 ≤ noise.length := Nat.le_of_eq List.length_replicate.symm
  have hnoise : ∀ byte ∈ noise, byte ≠ 0xFF := by
    intro byte hbyte
    rw [List.eq_of_mem_replicate hbyte]
    decide
  have hsound : frame.expected = frame.received := rfl
  have hroom : frame.parameters.length ≤ packet.capacity := Nat.le_refl 1
  have hbefore : (packet.acceptAll (noise.take 255)).state = .inBody := by decide +kernel
  obtain ⟨hidle, hfinished, hframes⟩ := packet.reads_frame_behind_noise hlength hnoise
  exact ⟨hlength, hnoise, hsound, hroom, hbefore, hidle, hfinished, hframes frame hsound hroom⟩

end Packet

end ServoBus
