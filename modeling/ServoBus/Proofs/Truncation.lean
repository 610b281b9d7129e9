import ServoBus.Proofs.Bounds

/-!
# A packet in a short buffer

Writing a packet breaks off for two reasons, the end of the buffer and the end of the storage, in
any of its three parts. Whichever comes first, the buffer gets the front of one and the same form
of the packet and nothing else of it is touched: the parts are written as one sequence would be
(`Packet.writeTo_eq_put`), and a sink keeps what it has no bytes for (`Sink.put_ofBuffer`).

Main statement: `Packet.writes_front_of_form`.
-/

namespace ServoBus

theorem Sink.put_ofBuffer (buffer bytes : Bytes) :
    let count := min buffer.length bytes.length
    (ofBuffer buffer).put bytes = ⟨bytes.take count, buffer.drop count⟩ := by
  intro count
  rw [put_eq]
  change (⟨bytes.take buffer.length, buffer.drop bytes.length⟩ : Sink) = _
  rcases Nat.le_total buffer.length bytes.length with hshort | hroomy
  · have hcount : count = buffer.length := Nat.min_eq_left hshort
    rw [hcount, List.drop_length, List.drop_eq_nil_of_le hshort]
  · have hcount : count = bytes.length := Nat.min_eq_right hroomy
    rw [hcount, List.take_length, List.take_of_length_le hroomy]

namespace Packet

/-- Header, parameters and checksum are written as one sequence. -/
theorem writeTo_eq_put (packet : Packet) (buffer : Bytes) :
    packet.writeTo buffer = (Sink.ofBuffer buffer).put packet.fullForm := by
  rw [writeTo_eq, Sink.put_eq]
  rfl

theorem fullForm_eq (packet : Packet) :
    packet.fullForm = [0xFF, 0xFF, packet.id.byte, packet.length, packet.command] ++
      if packet.parameterCount ≤ packet.capacity then
        packet.storage.take packet.parameterCount ++ [packet.checksum]
      else packet.storage := by
  rw [fullForm, parameters]
  split
  · rw [List.append_assoc]
    rfl
  · next hmissing =>
      rw [List.take_of_length_le (Nat.le_of_not_le hmissing), List.append_nil]
      rfl

/-- Whatever was done to a packet, and whatever the length of a buffer, writing the one into the
other comes to an end. The first bytes of the buffer are those of the packet's form, as many as
there are or as there is room for, and the bytes behind them are as they were. -/
theorem writes_front_of_form (packet : Packet) (buffer : Bytes) :
    let form := [0xFF, 0xFF, packet.id.byte, packet.length, packet.command] ++
      if packet.parameterCount ≤ packet.capacity then
        packet.storage.take packet.parameterCount ++ [packet.checksum]
      else packet.storage
    let count := min buffer.length form.length
    ∃ written, packet.writeToChecked buffer = .ok written ∧
      written = (packet.writeTo buffer).toWritten ∧ written.length = count ∧
      written.buffer.length = buffer.length ∧
      written.buffer.take count = form.take count ∧
      written.buffer.drop count = buffer.drop count := by
  intro form count
  have hform : packet.fullForm = form := packet.fullForm_eq
  have hwritten : packet.writeTo buffer = ⟨form.take count, buffer.drop count⟩ := by
    rw [writeTo_eq_put, hform]
    exact Sink.put_ofBuffer buffer form
  have hlength : (form.take count).length = count :=
    List.length_take_of_le (Nat.min_le_right _ _)
  refine ⟨_, packet.writeToChecked_eq buffer, rfl, ?_, ?_, ?_, ?_⟩
  · rw [hwritten]
    exact hlength
  · rw [hwritten]
    change (form.take count ++ buffer.drop count).length = buffer.length
    have hfits : count ≤ buffer.length := Nat.min_le_left _ _
    rw [List.length_append, hlength, List.length_drop]
    omega
  · rw [hwritten]
    exact List.take_left' hlength
  · rw [hwritten]
    exact List.drop_left' hlength

/-- Two parameters are declared and one is stored: no checksum is written, into whatever buffer. -/
example :
    let packet : Packet := { storage := [7], length := 4, storage_le := by decide }
    packet.writeToChecked (List.replicate 8 9) =
        .ok ⟨[0xFF, 0xFF, 0, 4, 1, 7, 9, 9], 6⟩ ∧
      packet.writeToChecked [9, 9, 9, 9] = .ok ⟨[0xFF, 0xFF, 0, 4], 4⟩ :=
  ⟨rfl, rfl⟩

end Packet

end ServoBus
