import ServoBus.Packet

/-!
# Writing a frame

A packet is written into a buffer of any size: the header, then the declared parameters, then the
checksum, each as far as there is room. A packet that declares more parameters than it stores
breaks off behind the last stored one, without a checksum.
-/

namespace ServoBus

/-- A buffer that is overwritten from its front. -/
structure Sink where
  written : Bytes
  room : Bytes

namespace Sink

def ofBuffer (buffer : Bytes) : Sink := ⟨[], buffer⟩

/-- Writes bytes one after another and stops where the room ends. -/
def put (sink : Sink) : Bytes → Sink
  | [] => sink
  | byte :: rest =>
      match sink.room with
      | [] => sink
      | _ :: room => put ⟨sink.written ++ [byte], room⟩ rest

def buffer (sink : Sink) : Bytes := sink.written ++ sink.room

theorem put_eq (sink : Sink) (bytes : Bytes) :
    sink.put bytes =
      ⟨sink.written ++ bytes.take sink.room.length, sink.room.drop bytes.length⟩ := by
  induction bytes generalizing sink with
  | nil => simp [put]
  | cons byte rest ih =>
      rw [put]
      cases hroom : sink.room with
      | nil =>
          obtain ⟨written, room⟩ := sink
          cases hroom
          simp
      | cons old room => simp [ih]

theorem put_append (sink : Sink) (front back : Bytes) :
    sink.put (front ++ back) = (sink.put front).put back := by
  simp [put_eq, List.take_append, List.drop_drop]

end Sink

namespace Packet

def header (packet : Packet) : Bytes :=
  [syncByte, syncByte, packet.id.byte, packet.length, packet.command]

def writeTo (packet : Packet) (buffer : Bytes) : Sink :=
  let sink := ((Sink.ofBuffer buffer).put packet.header).put packet.parameters
  if packet.parameterCount ≤ packet.capacity then sink.put [packet.checksum] else sink

/-- All that a packet has to say; without a checksum if parameters are missing before it. -/
def fullForm (packet : Packet) : Bytes :=
  packet.header ++ packet.parameters ++
    if packet.parameterCount ≤ packet.capacity then [packet.checksum] else []

theorem writeTo_eq (packet : Packet) (buffer : Bytes) :
    packet.writeTo buffer =
      ⟨packet.fullForm.take buffer.length, buffer.drop packet.fullForm.length⟩ := by
  rw [writeTo, fullForm]
  split
  · rw [← Sink.put_append, ← Sink.put_append, Sink.put_eq]
    rfl
  · rw [← Sink.put_append, Sink.put_eq, List.append_nil]
    rfl

theorem written_writeTo (packet : Packet) {buffer : Bytes}
    (h : packet.fullForm.length ≤ buffer.length) :
    (packet.writeTo buffer).written = packet.fullForm := by
  rw [writeTo_eq]
  exact List.take_of_length_le h

theorem length_fullForm {packet : Packet} (h : packet.parameterCount ≤ packet.capacity) :
    packet.fullForm.length = packet.frameLength := by
  simp only [fullForm, if_pos h, header, frameLength, List.length_append, length_parameters,
    List.length_cons, List.length_nil]
  omega

theorem length_fullForm_le (packet : Packet) : packet.fullForm.length ≤ maxFrame := by
  have hcapacity := packet.capacity_le
  have hchecksum : (if packet.parameterCount ≤ packet.capacity then [packet.checksum]
      else []).length ≤ 1 := by
    split <;> simp
  simp only [fullForm, header, List.length_append, length_parameters, List.length_cons,
    List.length_nil, maxFrame, maxParameters] at hcapacity hchecksum ⊢
  omega

def wire (packet : Packet) : Bytes :=
  (packet.writeTo (List.replicate maxFrame 0)).written

theorem wire_eq_fullForm (packet : Packet) : packet.wire = packet.fullForm := by
  have hroom : packet.fullForm.length ≤ (List.replicate maxFrame (0 : UInt8)).length := by
    rw [List.length_replicate]
    exact packet.length_fullForm_le
  exact packet.written_writeTo hroom

theorem wire_ne_nil (packet : Packet) : packet.wire ≠ [] := by
  rw [wire_eq_fullForm, fullForm, header]
  simp

end Packet

end ServoBus
