import ServoBus.Packet.Assembly

/-!
# Frames in a stream

The grammar of the line, said of whole byte sequences and without a parser: a frame begins behind
the first two sync bytes in a row, further sync bytes are skipped, and its length tells how many
parameters stand before the checksum. `Frame.split` cuts a stream into its frames.

What a packet holds after a frame is `Packet.loaded`; what it holds after each frame of a stream is
`Packet.replay`.
-/

namespace ServoBus

/-- A frame behind its sync bytes: as many parameters as its length declares, under an id that is
no sync byte. -/
structure Frame where
  id : Id
  length : UInt8
  command : UInt8
  parameters : Bytes
  /-- The checksum byte that came with the frame, right or wrong. -/
  received : UInt8
  id_ne_unusable : id ≠ Id.unusable
  length_parameters : parameters.length = length.toNat - 2
  deriving DecidableEq

/-- What a receiver tells of a frame that ended. -/
structure FrameReport where
  index : Nat
  status : ParseStatus
  id : Id
  length : UInt8
  command : UInt8
  parameters : Bytes
  deriving DecidableEq

/-- How many sync bytes in a row a parser outside a frame has seen, two at most. -/
def ParserState.syncs? : ParserState → Option Nat
  | idle => some 0
  | firstSync => some 1
  | secondSync => some 2
  | idRead | lengthRead | inBody => none

namespace Frame

/-- The frame as it stands on the line, from its last two sync bytes on. -/
def bytes (frame : Frame) : Bytes :=
  [syncByte, syncByte, frame.id.byte, frame.length, frame.command] ++ frame.parameters ++
    [frame.received]

def expected (frame : Frame) : UInt8 :=
  checksum frame.id frame.length frame.command frame.parameters

/-- What a receiver with storage for `capacity` parameters reports of the frame. -/
def status (frame : Frame) (capacity : Nat) : ParseStatus :=
  if frame.expected ≠ frame.received then .checksumMismatch frame.expected frame.received
  else if capacity < frame.parameters.length then .tooMuchData
  else .complete

theorem length_parameters_le (frame : Frame) : frame.parameters.length ≤ maxParameters := by
  have hlength := frame.length_parameters
  have hbyte := frame.length.toNat_lt
  simp only [maxParameters]
  omega

@[simp] theorem length_bytes (frame : Frame) :
    frame.bytes.length = 6 + frame.parameters.length := by
  simp [bytes]
  omega

/-- The frame of some data, with the checksum that it should have. -/
def sound (id : Id) (hid : id ≠ Id.unusable) (command : UInt8) (data : Bytes)
    (hdata : data.length ≤ maxParameters) : Frame where
  id
  length := UInt8.ofNat (2 + data.length)
  command
  parameters := data
  received := checksum id (UInt8.ofNat (2 + data.length)) command data
  id_ne_unusable := hid
  length_parameters := (declared_ofNat hdata).symm

theorem status_sound (id : Id) (hid : id ≠ Id.unusable) (command : UInt8) (data : Bytes)
    (hdata : data.length ≤ maxParameters) (capacity : Nat) :
    (sound id hid command data hdata).status capacity =
      if capacity < data.length then .tooMuchData else .complete := by
  simp [status, expected, sound]

/-- What a receiver with storage for `capacity` parameters tells of a frame that ends at an
index. -/
def report (capacity : Nat) (entry : Nat × Frame) : FrameReport where
  index := entry.1
  status := entry.2.status capacity
  id := entry.2.id
  length := entry.2.length
  command := entry.2.command
  parameters := entry.2.parameters.take capacity

theorem status_ne_incomplete (frame : Frame) (capacity : Nat) :
    frame.status capacity ≠ .incomplete := by
  unfold status
  split
  · simp
  · split <;> simp

/-! ## Finding the frames -/

/-- The bytes behind the first two sync bytes in a row. -/
def behindSync? : Bytes → Option Bytes
  | first :: second :: rest =>
      if first = syncByte ∧ second = syncByte then some rest else behindSync? (second :: rest)
  | _ => none

/-- Reads id, length, command, parameters and checksum, behind sync bytes in any number; gives the
frame and the bytes behind it. -/
def ofFields? : Bytes → Option (Frame × Bytes)
  | [] => none
  | id :: fields =>
      if hid : id = syncByte then ofFields? fields
      else
        match fields with
        | length :: command :: body =>
            if hbody : length.toNat - 2 < body.length then
              some ({
                id := ⟨id⟩
                length
                command
                parameters := body.take (length.toNat - 2)
                received := body[length.toNat - 2]
                id_ne_unusable := fun h => hid (congrArg Id.byte h)
                length_parameters := List.length_take_of_le (Nat.le_of_lt hbody) },
                body.drop (length.toNat - 2 + 1))
            else none
        | _ => none

/-- The first frame of a stream and the bytes behind it. -/
def next? (bytes : Bytes) : Option (Frame × Bytes) := (behindSync? bytes).bind ofFields?

theorem length_behindSync? {bytes body : Bytes} (h : behindSync? bytes = some body) :
    body.length + 2 ≤ bytes.length := by
  induction bytes with
  | nil => simp [behindSync?] at h
  | cons first tail ih =>
      cases tail with
      | nil => simp [behindSync?] at h
      | cons second rest =>
          rw [behindSync?] at h
          split at h
          · cases h
            simp
          · have := ih h
            simp only [List.length_cons] at this ⊢
            omega

theorem length_ofFields? {body rest : Bytes} {frame : Frame}
    (h : ofFields? body = some (frame, rest)) : rest.length + 4 ≤ body.length := by
  induction body with
  | nil => simp [ofFields?] at h
  | cons id fields ih =>
      rw [ofFields?] at h
      split at h
      · have := ih h
        simp only [List.length_cons]
        omega
      · split at h
        · next length command body _ =>
            split at h
            · cases h
              simp only [List.length_drop, List.length_cons]
              omega
            · cases h
        · cases h

theorem length_next? {bytes rest : Bytes} {frame : Frame}
    (h : next? bytes = some (frame, rest)) : rest.length + 6 ≤ bytes.length := by
  obtain ⟨body, hbody, hfields⟩ := Option.bind_eq_some_iff.mp h
  have h1 := length_behindSync? hbody
  have h2 := length_ofFields? hfields
  omega

/-- The frames of a stream, each with the index of its checksum byte; the first byte has the index
`start`. -/
def splitFrom (start : Nat) (bytes : Bytes) : List (Nat × Frame) :=
  match _h : next? bytes with
  | none => []
  | some (frame, rest) =>
      let stop := start + (bytes.length - rest.length)
      (stop - 1, frame) :: splitFrom stop rest
termination_by bytes.length
decreasing_by
  have := length_next? ‹next? bytes = some (frame, rest)›
  omega

def split (bytes : Bytes) : List (Nat × Frame) := splitFrom 0 bytes

theorem splitFrom_of_none (start : Nat) {bytes : Bytes} (h : next? bytes = none) :
    splitFrom start bytes = [] := by
  rw [splitFrom]
  split
  · rfl
  · next heq => simp [h] at heq

theorem splitFrom_of_some (start : Nat) {bytes rest : Bytes} {frame : Frame}
    (h : next? bytes = some (frame, rest)) :
    splitFrom start bytes =
      (start + (bytes.length - rest.length) - 1, frame) ::
        splitFrom (start + (bytes.length - rest.length)) rest := by
  rw [splitFrom]
  split
  · next heq => simp [h] at heq
  · next heq =>
      rw [h] at heq
      cases heq
      rfl

end Frame

namespace Packet

/-- The packet once a whole frame has been read into it: as many parameters as there is storage
for are kept, and storage behind them is as it was. -/
def loaded (packet : Packet) (frame : Frame) : Packet where
  storage := overwrite packet.storage 0 frame.parameters
  state := .idle
  id := frame.id
  length := frame.length
  command := frame.command
  taken := frame.parameters.length
  checksum := frame.received
  storage_le := by simpa using packet.storage_le

/-- The packet and its status after each of some frames, read into it one after another. -/
def replay (packet : Packet) : List (Nat × Frame) → List (Nat × Packet × ParseStatus)
  | [] => []
  | (index, frame) :: rest =>
      (index, packet.loaded frame, frame.status packet.capacity) ::
        (packet.loaded frame).replay rest

/-- The frames that end among some bytes: the index of the last byte, the packet after it and its
status; the first byte has the index `start`. -/
def finishedFrom (start : Nat) (packet : Packet) (bytes : Bytes) :
    List (Nat × Packet × ParseStatus) :=
  (((packet.reports bytes).zipIdx start).filter fun entry => entry.1.2.isDone).map
    fun entry => (entry.2, entry.1)

/-- The frames that end among some bytes: the index of the last byte, the packet after it and its
status. -/
def finished (packet : Packet) (bytes : Bytes) : List (Nat × Packet × ParseStatus) :=
  finishedFrom 0 packet bytes

def report (entry : Nat × Packet × ParseStatus) : FrameReport where
  index := entry.1
  status := entry.2.2
  id := entry.2.1.id
  length := entry.2.1.length
  command := entry.2.1.command
  parameters := entry.2.1.parameters

/-- What a frame does to a packet: its fields and its parameters are there, the latter as far as
there is storage, and no other storage is touched. -/
structure Takes (before : Packet) (frame : Frame) (after : Packet) : Prop where
  state : after.state = .idle
  id : after.id = frame.id
  length : after.length = frame.length
  command : after.command = frame.command
  checksum : after.checksum = frame.received
  capacity : after.capacity = before.capacity
  stored : ∀ index < min frame.parameters.length before.capacity,
    after.storage[index]? = frame.parameters[index]?
  untouched : ∀ index, min frame.parameters.length before.capacity ≤ index →
    after.storage[index]? = before.storage[index]?

@[simp] theorem capacity_loaded (packet : Packet) (frame : Frame) :
    (packet.loaded frame).capacity = packet.capacity := by
  simp [loaded, capacity]

theorem parameterCount_loaded (packet : Packet) (frame : Frame) :
    (packet.loaded frame).parameterCount = frame.parameters.length :=
  frame.length_parameters.symm

theorem parameters_loaded (packet : Packet) (frame : Frame) :
    (packet.loaded frame).parameters = frame.parameters.take packet.capacity := by
  rw [parameters, parameterCount_loaded]
  exact take_overwrite_zero packet.storage frame.parameters

theorem takes_loaded (packet : Packet) (frame : Frame) :
    packet.Takes frame (packet.loaded frame) where
  state := rfl
  id := rfl
  length := rfl
  command := rfl
  checksum := rfl
  capacity := capacity_loaded packet frame
  stored := by
    intro index hindex
    obtain ⟨hparameters, hcapacity⟩ := Nat.lt_min.mp hindex
    have hstorage : index < packet.storage.length := hcapacity
    change (overwrite packet.storage 0 frame.parameters)[index]? = _
    rw [getElem?_overwrite]
    simp [hparameters, hstorage]
  untouched := by
    intro index hindex
    change (overwrite packet.storage 0 frame.parameters)[index]? = _
    rw [getElem?_overwrite]
    rcases Nat.lt_or_ge index packet.storage.length with hstorage | hstorage
    · have hcapacity : index < packet.capacity := hstorage
      have hparameters : frame.parameters.length ≤ index := by omega
      simp [hparameters]
    · simp [hstorage]

end Packet

end ServoBus
