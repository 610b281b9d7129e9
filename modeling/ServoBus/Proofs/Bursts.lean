import ServoBus.Proofs.Dialogue
import ServoBus.Proofs.Safety

/-!
# Bursts with silence between them

A station makes a new packet for every frame and gives the packet up where the bytes run out. What
it does is still what one continuous parse of each burst says: it handles the frames that the
grammar finds there, one after another (`Station.drain_eq`).

Where a stream may be cut is seen from one packet with room for any frame that reads all of it: the
frames of the stream are those that it has held (`Frame.among_eq`), so cuts outside of frames change
nothing (`Frame.among_append`).

Main statement: `Station.hears_frames_of_bursts`.
-/

namespace ServoBus

/-! ## The frames of a stream -/

namespace Frame

def among (bytes : Bytes) : List Frame := (split bytes).map Prod.snd

theorem map_snd_splitFrom (start : Nat) (bytes : Bytes) :
    (splitFrom start bytes).map Prod.snd = among bytes := by
  induction hlength : bytes.length using Nat.strongRecOn generalizing start bytes with
  | ind length ih =>
      rw [among, split]
      cases hnext : next? bytes with
      | none => rw [splitFrom_of_none start hnext, splitFrom_of_none 0 hnext]
      | some found =>
          obtain ⟨frame, rest⟩ := found
          have hshorter : rest.length < length := by
            have hrest := length_next? hnext
            omega
          rw [splitFrom_of_some start hnext, splitFrom_of_some 0 hnext, List.map_cons,
            List.map_cons, ih rest.length hshorter _ rest rfl, ih rest.length hshorter _ rest rfl]

theorem among_of_next?_eq_none {bytes : Bytes} (h : next? bytes = none) : among bytes = [] := by
  rw [among, split, splitFrom_of_none 0 h, List.map_nil]

@[simp] theorem among_nil : among [] = [] := among_of_next?_eq_none rfl

theorem among_of_next?_eq_some {bytes rest : Bytes} {frame : Frame}
    (h : next? bytes = some (frame, rest)) : among bytes = frame :: among rest := by
  rw [among, split, splitFrom_of_some 0 h, List.map_cons, map_snd_splitFrom]

end Frame

namespace Packet

/-- The frame that a packet holds, if it can be one and nothing of it is missing. -/
def frame? (packet : Packet) : Option Frame :=
  if h : packet.id ≠ Id.unusable ∧ packet.parameterCount ≤ packet.capacity then
    some {
      id := packet.id
      length := packet.length
      command := packet.command
      parameters := packet.parameters
      received := packet.checksum
      id_ne_unusable := h.1
      length_parameters := by
        rw [length_parameters, Nat.min_eq_left h.2]
        rfl }
  else none

theorem frame?_loaded {packet : Packet} (hroom : packet.capacity = maxParameters)
    (frame : Frame) : (packet.loaded frame).frame? = some frame := by
  have hfits := frame.length_parameters_le
  have hcount : (packet.loaded frame).parameterCount ≤ (packet.loaded frame).capacity := by
    rw [parameterCount_loaded, capacity_loaded, hroom]
    exact hfits
  have hparameters : (packet.loaded frame).parameters = frame.parameters := by
    rw [parameters_loaded, hroom]
    exact List.take_of_length_le hfits
  rw [frame?, dif_pos ⟨frame.id_ne_unusable, hcount⟩]
  congr 1
  rw [Frame.mk.injEq]
  exact ⟨rfl, rfl, rfl, hparameters, rfl⟩

theorem filterMap_frame?_replay {packet : Packet} (hroom : packet.capacity = maxParameters)
    (frames : List (Nat × Frame)) :
    (packet.replay frames).filterMap (·.2.1.frame?) = frames.map Prod.snd := by
  induction frames generalizing packet with
  | nil => rfl
  | cons entry frames ih =>
      have hnext : (packet.loaded entry.2).capacity = maxParameters := by
        rw [capacity_loaded, hroom]
      simp only [replay, List.filterMap_cons, frame?_loaded hroom, ih hnext, List.map_cons]

end Packet

namespace Frame

/-- The frames of a stream are those that a packet has held that read all of it. -/
theorem among_eq {packet : Packet} (hidle : packet.state = .idle)
    (hroom : packet.capacity = maxParameters) (start : Nat) (bytes : Bytes) :
    among bytes = (Packet.finishedFrom start packet bytes).filterMap (·.2.1.frame?) := by
  rw [Packet.finishedFrom_eq_replay start hidle, Packet.filterMap_frame?_replay hroom,
    map_snd_splitFrom]

variable {packet : Packet}

/-- A stream may be cut wherever the parser is outside of any frame and has seen no sync byte. -/
theorem among_append (hidle : packet.state = .idle) (hroom : packet.capacity = maxParameters)
    {front : Bytes} (hcut : (packet.acceptAll front).state = .idle) (back : Bytes) :
    among (front ++ back) = among front ++ among back := by
  have hcapacity : (packet.acceptAll front).capacity = maxParameters := by
    rw [Packet.capacity_acceptAll, hroom]
  rw [among_eq hidle hroom 0, Packet.finishedFrom_append, List.filterMap_append,
    ← among_eq hidle hroom, ← among_eq hcut hcapacity]

theorem among_flatten (hidle : packet.state = .idle) (hroom : packet.capacity = maxParameters)
    {pieces : List Bytes}
    (hcuts : ∀ count < pieces.length,
      (packet.acceptAll (pieces.take count).flatten).state = .idle) :
    among pieces.flatten = pieces.flatMap among := by
  induction pieces generalizing packet with
  | nil => exact among_nil
  | cons piece pieces ih =>
      cases pieces with
      | nil => simp
      | cons next pieces =>
          have hpiece : (packet.acceptAll piece).state = .idle := by
            simpa using hcuts 1 (by simp)
          have hcapacity : (packet.acceptAll piece).capacity = maxParameters := by
            rw [Packet.capacity_acceptAll, hroom]
          have hrest := ih hpiece hcapacity fun count hcount => by
            rw [← Packet.acceptAll_append]
            exact hcuts (count + 1) (by simpa using hcount)
          rw [List.flatten_cons, among_append hidle hroom hpiece, hrest]
          rfl

theorem among_append_take (hidle : packet.state = .idle) (hroom : packet.capacity = maxParameters)
    {front : Bytes} {syncs : Nat} (hcut : (packet.acceptAll front).state.syncs? = some syncs)
    (frame : Frame) {count : Nat} (hcount : count < frame.bytes.length) :
    among (front ++ frame.bytes.take count) = among front := by
  let begun := packet.acceptAll front
  obtain ⟨reports, hreports, hincomplete⟩ := Packet.reports_bytes hcut frame
  have hlength := congrArg List.length hreports
  rw [Packet.length_reports, List.length_append, List.length_singleton] at hlength
  -- the report on the whole frame is the last one, so these are all from before it
  have htaken : begun.reports (frame.bytes.take count) = reports.take count := by
    have hsplit := Packet.reports_append begun (frame.bytes.take count) (frame.bytes.drop count)
    have hsize : (begun.reports (frame.bytes.take count)).length = count := by
      rw [Packet.length_reports, List.length_take]
      omega
    rw [List.take_append_drop, hreports] at hsplit
    rw [← List.take_left' hsize, ← hsplit, List.take_append_of_le_length (by omega)]
  have hnone : Packet.finishedFrom (0 + front.length) begun (frame.bytes.take count) = [] := by
    apply Packet.finishedFrom_eq_nil
    intro report hreport
    rw [htaken] at hreport
    exact hincomplete report (List.mem_of_mem_take hreport)
  rw [among_eq hidle hroom 0, Packet.finishedFrom_append, hnone, List.append_nil,
    ← among_eq hidle hroom]

end Frame

namespace Station

/-! ## Handling frames -/

def handleFrame (station : Station) (frame : Frame) : Station :=
  (station.handle (Packet.roomy.loaded frame) (frame.status maxParameters)).2

def handleFrames (station : Station) (frames : List Frame) : Station :=
  frames.foldl handleFrame station

def withInbox (station : Station) (bytes : Bytes) : Station :=
  { station with channel := { station.channel with inbox := bytes } }

theorem withInbox_of_inbox_eq {station : Station} {bytes : Bytes}
    (h : station.channel.inbox = bytes) : station.withInbox bytes = station := by
  rw [← h]
  rfl

theorem handleFrame_withInbox (station : Station) (bytes : Bytes) (frame : Frame) :
    (station.withInbox bytes).handleFrame frame = (station.handleFrame frame).withInbox bytes := by
  have hdevice : (station.withInbox bytes).device = station.device := rfl
  unfold handleFrame handle
  rw [hdevice]
  cases station.device.handle (Packet.roomy.loaded frame) (frame.status maxParameters) with
  | error fault device => rfl
  | ok reply? device =>
      cases reply? with
      | none => rfl
      | some reply =>
          by_cases hsend : station.channel.peerPresent ∨ reply.wire = []
          · simp [withInbox, Channel.send, hsend]
          · simp [withInbox, Channel.send, hsend]

theorem inbox_handleFrame (station : Station) (frame : Frame) :
    (station.handleFrame frame).channel.inbox = station.channel.inbox := inbox_handle ..

theorem peerPresent_handleFrame (station : Station) (frame : Frame) :
    (station.handleFrame frame).channel.peerPresent = station.channel.peerPresent := by
  unfold handleFrame handle
  split
  · rfl
  · rfl
  · unfold Channel.send
    split <;> rfl

theorem inbox_handleFrames (station : Station) (frames : List Frame) :
    (station.handleFrames frames).channel.inbox = station.channel.inbox := by
  induction frames generalizing station with
  | nil => rfl
  | cons frame frames ih => exact (ih (station.handleFrame frame)).trans (inbox_handleFrame ..)

theorem peerPresent_handleFrames (station : Station) (frames : List Frame) :
    (station.handleFrames frames).channel.peerPresent = station.channel.peerPresent := by
  induction frames generalizing station with
  | nil => rfl
  | cons frame frames ih =>
      exact (ih (station.handleFrame frame)).trans (peerPresent_handleFrame ..)

/-! ## Steps while bytes wait -/

/-- A step that finds no whole frame loses the bytes, and that is all. -/
theorem step_of_next?_eq_none {station : Station}
    (h : Frame.next? station.channel.inbox = none) : station.step.2 = station.withInbox [] := by
  have hstatus := Packet.takeFrame_of_next?_eq_none (rfl : Packet.roomy.state = .idle) h
  have hrest := Packet.roomy.takeFrame_rest_of_incomplete station.channel.inbox hstatus
  have hstep := station.step_eq
  dsimp only at hstep
  rw [if_pos hstatus] at hstep
  rw [hstep]
  change station.withInbox (Packet.roomy.takeFrame station.channel.inbox).rest = _
  rw [hrest]

theorem step_of_next?_eq_some {station : Station} {frame : Frame} {rest : Bytes}
    (h : Frame.next? station.channel.inbox = some (frame, rest)) :
    station.step.2 = (station.withInbox rest).handleFrame frame := by
  have hcapacity : Packet.roomy.capacity = maxParameters := List.length_replicate
  have htake := Packet.takeFrame_of_next?_eq_some (rfl : Packet.roomy.state = .idle) h
  rw [hcapacity] at htake
  have hstep := station.step_eq
  have hbehind : station.behindFrame = station.withInbox rest := by
    rw [behindFrame, htake]
    rfl
  dsimp only at hstep
  rw [htake, hbehind, if_neg (frame.status_ne_incomplete maxParameters)] at hstep
  rw [hstep]
  rfl

/-- A station that steps while bytes wait handles the frames among them. -/
theorem drain_eq (station : Station) :
    station.drain.2 =
      (station.withInbox []).handleFrames (Frame.among station.channel.inbox) := by
  fun_induction drain station with
  | case1 station hempty =>
      rw [hempty, Frame.among_nil, withInbox_of_inbox_eq hempty]
      rfl
  | case2 station hwaiting stepped drained ih =>
      change drained.2 = _
      rw [ih]
      cases hnext : Frame.next? station.channel.inbox with
      | none =>
          have hstep : stepped.2 = station.withInbox [] := step_of_next?_eq_none hnext
          rw [hstep, Frame.among_of_next?_eq_none hnext]
          change ((station.withInbox []).withInbox []).handleFrames (Frame.among []) = _
          rw [Frame.among_nil]
          rfl
      | some found =>
          obtain ⟨frame, rest⟩ := found
          have hstep : stepped.2 = (station.handleFrame frame).withInbox rest := by
            rw [← handleFrame_withInbox]
            exact step_of_next?_eq_some hnext
          have hfirst : (station.withInbox []).handleFrames (frame :: Frame.among rest) =
              ((station.handleFrame frame).withInbox []).handleFrames (Frame.among rest) := by
            rw [← handleFrame_withInbox]
            rfl
          rw [hstep, Frame.among_of_next?_eq_some hnext, hfirst]
          rfl

/-- The station once bursts were heard, with a read timeout behind each. -/
def hearAll (station : Station) (bursts : List Bytes) : Station := bursts.foldl hear station

theorem hear_eq {station : Station} (hinbox : station.channel.inbox = [])
    (hpeer : station.channel.peerPresent) (burst : Bytes) :
    station.hear burst = station.handleFrames (Frame.among burst) := by
  have harrived : station.channel.arrive burst = { station.channel with inbox := burst } := by
    rw [Channel.arrive, if_pos hpeer, hinbox, List.nil_append]
  have hempty : (station.withInbox burst).withInbox [] = station := withInbox_of_inbox_eq hinbox
  rw [hear, harrived]
  change (station.withInbox burst).drain.2 = _
  rw [drain_eq, hempty]
  rfl

theorem hearAll_eq {station : Station} (hinbox : station.channel.inbox = [])
    (hpeer : station.channel.peerPresent) (bursts : List Bytes) :
    station.hearAll bursts = station.handleFrames (bursts.flatMap Frame.among) := by
  induction bursts generalizing station with
  | nil => rfl
  | cons burst bursts ih =>
      have hinbox' := (inbox_handleFrames station (Frame.among burst)).trans hinbox
      have hpeer' := (peerPresent_handleFrames station (Frame.among burst)).trans hpeer
      rw [hearAll, List.foldl_cons, hear_eq hinbox hpeer]
      exact (ih hinbox' hpeer').trans List.foldl_append.symm

/-- A station that hears bursts, with silence behind each, handles exactly the frames of each burst
taken alone, in their order, and sends what that makes it send. A frame that is broken off is lost
with the burst that it began in, and the rest of it is read as what it looks like. Where a stream is
cut outside of its frames, the station comes to the same as without the cuts. -/
theorem hears_frames_of_bursts {station : Station} (hinbox : station.channel.inbox = [])
    (hpeer : station.channel.peerPresent) :
    (∀ bursts, station.hearAll bursts = station.handleFrames (bursts.flatMap Frame.among)) ∧
    (∀ (frame : Frame) (front later : Bytes) (syncs count : Nat),
      (Packet.roomy.acceptAll front).state.syncs? = some syncs → count < frame.bytes.length →
      station.hearAll [front ++ frame.bytes.take count, frame.bytes.drop count ++ later] =
        station.handleFrames
          (Frame.among front ++ Frame.among (frame.bytes.drop count ++ later))) ∧
    ∀ pieces : List Bytes,
      (∀ count < pieces.length,
        (Packet.roomy.acceptAll (pieces.take count).flatten).state = .idle) →
      station.hearAll pieces = station.hear pieces.flatten := by
  have hroom : Packet.roomy.capacity = maxParameters := List.length_replicate
  have hidle : Packet.roomy.state = .idle := rfl
  refine ⟨hearAll_eq hinbox hpeer, ?_, ?_⟩
  · intro frame front later syncs count hcut hcount
    rw [hearAll_eq hinbox hpeer, List.flatMap_cons, List.flatMap_singleton,
      Frame.among_append_take hidle hroom hcut frame hcount]
  · intro pieces hcuts
    rw [hearAll_eq hinbox hpeer, hear_eq hinbox hpeer, Frame.among_flatten hidle hroom hcuts]

/-- Behind a lone sync byte a ping is broken off and its rest comes with a whole ping, which alone
is answered; noise and two pings in three pieces are answered as in one. -/
theorem hears_frames_of_bursts_broken_off :
    let station := smallest 1
    let ping := Frame.sound ⟨1⟩ (by decide) Instruction.ping.code [] (by decide)
    let pieces : List Bytes := [[0x07], ping.bytes, [0xFF, 0x00] ++ ping.bytes]
    station.channel.inbox = [] ∧ station.channel.peerPresent ∧
      (Packet.roomy.acceptAll [0xFF]).state.syncs? = some 1 ∧ 3 < ping.bytes.length ∧
      station.hearAll [[0xFF] ++ ping.bytes.take 3, ping.bytes.drop 3 ++ ping.bytes] =
        station.handleFrames [ping] ∧
      (station.handleFrames [ping]).channel.outbox = [0xFF, 0xFF, 0x01, 0x02, 0x00, 0xFC] ∧
      (∀ count < pieces.length,
        (Packet.roomy.acceptAll (pieces.take count).flatten).state = .idle) ∧
      station.hearAll pieces = station.hear pieces.flatten ∧
      station.hear pieces.flatten = station.handleFrames [ping, ping] := by
  intro station ping pieces
  have hinbox : station.channel.inbox = [] := rfl
  have hpeer : station.channel.peerPresent := rfl
  have hcut : (Packet.roomy.acceptAll [0xFF]).state.syncs? = some 1 := rfl
  have hcount : 3 < ping.bytes.length := by decide
  have hcuts : ∀ count < pieces.length,
      (Packet.roomy.acceptAll (pieces.take count).flatten).state = .idle := by decide +kernel
  obtain ⟨hbursts, hbroken, hpieces⟩ := hears_frames_of_bursts hinbox hpeer
  have hframes : Frame.among [0xFF] ++ Frame.among (ping.bytes.drop 3 ++ ping.bytes) = [ping] := by
    decide +kernel
  have hflat : pieces.flatMap Frame.among = [ping, ping] := by decide +kernel
  have hlost := hbroken ping [0xFF] ping.bytes 1 3 hcut hcount
  rw [hframes] at hlost
  have hwhole := hpieces pieces hcuts
  have hpings := hbursts pieces
  rw [hflat] at hpings
  exact ⟨hinbox, hpeer, hcut, hcount, hlost, by decide +kernel, hcuts, hwhole,
    hwhole.symm.trans hpings⟩

end Station

end ServoBus
