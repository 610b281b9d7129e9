import ServoBus.Proofs.RoundTrip
import ServoBus.Proofs.Transport

/-!
# Reading across timeouts

Whoever waits for a frame keeps one packet, and the packet keeps what was read: a timeout in the
middle of a frame ends a call and nothing else. So it makes no difference how the bytes of a stream
come, in one burst or in many with silence between them.

What carries this is that the packet after some bytes, and what was told on the way, depend on the
bytes alone (`Packet.acceptAll_append`, `Packet.told_append`), and that a call takes bytes up to the
next checksum and no further. Where that checksum stands, for a packet at any point of a frame, the
grammar tells (`Packet.behindChecksum?`).

Main statement: `Session.reads_on_across_timeouts`.
-/

namespace ServoBus

/-! ## Where the next checksum stands -/

namespace Packet

def behindBody? (count : Nat) (bytes : Bytes) : Option Bytes :=
  if count < bytes.length then some (bytes.drop (count + 1)) else none

/-- The bytes behind the next checksum. Outside of a frame it is the checksum of the first frame
that the grammar finds behind the sync bytes already seen; in a frame it stands behind the fields
and the parameters that are still to come. -/
def behindChecksum? (packet : Packet) (bytes : Bytes) : Option Bytes :=
  match packet.state with
  | .idle => (Frame.next? bytes).map Prod.snd
  | .firstSync => (Frame.next? (syncByte :: bytes)).map Prod.snd
  | .secondSync => (Frame.next? (syncByte :: syncByte :: bytes)).map Prod.snd
  | .idRead =>
      match bytes with
      | length :: _ :: body => behindBody? (length.toNat - 2) body
      | _ => none
  | .lengthRead =>
      match bytes with
      | _ :: body => behindBody? packet.parameterCount body
      | [] => none
  | .inBody => behindBody? (packet.parameterCount - packet.taken) bytes

def Assembled.behind? (taken : Assembled) : Option Bytes :=
  if taken.status = .incomplete then none else some taken.rest

theorem finish_ne_incomplete (packet : Packet) (received : UInt8) :
    (packet.finish received).2 ≠ .incomplete := by
  unfold finish
  dsimp only
  split
  · simp
  · split <;> simp

/-- In the body as many parameters come before the checksum as are declared and not taken, none if
more are taken than declared. -/
theorem behind?_takeFrame_body {packet : Packet} (hstate : packet.state = .inBody)
    (bytes : Bytes) :
    (packet.takeFrame bytes).behind? =
      behindBody? (packet.parameterCount - packet.taken) bytes := by
  induction bytes generalizing packet with
  | nil => rfl
  | cons byte rest ih =>
      by_cases htaken : packet.taken < packet.parameterCount
      · have haccept := accept_parameter hstate htaken byte
        have hincomplete : (packet.accept byte).2 = .incomplete := by rw [haccept]
        have hcount : packet.parameterCount - packet.taken =
            packet.parameterCount - (packet.taken + 1) + 1 := by omega
        have hrest : ((packet.takeParameter byte).takeFrame rest).behind? =
            behindBody? (packet.parameterCount - (packet.taken + 1)) rest := ih hstate
        rw [takeFrame_cons_of_incomplete rest hincomplete, haccept, hrest, hcount]
        simp only [behindBody?, List.length_cons, Nat.succ_lt_succ_iff, List.drop_succ_cons]
      · have haccept : packet.accept byte = packet.finish byte := by
          simp [accept, hstate, htaken]
        have hdone : (packet.accept byte).2 ≠ .incomplete := by
          rw [haccept]
          exact packet.finish_ne_incomplete byte
        have hnone : packet.parameterCount - packet.taken = 0 := by omega
        rw [takeFrame_cons_of_done rest hdone, hnone, Assembled.behind?, if_neg hdone]
        rfl

theorem behind?_takeFrame_of_syncs? {packet : Packet} {count : Nat}
    (hcount : packet.state.syncs? = some count) (bytes : Bytes) :
    (packet.takeFrame bytes).behind? =
      (Frame.next? (List.replicate count syncByte ++ bytes)).map Prod.snd := by
  have hidle : packet.reset.state = .idle := rfl
  rw [← takeFrame_replicate hcount]
  cases hnext : Frame.next? (List.replicate count syncByte ++ bytes) with
  | none => exact if_pos (takeFrame_of_next?_eq_none hidle hnext)
  | some found =>
      obtain ⟨frame, rest⟩ := found
      rw [takeFrame_of_next?_eq_some hidle hnext]
      exact if_neg (frame.status_ne_incomplete packet.reset.capacity)

/-- At any point of a frame, a packet takes bytes up to the next checksum, or all of them. -/
theorem behind?_takeFrame (packet : Packet) (bytes : Bytes) :
    (packet.takeFrame bytes).behind? = packet.behindChecksum? bytes := by
  unfold behindChecksum?
  cases hstate : packet.state with
  | idle | firstSync | secondSync => exact behind?_takeFrame_of_syncs? (by rw [hstate]; rfl) bytes
  | idRead =>
      rcases bytes with _ | ⟨length, _ | ⟨command, body⟩⟩
      · rfl
      · simp [takeFrame, accept, hstate, Assembled.behind?]
      · have htake : packet.takeFrame (length :: command :: body) =
            ({ packet with
                state := .inBody, length, command, taken := 0
                checksum := packet.checksum + length + command } : Packet).takeFrame body := by
          simp [takeFrame, accept, hstate]
        rw [htake]
        exact behind?_takeFrame_body rfl body
  | lengthRead =>
      cases bytes with
      | nil => rfl
      | cons command body =>
          have htake : packet.takeFrame (command :: body) =
              ({ packet with
                  state := .inBody, command, taken := 0
                  checksum := packet.checksum + command } : Packet).takeFrame body := by
            simp [takeFrame, accept, hstate]
          rw [htake]
          exact behind?_takeFrame_body rfl body
  | inBody => exact behind?_takeFrame_body hstate bytes

end Packet

/-! ## Links that lose nothing -/

/-- A link at which a frame is taken from what is pending, and at which a wait in vain ends in one
and the same way. As long as that is a timeout, what comes is pending behind what was. -/
class Orderly (L : Type) [Link L] [Peered L] where
  /-- What a wait ends in where no byte is pending. -/
  ended : L → Error
  readFrame_run : ∀ (link : L) (packet : Packet),
    let taken := packet.takeFrame (Link.pending link)
    ∃ next, Link.readFrame link packet = {
        result := if taken.status = .incomplete then .error (ended link) else .ok taken.status
        packet := taken.packet
        link := next } ∧
      ended next = ended link ∧ Link.pending next = taken.rest
  arrive_run : ∀ (link : L) (bytes : Bytes), ended link = .timeout →
    ended (Peered.arrive link bytes) = .timeout ∧
      Link.pending (Peered.arrive link bytes) = Link.pending link ++ bytes

instance : Orderly Channel where
  ended channel := if channel.peerPresent then .timeout else .io .channelClosed
  readFrame_run channel packet := ⟨_, channel.readFrame_eq packet, rfl, rfl⟩
  arrive_run := by
    intro channel bytes hended
    obtain ⟨inbox, outbox, peerPresent, rate?⟩ := channel
    cases peerPresent with
    | false => cases hended
    | true => exact ⟨rfl, rfl⟩

instance : Orderly Socket where
  ended socket := if socket.peerOpen then .timeout else .io .peerClosed
  readFrame_run := by
    intro socket packet
    obtain ⟨next, hframe, hleaves⟩ := socket.readFrame_run packet
    exact ⟨next, hframe, by rw [hleaves.peerOpen], hleaves.pending⟩
  arrive_run := by
    intro socket bytes hended
    obtain ⟨buffer, stream, peerOpen, outbox, rate?⟩ := socket
    cases peerOpen with
    | false => cases hended
    | true => exact ⟨rfl, (List.append_assoc ..).symm⟩

/-! ## What a reader is told -/

namespace Packet

/-- What is told of the frames that end among some bytes: whether each is sound, and the packet
after it. -/
def told (packet : Packet) (bytes : Bytes) : List (Except Error Unit × Packet) :=
  ((packet.reports bytes).filter fun report => report.2.isDone).map fun report =>
    (report.1.outcome report.2, report.1)

@[simp] theorem told_nil (packet : Packet) : packet.told [] = [] := rfl

theorem told_append (packet : Packet) (front back : Bytes) :
    packet.told (front ++ back) = packet.told front ++ (packet.acceptAll front).told back := by
  rw [told, reports_append, List.filter_append, List.map_append]
  rfl

theorem told_of_none_done {packet : Packet} {bytes : Bytes}
    (h : ∀ report ∈ packet.reports bytes, report.2 = .incomplete) : packet.told bytes = [] := by
  rw [told, List.map_eq_nil_iff, List.filter_eq_nil_iff]
  intro report hreport
  simp [ParseStatus.isDone, h report hreport]

theorem told_of_incomplete {packet : Packet} {bytes : Bytes}
    (h : (packet.takeFrame bytes).status = .incomplete) : packet.told bytes = [] :=
  told_of_none_done (reports_of_incomplete packet bytes h)

theorem told_of_done {packet : Packet} {bytes : Bytes}
    (h : (packet.takeFrame bytes).status ≠ .incomplete) :
    let taken := packet.takeFrame bytes
    packet.told bytes = (taken.packet.outcome taken.status, taken.packet) ::
      taken.packet.told taken.rest := by
  intro taken
  obtain ⟨front, last, -, hfront, hreports⟩ := reports_of_done packet bytes h
  have hdone : taken.status.isDone = true := by simp [ParseStatus.isDone, taken, h]
  have hnone : ((packet.reports front).filter fun report => report.2.isDone) = [] :=
    List.map_eq_nil_iff.mp (told_of_none_done hfront)
  rw [told, hreports, List.filter_append, hnone, List.nil_append, List.filter_cons, if_pos hdone]
  rfl

theorem acceptAll_takeFrame (packet : Packet) (bytes : Bytes) :
    let taken := packet.takeFrame bytes
    taken.packet.acceptAll taken.rest = packet.acceptAll bytes := by
  intro taken
  unfold taken
  induction bytes generalizing packet with
  | nil => rfl
  | cons byte rest ih =>
      by_cases hincomplete : (packet.accept byte).2 = .incomplete
      · rw [takeFrame_cons_of_incomplete rest hincomplete]
        exact ih (packet.accept byte).1
      · rw [takeFrame_cons_of_done rest hincomplete]
        rfl

theorem outcome_ne_timeout (packet : Packet) (status : ParseStatus) :
    packet.outcome status ≠ .error .timeout := by
  cases status <;> simp [outcome]

end Packet

namespace LinkEvent

def feedsOrReads : LinkEvent → Bool
  | arrive _ | readPacket => true
  | leave | available | readByte => false

/-- Each burst comes once the one before was read, and frames are read from it until there is
nothing left: more often than it has bytes, so that the last time is in vain. -/
def readOut (bursts : List Bytes) : List LinkEvent :=
  bursts.flatMap fun burst => arrive burst :: List.replicate (burst.length + 1) readPacket

theorem feedsOrReads_readOut (bursts : List Bytes) :
    ∀ event ∈ readOut bursts, event.feedsOrReads := by
  intro event hevent
  obtain ⟨burst, -, hmem⟩ := List.mem_flatMap.mp hevent
  rcases List.mem_cons.mp hmem with rfl | hread
  · rfl
  · rw [List.eq_of_mem_replicate hread]
    rfl

theorem sent_eq_flatMap {events : List LinkEvent} (h : .leave ∉ events) :
    sent events = events.flatMap brings := by
  induction events with
  | nil => rfl
  | cons event events ih =>
      have hevent : event ≠ .leave := fun heq => h (heq ▸ List.mem_cons_self ..)
      rw [sent, if_neg hevent, ih fun hmem => h (List.mem_cons_of_mem _ hmem), List.flatMap_cons]

theorem sent_readOut (bursts : List Bytes) : sent (readOut bursts) = bursts.flatten := by
  have hstay : .leave ∉ readOut bursts := fun hmem =>
    Bool.false_ne_true (feedsOrReads_readOut bursts _ hmem)
  have hreads (count : Nat) : (List.replicate count readPacket).flatMap brings = [] := by
    simp [brings]
  rw [sent_eq_flatMap hstay, readOut, List.flatMap_assoc, ← List.flatMap_id]
  congr 1
  funext burst
  rw [List.flatMap_cons, hreads, List.append_nil]
  rfl

end LinkEvent

namespace LinkAnswer

def framed? : LinkAnswer → Option (Except Error Unit × Packet)
  | .packet result after => if result = .error .timeout then none else some (result, after)
  | .unasked | .count _ | .byte _ => none

def framed (answers : List LinkAnswer) : List (Except Error Unit × Packet) :=
  answers.filterMap framed?

theorem framed_cons (answer : LinkAnswer) (answers : List LinkAnswer) :
    framed (answer :: answers) = answer.framed?.toList ++ framed answers := by
  rw [framed, List.filterMap_cons]
  cases answer.framed? <;> rfl

end LinkAnswer

namespace Session

variable {L : Type} [Link L] [Peered L]

theorem meetAll_append (session : Session L) (front back : List LinkEvent) :
    (session.meetAll (front ++ back)).2 = ((session.meetAll front).2.meetAll back).2 := by
  induction front generalizing session with
  | nil => rfl
  | cons event front ih => exact ih (session.meet event).2

variable [Orderly L] {session : Session L}

/-! ## One call -/

/-- A call takes a frame from what is pending, or takes all of it and runs out of time. -/
theorem meet_readPacket (hopen : Orderly.ended session.link = .timeout) :
    let taken := session.packet.takeFrame (Link.pending session.link)
    let call := session.meet .readPacket
    call.1 = .packet
      (if taken.status = .incomplete then .error .timeout
        else taken.packet.outcome taken.status) taken.packet ∧
    call.2.packet = taken.packet ∧ Link.pending call.2.link = taken.rest ∧
      Orderly.ended call.2.link = .timeout := by
  intro taken call
  obtain ⟨next, hframe, hended, hrest⟩ := Orderly.readFrame_run session.link session.packet
  have hcall : call = (.packet ((if taken.status = .incomplete
      then Except.error (Orderly.ended session.link) else .ok taken.status).bind
        taken.packet.outcome) taken.packet, ⟨next, taken.packet⟩) := by
    unfold call
    dsimp only [meet, Link.readPacket]
    rw [hframe]
  rw [hcall, hopen]
  refine ⟨?_, rfl, hrest, hended.trans hopen⟩
  dsimp only
  split <;> rfl

/-- What happens at a link takes nothing from the frames that are still to be told of, and the
packet comes to the same in the end. -/
theorem told_meet (hopen : Orderly.ended session.link = .timeout) {event : LinkEvent}
    (hevent : event.feedsOrReads) :
    let met := session.meet event
    let stream := Link.pending session.link ++ event.brings
    Orderly.ended met.2.link = .timeout ∧
      session.packet.told stream =
        met.1.framed?.toList ++ met.2.packet.told (Link.pending met.2.link) ∧
      session.packet.acceptAll stream = met.2.packet.acceptAll (Link.pending met.2.link) := by
  intro met stream
  cases event with
  | arrive bytes =>
      obtain ⟨hended, hpending⟩ := Orderly.arrive_run session.link bytes hopen
      have hlink : Link.pending met.2.link = stream := hpending
      refine ⟨hended, ?_, ?_⟩
      · rw [hlink]
        rfl
      · rw [hlink]
        rfl
  | readPacket =>
      obtain ⟨hanswer, hpacket, hrest, hended⟩ := meet_readPacket hopen
      have hstream : stream = Link.pending session.link := List.append_nil _
      rw [hstream, hanswer, hpacket, hrest, Packet.acceptAll_takeFrame]
      refine ⟨hended, ?_, rfl⟩
      split
      · next hincomplete =>
          rw [Packet.told_of_incomplete hincomplete,
            Packet.takeFrame_rest_of_incomplete _ _ hincomplete, Packet.told_nil]
          rfl
      · next hdone =>
          rw [Packet.told_of_done hdone, LinkAnswer.framed?,
            if_neg (Packet.outcome_ne_timeout _ _)]
          rfl
  | leave | available | readByte => cases hevent

/-! ## Many calls -/

/-- Along a run, what is told and what is still to be told is what the stream has to tell. -/
theorem told_meetAll (hopen : Orderly.ended session.link = .timeout) {events : List LinkEvent}
    (hevents : ∀ event ∈ events, event.feedsOrReads) :
    let run := session.meetAll events
    let stream := Link.pending session.link ++ LinkEvent.sent events
    Orderly.ended run.2.link = .timeout ∧
      session.packet.told stream =
        LinkAnswer.framed run.1 ++ run.2.packet.told (Link.pending run.2.link) ∧
      session.packet.acceptAll stream = run.2.packet.acceptAll (Link.pending run.2.link) := by
  induction events generalizing session with
  | nil =>
      intro run stream
      have hstream : stream = Link.pending session.link := List.append_nil _
      rw [hstream]
      exact ⟨hopen, rfl, rfl⟩
  | cons event events ih =>
      intro run stream
      have hevent := hevents event (List.mem_cons_self ..)
      obtain ⟨hended, htold, hpacket⟩ := told_meet hopen hevent
      obtain ⟨hlast, hrest, hfinal⟩ := ih hended fun later hlater =>
        hevents later (List.mem_cons_of_mem _ hlater)
      -- nobody leaves, so that what comes in all is what comes now and what comes later
      have hstay : event ≠ .leave := by
        rintro rfl
        cases hevent
      have hstream : stream =
          (Link.pending session.link ++ event.brings) ++ LinkEvent.sent events := by
        unfold stream
        rw [LinkEvent.sent, if_neg hstay, List.append_assoc]
      refine ⟨hlast, ?_, ?_⟩
      · change _ = LinkAnswer.framed (_ :: _) ++ _
        rw [hstream, Packet.told_append, htold, hpacket, List.append_assoc, ← Packet.told_append,
          hrest, LinkAnswer.framed_cons, List.append_assoc]
        rfl
      · rw [hstream, Packet.acceptAll_append, hpacket, ← Packet.acceptAll_append, hfinal]
        rfl

theorem told_of_used_up (hopen : Orderly.ended session.link = .timeout)
    (hempty : Link.pending session.link = []) {events : List LinkEvent}
    (hevents : ∀ event ∈ events, event.feedsOrReads)
    (hused : Link.pending (session.meetAll events).2.link = []) :
    LinkAnswer.framed (session.meetAll events).1 = session.packet.told (LinkEvent.sent events) ∧
      (session.meetAll events).2.packet = session.packet.acceptAll (LinkEvent.sent events) := by
  obtain ⟨-, htold, hpacket⟩ := told_meetAll hopen hevents
  rw [hempty, hused, List.nil_append] at htold hpacket
  rw [Packet.told_nil, List.append_nil] at htold
  exact ⟨htold.symm, hpacket.symm⟩

/-- Each call that finds a byte takes one at least, so that as many calls as there are bytes take
them all. -/
theorem pending_reads (hopen : Orderly.ended session.link = .timeout) {count : Nat}
    (hcount : (Link.pending session.link).length ≤ count) :
    let after := (session.meetAll (List.replicate count .readPacket)).2.link
    Link.pending after = [] ∧ Orderly.ended after = .timeout := by
  induction count generalizing session with
  | zero => exact ⟨List.length_eq_zero_iff.mp (Nat.le_zero.mp hcount), hopen⟩
  | succ count ih =>
      obtain ⟨-, -, hrest, hended⟩ := meet_readPacket hopen
      have hfewer : (Link.pending (session.meet .readPacket).2.link).length ≤ count := by
        rw [hrest]
        by_cases hnone : Link.pending session.link = []
        · rw [hnone]
          exact Nat.zero_le _
        · have hlt := session.packet.takeFrame_rest_length_lt hnone
          omega
      exact ih hended hfewer

theorem pending_readOut (hopen : Orderly.ended session.link = .timeout)
    (hempty : Link.pending session.link = []) (bursts : List Bytes) :
    Link.pending (session.meetAll (LinkEvent.readOut bursts)).2.link = [] := by
  induction bursts generalizing session with
  | nil => exact hempty
  | cons burst bursts ih =>
      obtain ⟨hended, hpending⟩ := Orderly.arrive_run session.link burst hopen
      let arrived : Session L := (session.meet (.arrive burst)).2
      have hcount : (Link.pending arrived.link).length ≤ burst.length + 1 := by
        have hburst : Link.pending arrived.link = burst := by
          rw [hempty] at hpending
          exact hpending
        rw [hburst]
        exact Nat.le_succ _
      obtain ⟨hread, hlast⟩ := pending_reads hended hcount
      have hsplit : LinkEvent.readOut (burst :: bursts) =
          (.arrive burst :: List.replicate (burst.length + 1) .readPacket) ++
            LinkEvent.readOut bursts := List.flatMap_cons
      rw [hsplit, meetAll_append]
      exact ih hlast hread

/-- A packet can be read on with after every timeout. Frames are told of alike, by the same results
and with the same packet behind each, however the stream is cut into bursts and however often is
asked in between; to ask until nothing is left uses up any burst. A call that is in time takes the
bytes up to the next checksum and no more; a call that is not takes what there is. -/
theorem reads_on_across_timeouts (hopen : Orderly.ended session.link = .timeout)
    (hempty : Link.pending session.link = []) :
    (∀ events : List LinkEvent, (∀ event ∈ events, event.feedsOrReads) →
      let run := session.meetAll events
      Link.pending run.2.link = [] →
      LinkAnswer.framed run.1 = session.packet.told (LinkEvent.sent events) ∧
        run.2.packet = session.packet.acceptAll (LinkEvent.sent events)) ∧
    (∀ bursts : List Bytes,
      let cut := session.meetAll (LinkEvent.readOut bursts)
      let whole := session.meetAll (LinkEvent.readOut [bursts.flatten])
      Link.pending cut.2.link = [] ∧ Link.pending whole.2.link = [] ∧
        LinkAnswer.framed cut.1 = LinkAnswer.framed whole.1 ∧ cut.2.packet = whole.2.packet) ∧
    ∀ reader : Session L, Orderly.ended reader.link = .timeout →
      let call := reader.meet .readPacket
      match reader.packet.behindChecksum? (Link.pending reader.link) with
      | none =>
          call.1 = .packet (.error .timeout) call.2.packet ∧ Link.pending call.2.link = []
      | some rest => ∃ result front checksum,
          call.1 = .packet result call.2.packet ∧ result ≠ .error .timeout ∧
          Link.pending reader.link = front ++ checksum :: rest ∧
          Link.pending call.2.link = rest := by
  refine ⟨fun events hevents => told_of_used_up hopen hempty hevents, ?_, ?_⟩
  · intro bursts cut whole
    have hcut := pending_readOut hopen hempty bursts
    have hwhole := pending_readOut hopen hempty [bursts.flatten]
    obtain ⟨htold, hpacket⟩ :=
      told_of_used_up hopen hempty (LinkEvent.feedsOrReads_readOut bursts) hcut
    obtain ⟨htold', hpacket'⟩ :=
      told_of_used_up hopen hempty (LinkEvent.feedsOrReads_readOut [bursts.flatten]) hwhole
    rw [LinkEvent.sent_readOut] at htold hpacket htold' hpacket'
    rw [List.flatten_singleton] at htold' hpacket'
    exact ⟨hcut, hwhole, htold.trans htold'.symm, hpacket.trans hpacket'.symm⟩
  · intro reader hended call
    obtain ⟨hanswer, hpacket, hrest, -⟩ := meet_readPacket hended
    rw [← Packet.behind?_takeFrame, Packet.Assembled.behind?]
    by_cases hincomplete :
        (reader.packet.takeFrame (Link.pending reader.link)).status = .incomplete
    · rw [if_pos hincomplete] at hanswer ⊢
      rw [Packet.takeFrame_rest_of_incomplete _ _ hincomplete] at hrest
      exact ⟨hanswer.trans (by rw [hpacket]), hrest⟩
    · rw [if_neg hincomplete] at hanswer ⊢
      obtain ⟨front, checksum, hbytes, -⟩ := Packet.reports_of_done _ _ hincomplete
      exact ⟨_, front, checksum, hanswer.trans (by rw [hpacket]),
        Packet.outcome_ne_timeout _ _, hbytes, hrest⟩

/-- A socket brings a damaged frame behind noise and a sound one, cut in the middle of both, with
an empty burst in between. Reading on in the middle of a frame stops behind its checksum. -/
theorem reads_on_across_timeouts_mid_frame :
    let reply := Frame.sound ⟨5⟩ (by decide) 0 [7] (by decide)
    let damaged : Frame := { reply with received := 0 }
    let stream : Bytes := [3, 0xFF, 9] ++ damaged.bytes ++ reply.bytes
    let bursts : List Bytes := [stream.take 8, [], (stream.drop 8).take 6, stream.drop 14]
    let session : Session Socket := ⟨{}, .roomy⟩
    let run := session.meetAll (LinkEvent.readOut bursts)
    let reader : Session Socket :=
      ⟨{ buffer := [0, 7, 0xF0, 1, 2] }, { Packet.roomy with state := .lengthRead, length := 3 }⟩
    Orderly.ended session.link = .timeout ∧ Link.pending session.link = [] ∧
    (∀ event ∈ LinkEvent.readOut bursts, event.feedsOrReads) ∧ Link.pending run.2.link = [] ∧
    LinkAnswer.framed run.1 = session.packet.told stream ∧
    (LinkAnswer.framed run.1).map Prod.fst = [.error (.checksumMismatch 0xF0 0), .ok ()] ∧
    Orderly.ended reader.link = .timeout ∧
    reader.packet.behindChecksum? (Link.pending reader.link) = some [1, 2] ∧
    Link.pending (reader.meet .readPacket).2.link = [1, 2] := by
  intro reply damaged stream bursts session run reader
  obtain ⟨hruns, hbursts, hcalls⟩ :=
    reads_on_across_timeouts (rfl : Orderly.ended session.link = .timeout)
      (rfl : Link.pending session.link = [])
  have hevents := LinkEvent.feedsOrReads_readOut bursts
  have hused : Link.pending run.2.link = [] := (hbursts bursts).1
  have htold := (hruns _ hevents hused).1
  have hsent : LinkEvent.sent (LinkEvent.readOut bursts) = stream := by decide +kernel
  rw [hsent] at htold
  have hstream : (session.packet.told stream).map Prod.fst =
      [.error (.checksumMismatch 0xF0 0), .ok ()] := by decide +kernel
  have hbehind : reader.packet.behindChecksum? (Link.pending reader.link) = some [1, 2] := by
    decide +kernel
  have hcall := hcalls reader rfl
  rw [hbehind] at hcall
  obtain ⟨result, front, checksum, -, -, -, hrest⟩ := hcall
  exact ⟨rfl, rfl, hevents, hused, htold, htold ▸ hstream, rfl, hbehind, hrest⟩

end Session

end ServoBus
