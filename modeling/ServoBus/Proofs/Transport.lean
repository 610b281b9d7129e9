import Mathlib.Data.List.Forall2
import ServoBus.Link.Channel
import ServoBus.Link.Socket

/-!
# What comes through a link

Bytes come to a link in portions of any size, and whoever holds it looks how many there are, reads
some of them, or reads a frame. A socket moves bytes from its stream to its buffer in between, by
one way when it is looked at and by another when it is read. None is lost, doubled or overtaken by
that, and nobody who reads can tell a socket from a channel.

What ties a socket to a channel is `Socket.pending`, the buffer and the stream behind it: every call
does to it what it does to the inbox of a channel (`Socket.Pairs`).

Main statement: `Socket.carries_what_arrives`.
-/

namespace ServoBus

/-! ## A link and its peer -/

/-- A link at whose other end somebody can be seen to act. -/
class Peered (L : Type) [Link L] where
  arrive : L → Bytes → L
  dropPeer : L → L

instance : Peered Channel where
  arrive := Channel.arrive
  dropPeer := Channel.dropPeer

instance : Peered Socket where
  arrive := Socket.arrive
  dropPeer := Socket.dropPeer

/-- What happens at a link: bytes come from the peer, the peer leaves, or a call is made. -/
inductive LinkEvent where
  | arrive (bytes : Bytes)
  | leave
  | available
  | readByte
  | readPacket
  deriving DecidableEq

inductive LinkAnswer where
  | unasked
  | count (result : Except Error Nat)
  | byte (result : Except Error UInt8)
  | packet (result : Except Error Unit) (packet : Packet)

structure Session (L : Type) where
  link : L
  packet : Packet

namespace Session

variable {L : Type} [Link L] [Peered L]

def meet (session : Session L) : LinkEvent → LinkAnswer × Session L
  | .arrive bytes => (.unasked, { session with link := Peered.arrive session.link bytes })
  | .leave => (.unasked, { session with link := Peered.dropPeer session.link })
  | .available =>
      let answered := Link.available session.link
      (.count answered.1, { session with link := answered.2 })
  | .readByte =>
      let answered := Link.readByte session.link
      (.byte answered.1, { session with link := answered.2 })
  | .readPacket =>
      let reading := Link.readPacket session.link session.packet
      (.packet reading.result reading.packet, ⟨reading.link, reading.packet⟩)

def meetAll (session : Session L) : List LinkEvent → List LinkAnswer × Session L
  | [] => ([], session)
  | event :: events =>
      let met := session.meet event
      let rest := met.2.meetAll events
      (met.1 :: rest.1, rest.2)

end Session

namespace LinkEvent

def brings : LinkEvent → Bytes
  | arrive bytes => bytes
  | leave | available | readByte | readPacket => []

/-- All that the peer sends before it leaves. -/
def sent : List LinkEvent → Bytes
  | [] => []
  | event :: events => event.brings ++ if event = leave then [] else sent events

end LinkEvent

/-- The error without the words in which a link tells of a failure below it. -/
def Error.wordless : Error → Error
  | .io cause => .io { cause with text := "" }
  | other => other

namespace LinkAnswer

def read? : LinkAnswer → Option UInt8
  | byte (.ok value) => some value
  | _ => none

def delivered (answers : List LinkAnswer) : Bytes := answers.filterMap read?

/-- The answers differ at most in the words of failures, and in how many bytes can be read without
waiting. -/
inductive Alike : LinkAnswer → LinkAnswer → Prop
  | unasked : Alike unasked unasked
  | count (first second : Except Error Nat) : Alike (count first) (count second)
  | byte {first second : Except Error UInt8} :
      first.mapError Error.wordless = second.mapError Error.wordless →
      Alike (byte first) (byte second)
  | packet {first second : Except Error Unit} (packet : Packet) :
      first.mapError Error.wordless = second.mapError Error.wordless →
      Alike (LinkAnswer.packet first packet) (LinkAnswer.packet second packet)

end LinkAnswer

namespace Socket

/-! ## One call to a socket -/

/-- What a call leaves of a socket: it changes what is pending, and nothing else that matters. The
buffer never has more than a chunk. -/
structure Leaves (before after : Socket) (rest : Bytes) : Prop where
  pending : after.pending = rest
  peerOpen : after.peerOpen = before.peerOpen
  buffer : before.buffer.length ≤ chunk → after.buffer.length ≤ chunk

theorem leaves_self (socket : Socket) : socket.Leaves socket socket.pending := ⟨rfl, rfl, id⟩

theorem leaves_trans {first second third : Socket} {rest last : Bytes}
    (h : first.Leaves second rest) (h' : second.Leaves third last) : first.Leaves third last :=
  ⟨h'.pending, h'.peerOpen.trans h.peerOpen, fun hbuffer => h'.buffer (h.buffer hbuffer)⟩

theorem leaves_fill (socket : Socket) : socket.Leaves socket.fill socket.pending := by
  refine ⟨socket.pending_fill, ?_, ?_⟩
  · unfold fill
    split <;> rfl
  · intro hbuffer
    unfold fill
    split
    · exact List.length_take_le ..
    · exact hbuffer

theorem buffer_fill_eq_nil_iff (socket : Socket) :
    socket.fill.buffer = [] ↔ socket.pending = [] := by
  unfold fill pending
  split
  · next hempty => simp [hempty, chunk]
  · next hsome => simp [hsome]

theorem readByte_of_pending_eq_cons {socket : Socket} {byte : UInt8} {rest : Bytes}
    (h : socket.pending = byte :: rest) :
    ∃ next, socket.readByte = (.ok byte, next) ∧ socket.Leaves next rest := by
  have hfill := socket.leaves_fill
  have hpending := hfill.pending.trans h
  cases hbuffer : socket.fill.buffer with
  | nil =>
      rw [(socket.buffer_fill_eq_nil_iff).mp hbuffer] at h
      cases h
  | cons first buffer =>
      rw [pending, hbuffer, List.cons_append] at hpending
      obtain ⟨rfl, hrest⟩ := List.cons.inj hpending
      refine ⟨{ socket.fill with buffer }, ?_, leaves_trans hfill ⟨hrest, rfl, ?_⟩⟩
      · unfold readByte
        dsimp only
        rw [hbuffer]
      · rw [hbuffer, List.length_cons]
        exact Nat.le_of_succ_le

theorem readByte_of_pending_eq_nil {socket : Socket} (h : socket.pending = []) :
    ∃ next, socket.readByte =
        (.error (if socket.peerOpen then .timeout else .io .peerClosed), next) ∧
      socket.Leaves next [] := by
  have hfill := socket.leaves_fill
  have hbuffer := (socket.buffer_fill_eq_nil_iff).mpr h
  rw [h] at hfill
  refine ⟨socket.fill, ?_, hfill⟩
  unfold readByte
  dsimp only
  rw [hbuffer, hfill.peerOpen]

theorem readByte_eq (socket : Socket) :
    socket.readByte.1 =
      match socket.pending with
      | byte :: _ => .ok byte
      | [] => .error (if socket.peerOpen then .timeout else .io .peerClosed) := by
  cases hpending : socket.pending with
  | nil =>
      obtain ⟨next, hread, -⟩ := readByte_of_pending_eq_nil hpending
      rw [hread]
  | cons byte rest =>
      obtain ⟨next, hread, -⟩ := readByte_of_pending_eq_cons hpending
      rw [hread]

theorem readBytes_run (socket : Socket) {count : Nat} (h : count ≤ socket.pending.length) :
    ∃ next, Link.readBytes socket count = ⟨.ok (), socket.pending.take count, next⟩ ∧
      socket.Leaves next (socket.pending.drop count) := by
  induction count generalizing socket with
  | zero => exact ⟨socket, rfl, socket.leaves_self⟩
  | succ count ih =>
      cases hpending : socket.pending with
      | nil =>
          rw [hpending] at h
          exact absurd h (Nat.not_succ_le_zero _)
      | cons byte rest =>
          obtain ⟨next, hread, hleaves⟩ := readByte_of_pending_eq_cons hpending
          have hrest : count ≤ next.pending.length := by
            rw [hleaves.pending]
            rw [hpending, List.length_cons] at h
            exact Nat.le_of_succ_le_succ h
          obtain ⟨last, hreads, hlast⟩ := ih next hrest
          have hbyte : Link.readByte socket = (.ok byte, next) := hread
          rw [hleaves.pending] at hreads hlast
          refine ⟨last, ?_, leaves_trans hleaves hlast⟩
          rw [Link.readBytes, hbyte]
          dsimp only
          rw [hreads]
          rfl

theorem available_of_pending_ne_nil {socket : Socket} (hbuffer : socket.buffer.length ≤ chunk)
    (h : socket.pending ≠ []) :
    ∃ count next, socket.available = (.ok count, next) ∧ 1 ≤ count ∧ count ≤ chunk ∧
      ∃ last, Link.readBytes next count = ⟨.ok (), socket.pending.take count, last⟩ := by
  have hfill := socket.leaves_fill
  have hsome := mt (socket.buffer_fill_eq_nil_iff).mp h
  have hcount : socket.fill.buffer.length ≤ socket.fill.pending.length := by
    rw [pending, List.length_append]
    exact Nat.le_add_right _ _
  obtain ⟨last, hreads, -⟩ := readBytes_run socket.fill hcount
  rw [hfill.pending] at hreads
  refine ⟨_, _, ?_, List.length_pos_iff.mpr hsome, hfill.buffer hbuffer, last, hreads⟩
  unfold available
  dsimp only
  rw [if_neg fun hnone => hsome hnone.1]

theorem available_of_pending_eq_nil {socket : Socket} (h : socket.pending = []) :
    socket.available.1 = if socket.peerOpen then .ok 0 else .error (.io .peerClosed) := by
  have hopen := socket.leaves_fill.peerOpen
  have hbuffer := (socket.buffer_fill_eq_nil_iff).mpr h
  unfold available
  dsimp only
  rw [hbuffer, hopen]
  cases socket.peerOpen with
  | true => rfl
  | false => rfl

theorem leaves_available (socket : Socket) : socket.Leaves socket.available.2 socket.pending := by
  unfold available
  dsimp only
  split <;> exact socket.leaves_fill

theorem leaves_readByte (socket : Socket) :
    socket.Leaves socket.readByte.2 socket.pending.tail := by
  cases hpending : socket.pending with
  | nil =>
      obtain ⟨next, hread, hleaves⟩ := readByte_of_pending_eq_nil hpending
      rw [hread]
      exact hleaves
  | cons byte rest =>
      obtain ⟨next, hread, hleaves⟩ := readByte_of_pending_eq_cons hpending
      rw [hread]
      exact hleaves

/-- Reading a frame from a socket is taking it from what is pending. -/
theorem readFrame_run (socket : Socket) (packet : Packet) :
    let taken := packet.takeFrame socket.pending
    ∃ next, Link.readFrame socket packet = {
        result :=
          if taken.status = .incomplete then
            .error (if socket.peerOpen then .timeout else .io .peerClosed)
          else .ok taken.status
        packet := taken.packet
        link := next } ∧ socket.Leaves next taken.rest := by
  intro taken
  unfold taken
  -- along what is pending: each byte is read in its turn, by way of the buffer or not
  induction hpending : socket.pending generalizing socket packet with
  | nil =>
      obtain ⟨next, hread, hleaves⟩ := readByte_of_pending_eq_nil hpending
      have hbyte : Link.readByte socket = _ := hread
      refine ⟨next, ?_, hleaves⟩
      rw [Link.readFrame, hbyte]
      rfl
  | cons byte rest ih =>
      obtain ⟨next, hread, hleaves⟩ := readByte_of_pending_eq_cons hpending
      have hbyte : Link.readByte socket = _ := hread
      by_cases hincomplete : (packet.accept byte).2 = .incomplete
      · obtain ⟨last, hframe, hlast⟩ := ih next (packet.accept byte).1 hleaves.pending
        rw [hleaves.peerOpen] at hframe
        rw [Packet.takeFrame_cons_of_incomplete rest hincomplete]
        refine ⟨last, ?_, leaves_trans hleaves hlast⟩
        rw [Link.readFrame, hbyte]
        simpa [hincomplete] using hframe
      · rw [Packet.takeFrame_cons_of_done rest hincomplete]
        refine ⟨next, ?_, hleaves⟩
        rw [Link.readFrame, hbyte]
        simp [hincomplete]

end Socket

namespace Session

/-! ## A socket by itself -/

variable (session : Session Socket)

/-- Nothing is lost or doubled when something happens at a socket. -/
theorem pending_meet {event : LinkEvent} (h : event ≠ .readPacket) :
    let met := session.meet event
    session.link.pending ++ (if session.link.peerOpen then event.brings else []) =
      met.1.read?.toList ++ met.2.link.pending := by
  cases event with
  | arrive bytes =>
      change _ = (session.link.arrive bytes).pending
      unfold Socket.arrive
      cases session.link.peerOpen with
      | true => exact List.append_assoc ..
      | false => exact List.append_nil _
  | leave =>
      change session.link.pending ++ (if _ then [] else []) = session.link.pending
      rw [ite_self, List.append_nil]
  | available =>
      change session.link.pending ++ (if _ then [] else []) = session.link.available.2.pending
      rw [session.link.leaves_available.pending, ite_self, List.append_nil]
  | readByte =>
      change session.link.pending ++ (if _ then [] else []) =
        (LinkAnswer.byte session.link.readByte.1).read?.toList ++ session.link.readByte.2.pending
      rw [session.link.leaves_readByte.pending, ite_self, List.append_nil, Socket.readByte_eq]
      cases session.link.pending with
      | nil => rfl
      | cons byte rest => rfl
  | readPacket => exact absurd rfl h

theorem peerOpen_meet (event : LinkEvent) :
    (session.meet event).2.link.peerOpen = (session.link.peerOpen && event ≠ .leave) := by
  cases event with
  | arrive bytes =>
      change (session.link.arrive bytes).peerOpen = _
      unfold Socket.arrive
      split <;> simp
  | leave => simp [meet, Peered.dropPeer, Socket.dropPeer]
  | available => exact session.link.leaves_available.peerOpen.trans (Bool.and_true _).symm
  | readByte => exact session.link.leaves_readByte.peerOpen.trans (Bool.and_true _).symm
  | readPacket =>
      obtain ⟨next, hframe, hleaves⟩ := session.link.readFrame_run session.packet
      have hnext : (session.meet .readPacket).2.link = next := congrArg Link.Reading.link hframe
      rw [hnext, hleaves.peerOpen]
      simp

theorem buffer_meet (event : LinkEvent) (h : session.link.buffer.length ≤ Socket.chunk) :
    (session.meet event).2.link.buffer.length ≤ Socket.chunk := by
  cases event with
  | arrive bytes =>
      change (session.link.arrive bytes).buffer.length ≤ _
      unfold Socket.arrive
      split <;> exact h
  | leave => exact h
  | available => exact session.link.leaves_available.buffer h
  | readByte => exact session.link.leaves_readByte.buffer h
  | readPacket =>
      obtain ⟨next, hframe, hleaves⟩ := session.link.readFrame_run session.packet
      have hnext : (session.meet .readPacket).2.link = next := congrArg Link.Reading.link hframe
      rw [hnext]
      exact hleaves.buffer h

/-- Along a run, what was there and what came is what was delivered and what is there. -/
theorem pending_meetAll {events : List LinkEvent} (h : .readPacket ∉ events) :
    let run := session.meetAll events
    session.link.pending ++ (if session.link.peerOpen then LinkEvent.sent events else []) =
      LinkAnswer.delivered run.1 ++ run.2.link.pending := by
  induction events generalizing session with
  | nil =>
      change session.link.pending ++ (if _ then [] else []) = session.link.pending
      rw [ite_self, List.append_nil]
  | cons event events ih =>
      have hevent : event ≠ .readPacket := fun heq => h (heq ▸ List.mem_cons_self ..)
      have hstep := session.pending_meet hevent
      have hopen := session.peerOpen_meet event
      have hrest := ih (session.meet event).2 fun hmem => h (List.mem_cons_of_mem _ hmem)
      -- what comes in all is what comes now and what comes later, if the peer stays that long
      have hsplit : (if session.link.peerOpen then LinkEvent.sent (event :: events) else []) =
          (if session.link.peerOpen then event.brings else []) ++
            if (session.meet event).2.link.peerOpen then LinkEvent.sent events else [] := by
        rw [hopen, LinkEvent.sent]
        cases session.link.peerOpen with
        | false => rfl
        | true => by_cases hleave : event = .leave <;> simp [hleave]
      have hdelivered : LinkAnswer.delivered (session.meetAll (event :: events)).1 =
          (session.meet event).1.read?.toList ++
            LinkAnswer.delivered ((session.meet event).2.meetAll events).1 := by
        change List.filterMap _ (_ :: _) = _
        rw [List.filterMap_cons]
        cases (session.meet event).1.read? <;> rfl
      dsimp only
      rw [hsplit, ← List.append_assoc, hstep, hdelivered, List.append_assoc, List.append_assoc,
        hrest]
      rfl

theorem peerOpen_meetAll (events : List LinkEvent) :
    (session.meetAll events).2.link.peerOpen =
      (session.link.peerOpen && .leave ∉ events) := by
  induction events generalizing session with
  | nil => simp [meetAll]
  | cons event events ih =>
      change ((session.meet event).2.meetAll events).2.link.peerOpen = _
      rw [ih, peerOpen_meet, Bool.and_assoc]
      congr 1
      simp [eq_comm]

theorem buffer_meetAll (events : List LinkEvent)
    (h : session.link.buffer.length ≤ Socket.chunk) :
    (session.meetAll events).2.link.buffer.length ≤ Socket.chunk := by
  induction events generalizing session with
  | nil => exact h
  | cons event events ih => exact ih _ (session.buffer_meet event h)

/-! ## A socket and a channel side by side -/

/-- The same bytes are to be read at a socket and at a channel, both have a peer or neither has, and
frames are read into the same packet. -/
structure Matches (session : Session Socket) (other : Session Channel) : Prop where
  pending : session.link.pending = other.link.inbox
  peer : session.link.peerOpen = other.link.peerPresent
  packet : session.packet = other.packet

variable {session} {other : Session Channel}

theorem wordless_ended (peer : Bool) :
    Error.wordless (if peer then .timeout else .io .peerClosed) =
      Error.wordless (if peer then .timeout else .io .channelClosed) := by
  cases peer <;> rfl

theorem matches_arrive (h : session.Matches other) (bytes : Bytes) :
    (session.meet (.arrive bytes)).2.Matches (other.meet (.arrive bytes)).2 := by
  obtain ⟨socket, packet⟩ := session
  obtain ⟨channel, packet'⟩ := other
  obtain ⟨hpending, hpeer, hpacket⟩ := h
  dsimp only at hpending hpeer hpacket
  change Matches ⟨socket.arrive bytes, packet⟩ ⟨channel.arrive bytes, packet'⟩
  unfold Socket.arrive Channel.arrive
  cases hthere : channel.peerPresent with
  | true =>
      rw [hthere] at hpeer
      rw [if_pos hpeer, if_pos rfl]
      refine ⟨?_, hpeer, hpacket⟩
      change socket.buffer ++ (socket.stream ++ bytes) = channel.inbox ++ bytes
      rw [← hpending, ← List.append_assoc]
      rfl
  | false =>
      rw [hthere] at hpeer
      rw [hpeer]
      exact ⟨hpending, hpeer.trans hthere.symm, hpacket⟩

theorem matches_readByte (h : session.Matches other) :
    LinkAnswer.Alike (session.meet .readByte).1 (other.meet .readByte).1 ∧
      (session.meet .readByte).2.Matches (other.meet .readByte).2 := by
  have hleaves := session.link.leaves_readByte
  have hread := session.link.readByte_eq
  have hchannel : other.link.readByte =
      match other.link.inbox with
      | byte :: rest => (.ok byte, { other.link with inbox := rest })
      | [] => (.error (if other.link.peerPresent then .timeout else .io .channelClosed),
          other.link) := rfl
  rw [h.pending] at hread hleaves
  rw [h.peer] at hread
  change LinkAnswer.Alike (.byte session.link.readByte.1) (.byte other.link.readByte.1) ∧
    Matches ⟨session.link.readByte.2, session.packet⟩ ⟨other.link.readByte.2, other.packet⟩
  rw [hread, hchannel]
  cases hinbox : other.link.inbox with
  | nil =>
      rw [hinbox] at hleaves
      refine ⟨.byte (congrArg Except.error (wordless_ended _)), ?_, ?_, h.packet⟩
      · rw [hinbox]
        exact hleaves.pending
      · exact hleaves.peerOpen.trans h.peer
  | cons byte rest =>
      rw [hinbox] at hleaves
      exact ⟨.byte rfl, hleaves.pending, hleaves.peerOpen.trans h.peer, h.packet⟩

theorem matches_readPacket (h : session.Matches other) :
    LinkAnswer.Alike (session.meet .readPacket).1 (other.meet .readPacket).1 ∧
      (session.meet .readPacket).2.Matches (other.meet .readPacket).2 := by
  obtain ⟨next, hframe, hleaves⟩ := session.link.readFrame_run session.packet
  have hchannel := other.link.readFrame_eq other.packet
  rw [h.pending, h.packet, h.peer] at hframe
  rw [h.pending, h.packet] at hleaves
  dsimp only [meet, Link.readPacket]
  rw [h.packet, hframe, hchannel]
  refine ⟨.packet _ ?_, hleaves.pending, hleaves.peerOpen.trans h.peer, rfl⟩
  dsimp only
  split
  · exact congrArg Except.error (wordless_ended _)
  · rfl

/-- Whatever happens at both, a socket answers as a channel does. -/
theorem matches_meet (h : session.Matches other) (event : LinkEvent) :
    LinkAnswer.Alike (session.meet event).1 (other.meet event).1 ∧
      (session.meet event).2.Matches (other.meet event).2 := by
  cases event with
  | arrive bytes => exact ⟨.unasked, matches_arrive h bytes⟩
  | leave => exact ⟨.unasked, h.pending, rfl, h.packet⟩
  | available =>
      have hleaves := session.link.leaves_available
      exact ⟨.count .., hleaves.pending.trans h.pending, hleaves.peerOpen.trans h.peer, h.packet⟩
  | readByte => exact matches_readByte h
  | readPacket => exact matches_readPacket h

theorem matches_meetAll (h : session.Matches other) (events : List LinkEvent) :
    List.Forall₂ LinkAnswer.Alike (session.meetAll events).1 (other.meetAll events).1 ∧
      (session.meetAll events).2.Matches (other.meetAll events).2 := by
  induction events generalizing session other with
  | nil => exact ⟨.nil, h⟩
  | cons event events ih =>
      obtain ⟨halike, hnext⟩ := matches_meet h event
      obtain ⟨hrest, hlast⟩ := ih hnext
      exact ⟨.cons halike hrest, hlast⟩

end Session

namespace Socket

/-- Whatever the portions in which bytes come, and whatever is asked in between, a socket hands on
the bytes that the peer sent before it left, all of them and in order. What it says to be available
can be read; that the peer is gone it says only when nothing is left to read. A channel at which the
same happens gives the same bytes, frames and failures.

Bytes arrive here when the connection has brought them, in one portion or in many for what the peer
sent at once. -/
theorem carries_what_arrives (events : List LinkEvent) (packet : Packet) :
    let run := Session.meetAll ⟨({} : Socket), packet⟩ events
    let twin := Session.meetAll ⟨({} : Channel), packet⟩ events
    let socket := run.2.link
    let ended : Error := if .leave ∈ events then .io .peerClosed else .timeout
    (.readPacket ∉ events →
      LinkAnswer.delivered run.1 ++ socket.buffer ++ socket.stream = LinkEvent.sent events) ∧
    (socket.pending ≠ [] → ∃ count next last, socket.available = (.ok count, next) ∧
      1 ≤ count ∧ count ≤ 256 ∧
      Link.readBytes next count = ⟨.ok (), socket.pending.take count, last⟩) ∧
    (socket.pending = [] → socket.available.1 =
      if .leave ∈ events then .error (.io .peerClosed) else .ok 0) ∧
    (∃ last, Link.readBytes socket socket.pending.length = ⟨.ok (), socket.pending, last⟩ ∧
      last.readByte.1 = .error ended) ∧
    List.Forall₂ LinkAnswer.Alike run.1 twin.1 ∧ run.2.packet = twin.2.packet ∧
      socket.pending = twin.2.link.inbox := by
  intro run twin socket ended
  have hopen : socket.peerOpen = decide (.leave ∉ events) := Session.peerOpen_meetAll _ events
  have hbuffer : socket.buffer.length ≤ chunk :=
    Session.buffer_meetAll ⟨({} : Socket), packet⟩ events (Nat.zero_le _)
  have hstart : Session.Matches ⟨({} : Socket), packet⟩ ⟨({} : Channel), packet⟩ := ⟨rfl, rfl, rfl⟩
  obtain ⟨halike, htwin⟩ := Session.matches_meetAll hstart events
  refine ⟨?_, ?_, ?_, ?_, halike, htwin.packet, htwin.pending⟩
  · intro hevents
    have hsent := Session.pending_meetAll ⟨({} : Socket), packet⟩ hevents
    rw [List.append_assoc]
    exact hsent.symm
  · intro hsome
    obtain ⟨count, next, havailable, hpos, hle, last, hreads⟩ :=
      available_of_pending_ne_nil hbuffer hsome
    exact ⟨count, next, last, havailable, hpos, hle, hreads⟩
  · intro hnone
    rw [available_of_pending_eq_nil hnone, hopen]
    by_cases hleft : .leave ∈ events <;> simp [hleft]
  · obtain ⟨last, hreads, hleaves⟩ := readBytes_run socket (Nat.le_refl socket.pending.length)
    rw [List.take_length] at hreads
    rw [List.drop_length] at hleaves
    refine ⟨last, hreads, ?_⟩
    rw [readByte_eq, hleaves.pending, hleaves.peerOpen, hopen]
    unfold ended
    by_cases hleft : .leave ∈ events <;> simp [hleft]

/-- More bytes than a chunk come, one is read, and the peer leaves; or it leaves at once. -/
theorem carries_what_arrives_two_chunks :
    let events : List LinkEvent := [.arrive (List.replicate 300 7), .available, .readByte, .leave]
    let run := Session.meetAll ⟨({} : Socket), .roomy⟩ events
    let socket := run.2.link
    let empty := (Session.meetAll ⟨({} : Socket), .roomy⟩ [.leave]).2.link
    (.readPacket ∉ events ∧ socket.buffer.length = 255 ∧ socket.stream.length = 44 ∧
      LinkAnswer.delivered run.1 ++ socket.buffer ++ socket.stream = List.replicate 300 7) ∧
    (socket.pending ≠ [] ∧ ∃ count next last, socket.available = (.ok count, next) ∧
      1 ≤ count ∧ count ≤ 256 ∧
      Link.readBytes next count = ⟨.ok (), socket.pending.take count, last⟩) ∧
    empty.pending = [] ∧ empty.available.1 = .error (.io .peerClosed) := by
  intro events run socket empty
  obtain ⟨hbytes, hsome, -⟩ := carries_what_arrives events .roomy
  obtain ⟨-, -, hnone, -⟩ := carries_what_arrives [.leave] .roomy
  have hpending : socket.pending ≠ [] := by decide +kernel
  have hsent : LinkEvent.sent events = List.replicate 300 7 := by decide +kernel
  have hcalls : .readPacket ∉ events := by decide
  refine ⟨⟨hcalls, by decide +kernel, by decide +kernel, (hbytes hcalls).trans hsent⟩,
    ⟨hpending, hsome hpending⟩, rfl, hnone rfl⟩

end Socket

end ServoBus
