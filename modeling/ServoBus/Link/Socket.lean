import ServoBus.Link

/-!
# Sockets

One end of a connection. Bytes come through a receive buffer, which is filled from the stream only
when it is empty, by a chunk at most. Only the buffer counts as available. The one failure of the
stream that is told of is that the peer is gone; a socket can always be set to wait or not to wait.
-/

namespace ServoBus

structure Socket where
  buffer : Bytes := []
  /-- The bytes that came and are not in the buffer yet. -/
  stream : Bytes := []
  peerOpen : Bool := true
  /-- The bytes that were sent and not collected yet. -/
  outbox : Bytes := []
  rate? : Option Nat := none
  deriving DecidableEq

namespace Socket

/-- The most bytes that one filling of the buffer takes. -/
def chunk : Nat := 256

/-- The socket once the peer has sent bytes, if it still can. -/
def arrive (socket : Socket) (bytes : Bytes) : Socket :=
  if socket.peerOpen then { socket with stream := socket.stream ++ bytes } else socket

/-- The socket once the peer has taken what was sent. -/
def collect (socket : Socket) : Socket := { socket with outbox := [] }

def dropPeer (socket : Socket) : Socket := { socket with peerOpen := false }

/-- Takes the next chunk of the stream into an empty buffer. -/
def fill (socket : Socket) : Socket :=
  if socket.buffer = [] then
    { socket with buffer := socket.stream.take chunk, stream := socket.stream.drop chunk }
  else socket

def available (socket : Socket) : Except Error Nat × Socket :=
  let filled := socket.fill
  if filled.buffer = [] ∧ !filled.peerOpen then (.error (.io .peerClosed), filled)
  else (.ok filled.buffer.length, filled)

def readByte (socket : Socket) : Except Error UInt8 × Socket :=
  let filled := socket.fill
  match filled.buffer with
  | byte :: rest => (.ok byte, { filled with buffer := rest })
  | [] => (.error (if filled.peerOpen then .timeout else .io .peerClosed), filled)

def send (socket : Socket) (bytes : Bytes) : Except Error Unit × Socket :=
  (.ok (), { socket with outbox := socket.outbox ++ bytes })

/-- Sets how long to wait for a byte; a socket cannot wait for no time at all. -/
def setReadTimeout (milliseconds : Nat) : Except Error Unit :=
  if milliseconds = 0 then .error (.io .zeroWait) else .ok ()

def pending (socket : Socket) : Bytes := socket.buffer ++ socket.stream

@[simp] theorem pending_fill (socket : Socket) : socket.fill.pending = socket.pending := by
  unfold fill
  split
  · next h => simp [pending, h]
  · rfl

instance : Link Socket where
  available := available
  readByte := readByte
  send := send
  pending := pending
  pending_readByte := by
    intro socket next byte h
    rw [← pending_fill]
    unfold readByte at h
    dsimp only at h
    split at h
    · next first rest heq =>
        cases h
        simp [pending, heq]
    · cases h

end Socket

end ServoBus
