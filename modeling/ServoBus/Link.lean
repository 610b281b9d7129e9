import ServoBus.Packet.Assembly
import ServoBus.Packet.Wire

/-!
# Links

A link is one end of a line: bytes come in one by one and whole packets go out. Bytes that were
sent are there at once, so to wait for a byte that nobody sent ends in a timeout.

Reading a frame consumes bytes up to the checksum of the first frame and no further. A timeout in
the middle of a frame loses nothing: whoever keeps the packet can read on with it.
-/

namespace ServoBus

class Link (L : Type) where
  /-- How many bytes can be read without waiting. -/
  available : L → Except Error Nat × L
  /-- The next byte, or why there is none. -/
  readByte : L → Except Error UInt8 × L
  send : L → Bytes → Except Error Unit × L
  /-- The bytes that are still to be read. -/
  pending : L → Bytes
  /-- Each byte is read once, in its turn. -/
  pending_readByte : ∀ {link next byte}, readByte link = (.ok byte, next) →
    pending link = byte :: pending next

namespace Link

variable {L : Type} [Link L]

/-- What came of reading a frame into a packet. -/
structure Reading (L : Type) (Result : Type) where
  result : Except Error Result
  packet : Packet
  link : L

/-- Reads bytes into a packet up to the end of a frame. -/
def readFrame (link : L) (packet : Packet) : Reading L ParseStatus :=
  match _h : readByte link with
  | (.error cause, next) => ⟨.error cause, packet, next⟩
  | (.ok byte, next) =>
      let report := packet.accept byte
      if report.2 = .incomplete then readFrame next report.1
      else ⟨.ok report.2, report.1, next⟩
termination_by (pending link).length
decreasing_by
  rw [pending_readByte ‹readByte link = (.ok byte, next)›]
  exact Nat.lt_succ_self _

/-- Reads a whole, sound frame into a packet, or tells why there is none. -/
def readPacket (link : L) (packet : Packet) : Reading L Unit :=
  let reading := readFrame link packet
  { reading with result := reading.result.bind reading.packet.outcome }

structure Gathered (L : Type) where
  result : Except Error Unit
  bytes : Bytes
  link : L

/-- Reads bytes one by one, up to a number of them or the first that is not there. -/
def readBytes (link : L) : Nat → Gathered L
  | 0 => ⟨.ok (), [], link⟩
  | count + 1 =>
      match readByte link with
      | (.error cause, next) => ⟨.error cause, [], next⟩
      | (.ok byte, next) =>
          let gathered := readBytes next count
          { gathered with bytes := byte :: gathered.bytes }

def sendPacket (link : L) (packet : Packet) : Except Error Unit × L :=
  send link packet.wire

end Link

end ServoBus
