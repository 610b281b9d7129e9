import ServoBus.Link

/-!
# Channels

One end of a pair of byte queues in memory. Once the other end is dropped, what it sent can still
be read, but nothing can be sent any more.
-/

namespace ServoBus

structure Channel where
  inbox : Bytes := []
  /-- The bytes that were sent and not collected yet. -/
  outbox : Bytes := []
  peerPresent : Bool := true
  rate? : Option Nat := none
  deriving DecidableEq

namespace Channel

/-- The channel once bytes were sent at the other end, if anybody is there to send them. -/
def arrive (channel : Channel) (bytes : Bytes) : Channel :=
  if channel.peerPresent then { channel with inbox := channel.inbox ++ bytes } else channel

/-- The channel once the other end has taken what was sent. -/
def collect (channel : Channel) : Channel := { channel with outbox := [] }

def dropPeer (channel : Channel) : Channel := { channel with peerPresent := false }

def available (channel : Channel) : Except Error Nat × Channel :=
  (.ok channel.inbox.length, channel)

def readByte (channel : Channel) : Except Error UInt8 × Channel :=
  match channel.inbox with
  | byte :: rest => (.ok byte, { channel with inbox := rest })
  | [] => (.error (if channel.peerPresent then .timeout else .io .channelClosed), channel)

def send (channel : Channel) (bytes : Bytes) : Except Error Unit × Channel :=
  if channel.peerPresent ∨ bytes = [] then
    (.ok (), { channel with outbox := channel.outbox ++ bytes })
  else (.error (.io .channelBroken), channel)

@[simp] theorem send_nil (channel : Channel) : channel.send [] = (.ok (), channel) := by
  simp [send]

theorem send_of_peerPresent {channel : Channel} (h : channel.peerPresent) (bytes : Bytes) :
    channel.send bytes = (.ok (), { channel with outbox := channel.outbox ++ bytes }) :=
  if_pos (Or.inl h)

@[simp] theorem inbox_send (channel : Channel) (bytes : Bytes) :
    (channel.send bytes).2.inbox = channel.inbox := by
  unfold send
  split <;> rfl

instance : Link Channel where
  available := available
  readByte := readByte
  send := send
  pending := inbox
  pending_readByte := by
    intro channel next byte h
    unfold readByte at h
    split at h
    · next first rest heq =>
        cases h
        exact heq
    · cases h

/-- Reading a frame from a channel is taking it from the inbox. -/
theorem readFrame_eq (channel : Channel) (packet : Packet) :
    let taken := packet.takeFrame channel.inbox
    Link.readFrame channel packet = {
      result :=
        if taken.status = .incomplete then
          .error (if channel.peerPresent then .timeout else .io .channelClosed)
        else .ok taken.status
      packet := taken.packet
      link := { channel with inbox := taken.rest } } := by
  obtain ⟨inbox, outbox, peerPresent, rate?⟩ := channel
  induction inbox generalizing packet with
  | nil =>
      rw [Link.readFrame]
      rfl
  | cons byte rest ih =>
      rw [Link.readFrame]
      by_cases h : (packet.accept byte).2 = .incomplete
      · rw [Packet.takeFrame_cons_of_incomplete rest h]
        simpa [Link.readByte, readByte, h] using ih _
      · rw [Packet.takeFrame_cons_of_done rest h]
        simp [Link.readByte, readByte, h]

theorem inbox_readFrame (channel : Channel) (packet : Packet) :
    (Link.readFrame channel packet).link.inbox = (packet.takeFrame channel.inbox).rest := by
  rw [readFrame_eq]

end Channel

end ServoBus
