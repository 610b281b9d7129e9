import ServoBus.Device
import ServoBus.Link.Channel

/-!
# Stations

A device at its end of a line. A step reads one frame and acts on it. A frame that is not whole
when the bytes run out is lost: the next step begins anew. So a step never waits in earnest, and
the read timeout of the line shows only as the error in which such a step ends.
-/

namespace ServoBus

structure Station where
  device : Device
  channel : Channel := {}
  deriving DecidableEq

namespace Station

/-- What stops a run, or what it leads to. -/
abbrev Outcome (α : Type) := Except Fault (Except Error α)

/-- Acts on a packet whose reading ended with a status, and sends the reply, if one is due. -/
def handle (station : Station) (packet : Packet) (status : ParseStatus) :
    Outcome Unit × Station :=
  match station.device.handle packet status with
  | .error fault device => (.error fault, { station with device })
  | .ok none device => (.ok (.ok ()), { station with device })
  | .ok (some reply) device =>
      let sent := station.channel.send reply.wire
      (.ok sent.1, { device, channel := sent.2 })

@[simp] theorem inbox_handle (station : Station) (packet : Packet) (status : ParseStatus) :
    (station.handle packet status).2.channel.inbox = station.channel.inbox := by
  unfold handle
  split <;> simp

/-- Reads one frame and acts on it. -/
def step (station : Station) : Outcome ParseStatus × Station :=
  let reading := Link.readFrame station.channel Packet.roomy
  let station := { station with channel := reading.link }
  match reading.result with
  | .error cause => (.ok (.error cause), station)
  | .ok status =>
      let handled := station.handle reading.packet status
      (handled.1.map fun outcome => outcome.map fun _ => status, handled.2)

/-- A step takes the bytes of one frame from those that wait, or all of them. -/
@[simp] theorem inbox_step (station : Station) :
    station.step.2.channel.inbox = (Packet.roomy.takeFrame station.channel.inbox).rest := by
  unfold step
  dsimp only
  split <;> simp [Channel.inbox_readFrame]

/-- A step takes a byte at least if one waits. -/
theorem inbox_step_length_lt (station : Station) (h : station.channel.inbox ≠ []) :
    station.step.2.channel.inbox.length < station.channel.inbox.length := by
  rw [inbox_step]
  exact Packet.takeFrame_rest_length_lt _ h

/-- Steps while bytes wait, whatever the steps lead to. -/
def drain (station : Station) : List (Outcome ParseStatus) × Station :=
  if _h : station.channel.inbox = [] then ([], station)
  else
    let stepped := station.step
    let drained := stepped.2.drain
    (stepped.1 :: drained.1, drained.2)
termination_by station.channel.inbox.length
decreasing_by exact inbox_step_length_lt station ‹¬station.channel.inbox = []›

/-- Hears bytes that came from the master, and acts on the frames among them. Whatever a frame
leads to, a fault included, the master learns of it by the reply alone. -/
def hear (station : Station) (bytes : Bytes) : Station :=
  (drain { station with channel := station.channel.arrive bytes }).2

/-- The station once the master has taken what it sent. -/
def collect (station : Station) : Station :=
  { station with channel := station.channel.collect }

end Station

end ServoBus
