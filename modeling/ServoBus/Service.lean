import ServoBus.Master
import ServoBus.Network

/-!
# A served servo

The settings of a served device and of a bus master, times in milliseconds.

A simulated servo that bus masters reach one after another. The servo and its storage last from
one connection to the next. The table does not: each connection loads it anew, so that a staged
write or the beginning of a frame never outlives the connection it came on.

What the host may refuse to do for a service that listens is left out: to take a connection that
comes or to set it up, and to send a reply within the write timeout.
-/

namespace ServoBus

structure Config where
  listenAddress : String := "127.0.0.1:7000"
  /-- How long a served device waits for the next byte. -/
  readTimeout : Nat := 100
  writeTimeout : Nat := 1000
  storagePath : String := "./bioloid.ctl"
  /-- How long a master waits for a reply. -/
  replyTimeout : Nat := 50

namespace Config

/-- A wait of no time at all means to wait for ever. -/
def wait? (milliseconds : Nat) : Option Nat :=
  if milliseconds = 0 then none else some milliseconds

/-- Refuses settings that cannot be served; the address is looked at first. -/
def validate (config : Config) : Except Error Unit :=
  if Text.isBlank config.listenAddress then .error (.config .emptyAddress)
  else if config.readTimeout = 0 then .error (.config .zeroReadTimeout)
  else if config.replyTimeout = 0 then .error (.config .zeroReplyTimeout)
  else .ok ()

/-- The same settings, once they are known to be usable. -/
def validated (config : Config) : Except Error Config :=
  config.validate.map fun _ => config

end Config

structure Service where
  config : Config
  address : Address
  /-- The id that the device is to have, whatever its storage says. -/
  deviceId? : Option Id := none
  servo : Servo := {}
  storage : StoredFile

/-- One master's connection to a served device. -/
structure Connection where
  device : Device
  assembly : Packet := Packet.roomy
  /-- How long the beginning of a frame waits for the rest, in milliseconds. -/
  readTimeout : Nat

namespace Connection

/-- Takes bytes one by one and acts on every frame that ends. A fault shows as a missing reply. -/
def hear (connection : Connection) : Bytes → Heard Connection
  | [] => ⟨[], connection⟩
  | byte :: rest =>
      let report := connection.assembly.accept byte
      if report.2 = .incomplete then hear { connection with assembly := report.1 } rest
      else
        match connection.device.handle report.1 report.2 with
        | .error _ device => hear { connection with device, assembly := Packet.roomy } rest
        | .ok reply? device =>
            let heard := hear { connection with device, assembly := Packet.roomy } rest
            { heard with replies := (reply?.elim [] Reply.wire) ++ heard.replies }

/-- A silence as long as the read timeout ends the frame that was being read. -/
def wait (connection : Connection) (milliseconds : Nat) : Connection :=
  if connection.readTimeout ≤ milliseconds then { connection with assembly := Packet.roomy }
  else connection

instance : Audience Connection where
  hear := hear
  wait := wait

end Connection

namespace Service

def tableLength : Nat := 50

def persistentLength : Nat := 24

/-- A service with a fresh servo, if its settings are usable and its address can be listened
at. -/
def bind (loopback : Loopback) (config : Config) (servo : Servo) (storage : StoredFile) :
    Except Error Service := do
  config.validate
  let address ← Address.parse config.listenAddress
  loopback.listen address.host
  return { config, address, servo, storage }

/-- A service that was bound has passed every check, and keeps what it was given. -/
theorem usable_of_bind {loopback : Loopback} {config : Config} {servo : Servo}
    {storage : StoredFile} {service : Service}
    (h : bind loopback config servo storage = .ok service) :
    config.validate = .ok () ∧ loopback.listen service.address.host = .ok () ∧
      service.config = config ∧ service.storage = storage := by
  obtain ⟨_, hvalid, h⟩ := exists_of_except_bind h
  obtain ⟨address, -, h⟩ := exists_of_except_bind h
  obtain ⟨_, hlisten, h⟩ := exists_of_except_bind h
  cases h
  exact ⟨hvalid, hlisten, rfl, rfl⟩

/-- Loads the table and gives the device the id it is to have, stored at once if it is new. -/
def prepare (deviceId? : Option Id) : TableM Unit := do
  Table.load
  match deviceId? with
  | none => return ()
  | some id =>
      if (← Table.readByte Offset.id) ≠ id.byte then
        Table.writeByte Offset.id id.byte
        Device.saveTable

def accept (service : Service) : Except Fault Connection :=
  match Table.create tableLength persistentLength (.servo service.servo)
      (.file service.storage) with
  | .error fault => .error fault
  | .ok table =>
      match prepare service.deviceId? table with
      | .error fault _ => .error fault
      | .ok () table =>
          .ok { device := { table }, readTimeout := service.config.readTimeout }

/-- The service once a connection is closed: it takes back the servo and the storage. -/
def close (service : Service) (connection : Connection) : Service :=
  match connection.device.table.peripheral, connection.device.table.storage with
  | .servo servo, .file storage => { service with servo, storage }
  | _, _ => service

def dial (service : Service) (timeout : Nat) : Except Fault (Master Connection) :=
  service.accept.map fun connection => { audience := connection, timeout }

end Service

end ServoBus
