import ServoBus.Protocol
import ServoBus.Text

/-!
# Errors and faults

The causes for which an operation is refused or fails, each with its wording. `Error.message`
is the whole text shown for an error; `Error.isDisconnect` tells a lost peer from other failures
of the input or output below.

A fault is a broken promise between the parts of this library: an index outside a table, a size
outside its limits. An operation that meets one stops there and leaves behind what it had already
changed.
-/

namespace ServoBus

inductive IoKind where
  | unexpectedEof
  | connectionReset
  | connectionAborted
  | brokenPipe
  | invalidInput
  | addressNotAvailable
  | networkUnreachable
  | other
  deriving DecidableEq

structure IoError where
  kind : IoKind
  text : String
  deriving DecidableEq

/-- What is said of a name that has a character in it which no name can have. -/
def nulByteText : String := "file name contained an unexpected NUL byte"

namespace IoError

/-- A byte was written although nobody holds the other end of the channel. -/
def channelBroken : IoError := ⟨.brokenPipe, "other end of the channel port was dropped"⟩

/-- A byte was awaited although the other end of the channel is gone and all it sent was read. -/
def channelClosed : IoError := ⟨.unexpectedEof, "other end of the channel port was dropped"⟩

def peerClosed : IoError := ⟨.unexpectedEof, "peer closed the connection"⟩

def zeroWait : IoError := ⟨.invalidInput, "cannot set a 0 duration timeout"⟩

def invalidAddress : IoError := ⟨.invalidInput, "invalid socket address"⟩

def invalidService : IoError := ⟨.invalidInput, "invalid port value"⟩

/-- A host cannot have a name with that character in it. -/
def nulByte : IoError := ⟨.invalidInput, nulByteText⟩

def unknownHost : IoError :=
  ⟨.other, "failed to lookup address information: Name or service not known"⟩

/-- Nobody is there to tell whether there is a host of that name. -/
def unresolvedHost : IoError :=
  ⟨.other, "failed to lookup address information: Temporary failure in name resolution"⟩

def invalidArgument : IoError := ⟨.invalidInput, "Invalid argument (os error 22)"⟩

/-- No link of the host has the zone that was named. -/
def missingLink : IoError := ⟨.other, "No such device (os error 19)"⟩

def foreignAddress : IoError :=
  ⟨.addressNotAvailable, "Cannot assign requested address (os error 99)"⟩

def unreachable : IoError :=
  ⟨.networkUnreachable, "Network is unreachable (os error 101)"⟩

end IoError

inductive FileAction where
  | opening
  | reading
  | writing
  deriving DecidableEq

def FileAction.verb : FileAction → String
  | opening => "open"
  | reading => "read"
  | writing => "write"

inductive FileObstacle where
  | notFound
  | isDirectory
  | notDirectory
  | longName
  | nulByte
  | noSpace
  | tooShort
  deriving DecidableEq

def FileObstacle.text : FileObstacle → String
  | notFound => "No such file or directory (os error 2)"
  | isDirectory => "Is a directory (os error 21)"
  | notDirectory => "Not a directory (os error 20)"
  | longName => "File name too long (os error 36)"
  | nulByte => nulByteText
  | noSpace => "No space left on device (os error 28)"
  | tooShort => "failed to fill whole buffer"

inductive StorageError where
  | setToFail
  | outOfRange (first last : Nat)
  | shortImage (saved wanted : Nat)
  | longLoad (wanted : Nat)
  | file (action : FileAction) (path : String) (obstacle : FileObstacle)
  | other (text : String)
  deriving DecidableEq

def StorageError.text : StorageError → String
  | setToFail => "memory storage set to fail"
  | outOfRange first last => s!"range {first}..{last} exceeds 256 bytes"
  | shortImage saved wanted => s!"short read: {saved} of {wanted} bytes saved"
  | longLoad wanted => s!"cannot load {wanted} bytes (max 256)"
  | file action path obstacle => s!"{action.verb} {path}: {obstacle.text}"
  | other text => text

/-- How a request or its answer breaks the rules of the line. -/
inductive ProtocolError where
  | unfinishedFrame
  | longParameters (count : Nat)
  | foreignReply (answering asked : Id)
  | broadcastRead
  | longRead (count : Nat)
  | wrongCount (expected : Nat) (id : Id) (received : Nat)
  | longWrite (count : Nat)
  | unevenEntry (id : Id) (count expected : Nat)
  | longEntries
  | other (text : String)
  deriving DecidableEq

def ProtocolError.text : ProtocolError → String
  | unfinishedFrame => "frame is still incomplete"
  | longParameters count => s!"{count} params do not fit in a frame"
  | foreignReply answering asked =>
      s!"reply from id {answering.text} to a request for id {asked.text}"
  | broadcastRead => "cannot read from the broadcast id"
  | longRead count => s!"cannot read {count} bytes in one frame"
  | wrongCount expected id received =>
      s!"asked for {expected} bytes, device {id.text} sent {received}"
  | longWrite count => s!"cannot write {count} bytes in one frame"
  | unevenEntry id count expected =>
      s!"sync write entry for id {id.text} has {count} bytes, expected {expected}"
  | longEntries => "sync write entries do not fit in a frame"
  | other text => text

inductive ConfigError where
  | emptyAddress
  | zeroReadTimeout
  | zeroReplyTimeout
  | other (text : String)
  deriving DecidableEq

def ConfigError.text : ConfigError → String
  | emptyAddress => "listen address is empty"
  | zeroReadTimeout => "read timeout must be non-zero"
  | zeroReplyTimeout => "reply timeout must be non-zero"
  | other text => text

inductive Error where
  | io (cause : IoError)
  | checksumMismatch (expected received : UInt8)
  | tooMuchData (declared capacity : Nat)
  | timeout
  | storage (cause : StorageError)
  | protocol (cause : ProtocolError)
  | device (id : Id) (flags : StatusFlags)
  | config (cause : ConfigError)
  deriving DecidableEq

namespace Error

def message : Error → String
  | io cause => s!"IO error: {cause.text}"
  | checksumMismatch expected received =>
      s!"Checksum mismatch: received 0x{Text.hex received.toNat}" ++
        s!", expected 0x{Text.hex expected.toNat}"
  | tooMuchData declared capacity =>
      s!"Too much data: frame declared {declared} parameter bytes, storage holds {capacity}"
  | timeout => "Timed out waiting for a reply"
  | storage cause => s!"Storage error: {cause.text}"
  | protocol cause => s!"Protocol error: {cause.text}"
  | device id flags => s!"Device {id.text} reported error: {flags.text}"
  | config cause => s!"Configuration error: {cause.text}"

def isDisconnect : Error → Bool
  | io ⟨.unexpectedEof, _⟩ | io ⟨.connectionReset, _⟩ => true
  | io ⟨.connectionAborted, _⟩ | io ⟨.brokenPipe, _⟩ => true
  | _ => false

end Error

inductive Fault where
  /-- More parameter storage than a frame can fill. -/
  | packetCapacity (capacity : Nat)
  /-- More registers than one byte can number. -/
  | tableLength (length : Nat)
  /-- More persistent registers than there are registers. -/
  | persistentLength (persistent length : Nat)
  /-- Too few registers for the fields that every device has. -/
  | baseFields (length : Nat)
  /-- A field that reaches past the last register. -/
  | fieldRange (offset size length : Nat)
  /-- An index past the end of a byte buffer. -/
  | badIndex (length index : Nat)
  /-- A register offset above the largest byte. -/
  | offsetOverflow
  deriving DecidableEq

def Fault.message : Fault → String
  | packetCapacity capacity => s!"parameter capacity {capacity} exceeds MAX_PARAMS (253)"
  | tableLength length => s!"control table length {length} exceeds 256"
  | persistentLength persistent length =>
      s!"persistent region {persistent} exceeds control table length {length}"
  | baseFields length => s!"control table length {length} cannot hold the base fields"
  | fieldRange offset size length =>
      s!"offset {offset} + size {size} exceeds control table length {length}"
  | badIndex length index => s!"index out of bounds: the len is {length} but the index is {index}"
  | offsetOverflow => "attempt to add with overflow"

/-- Where two steps in a row succeed, each of them does. -/
theorem exists_of_except_bind {ε α β : Type} {first : Except ε α} {next : α → Except ε β}
    {result : β} (h : first >>= next = .ok result) :
    ∃ value, first = .ok value ∧ next value = .ok result := by
  cases first with
  | error cause => cases h
  | ok value => exact ⟨value, rfl, h⟩

end ServoBus
