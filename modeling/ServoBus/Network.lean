import ServoBus.Error
import ServoBus.Network.Host

/-!
# The network of a host

An address is a host and a number behind the last colon. Groups may stand in brackets.

At which addresses a host can listen, and whether it can then reach itself there, depends on its
loopback. A host whose loopback is down has no addresses that could be compared: it listens at any
number of four bytes, but reaches itself at none.
-/

namespace ServoBus

/-- The least number that a service cannot have. -/
def serviceLimit : Nat := 65536

structure Address where
  host : Host
  service : Nat
  deriving DecidableEq

namespace Address

/-- Splits a text at its last colon. -/
def split? (text : String) : Option (String × String) :=
  match (text.splitOn ":").reverse with
  | service :: host :: rest => some (":".intercalate (host :: rest).reverse, service)
  | _ => none

/-- Groups in brackets, with a zone by its number only. The number behind them has no sign. -/
def bracketed? (host service : String) : Option Host :=
  match host.toList, Text.digits? service.toList with
  | '[' :: rest, some _ =>
      if rest.getLast? = some ']' then
        Host.zoned? (fun _ => Host.numberedZone?) (String.ofList rest.dropLast)
      else none
  | _, _ => none

/-- Reads an address, or tells why a text is none. The number is looked at first. -/
def parse (text : String) : Except Error Address :=
  match split? text with
  | none => .error (.io .invalidAddress)
  | some (host, service) =>
      match Text.natural? service with
      | none => .error (.io .invalidService)
      | some n =>
          if serviceLimit ≤ n then .error (.io .invalidService)
          else if host.toList.contains '\x00' then .error (.io .nulByte)
          else .ok ⟨(bracketed? host service).getD (Host.parse host), n⟩

end Address

/-- Whether a host can reach itself over its network. -/
inductive Loopback where
  | up
  | down
  deriving DecidableEq

namespace Loopback

/-- The numbers that mean the host itself: none in particular, or one of its loopback. -/
def isOwn (address : Nat) : Bool := address = 0 || address / 0x1000000 = 127

/-- The numbers that mean many hosts at once. -/
def isShared (address : Nat) : Bool :=
  address = 0xFFFFFFFF || address = 0x7FFFFFFF || address / 0x10000000 = 14

def listenV4 (loopback : Loopback) (address : Nat) : Except Error Unit :=
  if loopback = .down ∨ isOwn address ∨ isShared address then .ok ()
  else .error (.io .foreignAddress)

/-- Nobody listens for many hosts, nor at one of a link that is not named or not there. -/
def listenV6 (loopback : Loopback) (groups : List Nat) (zone : Nat) : Except Error Unit :=
  if groups.all (· = 0) then .ok ()
  else if Host.isMulticast groups then .error (.io .invalidArgument)
  else if Host.isLinkLocal groups ∧ zone = 0 then .error (.io .invalidArgument)
  else if Host.isLinkLocal groups ∧ zone ≠ Host.ownZone then .error (.io .missingLink)
  else if groups = [0, 0, 0, 0, 0, 0, 0, 1] ∧ loopback = .up then .ok ()
  else .error (.io .foreignAddress)

/-- Begins to listen at a host, or tells why it cannot. -/
def listen (loopback : Loopback) : Host → Except Error Unit
  | .v4 address => loopback.listenV4 address
  | .v6 groups zone =>
      match Host.mapped? groups with
      | some address => loopback.listenV4 address
      | none => loopback.listenV6 groups zone
  | .name text =>
      if text.toLower = "localhost" then .ok ()
      else if Host.isName text then .error (.io .unresolvedHost)
      else .error (.io .unknownHost)

def connectV4 (loopback : Loopback) (address : Nat) : Except Error Unit :=
  if loopback = .up ∧ isOwn address ∧ !isShared address then .ok ()
  else .error (.io .unreachable)

/-- Connects a host to a service of its own, which listens at the given place. -/
def connect (loopback : Loopback) : Host → Except Error Unit
  | .v4 address => loopback.connectV4 address
  | .v6 groups _ =>
      match Host.mapped? groups with
      | some address => loopback.connectV4 address
      | none => if loopback = .up then .ok () else .error (.io .foreignAddress)
  | .name _ => loopback.connectV4 0x7F000001

end Loopback

end ServoBus
