import ServoBus.Text

/-!
# Hosts

A host is named by a number of four bytes, by eight groups of two bytes each, or by a name. Texts
that denote a number or groups are not taken for names. Groups can have a zone behind a percent
sign, which tells the links of a host apart.
-/

namespace ServoBus

inductive Host where
  | v4 (address : Nat)
  /-- Zone zero is none in particular. -/
  | v6 (groups : List Nat) (zone : Nat)
  | name (text : String)
  deriving DecidableEq

namespace Host

def itself : Host := v4 0x7F000001

/-! ## Four bytes -/

/-- A part between dots: decimal, octal behind a zero, or hexadecimal behind "0x". -/
def part? (text : String) : Option Nat :=
  match text.toList with
  | '0' :: 'x' :: digits | '0' :: 'X' :: digits => Text.numeral? 16 digits
  | '0' :: digits => Text.numeral? 8 ('0' :: digits)
  | digits => Text.numeral? 10 digits

/-- Puts four parts or fewer together. Each is one byte but the last, which takes all that are
left. -/
def ofParts? (parts : List Nat) : Option Nat :=
  match parts.getLast? with
  | none => none
  | some last =>
      let left := Nat.pow 256 (5 - parts.length)
      if parts.length ≤ 4 ∧ parts.dropLast.all (· < 256) ∧ last < left then
        some (parts.dropLast.foldl (fun value part => 256 * value + part) 0 * left + last)
      else none

def v4? (text : String) : Option Nat :=
  ((text.splitOn ".").mapM part?).bind ofParts?

/-! ## Eight groups -/

def group? (text : String) : Option Nat :=
  if text.length ≤ 4 then Text.numeral? 16 text.toList else none

/-- A decimal number below 256, without needless zeros. -/
def octet? (text : String) : Option Nat :=
  (Text.digits? text.toList).filter fun n => n < 256 ∧ text = toString n

/-- The last two groups, written as four bytes. -/
def quad? (text : String) : Option (List Nat) :=
  match (text.splitOn ".").mapM octet? with
  | some [a, b, c, d] => some [256 * a + b, 256 * c + d]
  | _ => none

/-- The groups up to the end of an address. -/
def lastGroups? : List String → Option (List Nat)
  | [] => some []
  | [text] => (quad? text).orElse fun _ => (group? text).map fun group => [group]
  | text :: rest => do return (← group? text) :: (← lastGroups? rest)

/-- The texts between colons, none in the empty text. -/
def betweenColons (text : String) : List String :=
  if text = "" then [] else text.splitOn ":"

/-- Eight groups, of which two colons may stand for some that are zero. -/
def v6? (text : String) : Option (List Nat) :=
  match text.splitOn "::" with
  | [whole] => (lastGroups? (betweenColons whole)).filter fun groups => groups.length = 8
  | [front, back] => do
      let front ← (betweenColons front).mapM group?
      let back ← lastGroups? (betweenColons back)
      let zeros := 8 - (front.length + back.length)
      if zeros = 0 then none else some (front ++ List.replicate zeros 0 ++ back)
  | _ => none

/-! ## Zones -/

/-- The least number that a zone cannot have. -/
def zoneLimit : Nat := 0x100000000

/-- The zone of the one link that every host has, the one to itself. -/
def ownZone : Nat := 1

def numberedZone? (text : String) : Option Nat :=
  (Text.digits? text.toList).filter fun zone => zone < zoneLimit

/-- The zone that the name of a link names. A label may stand behind a colon. -/
def namedZone? (text : String) : Option Nat :=
  if text.utf8ByteSize < 16 ∧ (text.splitOn ":").head? = some "lo" then some ownZone else none

/-- Groups that mean one host on a link. -/
def isLinkLocal (groups : List Nat) : Bool := groups.head?.any fun group => group / 64 = 0x3FA

/-- Groups that mean many hosts. -/
def isMulticast (groups : List Nat) : Bool := groups.head?.any fun group => group / 256 = 0xFF

/-- Groups that mean nothing beyond a link, so that their zone can go by the link's name. -/
def staysOnLink (groups : List Nat) : Bool :=
  isLinkLocal groups ||
    (isMulticast groups && groups.head?.any fun group => group % 16 = 1 || group % 16 = 2)

/-- The zone of groups, by its link's name or by its number. -/
def zone? (groups : List Nat) (text : String) : Option Nat :=
  (if staysOnLink groups then namedZone? text else none).orElse fun _ => numberedZone? text

/-- Groups with the zone that stands behind them, if one does. -/
def zoned? (readZone : List Nat → String → Option Nat) (text : String) : Option Host :=
  match text.splitOn "%" with
  | [groups] => (v6? groups).map fun groups => v6 groups 0
  | [groups, zone] => do
      let groups ← v6? groups
      return v6 groups (← readZone groups zone)
  | _ => none

/-! ## Hosts -/

def parse (text : String) : Host :=
  match v4? text with
  | some address => v4 address
  | none => (zoned? zone? text).getD (name text)

/-- A part of a name between dots: one to 63 characters of a few kinds. -/
def isLabel (text : String) : Bool :=
  text ≠ "" && text.length ≤ 63 &&
    text.toList.all fun c => c.isAlphanum || c = '-' || c = '_'

/-- Whether a text is made up as names of hosts are: of labels with dots between them and perhaps
one behind the last, 254 characters with that dot at most. A dot alone is a name too. -/
def isName (text : String) : Bool :=
  let parts := text.splitOn "."
  let labels := if parts.getLast? = some "" then parts.dropLast else parts
  text = "." ||
    (labels ≠ [] && !text.startsWith "-" && labels.all isLabel &&
      labels.foldl (fun size label => size + (label.length + 1)) 0 ≤ 254)

/-- The number of four bytes that groups stand for, if they stand for one. -/
def mapped? : List Nat → Option Nat
  | [0, 0, 0, 0, 0, 0xFFFF, high, low] => some (65536 * high + low)
  | _ => none

end Host

end ServoBus
