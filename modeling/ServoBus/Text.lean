/-!
# Texts

White space is what has the Unicode property White_Space; a text of nothing else is blank, and so is
the empty text.

Bytes are shown as at least two hexadecimal digits. Numbers are read as one digit or more; where a
sign is allowed, at most one stands in front.
-/

namespace ServoBus.Text

/-- The ranges of code points, ends included, that have the property White_Space. -/
def whiteSpaceRanges : List (Nat × Nat) :=
  [(0x09, 0x0D), (0x20, 0x20), (0x85, 0x85), (0xA0, 0xA0), (0x1680, 0x1680), (0x2000, 0x200A),
    (0x2028, 0x2029), (0x202F, 0x202F), (0x205F, 0x205F), (0x3000, 0x3000)]

def isWhiteSpace (c : Char) : Bool :=
  whiteSpaceRanges.any fun range => range.1 ≤ c.toNat && c.toNat ≤ range.2

/-- Whether nothing is left of a text once white space is trimmed from both its ends. -/
def isBlank (text : String) : Bool :=
  text.toList.all isWhiteSpace

/-- The lower-case hexadecimal digits of a number, two of them at least. -/
def hex (n : Nat) : String :=
  let digits := Nat.toDigits 16 n
  String.ofList (if digits.length < 2 then '0' :: digits else digits)

/-- The value of a character as a digit of a radix up to sixteen. -/
def digitValue? (radix : Nat) (c : Char) : Option Nat :=
  let value? :=
    if '0' ≤ c ∧ c ≤ '9' then some (c.toNat - '0'.toNat)
    else if 'a' ≤ c ∧ c ≤ 'f' then some (c.toNat - 'a'.toNat + 10)
    else if 'A' ≤ c ∧ c ≤ 'F' then some (c.toNat - 'A'.toNat + 10)
    else none
  value?.filter fun value => value < radix

/-- Reads one digit or more of a radix and nothing else. -/
def numeral? (radix : Nat) (text : List Char) : Option Nat :=
  if text = [] then none
  else
    (text.mapM (digitValue? radix)).map fun digits =>
      digits.foldl (fun value digit => radix * value + digit) 0

/-- Reads a decimal number without a sign. -/
def digits? (text : List Char) : Option Nat := numeral? 10 text

/-- Reads a number without a sign or after a plus sign. -/
def natural? (text : String) : Option Nat :=
  match text.toList with
  | '+' :: rest => digits? rest
  | digits => digits? digits

/-- Reads a number without a sign or after a plus or a minus sign. -/
def integer? (text : String) : Option Int :=
  match text.toList with
  | '-' :: rest => (digits? rest).map fun n => -(n : Int)
  | '+' :: rest => (digits? rest).map fun n => (n : Int)
  | digits => (digits? digits).map fun n => (n : Int)

end ServoBus.Text
