import Intake.Bytes
import Intake.Text.Quoted

/-!
# Percent encoding

Octets written as a percent sign and two hexadecimal digits. Which characters are written so depends
on where in an address they stand; one that is not ASCII always is.
-/

namespace Intake.Text.Percent

def hexPair (b : UInt8) : List Char :=
  let digit (n : Nat) : Char := Char.ofNat (if n < 10 then 48 + n else 55 + n)
  [digit (b.toNat / 16), digit (b.toNat % 16)]

/-- One octet, encoded. -/
def encodeByte (b : UInt8) : List Char := '%' :: hexPair b

/-- One character, encoded if `escapes` holds of it. -/
def encodeChar (escapes : Char → Bool) (c : Char) : List Char :=
  if escapes c then (Bytes.ofString (String.singleton c)).flatMap encodeByte else [c]

/-- The characters, encoded where `escapes` holds. -/
def encode (escapes : Char → Bool) (cs : List Char) : String :=
  String.ofList (cs.flatMap (encodeChar escapes))

/-- The octets of a text with its percent signs resolved; one that is not followed by two digits
stands for itself. -/
def decode : Bytes → Bytes
  | 0x25 :: a :: b :: s =>
    match Bytes.hexDigit? a, Bytes.hexDigit? b with
    | some x, some y => (x * 16 + y).toUInt8 :: decode s
    | _, _ => 0x25 :: decode (a :: b :: s)
  | b :: s => b :: decode s
  | [] => []
termination_by s => s.length

/-- A control character, or one that is not ASCII. -/
def isControl (c : Char) : Bool := c.toNat < 0x20 || 0x7E < c.toNat

def inFragment (c : Char) : Bool := isControl c || " \"<>`".toList.contains c

def inPath (c : Char) : Bool := inFragment c || "#?\x7b\x7d".toList.contains c

/-- What is encoded in the name and the password of a user. -/
def inUser (c : Char) : Bool := inPath c || "/:;=@[\\]^|".toList.contains c

def inQuery (c : Char) : Bool := isControl c || " \"#<>".toList.contains c

/-- What is encoded in a query of the web's own schemes. -/
def inWebQuery (c : Char) : Bool := inQuery c || c == '\x27'

end Intake.Text.Percent
