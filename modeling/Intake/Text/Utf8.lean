import Intake.Bytes

/-!
# Reading UTF-8

A byte string is read octet by octet into marks: a character, or a place where the octets are not
UTF-8. A malformed place is the longest beginning of a character that was read before the octet
that does not continue it, so every malformed place becomes one replacement character.
-/

namespace Intake.Text.Utf8

/-- The character that stands for octets that are not UTF-8. -/
def replacement : Char := '\uFFFD'

/-- A character of which some octets are still to come. -/
structure Partial where
  /-- Octets still to come. -/
  need : Nat
  /-- The bits read so far. -/
  bits : Nat
  /-- The least next octet. -/
  least : UInt8
  /-- The greatest next octet. -/
  greatest : UInt8
  deriving Repr, DecidableEq

inductive Lead
  | char (c : Char)
  | more (p : Partial)
  | malformed

def lead (b : UInt8) : Lead :=
  if b ≤ 0x7F then .char (Char.ofNat b.toNat)
  else if b < 0xC2 then .malformed
  else if b ≤ 0xDF then .more ⟨1, b.toNat - 0xC0, 0x80, 0xBF⟩
  else if b = 0xE0 then .more ⟨2, 0, 0xA0, 0xBF⟩
  else if b = 0xED then .more ⟨2, 0x0D, 0x80, 0x9F⟩
  else if b ≤ 0xEF then .more ⟨2, b.toNat - 0xE0, 0x80, 0xBF⟩
  else if b = 0xF0 then .more ⟨3, 0, 0x90, 0xBF⟩
  else if b ≤ 0xF3 then .more ⟨3, b.toNat - 0xF0, 0x80, 0xBF⟩
  else if b = 0xF4 then .more ⟨3, 4, 0x80, 0x8F⟩
  else .malformed

/-- What is pending and what is complete after a first octet. -/
def begin (b : UInt8) : Option Partial × List (Option Char) :=
  match lead b with
  | .char c => (none, [some c])
  | .more p => (some p, [])
  | .malformed => (none, [none])

/-- What is pending and what is complete after one more octet. -/
def feed (pending : Option Partial) (b : UInt8) : Option Partial × List (Option Char) :=
  match pending with
  | none => begin b
  | some p =>
    if p.least ≤ b && b ≤ p.greatest then
      let bits := p.bits * 64 + (b.toNat - 0x80)
      if p.need ≤ 1 then (none, [some (Char.ofNat bits)])
      else (some ⟨p.need - 1, bits, 0x80, 0xBF⟩, [])
    else
      let (next, marks) := begin b
      (next, none :: marks)

/-- The marks of a byte string; `none` is a malformed place. -/
def marks (pending : Option Partial) : Bytes → List (Option Char)
  | [] => if pending.isSome then [none] else []
  | b :: bs =>
    let (next, out) := feed pending b
    out ++ marks next bs

/-- The text of a byte string that is UTF-8 throughout. -/
def decode? (bs : Bytes) : Option String :=
  ((marks none bs).mapM id).map String.ofList

/-- The text of a byte string, with a replacement character for every malformed place. -/
def decodeLossy (bs : Bytes) : String :=
  String.ofList ((marks none bs).map (·.getD replacement))

end Intake.Text.Utf8
