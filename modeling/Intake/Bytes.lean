/-!
# Byte strings

Contents, wire messages and the text they carry are lists of octets. This module holds the few
operations on them that every wire format needs.
-/

namespace Intake

abbrev Bytes := List UInt8

namespace Bytes

def ofString (s : String) : Bytes := s.toUTF8.toList

def code (c : Char) : UInt8 := c.toNat.toUInt8

/-- What follows `pat` when `s` starts with it. -/
def after? (pat s : Bytes) : Option Bytes :=
  match pat, s with
  | [], s => some s
  | _ :: _, [] => none
  | p :: ps, b :: bs => if p = b then after? ps bs else none

/-- Splits at the first place where `pat` occurs; the second part starts with `pat`. -/
def cut? (pat : Bytes) : Bytes → Option (Bytes × Bytes)
  | [] => if pat.isEmpty then some ([], []) else none
  | b :: bs =>
    if (after? pat (b :: bs)).isSome then some ([], b :: bs)
    else (cut? pat bs).map fun (l, r) => (b :: l, r)

def isDigit (b : UInt8) : Bool := 0x30 ≤ b && b ≤ 0x39

def hexDigit? (b : UInt8) : Option Nat :=
  if 0x30 ≤ b && b ≤ 0x39 then some (b.toNat - 0x30)
  else if 0x41 ≤ b && b ≤ 0x46 then some (b.toNat - 0x41 + 10)
  else if 0x61 ≤ b && b ≤ 0x66 then some (b.toNat - 0x61 + 10)
  else none

/-- `A` to `Z` in lower case, every other byte as it is. -/
def lower (b : UInt8) : UInt8 := if 0x41 ≤ b && b ≤ 0x5A then b + 0x20 else b

end Bytes
end Intake
