import Intake.Text.Quoted
import Intake.Text.Decimal

/-!
# Internet addresses

Addresses of both versions in text: dotted octets, and groups of hexadecimal digits with the
longest run of zero groups left out.
-/

namespace Intake.Net

/-- An address of version 4, as one number. -/
structure Ipv4 where
  value : Nat
  deriving Repr, DecidableEq

/-- An address of version 6, as eight groups of 16 bits. -/
structure Ipv6 where
  groups : List Nat
  deriving Repr, DecidableEq

namespace Ipv4

def ofOctets (a b c d : Nat) : Ipv4 := ⟨((a * 256 + b) * 256 + c) * 256 + d⟩

/-- The four octets, highest first. -/
def octets (x : Ipv4) : List Nat :=
  [x.value >>> 24 % 256, x.value >>> 16 % 256, x.value >>> 8 % 256, x.value % 256]

def text (x : Ipv4) : String := String.intercalate "." (x.octets.map Text.decimal)

end Ipv4

namespace Ipv6

def zeros : List Nat → Nat
  | 0 :: gs => zeros gs + 1
  | _ => 0

/-- Start and length of the longest run of zeros, the first of several, among the groups from place
`i` on; `best` is the longest run before them. -/
def longestRun : Nat → Nat × Nat → List Nat → Nat × Nat
  | _, best, [] => best
  | i, best, g :: gs =>
    let n := zeros (g :: gs)
    longestRun (i + 1) (if best.2 < n then (i, n) else best) gs

/-- Groups in hexadecimal, separated by colons. -/
def joined (groups : List Nat) : String := String.intercalate ":" (groups.map Text.hex)

/-- The groups, with the longest run of two or more zeros written as two colons. -/
def compressed (x : Ipv6) : String :=
  let (start, n) := longestRun 0 (0, 0) x.groups
  if n < 2 then joined x.groups
  else joined (x.groups.take start) ++ "::" ++ joined (x.groups.drop (start + n))

/-- The notation of an address: a mapped address of version 4 shows its octets. -/
def text (x : Ipv6) : String :=
  match x.groups with
  | [0, 0, 0, 0, 0, 0xFFFF, a, b] => "::ffff:" ++ (Ipv4.mk (a * 65536 + b)).text
  | _ => x.compressed

end Ipv6

/-! ## Reading -/

/-- A reader of characters: what it read and what is left. -/
abbrev Scan (α : Type) := List Char → Option (α × List Char)

/-- The value of a digit in a base up to 16. -/
def digitIn? (base : Nat) (c : Char) : Option Nat :=
  let n := c.toNat
  let v := if 48 ≤ n ∧ n ≤ 57 then some (n - 48)
    else if 97 ≤ n ∧ n ≤ 102 then some (n - 87)
    else if 65 ≤ n ∧ n ≤ 70 then some (n - 55)
    else none
  v.filter (· < base)

def spanDigitsIn (base : Nat) : List Char → List Nat × List Char
  | [] => ([], [])
  | c :: cs =>
    match digitIn? base c with
    | none => ([], c :: cs)
    | some d => let (ds, r) := spanDigitsIn base cs; (d :: ds, r)

def ofDigits (base : Nat) (ds : List Nat) : Nat := ds.foldl (fun n d => n * base + d) 0

/-- A number below `bound`; at least one digit. -/
def scanNumber (base bound : Nat) : Scan Nat := fun s =>
  let (ds, r) := spanDigitsIn base s
  if ds.isEmpty ∨ bound ≤ ofDigits base ds then none else some (ofDigits base ds, r)

/-- A number of at most `width` digits. -/
def scanShort (base width : Nat) : Scan Nat := fun s =>
  let (ds, r) := spanDigitsIn base s
  if ds.isEmpty ∨ width < ds.length then none else some (ofDigits base ds, r)

def scanChar (c : Char) : List Char → Option (List Char)
  | [] => none
  | d :: r => if d = c then some r else none

/-- An octet: up to three digits without a leading zero. -/
def scanOctet : Scan Nat := fun s => do
  let (n, r) ← scanShort 10 3 s
  let isPadded := s.head? = some '0' ∧ 1 < s.length - r.length
  if isPadded ∨ 255 < n then none else some (n, r)

def scanIpv4 : Scan Ipv4 := fun s => do
  let (a, s) ← scanOctet s
  let (b, s) ← scanChar '.' s >>= scanOctet
  let (c, s) ← scanChar '.' s >>= scanOctet
  let (d, s) ← scanChar '.' s >>= scanOctet
  return (Ipv4.ofOctets a b c d, s)

/-- Up to `room` groups, separated by colons; dotted octets may stand for the last two. The result
says whether they did. -/
def scanGroups (isFirst : Bool) : Nat → List Char → List Nat × Bool × List Char
  | 0, s => ([], false, s)
  | room + 1, s =>
    match if isFirst then some s else scanChar ':' s with
    | none => ([], false, s)
    | some body =>
      match if room = 0 then none else scanIpv4 body with
      | some (v4, r) => ([v4.value / 65536, v4.value % 65536], true, r)
      | none =>
        match scanShort 16 4 body with
        | none => ([], false, s)
        | some (g, r) =>
          let (gs, dotted, r) := scanGroups false room r
          (g :: gs, dotted, r)

def scanIpv6 : Scan Ipv6 := fun s =>
  let (head, dotted, r) := scanGroups true 8 s
  if head.length = 8 then some (⟨head⟩, r)
  else if dotted then none
  else do
    let r ← scanChar ':' r >>= scanChar ':'
    let (tail, _, r) := scanGroups true (7 - head.length) r
    return (⟨head ++ List.replicate (8 - head.length - tail.length) 0 ++ tail⟩, r)

end Intake.Net
