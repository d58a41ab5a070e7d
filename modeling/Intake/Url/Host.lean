import Intake.Net.Address
import Intake.Text.Combining
import Intake.Text.Fold
import Intake.Text.Percent
import Intake.Text.Punycode
import Intake.Text.Utf8

/-!
# Hosts

What stands between the slashes and the path of an address: a name, or an address of either version.
A name is folded to lower case, and one that ends in a number has to be an address of version 4.
-/

namespace Intake.Url

inductive Fault
  | emptyHost
  | invalidName
  | invalidCharacter
  | invalidPort
  | invalidIpv4
  | invalidIpv6
  /-- It is relative, and there is nothing it is relative to. -/
  | noBase
  /-- It is relative to an address without a path of segments. -/
  | opaqueBase
  deriving Repr, DecidableEq

def Fault.message : Fault → String
  | .emptyHost => "empty host"
  | .invalidName => "invalid international domain name"
  | .invalidCharacter => "invalid domain character"
  | .invalidPort => "invalid port number"
  | .invalidIpv4 => "invalid IPv4 address"
  | .invalidIpv6 => "invalid IPv6 address"
  | .noBase => "relative URL without a base"
  | .opaqueBase => "relative URL with a cannot-be-a-base base"

/-- A host; the name is empty where a scheme allows that. -/
inductive Host
  | name (s : String)
  | v4 (a : Net.Ipv4)
  | v6 (a : Net.Ipv6)
  deriving Repr, DecidableEq

namespace Host

def text : Host → String
  | name s => s
  | v4 a => a.text
  | v6 a => "[" ++ a.compressed ++ "]"

def bracketed (cs : List Char) : Except Fault Host :=
  match cs.getLast? with
  | some ']' =>
    match Net.scanIpv6 cs.dropLast with
    | some (a, []) => .ok (v6 a)
    | _ => .error .invalidIpv6
  | _ => .error .invalidIpv6

/-! ## Addresses of version 4 in their many forms -/

/-- A part of an address: decimal, octal after a zero, hexadecimal after `0x`. -/
def part? (cs : List Char) : Option Nat :=
  let read (base : Nat) (ds : List Char) : Option Nat :=
    (ds.mapM (Net.digitIn? base)).map (Net.ofDigits base)
  match cs with
  | [] => none
  | '0' :: 'x' :: ds | '0' :: 'X' :: ds => read 16 ds
  | '0' :: d :: ds => read 8 (d :: ds)
  | ds => read 10 ds

def splitDots : List Char → List (List Char)
  | [] => [[]]
  | c :: cs =>
    match splitDots cs with
    | [] => [[c]]
    | p :: ps => if c = '.' then [] :: p :: ps else (c :: p) :: ps

/-- The parts without an empty last one. -/
def trimmedParts (name : List Char) : List (List Char) :=
  let parts := splitDots name
  if 1 < parts.length ∧ parts.getLast? = some [] then parts.dropLast else parts

def endsInNumber (name : List Char) : Bool :=
  match (trimmedParts name).getLast? with
  | none => false
  | some p => (!p.isEmpty && p.all Char.isDigit) || (part? p).isSome

/-- The address that numbers denote: all but the last are octets, the last fills the rest. -/
def ofNumbers (ns : List Nat) : Option Net.Ipv4 :=
  match ns.getLast? with
  | none => none
  | some last =>
    let octets := ns.dropLast
    if 3 < octets.length ∨ octets.any (255 < ·) ∨ 1 <<< (8 * (4 - octets.length)) ≤ last then none
    else
      let place (x : Nat × Nat) : Nat := x.1 <<< (8 * (3 - x.2))
      some ⟨octets.zipIdx.foldl (fun n x => n + place x) last⟩

def ipv4 (name : List Char) : Except Fault Host :=
  match (trimmedParts name).mapM part? >>= ofNumbers with
  | some a => .ok (v4 a)
  | none => .error .invalidIpv4

/-! ## Names -/

def isForbiddenInName (c : Char) : Bool := Text.Percent.isControl c || " #/:<>?@[\\]^|%".toList.contains c

/-- A character that no host of a foreign scheme holds. -/
def isForbidden (c : Char) : Bool := "\x00\t\n\r #/:<>?@[\\]^|".toList.contains c

/-- Whether a folded label can be a name: it holds nothing that cannot be seen, and does not begin
with a character that attaches to the one before it. -/
def isSound (label : List Char) : Bool :=
  label.all (fun c => c.toNat < 128 || !Text.isUnprintable c) && !label.head?.any Text.isCombining

/-- The ASCII form of a folded label. One that is given in this form has to denote a folded label
that needs it. -/
def asciiLabel (label : List Char) : Option (List Char) :=
  if label.all fun c => c.toNat < 128 then
    match label with
    | 'x' :: 'n' :: '-' :: '-' :: rest => do
      let u ← Text.Punycode.decode? rest
      let isNeeded := u.any fun c => 128 ≤ c.toNat
      if isNeeded && isSound u && Text.foldName u = u then some label else none
    | l => some l
  else if isSound label then some ("xn--".toList ++ Text.Punycode.encode label)
  else none

def asciiName (cs : List Char) : Option (List Char) := do
  let parts ← (splitDots (Text.foldName cs)).mapM asciiLabel
  let name := List.intercalate ['.'] parts
  if name.any isForbiddenInName then none else some name

def parseSpecial (cs : List Char) : Except Fault Host :=
  match cs with
  | '[' :: rest => bracketed rest
  | _ =>
    match Text.Utf8.decode? (Text.Percent.decode (Bytes.ofString (String.ofList cs))) with
    | none => .error .invalidName
    | some s =>
      match asciiName s.toList with
      | none => .error .invalidName
      | some [] => .error .emptyHost
      | some n => if endsInNumber n then ipv4 n else .ok (name (String.ofList n))

def parseOpaque (cs : List Char) : Except Fault Host :=
  match cs with
  | '[' :: rest => bracketed rest
  | _ =>
    if cs.any isForbidden then .error .invalidCharacter
    else .ok (name (Text.Percent.encode Text.Percent.isControl cs))

end Host
end Intake.Url
