import Intake.Json.Skip
import Intake.Json.Value

/-!
# Reading JSON into a known shape

Readers for texts, optional values, lists, names from a fixed set, and records. A record is an
object whose members may come in any order, or a list of their values in the order in which they
are declared; members that are not declared are passed over.
-/

namespace Intake.Json

/-- The kind of the value in front: a scalar is read to its end, of a container only the first
octet counts. -/
def kindAhead (s : Bytes) : Except Fault Kind :=
  match skipBlanks s with
  | [] => .error .endInValue
  | b :: r =>
    if b = 0x5B then .ok .list
    else if b = 0x7B then .ok .object
    else (scalar b r).map fun (v, _) => v.kind

/-- The defect of a value that is not of the kind wanted. -/
def mismatch {α : Type} (wanted : String) (s : Bytes) : Except Fault α :=
  match kindAhead s with
  | .error e => .error e
  | .ok got => .error (.wrongKind got wanted)

/-- A text, described as `wanted` where there is none. -/
def textAs (wanted : String) : Read String := fun s =>
  match skipBlanks s with
  | 0x22 :: r => text r
  | s => mismatch wanted s

def textValue : Read String := textAs "a string"

def nullable {α : Type} (read : Read α) : Read (Option α) := fun s =>
  match skipBlanks s with
  | 0x6E :: r =>
    match word nullRest r with
    | .error e => .error e
    | .ok r => .ok (none, r)
  | s =>
    match read s with
    | .error e => .error e
    | .ok (a, r) => .ok (some a, r)

def unit : Read Unit := fun s =>
  match skipBlanks s with
  | 0x6E :: r =>
    match word nullRest r with
    | .error e => .error e
    | .ok r => .ok ((), r)
  | s => mismatch "unit" s

/-! ## Lists -/

/-- The elements of a list after those already read, which are in reverse order. -/
def listItems {α : Type} (read : Read α) : Nat → List α → Read (List α)
  | 0, _, _ => .error .endInList
  | fuel + 1, items, s =>
    match listSeparator items.isEmpty s with
    | .error e => .error e
    | .ok (false, r) => .ok (items.reverse, r)
    | .ok (true, r) =>
      match read r with
      | .error e => .error e
      | .ok (a, r) => listItems read fuel (a :: items) r

def listOf {α : Type} (read : Read α) : Read (List α) := fun s =>
  match skipBlanks s with
  | 0x5B :: r => listItems read (r.length + 1) [] r
  | s => mismatch "a sequence" s

/-! ## Names from a fixed set -/

def nameIn {α : Type} (known : List (String × α)) (wanted : String) : Read α := fun s =>
  match textAs wanted s with
  | .error e => .error e
  | .ok (name, r) =>
    match known.lookup name with
    | some a => .ok (a, r)
    | none => .error (.unknownName name (known.map Prod.fst))

/-- One of the known names, written as a text or as the only member of an object, with the value
null. -/
def oneOf {α : Type} (known : List (String × α)) : Read α := fun s =>
  match skipBlanks s with
  | [] => .error .endInValue
  | 0x22 :: r => nameIn known "variant identifier" (0x22 :: r)
  | 0x7B :: r => do
    let (a, r) ← nameIn known "variant identifier" r
    let r ← colon r
    let (_, r) ← unit r
    match skipBlanks r with
    | [] => .error .endInObject
    | 0x7D :: r => .ok (a, r)
    | _ => .error .valueExpected
  | _ => .error .valueExpected

/-! ## Records -/

/-- A declared member of a record whose members so far are collected in a `σ`. -/
structure Member (σ : Type) where
  /-- The name that messages use. -/
  name : String
  /-- Every name that the member may have. -/
  names : List String
  /-- Whether the member has been read. -/
  isSet : σ → Bool
  read : σ → Read σ
  /-- Whether a list may end before the member. -/
  mayLack : Bool

/-- A record: its name in messages, its members in order, and what they make together. -/
structure Record (σ α : Type) where
  title : String
  members : List (Member σ)
  start : σ
  finish : σ → Except Fault α

namespace Record

variable {σ α : Type}

/-- How messages describe a list with the members' values. -/
def asList (r : Record σ α) : String :=
  r.title ++ " with " ++ toString r.members.length ++ " elements"

def member? (r : Record σ α) (name : String) : Option (Member σ) :=
  r.members.find? fun m => m.names.contains name

/-- The members of an object after those that `st` holds. -/
def readMembers (r : Record σ α) : Nat → Bool → σ → Read σ
  | 0, _, _, _ => .error .endInObject
  | fuel + 1, isFirst, st, s =>
    match memberName isFirst s with
    | .error e => .error e
    | .ok (none, rest) => .ok (st, rest)
    | .ok (some name, rest) =>
      match r.member? name with
      | none =>
        match colon rest >>= skip with
        | .error e => .error e
        | .ok rest => r.readMembers fuel false st rest
      | some m =>
        if m.isSet st then .error (.repeated m.name)
        else
          match colon rest >>= m.read st with
          | .error e => .error e
          | .ok (st, rest) => r.readMembers fuel false st rest

/-- The values of a list that stand for the members; `n` of them have been read. -/
def readPlaces (r : Record σ α) : List (Member σ) → Nat → σ → Read σ
  | [], _, st, s => .ok (st, s)
  | m :: ms, n, st, s =>
    match listSeparator (n = 0) s with
    | .error e => .error e
    | .ok (false, _) =>
      if m.mayLack then r.readPlaces ms n st s else .error (.tooShort n r.asList)
    | .ok (true, rest) =>
      match m.read st rest with
      | .error e => .error e
      | .ok (st, rest) => r.readPlaces ms (n + 1) st rest

/-- The end of a list of which nothing more is wanted. -/
def endList (s : Bytes) : Except Fault Bytes :=
  match skipBlanks s with
  | [] => .error .endInList
  | 0x5D :: r => .ok r
  | 0x2C :: r =>
    match skipBlanks r with
    | 0x5D :: _ => .error .trailingComma
    | _ => .error .trailingText
  | _ => .error .trailingText

def read (r : Record σ α) : Read α := fun s =>
  match skipBlanks s with
  | 0x7B :: rest => do
    let (st, rest) ← r.readMembers (rest.length + 1) true r.start rest
    return (← r.finish st, rest)
  | 0x5B :: rest => do
    let (st, rest) ← r.readPlaces r.members 0 r.start rest
    let a ← r.finish st
    return (a, ← endList rest)
  | s => mismatch r.title s

end Record
end Intake.Json
