import Intake.Json.Scan

/-!
# JSON values

Values as trees, read with every check: numbers in range, texts in Unicode, and containers nested
no deeper than a limit.
-/

namespace Intake.Json

/-- A JSON value; an object keeps its members in order, repeated ones included. -/
inductive Value
  | null
  | boolean (b : Bool)
  | number (n : Number)
  | text (s : String)
  | list (items : List Value)
  | object (members : List (String × Value))
  deriving Repr

namespace Value

def kind : Value → Kind
  | null => .null
  | boolean b => .boolean b
  | number n => .number n
  | text s => .text s
  | list _ => .list
  | object _ => .object

def nat (n : Nat) : Value := number (.natural n)

def optional : Option String → Value
  | some s => text s
  | none => null

end Value

def depthLimit : Nat := 127

/-- What stands between two elements of a container closed by `closer`; the result says whether
another element follows. -/
def separator (isFirst : Bool) (closer : UInt8) (atEnd comma : Fault) (s : Bytes) :
    Except Fault (Bool × Bytes) :=
  match skipBlanks s with
  | [] => .error atEnd
  | b :: r =>
    if b = closer then .ok (false, r)
    else if isFirst then .ok (true, b :: r)
    else if b = 0x2C then
      match skipBlanks r with
      | [] => .error .endInValue
      | c :: r => if c = closer then .error .trailingComma else .ok (true, c :: r)
    else .error comma

def listSeparator (isFirst : Bool) : Bytes → Except Fault (Bool × Bytes) :=
  separator isFirst 0x5D .endInList .commaOrBracketExpected

/-- The name of the next member of an object, or nothing at its end; the colon is still to come. -/
def memberName (isFirst : Bool) (s : Bytes) : Except Fault (Option String × Bytes) :=
  match separator isFirst 0x7D .endInObject .commaOrBraceExpected s with
  | .error e => .error e
  | .ok (false, r) => .ok (none, r)
  | .ok (true, r) =>
    match r with
    | 0x22 :: r =>
      match text r with
      | .error e => .error e
      | .ok (name, r) => .ok (some name, r)
    | _ => .error .keyExpected

def colon (s : Bytes) : Except Fault Bytes :=
  match skipBlanks s with
  | [] => .error .endInObject
  | b :: r => if b = 0x3A then .ok r else .error .colonExpected

def literal (rest : Bytes) (v : Value) : Read Value := fun r =>
  match word rest r with
  | .error e => .error e
  | .ok r => .ok (v, r)

/-- Reads a value without parts, whose first octet is `b`. -/
def scalar (b : UInt8) (r : Bytes) : Except Fault (Value × Bytes) :=
  if b = 0x6E then literal nullRest .null r
  else if b = 0x74 then literal trueRest (.boolean true) r
  else if b = 0x66 then literal falseRest (.boolean false) r
  else if b = 0x22 then
    match text r with
    | .error e => .error e
    | .ok (t, r) => .ok (.text t, r)
  else if b = 0x2D then
    match unsignedNumber true r with
    | .error e => .error e
    | .ok (n, r) => .ok (.number n, r)
  else if Bytes.isDigit b then
    match unsignedNumber false (b :: r) with
    | .error e => .error e
    | .ok (n, r) => .ok (.number n, r)
  else .error .valueExpected

mutual

/-- Reads a value with `depth` further containers allowed. -/
def readValue (fuel depth : Nat) (s : Bytes) : Except Fault (Value × Bytes) :=
  match fuel with
  | 0 => .error .endInValue
  | fuel + 1 =>
    match skipBlanks s with
    | [] => .error .endInValue
    | b :: r =>
      if b = 0x5B then
        match depth with
        | 0 => .error .tooDeep
        | depth + 1 => readItems fuel depth [] r
      else if b = 0x7B then
        match depth with
        | 0 => .error .tooDeep
        | depth + 1 => readMembers fuel depth [] r
      else scalar b r

/-- Reads the elements of a list after those already read, which are in reverse order. -/
def readItems (fuel depth : Nat) (items : List Value) (s : Bytes) :
    Except Fault (Value × Bytes) :=
  match fuel with
  | 0 => .error .endInList
  | fuel + 1 =>
    match listSeparator items.isEmpty s with
    | .error e => .error e
    | .ok (false, r) => .ok (.list items.reverse, r)
    | .ok (true, r) =>
      match readValue fuel depth r with
      | .error e => .error e
      | .ok (v, r) => readItems fuel depth (v :: items) r

/-- Reads the members of an object after those already read, which are in reverse order. -/
def readMembers (fuel depth : Nat) (members : List (String × Value)) (s : Bytes) :
    Except Fault (Value × Bytes) :=
  match fuel with
  | 0 => .error .endInObject
  | fuel + 1 =>
    match memberName members.isEmpty s with
    | .error e => .error e
    | .ok (none, r) => .ok (.object members.reverse, r)
    | .ok (some name, r) =>
      match colon r with
      | .error e => .error e
      | .ok r =>
        match readValue fuel depth r with
        | .error e => .error e
        | .ok (v, r) => readMembers fuel depth ((name, v) :: members) r

end

def value (depth : Nat) : Read Value := fun s => readValue (2 * s.length + 2) depth s

/-- Reads a whole text: nothing but blanks may follow what `r` reads. -/
def decode {α : Type} (r : Read α) (s : Bytes) : Except Fault α :=
  match r s with
  | .error e => .error e
  | .ok (a, rest) => if (skipBlanks rest).isEmpty then .ok a else .error .trailingText

end Intake.Json
