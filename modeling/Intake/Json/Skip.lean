import Intake.Json.Scan

/-!
# Passing over a value

A value that nobody asked for is only checked for its notation: it may be nested to any depth, its
numbers may have any size, and its texts need not be Unicode. The containers that are still open are
kept on a stack, innermost first.
-/

namespace Intake.Json

/-- A container that is open. -/
inductive Frame
  | list
  | object
  deriving Repr, DecidableEq

namespace Frame

def closer : Frame → UInt8
  | list => 0x5D
  | object => 0x7D

/-- The defect of a text that ends inside a container. -/
def endFault : Frame → Fault
  | list => .endInList
  | object => .endInObject

/-- The defect of two elements without a comma between them. -/
def commaFault : Frame → Fault
  | list => .commaOrBracketExpected
  | object => .commaOrBraceExpected

end Frame

/-- Where the reader of a value stands. -/
inductive Place
  /-- A value is next. -/
  | value
  /-- The innermost container has just been opened. -/
  | opened
  /-- A value has just been read. -/
  | done

/-- Passes over the name of a member and its colon. -/
def skipName (s : Bytes) : Except Fault Bytes :=
  match skipBlanks s with
  | [] => .error .endInObject
  | b :: r =>
    if b = 0x22 then
      match skipText r with
      | .error e => .error e
      | .ok r =>
        match skipBlanks r with
        | [] => .error .endInObject
        | c :: r => if c = 0x3A then .ok r else .error .colonExpected
    else .error .keyExpected

/-- What has to stand before the next element of a container: a name in an object, nothing in a
list. -/
def skipLabel : Frame → Bytes → Except Fault Bytes
  | .list, s => .ok s
  | .object, s => skipName s

def skipScalar (b : UInt8) (r : Bytes) : Except Fault Bytes :=
  if b = 0x6E then word nullRest r
  else if b = 0x74 then word trueRest r
  else if b = 0x66 then word falseRest r
  else if b = 0x22 then skipText r
  else if b = 0x2D then skipNumber r
  else if Bytes.isDigit b then skipNumber (b :: r)
  else .error .valueExpected

/-- Passes over what is left of a value with the given containers open. Every round takes at least
one octet, or is followed by one that does, so twice the length of the text and one is enough. -/
def skipFrom : Nat → Place → List Frame → Bytes → Except Fault Bytes
  | 0, _, _, _ => .error .endInValue
  | fuel + 1, .value, frames, s =>
    match skipBlanks s with
    | [] => .error .endInValue
    | b :: r =>
      if b = 0x5B then skipFrom fuel .opened (.list :: frames) r
      else if b = 0x7B then skipFrom fuel .opened (.object :: frames) r
      else match skipScalar b r with
        | .error e => .error e
        | .ok r => skipFrom fuel .done frames r
  | _ + 1, .opened, [], s => .ok s
  | fuel + 1, .opened, frame :: frames, s =>
    match skipBlanks s with
    | [] => .error frame.endFault
    | b :: r =>
      if b = frame.closer then skipFrom fuel .done frames r
      else match skipLabel frame (b :: r) with
        | .error e => .error e
        | .ok r => skipFrom fuel .value (frame :: frames) r
  | _ + 1, .done, [], s => .ok s
  | fuel + 1, .done, frame :: frames, s =>
    match skipBlanks s with
    | [] => .error frame.endFault
    | b :: r =>
      if b = 0x2C then
        match skipLabel frame r with
        | .error e => .error e
        | .ok r => skipFrom fuel .value (frame :: frames) r
      else if b = frame.closer then skipFrom fuel .done frames r
      else .error frame.commaFault

def skip (s : Bytes) : Except Fault Bytes := skipFrom (2 * s.length + 1) .value [] s

end Intake.Json
