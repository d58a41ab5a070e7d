import Intake.Json.Fault
import Intake.Text.Utf8

/-!
# The tokens of JSON

Readers for blanks, literal words, texts and numbers. Each takes what is left of the text and
answers with what it read and what is left after it, or with the first defect it met.
-/

namespace Intake.Json

/-- A reader: what is left of the text, to a result and what is left after it. -/
abbrev Read (α : Type) := Bytes → Except Fault (α × Bytes)

/-- The blanks of JSON: space, tab, line feed and carriage return. -/
def isBlank (b : UInt8) : Bool := b = 0x20 || b = 0x09 || b = 0x0A || b = 0x0D

def skipBlanks : Bytes → Bytes
  | [] => []
  | b :: bs => if isBlank b then skipBlanks bs else b :: bs

/-- The letters of a literal word, after its first letter. -/
def word : Bytes → Bytes → Except Fault Bytes
  | [], s => .ok s
  | _ :: _, [] => .error .endInValue
  | c :: cs, b :: bs => if b = c then word cs bs else .error .wordExpected

def nullRest : Bytes := [0x75, 0x6C, 0x6C]
def trueRest : Bytes := [0x72, 0x75, 0x65]
def falseRest : Bytes := [0x61, 0x6C, 0x73, 0x65]

/-! ## Texts -/

/-- The octet that a one-letter escape stands for. -/
def simpleEscape? (b : UInt8) : Option UInt8 :=
  match b with
  | 0x22 => some 0x22
  | 0x5C => some 0x5C
  | 0x2F => some 0x2F
  | 0x62 => some 0x08
  | 0x66 => some 0x0C
  | 0x6E => some 0x0A
  | 0x72 => some 0x0D
  | 0x74 => some 0x09
  | _ => none

def hex4? (a b c d : UInt8) : Option Nat := do
  return (((← Bytes.hexDigit? a) * 16 + (← Bytes.hexDigit? b)) * 16 + (← Bytes.hexDigit? c)) * 16
    + (← Bytes.hexDigit? d)

/-- The octets of a code point that is no surrogate. -/
def encodeCode (n : Nat) : Bytes := Bytes.ofString (String.singleton (Char.ofNat n))

def pairCode (high low : Nat) : Nat := 0x10000 + (high - 0xD800) * 0x400 + (low - 0xDC00)

/-- The content of a text after its opening quote, as octets: escapes are replaced and must denote
characters, a control character is refused. -/
def textOctets (acc : List Bytes) : Read Bytes
  | [] => .error .endInText
  | 0x22 :: s => .ok (acc.reverse.flatten, s)
  | 0x5C :: 0x75 :: s =>
    match s with
    | a :: b :: c :: d :: s =>
      match hex4? a b c d with
      | none => .error .malformedEscape
      | some n =>
        if 0xDC00 ≤ n ∧ n ≤ 0xDFFF then .error .loneSurrogate
        else if n < 0xD800 ∨ 0xDBFF < n then textOctets (encodeCode n :: acc) s
        else match s with
          | [] => .error .endInText
          | [0x5C] => .error .endInText
          | 0x5C :: 0x75 :: s =>
            match s with
            | a :: b :: c :: d :: s =>
              match hex4? a b c d with
              | none => .error .malformedEscape
              | some m =>
                if 0xDC00 ≤ m ∧ m ≤ 0xDFFF then textOctets (encodeCode (pairCode n m) :: acc) s
                else .error .loneSurrogate
            | _ => .error .endInText
          | _ => .error .unfinishedSurrogate
    | _ => .error .endInText
  | 0x5C :: e :: s =>
    match simpleEscape? e with
    | some b => textOctets ([b] :: acc) s
    | none => .error .malformedEscape
  | [0x5C] => .error .endInText
  | b :: s => if b < 0x20 then .error .controlCharacter else textOctets ([b] :: acc) s

def text : Read String := fun s =>
  match textOctets [] s with
  | .error e => .error e
  | .ok (octets, r) =>
    match Text.Utf8.decode? octets with
    | some t => .ok (t, r)
    | none => .error .notUnicode

/-- Passes over a text after its opening quote. Its escapes need not denote characters, nor its
octets be UTF-8. -/
def skipText : Bytes → Except Fault Bytes
  | [] => .error .endInText
  | 0x22 :: s => .ok s
  | 0x5C :: 0x75 :: s =>
    match s with
    | a :: b :: c :: d :: s =>
      if (hex4? a b c d).isSome then skipText s else .error .malformedEscape
    | _ => .error .endInText
  | 0x5C :: e :: s =>
    if (simpleEscape? e).isSome then skipText s else .error .malformedEscape
  | [0x5C] => .error .endInText
  | b :: s => if b < 0x20 then .error .controlCharacter else skipText s

/-! ## Numbers -/

/-- Significands stay below this bound; further digits only move the decimal point. -/
def significandBound : Nat := UInt64.size

/-- The digits in front, and what is left after them. -/
def spanDigits : Bytes → List Nat × Bytes
  | [] => ([], [])
  | b :: bs =>
    if Bytes.isDigit b then
      let (ds, r) := spanDigits bs
      ((b.toNat - 0x30) :: ds, r)
    else ([], b :: bs)

/-- Adds digits to a significand as long as it stays below the bound; the second part counts the
digits left out. -/
def addDigits (n : Nat) : List Nat → Nat × Nat
  | [] => (n, 0)
  | d :: ds => if 10 * n + d < significandBound then addDigits (10 * n + d) ds else (n, ds.length + 1)

/-- The exponents that are still counted; a larger one is as good as infinite. -/
def exponentBound : Nat := UInt32.size / 2

def fractionValue (isNegative : Bool) (significand : Nat) (exponent : Int) : Except Fault Number :=
  match Decimal.Binary64.ofDecimal? significand exponent with
  | some x => .ok (.fraction isNegative x)
  | none => .error .numberRange

/-- An exponent after its letter, applied to a significand that has one already. -/
def exponentPart (isNegative : Bool) (significand : Nat) (start : Int) : Read Number := fun s =>
  let (down, s) : Bool × Bytes := match s with
    | 0x2B :: s => (false, s)
    | 0x2D :: s => (true, s)
    | s => (false, s)
  match spanDigits s with
  | ([], []) => .error .endInValue
  | ([], _ :: _) => .error .malformedNumber
  | (ds, r) =>
    let e := ds.foldl (fun n d => 10 * n + d) 0
    if exponentBound ≤ e then
      if significand ≠ 0 && !down then .error .numberRange
      else .ok (.fraction isNegative .zero, r)
    else
      let shift : Int := if down then -(e : Int) else e
      match fractionValue isNegative significand (start + shift) with
      | .ok n => .ok (n, r)
      | .error f => .error f

def isExponentMark (b : UInt8) : Bool := b = 0x65 || b = 0x45

/-- What follows the digits of a decimal notation: an exponent or nothing. -/
def afterDigits (isNegative : Bool) (significand : Nat) (exponent : Int) : Read Number
  | [] => (fractionValue isNegative significand exponent).map (·, [])
  | b :: s =>
    if isExponentMark b then exponentPart isNegative significand exponent s
    else (fractionValue isNegative significand exponent).map (·, b :: s)

def decimalPart (isNegative : Bool) (significand : Nat) (exponent : Int) : Read Number := fun s =>
  match spanDigits s with
  | ([], []) => .error .endInValue
  | ([], _ :: _) => .error .malformedNumber
  | (ds, r) =>
    let (n, dropped) := addDigits significand ds
    afterDigits isNegative n (exponent - (ds.length - dropped : Nat)) r

/-- A number whose integer digits are `n`, of which the last `dropped` were left out. -/
def numberTail (isNegative : Bool) (n dropped : Nat) : Read Number := fun s =>
  match s with
  | 0x2E :: s => decimalPart isNegative n dropped s
  | b :: r =>
    if isExponentMark b then exponentPart isNegative n dropped r else whole s
  | [] => whole s
where
  whole (s : Bytes) : Except Fault (Number × Bytes) :=
    if dropped ≠ 0 then (fractionValue isNegative n dropped).map (·, s)
    else if !isNegative then .ok (.natural n, s)
    else if n = 0 ∨ UInt64.size / 2 < n then .ok (.fraction true (Decimal.Binary64.ofNat n), s)
    else .ok (.negative n, s)

def unsignedNumber (isNegative : Bool) : Read Number
  | [] => .error .endInValue
  | 0x30 :: s =>
    match s with
    | b :: _ => if Bytes.isDigit b then .error .malformedNumber else numberTail isNegative 0 0 s
    | [] => numberTail isNegative 0 0 s
  | b :: s =>
    if Bytes.isDigit b then
      let (ds, r) := spanDigits (b :: s)
      let (n, dropped) := addDigits 0 ds
      numberTail isNegative n dropped r
    else .error .malformedNumber

/-- Passes over the exponent of a number, after its letter. -/
def skipExponent (s : Bytes) : Except Fault Bytes :=
  let s := match s with
    | 0x2B :: s => s
    | 0x2D :: s => s
    | s => s
  match spanDigits s with
  | ([], _) => .error .malformedNumber
  | (_, r) => .ok r

def skipExponentMark (s : Bytes) : Except Fault Bytes :=
  match s with
  | b :: r => if isExponentMark b then skipExponent r else .ok s
  | [] => .ok []

/-- Passes over what may follow the integer digits of a number. -/
def skipNumberTail (s : Bytes) : Except Fault Bytes :=
  match s with
  | 0x2E :: s =>
    match spanDigits s with
    | ([], _) => .error .malformedNumber
    | (_, r) => skipExponentMark r
  | s => skipExponentMark s

/-- Passes over a number after its sign, whatever its range. -/
def skipNumber : Bytes → Except Fault Bytes
  | [] => .error .malformedNumber
  | 0x30 :: s =>
    match s with
    | b :: _ => if Bytes.isDigit b then .error .malformedNumber else skipNumberTail s
    | [] => .ok []
  | b :: s =>
    if Bytes.isDigit b then skipNumberTail (spanDigits s).2 else .error .malformedNumber

end Intake.Json
