import Intake.Text.Decimal

/-!
# Punycode

The ASCII form of a label with other characters: its ASCII characters, a hyphen, and the places and
values of the others as generalized variable-length numbers.
-/

namespace Intake.Text.Punycode

/-- The bias after a step of `delta`, with `count` characters so far. -/
def adapt (delta count : Nat) (isFirst : Bool) : Nat :=
  let d := if isFirst then delta / 700 else delta / 2
  shrink (d + d / count) 0 64
where
  /-- Divides until the step is small. -/
  shrink (d k : Nat) : Nat → Nat
    | 0 => k
    | fuel + 1 => if 455 < d then shrink (d / 35) (k + 36) fuel else k + 36 * d / (d + 38)

/-- The digit of a value below 36. -/
def digit (n : Nat) : Char := Char.ofNat (if n < 26 then 97 + n else 22 + n)

def digitValue? (c : Char) : Option Nat :=
  let n := c.toNat
  if 97 ≤ n ∧ n ≤ 122 then some (n - 97)
  else if 65 ≤ n ∧ n ≤ 90 then some (n - 65)
  else if 48 ≤ n ∧ n ≤ 57 then some (n - 22)
  else none

def threshold (k bias : Nat) : Nat := if k ≤ bias then 1 else if bias + 26 ≤ k then 26 else k - bias

def number (bias : Nat) : Nat → Nat → Nat → List Char
  | 0, _, _ => []
  | fuel + 1, k, q =>
    let t := threshold k bias
    if q < t then [digit q] else digit (t + (q - t) % (36 - t)) :: number bias fuel (k + 36) ((q - t) / (36 - t))

/-- Where an encoder stands. -/
structure Encoder where
  delta : Nat
  bias : Nat
  handled : Nat
  isFirst : Bool
  output : List Char

/-- Passes over the text for the code point `n`. -/
def encodeRound (n : Nat) (e : Encoder) (text : List Char) : Encoder :=
  text.foldl (fun e c =>
    if c.toNat < n then { e with delta := e.delta + 1 }
    else if c.toNat = n then
      { delta := 0
        bias := adapt e.delta (e.handled + 1) e.isFirst
        handled := e.handled + 1
        isFirst := false
        output := e.output ++ number e.bias 64 36 e.delta }
    else e) e

/-- The rounds for the code points in ascending order. -/
def encodeRounds (text : List Char) : Nat → Encoder → List Nat → Encoder
  | _, e, [] => e
  | n, e, m :: ms =>
    let e := encodeRound m { e with delta := e.delta + (m - n) * (e.handled + 1) } text
    encodeRounds text (m + 1) { e with delta := e.delta + 1 } ms

/-- The ASCII form of a label that is not ASCII, without its mark. -/
def encode (text : List Char) : List Char :=
  let basic := text.filter fun c => c.toNat < 128
  let others := ((text.filter fun c => 128 ≤ c.toNat).map Char.toNat).eraseDups.mergeSort
  let start := if basic.isEmpty then [] else basic ++ ['-']
  (encodeRounds text 128 ⟨0, 72, basic.length, true, start⟩ others).output

/-- Reads one number: the value added to `i`, and what is left. -/
def readNumber (bias : Nat) : Nat → Nat → Nat → List Char → Option (Nat × List Char)
  | _, _, _, [] => none
  | k, w, i, c :: cs => do
    let d ← digitValue? c
    let i := i + d * w
    let t := threshold k bias
    if d < t then some (i, cs) else readNumber bias (k + 36) (w * (36 - t)) i cs

def decodeFrom (fuel n i bias : Nat) (isFirst : Bool) (out : List Char) (s : List Char) :
    Option (List Char) :=
  match fuel, s with
  | _, [] => some out
  | 0, _ => none
  | fuel + 1, s => do
    let (j, rest) ← readNumber bias 36 1 i s
    let count := out.length + 1
    let n := n + j / count
    let at_ := j % count
    if n.isValidChar then
      decodeFrom fuel n (at_ + 1) (adapt (j - i) count isFirst) false
        (out.take at_ ++ Char.ofNat n :: out.drop at_) rest
    else none

/-- The label that an ASCII form without its mark denotes. -/
def decode? (s : List Char) : Option (List Char) :=
  let tail := (s.reverse.takeWhile (· ≠ '-')).reverse
  let basic := if tail.length = s.length then [] else s.take (s.length - tail.length - 1)
  decodeFrom (s.length + 1) 128 0 72 true basic tail

end Intake.Text.Punycode
