/-!
# Binary fractions of 53 bits

Finite non-negative floating-point numbers as exact values `mantissa · 2 ^ exponent`, and the two
operations that decimal notation needs: multiplying and dividing by a power of ten. Every result is
the nearest representable number, ties going to the even mantissa.
-/

namespace Intake.Decimal

/-- The value `mantissa · 2 ^ (shift - 1074)`. -/
structure Binary64 where
  mantissa : Nat
  /-- How far the exponent is above the least one. -/
  shift : Nat
  deriving Repr, DecidableEq

namespace Binary64

def zero : Binary64 := ⟨0, 0⟩

def fraction (x : Binary64) : Nat × Nat :=
  if 1074 ≤ x.shift then (x.mantissa <<< (x.shift - 1074), 1)
  else (x.mantissa, 1 <<< (1074 - x.shift))

/-- The quotient to the nearest whole number, a tie going to the even one. -/
def roundDiv (num den : Nat) : Nat :=
  let q := num / den
  let r := num % den
  if 2 * r < den then q
  else if den < 2 * r then q + 1
  else if q % 2 = 0 then q else q + 1

def bitLength (n : Nat) : Nat := if n = 0 then 0 else Nat.log2 n + 1

/-- The representable number nearest to `num / den`; nothing when it is beyond the largest one. -/
def round? (num den : Nat) : Option Binary64 :=
  if num = 0 then some zero
  else
    -- In units of the least positive number the quotient has about `len` bits.
    let scaled := num <<< 1074
    let len := bitLength (scaled / den)
    let shift := len - 53
    let m := roundDiv scaled (den <<< shift)
    let (m, shift) := if m = 1 <<< 53 then (1 <<< 52, shift + 1) else (m, shift)
    if shift ≤ 2045 then some ⟨m, shift⟩ else none

/-- The representable number nearest to a whole number below 2⁶⁴. -/
def ofNat (n : Nat) : Binary64 := (round? n 1).getD zero

/-- The representable number nearest to `10 ^ k`, for `k` up to 308. -/
def powTen (k : Nat) : Binary64 := (round? (Nat.pow 10 k) 1).getD zero

/-- The product, rounded; nothing when it is too large. -/
def mul? (x y : Binary64) : Option Binary64 :=
  let (a, b) := x.fraction
  let (c, d) := y.fraction
  round? (a * c) (b * d)

/-- The quotient by a positive number, rounded. -/
def div (x y : Binary64) : Binary64 :=
  let (a, b) := x.fraction
  let (c, d) := y.fraction
  (round? (a * d) (b * c)).getD zero

/-- `significand · 10 ^ exponent` for a negative exponent, given by its size: one division where the
power of ten is representable, and a division by `10 ^ 308` first where it is not. -/
def scaleDown (x : Binary64) (k : Nat) : Binary64 :=
  if h : k ≤ 308 then x.div (powTen k)
  else if x.mantissa = 0 then zero
  else scaleDown (x.div (powTen 308)) (k - 308)
termination_by k

/-- The value of a decimal notation with a significand below 2⁶⁴; nothing when it is too large. -/
def ofDecimal? (significand : Nat) (exponent : Int) : Option Binary64 :=
  let x := ofNat significand
  if exponent < 0 then some (x.scaleDown exponent.natAbs)
  else if exponent ≤ 308 then x.mul? (powTen exponent.toNat)
  else if x.mantissa = 0 then some zero
  else none

end Binary64
end Intake.Decimal
