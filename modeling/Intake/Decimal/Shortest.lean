import Intake.Decimal.Binary64

/-!
# Shortest decimal notation

The fewest decimal digits that still read back as the given number, and among those the digits
nearest to it. The notation is positional from `1e-5` up to `1e16` and scientific outside.
-/

namespace Intake.Decimal

/-- The fraction `num / den` lies strictly between the two bounds, or on one of them if allowed. -/
def between (lo hi : Nat × Nat) (closed : Bool) (num den : Nat) : Bool :=
  let above := lo.1 * den < num * lo.2 || (closed && lo.1 * den == num * lo.2)
  let below := num * hi.2 < hi.1 * den || (closed && num * hi.2 == hi.1 * den)
  above && below

namespace Binary64

/-- The two ends of the interval of fractions that round to `x`. -/
def interval (x : Binary64) : (Nat × Nat) × (Nat × Nat) :=
  let at4 (m : Nat) : Nat × Nat :=
    let (a, b) := fraction ⟨m, x.shift⟩
    (a, 4 * b)
  let lo := if x.mantissa = 1 <<< 52 && 0 < x.shift then 4 * x.mantissa - 1 else 4 * x.mantissa - 2
  (at4 lo, at4 (4 * x.mantissa + 2))

/-- The least `k` with `num / den < 10 ^ (k - offset)`, looked for from below. -/
def magnitude (num den offset : Nat) : Nat → Nat → Nat
  | 0, k => k
  | fuel + 1, k =>
    if num * Nat.pow 10 offset < den * Nat.pow 10 k then k else magnitude num den offset fuel (k + 1)

/-- Searches the grids of `n`, `n + 1`, … digits for the first one with a point in the interval.
`point` is the place of the decimal point, shifted by 400. -/
def searchDigits (x : Binary64) (point : Nat) : Nat → Nat → Nat × Nat
  | 0, n => (0, n)
  | fuel + 1, n =>
    let (num, den) := x.fraction
    let (lo, hi) := x.interval
    let closed := x.mantissa % 2 == 0
    -- One unit of the grid is `10 ^ (point - 400 - n)`.
    let (un, ud) :=
      if 400 + n ≤ point then (Nat.pow 10 (point - 400 - n), 1) else (1, Nat.pow 10 (400 + n - point))
    let q := num * ud / (den * un)
    let lower := between lo hi closed (q * un) ud
    let upper := between lo hi closed ((q + 1) * un) ud
    -- Twice the distance above the lower neighbour, in units, against one unit.
    let twice := 2 * (num * ud % (den * un))
    if lower && upper then (if twice ≤ den * un then q else q + 1, n)
    else if lower then (q, n)
    else if upper then (q + 1, n)
    else searchDigits x point fuel (n + 1)

end Binary64

def dropZeros : Nat → Nat → Nat
  | 0, n => n
  | fuel + 1, n => if n ≠ 0 ∧ n % 10 = 0 then dropZeros fuel (n / 10) else n

def Binary64.text (x : Binary64) : String :=
  if x.mantissa = 0 then "0.0"
  else
    let (num, den) := x.fraction
    let point := magnitude num den 400 800 0
    let (d, n) := x.searchDigits point 17 1
    -- A carry to the next power of ten moves the point.
    let width := (Nat.toDigits 10 d).length
    let place : Int := (point : Int) - 400 + (width - n : Nat)
    let digits := Nat.toDigits 10 (dropZeros 20 d)
    let len := digits.length
    if (len : Int) ≤ place ∧ place ≤ 16 then
      String.ofList (digits ++ List.replicate (place.toNat - len) '0') ++ ".0"
    else if 0 < place ∧ place ≤ 16 then
      String.ofList (digits.take place.toNat) ++ "." ++ String.ofList (digits.drop place.toNat)
    else if -5 < place ∧ place ≤ 0 then
      "0." ++ String.ofList (List.replicate (-place).toNat '0' ++ digits)
    else
      let e := place - 1
      let mark := if e < 0 then "e-" else "e"
      let fractional := if len = 1 then "" else "." ++ String.ofList (digits.drop 1)
      String.ofList (digits.take 1) ++ fractional ++ mark ++ String.ofList (Nat.toDigits 10 e.natAbs)

end Intake.Decimal
