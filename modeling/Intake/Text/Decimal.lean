/-!
# Whole numbers in decimal

Readers for unsigned decimal numbers that have to stay below a bound. The first digit that leaves
the bound decides, so a number too large is told apart from one with a foreign character by which
of the two comes first.
-/

namespace Intake.Text

/-- Why a text is not a whole number below the bound. -/
inductive DecimalError
  | empty
  | invalidDigit
  | tooLarge
  deriving Repr, DecidableEq

/-- The words for a number that could not be read. -/
def DecimalError.message : DecimalError → String
  | .empty => "cannot parse integer from empty string"
  | .invalidDigit => "invalid digit found in string"
  | .tooLarge => "number too large to fit in target type"

def digit? (c : Char) : Option Nat :=
  if '0' ≤ c && c ≤ '9' then some (c.toNat - 48) else none

/-- Reads the digits of a number below `bound` after the digits already counted into `n`. -/
def readDigits (bound : Nat) : Nat → List Char → Except DecimalError Nat
  | n, [] => .ok n
  | n, c :: cs =>
    match digit? c with
    | none => .error .invalidDigit
    | some d => if 10 * n + d < bound then readDigits bound (10 * n + d) cs else .error .tooLarge

/-- Reads an unsigned number below `bound`; one leading plus sign is allowed, a minus never. -/
def readNat (bound : Nat) (s : String) : Except DecimalError Nat :=
  match s.toList with
  | [] => .error .empty
  | ['+'] => .error .invalidDigit
  | '+' :: c :: cs => readDigits bound 0 (c :: cs)
  | c :: cs => readDigits bound 0 (c :: cs)

def decimal (n : Nat) : String := String.ofList (Nat.toDigits 10 n)

end Intake.Text
