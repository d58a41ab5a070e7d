import Intake.Poll.Task

/-!
# Rate limits

A limit of so many requests in a second that lets a burst of that many through at once. Each request
moves a mark forward by one interval; a request passes as long as the mark is no more than a whole
burst ahead of the present. Times are in nanoseconds.
-/

namespace Intake.Poll

structure RateLimit where
  interval : Nat
  /-- How far the mark may be ahead. -/
  allowance : Nat
  deriving Repr, DecidableEq

namespace RateLimit

def perSecond (n : Nat) : RateLimit :=
  let interval := 1000000000 / n
  ⟨interval, max interval 1 * n⟩

/-- Whether a request at `now` passes, and the mark after it. -/
def check (r : RateLimit) (mark : Option Nat) (now : Nat) : Bool × Option Nat :=
  let at_ := mark.getD (now + r.interval)
  if now + r.allowance < at_ then (false, mark)
  else (true, some (max at_ now + r.interval))

/-- Which of `n` requests made at once pass, from the mark `mark`. -/
def burst (r : RateLimit) (mark : Option Nat) (now : Nat) : Nat → List Bool
  | 0 => []
  | n + 1 => let (passes, mark) := r.check mark now; passes :: r.burst mark now n

end RateLimit
end Intake.Poll
