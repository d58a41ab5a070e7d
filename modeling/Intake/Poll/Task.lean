/-!
# Poll tasks

A task says: keep asking how the transformation of this dataset is getting on. A task does not
change; an attempt that has to be repeated makes a new one. Times are counted in milliseconds.
-/

namespace Intake.Poll

/-- A moment or a span, in milliseconds. -/
abbrev Millis := Nat

/-- The largest count of attempts; the counter stays there. -/
def attemptLimit : Nat := UInt32.size - 1

structure Task where
  dataset : String
  statusUrl : String
  /-- Polls made so far. -/
  attempts : Nat
  createdAt : Millis
  /-- The earliest moment of the next poll. -/
  notBefore : Option Millis
  deriving Repr, DecidableEq

namespace Task

def new (dataset statusUrl : String) (now : Millis) : Task := ⟨dataset, statusUrl, 0, now, none⟩

/-- The task after one more attempt at `now`, due again after `wait`. -/
def next (t : Task) (now wait : Millis) : Task :=
  { t with attempts := min (t.attempts + 1) attemptLimit, notBefore := some (now + wait) }

def elapsed (t : Task) (now : Millis) : Millis := now - t.createdAt

/-- The time until the task may be polled. -/
def readyIn (t : Task) (now : Millis) : Millis :=
  match t.notBefore with
  | none => 0
  | some at_ => at_ - now

end Task
end Intake.Poll
