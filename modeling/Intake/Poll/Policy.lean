import Intake.Poll.Task

/-!
# Retry policies

How long to wait between two polls of a task and when to give it up. A policy that counts attempts
includes the first one; a policy that counts time gives a task up when its next attempt would come
too late.
-/

namespace Intake.Poll

inductive StopRule
  | attempts (most : Nat)
  | elapsed (limit : Millis)
  deriving Repr, DecidableEq

structure Policy where
  wait : Millis
  stop : StopRule
  deriving Repr, DecidableEq

namespace Policy

/-- Five seconds between attempts, of which there are twelve. -/
def standard : Policy := ⟨5000, .attempts 12⟩

/-- Whether a task has spent its budget at `now`; its attempts include the one just made. -/
def isExhausted (p : Policy) (t : Task) (now : Millis) : Bool :=
  match p.stop with
  | .attempts most => max most 1 ≤ t.attempts
  | .elapsed limit => limit < t.elapsed now + p.wait

end Policy

def standardCapacity : Nat := 10000

structure Settings where
  poolSize : Nat
  queueCapacity : Nat
  policy : Policy
  deadLetterCapacity : Nat
  deriving Repr, DecidableEq

def Settings.standard : Settings := ⟨64, standardCapacity, .standard, 1000⟩

end Intake.Poll
