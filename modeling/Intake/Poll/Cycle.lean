import Intake.Poll.Policy
import Intake.Poll.DeadLetter
import Intake.Metrics.Counter
import Intake.Log.Event

/-!
# Drain cycles

One cycle of a worker waits until its task may be polled, polls it once, and acts on what the poll
says: the task is finished, it is given up, or a follow-up goes back into the line.
-/

namespace Intake.Poll

inductive Verdict
  | promoted
  | quarantined
  deriving Repr, DecidableEq

def Verdict.name : Verdict → String
  | .promoted => "promoted"
  | .quarantined => "quarantined"

/-- What one poll decided for its task. -/
inductive Outcome
  /-- Promotion or quarantine is complete. -/
  | finalized (v : Verdict)
  /-- The job is gone; there is nothing to do. -/
  | vanished
  /-- A request was refused as malformed. -/
  | rejected (reason : String)
  /-- Another poll is needed. -/
  | retry (reason : String)
  deriving Repr, DecidableEq

inductive Disposition
  | completed (v : Verdict)
  | dropped
  | deadLettered (why : GivenUp)
  | requeued
  /-- The line was closed while the task waited to get back. -/
  | lost
  deriving Repr, DecidableEq

/-- What a worker does after a poll. -/
inductive Decision
  | finish (v : Verdict)
  | drop
  | giveUp (letter : DeadLetter)
  | putBack (t : Task)
  deriving Repr, DecidableEq

/-- Whether an outcome ends a task, so that no follow-up is made. -/
def Outcome.isFinal : Outcome → Bool
  | .finalized _ | .vanished => true
  | .rejected _ | .retry _ => false

/-- What is counted of an outcome before the follow-up of its task is made. -/
def Outcome.counts : Outcome → List Metrics.Counter
  | .rejected _ => [.rejected]
  | .finalized _ | .vanished | .retry _ => []

/-- What an outcome means for a task whose follow-up is `next`, judged at `now`; dead letters are
dated `timeOfDay`. -/
def Policy.decide (p : Policy) (next : Task) (o : Outcome) (now timeOfDay : Millis) : Decision :=
  match o with
  | .finalized v => .finish v
  | .vanished => .drop
  | .rejected reason => .giveUp (.ofTask next .rejected reason timeOfDay)
  | .retry reason =>
    if p.isExhausted next now then .giveUp (.ofTask next .budgetExhausted reason timeOfDay)
    else .putBack next

namespace Decision

/-- What is counted for a decision; a task that goes back is counted once it is back. -/
def counts : Decision → List Metrics.Counter
  | finish _ => [.completions]
  | drop => [.vanished]
  | giveUp _ => [.deadLettered]
  | putBack _ => []

def events (t : Task) : Decision → List Log.Event
  | finish v => [.taskCompleted t.dataset v.name ((t.attempts + 1) % (attemptLimit + 1))]
  | giveUp l => [.taskGivenUp l]
  | drop | putBack _ => []

def letter? : Decision → Option DeadLetter
  | giveUp l => some l
  | _ => none

/-- How the cycle ends, once a task that goes back is back. -/
def disposition : Decision → Disposition
  | finish v => .completed v
  | drop => .dropped
  | giveUp l => .deadLettered l.reason
  | putBack _ => .requeued

end Decision
end Intake.Poll
