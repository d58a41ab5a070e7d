import Intake.Service.Call

/-!
# One attempt

One poll of a task and what follows from it: a transformation that is done or has failed is
reconciled with the dataset, and once that is settled the job's record is discarded. A record that
cannot be discarded does not change the outcome.
-/

namespace Intake.Poll

open Service (Work call)

/-- What becomes of a dataset whose transformation has ended. -/
structure Lifecycle where
  onDone : String → List Remote.Product → Work Remote.Outcome
  onFailed : String → Work Remote.Outcome

def discardRecord (t : Task) : Work Unit := do
  match ← call (.discard t.statusUrl) with
  | .ok () => return ()
  | .error e =>
    call (.report (.cleanupFailed t.dataset t.statusUrl e.message))
    call (.count .cleanupFailures)

/-- What a reconciliation means for the task. -/
def settle (t : Task) (v : Verdict) (o : Remote.Outcome) : Work Outcome :=
  match o with
  | .success => do
    discardRecord t
    return .finalized v
  | .notFound => do
    call (.report (.targetMissing t.dataset v.name))
    discardRecord t
    return .finalized v
  | .badRequest reason => return .rejected reason
  | .transient reason => return .retry reason

/-- What a poll says is to be done. -/
inductive Finding
  /-- The poll alone decides. -/
  | over (o : Outcome)
  | done (products : List Remote.Product)
  | failed
  deriving Repr, DecidableEq

def inquire (t : Task) : Work Finding := do
  call (.count .polls)
  match ← call (.poll t.statusUrl) with
  | .inProgress => return .over (.retry "transform still in progress")
  | .transient reason => return .over (.retry reason)
  | .notFound =>
    call (.report (.jobVanished t.dataset t.statusUrl))
    return .over .vanished
  | .done products => return .done products
  | .failed _ => return .failed

/-- Polls a task once and reconciles what the poll says. -/
def attempt (life : Lifecycle) (t : Task) : Work Outcome := do
  match ← inquire t with
  | .over o => return o
  | .done products => settle t .promoted (← life.onDone t.dataset products)
  | .failed => settle t .quarantined (← life.onFailed t.dataset)

end Intake.Poll
