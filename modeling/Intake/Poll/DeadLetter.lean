import Intake.Poll.Task
import Intake.Json.Value

/-!
# Dead letters

Records of the tasks that were given up. The log keeps the latest of them, up to its capacity.
-/

namespace Intake.Poll

inductive GivenUp
  | budgetExhausted
  | rejected
  deriving Repr, DecidableEq

def GivenUp.name : GivenUp → String
  | .budgetExhausted => "budget_exhausted"
  | .rejected => "rejected"

structure DeadLetter where
  dataset : String
  statusUrl : String
  attempts : Nat
  reason : GivenUp
  message : String
  /-- The time of day, in milliseconds since 1970. -/
  recordedAt : Millis
  deriving Repr, DecidableEq

namespace DeadLetter

def ofTask (t : Task) (reason : GivenUp) (message : String) (recordedAt : Millis) : DeadLetter :=
  ⟨t.dataset, t.statusUrl, t.attempts, reason, message, recordedAt⟩

def toJson (d : DeadLetter) : Json.Value :=
  .object [("dataset_id", .text d.dataset), ("transform_status_url", .text d.statusUrl),
    ("attempts", .nat d.attempts), ("reason", .text d.reason.name), ("message", .text d.message),
    ("recorded_at_epoch_ms", .nat d.recordedAt)]

end DeadLetter

/-- The latest dead letters, oldest first. -/
structure DeadLetterLog where
  capacity : Nat
  records : List DeadLetter
  deriving Repr, DecidableEq

namespace DeadLetterLog

/-- A log without records; its capacity is at least one. -/
def new (capacity : Nat) : DeadLetterLog := ⟨max capacity 1, []⟩

/-- Adds a record, and drops the oldest one where the log is full. -/
def record (log : DeadLetterLog) (d : DeadLetter) : DeadLetterLog :=
  let kept := if log.records.length = log.capacity then log.records.drop 1 else log.records
  { log with records := kept ++ [d] }

end DeadLetterLog
end Intake.Poll
