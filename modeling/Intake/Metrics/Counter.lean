/-!
# Counters and gauges

What the service counts: events that only add up, and two quantities that go up and down.
-/

namespace Intake.Metrics

/-- Something that is counted. -/
inductive Counter
  | datasetsIngested
  | datasetsFailed
  | datasetsQuarantined
  | datasetsPromoted
  | polls
  | requeues
  | completions
  | vanished
  | rejected
  | deadLettered
  | cleanupFailures
  | queueOverflow
  deriving Repr, DecidableEq

namespace Counter

def ofIngest : List Counter :=
  [datasetsIngested, datasetsFailed, datasetsQuarantined, datasetsPromoted]

def ofPolling : List Counter :=
  [polls, requeues, completions, vanished, rejected, deadLettered, cleanupFailures, queueOverflow]

def all : List Counter := ofIngest ++ ofPolling

def name : Counter → String
  | datasetsIngested => "datasets_ingested"
  | datasetsFailed => "datasets_failed"
  | datasetsQuarantined => "datasets_quarantined"
  | datasetsPromoted => "datasets_promoted"
  | polls => "polls"
  | requeues => "requeues"
  | completions => "completions"
  | vanished => "vanished"
  | rejected => "rejected"
  | deadLettered => "dead_lettered"
  | cleanupFailures => "cleanup_failures"
  | queueOverflow => "queue_overflow"

def help : Counter → String
  | datasetsIngested => "Total number of datasets staged and submitted for transformation"
  | datasetsFailed => "Total number of dataset ingestions that failed before queueing"
  | datasetsQuarantined => "Total number of datasets whose artifacts were removed"
  | datasetsPromoted => "Total number of datasets stored and indexed"
  | polls => "Total number of transform status poll attempts"
  | requeues => "Total number of tasks put back on the queue for another attempt"
  | completions => "Total number of tasks finalized by promotion or quarantine"
  | vanished => "Total number of tasks dropped because the transform job disappeared"
  | rejected => "Total number of tasks stopped by a malformed-request response"
  | deadLettered => "Total number of tasks recorded as dead letters"
  | cleanupFailures => "Total number of failed transform record deletions"
  | queueOverflow => "Count of re-queues that waited on a full queue"

theorem mem_all (c : Counter) : c ∈ all := by cases c <;> decide

end Counter

/-- A quantity that goes up and down. -/
inductive Gauge
  | queueDepth
  | busyWorkers
  deriving Repr, DecidableEq

namespace Gauge

def all : List Gauge := [queueDepth, busyWorkers]

def name : Gauge → String
  | queueDepth => "queue_depth"
  | busyWorkers => "busy_workers"

def help : Gauge → String
  | queueDepth => "Current task queue depth"
  | busyWorkers => "Workers currently running a drain cycle"

end Gauge

abbrev Tally := Counter → Nat

def Tally.zero : Tally := fun _ => 0

def Tally.count (t : Tally) (c : Counter) : Tally := fun d => if d = c then t d + 1 else t d

end Intake.Metrics
