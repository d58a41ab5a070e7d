import Intake.Poll.Line
import Intake.Poll.Cycle

/-!
# The crew

One dispatcher and a bounded number of workers share a line of tasks. The dispatcher takes a free
slot first and a task second, and starts a worker that holds the slot. The worker waits out the
task's interval, polls, and acts on the outcome. A task that has to be polled again goes back into
the line; when the line is full the worker gives its slot back before it waits, so that the
dispatcher can go on emptying the line. A worker whose cycle is over gives its slot back first and is
counted off after that, so that the dispatcher can hire another in between.

Every actor moves on its own: `step` makes one move where it is possible, and a run of the crew is
any sequence of moves.
-/

namespace Intake.Poll

/-- Who may wait for room in the line. -/
inductive Party
  | producer (n : Nat)
  | worker (n : Nat)
  deriving Repr, DecidableEq

inductive Phase
  /-- It has not begun. -/
  | hired
  /-- It waits until its task may be polled. -/
  | resting (till : Millis)
  | polling
  /-- Its poll has returned. -/
  | answered (o : Outcome)
  /-- It has the follow-up of its task and has to judge it. -/
  | judging (o : Outcome)
  /-- Its task is to go back into the line. -/
  | returning
  /-- Its task is in the line again, which it has yet to count. -/
  | returned
  /-- It has found the line full. -/
  | refused
  /-- It has given its slot back and is about to wait for room. -/
  | aside
  /-- It waits, without a slot, for room for its task. -/
  | blocked
  /-- Its task has been let in. -/
  | admitted
  /-- Its cycle is over, but for its slot. -/
  | leaving (d : Disposition)
  /-- It has given its slot back and is about to be counted off. -/
  | departing
  deriving Repr, DecidableEq

namespace Phase

def holdsSlot : Phase → Bool
  | aside | blocked | admitted | departing => false
  | _ => true

/-- Whether a worker has its task: neither is it in the line again nor has it ended. -/
def hasTask : Phase → Bool
  | returned | admitted | leaving _ | departing => false
  | _ => true

/-- Whether a worker waits for something, so that it can be dropped. -/
def isWaiting : Phase → Bool
  | hired | resting _ | polling | blocked | admitted => true
  | _ => false

end Phase

structure Worker where
  number : Nat
  task : Task
  phase : Phase
  deriving Repr, DecidableEq

inductive Dispatcher
  | idle
  | seekingSlot
  | holdingSlot
  | stopped
  deriving Repr, DecidableEq

/-- The crew, its line, and what it has reported and counted. -/
structure Crew where
  settings : Settings
  now : Millis
  /-- The time of day at the beginning, which dates dead letters. -/
  epoch : Millis
  line : Line Party Task
  freeSlots : Nat
  dispatcher : Dispatcher
  workers : List Worker
  /-- The number of the next worker. -/
  hired : Nat
  /-- Producers whose task was let in and who have yet to notice. -/
  released : List Nat
  isCancelled : Bool
  letters : DeadLetterLog
  tally : Metrics.Tally
  /-- What has been reported, latest first. -/
  events : List Log.Event

namespace Crew

/-- A crew that has not been started; it has at least one slot. -/
def new (s : Settings) (epoch : Millis) : Crew where
  settings := { s with poolSize := max s.poolSize 1 }
  now := 0
  epoch := epoch
  line := .new s.queueCapacity
  freeSlots := max s.poolSize 1
  dispatcher := .idle
  workers := []
  hired := 0
  released := []
  isCancelled := false
  letters := .new s.deadLetterCapacity
  tally := .zero
  events := []

inductive Move
  /-- A producer brings a task, and waits if there is no room. -/
  | send (producer : Nat) (t : Task)
  /-- Someone brings a task that is refused if there is no room. -/
  | offer (t : Task)
  /-- A producer notices that its task was let in. -/
  | notice (producer : Nat)
  | start
  | takeSlot
  /-- The dispatcher takes a task and starts a worker. -/
  | takeTask
  | work (worker : Nat)
  /-- A worker's poll returns. -/
  | finish (worker : Nat) (o : Outcome)
  /-- Time passes. -/
  | pass (span : Millis)
  | cancel
  | stop
  /-- The cycle of a worker is dropped with its task. -/
  | abandon (worker : Nat)
  deriving Repr, DecidableEq

def worker? (c : Crew) (n : Nat) : Option Worker := c.workers.find? fun w => w.number = n

/-- Puts a worker in the place of the one with its number. -/
def put (c : Crew) (w : Worker) : Crew :=
  { c with workers := c.workers.map fun v => if v.number = w.number then w else v }

def setPhase (c : Crew) (w : Worker) (p : Phase) : Crew := c.put { w with phase := p }

def dismiss (c : Crew) (n : Nat) : Crew :=
  { c with workers := c.workers.filter fun w => w.number ≠ n }

def freeSlot (c : Crew) : Crew := { c with freeSlots := c.freeSlots + 1 }

def count (c : Crew) (k : Metrics.Counter) : Crew := { c with tally := c.tally.count k }

def countAll (c : Crew) (ks : List Metrics.Counter) : Crew :=
  { c with tally := ks.foldl Metrics.Tally.count c.tally }

def report (c : Crew) (e : Log.Event) : Crew := { c with events := e :: c.events }

/-- Lets someone know that their task is in the line. -/
def letIn (c : Crew) : Option Party → Crew
  | none => c
  | some (.producer n) => { c with released := c.released ++ [n] }
  | some (.worker n) => (c.worker? n).elim c (c.setPhase · .admitted)

/-- What a worker makes of an outcome; its task is the one that the decision is about. -/
def decision (c : Crew) (w : Worker) (o : Outcome) : Decision :=
  c.settings.policy.decide w.task o c.now (c.epoch + c.now)

/-- Writes down what a decision says about a task. -/
def record (c : Crew) (t : Task) (d : Decision) : Crew :=
  { c with
    events := (d.events t).reverse ++ c.events
    tally := d.counts.foldl Metrics.Tally.count c.tally
    letters := d.letter?.elim c.letters c.letters.record }

def conclude (c : Crew) (w : Worker) (d : Decision) : Crew :=
  let c := c.record w.task d
  match d with
  | .putBack _ => c.setPhase w .returning
  | d => c.setPhase w (.leaving d.disposition)

/-- The next step of a worker, unless it has to wait. The follow-up of a task is dated when it is
made and judged after that, a rejection is counted as such before it is counted as a dead letter, and
the line may change between any two steps. -/
def advance (c : Crew) (w : Worker) : Option Crew :=
  match w.phase with
  | .hired =>
    let wait := w.task.readyIn c.now
    some (c.setPhase w (if wait = 0 then .polling else .resting (c.now + wait)))
  | .resting till => if till ≤ c.now then some (c.setPhase w .polling) else none
  | .answered o =>
    if o.isFinal then some (c.conclude w (c.decision w o))
    else some ((c.countAll o.counts).put
      { w with task := w.task.next c.now c.settings.policy.wait, phase := .judging o })
  | .judging o => some (c.conclude w (c.decision w o))
  | .returning =>
    match c.line.offer w.task with
    | some line => some ({ c with line := line }.setPhase w .returned)
    | none => some (c.setPhase w .refused)
  | .returned => some ((c.count .requeues).setPhase w (.leaving .requeued))
  | .refused => some ((c.count .queueOverflow).setPhase w .aside).freeSlot
  | .aside =>
    let (isIn, line) := c.line.send (.worker w.number) w.task
    some ({ c with line := line }.setPhase w (if isIn then .admitted else .blocked))
  | .admitted => some ((c.count .requeues).setPhase w .departing)
  | .leaving _ => some (c.setPhase w .departing).freeSlot
  | .departing => some (c.dismiss w.number)
  | .polling | .blocked => none

/-- Makes one move, if it is possible now. -/
def step (c : Crew) : Move → Option Crew
  | .send n t =>
    let (isIn, line) := c.line.send (.producer n) t
    some { c with line := line, released := if isIn then c.released ++ [n] else c.released }
  | .offer t => (c.line.offer t).map fun line => { c with line := line }
  | .notice n =>
    if n ∈ c.released then some { c with released := c.released.erase n } else none
  | .start =>
    if c.dispatcher = .idle then
      some ({ c with dispatcher := .seekingSlot }.report
        (.schedulerStarted c.settings.poolSize c.line.capacity))
    else none
  | .takeSlot =>
    if c.dispatcher = .seekingSlot ∧ 0 < c.freeSlots then
      some { c with dispatcher := .holdingSlot, freeSlots := c.freeSlots - 1 }
    else none
  | .takeTask =>
    if c.dispatcher = .holdingSlot then
      c.line.take?.map fun t =>
        let w := ⟨c.hired, t.item, .hired⟩
        let c := { c with
          dispatcher := .seekingSlot, line := t.line, hired := c.hired + 1
          workers := c.workers ++ [w] }
        c.letIn t.admitted
    else none
  | .work n => (c.worker? n).bind c.advance
  | .finish n o =>
    (c.worker? n).bind fun w =>
      if w.phase = .polling then some (c.setPhase w (.answered o)) else none
  | .pass span => some { c with now := c.now + span }
  | .cancel => some { c with isCancelled := true }
  | .stop =>
    if c.isCancelled ∧ (c.dispatcher = .seekingSlot ∨ c.dispatcher = .holdingSlot) then
      let c := if c.dispatcher = .holdingSlot then c.freeSlot else c
      some ({ c with dispatcher := .stopped }.report (.schedulerStopped c.line.length))
    else none
  | .abandon n =>
    (c.worker? n).bind fun w =>
      if c.isCancelled ∧ w.phase.isWaiting then
        let c := if w.phase.holdsSlot then c.freeSlot else c
        some { c.setPhase w .departing with line := c.line.withdraw (.worker n) }
      else none

/-- Makes moves in turn, as long as each is possible. -/
def run (c : Crew) : List Move → Option Crew
  | [] => some c
  | m :: ms => (c.step m).bind fun c => c.run ms

end Crew
end Intake.Poll
