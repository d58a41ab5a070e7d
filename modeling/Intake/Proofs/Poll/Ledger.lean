import Intake.Poll.Crew

/-!
# A ledger of tasks

The crew knows tasks by their values only. A ledger that is kept beside a run gives each task that
is brought a ticket and writes down what happens to it: where it is, its polls, the values with which
it was put back, and how it ended. The crew does not look at the ledger.
-/

namespace Intake.Poll

def Decision.isFinal : Decision → Bool
  | finish _ | drop | giveUp _ => true
  | putBack _ => false

inductive Ending
  | settled (d : Decision)
  /-- Its worker was dropped. -/
  | abandoned
  deriving Repr, DecidableEq

inductive Place
  /-- It has not been brought. -/
  | nowhere
  /-- Its producer waits for room. -/
  | waiting
  | lined
  | held (p : Phase)
  | ended (e : Ending)
  deriving Repr, DecidableEq

namespace Place

/-- Whether a task has been brought and has not ended. -/
def isLive : Place → Bool
  | waiting | lined | held _ => true
  | nowhere | ended _ => false

/-- Whether a task has been let into the line at some time. -/
def isAccepted : Place → Bool
  | lined | held _ | ended _ => true
  | nowhere | waiting => false

def isOver : Place → Bool
  | ended _ => true
  | _ => false

end Place

structure Visit where
  task : Task
  begunAt : Millis
  /-- When the poll returned, and with what. -/
  answer : Option (Millis × Outcome)
  deriving Repr, DecidableEq

structure File where
  /-- The value with which it was brought. -/
  origin : Task
  broughtAt : Millis
  value : Task
  /-- The values with which it was put back, latest first. -/
  returns : List Task
  /-- Its polls, latest first. -/
  visits : List Visit
  place : Place
  deriving Repr, DecidableEq

namespace File

def new (t : Task) (now : Millis) (p : Place) : File := ⟨t, now, t, [], [], p⟩

def move (p : Place) (f : File) : File := { f with place := p }

def begin (now : Millis) (f : File) : File :=
  { f with visits := ⟨f.value, now, none⟩ :: f.visits, place := .held .polling }

def answer (now : Millis) (o : Outcome) (f : File) : File :=
  { f with
    visits := f.visits.modifyHead fun v => { v with answer := some (now, o) }
    place := .held (.answered o) }

/-- The follow-up takes the place of the task. -/
def renew (now wait : Millis) (o : Outcome) (f : File) : File :=
  { f with value := f.value.next now wait, place := .held (.judging o) }

def conclude (d : Decision) (f : File) : File :=
  f.move (if d.isFinal then .ended (.settled d) else .held .returning)

/-- The task is brought back to the line, which may be full. -/
def bringBack (p : Place) (f : File) : File :=
  { f with returns := f.value :: f.returns, place := p }

end File

structure Ledger where
  /-- The number of tickets that have been given. -/
  issued : Nat
  file : Nat → File
  /-- The tickets of the tasks in the line, and of those that wait for room. -/
  line : Line Party Nat
  /-- The ticket of the task for which a worker was hired. -/
  post : Nat → Nat
  /-- The decisions that ended a task, in order. -/
  settled : List (Nat × Decision)

namespace Ledger

def new (s : Settings) : Ledger where
  issued := 0
  file := fun _ => .new (.new "" "" 0) 0 .nowhere
  line := .new s.queueCapacity
  post := fun _ => 0
  settled := []

def value (g : Ledger) (k : Nat) : Task := (g.file k).value

def amend (g : Ledger) (k : Nat) (f : File → File) : Ledger :=
  { g with file := fun j => if j = k then f (g.file j) else g.file j }

def enter (g : Ledger) (t : Task) (now : Millis) (p : Place) : Ledger :=
  { g.amend g.issued (fun _ => .new t now p) with issued := g.issued + 1 }

def conclude (g : Ledger) (k : Nat) (d : Decision) : Ledger :=
  { g.amend k (File.conclude d) with
    settled := if d.isFinal then g.settled ++ [(k, d)] else g.settled }

/-- Worker `n` is hired for the first task of the line; whoever is let in instead is in the line. -/
def hire (g : Ledger) (n : Nat) (t : Line.Taken Party Nat) : Ledger :=
  let hired := { g.amend t.item (File.move (.held .hired)) with
    line := t.line, post := fun m => if m = n then t.item else g.post m }
  match t.admitted, g.line.senders with
  | some _, (_, k) :: _ => hired.amend k (File.move .lined)
  | _, _ => hired

def follow (g : Ledger) (c : Crew) (w : Worker) : Ledger :=
  let k := g.post w.number
  match w.phase with
  | .hired =>
    let wait := w.task.readyIn c.now
    if wait = 0 then g.amend k (File.begin c.now)
    else g.amend k (File.move (.held (.resting (c.now + wait))))
  | .resting _ => g.amend k (File.begin c.now)
  | .answered o =>
    if o.isFinal then g.conclude k (c.decision w o)
    else g.amend k (File.renew c.now c.settings.policy.wait o)
  | .judging o => g.conclude k (c.decision w o)
  | .returning =>
    match g.line.offer k with
    | some line => { g.amend k (File.bringBack .lined) with line := line }
    | none => g.amend k (File.bringBack (.held .refused))
  | .refused => g.amend k (File.move (.held .aside))
  | .aside =>
    let (isIn, line) := g.line.send (.worker w.number) k
    { g.amend k (File.move (if isIn then .lined else .held .blocked)) with line := line }
  | .polling | .blocked | .returned | .admitted | .leaving _ | .departing => g

/-- A worker no longer waits for room. -/
def withdraw (g : Ledger) (n : Nat) : Ledger := { g with line := g.line.withdraw (.worker n) }

def drop (g : Ledger) (w : Worker) : Ledger :=
  if w.phase.hasTask then
    (g.withdraw w.number).amend (g.post w.number) (File.move (.ended .abandoned))
  else g.withdraw w.number

/-- Writes down a move that the crew `c` makes. -/
def note (g : Ledger) (c : Crew) : Crew.Move → Ledger
  | .send n t =>
    let (isIn, line) := g.line.send (.producer n) g.issued
    { g.enter t c.now (if isIn then .lined else .waiting) with line := line }
  | .offer t =>
    match g.line.offer g.issued with
    | some line => { g.enter t c.now .lined with line := line }
    | none => g
  | .takeTask => g.line.take?.elim g (g.hire c.hired)
  | .work n => (c.worker? n).elim g (g.follow c)
  | .finish n o => g.amend (g.post n) (File.answer c.now o)
  | .abandon n => (c.worker? n).elim g g.drop
  | .notice _ | .start | .takeSlot | .pass _ | .cancel | .stop => g

/-- Keeps the ledger while the crew makes moves. -/
def along (g : Ledger) (c : Crew) : List Crew.Move → Ledger
  | [] => g
  | m :: ms => (c.step m).elim g fun c' => (g.note c m).along c' ms

def ofRun (s : Settings) (epoch : Millis) (ms : List Crew.Move) : Ledger :=
  (new s).along (Crew.new s epoch) ms

/-! ## What a ledger says -/

/-- The tickets in the line, first to leave first. -/
def queued (g : Ledger) : List Nat := g.line.items

/-- The tickets of the tasks whose producers wait for room. -/
def waiting (g : Ledger) : List Nat :=
  g.line.senders.filterMap fun s => match s.1 with
    | .producer _ => some s.2
    | .worker _ => none

def held (g : Ledger) (workers : List Worker) : List Nat :=
  (workers.filter fun w => w.phase.hasTask).map fun w => g.post w.number

/-- The tickets of the tasks that were ever let into the line. -/
def accepted (g : Ledger) : List Nat :=
  (List.range g.issued).filter fun k => (g.file k).place.isAccepted

def origins (g : Ledger) : List Task := (List.range g.issued).map fun k => (g.file k).origin

/-- Every value that a task has had while it was polled or put back, and its present one. -/
def values (g : Ledger) (k : Nat) : List Task :=
  (g.file k).value :: (g.file k).returns ++ (g.file k).visits.map Visit.task

/-- What has been counted of the decisions that ended a task. -/
def counts (g : Ledger) : List Metrics.Counter := g.settled.flatMap fun e => e.2.counts

/-- The records of the tasks that were given up, in order. -/
def letters (g : Ledger) : List DeadLetter := g.settled.filterMap fun e => e.2.letter?

def ended (g : Ledger) : List Nat :=
  (List.range g.issued).filter fun k => (g.file k).place.isOver

end Ledger
end Intake.Poll
