import Intake.Poll.Crew

/-!
# A crew in rehearsal

A crew whose polls answer from a script and whose actors move in a fixed order: whoever can move
queues up, the first in the queue moves until it has to wait, and time passes only when nobody can
move.
-/

namespace Intake.Rehearsal

open Intake.Poll (Crew Party Task Millis Outcome)

/-- One scripted poll: how long it takes and what it says. -/
structure Cue where
  delay : Millis
  outcome : Outcome
  deriving Repr

inductive Actor
  | dispatcher
  | worker (n : Nat)
  | producer (n : Nat)
  deriving Repr, DecidableEq

def Actor.ofParty : Party → Actor
  | .producer n => producer n
  | .worker n => worker n

/-- A poll that was begun: of which dataset, when, and after how many attempts. -/
structure Begun where
  dataset : String
  at_ : Millis
  attempts : Nat
  deriving Repr

/-- A poll that has been begun and not returned. -/
structure Running where
  worker : Nat
  due : Millis
  outcome : Outcome
  deriving Repr

structure Stage where
  crew : Crew
  /-- Who can move, first to move first. -/
  ready : List Actor
  /-- Who is to be woken when, in the order in which they asked. -/
  alarms : List (Millis × Actor)
  /-- The polls to come, by dataset. -/
  cues : List (String × List Cue)
  running : List Running
  /-- Tasks that producers have yet to bring, by dataset and address. -/
  errands : List (Nat × List (String × String))
  begun : List Begun

namespace Stage

/-- Puts an actor at the end of the queue, unless it is in it. -/
def rouse (s : Stage) (a : Actor) : Stage :=
  if a ∈ s.ready then s else { s with ready := s.ready ++ [a] }

/-- Makes a move of the crew, if it is possible. -/
def move (s : Stage) (m : Crew.Move) : Option Stage :=
  (s.crew.step m).map fun c => { s with crew := c }

/-- Rouses the dispatcher, if what it waits for is there. -/
def rouseDispatcher (s : Stage) : Stage :=
  match s.crew.dispatcher with
  | .seekingSlot => if 0 < s.crew.freeSlots then s.rouse .dispatcher else s
  | .holdingSlot => if s.crew.line.items.isEmpty then s else s.rouse .dispatcher
  | .idle | .stopped => s

/-- The next scripted poll of a dataset; without one it is promoted at once. -/
def nextCue (s : Stage) (dataset : String) : Cue × Stage :=
  match s.cues.lookup dataset with
  | some (cue :: rest) =>
    let others := s.cues.filter fun c => c.1 ≠ dataset
    (cue, { s with cues := (dataset, rest) :: others })
  | _ => (⟨0, .finalized .promoted⟩, s)

def beginPoll (s : Stage) (n : Nat) (t : Task) : Stage :=
  let (cue, s) := s.nextCue t.dataset
  let due := s.crew.now + cue.delay
  let s := { s with
    begun := s.begun ++ [⟨t.dataset, s.crew.now, t.attempts⟩]
    running := s.running ++ [⟨n, due, cue.outcome⟩] }
  if cue.delay = 0 then s else { s with alarms := s.alarms ++ [(due, .worker n)] }

def dispatcherTurn (s : Stage) : Option Stage :=
  if s.crew.isCancelled ∧ s.crew.dispatcher ≠ .idle then s.move .stop
  else match s.crew.dispatcher with
    | .idle => s.move .start
    | .seekingSlot => s.move .takeSlot
    | .holdingSlot =>
      (s.crew.line.take?).bind fun t =>
        (s.move .takeTask).map fun next =>
          let next := (t.admitted.map Actor.ofParty).elim next next.rouse
          next.rouse (.worker s.crew.hired)
    | .stopped => none

/-- What follows from a step of a worker: it has a poll to begin or time to wait for. -/
def follow (s : Stage) (n : Nat) : Stage :=
  match s.crew.worker? n with
  | some ⟨_, t, .polling⟩ => s.beginPoll n t
  | some ⟨_, _, .resting till⟩ => { s with alarms := s.alarms ++ [(till, .worker n)] }
  | _ => s

def workerTurn (s : Stage) (n : Nat) : Option Stage :=
  if s.crew.isCancelled then (s.move (.abandon n)).or (s.move (.work n))
  else (s.crew.worker? n).bind fun w =>
    match w.phase with
    | .polling =>
      match s.running.find? fun r => r.worker = n with
      | some r =>
        if r.due ≤ s.crew.now then
          (s.move (.finish n r.outcome)).map fun s =>
            { s with running := s.running.filter fun r => r.worker ≠ n }
        else none
      | none => none
    | _ => (s.move (.work n)).map fun s => (s.follow n).rouseDispatcher

def isWaiting (s : Stage) (n : Nat) : Bool := s.crew.line.senders.any fun w => w.1 = .producer n

def producerTurn (s : Stage) (n : Nat) : Option Stage :=
  if n ∈ s.crew.released then s.move (.notice n)
  else if s.isWaiting n then none
  else match s.errands.lookup n with
    | some ((dataset, url) :: rest) =>
      (s.move (.send n (.new dataset url s.crew.now))).map fun s =>
        let others := s.errands.filter fun e => e.1 ≠ n
        { s with errands := (n, rest) :: others }.rouseDispatcher
    | _ => none

def turn (s : Stage) : Actor → Option Stage
  | .dispatcher => s.dispatcherTurn
  | .worker n => s.workerTurn n
  | .producer n => s.producerTurn n

/-- Lets the first in the queue move until it has to wait, then the next, until nobody can move. -/
def settle : Nat → Stage → Stage
  | 0, s => s
  | fuel + 1, s =>
    match s.ready with
    | [] => s
    | a :: rest =>
      match s.turn a with
      | some s => settle fuel s
      | none => settle fuel { s with ready := rest }

def moveLimit : Nat := 1000000

/-- The first moment up to `target` at which someone is to be woken. -/
def nextAlarm (s : Stage) (target : Millis) : Option Millis :=
  ((s.alarms.map Prod.fst).filter (· ≤ target)).min?

/-- Lets time pass up to `target`, with everything that happens meanwhile. -/
def passTo (target : Millis) : Nat → Stage → Stage
  | 0, s => s
  | fuel + 1, s =>
    match s.nextAlarm target with
    | none => { s with crew := { s.crew with now := target } }
    | some at_ =>
      let woken := (s.alarms.filter fun a => a.1 = at_).map Prod.snd
      let s := { s with
        crew := { s.crew with now := at_ }
        alarms := s.alarms.filter fun a => a.1 ≠ at_ }
      passTo target fuel (settle moveLimit (woken.foldl rouse s))

def rest (s : Stage) : Stage := settle moveLimit s

def pass (s : Stage) (span : Millis) : Stage := (passTo (s.crew.now + span) moveLimit s).rest

def start (s : Stage) : Stage := (s.rouse .dispatcher).rest

/-- Offers tasks in turn before anybody moves; says which were taken. -/
def offerAll (s : Stage) : List (String × String) → List Bool × Stage
  | [] => ([], s)
  | (dataset, url) :: rest =>
    match s.move (.offer (.new dataset url s.crew.now)) with
    | some s => let (r, s) := s.rouseDispatcher.offerAll rest; (true :: r, s)
    | none => let (r, s) := s.offerAll rest; (false :: r, s)

/-- Has a producer bring tasks one after the other, waiting for room. -/
def produce (s : Stage) (n : Nat) (tasks : List (String × String)) : Stage :=
  { s with errands := (n, tasks) :: s.errands }.rouse (.producer n) |>.rest

def isDone (s : Stage) (n : Nat) : Bool :=
  !s.isWaiting n && ((s.errands.lookup n).getD []).isEmpty

def cancel (s : Stage) : Stage :=
  let s := (s.move .cancel).getD s
  let actors := Actor.dispatcher :: s.crew.workers.map fun w => .worker w.number
  (actors.foldl rouse s).rest

end Stage
end Intake.Rehearsal
