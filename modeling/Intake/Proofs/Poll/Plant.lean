import Intake.Proofs.Poll.Errand
import Intake.Proofs.Poll.Run
import Intake.Proofs.Service.Traffic

/-!
# The service under its meters

A crew whose tasks are brought by ingests only and whose polls are those of the service. What is left of
each ingest and of each poll is kept as a script. It waits for replies, which may be any, and what it
counts it counts on the way. Two gauges stand beside: the depth of the line, and the number of workers at
work. Whoever has put a task into the line or taken one out reads the depth after that and shows it after
that, and others may come in between.
-/

namespace Intake

open Service (Call Work Site Submission)

/-- What is counted on the way to the first request that has to be waited for. -/
def Script.counted {α : Type} : Script Call Call.Reply α → List Metrics.Counter
  | .ask (.report _) next => (next ()).counted
  | .ask (.count k) next => k :: (next ()).counted
  | _ => []

def Service.Call.isEnqueue : Call → Bool
  | .enqueue .. => true
  | _ => false

namespace Poll

/-- An ingest under way. -/
inductive Ingest
  | working (w : Work (Except Service.Fault String))
  /-- Its task is with the line; what is left to do once it is in. -/
  | queueing (w : Work (Except Service.Fault String))

def Ingest.isFinished : Ingest → Bool
  | working (.done _) => true
  | _ => false

/-- A move that has nothing to do with the line, with workers or with those who bring tasks. -/
def Crew.Move.isQuiet : Crew.Move → Bool
  | .start | .takeSlot | .pass _ | .cancel | .stop => true
  | _ => false

/-- Whether a worker begins to poll with its next step. -/
def Worker.begins (w : Worker) (now : Millis) : Bool :=
  match w.phase with
  | .hired => w.task.readyIn now = 0
  | .resting _ => true
  | _ => false

/-- How many are at work once a worker has taken its next step: it is from its first step to its last. -/
def Worker.staff (w : Worker) (busy : Nat) : Nat :=
  match w.phase with
  | .hired => busy + 1
  | .departing => busy - 1
  | _ => busy

/-- Who shows the depth of the line. -/
inductive Reader
  | dispatcher
  | party (who : Party)
  deriving Repr, DecidableEq

/-- Whether a worker with its next step puts its task into the line without waiting. -/
def Crew.enters (c : Crew) (w : Worker) : Bool :=
  match w.phase with
  | .returning | .aside => (c.line.offer w.task).isSome
  | _ => false

/-- Who changes the line with a move, or is let in by it, and goes on to show the depth. -/
def Crew.readers (c : Crew) : Crew.Move → List Reader
  | .send n t => if (c.line.offer t).isSome then [.party (.producer n)] else []
  | .takeTask => .dispatcher :: (c.line.take?.bind Line.Taken.admitted).toList.map .party
  | .work n => (c.worker? n).elim [] fun w => if c.enters w then [.party (.worker n)] else []
  | _ => []

structure Plant where
  crew : Crew
  ledger : Ledger
  ingests : List Ingest
  /-- What is left of the latest poll of a worker. -/
  polls : Nat → Option (Work Outcome)
  /-- What ingests and polls have counted. -/
  tally : Metrics.Tally
  /-- Who has changed the line and has yet to read its depth. -/
  unread : List Reader
  /-- The depths that have been read and are yet to be shown. -/
  readings : List (Reader × Nat)
  queueDepth : Nat
  busyWorkers : Nat

namespace Plant

def new (s : Settings) (epoch : Millis) : Plant :=
  ⟨.new s epoch, .new s, [], fun _ => none, .zero, [], [], 0, 0⟩

/-- What is shown of a counter: the crew and the scripts count apart. -/
def total (p : Plant) (k : Metrics.Counter) : Nat := p.tally k + p.crew.tally k

inductive Move
  | ingest (s : Submission)
  /-- An ingest gets a reply. -/
  | reply (ingest : Nat) (answers : (c : Call) → c.Reply)
  /-- An ingest brings its task to the line. -/
  | bring (ingest : Nat)
  /-- An ingest notices that its task is in the line. -/
  | notice (ingest : Nat)
  /-- The poll of a worker gets a reply. -/
  | answer (worker : Nat) (answers : (c : Call) → c.Reply)
  /-- Someone who has changed the line reads its depth. -/
  | read (r : Reader)
  /-- Someone shows the depth that it has read. -/
  | display (r : Reader)
  | crew (m : Crew.Move)

section

variable {α : Type}

/-- Counts what a script counts on the way. -/
def pay (p : Plant) (w : Work α) : Plant :=
  { p with tally := w.counted.foldl Metrics.Tally.count p.tally }

/-- An ingest has come to where it waits or is over. -/
def setIngest (p : Plant) (n : Nat) (w : Work (Except Service.Fault String)) : Plant :=
  { p.pay w with ingests := p.ingests.set n (.working w.rush) }

/-- The poll of a worker has come to where it waits or is over. -/
def setPoll (p : Plant) (n : Nat) (w : Work Outcome) : Plant :=
  { p.pay w with polls := fun m => if m = n then some w.rush else p.polls m }

/-- The plant after a move `m` that has brought its crew to `c`; the ledger follows. -/
def follow (p : Plant) (m : Crew.Move) (c : Crew) : Plant :=
  { p with
    crew := c, ledger := p.ledger.note p.crew m
    unread := p.unread ++ p.crew.readers m }

/-- The crew makes a move. -/
def carry (p : Plant) (m : Crew.Move) : Option Plant := (p.crew.step m).map (p.follow m)

/-- What comes with the next step of a worker: the gauge of those at work, and the beginning of a poll. -/
def heed (p : Plant) (site : Site) (w : Worker) : Plant :=
  let p := { p with busyWorkers := w.staff p.busyWorkers }
  if w.begins p.crew.now then
    p.setPoll w.number (attempt ⟨Service.promote site, Service.reject⟩ w.task)
  else p

/-- A worker is dropped, and reads nothing any more. It comes to work for that if it had yet to. -/
def drop (p : Plant) (w : Worker) : Plant :=
  { p with
    busyWorkers := if w.phase = .hired then p.busyWorkers + 1 else p.busyWorkers
    unread := p.unread.filter fun r => r ≠ .party (.worker w.number) }

/-- Whether someone has changed the line and not shown its depth yet. -/
def owes (p : Plant) (r : Reader) : Bool := r ∈ p.unread ∨ r ∈ p.readings.map Prod.fst

/-- Whether who would move has to show the depth first; a worker that was just hired has to wait for the
dispatcher. Nobody is dropped between reading the depth and showing it. -/
def isDelayed (p : Plant) : Move → Bool
  | .notice n => p.owes (.party (.producer n))
  | .crew .takeSlot | .crew .takeTask | .crew .stop => p.owes .dispatcher
  | .crew (.work n) => p.owes (.party (.worker n)) || n + 1 = p.crew.hired && p.owes .dispatcher
  | .crew (.abandon n) =>
    .party (.worker n) ∈ p.readings.map Prod.fst || n + 1 = p.crew.hired && p.owes .dispatcher
  | _ => false

/-- Makes one move. Tasks are brought by ingests only, and that a poll returns is no move of its own. -/
def perform (p : Plant) (site : Site) : Move → Option Plant
  | .ingest s =>
    let w := Service.ingest site s
    some { p.pay w with ingests := p.ingests ++ [.working w.rush] }
  | .reply n answers =>
    match p.ingests[n]? with
    | some (.working (.ask c next)) =>
      if c.isEnqueue then none else some (p.setIngest n (next (answers c)))
    | _ => none
  | .bring n =>
    match p.ingests[n]? with
    | some (.working (.ask (.enqueue dataset statusUrl) next)) =>
      { p with ingests := p.ingests.set n (.queueing (next (.ok ()))) }.carry
        (.send n (.new dataset statusUrl p.crew.now))
    | _ => none
  | .notice n =>
    match p.ingests[n]? with
    | some (.queueing w) => (p.setIngest n w).carry (.notice n)
    | _ => none
  | .answer n answers =>
    (p.crew.worker? n).bind fun w =>
      if w.phase = .polling then
        (p.polls n).bind fun work =>
          let work := work.resume answers
          let p := p.setPoll n work
          match work.rush.result? with
          | none => some p
          | some o => p.carry (.finish n o)
      else none
  | .read r =>
    if r ∈ p.unread then
      some { p with unread := p.unread.erase r, readings := p.readings ++ [(r, p.crew.line.length)] }
    else none
  | .display r =>
    (p.readings.find? fun x => x.1 = r).map fun x =>
      { p with readings := p.readings.erase x, queueDepth := x.2 }
  | .crew (.work n) => (p.crew.worker? n).bind fun w => (p.heed site w).carry (.work n)
  | .crew (.abandon n) => (p.crew.worker? n).bind fun w => (p.drop w).carry (.abandon n)
  | .crew (.send ..) | .crew (.offer _) | .crew (.notice _) | .crew (.finish ..) => none
  | .crew m => p.carry m

/-- Makes one move, if it is possible now. -/
def step (p : Plant) (site : Site) (m : Move) : Option Plant :=
  if p.isDelayed m then none else p.perform site m

def run (p : Plant) (site : Site) : List Move → Option Plant
  | [] => some p
  | m :: ms => (p.step site m).bind fun p => p.run site ms

/-- A move that is made by itself and at once: it neither waits for time nor for anyone outside. -/
def Move.isOwn : Move → Bool
  | .bring _ | .notice _ | .read _ | .display _ => true
  | .crew .takeSlot | .crew .takeTask | .crew (.work _) | .crew .stop | .crew (.abandon _) => true
  | _ => false

/-- Nothing can go on before time passes or a reply comes. -/
def IsStill (p : Plant) (site : Site) : Prop := ∀ m, m.isOwn → p.step site m = none

/-! ## What a move can be -/

/-- What each move needs, and what it leads to. -/
inductive Makes (p : Plant) (site : Site) : Move → Plant → Prop
  | ingest {s : Submission} :
      Makes p site (.ingest s) { p.pay (Service.ingest site s) with
        ingests := p.ingests ++ [.working (Service.ingest site s).rush] }
  | reply {n : Nat} {answers : (c : Call) → c.Reply} {c : Call}
      {next : c.Reply → Work (Except Service.Fault String)}
      (hn : p.ingests[n]? = some (.working (.ask c next))) (hc : c.isEnqueue = false) :
      Makes p site (.reply n answers) (p.setIngest n (next (answers c)))
  | bring {n : Nat} {dataset statusUrl : String} {t : Task} {c : Crew}
      {next : Except LineFault Unit → Work (Except Service.Fault String)}
      (hn : p.ingests[n]? = some (.working (.ask (.enqueue dataset statusUrl) next)))
      (hstep : p.crew.step (.send n t) = some c) :
      Makes p site (.bring n)
        ({ p with ingests := p.ingests.set n (.queueing (next (.ok ()))) }.follow (.send n t) c)
  | notice {n : Nat} {w : Work (Except Service.Fault String)} {c : Crew}
      (hn : p.ingests[n]? = some (.queueing w)) (hstep : p.crew.step (.notice n) = some c) :
      Makes p site (.notice n) ((p.setIngest n w).follow (.notice n) c)
  | answer {n : Nat} {answers : (c : Call) → c.Reply} {w : Worker} {work : Work Outcome}
      (hw : p.crew.worker? n = some w) (hp : w.phase = .polling) (hwork : p.polls n = some work) :
      Makes p site (.answer n answers) (p.setPoll n (work.resume answers))
  | finish {n : Nat} {answers : (c : Call) → c.Reply} {work : Work Outcome} {o : Outcome} {c : Crew}
      (hwork : p.polls n = some work) (hstep : p.crew.step (.finish n o) = some c) :
      Makes p site (.answer n answers) ((p.setPoll n (work.resume answers)).follow (.finish n o) c)
  | read {r : Reader} (hr : r ∈ p.unread) :
      Makes p site (.read r) { p with
        unread := p.unread.erase r, readings := p.readings ++ [(r, p.crew.line.length)] }
  | display {x : Reader × Nat} (hx : x ∈ p.readings) :
      Makes p site (.display x.1) { p with readings := p.readings.erase x, queueDepth := x.2 }
  | takeTask {c : Crew} (hstep : p.crew.step .takeTask = some c) :
      Makes p site (.crew .takeTask) (p.follow .takeTask c)
  | work {n : Nat} {w : Worker} {c : Crew} (hw : p.crew.worker? n = some w)
      (hstep : p.crew.step (.work n) = some c) :
      Makes p site (.crew (.work n)) ((p.heed site w).follow (.work n) c)
  | abandon {n : Nat} {w : Worker} {c : Crew} (hstep : p.crew.step (.abandon n) = some c) :
      Makes p site (.crew (.abandon n)) ((p.drop w).follow (.abandon n) c)
  | quiet {m : Crew.Move} {c : Crew} (hm : m.isQuiet) (hstep : p.crew.step m = some c) :
      Makes p site (.crew m) (p.follow m c)

variable {p p' : Plant} {site : Site} {m : Move}

theorem follow_of_carry {q : Plant} {m : Crew.Move} (h : q.carry m = some p')
    (hcrew : q.crew = p.crew) : ∃ c, p.crew.step m = some c ∧ p' = q.follow m c := by
  obtain ⟨c, hc, rfl⟩ := Option.map_eq_some_iff.mp h
  exact ⟨c, hcrew ▸ hc, rfl⟩

theorem heed_frame (p : Plant) (site : Site) (w : Worker) :
    (p.heed site w).crew = p.crew ∧ (p.heed site w).ledger = p.ledger ∧
      (p.heed site w).ingests = p.ingests := by
  unfold heed
  simp only
  split <;> exact ⟨rfl, rfl, rfl⟩

theorem heed_gauges (p : Plant) (site : Site) (w : Worker) :
    (p.heed site w).busyWorkers = w.staff p.busyWorkers ∧ (p.heed site w).unread = p.unread ∧
      (p.heed site w).readings = p.readings ∧ (p.heed site w).queueDepth = p.queueDepth := by
  unfold heed
  simp only
  split <;> exact ⟨rfl, rfl, rfl, rfl⟩

theorem makes_of_perform (h : p.perform site m = some p') : Makes p site m p' := by
  cases m with
  | ingest s =>
      cases h
      exact .ingest
  | reply n answers =>
      simp only [perform] at h
      split at h
      · rename_i c next hn
        split at h <;> cases h
        rename_i hc
        exact .reply hn (Bool.not_eq_true _ ▸ hc)
      · cases h
  | bring n =>
      simp only [perform] at h
      split at h
      · rename_i hn
        obtain ⟨c, hstep, rfl⟩ := follow_of_carry h rfl
        exact .bring hn hstep
      · cases h
  | notice n =>
      simp only [perform] at h
      split at h
      · rename_i hn
        obtain ⟨c, hstep, rfl⟩ := follow_of_carry h rfl
        exact .notice hn hstep
      · cases h
  | answer n answers =>
      simp only [perform, Option.bind_eq_some_iff, Option.ite_none_right_eq_some] at h
      obtain ⟨w, hw, hp, work, hwork, h⟩ := h
      split at h
      · cases h
        exact .answer hw hp hwork
      · obtain ⟨c, hstep, rfl⟩ := follow_of_carry h rfl
        exact .finish hwork hstep
  | read r =>
      simp only [perform, Option.ite_none_right_eq_some, Option.some.injEq] at h
      obtain ⟨hr, rfl⟩ := h
      exact .read hr
  | display r =>
      obtain ⟨x, hx, rfl⟩ := Option.map_eq_some_iff.mp h
      obtain rfl : x.1 = r := by simpa using List.find?_some hx
      exact .display (List.mem_of_find?_eq_some hx)
  | crew m =>
      cases m with
      | takeTask =>
          obtain ⟨c, hstep, rfl⟩ := follow_of_carry h rfl
          exact .takeTask hstep
      | work n =>
          simp only [perform, Option.bind_eq_some_iff] at h
          obtain ⟨w, hw, h⟩ := h
          obtain ⟨c, hstep, rfl⟩ := follow_of_carry h (heed_frame p site w).1
          exact .work hw hstep
      | abandon n =>
          simp only [perform, Option.bind_eq_some_iff] at h
          obtain ⟨w, _, h⟩ := h
          obtain ⟨c, hstep, rfl⟩ := follow_of_carry h rfl
          exact .abandon hstep
      | send => cases h
      | offer => cases h
      | notice => cases h
      | finish => cases h
      | _ =>
          obtain ⟨c, hstep, rfl⟩ := follow_of_carry h rfl
          exact .quiet rfl hstep

theorem makes_of_step (h : p.step site m = some p') : Makes p site m p' :=
  makes_of_perform (Option.ite_none_left_eq_some.mp h).2

/-- The crew of a plant stays as it is or makes one move, which the ledger writes down. -/
theorem crew_of_makes (hm : p.Makes site m p') :
    (p'.crew = p.crew ∧ p'.ledger = p.ledger) ∨
      ∃ cm, p.crew.step cm = some p'.crew ∧ p'.ledger = p.ledger.note p.crew cm := by
  cases hm with
  | bring _ hstep => exact .inr ⟨_, hstep, rfl⟩
  | notice _ hstep => exact .inr ⟨_, hstep, rfl⟩
  | finish _ hstep => exact .inr ⟨_, hstep, rfl⟩
  | takeTask hstep => exact .inr ⟨_, hstep, rfl⟩
  | @work n w c hw hstep =>
      obtain ⟨hcrew, hledger, _⟩ := heed_frame p site w
      exact .inr ⟨_, hstep, by rw [follow, hcrew, hledger]⟩
  | abandon hstep => exact .inr ⟨_, hstep, rfl⟩
  | quiet _ hstep => exact .inr ⟨_, hstep, rfl⟩
  | _ => exact .inl ⟨rfl, rfl⟩

/-- The crew of a plant makes only moves that a crew can make, and the ledger is kept beside it. -/
theorem watched_step {s : Settings} (hg : Watched s p.crew p.ledger) (hm : p.Makes site m p') :
    Watched s p'.crew p'.ledger := by
  rcases crew_of_makes hm with ⟨hcrew, hledger⟩ | ⟨cm, hstep, hledger⟩
  · rwa [hcrew, hledger]
  · rw [hledger]
    exact hg.step hstep

end

end Plant
end Poll
end Intake
