import Intake.Proofs.Poll.Errand

/-!
# A crew at work

The crew only knows that a poll returns with an outcome. Here its polls are errands: a worker that
begins to poll sends one off, each reply takes it on, and when it is over the poll returns what it
amounts to. A diary says what is seen of every task, in order.
-/

namespace Intake.Poll

open Service (Call)

structure Shift where
  crew : Crew
  ledger : Ledger
  /-- The latest poll of a task, by its ticket. -/
  errand : Nat → Option Errand
  /-- What is seen, each with the ticket of its task. -/
  diary : List (Nat × Event)

namespace Shift

def new (s : Settings) (epoch : Millis) : Shift := ⟨.new s epoch, .new s, fun _ => none, []⟩

inductive Move
  | crew (m : Crew.Move)
  /-- The poll of a worker gets a reply. -/
  | reply (worker : Nat) (answers : (c : Call) → c.Reply)

def write (st : Shift) (k : Nat) (es : List Event) : Shift :=
  { st with diary := st.diary ++ es.map fun e => (k, e) }

/-- The poll of a task has come to where it waits or is over. -/
def send (st : Shift) (k : Nat) (x : List Event × Errand) : Shift :=
  { st.write k x.1 with errand := fun j => if j = k then some x.2 else st.errand j }

/-- What is seen of the task of a worker that takes its next step. -/
def heed (st : Shift) (life : Lifecycle) (w : Worker) : Shift :=
  let k := st.ledger.post w.number
  match w.phase with
  | .hired => if w.task.readyIn st.crew.now = 0 then st.send k (Errand.begin life w.task) else st
  | .resting _ => st.send k (Errand.begin life w.task)
  | .answered o => if o.isFinal then st.write k [.decided (st.crew.decision w o)] else st
  | .judging o => st.write k [.decided (st.crew.decision w o)]
  | _ => st

/-- The crew makes a move, and the ledger follows. -/
def carry (st : Shift) (m : Crew.Move) : Option Shift :=
  (st.crew.step m).map fun c => { st with crew := c, ledger := st.ledger.note st.crew m }

/-- Makes one move, if it is possible now. That a poll returns is no move of its own. -/
def step (st : Shift) (life : Lifecycle) : Move → Option Shift
  | .crew (.finish ..) => none
  | .crew (.work n) => ((st.crew.worker? n).elim st (st.heed life)).carry (.work n)
  | .crew m => st.carry m
  | .reply n answers =>
    (st.crew.worker? n).bind fun w =>
      if w.phase = .polling then
        (st.errand (st.ledger.post n)).bind fun e =>
          let x := (e.resume answers).rush life w.task
          let st := st.send (st.ledger.post n) x
          match x.2.result? with
          | none => some st
          | some o => st.carry (.finish n o)
      else none

def run (st : Shift) (life : Lifecycle) : List Move → Option Shift
  | [] => some st
  | m :: ms => (st.step life m).bind fun st => st.run life ms

/-- What is seen of one task, in order. -/
def seen (st : Shift) (k : Nat) : List Event :=
  st.diary.filterMap fun x => if x.1 = k then some x.2 else none

variable {st st' : Shift} {life : Lifecycle} {k : Nat} {es : List Event}

@[simp] theorem seen_write_self : (st.write k es).seen k = st.seen k ++ es := by
  simp [seen, write, List.filterMap_map]

theorem seen_write_of_ne {j : Nat} (h : j ≠ k) : (st.write k es).seen j = st.seen j := by
  simp [seen, write, List.filterMap_map, Ne.symm h]

theorem mem_seen {e : Event} : e ∈ st.seen k ↔ (k, e) ∈ st.diary := by
  simp [seen]

/-! ## The crew at work is a crew -/

theorem heed_frame (st : Shift) (life : Lifecycle) (w : Worker) :
    (st.heed life w).crew = st.crew ∧ (st.heed life w).ledger = st.ledger := by
  unfold heed
  cases w.phase with
  | hired =>
      simp only
      split <;> exact ⟨rfl, rfl⟩
  | answered o =>
      simp only
      split <;> exact ⟨rfl, rfl⟩
  | _ => exact ⟨rfl, rfl⟩

theorem moves_of_carry {u : Shift} {m : Crew.Move} (h : u.carry m = some st')
    (hcrew : u.crew = st.crew) (hledger : u.ledger = st.ledger) :
    ∃ cs, st.crew.run cs = some st'.crew ∧ st'.ledger = st.ledger.along st.crew cs := by
  simp only [carry, hcrew, hledger, Option.map_eq_some_iff] at h
  obtain ⟨c, hc, rfl⟩ := h
  refine ⟨[m], ?_, ?_⟩
  · simp only [Crew.run, hc, Option.bind_some]
  · simp only [Ledger.along, hc, Option.elim]

/-- The moves of the crew that a move of the shift comes to. -/
theorem moves_of_step {m : Move} (h : st.step life m = some st') :
    ∃ cs, st.crew.run cs = some st'.crew ∧ st'.ledger = st.ledger.along st.crew cs := by
  cases m with
  | reply n answers =>
      simp only [step, Option.bind_eq_some_iff, Option.ite_none_right_eq_some] at h
      obtain ⟨w, _, _, e, _, h⟩ := h
      split at h
      · cases h
        exact ⟨[], rfl, rfl⟩
      · exact moves_of_carry h rfl rfl
  | crew m =>
      cases m with
      | finish n o => cases h
      | work n =>
          simp only [step] at h
          cases hw : st.crew.worker? n with
          | none =>
              rw [hw] at h
              exact moves_of_carry h rfl rfl
          | some w =>
              rw [hw] at h
              exact moves_of_carry h (heed_frame st life w).1 (heed_frame st life w).2
      | _ => exact moves_of_carry h rfl rfl

theorem moves_of_run {ms : List Move} (h : st.run life ms = some st') :
    ∃ cs, st.crew.run cs = some st'.crew ∧ st'.ledger = st.ledger.along st.crew cs := by
  induction ms generalizing st with
  | nil =>
      cases h
      exact ⟨[], rfl, rfl⟩
  | cons m ms ih =>
      obtain ⟨st₁, hm, h⟩ := Option.bind_eq_some_iff.mp h
      obtain ⟨cs, hcs, hl⟩ := moves_of_step hm
      obtain ⟨ds, hds, hd⟩ := ih h
      refine ⟨cs ++ ds, ?_, ?_⟩
      · rw [Crew.run_append, hcs, Option.bind_some, hds]
      · rw [Ledger.along_append hcs, hd, hl]

/-- A crew at work makes only moves that a crew can make, and the ledger is that of its run. -/
theorem crew_run {s : Settings} {epoch : Millis} {ms : List Move}
    (hr : (new s epoch).run life ms = some st) :
    ∃ cs, (Crew.new s epoch).run cs = some st.crew ∧ st.ledger = Ledger.ofRun s epoch cs :=
  moves_of_run hr

end Shift
end Intake.Poll
