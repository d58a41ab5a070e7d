import Intake.Proofs.Poll.Run
import Intake.Proofs.Service.Settlement

/-!
# Polls in the middle

A poll is not over at once: it waits for the reply to what it asks. An errand is a poll that waits,
and it goes on, with a reply, to the next thing for which it has to wait. Reports and counts are not
waited for, so nothing comes between the end of a reconciliation and what the poll asks after it.
-/

namespace Intake

open Service (Call)

/-- Reports and counts are made on the spot; all else is waited for. -/
def Service.Call.isAwaited : Call → Bool
  | .report _ | .count _ => false
  | _ => true

/-- Goes on to the first request that has to be waited for. -/
def Script.rush {α : Type} : Script Call Call.Reply α → Script Call Call.Reply α
  | .ask (.report _) next => (next ()).rush
  | .ask (.count _) next => (next ()).rush
  | w => w

/-- Goes on with the reply to the request that is waited for. -/
def Script.resume {α : Type} (answers : (c : Call) → c.Reply) :
    Script Call Call.Reply α → Script Call Call.Reply α
  | .ask c next => next (answers c)
  | .done a => .done a

namespace Poll

open Service (Work call)

/-- What is seen of a task from outside. -/
inductive Event
  | polled (statusUrl : String)
  /-- A reconciliation has begun. -/
  | reconciling (v : Verdict)
  | reconciled (v : Verdict) (o : Remote.Outcome)
  | discarded (statusUrl : String)
  | decided (d : Decision)
  deriving Repr, DecidableEq

/-- What the transform service is asked for by work that waits for it. -/
def requested {α : Type} : Work α → List Event
  | .ask (.poll url) _ => [.polled url]
  | .ask (.discard url) _ => [.discarded url]
  | _ => []

inductive Errand
  | inquiring (w : Work Finding)
  | reconciling (v : Verdict) (w : Work Remote.Outcome)
  | settling (w : Work Outcome)

/-- What is to be done about what a poll says. -/
def reconcile (life : Lifecycle) (t : Task) : Finding → Work Outcome
  | .over o => return o
  | .done products => do settle t .promoted (← life.onDone t.dataset products)
  | .failed => do settle t .quarantined (← life.onFailed t.dataset)

theorem attempt_eq (life : Lifecycle) (t : Task) :
    attempt life t = inquire t >>= reconcile life t :=
  congrArg (inquire t >>= ·) (funext fun f => by cases f <;> rfl)

namespace Errand

/-- What is left of the poll. -/
def work (life : Lifecycle) (t : Task) : Errand → Work Outcome
  | inquiring w => w >>= reconcile life t
  | reconciling v w => w >>= settle t v
  | settling w => w

/-- What the poll amounts to, once it is over. -/
def result? : Errand → Option Outcome
  | settling w => w.result?
  | _ => none

def isWaiting : Errand → Bool
  | inquiring (.ask ..) | reconciling _ (.ask ..) | settling (.ask ..) => true
  | _ => false

def resume (answers : (c : Call) → c.Reply) : Errand → Errand
  | inquiring w => .inquiring (w.resume answers)
  | reconciling v w => .reconciling v (w.resume answers)
  | settling w => .settling (w.resume answers)

/-- Goes on with what follows a reconciliation. -/
def wrapUp (w : Work Outcome) : List Event × Errand := (requested w.rush, .settling w.rush)

/-- Goes on with a reconciliation, and past its end. -/
def treat (t : Task) (v : Verdict) (w : Work Remote.Outcome) : List Event × Errand :=
  match w.rush with
  | .done o => let (es, e) := wrapUp (settle t v o); (.reconciled v o :: es, e)
  | w => ([], .reconciling v w)

/-- Goes on with the question, and past its answer. -/
def probe (life : Lifecycle) (t : Task) (w : Work Finding) : List Event × Errand :=
  match w.rush with
  | .done (.over o) => ([], .settling (.done o))
  | .done (.done products) =>
    let (es, e) := treat t .promoted (life.onDone t.dataset products)
    (.reconciling .promoted :: es, e)
  | .done .failed =>
    let (es, e) := treat t .quarantined (life.onFailed t.dataset)
    (.reconciling .quarantined :: es, e)
  | w => (requested w, .inquiring w)

/-- Goes on to where the poll waits again, and says what is seen of it on the way. -/
def rush (life : Lifecycle) (t : Task) : Errand → List Event × Errand
  | inquiring w => probe life t w
  | reconciling v w => treat t v w
  | settling w => wrapUp w

def begin (life : Lifecycle) (t : Task) : List Event × Errand := (inquiring (inquire t)).rush life t

end Errand

/-! ## An errand is the poll -/

variable {α β : Type} {life : Lifecycle} {t : Task} {v : Verdict}

theorem rush_ask {c : Call} (h : c.isAwaited) (next : c.Reply → Work α) :
    Script.rush (.ask c next) = .ask c next := by
  cases c with
  | report e => cases h
  | count k => cases h
  | _ => rfl

theorem rush_cases (w : Work α) :
    (∃ a, w.rush = .done a) ∨ ∃ c next, c.isAwaited ∧ w.rush = .ask c next := by
  induction w with
  | done a => exact .inl ⟨a, rfl⟩
  | ask c next ih =>
      cases hc : c.isAwaited with
      | true => exact .inr ⟨c, next, hc, rush_ask hc next⟩
      | false =>
          cases c with
          | report e => exact ih ()
          | count k => exact ih ()
          | _ => cases hc

theorem rush_bind (w : Work α) (f : α → Work β) : (w >>= f).rush = (w.rush >>= f).rush := by
  induction w with
  | done a => rfl
  | ask c next ih =>
      cases c with
      | report e => exact ih ()
      | count k => exact ih ()
      | _ => rfl

namespace Errand

theorem work_treat (v : Verdict) (w : Work Remote.Outcome) :
    (treat t v w).2.work life t = (w >>= settle t v).rush := by
  rw [rush_bind]
  rcases rush_cases w with ⟨o, hw⟩ | ⟨c, next, hc, hw⟩
  · simp only [treat, hw]
    rfl
  · simp only [treat, hw, Script.bind_ask, rush_ask hc]
    rfl

theorem work_probe (w : Work Finding) :
    (probe life t w).2.work life t = (w >>= reconcile life t).rush := by
  rw [rush_bind]
  rcases rush_cases w with ⟨f, hw⟩ | ⟨c, next, hc, hw⟩
  · simp only [probe, hw, Script.bind_done]
    rcases f with o | products | _
    · rfl
    · exact work_treat ..
    · exact work_treat ..
  · simp only [probe, hw, Script.bind_ask, rush_ask hc]
    rfl

/-- Whatever errand goes on, it is the same poll, gone on to where it waits. -/
theorem work_rush (e : Errand) : (e.rush life t).2.work life t = (e.work life t).rush := by
  cases e with
  | inquiring w => exact work_probe w
  | reconciling v w => exact work_treat v w
  | settling w => rfl

/-- The poll of a task is the errand with which it begins... -/
theorem work_begin : (begin life t).2.work life t = (attempt life t).rush :=
  (work_rush _).trans (congrArg Script.rush (attempt_eq life t).symm)

theorem work_resume {e : Errand} (h : e.isWaiting) (answers : (c : Call) → c.Reply) :
    (e.resume answers).work life t = (e.work life t).resume answers := by
  cases e with
  | inquiring w => cases w <;> first | rfl | cases h
  | reconciling v w => cases w <;> first | rfl | cases h
  | settling w => rfl

/-- ... and goes on, reply by reply, as the errand does. -/
theorem work_reply {e : Errand} (h : e.isWaiting) (answers : (c : Call) → c.Reply) :
    ((e.resume answers).rush life t).2.work life t = ((e.work life t).resume answers).rush := by
  rw [work_rush, work_resume h]

/-! ## What an errand shows -/

/-- A poll asks once, and what it is told does not finalize the task by itself. -/
theorem rush_inquire (answers : (c : Call) → c.Reply) :
    ∃ f, ((inquire t).rush.resume answers).rush = .done f ∧ ∀ v, f ≠ .over (.finalized v) := by
  have hrush : (inquire t).rush = .ask (.poll t.statusUrl) _ := rfl
  rw [hrush]
  simp only [Script.resume]
  cases answers (.poll t.statusUrl) with
  | inProgress => exact ⟨_, rfl, by simp⟩
  | transient reason => exact ⟨_, rfl, by simp⟩
  | notFound => exact ⟨_, rfl, by simp⟩
  | done products => exact ⟨_, rfl, by simp⟩
  | failed products => exact ⟨_, rfl, by simp⟩

/-- A reconciliation that settled the task is followed by the discard of the record, and whatever that
replies, the task is finalized. -/
theorem rush_settle {o : Remote.Outcome} (ho : o.isSettled) :
    ∃ next, (settle t v o).rush = .ask (.discard t.statusUrl) next ∧
      ∀ r, (next r).rush = .done (.finalized v) := by
  cases o with
  | success => exact ⟨_, rfl, fun r => by cases r <;> rfl⟩
  | notFound => exact ⟨_, rfl, fun r => by cases r <;> rfl⟩
  | badRequest reason => cases ho
  | transient reason => cases ho

/-- A reconciliation that failed is not followed by anything. -/
theorem rush_settle_of_not {o : Remote.Outcome} (ho : o.isSettled = false) :
    ∃ a, (settle t v o).rush = .done a ∧ ∀ v', a ≠ .finalized v' := by
  cases o with
  | success => cases ho
  | notFound => cases ho
  | badRequest reason => exact ⟨_, rfl, by simp⟩
  | transient reason => exact ⟨_, rfl, by simp⟩

end Errand

end Poll
end Intake
