import Intake.Proofs.Poll.Roster

/-!
# What a move can be

The moves of the crew as relations, each with what it needs and what it leads to. What every move
keeps is shown by cases on them.
-/

namespace Intake.Poll.Crew

/-- What a worker does next. -/
inductive Act (c : Crew) (w : Worker) : Crew → Prop
  | begin (hp : w.phase = .hired) (hr : w.task.readyIn c.now = 0) : Act c w (c.setPhase w .polling)
  | rest (hp : w.phase = .hired) (hr : w.task.readyIn c.now ≠ 0) :
      Act c w (c.setPhase w (.resting (c.now + w.task.readyIn c.now)))
  | wake {till : Millis} (hp : w.phase = .resting till) (h : till ≤ c.now) :
      Act c w (c.setPhase w .polling)
  | conclude {o : Outcome} (hp : w.phase = .answered o) (ho : o.isFinal) :
      Act c w (c.conclude w (c.decision w o))
  | renew {o : Outcome} (hp : w.phase = .answered o) (ho : ¬ o.isFinal) :
      Act c w ((c.countAll o.counts).put
        { w with task := w.task.next c.now c.settings.policy.wait, phase := .judging o })
  | judge {o : Outcome} (hp : w.phase = .judging o) : Act c w (c.conclude w (c.decision w o))
  | putIn {l : Line Party Task} (hp : w.phase = .returning) (ho : c.line.offer w.task = some l) :
      Act c w (setPhase { c with line := l } w .returned)
  | refuse (hp : w.phase = .returning) (ho : c.line.offer w.task = none) :
      Act c w (c.setPhase w .refused)
  | tell (hp : w.phase = .returned) :
      Act c w ((c.count .requeues).setPhase w (.leaving .requeued))
  | stepAside (hp : w.phase = .refused) :
      Act c w ((c.count .queueOverflow).setPhase w .aside).freeSlot
  | send (hp : w.phase = .aside) :
      Act c w (setPhase { c with line := (c.line.send (.worker w.number) w.task).2 } w
        (if (c.line.send (.worker w.number) w.task).1 then .admitted else .blocked))
  | follow (hp : w.phase = .admitted) : Act c w ((c.count .requeues).setPhase w .departing)
  | leave {d : Disposition} (hp : w.phase = .leaving d) : Act c w (c.setPhase w .departing).freeSlot
  | depart (hp : w.phase = .departing) : Act c w (c.dismiss w.number)

theorem act_of_advance {c c' : Crew} {w : Worker} (h : c.advance w = some c') : Act c w c' := by
  cases hp : w.phase with
  | hired =>
      simp only [advance, hp, Option.some.injEq] at h
      subst h
      split
      · rename_i hr
        exact .begin hp hr
      · rename_i hr
        exact .rest hp hr
  | resting till =>
      simp only [advance, hp, Option.ite_none_right_eq_some, Option.some.injEq] at h
      obtain ⟨hle, rfl⟩ := h
      exact .wake hp hle
  | answered o =>
      simp only [advance, hp] at h
      split at h <;> cases h
      · rename_i ho
        exact .conclude hp ho
      · rename_i ho
        exact .renew hp ho
  | judging o =>
      simp only [advance, hp, Option.some.injEq] at h
      subst h
      exact .judge hp
  | returning =>
      simp only [advance, hp] at h
      split at h <;> cases h
      · rename_i ho
        exact .putIn hp ho
      · rename_i ho
        exact .refuse hp ho
  | returned =>
      simp only [advance, hp, Option.some.injEq] at h
      subst h
      exact .tell hp
  | refused =>
      simp only [advance, hp, Option.some.injEq] at h
      subst h
      exact .stepAside hp
  | aside =>
      simp only [advance, hp, Option.some.injEq] at h
      subst h
      exact .send hp
  | admitted =>
      simp only [advance, hp, Option.some.injEq] at h
      subst h
      exact .follow hp
  | leaving d =>
      simp only [advance, hp, Option.some.injEq] at h
      subst h
      exact .leave hp
  | departing =>
      simp only [advance, hp, Option.some.injEq] at h
      subst h
      exact .depart hp
  | polling => simp [advance, hp] at h
  | blocked => simp [advance, hp] at h

/-- The crew once a task has been taken from its line. -/
def hire (c : Crew) (t : Line.Taken Party Task) : Crew :=
  { c with
    dispatcher := .seekingSlot, line := t.line, hired := c.hired + 1
    workers := c.workers ++ [⟨c.hired, t.item, .hired⟩] }

inductive Makes (c : Crew) : Move → Crew → Prop
  | send {n : Nat} {t : Task} :
      Makes c (.send n t) { c with
        line := (c.line.send (.producer n) t).2
        released := if (c.line.send (.producer n) t).1 then c.released ++ [n] else c.released }
  | offer {t : Task} {l : Line Party Task} (ho : c.line.offer t = some l) :
      Makes c (.offer t) { c with line := l }
  | notice {n : Nat} (hn : n ∈ c.released) :
      Makes c (.notice n) { c with released := c.released.erase n }
  | start (hd : c.dispatcher = .idle) :
      Makes c .start (report { c with dispatcher := .seekingSlot }
        (.schedulerStarted c.settings.poolSize c.line.capacity))
  | takeSlot (hd : c.dispatcher = .seekingSlot) (hfree : 0 < c.freeSlots) :
      Makes c .takeSlot { c with dispatcher := .holdingSlot, freeSlots := c.freeSlots - 1 }
  | takeTask {t : Line.Taken Party Task} (hd : c.dispatcher = .holdingSlot)
      (ht : c.line.take? = some t) : Makes c .takeTask ((c.hire t).letIn t.admitted)
  | work {w : Worker} {c' : Crew} (hw : w ∈ c.workers) (ha : Act c w c') : Makes c (.work w.number) c'
  | finish {w : Worker} {o : Outcome} (hw : w ∈ c.workers) (hp : w.phase = .polling) :
      Makes c (.finish w.number o) (c.setPhase w (.answered o))
  | pass {span : Millis} : Makes c (.pass span) { c with now := c.now + span }
  | cancel : Makes c .cancel { c with isCancelled := true }
  | stop (hc : c.isCancelled) (hd : c.dispatcher = .seekingSlot) :
      Makes c .stop (report { c with dispatcher := .stopped } (.schedulerStopped c.line.length))
  | stopHolding (hc : c.isCancelled) (hd : c.dispatcher = .holdingSlot) :
      Makes c .stop (report { c.freeSlot with dispatcher := .stopped }
        (.schedulerStopped c.line.length))
  | abandon {w : Worker} (hw : w ∈ c.workers) (hc : c.isCancelled) (hp : w.phase.isWaiting)
      (hs : w.phase.holdsSlot = false) :
      Makes c (.abandon w.number)
        { c.setPhase w .departing with line := c.line.withdraw (.worker w.number) }
  | abandonHolding {w : Worker} (hw : w ∈ c.workers) (hc : c.isCancelled)
      (hp : w.phase.isWaiting) (hs : w.phase.holdsSlot) :
      Makes c (.abandon w.number)
        { c.freeSlot.setPhase w .departing with line := c.line.withdraw (.worker w.number) }

/-- A move that is made is one of these. -/
theorem makes_of_step {c c' : Crew} {m : Move} (h : c.step m = some c') : Makes c m c' := by
  cases m with
  | send n t =>
      cases h
      exact .send
  | offer t =>
      obtain ⟨l, ho, rfl⟩ := Option.map_eq_some_iff.mp h
      exact .offer ho
  | notice n =>
      simp only [step, Option.ite_none_right_eq_some, Option.some.injEq] at h
      obtain ⟨hn, rfl⟩ := h
      exact .notice hn
  | start =>
      simp only [step, Option.ite_none_right_eq_some, Option.some.injEq] at h
      obtain ⟨hd, rfl⟩ := h
      exact .start hd
  | takeSlot =>
      simp only [step, Option.ite_none_right_eq_some, Option.some.injEq] at h
      obtain ⟨⟨hd, hfree⟩, rfl⟩ := h
      exact .takeSlot hd hfree
  | takeTask =>
      simp only [step, Option.ite_none_right_eq_some, Option.map_eq_some_iff] at h
      obtain ⟨hd, t, ht, rfl⟩ := h
      exact .takeTask hd ht
  | work n =>
      obtain ⟨w, hw?, ha⟩ := Option.bind_eq_some_iff.mp h
      obtain ⟨hw, rfl⟩ := worker?_eq_some hw?
      exact .work hw (act_of_advance ha)
  | finish n o =>
      simp only [step, Option.bind_eq_some_iff, Option.ite_none_right_eq_some] at h
      obtain ⟨w, hw?, hp, ⟨⟩⟩ := h
      obtain ⟨hw, rfl⟩ := worker?_eq_some hw?
      exact .finish hw hp
  | pass span =>
      cases h
      exact .pass
  | cancel =>
      cases h
      exact .cancel
  | stop =>
      simp only [step, Option.ite_none_right_eq_some, Option.some.injEq] at h
      obtain ⟨⟨hc, hd⟩, rfl⟩ := h
      split
      · rename_i hheld
        exact .stopHolding hc hheld
      · rename_i hheld
        exact .stop hc (hd.resolve_right hheld)
  | abandon n =>
      simp only [step, Option.bind_eq_some_iff, Option.ite_none_right_eq_some] at h
      obtain ⟨w, hw?, ⟨hc, hp⟩, ⟨⟩⟩ := h
      obtain ⟨hw, rfl⟩ := worker?_eq_some hw?
      split
      · rename_i hs
        exact .abandonHolding hw hc hp hs
      · rename_i hs
        exact .abandon hw hc hp (Bool.not_eq_true _ ▸ hs)

end Intake.Poll.Crew
