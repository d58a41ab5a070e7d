import Intake.Proofs.Poll.Crowd

/-!
# The count of attempts

The count in a task stays where it is once it has reached its limit. A policy that limits the time
only lets a task be polled as often as there is time for, and more often than the count can tell.
-/

namespace Intake.Poll.Crew

variable {c d : Crew} {k : Nat}

/-- The task after `k` polls, none of which took any time. -/
def polled : Nat → Task
  | 0 => chore
  | k + 1 => (polled k).next 0 0

theorem attempts_polled (k : Nat) : (polled k).attempts = min k attemptLimit := by
  induction k with
  | zero => rfl
  | succ k ih =>
      simp only [polled, Task.next, ih]
      omega

theorem createdAt_polled (k : Nat) : (polled k).createdAt = 0 := by
  induction k with
  | zero => rfl
  | succ k ih => exact ih

theorem readyIn_polled (k : Nat) : (polled k).readyIn 0 = 0 := by
  cases k <;> rfl

/-- The next worker polls the task and puts it back. -/
def lap (n : Nat) : List Move :=
  [.takeSlot, .takeTask, .work n, .finish n (.retry "busy"), .work n, .work n, .work n, .work n,
    .work n, .work n]

/-- The next worker polls the task when its time is over. -/
def lastLap (n : Nat) : List Move :=
  [.takeSlot, .takeTask, .work n, .pass 1, .finish n (.retry "busy"), .work n, .work n]

/-- One task is brought, and put back `k` times before it is given up. -/
def tirelessRun (k : Nat) : List Move :=
  .start :: .send 0 chore :: (List.range k).flatMap lap ++ lastLap k

def Move.isPoll : Move → Bool
  | .finish .. => true
  | _ => false

theorem polls_tirelessRun (k : Nat) : (tirelessRun k).countP Move.isPoll = k + 1 := by
  have hlaps : ((List.range k).flatMap lap).countP Move.isPoll = k := by
    induction k with
    | zero => rfl
    | succ k ih =>
        rw [List.range_succ, List.flatMap_append, List.countP_append, ih]
        rfl
  rw [tirelessRun, List.countP_append, List.countP_cons_of_neg (by decide),
    List.countP_cons_of_neg (by decide), hlaps]
  rfl

/-- A crew at work whose line holds the one task after `k` polls. -/
structure Circling (k : Nat) (c : Crew) : Prop where
  settings : c.settings = ⟨1, 1, ⟨0, .elapsed 0⟩, 1⟩
  now : c.now = 0
  line : c.line = ⟨1, [polled k], [], [], []⟩
  freeSlots : c.freeSlots = 1
  dispatcher : c.dispatcher = .seekingSlot
  workers : c.workers = []
  hired : c.hired = k
  running : c.isCancelled = false
  letters : c.letters = .new 1

namespace Circling

/-- The crew when it has hired the next worker, but for that worker. -/
def away (c : Crew) : Crew :=
  { c with line := .new 1, freeSlots := 0, dispatcher := .seekingSlot, hired := c.hired + 1 }

theorem hire (h : c.Circling k) :
    c.run [.takeSlot, .takeTask] = some ((away c).withWorker ⟨k, polled k, .hired⟩) := by
  have hslot : 0 < c.freeSlots := h.freeSlots ▸ Nat.one_pos
  have htake : c.line.take? = some ⟨polled k, .new 1, none⟩ := by
    rw [h.line]
    rfl
  rw [run, step, if_pos ⟨h.dispatcher, hslot⟩, Option.bind_some, run, step, if_pos rfl]
  simp only [htake, h.freeSlots, h.hired, away]
  rfl

theorem away_frame (h : c.Circling k) : (∀ v ∈ (away c).workers, v.number < k) ∧
    (away c).now = 0 ∧ (away c).settings = ⟨1, 1, ⟨0, .elapsed 0⟩, 1⟩ ∧
    (polled k).readyIn (away c).now = 0 := by
  have hnow : (away c).now = 0 := h.now
  refine ⟨by simp [away, h.workers], hnow, h.settings, ?_⟩
  rw [hnow, readyIn_polled]

theorem lap (h : c.Circling k) : ∃ d, c.run (lap k) = some d ∧ d.Circling (k + 1) := by
  obtain ⟨hworkers, hnow, hsettings, hready⟩ := h.away_frame
  have hopen : (away c).settings.policy.isExhausted (polled (k + 1)) (away c).now = false := by
    simp [hsettings, hnow, Policy.isExhausted, Task.elapsed]
  have hback := (run_retry "busy" hworkers hready (by rw [hsettings, hnow]; rfl) hopen).trans
    (run_return hworkers rfl)
  exact ⟨_, run_append_of_run h.hire hback, h.settings, h.now, rfl, rfl, rfl, h.workers,
    congrArg (· + 1) h.hired, h.running, h.letters⟩

theorem laps (k : Nat) :
    ∃ c, (Crew.new ⟨1, 1, ⟨0, .elapsed 0⟩, 1⟩ 0).run
      (.start :: .send 0 chore :: (List.range k).flatMap Crew.lap) = some c ∧ c.Circling k := by
  induction k with
  | zero => exact ⟨_, rfl, rfl, rfl, rfl, rfl, rfl, rfl, rfl, rfl, rfl⟩
  | succ k ih =>
      obtain ⟨c, hc, h⟩ := ih
      obtain ⟨d, hd, h⟩ := h.lap
      refine ⟨d, ?_, h⟩
      rw [List.range_succ, List.flatMap_append, List.flatMap_singleton]
      exact run_append_of_run hc hd

/-- When its time is over the task is given up. -/
theorem lastLap (h : c.Circling k) :
    ∃ d l, c.run (lastLap k) = some d ∧ d.isCancelled = false ∧ d.letters.records = [l] ∧
      l.attempts = min (k + 1) attemptLimit := by
  obtain ⟨hworkers, hnow, hsettings, hready⟩ := h.away_frame
  let late : Crew := { away c with now := (away c).now + 1 }
  have hlate : ∀ v ∈ late.workers, v.number < k := hworkers
  let t : Task := (polled k).next late.now late.settings.policy.wait
  let l : DeadLetter := .ofTask t .budgetExhausted "busy" (late.epoch + late.now)
  let w : Worker := ⟨k, t, .judging (.retry "busy")⟩
  have hx : late.settings.policy.isExhausted t late.now := by
    have hnow : late.now = 1 := congrArg (· + 1) hnow
    have hsettings : late.settings = ⟨1, 1, ⟨0, .elapsed 0⟩, 1⟩ := hsettings
    simp [t, hsettings, hnow, Policy.isExhausted, Task.elapsed, Task.next, createdAt_polled]
  have hd : (late.withWorker w).decision w (.retry "busy") = .giveUp l := if_pos hx
  have hlast : (late.withWorker w).run [.work k] = some ((late.withWorker w).conclude w (.giveUp l)) := by
    rw [← hd, run, step, worker?_withWorker hlate]
    rfl
  have hpoll : (late.withWorker ⟨k, polled k, .polling⟩).run
      [.finish k (.retry "busy"), .work k, .work k] = _ :=
    (run_answer "busy" hlate rfl).trans hlast
  refine ⟨_, l, run_append_of_run h.hire ((run_begin hworkers hready).trans hpoll), h.running, ?_, ?_⟩
  · show ((away c).letters.record l).records = [l]
    have hletters : (away c).letters = .new 1 := h.letters
    rw [hletters]
    rfl
  · show min ((polled k).attempts + 1) attemptLimit = min (k + 1) attemptLimit
    rw [attempts_polled]
    omega

end Circling

/-- The record of a task does not say how often it was polled if that was too often. -/
theorem attempts_tirelessRun :
    ∃ c l, (Crew.new ⟨1, 1, ⟨0, .elapsed 0⟩, 1⟩ 0).run (tirelessRun attemptLimit) = some c ∧
      c.isCancelled = false ∧ c.letters.records = [l] ∧
      l.attempts ≠ (tirelessRun attemptLimit).countP Move.isPoll := by
  obtain ⟨c, hc, h⟩ := Circling.laps attemptLimit
  obtain ⟨d, l, hd, hrunning, hletters, hattempts⟩ := h.lastLap
  refine ⟨d, l, run_append_of_run hc hd, hrunning, hletters, ?_⟩
  rw [hattempts, polls_tirelessRun]
  omega

end Intake.Poll.Crew
