import Intake.Proofs.Poll.Load

/-!
# A crowd before the line

The settings do not bound how many workers wait without a slot. Where producers wait before a full line,
the room that the dispatcher makes goes to the first of them; the worker that has been given the task in
its place finds the line full again, and waits behind them all.
-/

namespace Intake.Poll.Crew

variable {c d : Crew} {w u : Worker} {ms : List Move} {k : Nat}

theorem run_append_of_run {ms' : List Move} {r : Option Crew} (h : c.run ms = some d)
    (hd : d.run ms' = r) : c.run (ms ++ ms') = r := by
  rw [run_append, h, Option.bind_some, hd]

/-! ## The worker that has come last -/

def withWorker (c : Crew) (w : Worker) : Crew := { c with workers := c.workers ++ [w] }

theorem worker?_withWorker (h : ∀ v ∈ c.workers, v.number < w.number) :
    (c.withWorker w).worker? w.number = some w := by
  have hnone : c.workers.find? (fun v => v.number = w.number) = none :=
    List.find?_eq_none.mpr fun v hv => by simpa using Nat.ne_of_lt (h v hv)
  simp [worker?, withWorker, List.find?_append, hnone]

theorem put_withWorker (h : ∀ v ∈ c.workers, v.number < w.number) (hu : u.number = w.number) :
    (c.withWorker w).put u = c.withWorker u := by
  have hrest : c.workers.map (fun v => if v.number = w.number then u else v) = c.workers := by
    refine (List.map_congr_left fun v hv => ?_).trans (List.map_id' _)
    exact if_neg (Nat.ne_of_lt (h v hv))
  simp [put, withWorker, hu, hrest]

/-- A step of the worker that has come last leaves the others where they are. -/
theorem run_work (h : ∀ v ∈ c.workers, v.number < w.number) (hd : d.workers = c.workers)
    (hu : u.number = w.number) (ha : (c.withWorker w).advance w = some ((d.withWorker w).put u)) :
    (c.withWorker w).run (.work w.number :: ms) = (d.withWorker u).run ms := by
  rw [run, step, worker?_withWorker h, Option.bind_some, ha, Option.bind_some,
    put_withWorker (hd ▸ h) hu]

theorem run_finish (h : ∀ v ∈ c.workers, v.number < w.number) (hp : w.phase = .polling) (o : Outcome) :
    (c.withWorker w).run (.finish w.number o :: ms) =
      (c.withWorker { w with phase := .answered o }).run ms := by
  rw [run, step, worker?_withWorker h, Option.bind_some, if_pos hp, Option.bind_some, setPhase,
    put_withWorker h (by rfl)]

theorem dismiss_withWorker (h : ∀ v ∈ c.workers, v.number < w.number) :
    (c.withWorker w).dismiss w.number = c := by
  have hrest : c.workers.filter (fun v => v.number ≠ w.number) = c.workers :=
    List.filter_eq_self.mpr fun v hv => by simpa using Nat.ne_of_lt (h v hv)
  rw [dismiss, withWorker, List.filter_append, hrest]
  simp

theorem run_begin {n : Nat} {t : Task} (h : ∀ v ∈ c.workers, v.number < n)
    (hready : t.readyIn c.now = 0) :
    (c.withWorker ⟨n, t, .hired⟩).run (.work n :: ms) = (c.withWorker ⟨n, t, .polling⟩).run ms := by
  have ha : (c.withWorker ⟨n, t, .hired⟩).advance ⟨n, t, .hired⟩ =
      some ((c.withWorker ⟨n, t, .hired⟩).put ⟨n, t, .polling⟩) := by
    simp only [advance, setPhase, withWorker, hready, if_true]
  exact run_work (d := c) h rfl (by rfl) ha

/-- A worker whose poll asks for another one makes a follow-up of its task. -/
theorem run_answer {n : Nat} {t t' : Task} (reason : String) (h : ∀ v ∈ c.workers, v.number < n)
    (hnext : t' = t.next c.now c.settings.policy.wait) :
    (c.withWorker ⟨n, t, .polling⟩).run (.finish n (.retry reason) :: .work n :: ms) =
      (c.withWorker ⟨n, t', .judging (.retry reason)⟩).run ms := by
  have ha : (c.withWorker ⟨n, t, .answered (.retry reason)⟩).advance
      ⟨n, t, .answered (.retry reason)⟩ =
      some ((c.withWorker ⟨n, t, .answered (.retry reason)⟩).put ⟨n, t', .judging (.retry reason)⟩) := by
    rw [hnext]
    rfl
  exact (run_finish h rfl _).trans (run_work (d := c) h rfl (by rfl) ha)

/-- A worker whose poll has to be repeated ends up with a task to put back, and nothing else changes. -/
theorem run_retry {n : Nat} {t t' : Task} (reason : String) (h : ∀ v ∈ c.workers, v.number < n)
    (hready : t.readyIn c.now = 0) (hnext : t' = t.next c.now c.settings.policy.wait)
    (hopen : c.settings.policy.isExhausted t' c.now = false) :
    (c.withWorker ⟨n, t, .hired⟩).run (.work n :: .finish n (.retry reason) :: .work n :: .work n :: ms) =
      (c.withWorker ⟨n, t', .returning⟩).run ms := by
  have hd : (c.withWorker ⟨n, t', .judging (.retry reason)⟩).decision
      ⟨n, t', .judging (.retry reason)⟩ (.retry reason) = .putBack t' :=
    if_neg (Bool.eq_false_iff.mp hopen)
  have ha : (c.withWorker ⟨n, t', .judging (.retry reason)⟩).advance
      ⟨n, t', .judging (.retry reason)⟩ =
      some ((c.withWorker ⟨n, t', .judging (.retry reason)⟩).put ⟨n, t', .returning⟩) := by
    simp only [advance, hd]
    rfl
  refine ((run_begin h hready).trans (run_answer reason h hnext)).trans ?_
  exact run_work (d := c) h rfl (by rfl) ha

/-- A worker that finds room puts its task back and is gone. -/
theorem run_return {n : Nat} {t : Task} {l : Line Party Task} (h : ∀ v ∈ c.workers, v.number < n)
    (hroom : c.line.offer t = some l) :
    (c.withWorker ⟨n, t, .returning⟩).run [.work n, .work n, .work n, .work n] =
      some ({ c with line := l }.count .requeues).freeSlot := by
  let d : Crew := { c with line := l }
  have hreturn : (c.withWorker ⟨n, t, .returning⟩).advance ⟨n, t, .returning⟩ =
      some ((d.withWorker ⟨n, t, .returning⟩).put ⟨n, t, .returned⟩) := by
    simp only [advance, withWorker, hroom, setPhase]
    rfl
  have htell : (d.withWorker ⟨n, t, .returned⟩).advance ⟨n, t, .returned⟩ =
      some (((d.count .requeues).withWorker ⟨n, t, .returned⟩).put ⟨n, t, .leaving .requeued⟩) := rfl
  have hleave : ((d.count .requeues).withWorker ⟨n, t, .leaving .requeued⟩).advance
      ⟨n, t, .leaving .requeued⟩ =
      some (((d.count .requeues).freeSlot.withWorker ⟨n, t, .leaving .requeued⟩).put
        ⟨n, t, .departing⟩) := rfl
  have hothers : ∀ v ∈ (d.count .requeues).workers, v.number < n := h
  refine (run_work (d := d) h (by rfl) (by rfl) hreturn).trans ?_
  refine (run_work (c := d) (d := d.count .requeues) h (by rfl) (by rfl) htell).trans ?_
  refine (run_work (d := (d.count .requeues).freeSlot) hothers (by rfl) (by rfl) hleave).trans ?_
  have hgone : ∀ v ∈ (d.count .requeues).freeSlot.workers, v.number < n := h
  rw [run, step, worker?_withWorker hgone]
  exact congrArg some (dismiss_withWorker hgone)

/-- The crew when worker `n` has been refused at the line and waits there with its task, its slot
given back. -/
def turnAway (c : Crew) (n : Nat) (t : Task) : Crew :=
  { (c.count .queueOverflow).freeSlot with
    line := { c.line with senders := c.line.senders ++ [(Party.worker n, t)] } }

/-- A worker that has to put its task back before a full line ends up waiting without a slot. -/
theorem run_vain {n : Nat} {t t' : Task} (reason : String) (h : ∀ v ∈ c.workers, v.number < n)
    (hready : t.readyIn c.now = 0) (hnext : t' = t.next c.now c.settings.policy.wait)
    (hopen : c.settings.policy.isExhausted t' c.now = false) (hfull : c.line.offer t' = none) :
    (c.withWorker ⟨n, t, .hired⟩).run [.work n, .finish n (.retry reason), .work n, .work n, .work n,
      .work n, .work n] = some ((c.turnAway n t').withWorker ⟨n, t', .blocked⟩) := by
  have hreturn : (c.withWorker ⟨n, t', .returning⟩).advance ⟨n, t', .returning⟩ =
      some ((c.withWorker ⟨n, t', .returning⟩).put ⟨n, t', .refused⟩) := by
    simp only [advance, withWorker, hfull, setPhase]
  have hstep : (c.withWorker ⟨n, t', .refused⟩).advance ⟨n, t', .refused⟩ =
      some (((c.count .queueOverflow).freeSlot.withWorker ⟨n, t', .refused⟩).put ⟨n, t', .aside⟩) :=
    rfl
  have hwait : ((c.count .queueOverflow).freeSlot.withWorker ⟨n, t', .aside⟩).advance ⟨n, t', .aside⟩ =
      some (((c.turnAway n t').withWorker ⟨n, t', .aside⟩).put ⟨n, t', .blocked⟩) := by
    have hsend : (c.count .queueOverflow).freeSlot.line.send (.worker n) t' = _ :=
      Line.send_of_full hfull
    simp only [advance, withWorker, hsend]
    rfl
  refine (run_retry reason h hready hnext hopen).trans ?_
  refine (run_work (d := c) h rfl (by rfl) hreturn).trans ?_
  refine (run_work (d := (c.count .queueOverflow).freeSlot) h (by rfl) (by rfl) hstep).trans ?_
  exact run_work h rfl rfl hwait

/-! ## Round after round -/

def chore : Task := .new "a" "/a" 0

/-- The producers from `i` on, `k` of them, with what they bring. -/
def producers (i k : Nat) : List (Party × Task) :=
  (List.range' i k).map fun j => (.producer j, chore)

/-- A crew at work that has one slot; `k` producers wait before its full line, and `others` behind them. -/
structure Crowded (i k : Nat) (others : List (Party × Task)) (c : Crew) : Prop where
  settings : c.settings = ⟨1, 1, ⟨5, .attempts 3⟩, 1⟩
  now : c.now = 0
  line : c.line = ⟨1, [chore], producers i k ++ others, [], []⟩
  freeSlots : c.freeSlots = 1
  dispatcher : c.dispatcher = .seekingSlot
  numbers : ∀ w ∈ c.workers, w.number < c.hired
  running : c.isCancelled = false

namespace Crowded

variable {i : Nat} {others : List (Party × Task)}

theorem send (h : c.Crowded i k []) :
    ∃ d, c.step (.send (i + k) chore) = some d ∧ d.Crowded i (k + 1) [] ∧ d.workers = c.workers := by
  have hfull : c.line.offer chore = none := by
    rw [h.line]
    rfl
  refine ⟨{ c with line := { c.line with
    senders := c.line.senders ++ [(.producer (i + k), chore)] } }, ?_, ⟨h.settings, h.now, ?_,
      h.freeSlots, h.dispatcher, h.numbers, h.running⟩, rfl⟩
  · rw [step, Line.send_of_full hfull]
    rfl
  · rw [h.line]
    simp [producers, List.range'_concat]

/-- The next worker has to put its task back, and waits behind everyone then. -/
theorem round (h : c.Crowded i (k + 1) others) :
    ∃ ms d others, c.run ms = some d ∧ d.Crowded (i + 1) k others ∧ d.parked = c.parked + 1 := by
  let d : Crew := { c with
    line := ⟨1, [chore], producers (i + 1) k ++ others, [], []⟩
    freeSlots := 0, dispatcher := .seekingSlot, hired := c.hired + 1, released := c.released ++ [i] }
  -- The room that is made goes to the first producer, so the line is full when the worker comes back.
  have htake : c.run [.takeSlot, .takeTask] = some (d.withWorker ⟨c.hired, chore, .hired⟩) := by
    have hslot : 0 < c.freeSlots := h.freeSlots ▸ Nat.one_pos
    have hline : c.line.take? = some ⟨chore, d.line, some (.producer i)⟩ := by
      rw [h.line]
      rfl
    rw [run, step, if_pos ⟨h.dispatcher, hslot⟩, Option.bind_some, run, step, if_pos rfl]
    simp only [hline, h.freeSlots]
    rfl
  have hsettings : d.settings = ⟨1, 1, ⟨5, .attempts 3⟩, 1⟩ := h.settings
  have hnow : d.now = 0 := h.now
  have hvain : (d.withWorker ⟨c.hired, chore, .hired⟩).run _ =
      some ((d.turnAway c.hired (chore.next 0 5)).withWorker ⟨c.hired, chore.next 0 5, .blocked⟩) :=
    run_vain "busy" h.numbers rfl (by rw [hsettings, hnow]) (by rw [hsettings, hnow]; rfl) rfl
  refine ⟨_, _, others ++ [(.worker c.hired, chore.next 0 5)], run_append_of_run htake hvain,
    ⟨h.settings, h.now, ?_, rfl, rfl, ?_, h.running⟩, List.countP_append⟩
  · show Line.mk .. = Line.mk ..
    rw [List.append_assoc]
  · intro w hw
    rcases List.mem_append.mp hw with hw | hw
    · exact Nat.lt_succ_of_lt (h.numbers w hw)
    · rw [List.mem_singleton.mp hw]
      exact Nat.lt_succ_self _

theorem rounds (h : c.Crowded i k others) :
    ∃ ms d, c.run ms = some d ∧ d.isCancelled = false ∧ d.parked = c.parked + k := by
  induction k generalizing c i others with
  | zero => exact ⟨[], c, rfl, h.running, rfl⟩
  | succ k ih =>
      obtain ⟨ms, d, others, hd, hcrowded, hparked⟩ := h.round
      obtain ⟨ms', e, he, hopen, hrest⟩ := ih hcrowded
      exact ⟨_, e, run_append_of_run hd he, hopen, by omega⟩

theorem gather (k : Nat) :
    ∃ ms c, (Crew.new ⟨1, 1, ⟨5, .attempts 3⟩, 1⟩ 0).run ms = some c ∧ c.Crowded 1 k [] ∧
      c.workers = [] := by
  induction k with
  | zero =>
      exact ⟨[.start, .send 0 chore], _, rfl, ⟨rfl, rfl, rfl, rfl, rfl, nofun, rfl⟩, rfl⟩
  | succ k ih =>
      obtain ⟨ms, c, hc, hcrowded, hnone⟩ := ih
      obtain ⟨d, hd, hcrowded, hsame⟩ := hcrowded.send
      have hsend : c.run [.send (1 + k) chore] = some d := by
        rw [run, hd]
        rfl
      exact ⟨_, d, run_append_of_run hc hsend, hcrowded, hsame.trans hnone⟩

end Crowded

/-- With one slot and room for one task, a crew can come to have any number of tasks that are with
workers without a slot. -/
theorem parked_unbounded (k : Nat) :
    ∃ ms c, (Crew.new ⟨1, 1, ⟨5, .attempts 3⟩, 1⟩ 0).run ms = some c ∧ c.isCancelled = false ∧
      c.parked = k := by
  obtain ⟨ms, c, hc, hcrowded, hnone⟩ := Crowded.gather k
  obtain ⟨ms', d, hd, hopen, hparked⟩ := hcrowded.rounds
  refine ⟨_, d, run_append_of_run hc hd, hopen, ?_⟩
  rw [hparked, parked, hnone]
  exact Nat.zero_add k

end Intake.Poll.Crew
