import Intake.Proofs.Poll.Turnover

/-!
# The load of a crew

The line bounds the tasks in it, and the slots bound the workers that hold one. A worker that has found
the line full holds none while its task waits for room, so it comes on top of both. As long as no worker
has found the line full, there is no such worker, and only those come on top that have nothing left to do
but to be counted off.
-/

namespace Intake.Poll

/-- Whether a worker has given its slot back before its cycle was over. -/
def Phase.isDisplaced : Phase → Bool
  | aside | blocked | admitted => true
  | _ => false

namespace Crew

/-- The tasks that are in the line or with a worker. -/
def unfinished (c : Crew) : Nat := c.line.length + c.workers.countP fun w => w.phase.hasTask

/-- Workers that have given their slot back. -/
def slotless (c : Crew) : Nat := c.workers.countP fun w => !w.phase.holdsSlot

/-- Those of them whose task is not in the line yet. -/
def parked (c : Crew) : Nat := c.workers.countP fun w => w.phase.hasTask && !w.phase.holdsSlot

def displaced (c : Crew) : Nat := c.workers.countP fun w => w.phase.isDisplaced

/-- Workers whose cycle is over and who have yet to be counted off. -/
def departing (c : Crew) : Nat := c.workers.countP fun w => w.phase = .departing

variable {c c' : Crew} {w : Worker} {s : Settings} {g : Ledger}

theorem length_workers (c : Crew) : c.workers.length = c.holders + c.slotless := by
  rw [holders, slotless, List.length_eq_countP_add_countP (fun w : Worker => w.phase.holdsSlot)]
  simp only [Bool.not_eq_true, Bool.decide_eq_false]

theorem slotless_eq (c : Crew) : c.slotless = c.displaced + c.departing := by
  unfold slotless displaced departing
  induction c.workers with
  | nil => rfl
  | cons w ws ih =>
      simp only [List.countP_cons, ih]
      cases w.phase <;> simp [Phase.holdsSlot, Phase.isDisplaced] <;> omega

theorem parked_le (c : Crew) : c.parked ≤ c.displaced := by
  refine List.countP_mono_left fun w _ h => ?_
  cases hp : w.phase <;> simp_all [Phase.hasTask, Phase.holdsSlot, Phase.isDisplaced]

/-- Who has a task holds a slot or is parked. -/
theorem countP_hasTask_le (c : Crew) :
    (c.workers.countP fun w => w.phase.hasTask) ≤ c.holders + c.parked := by
  unfold holders parked
  -- Each worker that has its task is counted on the right, whether it holds a slot or not.
  induction c.workers with
  | nil => exact Nat.le_refl _
  | cons w ws ih =>
      simp only [List.countP_cons]
      cases w.phase.hasTask <;> cases w.phase.holdsSlot <;> simp <;> omega

/-! ## Workers that the line has displaced -/

/-- A worker gives its slot back before its cycle is over only when it has counted that the line is
full. -/
theorem Stride.displaced_le {next : List Phase} {entered : Nat} {ks : List Metrics.Counter}
    (h : Stride c w next entered ks) :
    next.countP Phase.isDisplaced ≤ [w.phase].countP Phase.isDisplaced + ks.count .queueOverflow := by
  cases h <;> simp_all [Phase.isDisplaced]

/-- Workers that were displaced are among the re-queues that have found the line full. -/
def CountsDisplaced (c : Crew) : Prop := c.displaced ≤ c.tally .queueOverflow

namespace CountsDisplaced

theorem turns {out into : List Phase} {entered left : Nat} {ks : List Metrics.Counter}
    (h : c.CountsDisplaced) (ht : Turns c c' out into entered left ks)
    (hle : into.countP Phase.isDisplaced ≤
      out.countP Phase.isDisplaced + ks.count .queueOverflow) : c'.CountsDisplaced := by
  have hcount := ht.countP_eq Phase.isDisplaced
  have htally := ht.tally .queueOverflow
  unfold CountsDisplaced displaced at h ⊢
  omega

theorem step {m : Move} (h : c.CountsDisplaced) (hg : Watched s c g) (hc : c.step m = some c') :
    c'.CountsDisplaced := by
  have hd := hg.tracks.nodup
  cases makes_of_step hc with
  | takeTask _ ht =>
      cases hires_of_takeTask hg ht with
      | alone ht => exact h.turns ht (Nat.zero_le _)
      | producer ht => exact h.turns ht (Nat.zero_le _)
      | worker ht => exact h.turns ht (Nat.le_refl _)
  | work hw ha =>
      obtain ⟨next, entered, ks, hstride, ht⟩ := stride_of_act hd hw ha
      exact h.turns ht hstride.displaced_le
  | finish hw => exact h.turns (turns_put hd hw rfl) (Nat.zero_le _)
  | abandon hw => exact h.turns (turns_abandon hd hw) (Nat.zero_le _)
  | abandonHolding hw => exact turns (c := c.freeSlot) h (turns_abandon hd hw) (Nat.zero_le _)
  | _ => exact h

theorem ofRun {epoch : Millis} {ms : List Move} (hr : (Crew.new s epoch).run ms = some c) :
    c.CountsDisplaced :=
  Watched.keeps_along step (Nat.zero_le _) (.new s epoch) hr

end CountsDisplaced

/-! ## The bounds -/

/-- What a crew with the settings `s` has to carry, going by its ledger. -/
structure KeepsLoad (s : Settings) (c : Crew) (g : Ledger) : Prop where
  accepted : g.accepted.length = c.unfinished + g.ended.length
  queued : c.line.length ≤ max s.queueCapacity 1
  holders : c.holders ≤ max s.poolSize 1
  unfinished : c.unfinished ≤ max s.queueCapacity 1 + max s.poolSize 1 + c.parked
  running : c.workers.length ≤ max s.poolSize 1 + c.slotless
  /-- Before a worker has found the line full, only those come on top whose cycle is over. -/
  calm : c.tally .queueOverflow = 0 →
    c.unfinished ≤ max s.queueCapacity 1 + max s.poolSize 1 ∧
      c.workers.length ≤ max s.poolSize 1 + c.departing

theorem length_accepted (h : Watched s c g) : g.accepted.length = c.unfinished + g.ended.length := by
  have hline : c.line.length = g.queued.length := by
    rw [Line.length, h.tracks.items_eq, List.length_map]
  have hheld : (c.workers.countP fun w => w.phase.hasTask) = (g.held c.workers).length := by
    rw [Ledger.held, List.length_map, List.countP_eq_length_filter]
  have hshares := h.tracks.shares.length_eq
  rw [List.length_append, List.length_append] at hshares
  rw [unfinished, hline, hheld]
  omega

theorem KeepsLoad.of_balanced (h : Watched s c g) (hb : Balanced s c) (hs : c.CountsDisplaced) :
    KeepsLoad s c g := by
  have hqueued : c.line.length ≤ max s.queueCapacity 1 := hb.line.length_le
  have hslots : c.freeSlots + c.dispatcher.slots + c.holders = max s.poolSize 1 := hb.slots
  have hholders : c.holders ≤ max s.poolSize 1 := by omega
  have hworkers := c.length_workers
  have htasks := c.countP_hasTask_le
  have hunfinished : c.unfinished ≤ max s.queueCapacity 1 + max s.poolSize 1 + c.parked := by
    unfold Crew.unfinished
    omega
  refine ⟨length_accepted h, hqueued, hholders, hunfinished, by omega, fun hnone => ?_⟩
  have hdisplaced : c.displaced = 0 := Nat.eq_zero_of_le_zero (hnone ▸ hs)
  have hparked := c.parked_le
  have hslotless := c.slotless_eq
  exact ⟨by omega, by omega⟩

end Crew

variable {s : Settings} {epoch : Millis} {ms : List Crew.Move} {c : Crew}

/-- Whatever moves the crew has made, there is at most what the line and the slots hold, and what the
workers do that have found the line full. -/
theorem keepsLoad_of_run (hr : (Crew.new s epoch).run ms = some c) :
    Crew.KeepsLoad s c (Ledger.ofRun s epoch ms) :=
  .of_balanced (.ofRun hr) (.ofRun hr) (.ofRun hr)

/-- One slot and a line with room for one. The first task has to go back while two more have been
brought; its worker gives its slot back, and the next worker takes it. -/
def overtakenRun : List Crew.Move :=
  [.start, .send 0 (.new "a" "/a" 0), .takeSlot, .takeTask, .work 0, .send 1 (.new "b" "/b" 0),
    .send 2 (.new "c" "/c" 0), .finish 0 (.retry "busy"), .work 0, .work 0, .work 0, .work 0, .work 0,
    .takeSlot, .takeTask]

theorem keepsLoad_overtakenRun :
    ∃ c, (Crew.new ⟨1, 1, ⟨5, .attempts 3⟩, 1⟩ 0).run overtakenRun = some c ∧ c.parked = 1 ∧
      c.slotless = 1 ∧ Crew.KeepsLoad ⟨1, 1, ⟨5, .attempts 3⟩, 1⟩ c
        (Ledger.ofRun ⟨1, 1, ⟨5, .attempts 3⟩, 1⟩ 0 overtakenRun) :=
  ⟨_, rfl, rfl, rfl, keepsLoad_of_run rfl⟩

/-- The first worker has given its slot back but is not counted off when the next one is hired. -/
def relievedRun : List Crew.Move :=
  [.start, .send 0 (.new "a" "/a" 0), .takeSlot, .takeTask, .work 0, .finish 0 .vanished, .work 0,
    .work 0, .send 1 (.new "b" "/b" 0), .takeSlot, .takeTask]

/-- There can be more tasks than the line and the slots hold, and more workers than slots, even if no
worker has found the line full. -/
theorem exceeds_overtakenRun :
    (∃ c, (Crew.new ⟨1, 1, ⟨5, .attempts 3⟩, 1⟩ 0).run overtakenRun = some c ∧
      c.isCancelled = false ∧ 1 + 1 < c.unfinished ∧ 1 < c.workers.length) ∧
    ∃ c, (Crew.new ⟨1, 1, ⟨5, .attempts 3⟩, 1⟩ 0).run relievedRun = some c ∧
      c.isCancelled = false ∧ c.tally .queueOverflow = 0 ∧ 1 < c.workers.length :=
  ⟨⟨_, rfl, rfl, by decide, by decide⟩, _, rfl, rfl, rfl, by decide⟩

end Intake.Poll
