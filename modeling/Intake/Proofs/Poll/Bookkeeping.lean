import Intake.Proofs.Poll.Load
import Intake.Proofs.Poll.Toll

/-!
# What a crew counts

The counters of a crew tell how its tasks have ended. With each step of a worker they agree with where
the task of the worker is, and whoever waits for the line goes on waiting until the crew lets it know.
-/

namespace Intake.Poll

/-- Whether a worker has begun its poll and not finished its cycle. -/
def Phase.hasBegun : Phase → Bool
  | hired | resting _ | leaving _ | departing => false
  | _ => true

/-- How many tasks have ended, going by what has been counted. -/
def closings (ks : List Metrics.Counter) : Nat :=
  ks.count .completions + ks.count .vanished + ks.count .deadLettered

theorem Decision.mem_counts {d : Decision} {k : Metrics.Counter} (h : k ∈ d.counts) :
    k = .completions ∨ k = .vanished ∨ k = .deadLettered := by
  cases d <;> simp_all [counts]

theorem Outcome.closings_counts (o : Outcome) :
    closings o.counts = 0 ∧ o.counts.count .requeues = 0 := by
  cases o <;> exact ⟨rfl, rfl⟩

def Party.producer? : Party → Option Nat
  | producer n => some n
  | worker _ => none

/-! ## Tasks that were given up -/

/-- Whether a task is given up because a request was refused as malformed. -/
def Decision.isRejection : Decision → Bool
  | giveUp l => l.reason = .rejected
  | _ => false

def Place.isRejected : Place → Bool
  | ended (.settled d) => d.isRejection
  | _ => false

theorem Place.isRejected_iff {p : Place} :
    p.isRejected ↔ ∃ d, p = .ended (.settled d) ∧ d.isRejection := by
  cases p with
  | ended e => cases e <;> simp [isRejected]
  | _ => simp [isRejected]

/-- The tickets of the tasks that were rejected. -/
def Ledger.rejected (g : Ledger) : List Nat := g.ended.filter fun k => (g.file k).place.isRejected

def Ledger.rejections (g : Ledger) : Nat := g.settled.countP fun e => e.2.isRejection

def Outcome.isRejection : Outcome → Bool
  | rejected _ => true
  | _ => false

/-- Whether a worker has counted that its task is rejected, and not yet that it is given up. -/
def Phase.isRejecting : Phase → Bool
  | judging o => o.isRejection
  | _ => false

theorem Policy.isRejection_decide (p : Policy) (t : Task) (o : Outcome) (now date : Millis) :
    (p.decide t o now date).isRejection = o.isRejection := by
  cases o with
  | retry reason =>
      simp only [decide]
      split <;> rfl
  | _ => rfl

/-- Every task that is rejected is counted among those that are given up. -/
theorem rejections_le (es : List (Nat × Decision)) :
    (es.countP fun e => e.2.isRejection) ≤ (es.flatMap fun e => e.2.counts).count .deadLettered := by
  have hone : ∀ d : Decision, (if d.isRejection then 1 else 0) ≤ d.counts.count .deadLettered := by
    intro d
    cases d with
    | giveUp l =>
        show (if _ then 1 else 0) ≤ 1
        split <;> decide
    | _ => exact Nat.zero_le _
  induction es with
  | nil => exact Nat.le_refl _
  | cons e es ih =>
      rw [List.flatMap_cons, List.count_append, List.countP_cons, Nat.add_comm]
      exact Nat.add_le_add (hone e.2) ih

namespace Ledger

variable {g : Ledger} {c : Crew} {w : Worker} {k : Nat} {d : Decision}

theorem rejections_conclude :
    (g.conclude k d).rejections = g.rejections + if d.isRejection then 1 else 0 := by
  cases d <;> simp [rejections, conclude, Decision.isFinal, Decision.isRejection]

/-- A worker gives its task up as rejected if it has counted so. -/
theorem rejections_follow :
    (g.follow c w).rejections = g.rejections + [w.phase].countP Phase.isRejecting := by
  unfold follow
  cases w.phase with
  | hired =>
      simp only
      split <;> rfl
  | answered o =>
      simp only
      split
      · rename_i ho
        rw [rejections_conclude, Crew.decision, Policy.isRejection_decide]
        cases o <;> first | rfl | cases ho
      · rfl
  | judging o =>
      simp only
      rw [rejections_conclude, Crew.decision, Policy.isRejection_decide, List.countP_singleton]
      rfl
  | returning =>
      simp only
      split <;> rfl
  | _ => rfl

end Ledger

namespace Watched

variable {s : Settings} {c : Crew} {g : Ledger}

theorem mem_rejected (h : Watched s c g) {k : Nat} :
    k ∈ g.rejected ↔ ∃ d, (k, d) ∈ g.settled ∧ d.isRejection := by
  simp only [h.kept.settled, Ledger.rejected, List.mem_filter, h.tracks.mem_ended]
  constructor
  · rintro ⟨_, hr⟩
    exact Place.isRejected_iff.mp hr
  · rintro ⟨d, hp, hd⟩
    exact ⟨by rw [hp]; rfl, Place.isRejected_iff.mpr ⟨d, hp, hd⟩⟩

theorem length_rejected (h : Watched s c g) : g.rejected.length = g.rejections := by
  have hnodup : g.rejected.Nodup := (List.nodup_range.filter _).filter _
  have hperm : ((g.settled.filter fun e => e.2.isRejection).map Prod.fst).Perm g.rejected := by
    refine (List.perm_ext_iff_of_nodup (h.kept.nodup.sublist (List.filter_sublist.map _))
      hnodup).mpr fun k => ?_
    simp only [h.mem_rejected, List.mem_map, List.mem_filter, Prod.exists, exists_and_right,
      exists_eq_right]
  rw [Ledger.rejections, List.countP_eq_length_filter, ← hperm.length_eq, List.length_map]

theorem rejections_le (h : Watched s c g) : g.rejections ≤ c.tally .deadLettered := by
  rw [h.tallied .deadLettered rfl]
  exact Poll.rejections_le g.settled

/-- The crew counts neither ingests nor polls. -/
theorem tally_eq_zero (h : Watched s c g) {k : Metrics.Counter} (hk : k.isOfCrew = false) :
    c.tally k = 0 := by
  have hmidway : k.isMidway = false := by
    cases k <;> first | rfl | cases hk
  rw [h.tallied k hmidway]
  refine List.count_eq_zero.mpr fun hm => ?_
  obtain ⟨e, _, hm⟩ := List.mem_flatMap.mp hm
  rcases Decision.mem_counts hm with rfl | rfl | rfl <;> cases hk

end Watched

namespace Crew

/-! ## The crew -/

def closed (c : Crew) : Nat := c.tally .completions + c.tally .vanished + c.tally .deadLettered

def begun (c : Crew) : Nat := c.workers.countP fun w => w.phase.hasBegun

def rejecting (c : Crew) : Nat := c.workers.countP fun w => w.phase.isRejecting

/-- The producers whose tasks wait for room or have been let in without their notice. -/
def pending (c : Crew) : List Nat :=
  c.released ++ c.line.senders.filterMap fun s => s.1.producer?

variable {c c' : Crew} {w : Worker} {s : Settings} {g : Ledger} {next out into : List Phase}
  {entered left : Nat} {ks : List Metrics.Counter}

theorem Turns.closed_eq (h : Turns c c' out into entered left ks) :
    c'.closed = c.closed + closings ks := by
  unfold closed closings
  rw [h.tally, h.tally, h.tally]
  omega

/-- A worker has its task until it puts it into the line or counts that it has ended. -/
theorem Stride.closes (h : Stride c w next entered ks) :
    (next.countP fun p => p.hasTask) + entered + closings ks =
      [w.phase].countP fun p => p.hasTask := by
  cases h with
  | settle hp hd =>
      have hclosed := Decision.counted_once _ hd
      rcases hp with hp | hp <;> simp [hp, Phase.hasTask, closings, hclosed]
  | putBack hp => rcases hp with hp | hp <;> simp [hp, Phase.hasTask, closings]
  | @renew o hp => simp [hp, Phase.hasTask, o.closings_counts]
  | _ => simp [*, Phase.hasTask, closings]

/-- What has begun with a poll is over once it is counted as an end or as a re-queue. -/
theorem Stride.begins (h : Stride c w next entered ks) :
    (next.countP fun p => p.hasBegun) + closings ks + ks.count .requeues =
      ([w.phase].countP fun p => p.hasBegun) + if w.begins c.now then 1 else 0 := by
  cases h with
  | @settle o d hp hd =>
      have hclosed := Decision.counted_once _ hd
      have hnone : d.counts.count .requeues = 0 :=
        List.count_eq_zero.mpr fun hm => by simpa using Decision.mem_counts hm
      rcases hp with hp | hp <;> simp [hp, Phase.hasBegun, Worker.begins, closings, hclosed, hnone]
  | putBack hp =>
      rcases hp with hp | hp <;> simp [hp, Phase.hasBegun, Worker.begins, closings]
  | @renew o hp => simp [hp, Phase.hasBegun, Worker.begins, o.closings_counts]
  | _ => simp [*, Phase.hasBegun, Worker.begins, closings]

/-- A rejection is counted by who goes on to judge it. -/
theorem Stride.rejects (h : Stride c w next entered ks) :
    next.countP Phase.isRejecting = ks.count .rejected := by
  cases h with
  | @renew o hp => cases o <;> rfl
  | @settle o d hp hd =>
      have hnone : d.counts.count .rejected = 0 :=
        List.count_eq_zero.mpr fun hm => by simpa using Decision.mem_counts hm
      rw [hnone]
      rfl
  | _ => rfl

/-- A worker comes to work with its first step and leaves with its last. -/
theorem Stride.staff (h : Stride c w next entered ks) {busy : Nat} (hb : w.phase ≠ .hired → 0 < busy) :
    w.staff busy + 1 + (next.countP fun p => p = .hired) =
      busy + next.length + [w.phase].countP fun p => p = .hired := by
  cases h with
  | settle hp => rcases hp with hp | hp <;> simp [hp, Worker.staff]
  | putBack hp => rcases hp with hp | hp <;> simp [hp, Worker.staff]
  | _ => simp [*, Worker.staff] at hb ⊢ <;> omega

/-- A worker that has to wait has its task, has come to work and is not about to give the task up. -/
theorem waits_of_advance (h : c.advance w = none) :
    w.phase.hasTask ∧ w.phase ≠ .hired ∧ w.phase.isRejecting = false ∧ w.phase.isWaiting := by
  cases hp : w.phase with
  | resting till => exact ⟨rfl, nofun, rfl, rfl⟩
  | polling => exact ⟨rfl, nofun, rfl, rfl⟩
  | blocked => exact ⟨rfl, nofun, rfl, rfl⟩
  | answered o =>
      simp only [advance, hp] at h
      split at h <;> cases h
  | returning =>
      simp only [advance, hp] at h
      split at h <;> cases h
  | _ => simp [advance, hp] at h

theorem isCancelled_of_step {m : Move} (h : c.step m = some c') (hc : c'.isCancelled = false) :
    c.isCancelled = false := by
  cases makes_of_step h with
  | takeTask =>
      rw [(letIn_eq _ _).2.2] at hc
      exact hc
  | work _ ha => exact (frame_act ha).isCancelled ▸ hc
  | cancel => cases hc
  | _ => exact hc

theorem isCancelled_of_abandon {n : Nat} (h : c.step (.abandon n) = some c') : c'.isCancelled := by
  cases makes_of_step h with
  | abandon _ hc => exact hc
  | abandonHolding _ hc => exact hc

theorem turns_send {n : Nat} {t : Task} (h : c.step (.send n t) = some c') :
    ∃ brought, Turns c c' [] [] brought 0 [] ∧
      c'.released.length = c.released.length + brought := by
  cases makes_of_step h with
  | send =>
      cases ho : c.line.offer t with
      | some l =>
          rw [Line.send_of_offer ho]
          exact ⟨1, ⟨.refl _, Line.length_offer ho, fun _ => rfl⟩, List.length_append⟩
      | none =>
          rw [Line.send_of_full ho]
          exact ⟨0, ⟨.refl _, rfl, fun _ => rfl⟩, rfl⟩

theorem stride_of_work (hg : Watched s c g) {n : Nat} (hw : c.worker? n = some w)
    (h : c.step (.work n) = some c') :
    c'.released = c.released ∧ ∃ next entered ks, Stride c w next entered ks ∧
      Turns c c' [w.phase] next entered 0 ks := by
  obtain ⟨u, hu, ha⟩ := Option.bind_eq_some_iff.mp h
  obtain rfl := Option.some.inj (hw.symm.trans hu)
  exact ⟨(frame_act (act_of_advance ha)).released,
    stride_of_act hg.tracks.nodup (worker?_eq_some hw).1 (act_of_advance ha)⟩

theorem turns_notice {n : Nat} (h : c.step (.notice n) = some c') :
    Turns c c' [] [] 0 0 [] ∧ c'.released.length + 1 = c.released.length := by
  cases makes_of_step h with
  | notice hn => exact ⟨⟨.refl _, rfl, fun _ => rfl⟩, (List.perm_cons_erase hn).length_eq.symm⟩

theorem turns_finish (hg : Watched s c g) {n : Nat} {o : Outcome}
    (h : c.step (.finish n o) = some c') :
    Turns c c' [.polling] [.answered o] 0 0 [] ∧ c'.released = c.released ∧
      c'.pending = c.pending := by
  cases makes_of_step h with
  | @finish w o hw hp =>
      exact ⟨hp ▸ turns_put (u := { w with phase := .answered o }) hg.tracks.nodup hw rfl, rfl, rfl⟩

theorem hires_of_step (hg : Watched s c g) (h : c.step .takeTask = some c') : Hires c c' := by
  cases makes_of_step h with
  | takeTask _ ht => exact hires_of_takeTask hg ht

theorem quiet_step {m : Move} (hm : m.isQuiet) (h : c.step m = some c') :
    Turns c c' [] [] 0 0 [] ∧ c'.released = c.released ∧ c'.pending = c.pending := by
  cases makes_of_step h <;> first
    | exact ⟨⟨.refl _, rfl, fun _ => rfl⟩, rfl, rfl⟩
    | cases hm

/-! ### Rejections -/

/-- Each rejection that has been counted is that of a task that was given up so, or is about to be. -/
def CountsRejections (c : Crew) (g : Ledger) : Prop :=
  c.tally .rejected = g.rejections + c.rejecting

namespace CountsRejections

variable {g' : Ledger}

theorem turns (h : c.CountsRejections g) (ht : Turns c c' out into entered left ks)
    (hg : g'.rejections = g.rejections + out.countP Phase.isRejecting)
    (hinto : into.countP Phase.isRejecting = ks.count .rejected) : c'.CountsRejections g' := by
  have hcount := ht.countP_eq Phase.isRejecting
  have htally := ht.tally .rejected
  unfold CountsRejections rejecting at h ⊢
  omega

/-- Whoever waits is not about to give its task up. -/
theorem keep (h : c.CountsRejections g) (ht : Turns c c' [w.phase] into 0 0 [])
    (hg : g'.rejections = g.rejections) (hp : w.phase.isWaiting)
    (hinto : into.countP Phase.isRejecting = 0) : c'.CountsRejections g' := by
  refine h.turns ht ?_ hinto
  rw [hg]
  cases hw : w.phase <;> first | rfl | (rw [hw] at hp; cases hp)

theorem step {m : Move} (h : c.CountsRejections g) (hg : Watched s c g) (hc : c.step m = some c') :
    c'.CountsRejections (g.note c m) := by
  have hd := hg.tracks.nodup
  have hsame : (∀ n, m ≠ .work n) → (g.note c m).rejections = g.rejections := fun hm =>
    congrArg (List.countP _) (Ledger.settled_note hm)
  cases makes_of_step hc with
  | @work w c' hw ha =>
      obtain ⟨next, entered, ks, hstride, ht⟩ := stride_of_act hd hw ha
      refine h.turns ht ?_ hstride.rejects
      rw [Ledger.note, worker?_of_mem hd hw]
      exact Ledger.rejections_follow
  | takeTask _ ht =>
      cases hires_of_takeTask hg ht with
      | alone ht => exact h.turns ht (hsame (by simp)) rfl
      | producer ht => exact h.turns ht (hsame (by simp)) rfl
      | worker ht => exact h.turns ht (hsame (by simp)) rfl
  | finish hw hp => exact h.keep (turns_put hd hw rfl) (hsame (by simp)) (by rw [hp]; rfl) rfl
  | abandon hw _ hp => exact h.keep (turns_abandon hd hw) (hsame (by simp)) hp rfl
  | abandonHolding hw _ hp =>
      exact keep (c := c.freeSlot) h (turns_abandon hd hw) (hsame (by simp)) hp rfl
  | _ => exact h.trans (congrArg (· + _) (hsame (by simp)).symm)

end CountsRejections

/-! ### Who is waited for -/

theorem producers_act (h : c.Act w c') :
    (c'.line.senders.filterMap fun s => s.1.producer?) =
      c.line.senders.filterMap fun s => s.1.producer? := by
  cases h with
  | conclude => cases c.decision w _ <;> rfl
  | judge => cases c.decision w _ <;> rfl
  | putIn _ ho => exact congrArg _ (Line.offer_items ho).2
  | send =>
      cases ho : c.line.offer w.task with
      | some l =>
          rw [Line.send_of_offer ho]
          exact congrArg _ (Line.offer_items ho).2
      | none =>
          -- A worker that waits is no producer.
          rw [Line.send_of_full ho]
          exact (List.filterMap_append ..).trans (List.append_nil _)
  | _ => rfl

theorem pending_act (h : c.Act w c') : c'.pending = c.pending := by
  rw [pending, pending, producers_act h, (frame_act h).released]

theorem pending_takeTask (h : Hires c c') : c'.pending = c.pending := by
  cases h with
  | alone _ hreleased hsenders => rw [pending, pending, hreleased, hsenders]
  | producer _ hreleased hsenders =>
      rw [pending, pending, hreleased, hsenders, List.filterMap_cons_some (by rfl), List.append_assoc]
      rfl
  | worker _ hreleased hsenders =>
      rw [pending, pending, hreleased, hsenders, List.filterMap_cons_none (by rfl)]

theorem pending_send {n : Nat} {t : Task} (h : c.step (.send n t) = some c') :
    c'.pending.Perm (n :: c.pending) := by
  cases makes_of_step h with
  | send =>
      cases ho : c.line.offer t with
      | some l =>
          simp only [pending, Line.send_of_offer ho, if_true, (Line.offer_items ho).2,
            List.append_assoc]
          exact List.perm_middle
      | none =>
          simp only [pending, Line.send_of_full ho, Bool.false_eq_true, if_false,
            List.filterMap_append, ← List.append_assoc]
          exact List.perm_append_singleton ..

theorem pending_notice {n : Nat} (h : c.step (.notice n) = some c') :
    c.pending.Perm (n :: c'.pending) := by
  cases makes_of_step h with
  | notice hn => exact (List.perm_cons_erase hn).append_right _

/-- That a worker no longer waits for room is nothing to the producers. -/
theorem producers_withdraw (l : Line Party Task) (n : Nat) :
    ((l.withdraw (.worker n)).senders.filterMap fun s => s.1.producer?) =
      l.senders.filterMap fun s => s.1.producer? := by
  rw [Line.withdraw, List.filterMap_filter]
  refine List.filterMap_congr fun x _ => ?_
  rcases x with ⟨i | i, t⟩
  · simp
  · simp [Party.producer?]

theorem pending_abandon {n : Nat} (h : c.step (.abandon n) = some c') : c'.pending = c.pending := by
  cases makes_of_step h with
  | abandon => exact congrArg (c.released ++ ·) (producers_withdraw _ _)
  | abandonHolding => exact congrArg (c.released ++ ·) (producers_withdraw _ _)

end Crew

end Intake.Poll
