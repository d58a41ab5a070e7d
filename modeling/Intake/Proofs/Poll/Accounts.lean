import Intake.Proofs.Poll.Gauges

/-!
# What the meters say

The counters of a plant tell where its tasks are. A poll that has begun ends with a task that has ended,
goes back into the line or is still with its worker; a task that an ingest has counted has ended, is in
the line or with a worker. Between two of its waits a plant may be behind with what it counts, but not
once nothing can go on.
-/

namespace Intake.Poll

open Service (Call Work Site)

/-! ## What is counted, and where it is -/

namespace Plant

variable {p p' : Plant} {site : Site} {m : Move} {s : Settings}

/-- The producers that are waited for are the ingests that wait, each once. -/
structure Awaited (p : Plant) : Prop where
  nodup : p.crew.pending.Nodup
  queueing : ∀ n, n ∈ p.crew.pending ↔ ∃ w, p.ingests[n]? = some (.queueing w)

namespace Awaited

theorem new (s : Settings) (epoch : Millis) : Awaited (Plant.new s epoch) :=
  ⟨List.nodup_nil, fun _ => iff_of_false nofun nofun⟩

theorem frame (h : p.Awaited) (hpending : p'.crew.pending = p.crew.pending)
    (hingests : p'.ingests = p.ingests) : p'.Awaited :=
  ⟨hpending ▸ h.nodup, hpending ▸ hingests ▸ h.queueing⟩

/-- What becomes of one ingest is nothing to the others. -/
theorem set {n : Nat} {i : Ingest} (h : p.Awaited) (hn : n < p.ingests.length)
    (hingests : p'.ingests = p.ingests.set n i) (hnodup : p'.crew.pending.Nodup)
    (hself : n ∈ p'.crew.pending ↔ ∃ w, i = .queueing w)
    (hothers : ∀ j, j ≠ n → (j ∈ p'.crew.pending ↔ j ∈ p.crew.pending)) : p'.Awaited := by
  refine ⟨hnodup, fun j => ?_⟩
  rw [hingests]
  by_cases hj : j = n
  · rw [hj, hself, List.getElem?_set_self hn]
    simp only [Option.some.injEq]
  · rw [hothers j hj, h.queueing, List.getElem?_set_ne (Ne.symm hj)]

theorem not_mem (h : p.Awaited) {n : Nat} {w : Work (Except Service.Fault String)}
    (hn : p.ingests[n]? = some (.working w)) : n ∉ p.crew.pending := by
  intro hm
  obtain ⟨w', hw'⟩ := (h.queueing n).mp hm
  rw [hn] at hw'
  cases hw'

theorem step (h : p.Awaited) (hg : Watched s p.crew p.ledger) (hm : p.Makes site m p') :
    p'.Awaited := by
  cases hm with
  | @ingest u =>
      refine ⟨h.nodup, fun n => (h.queueing n).trans ?_⟩
      rcases Nat.lt_trichotomy n p.ingests.length with hn | rfl | hn
      · rw [List.getElem?_append_left hn]
      · simp
      · have hlength : (p.ingests ++ [Ingest.working (Service.ingest site u).rush]).length ≤ n := by
          simpa using Nat.succ_le_of_lt hn
        rw [List.getElem?_eq_none (Nat.le_of_lt hn), List.getElem?_eq_none hlength]
  | reply hn =>
      exact h.set (List.getElem?_eq_some_iff.mp hn).1 rfl h.nodup
        (iff_of_false (h.not_mem hn) nofun) fun _ _ => Iff.rfl
  | @bring n dataset statusUrl t c next hn hstep =>
      have hperm := Crew.pending_send hstep
      refine h.set (List.getElem?_eq_some_iff.mp hn).1 rfl
        (hperm.nodup_iff.mpr (List.nodup_cons.mpr ⟨h.not_mem hn, h.nodup⟩)) ?_ fun j hj => ?_
      · exact iff_of_true (hperm.mem_iff.mpr (List.mem_cons_self ..)) ⟨_, rfl⟩
      · exact hperm.mem_iff.trans (List.mem_cons.trans (or_iff_right hj))
  | @notice n w c hn hstep =>
      -- Who has been let know is waited for no more, as everyone was waited for once.
      have hperm := Crew.pending_notice hstep
      obtain ⟨hnot, hnodup⟩ := List.nodup_cons.mp (hperm.nodup_iff.mp h.nodup)
      refine h.set (List.getElem?_eq_some_iff.mp hn).1 rfl hnodup (iff_of_false hnot nofun)
        fun j hj => ?_
      exact (hperm.mem_iff.trans (List.mem_cons.trans (or_iff_right hj))).symm
  | answer => exact h.frame rfl rfl
  | finish _ hstep => exact h.frame (Crew.turns_finish hg hstep).2.2 rfl
  | takeTask hstep => exact h.frame (Crew.pending_takeTask (Crew.hires_of_step hg hstep)) rfl
  | read => exact h.frame rfl rfl
  | display => exact h.frame rfl rfl
  | @work n w c _ hstep =>
      cases Crew.makes_of_step hstep with
      | work _ ha => exact h.frame (Crew.pending_act ha) (heed_frame p site w).2.2
  | abandon hstep => exact h.frame (Crew.pending_abandon hstep) rfl
  | quiet hm hstep => exact h.frame (Crew.quiet_step hm hstep).2.2 rfl

end Awaited

/-- Each poll that has begun and each task that an ingest has counted, or is about to, is somewhere. -/
structure Booked (p : Plant) : Prop where
  begun : p.crew.closed + p.crew.tally .requeues + p.crew.begun = p.tally .polls
  entered : p.crew.closed + p.crew.unfinished = p.tally .datasetsIngested + p.crew.released.length

namespace Booked

theorem new (s : Settings) (epoch : Millis) : Booked (Plant.new s epoch) := ⟨rfl, rfl⟩

/-- A move is booked when what it counts of polls and of tasks agrees with what it does. -/
theorem turns {out into : List Phase} {entered left : Nat} {ks : List Metrics.Counter}
    (h : p.Booked) (begun noticed brought : Nat) (ht : p.crew.Turns p'.crew out into entered left ks)
    (hpolls : p'.tally .polls = p.tally .polls + begun)
    (hingested : p'.tally .datasetsIngested = p.tally .datasetsIngested + noticed)
    (hreleased : p'.crew.released.length + noticed = p.crew.released.length + brought)
    (hbegun : (into.countP fun p => p.hasBegun) + closings ks + ks.count .requeues =
      (out.countP fun p => p.hasBegun) + begun)
    (hentered : (into.countP fun p => p.hasTask) + entered + closings ks =
      (out.countP fun p => p.hasTask) + left + brought) : p'.Booked := by
  have hclosed := ht.closed_eq
  have hrequeues := ht.tally .requeues
  have hwithBegun := ht.countP_eq fun p => p.hasBegun
  have hwithTask := ht.countP_eq fun p => p.hasTask
  have hlength := ht.length
  obtain ⟨hb, he⟩ := h
  unfold Crew.begun at hb
  unfold Crew.unfinished at he
  refine ⟨?_, ?_⟩
  · unfold Crew.begun
    omega
  · unfold Crew.unfinished
    omega

theorem step (h : p.Booked) (hg : Watched s p.crew p.ledger) (hs : p.Scripted)
    (hm : p.Makes site m p') (hopen : p'.crew.isCancelled = false) : p'.Booked := by
  cases hm with
  | @reply n answers c next hn hc =>
      have hpolls := hs.tally_reply hn hc (answers c) (k := .polls) (by simp)
      have hingested := hs.tally_reply hn hc (answers c) (k := .datasetsIngested) (by simp)
      exact h.turns 0 0 0 (.refl _) hpolls hingested rfl rfl rfl
  | bring _ hstep =>
      obtain ⟨brought, ht, hreleased⟩ := Crew.turns_send hstep
      exact h.turns 0 0 brought ht rfl rfl hreleased rfl (by simp [closings])
  | @notice n w c hn hstep =>
      have hpolls := hs.tally_notice hn .polls
      have hingested := hs.tally_notice hn .datasetsIngested
      obtain ⟨ht, hreleased⟩ := Crew.turns_notice hstep
      exact h.turns 0 1 0 ht hpolls hingested hreleased rfl rfl
  | @answer n answers w work _ _ hwork =>
      have hpolls := hs.tally_resume hwork answers (k := .polls) rfl
      have hingested := hs.tally_resume hwork answers (k := .datasetsIngested) rfl
      exact h.turns 0 0 0 (.refl _) hpolls hingested rfl rfl rfl
  | @finish n answers work o c hwork hstep =>
      have hpolls := hs.tally_resume hwork answers (k := .polls) rfl
      have hingested := hs.tally_resume hwork answers (k := .datasetsIngested) rfl
      obtain ⟨ht, hreleased, _⟩ := Crew.turns_finish hg hstep
      exact h.turns 0 0 0 ht hpolls hingested (congrArg List.length hreleased) rfl rfl
  | takeTask hstep =>
      cases Crew.hires_of_step hg hstep with
      | alone ht hreleased =>
          exact h.turns 0 0 0 ht rfl rfl (congrArg List.length hreleased) rfl rfl
      | producer ht hreleased =>
          refine h.turns 0 0 1 ht rfl rfl ?_ rfl rfl
          exact (congrArg List.length hreleased).trans List.length_append
      | worker ht hreleased =>
          exact h.turns 0 0 0 ht rfl rfl (congrArg List.length hreleased) rfl rfl
  | @work n w c hw? hstep =>
      have hpolls := tally_heed p site w (k := .polls) rfl
      have hingested := tally_heed p site w (k := .datasetsIngested) rfl
      obtain ⟨hreleased, next, entered, ks, hstride, ht⟩ := Crew.stride_of_work hg hw? hstep
      refine h.turns (if w.begins p.crew.now then 1 else 0) 0 0 ht hpolls ?_
        (congrArg List.length hreleased) hstride.begins hstride.closes
      exact hingested.trans (by split <;> rfl)
  | abandon hstep => cases (Crew.isCancelled_of_abandon hstep).symm.trans hopen
  | quiet hm hstep =>
      obtain ⟨ht, hreleased, _⟩ := Crew.quiet_step hm hstep
      exact h.turns 0 0 0 ht rfl rfl (congrArg List.length hreleased) rfl rfl
  | _ => exact { h with }

end Booked

/-! ## Along a run -/

theorem isCancelled_of_makes (hm : p.Makes site m p') (hopen : p'.crew.isCancelled = false) :
    p.crew.isCancelled = false := by
  rcases crew_of_makes hm with ⟨hcrew, _⟩ | ⟨cm, hstep, _⟩
  · rwa [← hcrew]
  · exact Crew.isCancelled_of_step hstep hopen

theorem rejections_of_makes (h : p.crew.CountsRejections p.ledger) (hg : Watched s p.crew p.ledger)
    (hm : p.Makes site m p') : p'.crew.CountsRejections p'.ledger := by
  rcases crew_of_makes hm with ⟨hcrew, hledger⟩ | ⟨cm, hstep, hledger⟩
  · rwa [hcrew, hledger]
  · rw [hledger]
    exact h.step hg hstep

structure Metered (s : Settings) (p : Plant) : Prop where
  watched : Watched s p.crew p.ledger
  scripted : p.Scripted
  awaited : p.Awaited
  rejections : p.crew.CountsRejections p.ledger
  running : p.crew.isCancelled = false → p.Booked ∧ p.Staffed

namespace Metered

theorem new (s : Settings) (epoch : Millis) : Metered s (Plant.new s epoch) :=
  ⟨.new s epoch, .new s epoch, .new s epoch, rfl, fun _ => ⟨.new s epoch, rfl⟩⟩

theorem step (h : Metered s p) (hstep : p.step site m = some p') : Metered s p' := by
  have hm := makes_of_step hstep
  refine ⟨watched_step h.watched hm, h.scripted.step hm, h.awaited.step h.watched hm,
    rejections_of_makes h.rejections h.watched hm, fun hopen => ?_⟩
  obtain ⟨hbooked, hstaffed⟩ := h.running (isCancelled_of_makes hm hopen)
  exact ⟨hbooked.step h.watched h.scripted hm hopen, hstaffed.step h.watched hm hopen⟩

theorem along {ms : List Move} (h : Metered s p) (hr : p.run site ms = some p') : Metered s p' := by
  induction ms generalizing p with
  | nil =>
      cases hr
      exact h
  | cons m ms ih =>
      obtain ⟨p₁, hstep, hr⟩ := Option.bind_eq_some_iff.mp hr
      exact ih (h.step hstep) hr

end Metered

theorem isCancelled_of_run {ms : List Move} (hr : p.run site ms = some p')
    (hopen : p'.crew.isCancelled = false) : p.crew.isCancelled = false := by
  induction ms generalizing p with
  | nil =>
      cases hr
      exact hopen
  | cons m ms ih =>
      obtain ⟨p₁, hstep, hr⟩ := Option.bind_eq_some_iff.mp hr
      exact isCancelled_of_makes (makes_of_step hstep) (ih hr)

/-- Whoever made the last change goes on to show the depth, and nobody shows one from before. -/
theorem fresh_along {ms : List Move} {isClear : Bool} (h : Metered s p) (hfresh : isClear → p.Fresh)
    (hr : p.run site ms = some p') (hopen : p'.crew.isCancelled = false)
    (hclear : p.changesClear site isClear ms) : p'.Fresh := by
  induction ms generalizing p isClear with
  | nil =>
      cases hr
      exact hfresh hclear
  | cons m ms ih =>
      obtain ⟨q, hstep, hr⟩ := Option.bind_eq_some_iff.mp hr
      simp only [changesClear, hstep, Option.elim] at hclear
      refine ih (h.step hstep) (fun hq => ?_) hr hclear
      refine Fresh.step h.watched (makes_of_step hstep) (isCancelled_of_run hr hopen)
        (fun hlen => ?_) fun hlen => ?_
      · rw [if_pos hlen] at hq
        exact hfresh hq
      · rw [if_neg hlen] at hq
        exact List.isEmpty_iff.mp hq

/-! ## Standing still -/

theorem perform_of_idle (hu : p.unread = []) (hr : p.readings = []) :
    p.step site m = p.perform site m := by
  refine if_neg ?_
  cases m with
  | crew m => cases m <;> simp [isDelayed, owes, hu, hr]
  | _ => simp [isDelayed, owes, hu, hr]

theorem unread_of_still (h : p.IsStill site) : p.unread = [] := by
  refine List.eq_nil_iff_forall_not_mem.mpr fun r hr => ?_
  have hnone := h (.read r) rfl
  simp [Plant.step, isDelayed, perform, hr] at hnone

theorem readings_of_still (h : p.IsStill site) : p.readings = [] := by
  refine List.eq_nil_iff_forall_not_mem.mpr fun x hx => ?_
  have hnone := h (.display x.1) rfl
  simp only [Plant.step, isDelayed, perform, Bool.false_eq_true, if_false, Option.map_eq_none_iff,
    List.find?_eq_none] at hnone
  exact hnone x hx (decide_eq_true rfl)

theorem perform_of_still (h : p.IsStill site) (hm : m.isOwn) : p.perform site m = none :=
  (perform_of_idle (unread_of_still h) (readings_of_still h)).symm.trans (h m hm)

/-- Who might go on is an ingest, a worker or the dispatcher, so standing still can be checked. -/
theorem isStill_of_check (hu : p.unread = []) (hr : p.readings = [])
    (hi : ∀ n < p.ingests.length,
      p.perform site (.bring n) = none ∧ p.perform site (.notice n) = none)
    (hw : ∀ w ∈ p.crew.workers, p.crew.advance w = none) (hs : p.crew.step .takeSlot = none)
    (ht : p.crew.step .takeTask = none) (hstop : p.crew.step .stop = none)
    (hdrop : p.crew.isCancelled = false ∨ p.crew.workers = []) : p.IsStill site := by
  intro m hm
  rw [perform_of_idle hu hr]
  cases m with
  | bring n =>
      rcases Nat.lt_or_ge n p.ingests.length with hn | hn
      · exact (hi n hn).1
      · simp only [perform, List.getElem?_eq_none hn]
  | notice n =>
      rcases Nat.lt_or_ge n p.ingests.length with hn | hn
      · exact (hi n hn).2
      · simp only [perform, List.getElem?_eq_none hn]
  | read r => simp [perform, hu]
  | display r => simp [perform, hr]
  | crew m =>
      cases m with
      | takeSlot => simp only [perform, carry, hs, Option.map_none]
      | takeTask => simp only [perform, carry, ht, Option.map_none]
      | work n =>
          cases hw? : p.crew.worker? n with
          | none => simp only [perform, hw?, Option.bind_none]
          | some w =>
              have hnone := hw w (Crew.worker?_eq_some hw?).1
              simp only [perform, carry, hw?, Option.bind_some, heed_frame, Crew.step, hnone,
                Option.map_none]
      | stop => simp only [perform, carry, hstop, Option.map_none]
      | abandon n =>
          cases hw? : p.crew.worker? n with
          | none => simp only [perform, hw?, Option.bind_none]
          | some w =>
              rcases hdrop with hopen | hnone
              · simp [perform, carry, hw?, drop, Crew.step, hopen]
              · simp [Crew.worker?, hnone] at hw?
      | _ => cases hm
  | _ => cases hm

theorem advance_of_still (h : p.IsStill site) (hg : Watched s p.crew p.ledger) {w : Worker}
    (hw : w ∈ p.crew.workers) : p.crew.advance w = none := by
  have hnone := perform_of_still h (m := .crew (.work w.number)) rfl
  have hw? := Crew.worker?_of_mem hg.tracks.nodup hw
  simp only [perform, hw?, Option.bind_some, Option.map_eq_none_iff, carry, (heed_frame p site w).1,
    Crew.step] at hnone
  exact hnone

theorem released_of_still (h : p.IsStill site) (ha : p.Awaited) : p.crew.released = [] := by
  refine List.eq_nil_iff_forall_not_mem.mpr fun n hn => ?_
  obtain ⟨w, hw⟩ := (ha.queueing n).mp (List.mem_append_left _ hn)
  have hnone := perform_of_still h (m := .notice n) rfl
  simp [perform, hw, carry, setIngest, pay, Crew.step, hn] at hnone

/-! ## The accounts -/

/-- What the counters say in every state: of the polls that were begun, and of the tasks that were
rejected. -/
structure Accounts (p : Plant) : Prop where
  polls : p.total .polls = p.total .completions + p.total .vanished + p.total .deadLettered +
    p.total .requeues + p.crew.begun
  /-- A worker counts that a task is rejected before it counts it as a dead letter. -/
  rejected : p.total .rejected = p.ledger.rejected.length + p.crew.rejecting
  rejected_le : p.total .rejected ≤ p.total .deadLettered + p.crew.rejecting

/-- What counters and gauges say when nothing can go on, after the moves `ms` from `start`. -/
structure AccountsAtRest (p start : Plant) (site : Site) (ms : List Move) : Prop where
  ingested : p.total .datasetsIngested = p.total .completions + p.total .vanished +
    p.total .deadLettered + p.crew.line.length + p.crew.workers.length
  finished : p.total .datasetsIngested + p.total .datasetsFailed =
    p.ingests.countP Ingest.isFinished
  rejected : p.total .rejected = p.ledger.rejected.length
  rejected_le : p.total .rejected ≤ p.total .deadLettered
  busy : p.busyWorkers = p.crew.workers.length
  /-- The depth that is shown is one that the line has had. -/
  seen : ∃ q, start.Passes site ms q ∧ p.queueDepth = q.crew.line.length
  depth : start.changesClear site true ms → p.queueDepth = p.crew.line.length

theorem Scripted.total_eq (h : p.Scripted) {k : Metrics.Counter} (hk : k.isOfCrew) :
    p.total k = p.crew.tally k := by
  rw [total, h.crew k hk, Nat.zero_add]

theorem total_eq_of_watched (h : Watched s p.crew p.ledger) {k : Metrics.Counter}
    (hk : k.isOfCrew = false) : p.total k = p.tally k := by
  rw [total, h.tally_eq_zero hk, Nat.add_zero]

theorem Metered.accounts (h : Metered s p) (hopen : p.crew.isCancelled = false) : p.Accounts := by
  obtain ⟨hbooked, _⟩ := h.running hopen
  have hbegun := hbooked.begun
  have hrejected : p.crew.tally .rejected = p.ledger.rejections + p.crew.rejecting := h.rejections
  refine ⟨?_, ?_, ?_⟩
  · rw [total_eq_of_watched h.watched rfl, h.scripted.total_eq rfl, h.scripted.total_eq rfl,
      h.scripted.total_eq rfl, h.scripted.total_eq rfl]
    exact hbegun.symm
  · rw [h.scripted.total_eq rfl, hrejected, h.watched.length_rejected]
  · rw [h.scripted.total_eq rfl, h.scripted.total_eq rfl, hrejected]
    exact Nat.add_le_add_right h.watched.rejections_le _

theorem accountsAtRest_of_run {epoch : Millis} {ms : List Move}
    (hr : (Plant.new s epoch).run site ms = some p) (hopen : p.crew.isCancelled = false)
    (hstill : p.IsStill site) : p.AccountsAtRest (.new s epoch) site ms := by
  have h := (Metered.new s epoch).along hr
  obtain ⟨hbooked, hstaffed⟩ := h.running hopen
  have hreleased := released_of_still hstill h.awaited
  have hwaits := fun w hw => Crew.waits_of_advance (advance_of_still hstill h.watched (w := w) hw)
  have htasks : (p.crew.workers.countP fun w => w.phase.hasTask) = p.crew.workers.length :=
    List.countP_eq_length.mpr fun w hw => (hwaits w hw).1
  have hhired : (p.crew.workers.countP fun w => w.phase = .hired) = 0 :=
    List.countP_eq_zero.mpr fun w hw => by simpa using (hwaits w hw).2.1
  have hrejecting : p.crew.rejecting = 0 :=
    List.countP_eq_zero.mpr fun w hw => by simp [(hwaits w hw).2.2.1]
  have haccounts := h.accounts hopen
  refine ⟨?_, ?_, ?_, ?_, ?_, ?_, fun hclear => ?_⟩
  · have hentered := hbooked.entered
    rw [hreleased, List.length_nil, Nat.add_zero, Crew.unfinished, htasks] at hentered
    rw [total_eq_of_watched h.watched rfl, h.scripted.total_eq rfl, h.scripted.total_eq rfl,
      h.scripted.total_eq rfl, ← hentered, ← Nat.add_assoc]
    rfl
  · rw [total_eq_of_watched h.watched rfl, total_eq_of_watched h.watched rfl]
    exact h.scripted.finished
  · rw [haccounts.rejected, hrejecting, Nat.add_zero]
  · have hle := haccounts.rejected_le
    rwa [hrejecting, Nat.add_zero] at hle
  · have hbusy : p.busyWorkers + _ = p.crew.workers.length := hstaffed
    rwa [hhired, Nat.add_zero] at hbusy
  · rcases depths_along hr (List.mem_cons_self ..) with hd | ⟨q, hq, hlen⟩
    · exact ⟨_, ⟨[], List.nil_prefix, rfl⟩, List.mem_singleton.mp hd⟩
    · exact ⟨q, hq, hlen.symm⟩
  · exact (fresh_along (.new s epoch) (fun _ => .new s epoch) hr hopen hclear).shown
      (unread_of_still hstill) (readings_of_still hstill)

end Plant

variable {s : Settings} {epoch : Millis} {site : Site} {ms : List Plant.Move} {p : Plant}

/-- Whatever the plant has done before it is told to stop, and whatever it has been replied, its counters
account for every poll; and when nothing can go on, also for every task, and the gauges are right. -/
theorem accounts_of_run (hr : (Plant.new s epoch).run site ms = some p)
    (hopen : p.crew.isCancelled = false) :
    p.Accounts ∧ (p.IsStill site → p.AccountsAtRest (.new s epoch) site ms) :=
  ⟨((Plant.Metered.new s epoch).along hr).accounts hopen, Plant.accountsAtRest_of_run hr hopen⟩

/-- Everything is granted, but for what is to be stored, and no transformation is done. -/
def replies (stored : Except Store.Fault Unit) : (c : Call) → c.Reply
  | .store .. | .delete _ | .setStatus .. => stored
  | .retrieve key => .error (.notFound key)
  | .status _ => .ok .staged
  | .submit _ => .ok "/job"
  | .poll _ => .inProgress
  | .discard _ | .enqueue .. => .ok ()
  | .fetch _ => .ok ⟨"application/xml", []⟩
  | .index .. => .success
  | .freshName => "a"
  | .report _ | .count _ => ()
  | .deadLetters | .metrics => []

def shows (r : Reader) : List Plant.Move := [.read r, .display r]

/-- An ingest brings its task to the line. -/
def brings (n : Nat) : List Plant.Move :=
  let upload : Service.Submission := ⟨1, "image/tiff", [0], none, 1, [0]⟩
  .ingest upload :: List.replicate 4 (.reply n (replies (.ok ()))) ++ [.bring n]

/-- One ingest fails and one brings a task, which goes back into the line after its first poll and rests
with the next worker. -/
def meteredRun : List Plant.Move :=
  let refused := replies (.error (.device (.other "disk full")))
  brings 0 ++ shows (.party (.producer 0)) ++ [.notice 0, .ingest ⟨1, "image/tiff", [0], none, 1, [0]⟩,
    .reply 1 refused, .reply 1 refused, .crew .start, .crew .takeSlot, .crew .takeTask] ++
    shows .dispatcher ++ [.crew (.work 0), .answer 0 (replies (.ok ())), .crew (.work 0),
    .crew (.work 0), .crew (.work 0)] ++ shows (.party (.worker 0)) ++ [.crew (.work 0),
    .crew (.work 0), .crew (.work 0), .crew .takeSlot, .crew .takeTask] ++ shows .dispatcher ++
    [.crew (.work 1)]

theorem accounts_meteredRun :
    ∃ p, (Plant.new ⟨1, 1, ⟨5, .attempts 3⟩, 1⟩ 0).run ⟨"http://host"⟩ meteredRun = some p ∧
      p.crew.isCancelled = false ∧ p.IsStill ⟨"http://host"⟩ ∧ p.total .requeues = 1 ∧
      p.total .datasetsFailed = 1 ∧
      (Plant.new ⟨1, 1, ⟨5, .attempts 3⟩, 1⟩ 0).changesClear ⟨"http://host"⟩ true meteredRun ∧
      p.Accounts ∧
      p.AccountsAtRest (.new ⟨1, 1, ⟨5, .attempts 3⟩, 1⟩ 0) ⟨"http://host"⟩ meteredRun := by
  obtain ⟨p, hr, hopen, hstill, hrequeues, hfailed⟩ : ∃ p,
      (Plant.new ⟨1, 1, ⟨5, .attempts 3⟩, 1⟩ 0).run ⟨"http://host"⟩ meteredRun = some p ∧
        p.crew.isCancelled = false ∧ p.IsStill ⟨"http://host"⟩ ∧ p.total .requeues = 1 ∧
        p.total .datasetsFailed = 1 :=
    ⟨_, rfl, rfl, Plant.isStill_of_check rfl rfl (by decide) (by decide) rfl rfl rfl (.inl rfl), rfl,
      rfl⟩
  obtain ⟨haccounts, hrest⟩ := accounts_of_run hr hopen
  exact ⟨p, hr, hopen, hstill, hrequeues, hfailed, rfl, haccounts, hrest hstill⟩

/-- The ingest reads the depth before the dispatcher takes its task, and shows it after the dispatcher has
shown its own. -/
def racedRun : List Plant.Move :=
  brings 0 ++ [.read (.party (.producer 0)), .crew .start, .crew .takeSlot, .crew .takeTask] ++
    shows .dispatcher ++ [.display (.party (.producer 0)), .notice 0, .crew (.work 0)]

/-- The index service refuses a product; that the task is rejected has been counted, and that it is given
up has not. -/
def refusedRun : List Plant.Move :=
  let refusing : (c : Call) → c.Reply
    | .poll _ => .done []
    | .index .. => .badRequest "no such catalogue"
    | c => replies (.ok ()) c
  brings 0 ++ shows (.party (.producer 0)) ++
    [.notice 0, .crew .start, .crew .takeSlot, .crew .takeTask] ++ shows .dispatcher ++
    [.crew (.work 0)] ++ List.replicate 5 (.answer 0 refusing) ++ [.crew (.work 0)]

/-- When nothing can go on the depth that is shown may be one that the line had before, and a task may be
counted as rejected before it is counted as a dead letter. -/
theorem strays_racedRun :
    (∃ p, (Plant.new ⟨1, 1, ⟨5, .attempts 3⟩, 1⟩ 0).run ⟨"http://host"⟩ racedRun = some p ∧
      p.crew.isCancelled = false ∧ p.IsStill ⟨"http://host"⟩ ∧
      p.queueDepth ≠ p.crew.line.length) ∧
    ∃ p, (Plant.new ⟨1, 1, ⟨5, .attempts 3⟩, 1⟩ 0).run ⟨"http://host"⟩ refusedRun = some p ∧
      p.crew.isCancelled = false ∧ p.total .rejected ≠ p.ledger.rejected.length ∧
      p.total .deadLettered < p.total .rejected :=
  ⟨⟨_, rfl, rfl, Plant.isStill_of_check rfl rfl (by decide) (by decide) rfl rfl rfl (.inl rfl),
    by decide⟩, _, rfl, rfl, by decide, by decide⟩

end Intake.Poll
