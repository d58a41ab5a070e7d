import Intake.Proofs.Poll.Accounts

/-!
# Who is left behind

A plant that is told to stop comes to rest with no dispatcher and no worker. Its line stays open, so an
ingest that has found the line full waits on, and there is nobody to make room for it.
-/

namespace Intake.Poll

open Service (Call Work Site)

namespace Crew

variable {c c' : Crew} {m : Move}

/-- The producers that wait for room, first to come first. -/
def blocked (c : Crew) : List Nat := c.line.senders.filterMap fun s => s.1.producer?

theorem blocked_of_eq (h : c'.blocked = c.blocked) : c.blocked <+: c'.blocked :=
  ⟨[], (List.append_nil _).trans h.symm⟩

/-- Nobody who waits for room is let in once the dispatcher has stopped. -/
theorem blocked_step (h : c.step m = some c') (hd : c.dispatcher = .stopped) :
    c'.dispatcher = .stopped ∧ c.blocked <+: c'.blocked := by
  cases makes_of_step h with
  | @send n t =>
      refine ⟨hd, ?_⟩
      cases ho : c.line.offer t with
      | some l =>
          rw [Line.send_of_offer ho]
          exact blocked_of_eq (congrArg (List.filterMap _) (Line.offer_items ho).2)
      | none =>
          rw [Line.send_of_full ho, blocked, blocked, List.filterMap_append]
          exact List.prefix_append ..
  | offer ho => exact ⟨hd, blocked_of_eq (congrArg (List.filterMap _) (Line.offer_items ho).2)⟩
  | start hidle => cases hd.symm.trans hidle
  | takeSlot hseeking => cases hd.symm.trans hseeking
  | takeTask hholding => cases hd.symm.trans hholding
  | work _ ha => exact ⟨(frame_act ha).dispatcher.trans hd, blocked_of_eq (producers_act ha)⟩
  | stop _ hseeking => cases hd.symm.trans hseeking
  | stopHolding _ hholding => cases hd.symm.trans hholding
  | abandon => exact ⟨hd, blocked_of_eq (producers_withdraw _ _)⟩
  | abandonHolding => exact ⟨hd, blocked_of_eq (producers_withdraw _ _)⟩
  | _ => exact ⟨hd, List.prefix_refl _⟩

end Crew

namespace Plant

variable {p p' q : Plant} {site : Site} {m : Move} {ms : List Move} {s : Settings} {epoch : Millis}

/-- What every move of a crew keeps is kept along a run of a plant. -/
theorem crew_along (P : Crew → Prop)
    (hstep : ∀ {c c' : Crew} {cm : Crew.Move}, P c → c.step cm = some c' → P c') (h : P p.crew)
    (hr : p.run site ms = some p') : P p'.crew := by
  induction ms generalizing p with
  | nil =>
      cases hr
      exact h
  | cons m ms ih =>
      obtain ⟨p₁, hm, hr⟩ := Option.bind_eq_some_iff.mp hr
      refine ih ?_ hr
      rcases crew_of_makes (makes_of_step hm) with ⟨hsame, _⟩ | ⟨cm, hcm, _⟩
      · exact hsame ▸ h
      · exact hstep h hcm

theorem line_of_run (hr : (Plant.new s epoch).run site ms = some p) :
    p.crew.line.IsTight (max s.queueCapacity 1) :=
  crew_along (fun c => c.line.IsTight (max s.queueCapacity 1)) (fun h hcm => h.turn (Crew.turn_step hcm))
    (Crew.Balanced.new s epoch).line hr

theorem blocked_along (hd : p.crew.dispatcher = .stopped) (hr : p.run site ms = some p') :
    p.crew.blocked <+: p'.crew.blocked := by
  refine (crew_along (fun c => c.dispatcher = .stopped ∧ p.crew.blocked <+: c.blocked) (fun h hcm => ?_)
    ⟨hd, List.prefix_refl _⟩ hr).2
  obtain ⟨hstopped, hblocked⟩ := Crew.blocked_step hcm h.1
  exact ⟨hstopped, h.2.trans hblocked⟩

/-! ## At rest -/

theorem dispatcher_of_still (h : p.IsStill site) (hc : p.crew.isCancelled)
    (hd : p.crew.dispatcher ≠ .idle) : p.crew.dispatcher = .stopped := by
  have hnone := perform_of_still h (m := .crew .stop) rfl
  simp only [perform, carry, Option.map_eq_none_iff, Crew.step, hc, true_and] at hnone
  cases hp : p.crew.dispatcher with
  | idle => exact absurd hp hd
  | stopped => rfl
  | seekingSlot => simp [hp] at hnone
  | holdingSlot => simp [hp] at hnone

/-- Who has to wait for something is dropped when the plant is told to stop. -/
theorem workers_of_still (h : p.IsStill site) (hg : Watched s p.crew p.ledger)
    (hc : p.crew.isCancelled) : p.crew.workers = [] := by
  refine List.eq_nil_iff_forall_not_mem.mpr fun w hw => ?_
  have hwaits := (Crew.waits_of_advance (advance_of_still h hg hw)).2.2.2
  have hnone := perform_of_still h (m := .crew (.abandon w.number)) rfl
  have hw? := Crew.worker?_of_mem hg.tracks.nodup hw
  simp [perform, carry, hw?, drop, Crew.step, hc, hwaits] at hnone

/-- What a plant has come to that was told to stop. -/
structure Rests (s : Settings) (site : Site) (p : Plant) : Prop where
  dispatcher : p.crew.dispatcher = .stopped
  workers : p.crew.workers = []
  /-- The ingests that are with the line are those that wait for room. -/
  waiting : ∀ n, (∃ w, p.ingests[n]? = some (.queueing w)) ↔ n ∈ p.crew.blocked
  full : p.crew.blocked ≠ [] → p.crew.line.length = max s.queueCapacity 1
  /-- Whatever comes later, they wait on. -/
  forever : ∀ later q, p.run site later = some q →
    ∀ n ∈ p.crew.blocked, n ∈ q.crew.blocked ∧ ∃ w, q.ingests[n]? = some (.queueing w)

/-- However a plant has come to be told to stop, once nothing can go on the ingests that have found the
line full are left there for good. -/
theorem rests_of_run (hr : (Plant.new s epoch).run site ms = some p) (hc : p.crew.isCancelled)
    (hd : p.crew.dispatcher ≠ .idle) (hstill : p.IsStill site) : p.Rests s site := by
  have hmetered := (Metered.new s epoch).along hr
  have hstopped := dispatcher_of_still hstill hc hd
  have hpending : p.crew.pending = p.crew.blocked :=
    congrArg (· ++ p.crew.blocked) (released_of_still hstill hmetered.awaited)
  refine ⟨hstopped, workers_of_still hstill hmetered.watched hc, fun n => ?_, fun hne => ?_,
    fun later q hq n hn => ?_⟩
  · rw [← hpending, hmetered.awaited.queueing]
  · refine (line_of_run hr).full fun hnil => hne ?_
    rw [Crew.blocked, hnil]
    rfl
  · have hblocked := (blocked_along hstopped hq).subset hn
    exact ⟨hblocked, ((hmetered.along hq).awaited.queueing n).mp (List.mem_append_right _ hblocked)⟩

end Plant

/-- Three ingests bring their tasks: one is polled, one is in the line, and the third waits for room when
the plant is told to stop. -/
def haltedRun : List Plant.Move :=
  brings 0 ++ shows (.party (.producer 0)) ++
    [.notice 0, .crew .start, .crew .takeSlot, .crew .takeTask] ++ shows .dispatcher ++
    [.crew (.work 0)] ++ brings 1 ++ shows (.party (.producer 1)) ++ [.notice 1] ++ brings 2 ++
    [.crew .cancel, .crew (.abandon 0), .crew (.work 0), .crew .stop]

theorem rests_haltedRun :
    ∃ p, (Plant.new ⟨1, 1, ⟨5, .attempts 3⟩, 1⟩ 0).run ⟨"http://host"⟩ haltedRun = some p ∧
      p.crew.isCancelled ∧ p.crew.dispatcher ≠ .idle ∧ p.IsStill ⟨"http://host"⟩ ∧
      p.crew.blocked = [2] ∧ p.Rests ⟨1, 1, ⟨5, .attempts 3⟩, 1⟩ ⟨"http://host"⟩ := by
  obtain ⟨p, hr, hc, hd, hstill, hblocked⟩ : ∃ p,
      (Plant.new ⟨1, 1, ⟨5, .attempts 3⟩, 1⟩ 0).run ⟨"http://host"⟩ haltedRun = some p ∧
        p.crew.isCancelled ∧ p.crew.dispatcher ≠ .idle ∧ p.IsStill ⟨"http://host"⟩ ∧
        p.crew.blocked = [2] :=
    ⟨_, rfl, rfl, by decide,
      Plant.isStill_of_check rfl rfl (by decide) (by decide) rfl rfl rfl (.inr rfl), rfl⟩
  exact ⟨p, hr, hc, hd, hstill, hblocked, Plant.rests_of_run hr hc hd hstill⟩

end Intake.Poll
