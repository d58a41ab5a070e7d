import Intake.Proofs.Poll.Bookkeeping
import Mathlib.Data.List.Count

/-!
# What the gauges show

The number of those at work is counted up and down, so it is right once everyone has come to work. The
depth of the line is shown by whoever has changed it, some time after that, so it is a depth that the
line has had at some time. It is the one that the line has, unless someone had read another when the line
last became longer or shorter, and showed it later.
-/

namespace Intake.Poll

open Service (Site)

namespace Crew

variable {c c' : Crew} {w : Worker} {s : Settings} {g : Ledger} {m : Move}

theorem length_conclude (c : Crew) (w : Worker) (d : Decision) :
    (c.conclude w d).line.length = c.line.length := by
  cases d <;> rfl

theorem length_act (h : c.Act w c') (henters : c.enters w = false) :
    c'.line.length = c.line.length := by
  cases h with
  | conclude => exact length_conclude c w _
  | judge => exact length_conclude c w _
  | putIn hp ho => simp [enters, hp, ho] at henters
  | send hp =>
      have hfull : c.line.offer w.task = none := by simpa [enters, hp] using henters
      rw [Line.send_of_full hfull]
      rfl
  | _ => rfl

/-- Whoever makes the line longer or shorter goes on to show its depth. -/
theorem length_step (hg : Watched s c g) (h : c.step m = some c') (hoffer : ∀ t, m ≠ .offer t)
    (hnone : c.readers m = []) : c'.line.length = c.line.length := by
  cases makes_of_step h with
  | @send n t =>
      have hfull : c.line.offer t = none := by simpa [readers] using hnone
      rw [Line.send_of_full hfull]
      rfl
  | offer => exact absurd rfl (hoffer _)
  | takeTask => cases hnone
  | work hw ha =>
      refine length_act ha ?_
      simpa [readers, worker?_of_mem hg.tracks.nodup hw] using hnone
  | _ => rfl

end Crew

namespace Plant

variable {p p' q : Plant} {site : Site} {m : Move} {ms : List Move} {s : Settings}
  {epoch : Millis}

/-! ## Those at work -/

/-- All workers are at work but for those who have yet to come. -/
def Staffed (p : Plant) : Prop :=
  p.busyWorkers + (p.crew.workers.countP fun w => w.phase = .hired) = p.crew.workers.length

namespace Staffed

theorem busy_pos (h : p.Staffed) {w : Worker} (hw : w ∈ p.crew.workers) (hp : w.phase ≠ .hired) :
    0 < p.busyWorkers := by
  have hlt : (p.crew.workers.countP fun w => w.phase = .hired) < p.crew.workers.length :=
    List.countP_lt_length_iff.mpr ⟨w, hw, decide_eq_false hp⟩
  unfold Staffed at h
  omega

theorem turns {out into : List Phase} {entered left : Nat} {ks : List Metrics.Counter}
    (h : p.Staffed) (ht : p.crew.Turns p'.crew out into entered left ks)
    (hbusy : p'.busyWorkers + out.length + (into.countP fun p => p = .hired) =
      p.busyWorkers + into.length + (out.countP fun p => p = .hired)) : p'.Staffed := by
  have hhired := ht.countP_eq fun p => p = .hired
  have hstaff := ht.length_eq
  unfold Staffed at h ⊢
  omega

theorem step (h : p.Staffed) (hg : Watched s p.crew p.ledger) (hm : p.Makes site m p')
    (hopen : p'.crew.isCancelled = false) : p'.Staffed := by
  cases hm with
  | bring _ hstep =>
      obtain ⟨brought, ht, _⟩ := Crew.turns_send hstep
      exact h.turns ht rfl
  | notice _ hstep => exact h.turns (Crew.turns_notice hstep).1 rfl
  | finish _ hstep => exact h.turns (Crew.turns_finish hg hstep).1 rfl
  | takeTask hstep =>
      cases Crew.hires_of_step hg hstep with
      | alone ht => exact h.turns ht rfl
      | producer ht => exact h.turns ht rfl
      | worker ht => exact h.turns ht rfl
  | @work n w c hw? hstep =>
      obtain ⟨_, next, entered, ks, hstride, ht⟩ := Crew.stride_of_work hg hw? hstep
      refine h.turns ht ?_
      exact (congrArg (· + 1 + _) (heed_gauges p site w).1).trans
        (hstride.staff (h.busy_pos (Crew.worker?_eq_some hw?).1))
  | abandon hstep => cases (Crew.isCancelled_of_abandon hstep).symm.trans hopen
  | quiet hm hstep => exact h.turns (Crew.quiet_step hm hstep).1 rfl
  | _ => exact h

end Staffed

/-! ## The depth of the line -/

/-- Nobody has read another depth than there is, and someone goes on to show it if it is not shown. -/
structure Fresh (p : Plant) : Prop where
  readings : ∀ x ∈ p.readings, x.2 = p.crew.line.length
  shown : p.unread = [] → p.readings = [] → p.queueDepth = p.crew.line.length

namespace Fresh

theorem new (s : Settings) (epoch : Millis) : Fresh (Plant.new s epoch) := ⟨nofun, fun _ _ => rfl⟩

/-- The crew makes a move. If that makes the line longer or shorter, nothing may be read and not shown. -/
theorem carry {cm : Crew.Move} (hg : Watched s p.crew p.ledger)
    (hstep : p.crew.step cm = some p'.crew) (hoffer : ∀ t, cm ≠ .offer t)
    (hunread : p'.unread = p.unread ++ p.crew.readers cm) (hreadings : p'.readings = p.readings)
    (hdepth : p'.queueDepth = p.queueDepth)
    (hsame : p'.crew.line.length = p.crew.line.length → p.Fresh)
    (hclear : p'.crew.line.length ≠ p.crew.line.length → p.readings = []) : p'.Fresh := by
  by_cases hlen : p'.crew.line.length = p.crew.line.length
  · have h := hsame hlen
    refine ⟨?_, fun hu hr => ?_⟩
    · rw [hreadings, hlen]
      exact h.readings
    · rw [hunread] at hu
      rw [hdepth, hlen]
      exact h.shown (List.append_eq_nil_iff.mp hu).1 (hreadings ▸ hr)
  · refine ⟨?_, fun hu _ => ?_⟩
    · rw [hreadings, hclear hlen]
      nofun
    · rw [hunread] at hu
      exact absurd (Crew.length_step hg hstep hoffer (List.append_eq_nil_iff.mp hu).2) hlen

theorem step (hg : Watched s p.crew p.ledger) (hm : p.Makes site m p')
    (hopen : p'.crew.isCancelled = false)
    (hsame : p'.crew.line.length = p.crew.line.length → p.Fresh)
    (hclear : p'.crew.line.length ≠ p.crew.line.length → p.readings = []) : p'.Fresh := by
  cases hm with
  | ingest => exact { hsame rfl with }
  | reply => exact { hsame rfl with }
  | answer => exact { hsame rfl with }
  | read hr =>
      refine ⟨fun x hx => ?_, fun _ hnone => absurd hnone (List.concat_ne_nil _ _)⟩
      rcases List.mem_append.mp hx with hx | hx
      · exact (hsame rfl).readings x hx
      · rw [List.mem_singleton.mp hx]
  | display hx =>
      exact ⟨fun y hy => (hsame rfl).readings y (List.mem_of_mem_erase hy),
        fun _ _ => (hsame rfl).readings _ hx⟩
  | bring _ hstep => exact carry hg hstep nofun rfl rfl rfl hsame hclear
  | notice _ hstep => exact carry hg hstep nofun rfl rfl rfl hsame hclear
  | finish _ hstep => exact carry hg hstep nofun rfl rfl rfl hsame hclear
  | takeTask hstep => exact carry hg hstep nofun rfl rfl rfl hsame hclear
  | @work n w c hw hstep =>
      obtain ⟨_, hunread, hreadings, hdepth⟩ := heed_gauges p site w
      refine carry hg hstep nofun ?_ hreadings hdepth hsame hclear
      rw [follow, (heed_frame p site w).1, hunread]
  | abandon hstep => cases (Crew.isCancelled_of_abandon hstep).symm.trans hopen
  | quiet hm hstep =>
      refine carry hg hstep ?_ rfl rfl rfl hsame hclear
      rintro t rfl
      cases hm

end Fresh

/-! ## Along a run -/

/-- A run from `p` goes through `q`. -/
def Passes (p : Plant) (site : Site) (ms : List Move) (q : Plant) : Prop :=
  ∃ before, before <+: ms ∧ p.run site before = some q

/-- Whether no depth had been read and not been shown when a run made the line longer or shorter for the
last time; if it never does, `isClear` says so. -/
def changesClear (p : Plant) (site : Site) (isClear : Bool) : List Move → Bool
  | [] => isClear
  | m :: ms => (p.step site m).elim isClear fun q =>
    q.changesClear site
      (if q.crew.line.length = p.crew.line.length then isClear else p.readings.isEmpty) ms

/-- The depths that are shown or that someone is about to show. -/
def depths (p : Plant) : List Nat := p.queueDepth :: p.readings.map Prod.snd

theorem mem_depths_of_makes (hm : p.Makes site m p') {d : Nat} (hd : d ∈ p'.depths) :
    d ∈ p.depths ∨ d = p.crew.line.length := by
  cases hm with
  | read =>
      simp only [depths, List.map_append, List.map_cons, List.map_nil, List.mem_cons,
        List.mem_append, List.not_mem_nil, or_false] at hd ⊢
      tauto
  | @display x hx =>
      refine .inl (List.mem_cons_of_mem _ ?_)
      rcases List.mem_cons.mp hd with rfl | hd
      · exact List.mem_map_of_mem hx
      · obtain ⟨y, hy, rfl⟩ := List.mem_map.mp hd
        exact List.mem_map_of_mem (List.mem_of_mem_erase hy)
  | @work n w c =>
      obtain ⟨_, _, hreadings, hdepth⟩ := heed_gauges p site w
      rw [depths, follow, hreadings, hdepth] at hd
      exact .inl hd
  | _ => exact .inl hd

theorem Passes.cons (hm : p.step site m = some p') (h : p'.Passes site ms q) :
    p.Passes site (m :: ms) q := by
  obtain ⟨before, hbefore, hr⟩ := h
  refine ⟨m :: before, List.cons_prefix_cons.mpr ⟨rfl, hbefore⟩, ?_⟩
  rw [run, hm]
  exact hr

/-- What is shown in the end was there in the beginning or has been the depth of the line since. -/
theorem depths_along (hr : p.run site ms = some p') {d : Nat} (hd : d ∈ p'.depths) :
    d ∈ p.depths ∨ ∃ q, p.Passes site ms q ∧ q.crew.line.length = d := by
  induction ms generalizing p with
  | nil =>
      cases hr
      exact .inl hd
  | cons m ms ih =>
      obtain ⟨p₁, hstep, hr⟩ := Option.bind_eq_some_iff.mp hr
      rcases ih hr with hd | ⟨q, hq, hlen⟩
      · rcases mem_depths_of_makes (makes_of_step hstep) hd with hd | rfl
        · exact .inl hd
        · exact .inr ⟨p, ⟨[], List.nil_prefix, rfl⟩, rfl⟩
      · exact .inr ⟨q, hq.cons hstep, hlen⟩

end Plant
end Intake.Poll
