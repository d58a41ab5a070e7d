import Intake.Proofs.Poll.Slots

/-!
# Moves in numbers

What the moves of a crew change in how many workers there are in each phase, how many tasks are in the
line, and what has been counted.
-/

namespace Intake.Poll

namespace Crew

def phases (c : Crew) : List Phase := c.workers.map Worker.phase

theorem countP_phases (c : Crew) (q : Phase → Bool) :
    c.phases.countP q = c.workers.countP fun w => q w.phase :=
  List.countP_map ..

/-- From `c` to `c'` the phases `out` have been left for the phases `into`; `entered` tasks have come
into the line, `left` have been taken from it, and `ks` have been counted. -/
structure Turns (c c' : Crew) (out into : List Phase) (entered left : Nat) (ks : List Metrics.Counter) :
    Prop where
  phases : (out ++ c'.phases).Perm (into ++ c.phases)
  length : c'.line.length + left = c.line.length + entered
  tally : ∀ k, c'.tally k = c.tally k + ks.count k

variable {c c' : Crew} {w u : Worker} {s : Settings} {g : Ledger} {out into : List Phase}
  {entered left : Nat} {ks : List Metrics.Counter}

theorem Turns.refl (c : Crew) : Turns c c [] [] 0 0 [] := ⟨.refl _, rfl, fun _ => rfl⟩

theorem Turns.countP_eq (h : Turns c c' out into entered left ks) (q : Phase → Bool) :
    out.countP q + (c'.workers.countP fun w => q w.phase) =
      into.countP q + c.workers.countP fun w => q w.phase := by
  rw [← countP_phases, ← countP_phases, ← List.countP_append, ← List.countP_append,
    h.phases.countP_eq]

theorem Turns.length_eq (h : Turns c c' out into entered left ks) :
    out.length + c'.workers.length = into.length + c.workers.length := by
  have := h.phases.length_eq
  rwa [List.length_append, List.length_append, Crew.phases, Crew.phases, List.length_map,
    List.length_map] at this

/-! ## A worker moves on -/

theorem phases_put (hd : (c.workers.map Worker.number).Nodup) (hw : w ∈ c.workers)
    (hn : u.number = w.number) : (w.phase :: (c.put u).phases).Perm (u.phase :: c.phases) := by
  obtain ⟨rest, hperm, hput, _⟩ := split hd hw
  have hc : c.phases.Perm (w.phase :: rest.map Worker.phase) := hperm.map Worker.phase
  have hu : (c.put u).phases.Perm (u.phase :: rest.map Worker.phase) :=
    (hput u hn).map Worker.phase
  exact ((hu.cons _).trans (.swap ..)).trans (hc.symm.cons _)

theorem phases_setPhase (hd : (c.workers.map Worker.number).Nodup) (hw : w ∈ c.workers) (p : Phase) :
    (w.phase :: (c.setPhase w p).phases).Perm (p :: c.phases) :=
  phases_put hd hw rfl

theorem phases_dismiss (hd : (c.workers.map Worker.number).Nodup) (hw : w ∈ c.workers) :
    (w.phase :: (c.dismiss w.number).phases).Perm c.phases := by
  obtain ⟨rest, hperm, _, hrest⟩ := split hd hw
  rw [Crew.phases, hrest]
  exact (hperm.map Worker.phase).symm

theorem tally_countAll (c : Crew) (ks : List Metrics.Counter) (x : Metrics.Counter) :
    (c.countAll ks).tally x = c.tally x + ks.count x :=
  Metrics.Tally.foldl_count ks c.tally x

theorem turns_put (hd : (c.workers.map Worker.number).Nodup) (hw : w ∈ c.workers)
    (hn : u.number = w.number) : Turns c (c.put u) [w.phase] [u.phase] 0 0 [] :=
  ⟨phases_put hd hw hn, rfl, fun _ => rfl⟩

theorem turns_count (hd : (c.workers.map Worker.number).Nodup) (hw : w ∈ c.workers)
    (k : Metrics.Counter) (p : Phase) : Turns c ((c.count k).setPhase w p) [w.phase] [p] 0 0 [k] :=
  ⟨phases_setPhase (c := c.count k) hd hw p, rfl, tally_countAll c [k]⟩

/-- A worker that is dropped gives its slot back and is still there. -/
theorem turns_abandon (hd : (c.workers.map Worker.number).Nodup) (hw : w ∈ c.workers) :
    Turns c { c.setPhase w .departing with line := c.line.withdraw (.worker w.number) } [w.phase]
      [.departing] 0 0 [] :=
  ⟨phases_setPhase hd hw _, rfl, fun _ => rfl⟩

/-- Where a worker goes next, if it does not leave; what it puts into the line, and counts. -/
inductive Stride (c : Crew) (w : Worker) : List Phase → Nat → List Metrics.Counter → Prop
  | begin (hp : w.phase = .hired) (hr : w.task.readyIn c.now = 0) : Stride c w [.polling] 0 []
  | rest {till : Millis} (hp : w.phase = .hired) (hr : w.task.readyIn c.now ≠ 0) :
      Stride c w [.resting till] 0 []
  | wake {till : Millis} (hp : w.phase = .resting till) : Stride c w [.polling] 0 []
  | renew {o : Outcome} (hp : w.phase = .answered o) : Stride c w [.judging o] 0 o.counts
  | settle {o : Outcome} {d : Decision} (hp : w.phase = .answered o ∨ w.phase = .judging o)
      (hd : d.isFinal) : Stride c w [.leaving d.disposition] 0 d.counts
  | putBack {o : Outcome} (hp : w.phase = .answered o ∨ w.phase = .judging o) :
      Stride c w [.returning] 0 []
  | putIn (hp : w.phase = .returning) (ho : (c.line.offer w.task).isSome) :
      Stride c w [.returned] 1 []
  | tell (hp : w.phase = .returned) : Stride c w [.leaving .requeued] 0 [.requeues]
  | refuse (hp : w.phase = .returning) : Stride c w [.refused] 0 []
  | stepAside (hp : w.phase = .refused) : Stride c w [.aside] 0 [.queueOverflow]
  | enter (hp : w.phase = .aside) : Stride c w [.admitted] 1 []
  | block (hp : w.phase = .aside) : Stride c w [.blocked] 0 []
  | follow (hp : w.phase = .admitted) : Stride c w [.departing] 0 [.requeues]
  | leave {d : Disposition} (hp : w.phase = .leaving d) : Stride c w [.departing] 0 []
  | depart (hp : w.phase = .departing) : Stride c w [] 0 []

theorem stride_conclude (hd : (c.workers.map Worker.number).Nodup) (hw : w ∈ c.workers)
    {o : Outcome} (hp : w.phase = .answered o ∨ w.phase = .judging o) (d : Decision) :
    ∃ next, Stride c w next 0 d.counts ∧
      Turns c (c.conclude w d) [w.phase] next 0 0 d.counts := by
  have htally : ∀ k, (c.record w.task d).tally k = c.tally k + d.counts.count k :=
    Metrics.Tally.foldl_count _ _
  cases hfinal : d.isFinal with
  | true =>
      rw [conclude_of_isFinal hfinal]
      exact ⟨_, .settle hp hfinal, phases_setPhase (c := c.record w.task d) hd hw _, rfl, htally⟩
  | false =>
      obtain ⟨t, rfl⟩ : ∃ t, d = .putBack t := by
        cases d with
        | putBack t => exact ⟨t, rfl⟩
        | _ => cases hfinal
      exact ⟨_, .putBack hp, phases_setPhase (c := c.record w.task _) hd hw _, rfl, htally⟩

theorem stride_of_act (hd : (c.workers.map Worker.number).Nodup) (hw : w ∈ c.workers)
    (h : c.Act w c') :
    ∃ next entered ks, Stride c w next entered ks ∧ Turns c c' [w.phase] next entered 0 ks := by
  cases h with
  | begin hp hr => exact ⟨_, _, _, .begin hp hr, turns_put hd hw rfl⟩
  | rest hp hr => exact ⟨_, _, _, .rest hp hr, turns_put hd hw rfl⟩
  | wake hp => exact ⟨_, _, _, .wake hp, turns_put hd hw rfl⟩
  | conclude hp => exact (stride_conclude hd hw (.inl hp) _).imp fun _ h => ⟨_, _, h⟩
  | @renew o hp =>
      exact ⟨_, _, _, .renew hp, phases_put (c := c.countAll o.counts) hd hw rfl, rfl,
        tally_countAll c o.counts⟩
  | judge hp => exact (stride_conclude hd hw (.inr hp) _).imp fun _ h => ⟨_, _, h⟩
  | @putIn l hp ho =>
      exact ⟨_, _, _, .putIn hp (by rw [ho]; rfl),
        phases_setPhase (c := { c with line := l }) hd hw _, Line.length_offer ho, fun _ => rfl⟩
  | tell hp => exact ⟨_, _, _, .tell hp, turns_count hd hw _ _⟩
  | refuse hp => exact ⟨_, _, _, .refuse hp, turns_put hd hw rfl⟩
  | stepAside hp =>
      obtain ⟨hphases, hline, htally⟩ := turns_count hd hw .queueOverflow .aside
      exact ⟨_, _, _, .stepAside hp, hphases, hline, htally⟩
  | send hp =>
      have hphases := fun l => phases_setPhase (c := { c with line := l }) hd hw
      cases ho : c.line.offer w.task with
      | some l =>
          rw [Line.send_of_offer ho]
          exact ⟨_, _, _, .enter hp, hphases l _, Line.length_offer ho, fun _ => rfl⟩
      | none =>
          rw [Line.send_of_full ho]
          exact ⟨_, _, _, .block hp, hphases _ _, rfl, fun _ => rfl⟩
  | follow hp => exact ⟨_, _, _, .follow hp, turns_count hd hw _ _⟩
  | leave hp => exact ⟨_, _, _, .leave hp, phases_setPhase hd hw _, rfl, fun _ => rfl⟩
  | depart hp => exact ⟨_, _, _, .depart hp, phases_dismiss hd hw, rfl, fun _ => rfl⟩

/-! ## A worker is hired -/

/-- Whoever is let in, the task that was taken has left the line; then a worker that was blocked may
have been admitted, or a producer be told. -/
inductive Hires (c c' : Crew) : Prop
  | alone (h : Turns c c' [] [.hired] 0 1 []) (released : c'.released = c.released)
      (senders : c'.line.senders = c.line.senders)
  | producer {n : Nat} {t : Task} (h : Turns c c' [] [.hired] 0 0 [])
      (released : c'.released = c.released ++ [n])
      (senders : c.line.senders = (.producer n, t) :: c'.line.senders)
  | worker {n : Nat} {t : Task} (h : Turns c c' [.blocked] [.hired, .admitted] 0 0 [])
      (released : c'.released = c.released)
      (senders : c.line.senders = (.worker n, t) :: c'.line.senders)

theorem hires_of_takeTask (h : Watched s c g) {t : Line.Taken Party Task}
    (ht : c.line.take? = some t) : Hires c ((c.hire t).letIn t.admitted) := by
  have hhired : (c.hire t).phases.Perm (.hired :: c.phases) := by
    simp only [Crew.phases, hire, List.map_append, List.map_cons, List.map_nil]
    exact List.perm_append_singleton _ _
  obtain ⟨rest, hi, ⟨hnone, hitems, hsenders⟩ | ⟨who, b, others, hs, hsome, hitems, hsenders⟩⟩ :=
    Line.take?_eq_some ht
  · rw [hnone]
    refine .alone ⟨hhired, ?_, fun _ => rfl⟩ rfl hsenders
    show t.line.items.length + 1 = c.line.items.length
    rw [hitems, hi, List.length_cons]
  · have hlength : t.line.items.length = c.line.items.length := by
      rw [hitems, hi, List.length_append, List.length_singleton, List.length_cons]
    have hsenders : c.line.senders = (who, b) :: t.line.senders := by rw [hs, hsenders]
    rw [hsome]
    cases who with
    | producer n => exact .producer ⟨hhired, hlength, fun _ => rfl⟩ rfl hsenders
    | worker n =>
        -- Who waits for room is blocked.
        have hmem : (⟨n, b, .blocked⟩ : Worker) ∈ (c.hire t).workers :=
          List.mem_append_left _ (h.tracks.blocked_of_sender (by simp [hs]))
        have hd := nodup_hire h t
        have hletIn : (c.hire t).letIn (some (.worker n)) =
            (c.hire t).setPhase ⟨n, b, .blocked⟩ .admitted := by
          rw [letIn, worker?_of_mem hd hmem]
          rfl
        rw [hletIn]
        refine .worker ⟨?_, hlength, fun _ => rfl⟩ rfl hsenders
        exact (phases_put (u := ⟨n, b, .admitted⟩) hd hmem rfl).trans
          ((hhired.cons _).trans (.swap ..))

end Crew
end Intake.Poll
