import Intake.Proofs.Poll.Tracking
import Intake.Proofs.Poll.Career
import Intake.Proofs.Poll.Roster

/-!
# Keeping watch over a run

What holds of a crew and of the ledger that is kept beside it, from the first move on: the ledger
keeps in step with the crew, and the file of each task is in order.
-/

namespace Intake

/-- What a worker counts while its task has not ended. -/
def Metrics.Counter.isMidway : Metrics.Counter → Bool
  | requeues | queueOverflow | rejected => true
  | _ => false

namespace Poll

theorem Crew.conclude_of_isFinal {c : Crew} {w : Worker} {d : Decision} (h : d.isFinal) :
    c.conclude w d = (c.record w.task d).setPhase w (.leaving d.disposition) := by
  cases d with
  | putBack u => cases h
  | _ => rfl

theorem File.conclude_place {f : File} {d : Decision} (h : d.isFinal) :
    (f.conclude d).place = .ended (.settled d) := by
  simp only [conclude, h, if_true, move]

theorem Metrics.Tally.foldl_count (ks : List Metrics.Counter) (t : Metrics.Tally)
    (x : Metrics.Counter) : ks.foldl Metrics.Tally.count t x = t x + ks.count x := by
  induction ks generalizing t with
  | nil => rfl
  | cons k ks ih =>
      rw [List.foldl_cons, ih, List.count_cons]
      by_cases hx : k = x
      · simp only [Metrics.Tally.count, hx, if_true, beq_self_eq_true]
        omega
      · simp [Metrics.Tally.count, hx, Ne.symm hx]

theorem Outcome.isMidway_of_mem {o : Outcome} {k : Metrics.Counter} (h : k ∈ o.counts) :
    k.isMidway := by
  cases o <;> simp_all [counts, Metrics.Counter.isMidway]

namespace Ledger

/-- The files of a ledger are in order. -/
structure IsKept (g : Ledger) (p : Policy) (now : Millis) (isCancelled : Bool) : Prop where
  sound : ∀ k, (g.file k).Sound p now
  dropped : ∀ k, (g.file k).place = .ended .abandoned → isCancelled
  settled : ∀ k d, (k, d) ∈ g.settled ↔ (g.file k).place = .ended (.settled d)
  nodup : (g.settled.map Prod.fst).Nodup

/-- A worker that leaves for good has seen its task end that way. -/
def Attests (g : Ledger) (w : Worker) : Prop :=
  ∀ d, w.phase = .leaving d → d = .requeued ∨
    ∃ e, (g.file (g.post w.number)).place = .ended (.settled e) ∧ e.disposition = d

variable {g : Ledger} {p : Policy} {now later : Millis} {isCancelled : Bool} {k : Nat}
  {f : File → File} {w : Worker} {d : Decision}

theorem counts_conclude : (g.conclude k d).counts = g.counts ++ d.counts := by
  cases d <;> simp [counts, conclude, Decision.isFinal, Decision.counts]

theorem letters_conclude : (g.conclude k d).letters = g.letters ++ d.letter?.toList := by
  cases d <;> simp [letters, conclude, Decision.isFinal, Decision.letter?]

theorem Attests.amend (h : g.Attests w) (hk : (g.file k).place.isOver = false) :
    (g.amend k f).Attests w := by
  intro d hd
  rcases h d hd with rfl | ⟨e, he, hde⟩
  · exact Or.inl rfl
  · refine Or.inr ⟨e, ?_, hde⟩
    have hne : g.post w.number ≠ k := by
      rintro rfl
      rw [he] at hk
      cases hk
    exact (congrArg File.place (amend_file_of_ne hne)).trans he

theorem attests_of_phase (h : ∀ d, w.phase ≠ .leaving d) : g.Attests w :=
  fun d hd => absurd hd (h d)

theorem attests_of_hasTask (h : w.phase.hasTask) : g.Attests w :=
  attests_of_phase fun d hd => by rw [hd] at h; cases h

namespace IsKept

theorem mono (h : g.IsKept p now isCancelled) (hle : now ≤ later) :
    g.IsKept p later isCancelled :=
  ⟨fun k => (h.sound k).mono hle, h.dropped, h.settled, h.nodup⟩

theorem not_settled (h : g.IsKept p now isCancelled) (hk : (g.file k).place.isOver = false)
    (d : Decision) : (k, d) ∉ g.settled := by
  intro hm
  rw [(h.settled k d).mp hm] at hk
  cases hk

/-- The file of a task that has not ended changes; then `es` are the decisions that ended one. -/
theorem change (h : g.IsKept p now isCancelled) (hs : (f (g.file k)).Sound p now)
    (hdrop : (f (g.file k)).place = .ended .abandoned → isCancelled)
    (es : List (Nat × Decision)) (hes : (es.map Prod.fst).Nodup)
    (hself : ∀ d, (k, d) ∈ es ↔ (f (g.file k)).place = .ended (.settled d))
    (hothers : ∀ j d, j ≠ k → ((j, d) ∈ es ↔ (j, d) ∈ g.settled)) :
    IsKept { g.amend k f with settled := es } p now isCancelled := by
  refine ⟨fun j => ?_, fun j hj => ?_, fun j d => ?_, hes⟩ <;> by_cases he : j = k
  · subst he
    simp only [amend_file_self]
    exact hs
  · simp only [amend_file_of_ne he]
    exact h.sound j
  · subst he
    simp only [amend_file_self] at hj
    exact hdrop hj
  · simp only [amend_file_of_ne he] at hj
    exact h.dropped j hj
  · subst he
    simp only [amend_file_self]
    exact hself d
  · simp only [amend_file_of_ne he]
    exact (hothers j d he).trans (h.settled j d)

theorem amend (h : g.IsKept p now isCancelled) (hk : (g.file k).place.isOver = false)
    (hs : (f (g.file k)).Sound p now) (hf : (f (g.file k)).place.isOver = false) :
    (g.amend k f).IsKept p now isCancelled := by
  have hne : ∀ e, (f (g.file k)).place ≠ .ended e := by
    intro e he
    rw [he] at hf
    cases hf
  exact h.change hs (fun he => absurd he (hne _)) g.settled h.nodup
    (fun d => iff_of_false (h.not_settled hk d) (hne _)) fun _ _ _ => Iff.rfl

theorem conclude (h : g.IsKept p now isCancelled) (hk : (g.file k).place.isOver = false)
    (hs : ((g.file k).conclude d).Sound p now) : (g.conclude k d).IsKept p now isCancelled := by
  have hnot := h.not_settled hk
  cases hd : d.isFinal with
  | false =>
      have hplace : ((g.file k).conclude d).place = .held .returning := by
        simp only [File.conclude, hd, Bool.false_eq_true, if_false, File.move]
      have := h.amend hk hs (by rw [hplace]; rfl)
      simp only [Ledger.conclude, hd, Bool.false_eq_true, if_false]
      exact this
  | true =>
      have hplace := File.conclude_place (f := g.file k) hd
      simp only [Ledger.conclude, hd, if_true]
      refine h.change hs (by simp [hplace]) _ ?_ ?_ ?_
      · rw [List.map_append, List.nodup_append']
        refine ⟨h.nodup, List.nodup_singleton _, ?_⟩
        simp only [List.disjoint_singleton, List.map_cons, List.map_nil]
        intro hm
        obtain ⟨⟨j, e⟩, he, rfl⟩ := List.mem_map.mp hm
        exact hnot e he
      · intro e
        simp [hnot, hplace, eq_comm]
      · intro j e hj
        simp [hj]

/-- A task is dropped, which happens only after the crew was told to stop. -/
theorem abandon (h : g.IsKept p now true) (hk : (g.file k).place.isOver = false) :
    (g.amend k (.move (.ended .abandoned))).IsKept p now true :=
  h.change ((h.sound k).move (l := .ended .abandoned) trivial) (fun _ => rfl) g.settled h.nodup
    (fun d => iff_of_false (h.not_settled hk d) (by simp [File.move])) fun _ _ _ => Iff.rfl

end IsKept
end Ledger

/-- What holds of a crew with the settings `s` and of the ledger that is kept beside it. -/
structure Watched (s : Settings) (c : Crew) (g : Ledger) : Prop where
  policy : c.settings.policy = s.policy
  tracks : Tracks c.line c.workers c.hired g
  kept : g.IsKept s.policy c.now c.isCancelled
  attests : ∀ w ∈ c.workers, g.Attests w
  letters : c.letters.records <:+ g.letters
  tallied : ∀ x : Metrics.Counter, x.isMidway = false → c.tally x = g.counts.count x

namespace Watched

variable {s : Settings} {c c' : Crew} {g : Ledger} {w u : Worker} {f : File → File}

theorem new (s : Settings) (epoch : Millis) : Watched s (Crew.new s epoch) (Ledger.new s) where
  policy := rfl
  tracks := by
    refine ⟨rfl, List.nodup_nil, by simp [Crew.new], by simp [Crew.new], ?_, .refl _, ?_⟩
    · rintro k p hp
      have hne : ((Ledger.new s).file k).place ≠ p := by
        rintro rfl
        cases hp
      rw [if_neg hne]
      rfl
    · simp [Ledger.new, File.new]
  kept := by
    refine ⟨fun k => ⟨.nil, trivial, ?_, ?_⟩, ?_, ?_, List.nodup_nil⟩
    · simp [Ledger.new, File.new]
    · simp [Ledger.new, File.new]
    · simp [Ledger.new, File.new]
    · simp [Ledger.new, File.new]
  attests := by simp [Crew.new]
  letters := List.suffix_refl _
  tallied := fun _ _ => rfl

/-! ## What no ledger knows of -/

theorem freeSlot (h : Watched s c g) : Watched s c.freeSlot g := { h with }

theorem countAll {ks : List Metrics.Counter} (h : Watched s c g) (hks : ∀ k ∈ ks, k.isMidway) :
    Watched s (c.countAll ks) g := by
  refine { h with tallied := fun x hx => ?_ }
  have hnone : ks.count x = 0 := List.count_eq_zero.mpr fun hm => by simp [hks x hm] at hx
  simp only [Crew.countAll, Metrics.Tally.foldl_count, hnone, h.tallied x hx, Nat.add_zero]

theorem count {k : Metrics.Counter} (h : Watched s c g) (hk : k.isMidway) : Watched s (c.count k) g :=
  have hks : ∀ x ∈ [k], x.isMidway := by simpa using hk
  h.countAll hks

/-! ## A worker takes a step -/

theorem place_of_worker (h : Watched s c g) (hw : w ∈ c.workers) (ht : w.phase.hasTask) :
    (g.file (g.post w.number)).place = .held w.phase :=
  h.tracks.place_of_worker hw ht

theorem isOver_of_worker (h : Watched s c g) (hw : w ∈ c.workers) (ht : w.phase.hasTask) :
    (g.file (g.post w.number)).place.isOver = false := by
  rw [h.place_of_worker hw ht]
  rfl

theorem value_of_worker (h : Watched s c g) (hw : w ∈ c.workers) (ht : w.phase.hasTask) :
    (g.file (g.post w.number)).value = w.task :=
  h.tracks.task_eq w hw ht

/-- The others attest what they did, and the worker that moved attests for itself. -/
theorem attests_put (h : Watched s c g) (hw : w ∈ c.workers) (ht : w.phase.hasTask)
    (hn : u.number = w.number) (hw' : (g.amend (g.post w.number) f).Attests u) :
    ∀ v ∈ (c.put u).workers, (g.amend (g.post w.number) f).Attests v := by
  intro v hv
  obtain ⟨rest, hperm, hput, _⟩ := Crew.split h.tracks.nodup hw
  rcases List.mem_cons.mp ((hput u hn).mem_iff.mp hv) with rfl | hv
  · exact hw'
  · have hv' : v ∈ c.workers := hperm.mem_iff.mpr (List.mem_cons_of_mem _ hv)
    exact (h.attests v hv').amend (h.isOver_of_worker hw ht)

theorem goOn (h : Watched s c g) (hw : w ∈ c.workers) (ht : w.phase.hasTask)
    (hb : w.phase ≠ .blocked) (hn : u.number = w.number) (ht' : u.phase.hasTask)
    (hb' : u.phase ≠ .blocked) (hs : (f (g.file (g.post w.number))).Sound s.policy c.now)
    (hp : (f (g.file (g.post w.number))).place = .held u.phase)
    (hv : (f (g.file (g.post w.number))).value = u.task) :
    Watched s (c.put u) (g.amend (g.post w.number) f) where
  policy := h.policy
  tracks := by
    obtain ⟨rest, hperm, hput, _⟩ := Crew.split h.tracks.nodup hw
    exact ((h.tracks.perm hperm).keep hn ht hb ht' hb' hp hv).perm (hput u hn).symm
  kept := h.kept.amend (h.isOver_of_worker hw ht) hs (by rw [hp]; rfl)
  attests := h.attests_put hw ht hn (Ledger.attests_of_hasTask ht')
  letters := h.letters
  tallied := h.tallied

theorem letters_record (h : Watched s c g) (t : Task) (k : Nat) (d : Decision) :
    (c.record t d).letters.records <:+ (g.conclude k d).letters := by
  rw [Ledger.letters_conclude]
  cases hd : d.letter? with
  | none =>
      simp only [Crew.record, hd, Option.elim, Option.toList_none, List.append_nil]
      exact h.letters
  | some l =>
      simp only [Crew.record, hd, Option.elim, Option.toList_some, DeadLetterLog.record]
      refine List.suffix_append_self_iff.mpr ?_
      split
      · exact (List.drop_suffix _ _).trans h.letters
      · exact h.letters

theorem tallied_record (h : Watched s c g) (t : Task) (k : Nat) (d : Decision)
    (x : Metrics.Counter) (hx : x.isMidway = false) :
    (c.record t d).tally x = (g.conclude k d).counts.count x := by
  simp only [Crew.record, Metrics.Tally.foldl_count, Ledger.counts_conclude, List.count_append,
    h.tallied x hx]

theorem conclude {d : Decision} (h : Watched s c g) (hw : w ∈ c.workers) (ht : w.phase.hasTask)
    (hb : w.phase ≠ .blocked)
    (hs : ((g.file (g.post w.number)).conclude d).Sound s.policy c.now) :
    Watched s (c.conclude w d) (g.conclude (g.post w.number) d) := by
  obtain ⟨rest, hperm, hput, _⟩ := Crew.split h.tracks.nodup hw
  have hkept := h.kept.conclude (h.isOver_of_worker hw ht) hs
  have hletters := h.letters_record w.task (g.post w.number) d
  have htallied := h.tallied_record w.task (g.post w.number) d
  cases hd : d.isFinal with
  | false =>
      obtain ⟨t, rfl⟩ : ∃ t, d = .putBack t := by
        cases d <;> first | exact ⟨_, rfl⟩ | cases hd
      refine ⟨h.policy, ?_, hkept, ?_, hletters, htallied⟩
      · have := (h.tracks.perm hperm).keep (u := { w with phase := .returning })
          (f := File.conclude (.putBack t)) rfl ht hb rfl (by simp) rfl (h.value_of_worker hw ht)
        exact (this.perm (hput { w with phase := .returning } rfl).symm).settle _
      · exact h.attests_put hw ht rfl (Ledger.attests_of_hasTask rfl)
  | true =>
      rw [Crew.conclude_of_isFinal hd]
      have hplace := File.conclude_place (f := g.file (g.post w.number)) hd
      refine ⟨h.policy, ?_, hkept, ?_, hletters, htallied⟩
      · have := (h.tracks.perm hperm).close (u := { w with phase := .leaving d.disposition })
          rfl ht hb rfl hplace
        exact (this.perm (hput { w with phase := .leaving d.disposition } rfl).symm).settle _
      · refine h.attests_put hw ht rfl ?_
        rintro _ ⟨⟩
        exact Or.inr ⟨d, (congrArg File.place Ledger.amend_file_self).trans hplace, rfl⟩

end Watched
end Poll
end Intake
