import Intake.Proofs.Poll.Moves

/-!
# Whole runs

What holds at the beginning and is kept by every move holds at the end of every run. The file of a
task that has ended is closed: nothing that happens later is written into it.
-/

namespace Intake.Poll

theorem Ledger.enter_file_of_ne {g : Ledger} {k : Nat} {t : Task} {now : Millis} {p : Place}
    (hk : k ≠ g.issued) : (g.enter t now p).file k = g.file k :=
  amend_file_of_ne (g := g) (f := fun _ => .new t now p) hk

/-- Only what a worker does can settle what becomes of a task. -/
theorem Ledger.settled_note {c : Crew} {g : Ledger} {m : Crew.Move} (hm : ∀ n, m ≠ .work n) :
    (g.note c m).settled = g.settled := by
  cases m with
  | work n => exact absurd rfl (hm n)
  | offer t =>
      simp only [note]
      split <;> rfl
  | takeTask =>
      simp only [note]
      cases g.line.take? with
      | none => rfl
      | some t =>
          simp only [Option.elim, hire]
          split <;> rfl
  | abandon n =>
      simp only [note]
      cases c.worker? n with
      | none => rfl
      | some w =>
          simp only [Option.elim, drop]
          split <;> rfl
  | _ => rfl

namespace Watched

variable {s : Settings} {c c' : Crew} {g : Ledger} {w : Worker}

/-! ## What has ended stays as it is -/

theorem ne_of_isOver {j k : Nat} (hk : (g.file k).place.isOver)
    (hj : (g.file j).place.isOver = false) : k ≠ j := by
  rintro rfl
  rw [hk] at hj
  cases hj

theorem follow_file_of_ne {k : Nat} (hk : k ≠ g.post w.number) :
    (g.follow c w).file k = g.file k := by
  unfold Ledger.follow
  cases w.phase with
  | hired =>
      simp only
      split <;> exact Ledger.amend_file_of_ne hk
  | answered o =>
      simp only
      split <;> exact Ledger.amend_file_of_ne hk
  | returning =>
      simp only
      split <;> exact Ledger.amend_file_of_ne hk
  | resting till => exact Ledger.amend_file_of_ne hk
  | judging o => exact Ledger.amend_file_of_ne hk
  | refused => exact Ledger.amend_file_of_ne hk
  | aside => exact Ledger.amend_file_of_ne hk
  | _ => rfl

theorem follow_of_idle (h : w.phase.hasTask = false) : g.follow c w = g := by
  unfold Ledger.follow
  cases hp : w.phase with
  | returned => rfl
  | admitted => rfl
  | leaving d => rfl
  | departing => rfl
  | _ => exact absurd h (by rw [hp]; nofun)

theorem file_note {m : Crew.Move} {k : Nat} (h : Watched s c g) (hc : c.step m = some c')
    (hk : (g.file k).place.isOver) : (g.note c m).file k = g.file k := by
  have hissued : k ≠ g.issued := ne_of_isOver hk (by rw [h.tracks.place_issued]; rfl)
  cases m with
  | send n t => exact Ledger.enter_file_of_ne hissued
  | offer t =>
      simp only [Ledger.note]
      split
      · exact Ledger.enter_file_of_ne hissued
      · rfl
  | takeTask =>
      cases ht : g.line.take? with
      | none => simp only [Ledger.note, ht, Option.elim]
      | some t =>
          simp only [Ledger.note, ht, Option.elim, Ledger.hire]
          obtain ⟨rest, hi, _⟩ := Line.take?_eq_some ht
          have hitem : k ≠ t.item :=
            ne_of_isOver hk (by rw [h.tracks.place_of_queued (k := t.item) (by simp [hi])]; rfl)
          split
          · rename_i who j others _ hs
            have hj : k ≠ j := by
              refine ne_of_isOver hk ?_
              rcases h.tracks.place_of_sender (s := (who, j)) (by simp [hs]) with hp | hp <;>
                simp only [hp] <;> rfl
            exact (Ledger.amend_file_of_ne hj).trans (Ledger.amend_file_of_ne hitem)
          · exact Ledger.amend_file_of_ne hitem
  | work n =>
      simp only [Crew.step, Option.bind_eq_some_iff] at hc
      obtain ⟨w, hw?, hc⟩ := hc
      obtain ⟨hw, _⟩ := Crew.worker?_eq_some hw?
      simp only [Ledger.note, hw?, Option.elim]
      cases ht : w.phase.hasTask with
      | false => rw [follow_of_idle ht]
      | true => exact follow_file_of_ne (ne_of_isOver hk (h.isOver_of_worker hw ht))
  | finish n o =>
      simp only [Crew.step, Option.bind_eq_some_iff] at hc
      obtain ⟨w, hw?, hc⟩ := hc
      obtain ⟨hw, rfl⟩ := Crew.worker?_eq_some hw?
      split at hc
      · rename_i hp
        exact Ledger.amend_file_of_ne
          (ne_of_isOver hk (h.isOver_of_worker hw (by rw [hp]; rfl)))
      · cases hc
  | abandon n =>
      simp only [Crew.step, Option.bind_eq_some_iff] at hc
      obtain ⟨w, hw?, hc⟩ := hc
      obtain ⟨hw, rfl⟩ := Crew.worker?_eq_some hw?
      simp only [Ledger.note, hw?, Option.elim, Ledger.drop]
      split
      · rename_i ht
        exact Ledger.amend_file_of_ne (ne_of_isOver hk (h.isOver_of_worker hw ht))
      · rfl
  | _ => rfl

/-! ## Runs -/

theorem along {ms : List Crew.Move} (h : Watched s c g) (hr : c.run ms = some c') :
    Watched s c' (g.along c ms) := by
  induction ms generalizing c g with
  | nil =>
      cases hr
      exact h
  | cons m ms ih =>
      simp only [Crew.run, Option.bind_eq_some_iff] at hr
      obtain ⟨c₁, hc, hr⟩ := hr
      simp only [Ledger.along, hc, Option.elim]
      exact ih (h.step hc) hr

/-- What every move keeps is kept along a run. -/
theorem keeps_along {P : Crew → Prop} {ms : List Crew.Move}
    (hstep : ∀ {c c' : Crew} {g : Ledger} {m : Crew.Move}, P c → Watched s c g → c.step m = some c' → P c')
    (hp : P c) (h : Watched s c g) (hr : c.run ms = some c') : P c' := by
  induction ms generalizing c g with
  | nil =>
      cases hr
      exact hp
  | cons m ms ih =>
      obtain ⟨c₁, hc, hr⟩ := Option.bind_eq_some_iff.mp hr
      exact ih (hstep hp h hc) (h.step hc) hr

theorem file_along {ms : List Crew.Move} {k : Nat} (h : Watched s c g) (hr : c.run ms = some c')
    (hk : (g.file k).place.isOver) : (g.along c ms).file k = g.file k := by
  induction ms generalizing c g with
  | nil => rfl
  | cons m ms ih =>
      simp only [Crew.run, Option.bind_eq_some_iff] at hr
      obtain ⟨c₁, hc, hr⟩ := hr
      simp only [Ledger.along, hc, Option.elim]
      have hfile := h.file_note hc hk
      rw [ih (h.step hc) hr (by rw [hfile]; exact hk), hfile]

theorem ofRun {epoch : Millis} {ms : List Crew.Move} (hr : (Crew.new s epoch).run ms = some c) :
    Watched s c (Ledger.ofRun s epoch ms) :=
  (new s epoch).along hr

end Watched

theorem Crew.run_append {c : Crew} {ms ms' : List Move} :
    c.run (ms ++ ms') = (c.run ms).bind fun c' => c'.run ms' := by
  induction ms generalizing c with
  | nil => rfl
  | cons m ms ih =>
      simp only [List.cons_append, run, Option.bind_assoc]
      exact congrArg _ (funext fun c' => ih)

theorem Ledger.along_append {c c' : Crew} {g : Ledger} {ms ms' : List Crew.Move}
    (hr : c.run ms = some c') : g.along c (ms ++ ms') = (g.along c ms).along c' ms' := by
  induction ms generalizing c g with
  | nil =>
      cases hr
      rfl
  | cons m ms ih =>
      simp only [Crew.run, Option.bind_eq_some_iff] at hr
      obtain ⟨c₁, hc, hr⟩ := hr
      simp only [List.cons_append, Ledger.along, hc, Option.elim]
      exact ih hr

/-- However a run goes on, the file of a task that has ended stays as it is. -/
theorem Ledger.file_ofRun_append {s : Settings} {epoch : Millis} {c : Crew}
    {ms ms' : List Crew.Move} {k : Nat} (hr : (Crew.new s epoch).run (ms ++ ms') = some c)
    (hk : ((ofRun s epoch ms).file k).place.isOver) :
    (ofRun s epoch (ms ++ ms')).file k = (ofRun s epoch ms).file k := by
  rw [Crew.run_append, Option.bind_eq_some_iff] at hr
  obtain ⟨c₁, hr₁, hr⟩ := hr
  simp only [ofRun] at hk ⊢
  rw [along_append hr₁]
  exact (Watched.ofRun hr₁).file_along hr hk

end Intake.Poll
