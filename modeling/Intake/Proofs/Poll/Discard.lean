import Intake.Proofs.Poll.Shift

/-!
# A job is settled once

What is seen of a task, by where the task is. Until a reconciliation settles it, nothing is discarded;
the reconciliation that does is followed by the discard of the record and then only by the end of the
task, which the reply to the discard cannot change.
-/

namespace Intake.Poll

open Service (Call)

/-! ## What is seen of a task -/

/-- What may be seen of a task with the status URL `url` that is not settled. -/
def Event.isOpen (url : String) : Event → Bool
  | .polled u => u = url
  | .reconciling _ => true
  | .reconciled _ o => !o.isSettled
  | .discarded _ => false
  | .decided d => !d.isFinal

def IsOpen (url : String) (es : List Event) : Prop := ∀ e ∈ es, e.isOpen url

/-- A reconciliation has settled the task, and its record has been discarded. -/
def IsSealed (url : String) (v : Verdict) (es : List Event) : Prop :=
  ∃ before o, IsOpen url before ∧ o.isSettled ∧ es = before ++ [.reconciled v o, .discarded url]

/-- What is seen of a task whose poll amounts to an outcome. -/
def Outcome.Fits (url : String) (es : List Event) : Outcome → Prop
  | .finalized v => IsSealed url v es
  | _ => IsOpen url es

def Decision.Fits (url : String) (es : List Event) : Decision → Prop
  | .finish v => IsSealed url v es
  | _ => IsOpen url es

/-- What is seen of a task while its poll waits: the poll has asked, is being reconciled, or is done but
for the discard. -/
def Errand.Fits (t : Task) (es : List Event) : Errand → Prop
  | inquiring w => w = (inquire t).rush ∧ IsOpen t.statusUrl es
  | reconciling _ _ => IsOpen t.statusUrl es
  | settling w => ∃ v url next, w = .ask (.discard url) next ∧
      (∀ r, (next r).rush = .done (.finalized v)) ∧ IsSealed t.statusUrl v es

/-- What is seen of a task by where it is. -/
def File.Fits (f : File) (e : Option Errand) (es : List Event) : Prop :=
  match f.place with
  | .nowhere => es = []
  | .held .polling => ∃ e', e = some e' ∧ e'.result? = none ∧ e'.Fits f.value es
  | .held (.answered o) | .held (.judging o) => o.Fits f.value.statusUrl es
  | .ended (.settled d) => ∃ before, d.Fits f.value.statusUrl before ∧ es = before ++ [.decided d]
  | .ended .abandoned => IsOpen f.value.statusUrl es ∨ ∃ v, IsSealed f.value.statusUrl v es
  | _ => IsOpen f.value.statusUrl es

variable {url : String} {es xs : List Event} {t : Task} {v : Verdict} {life : Lifecycle}

theorem IsOpen.nil : IsOpen url [] := fun _ h => absurd h (List.not_mem_nil)

theorem IsOpen.snoc {e : Event} (h : IsOpen url es) (he : e.isOpen url) : IsOpen url (es ++ [e]) := by
  intro x hx
  rcases List.mem_append.mp hx with hx | hx
  · exact h x hx
  · rwa [List.mem_singleton.mp hx]

/-! ## What a poll shows as it goes on -/

/-- What has been seen when a poll has come to where it waits or is over. -/
def Errand.Shows (t : Task) (es : List Event) (e : Errand) : Prop :=
  match e.result? with
  | none => e.Fits t es
  | some o => o.Fits t.statusUrl es

namespace Errand

theorem shows_wrapUp {o : Remote.Outcome} (h : IsOpen t.statusUrl es) :
    (wrapUp (settle t v o)).2.Shows t (es ++ .reconciled v o :: (wrapUp (settle t v o)).1) := by
  cases ho : o.isSettled with
  | true =>
      obtain ⟨next, hw, hnext⟩ := rush_settle (t := t) (v := v) ho
      simp only [wrapUp, hw, Shows, result?, Script.result?, requested]
      exact ⟨v, t.statusUrl, next, rfl, hnext, es, o, h, ho, rfl⟩
  | false =>
      obtain ⟨a, hw, ha⟩ := rush_settle_of_not (t := t) (v := v) ho
      have hopen : IsOpen t.statusUrl (es ++ [.reconciled v o]) :=
        h.snoc (by simp only [Event.isOpen, ho, Bool.not_false])
      simp only [wrapUp, hw, Shows, result?, Script.result?, requested]
      cases a with
      | finalized v' => exact absurd rfl (ha v')
      | _ => exact hopen

theorem shows_treat {w : Service.Work Remote.Outcome} (h : IsOpen t.statusUrl es) :
    (treat t v w).2.Shows t (es ++ (treat t v w).1) := by
  rcases rush_cases w with ⟨o, hw⟩ | ⟨c, next, _, hw⟩
  · simp only [treat, hw]
    exact shows_wrapUp h
  · simp only [treat, hw, List.append_nil]
    exact h

/-- Once a poll has been answered, it is over or it is reconciled. -/
theorem shows_probe {w : Service.Work Finding} {f : Finding} (hw : w.rush = .done f)
    (hf : ∀ v, f ≠ .over (.finalized v)) (h : IsOpen t.statusUrl es) :
    (probe life t w).2.Shows t (es ++ (probe life t w).1) := by
  have htreat : ∀ v w, (treat t v w).2.Shows t (es ++ .reconciling v :: (treat t v w).1) := by
    intro v w
    have := shows_treat (v := v) (w := w) (h.snoc (e := .reconciling v) rfl)
    rwa [List.append_assoc] at this
  simp only [probe, hw]
  rcases f with o | products | _
  · simp only [Shows, result?, Script.result?, List.append_nil]
    cases o with
    | finalized v => exact absurd rfl (hf v)
    | _ => exact h
  · exact htreat ..
  · exact htreat ..

theorem fits_begin (life : Lifecycle) (h : IsOpen t.statusUrl es) :
    (begin life t).2.result? = none ∧ (begin life t).2.Fits t (es ++ (begin life t).1) :=
  ⟨rfl, rfl, h.snoc (decide_eq_true rfl)⟩

/-- Whatever the reply, a poll that goes on shows what it should. -/
theorem shows_reply (life : Lifecycle) {e : Errand} (h : e.Fits t es) (hwait : e.result? = none)
    (answers : (c : Call) → c.Reply) :
    ((e.resume answers).rush life t).2.Shows t (es ++ ((e.resume answers).rush life t).1) := by
  cases e with
  | inquiring w =>
      obtain ⟨rfl, h⟩ := h
      obtain ⟨f, hw, hf⟩ := rush_inquire (t := t) answers
      exact shows_probe hw hf h
  | reconciling v w => exact shows_treat h
  | settling w =>
      -- Whatever the discard replies, only the outcome is left, and nothing is seen of that.
      obtain ⟨v, url, next, rfl, hnext, h⟩ := h
      simp only [resume, Script.resume, rush, wrapUp, hnext, requested, List.append_nil]
      exact h

end Errand

/-- What an outcome means for the task fits what was seen if the outcome does. -/
theorem Outcome.Fits.decide {o : Outcome} (h : o.Fits url es) (p : Policy) (t : Task)
    (now date : Millis) :
    if (p.decide t o now date).isFinal then (p.decide t o now date).Fits url es
    else IsOpen url (es ++ [.decided (p.decide t o now date)]) := by
  cases o with
  | finalized v => exact h
  | vanished => exact h
  | rejected reason => exact h
  | retry reason =>
      simp only [Policy.decide]
      split
      · exact h
      · exact IsOpen.snoc h rfl

/-! ## Every move -/

/-- Whether a task is where no poll of it is heeded. -/
def Place.isCalm : Place → Bool
  | .waiting | .lined => true
  | .held .polling | .held (.answered _) | .held (.judging _) => false
  | .held _ => true
  | .nowhere | .ended _ => false

theorem File.fits_of_isCalm {f : File} {e : Option Errand} (hf : f.place.isCalm) :
    f.Fits e es ↔ IsOpen f.value.statusUrl es := by
  unfold Fits
  cases hp : f.place with
  | nowhere => rw [hp] at hf; cases hf
  | ended x => rw [hp] at hf; cases hf
  | waiting => exact Iff.rfl
  | lined => exact Iff.rfl
  | held ph =>
      cases ph with
      | polling => rw [hp] at hf; cases hf
      | answered o => rw [hp] at hf; cases hf
      | judging o => rw [hp] at hf; cases hf
      | _ => exact Iff.rfl

namespace Shift

variable {s : Settings} {st st' : Shift} {g g' : Ledger} {c c' : Crew} {w : Worker} {k : Nat}
  {f : File → File}

/-- What is seen of each task fits where it is. -/
def Fits (g : Ledger) (st : Shift) : Prop := ∀ k, (g.file k).Fits (st.errand k) (st.seen k)

theorem Fits.change (h : st.Fits g) (hg : ∀ j, j ≠ k → g'.file j = g.file j)
    (he : ∀ j, j ≠ k → st'.errand j = st.errand j) (hs : ∀ j, j ≠ k → st'.seen j = st.seen j)
    (hk : (g'.file k).Fits (st'.errand k) (st'.seen k)) : st'.Fits g' := by
  intro j
  by_cases hj : j = k
  · rw [hj]
    exact hk
  · rw [hg j hj, he j hj, hs j hj]
    exact h j

theorem Fits.amend (h : st.Fits g) (hk : (f (g.file k)).Fits (st.errand k) (st.seen k)) :
    st.Fits (g.amend k f) :=
  h.change (fun _ hj => Ledger.amend_file_of_ne hj) (fun _ _ => rfl) (fun _ _ => rfl)
    (by rwa [Ledger.amend_file_self])

/-- A task that is not polled changes its place, and nothing is seen of that. -/
theorem Fits.calm (h : st.Fits g) (hp : (g.file k).place.isCalm)
    (hp' : (f (g.file k)).place.isCalm)
    (hv : (f (g.file k)).value.statusUrl = (g.file k).value.statusUrl) : st.Fits (g.amend k f) := by
  refine h.amend ?_
  rw [File.fits_of_isCalm hp', hv]
  exact (File.fits_of_isCalm hp).mp (h k)

theorem Fits.enter (h : st.Fits g) (hnew : (g.file g.issued).place = .nowhere) {t : Task}
    {now : Millis} {p : Place} (hp : p.isCalm) : st.Fits (g.enter t now p) := by
  refine Fits.amend (g := g) (k := g.issued) (f := fun _ => .new t now p) h ?_
  have hseen : st.seen g.issued = [] := by
    have := h g.issued
    rwa [File.Fits, hnew] at this
  rw [File.fits_of_isCalm hp, hseen]
  exact .nil

/-- What a poll has shown is seen, and the poll is over or waits. -/
theorem Fits.send {x : List Event × Errand} (h : st.Fits g)
    (hg : ∀ j, j ≠ k → g'.file j = g.file j)
    (hk : (g'.file k).Fits (some x.2) (st.seen k ++ x.1)) : (st.send k x).Fits g' := by
  refine h.change hg (fun j hj => if_neg hj) (fun j hj => seen_write_of_ne hj) ?_
  have he : (st.send k x).errand k = some x.2 := if_pos rfl
  have hs : (st.send k x).seen k = st.seen k ++ x.1 := seen_write_self
  rwa [he, hs]

/-- A decision is seen, and its task has ended or is on its way back. -/
theorem Fits.conclude {o : Outcome} {p : Policy} {t : Task} {now date : Millis} (h : st.Fits g)
    (hk : o.Fits (g.file k).value.statusUrl (st.seen k)) :
    (st.write k [.decided (p.decide t o now date)]).Fits
      (g.conclude k (p.decide t o now date)) := by
  have hd := hk.decide p t now date
  refine h.change (k := k) (fun j hj => Ledger.amend_file_of_ne hj) (fun _ _ => rfl)
    (fun j hj => seen_write_of_ne hj) ?_
  rw [seen_write_self, Ledger.conclude, Ledger.amend_file_self]
  cases hfinal : (p.decide t o now date).isFinal with
  | true =>
      rw [if_pos hfinal] at hd
      simp only [File.Fits, File.conclude, hfinal, if_true, File.move]
      exact ⟨_, hd, rfl⟩
  | false =>
      rw [hfinal, if_neg Bool.false_ne_true] at hd
      simp only [File.Fits, File.conclude, hfinal, Bool.false_eq_true, if_false, File.move]
      exact hd

theorem Fits.begin (h : st.Fits g) (hp : (g.file k).place.isCalm) (now : Millis) :
    (st.send k (Errand.begin life (g.file k).value)).Fits (g.amend k (.begin now)) := by
  obtain ⟨hwait, hfits⟩ := Errand.fits_begin life ((File.fits_of_isCalm hp).mp (h k))
  refine h.send (fun j hj => Ledger.amend_file_of_ne hj) ?_
  rw [Ledger.amend_file_self]
  exact ⟨_, rfl, hwait, hfits⟩

theorem Fits.follow (h : st.Fits st.ledger) (hw : Watched s st.crew st.ledger)
    (hm : w ∈ st.crew.workers) : (st.heed life w).Fits (st.ledger.follow st.crew w) := by
  have hplace := hw.place_of_worker hm
  have hvalue := hw.value_of_worker hm
  have hself := h (st.ledger.post w.number)
  cases hp : w.phase with
  | hired =>
      rw [hp] at hplace hvalue
      simp only [heed, Ledger.follow, hp, ← hvalue rfl]
      split
      · exact h.begin (by rw [hplace rfl]; rfl) st.crew.now
      · exact h.calm (by rw [hplace rfl]; rfl) rfl rfl
  | resting till =>
      rw [hp] at hplace hvalue
      simp only [heed, Ledger.follow, hp, ← hvalue rfl]
      exact h.begin (by rw [hplace rfl]; rfl) st.crew.now
  | answered o =>
      rw [hp] at hplace
      rw [File.Fits, hplace rfl] at hself
      simp only [heed, Ledger.follow, hp]
      split
      · exact h.conclude hself
      · exact h.amend hself
  | judging o =>
      rw [hp] at hplace
      rw [File.Fits, hplace rfl] at hself
      simp only [heed, Ledger.follow, hp]
      exact h.conclude hself
  | returning =>
      rw [hp] at hplace
      simp only [heed, Ledger.follow, hp]
      split <;> exact h.calm (by rw [hplace rfl]; rfl) rfl rfl
  | refused =>
      rw [hp] at hplace
      simp only [heed, Ledger.follow, hp]
      exact h.calm (by rw [hplace rfl]; rfl) rfl rfl
  | aside =>
      rw [hp] at hplace
      simp only [heed, Ledger.follow, hp]
      refine h.calm (f := .move _) (by rw [hplace rfl]; rfl) ?_ rfl
      simp only [File.move]
      split <;> rfl
  | _ =>
      simp only [heed, Ledger.follow, hp]
      exact h

theorem Fits.drop (h : st.Fits st.ledger) (hw : Watched s st.crew st.ledger)
    (hm : w ∈ st.crew.workers) (hwait : w.phase.isWaiting) : st.Fits (st.ledger.drop w) := by
  unfold Ledger.drop
  split
  · rename_i ht
    have hself := h (st.ledger.post w.number)
    have hplace := hw.place_of_worker hm ht
    refine Fits.amend (g := st.ledger) (f := .move (.ended .abandoned)) h ?_
    simp only [File.Fits, File.move]
    cases hp : w.phase with
    | polling =>
        -- Only a poll that waits for its discard has sealed the task.
        rw [File.Fits, hplace, hp] at hself
        obtain ⟨e, _, _, hself⟩ := hself
        cases e with
        | inquiring w => exact .inl hself.2
        | reconciling v w => exact .inl hself
        | settling w =>
            obtain ⟨v, _, _, _, _, hsealed⟩ := hself
            exact .inr ⟨v, hsealed⟩
    | hired => exact .inl ((File.fits_of_isCalm (by rw [hplace, hp]; rfl)).mp hself)
    | resting till => exact .inl ((File.fits_of_isCalm (by rw [hplace, hp]; rfl)).mp hself)
    | blocked => exact .inl ((File.fits_of_isCalm (by rw [hplace, hp]; rfl)).mp hself)
    | admitted => rw [hp] at ht; cases ht
    | _ => rw [hp] at hwait; cases hwait
  · exact h

/-- The dispatcher takes a task, and whoever waits for the room gets it. -/
theorem Fits.takeTask (h : st.Fits st.ledger) (hw : Watched s st.crew st.ledger) :
    st.Fits (st.ledger.note st.crew .takeTask) := by
  cases ht : st.ledger.line.take? with
  | none =>
      simp only [Ledger.note, ht, Option.elim]
      exact h
  | some t =>
      obtain ⟨rest, hi, _⟩ := Line.take?_eq_some ht
      have hitem := hw.tracks.place_of_queued (k := t.item) (by simp [hi])
      have hfirst := h.calm (f := .move (.held .hired)) (by rw [hitem]; rfl) rfl rfl
      simp only [Ledger.note, ht, Option.elim, Ledger.hire]
      split
      · rename_i who j others _ hs
        refine Fits.calm (f := .move .lined) hfirst ?_ rfl rfl
        -- That whoever is let in is not who was taken does not matter here.
        by_cases hj : j = t.item
        · rw [hj, Ledger.amend_file_self]
          rfl
        · rw [Ledger.amend_file_of_ne hj]
          rcases hw.tracks.place_of_sender (s := (who, j)) (by simp [hs]) with hp | hp <;>
            rw [hp] <;> rfl
      · exact hfirst

theorem Fits.carry {m : Crew.Move} (h : st.Fits st.ledger) (hw : Watched s st.crew st.ledger)
    (hm : st.carry m = some st') (hwork : ∀ n, m ≠ .work n) (hfinish : ∀ n o, m ≠ .finish n o) :
    st'.Fits st'.ledger := by
  obtain ⟨c, hc, rfl⟩ := Option.map_eq_some_iff.mp hm
  have hnew := hw.tracks.place_issued
  suffices hnote : st.Fits (st.ledger.note st.crew m) from hnote
  cases m with
  | send n t =>
      refine Fits.enter h hnew ?_
      split <;> rfl
  | offer t =>
      simp only [Ledger.note]
      split
      · exact h.enter hnew rfl
      · exact h
  | takeTask => exact h.takeTask hw
  | abandon n =>
      simp only [Crew.step, Option.bind_eq_some_iff, Option.ite_none_right_eq_some] at hc
      obtain ⟨w, hw?, ⟨_, hwait⟩, _⟩ := hc
      simp only [Ledger.note, hw?, Option.elim]
      exact h.drop hw (Crew.worker?_eq_some hw?).1 hwait
  | work n => exact absurd rfl (hwork n)
  | finish n o => exact absurd rfl (hfinish n o)
  | _ => exact h

theorem Fits.reply {n : Nat} {answers : (c : Call) → c.Reply} (h : st.Fits st.ledger)
    (hw : Watched s st.crew st.ledger) (hm : st.step life (.reply n answers) = some st') :
    st'.Fits st'.ledger := by
  simp only [step, Option.bind_eq_some_iff, Option.ite_none_right_eq_some] at hm
  obtain ⟨w, hw?, hp, e, he, hm⟩ := hm
  obtain ⟨hworker, rfl⟩ := Crew.worker?_eq_some hw?
  have ht : w.phase.hasTask := by rw [hp]; rfl
  have hplace := hw.place_of_worker hworker ht
  have hvalue := hw.value_of_worker hworker ht
  have hself := h (st.ledger.post w.number)
  rw [hp] at hplace
  simp only [File.Fits, hplace, he, Option.some.injEq, exists_eq_left'] at hself
  have hshows := Errand.shows_reply life hself.2 hself.1 answers
  rw [← hvalue] at hm
  generalize (e.resume answers).rush life (st.ledger.file _).value = x at hm hshows
  rw [Errand.Shows] at hshows
  cases hr : x.2.result? with
  | none =>
      rw [hr] at hm hshows
      cases hm
      suffices hsend : (st.send (st.ledger.post w.number) x).Fits st.ledger from hsend
      refine h.send (fun _ _ => rfl) ?_
      rw [File.Fits, hplace]
      exact ⟨_, rfl, hr, hshows⟩
  | some o =>
      rw [hr] at hm hshows
      obtain ⟨c, _, rfl⟩ := Option.map_eq_some_iff.mp hm
      suffices hnote : (st.send (st.ledger.post w.number) x).Fits
          (st.ledger.amend (st.ledger.post w.number) (.answer st.crew.now o)) from hnote
      refine h.send (fun j hj => Ledger.amend_file_of_ne hj) ?_
      rw [Ledger.amend_file_self]
      exact hshows

theorem Fits.step {m : Move} (h : st.Fits st.ledger) (hw : Watched s st.crew st.ledger)
    (hm : st.step life m = some st') : st'.Fits st'.ledger := by
  cases m with
  | reply n answers => exact h.reply hw hm
  | crew m =>
      cases m with
      | finish n o => cases hm
      | work n =>
          obtain ⟨c, hc, rfl⟩ := Option.map_eq_some_iff.mp hm
          cases hw? : st.crew.worker? n with
          | none =>
              simp only [hw?, Option.elim, Crew.step, Option.bind_none, reduceCtorEq] at hc
          | some w =>
              obtain ⟨hcrew, hledger⟩ := heed_frame st life w
              simp only [hw?, Option.elim, hcrew, hledger, Ledger.note]
              exact h.follow hw (Crew.worker?_eq_some hw?).1
      | _ => exact h.carry hw hm (by simp) (by simp)

theorem Fits.new (s : Settings) (epoch : Millis) : (new s epoch).Fits (Ledger.new s) := fun _ => rfl

theorem Fits.along {ms : List Move} (h : st.Fits st.ledger) (hw : Watched s st.crew st.ledger)
    (hr : st.run life ms = some st') : st'.Fits st'.ledger := by
  induction ms generalizing st with
  | nil =>
      cases hr
      exact h
  | cons m ms ih =>
      obtain ⟨st₁, hm, hr⟩ := Option.bind_eq_some_iff.mp hr
      obtain ⟨cs, hcs, hl⟩ := moves_of_step hm
      exact ih (h.step hw hm) (hl ▸ hw.along hcs) hr

theorem Fits.ofRun {epoch : Millis} {ms : List Move} (hr : (Shift.new s epoch).run life ms = some st) :
    st.Fits st.ledger :=
  (Fits.new s epoch).along (.new s epoch) hr

theorem watched {epoch : Millis} {ms : List Move} (hr : (Shift.new s epoch).run life ms = some st) :
    Watched s st.crew st.ledger := by
  obtain ⟨cs, hcs, hl⟩ := crew_run hr
  exact hl ▸ .ofRun hcs

end Shift
end Intake.Poll
