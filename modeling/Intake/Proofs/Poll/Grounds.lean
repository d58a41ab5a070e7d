import Intake.Proofs.Poll.Discard

/-!
# The grounds of a decision

What is seen of a task last, before a decision about it is seen, says what its poll amounts to: a
reconciliation came back with a refusal or with a failure that may pass, the service was asked and that was
all, or the record was discarded. The decision is what the policy makes of that.
-/

namespace Intake.Poll

open Service (Call)

/-- Whether a poll can amount to `o` when `e` is seen last. -/
def Event.LeadsTo (o : Outcome) : Event → Prop
  | .reconciled _ (.badRequest m) => o = .rejected m
  | .reconciled _ (.transient m) => o = .retry m
  | .polled _ => o = .vanished ∨ ∃ m, o = .retry m
  | .discarded _ => ∃ v, o = .finalized v
  | _ => False

/-- What is seen of a task whose poll amounts to `o` leads to that. -/
def LeadTo (es : List Event) (o : Outcome) : Prop := ∃ e, es.getLast? = some e ∧ e.LeadsTo o

/-- Each decision that is seen is what the policy makes of that to which the events before it lead. -/
def IsReasoned (p : Policy) (es : List Event) : Prop :=
  ∀ before d after, es = before ++ .decided d :: after →
    ∃ o t judged date, LeadTo before o ∧ d = p.decide t o judged date

def Event.isDecided : Event → Bool
  | .decided _ => true
  | _ => false

/-- What the latest event says about a task that is polled or judged. -/
def File.HasGrounds (f : File) (e : Option Errand) (es : List Event) : Prop :=
  match f.place with
  | .held .polling => ∀ w, e = some (.inquiring w) → ∃ url, es.getLast? = some (.polled url)
  | .held (.answered o) | .held (.judging o) => LeadTo es o
  | _ => True

def Place.isPolled : Place → Bool
  | .held .polling | .held (.answered _) | .held (.judging _) => true
  | _ => false

variable {es xs : List Event} {p : Policy} {o : Outcome} {t : Task} {v : Verdict} {life : Lifecycle}
  {f : File} {e : Option Errand}

theorem File.hasGrounds_of_not_polled (h : f.place.isPolled = false) : f.HasGrounds e es := by
  unfold HasGrounds
  cases hp : f.place with
  | held ph =>
      rw [hp] at h
      cases ph <;> trivial
  | _ => trivial

namespace IsReasoned

theorem nil : IsReasoned p [] := by
  intro before d after h
  cases before <;> cases h

/-- What is no decision needs no grounds. -/
theorem append (h : IsReasoned p es) (hx : ∀ x ∈ xs, x.isDecided = false) :
    IsReasoned p (es ++ xs) := by
  intro before d after he
  rcases List.append_eq_append_iff.mp he with ⟨mid, rfl, hxs⟩ | ⟨mid, hes, hmid⟩
  · cases hx (.decided d) (by simp [hxs])
  · cases mid with
    | nil =>
        rw [List.nil_append] at hmid
        cases hx (.decided d) (by simp [← hmid])
    | cons x mid =>
        obtain ⟨rfl, rfl⟩ := List.cons.inj hmid
        exact h before d mid hes

theorem decide (h : IsReasoned p es) (hlead : LeadTo es o) (t : Task) (judged date : Millis) :
    IsReasoned p (es ++ [.decided (p.decide t o judged date)]) := by
  intro before d after he
  rcases List.append_eq_append_iff.mp he with ⟨mid, rfl, hmid⟩ | ⟨mid, hes, hmid⟩
  · cases mid with
    | nil =>
        obtain ⟨hd, _⟩ := List.cons.inj hmid
        exact ⟨o, t, judged, date, by rwa [List.append_nil], (Event.decided.inj hd).symm⟩
    | cons x mid => simp at hmid
  · cases mid with
    | nil =>
        obtain ⟨hd, _⟩ := List.cons.inj hmid
        rw [List.append_nil] at hes
        exact ⟨o, t, judged, date, hes ▸ hlead, Event.decided.inj hd⟩
    | cons x mid =>
        obtain ⟨rfl, rfl⟩ := List.cons.inj hmid
        exact h before d mid hes

end IsReasoned

theorem leadTo_concat {x : Event} (h : x.LeadsTo o) : LeadTo (es ++ [x]) o :=
  ⟨x, List.getLast?_concat, h⟩

/-! ## Where a poll leads -/

namespace Errand

theorem not_decided_requested {α : Type} (w : Service.Work α) :
    ∀ x ∈ requested w, x.isDecided = false := by
  intro x hx
  unfold requested at hx
  split at hx
  · rw [List.mem_singleton.mp hx]
    rfl
  · rw [List.mem_singleton.mp hx]
    rfl
  · cases hx

theorem not_decided_treat {w : Service.Work Remote.Outcome} :
    ∀ x ∈ (treat t v w).1, x.isDecided = false := by
  intro x hx
  unfold treat at hx
  split at hx
  · rcases List.mem_cons.mp hx with rfl | hx
    · rfl
    · exact not_decided_requested _ x hx
  · cases hx

theorem not_decided_rush (life : Lifecycle) (t : Task) (e : Errand) :
    ∀ x ∈ (e.rush life t).1, x.isDecided = false := by
  intro x hx
  cases e with
  | inquiring w =>
      simp only [rush, probe] at hx
      split at hx
      · cases hx
      · rcases List.mem_cons.mp hx with rfl | hx
        · rfl
        · exact not_decided_treat x hx
      · rcases List.mem_cons.mp hx with rfl | hx
        · rfl
        · exact not_decided_treat x hx
      · exact not_decided_requested _ x hx
  | reconciling v w => exact not_decided_treat x hx
  | settling w => exact not_decided_requested _ x hx

/-- A poll that goes on does not ask again, and one that is over has led to its outcome. -/
def HasGrounds (es : List Event) (e : Errand) : Prop :=
  match e.result? with
  | none => ∀ w, e ≠ .inquiring w
  | some o => LeadTo es o

theorem grounds_wrapUp {o : Remote.Outcome} :
    (wrapUp (settle t v o)).2.HasGrounds (es ++ .reconciled v o :: (wrapUp (settle t v o)).1) := by
  cases o with
  | success => exact fun w => by simp [wrapUp]
  | notFound => exact fun w => by simp [wrapUp]
  | badRequest m => exact leadTo_concat rfl
  | transient m => exact leadTo_concat rfl

theorem grounds_treat {w : Service.Work Remote.Outcome} :
    (treat t v w).2.HasGrounds (es ++ (treat t v w).1) := by
  rcases rush_cases w with ⟨o, hw⟩ | ⟨c, next, _, hw⟩
  · simp only [treat, hw]
    exact grounds_wrapUp
  · simp only [treat, hw]
    exact fun w => by simp

/-- What the transform service says about a job decides by itself only that it is gone or that it is to
be asked again. -/
theorem rush_inquire_over (answers : (c : Call) → c.Reply)
    (h : ((inquire t).rush.resume answers).rush = .done (.over o)) :
    o = .vanished ∨ ∃ m, o = .retry m := by
  have hrush : (inquire t).rush = .ask (.poll t.statusUrl) _ := rfl
  rw [hrush] at h
  simp only [Script.resume] at h
  cases ha : answers (.poll t.statusUrl) with
  | inProgress =>
      rw [ha] at h
      cases h
      exact .inr ⟨_, rfl⟩
  | transient reason =>
      rw [ha] at h
      cases h
      exact .inr ⟨_, rfl⟩
  | notFound =>
      rw [ha] at h
      cases h
      exact .inl rfl
  | done products =>
      rw [ha] at h
      cases h
  | failed products =>
      rw [ha] at h
      cases h

theorem grounds_reply (life : Lifecycle) {e : Errand} (h : e.Fits t es) (hwait : e.result? = none)
    (hlast : ∀ w, e = .inquiring w → ∃ url, es.getLast? = some (.polled url))
    (answers : (c : Call) → c.Reply) :
    ((e.resume answers).rush life t).2.HasGrounds (es ++ ((e.resume answers).rush life t).1) := by
  cases e with
  | inquiring w =>
      obtain ⟨rfl, -⟩ := h
      obtain ⟨url, hlast⟩ := hlast _ rfl
      obtain ⟨f, hw, -⟩ := rush_inquire (t := t) answers
      have htreat : ∀ v w, (treat t v w).2.HasGrounds (es ++ .reconciling v :: (treat t v w).1) := by
        intro v w
        have htreat : (treat t v w).2.HasGrounds (es ++ [.reconciling v] ++ (treat t v w).1) :=
          grounds_treat
        rwa [List.append_assoc] at htreat
      simp only [resume, rush, probe, hw]
      rcases f with o | products | _
      · simp only [List.append_nil]
        exact ⟨_, hlast, rush_inquire_over answers hw⟩
      · exact htreat ..
      · exact htreat ..
  | reconciling v w => exact grounds_treat
  | settling w =>
      -- The record has been discarded, and only the outcome is left.
      obtain ⟨v, url, next, rfl, hnext, before, o, _, _, rfl⟩ := h
      simp only [resume, Script.resume, rush, wrapUp, hnext, requested, List.append_nil, HasGrounds,
        result?, Script.result?]
      exact ⟨.discarded t.statusUrl, by simp, v, rfl⟩

end Errand

/-! ## Every move -/

namespace Shift

variable {s : Settings} {st st' : Shift} {g g' : Ledger} {w : Worker} {k : Nat}
  {f : File → File}

/-- Every decision that is seen of a task has its grounds, and what is seen of it will give grounds. -/
def Grounded (p : Policy) (g : Ledger) (st : Shift) : Prop :=
  ∀ k, IsReasoned p (st.seen k) ∧ (g.file k).HasGrounds (st.errand k) (st.seen k)

namespace Grounded

theorem change (h : st.Grounded p g) (hg : ∀ j, j ≠ k → g'.file j = g.file j)
    (he : ∀ j, j ≠ k → st'.errand j = st.errand j) (hs : ∀ j, j ≠ k → st'.seen j = st.seen j)
    (hr : IsReasoned p (st'.seen k)) (hk : (g'.file k).HasGrounds (st'.errand k) (st'.seen k)) :
    st'.Grounded p g' := by
  intro j
  by_cases hj : j = k
  · rw [hj]
    exact ⟨hr, hk⟩
  · rw [hg j hj, he j hj, hs j hj]
    exact h j

theorem amend (h : st.Grounded p g)
    (hk : (f (g.file k)).HasGrounds (st.errand k) (st.seen k)) : st.Grounded p (g.amend k f) :=
  h.change (fun _ hj => Ledger.amend_file_of_ne hj) (fun _ _ => rfl) (fun _ _ => rfl) (h k).1
    (by rwa [Ledger.amend_file_self])

/-- A task that is not polled, or no longer, needs no grounds. -/
theorem calm (h : st.Grounded p g) (hp : (f (g.file k)).place.isPolled = false) :
    st.Grounded p (g.amend k f) :=
  h.amend (File.hasGrounds_of_not_polled hp)

theorem enter (h : st.Grounded p g) {t : Task} {now : Millis} {l : Place}
    (hl : l.isPolled = false) : st.Grounded p (g.enter t now l) :=
  calm (g := g) (k := g.issued) (f := fun _ => .new t now l) h hl

/-- A poll has come to where it waits or is over. -/
theorem send {x : List Event × Errand} (h : st.Grounded p g)
    (hg : ∀ j, j ≠ k → g'.file j = g.file j) (hx : ∀ e ∈ x.1, e.isDecided = false)
    (hk : (g'.file k).HasGrounds (some x.2) (st.seen k ++ x.1)) : (st.send k x).Grounded p g' := by
  have he : (st.send k x).errand k = some x.2 := if_pos rfl
  have hs : (st.send k x).seen k = st.seen k ++ x.1 := seen_write_self
  refine h.change hg (fun j hj => if_neg hj) (fun j hj => seen_write_of_ne hj) ?_ ?_
  · rw [hs]
    exact (h k).1.append hx
  · rwa [he, hs]

theorem conclude (h : st.Grounded p g) (hk : LeadTo (st.seen k) o) (t : Task)
    (now date : Millis) :
    (st.write k [.decided (p.decide t o now date)]).Grounded p
      (g.conclude k (p.decide t o now date)) := by
  refine h.change (k := k) (fun j hj => Ledger.amend_file_of_ne hj) (fun _ _ => rfl)
    (fun j hj => seen_write_of_ne hj) ?_ ?_
  · rw [seen_write_self]
    exact (h k).1.decide hk t now date
  · rw [Ledger.conclude, Ledger.amend_file_self]
    refine File.hasGrounds_of_not_polled ?_
    simp only [File.conclude, File.move]
    split <;> rfl

theorem begin (h : st.Grounded p g) (t : Task) (now : Millis) :
    (st.send k (Errand.begin life t)).Grounded p (g.amend k (.begin now)) := by
  refine h.send (fun j hj => Ledger.amend_file_of_ne hj) (Errand.not_decided_rush life t _) ?_
  rw [Ledger.amend_file_self]
  exact fun _ _ => ⟨t.statusUrl, List.getLast?_concat⟩

theorem follow (h : st.Grounded s.policy st.ledger) (hw : Watched s st.crew st.ledger)
    (hm : w ∈ st.crew.workers) :
    (st.heed life w).Grounded s.policy (st.ledger.follow st.crew w) := by
  have hplace := hw.place_of_worker hm
  have hself := (h (st.ledger.post w.number)).2
  cases hp : w.phase with
  | hired =>
      simp only [heed, Ledger.follow, hp]
      split
      · exact h.begin w.task st.crew.now
      · exact h.calm rfl
  | resting till =>
      simp only [heed, Ledger.follow, hp]
      exact h.begin w.task st.crew.now
  | answered o =>
      rw [hp] at hplace
      rw [File.HasGrounds, hplace rfl] at hself
      simp only [heed, Ledger.follow, hp, Crew.decision, hw.policy]
      split
      · exact h.conclude hself _ _ _
      · exact h.amend hself
  | judging o =>
      rw [hp] at hplace
      rw [File.HasGrounds, hplace rfl] at hself
      simp only [heed, Ledger.follow, hp, Crew.decision, hw.policy]
      exact h.conclude hself _ _ _
  | returning =>
      simp only [heed, Ledger.follow, hp]
      split <;> exact h.calm rfl
  | refused =>
      simp only [heed, Ledger.follow, hp]
      exact h.calm rfl
  | aside =>
      simp only [heed, Ledger.follow, hp]
      refine calm (f := .move _) h ?_
      simp only [File.move]
      split <;> rfl
  | _ =>
      simp only [heed, Ledger.follow, hp]
      exact h

theorem takeTask (h : st.Grounded p st.ledger) :
    st.Grounded p (st.ledger.note st.crew .takeTask) := by
  cases ht : st.ledger.line.take? with
  | none =>
      simp only [Ledger.note, ht, Option.elim]
      exact h
  | some t =>
      have hfirst := h.calm (k := t.item) (f := .move (.held .hired)) rfl
      simp only [Ledger.note, ht, Option.elim, Ledger.hire]
      split
      · exact calm (f := .move .lined) hfirst rfl
      · exact hfirst

theorem drop (h : st.Grounded p st.ledger) : st.Grounded p (st.ledger.drop w) := by
  unfold Ledger.drop
  split
  · exact calm (g := st.ledger) (f := .move (.ended .abandoned)) h rfl
  · exact h

theorem carry {m : Crew.Move} (h : st.Grounded p st.ledger) (hm : st.carry m = some st')
    (hwork : ∀ n, m ≠ .work n) (hfinish : ∀ n o, m ≠ .finish n o) : st'.Grounded p st'.ledger := by
  obtain ⟨c, hc, rfl⟩ := Option.map_eq_some_iff.mp hm
  suffices hnote : st.Grounded p (st.ledger.note st.crew m) from hnote
  cases m with
  | send n t =>
      refine Grounded.enter h ?_
      split <;> rfl
  | offer t =>
      simp only [Ledger.note]
      split
      · exact h.enter rfl
      · exact h
  | takeTask => exact h.takeTask
  | abandon n =>
      simp only [Ledger.note]
      cases st.crew.worker? n with
      | none => exact h
      | some w => exact h.drop
  | work n => exact absurd rfl (hwork n)
  | finish n o => exact absurd rfl (hfinish n o)
  | _ => exact h

theorem reply {n : Nat} {answers : (c : Call) → c.Reply} (h : st.Grounded p st.ledger)
    (hf : st.Fits st.ledger) (hw : Watched s st.crew st.ledger)
    (hm : st.step life (.reply n answers) = some st') : st'.Grounded p st'.ledger := by
  simp only [step, Option.bind_eq_some_iff, Option.ite_none_right_eq_some] at hm
  obtain ⟨w, hw?, hp, e, he, hm⟩ := hm
  obtain ⟨hworker, rfl⟩ := Crew.worker?_eq_some hw?
  have ht : w.phase.hasTask := by rw [hp]; rfl
  have hplace := hw.place_of_worker hworker ht
  have hvalue := hw.value_of_worker hworker ht
  have hfits := hf (st.ledger.post w.number)
  have hself := (h (st.ledger.post w.number)).2
  rw [hp] at hplace
  simp only [File.Fits, hplace, he, Option.some.injEq, exists_eq_left'] at hfits
  simp only [File.HasGrounds, hplace, he, Option.some.injEq] at hself
  have hgrounds := Errand.grounds_reply life hfits.2 hfits.1 hself answers
  have hx := Errand.not_decided_rush life (st.ledger.file (st.ledger.post w.number)).value
    (e.resume answers)
  rw [← hvalue] at hm
  generalize (e.resume answers).rush life (st.ledger.file _).value = x at hm hgrounds hx
  rw [Errand.HasGrounds] at hgrounds
  cases hr : x.2.result? with
  | none =>
      rw [hr] at hm hgrounds
      cases hm
      suffices hsend : (st.send (st.ledger.post w.number) x).Grounded p st.ledger from hsend
      refine h.send (fun _ _ => rfl) hx ?_
      rw [File.HasGrounds, hplace]
      exact fun w hx => absurd (Option.some.inj hx) (hgrounds w)
  | some o =>
      rw [hr] at hm hgrounds
      obtain ⟨c, _, rfl⟩ := Option.map_eq_some_iff.mp hm
      suffices hnote : (st.send (st.ledger.post w.number) x).Grounded p
          (st.ledger.amend (st.ledger.post w.number) (.answer st.crew.now o)) from hnote
      refine h.send (fun j hj => Ledger.amend_file_of_ne hj) hx ?_
      rw [Ledger.amend_file_self]
      exact hgrounds

theorem step {m : Move} (h : st.Grounded s.policy st.ledger) (hf : st.Fits st.ledger)
    (hw : Watched s st.crew st.ledger) (hm : st.step life m = some st') :
    st'.Grounded s.policy st'.ledger := by
  cases m with
  | reply n answers => exact h.reply hf hw hm
  | crew m =>
      cases m with
      | finish n o => cases hm
      | work n =>
          obtain ⟨c, hc, rfl⟩ := Option.map_eq_some_iff.mp hm
          cases hw? : st.crew.worker? n with
          | none =>
              simp only [hw?, Option.elim, Crew.step, Option.bind_none, reduceCtorEq] at hc
          | some w =>
              obtain ⟨hcrew, hledger⟩ := heed_frame st life w
              simp only [hw?, Option.elim, hcrew, hledger, Ledger.note]
              exact h.follow hw (Crew.worker?_eq_some hw?).1
      | _ => exact h.carry hm (by simp) (by simp)

theorem new (s : Settings) (epoch : Millis) : (new s epoch).Grounded p (Ledger.new s) :=
  fun _ => ⟨.nil, trivial⟩

theorem along {ms : List Move} (h : st.Grounded s.policy st.ledger) (hf : st.Fits st.ledger)
    (hw : Watched s st.crew st.ledger) (hr : st.run life ms = some st') :
    st'.Grounded s.policy st'.ledger := by
  induction ms generalizing st with
  | nil =>
      cases hr
      exact h
  | cons m ms ih =>
      obtain ⟨st₁, hm, hr⟩ := Option.bind_eq_some_iff.mp hr
      obtain ⟨cs, hcs, hl⟩ := moves_of_step hm
      exact ih (h.step hf hw hm) (hf.step hw hm) (hl ▸ hw.along hcs) hr

theorem ofRun {epoch : Millis} {ms : List Move}
    (hr : (Shift.new s epoch).run life ms = some st) : st.Grounded s.policy st.ledger :=
  (new s epoch).along (.new s epoch) (.new s epoch) hr

end Grounded
end Shift
end Intake.Poll
