import Intake.Proofs.Poll.Conservation
import Intake.Proofs.Poll.Discard

/-!
# What is seen of a task over its life

Read off what is seen of a task at any moment: one reconciliation at most settles it, the discard of
its record comes right after that, and nothing but the end of the task after the discard.
-/

namespace Intake.Poll

open Service (Call)

/-- Whether a reconciliation has come back that leaves nothing to be done. -/
def Event.isSettling : Event → Bool
  | .reconciled _ o => o.isSettled
  | _ => false

/-- What is seen of a task that no reconciliation has settled. -/
def IsUnsettled (url : String) (es : List Event) : Prop :=
  ∀ e ∈ es, e.isOpen url ∨ ∃ d, e = .decided d ∧ ∀ v, d ≠ .finish v

/-- What is seen of a task with the status URL `url`. -/
structure SettlesOnce (url : String) (es : List Event) : Prop where
  once : es.countP Event.isSettling ≤ 1
  /-- Once it is settled, its record is discarded, and then it is finished, if anything is seen. -/
  settled : ∀ pre v o post, es = pre ++ .reconciled v o :: post → o.isSettled →
    post = [.discarded url] ∨ post = [.discarded url, .decided (.finish v)]
  discarded : ∀ pre u post, es = pre ++ .discarded u :: post →
    u = url ∧ ∃ before v o, pre = before ++ [.reconciled v o] ∧ o.isSettled
  /-- If it ends in any other way, its record is not discarded. -/
  unsettled : ∀ d, .decided d ∈ es → (∀ v, d ≠ .finish v) → d.isFinal → ∀ u, .discarded u ∉ es
  polled : ∀ u, .polled u ∈ es → u = url

variable {url : String} {es : List Event} {v : Verdict} {f : File} {e : Option Errand}

theorem split_unique {α : Type} {p : α → Prop} {as bs pre post : List α} {a b : α}
    (has : ∀ x ∈ as, ¬ p x) (hbs : ∀ x ∈ bs, ¬ p x) (hb : p b)
    (h : as ++ a :: bs = pre ++ b :: post) : as = pre ∧ a = b ∧ bs = post := by
  rcases List.append_eq_append_iff.mp h with ⟨cs, rfl, hcs⟩ | ⟨cs, rfl, hcs⟩
  · cases cs with
    | nil => simpa using hcs
    | cons c cs =>
        obtain ⟨rfl, rfl⟩ := List.cons.inj hcs
        exact absurd hb (hbs b (by simp))
  · cases cs with
    | nil => simpa [eq_comm] using hcs
    | cons c cs =>
        obtain ⟨rfl, rfl⟩ := List.cons.inj hcs
        exact absurd hb (has b (by simp))

theorem IsOpen.isUnsettled (h : IsOpen url es) : IsUnsettled url es := fun e he => .inl (h e he)

namespace IsUnsettled

theorem isSettling (h : IsUnsettled url es) : ∀ x ∈ es, ¬ x.isSettling := by
  intro x hx hs
  cases x with
  | reconciled v o =>
      rcases h _ hx with ho | ⟨d, hd, _⟩
      · simp only [Event.isOpen, Event.isSettling] at ho hs
        rw [hs] at ho
        cases ho
      · cases hd
  | _ => cases hs

theorem not_discarded (h : IsUnsettled url es) (u : String) : .discarded u ∉ es := by
  intro hm
  rcases h _ hm with ho | ⟨d, hd, _⟩
  · cases ho
  · cases hd

theorem polled (h : IsUnsettled url es) (u : String) (hm : .polled u ∈ es) : u = url := by
  rcases h _ hm with ho | ⟨d, hd, _⟩
  · exact of_decide_eq_true ho
  · cases hd

theorem settlesOnce (h : IsUnsettled url es) : SettlesOnce url es where
  once := by
    rw [List.countP_eq_zero.mpr h.isSettling]
    exact Nat.zero_le _
  settled := fun pre v o post he ho => absurd ho (h.isSettling (.reconciled v o) (by simp [he]))
  discarded := fun pre u post he => absurd (by simp [he]) (h.not_discarded u)
  unsettled := fun _ _ _ _ u => h.not_discarded u
  polled := h.polled

end IsUnsettled

/-! ## A task that is settled -/

section

variable {tail : List Event} {o : Remote.Outcome}

theorem not_isSettling_of_finish (url : String) (ht : ∀ x ∈ tail, x = .decided (.finish v)) :
    ∀ x ∈ .discarded url :: tail, ¬ x.isSettling := by
  intro x hx
  rcases List.mem_cons.mp hx with rfl | hx
  · exact Bool.false_ne_true
  · rw [ht x hx]
    exact Bool.false_ne_true

theorem IsOpen.countP_settled (h : IsOpen url es) (ht : ∀ x ∈ tail, x = .decided (.finish v)) :
    (es ++ .reconciled v o :: .discarded url :: tail).countP Event.isSettling ≤ 1 := by
  have hbefore := List.countP_eq_zero.mpr h.isUnsettled.isSettling
  have hafter := List.countP_eq_zero.mpr (not_isSettling_of_finish url ht)
  rw [List.countP_append, hbefore, List.countP_cons, hafter]
  split <;> omega

theorem IsOpen.split_settled {v' : Verdict} {o' : Remote.Outcome} {pre post : List Event}
    (h : IsOpen url es) (ht : ∀ x ∈ tail, x = .decided (.finish v))
    (he : es ++ .reconciled v o :: .discarded url :: tail = pre ++ .reconciled v' o' :: post)
    (ho : o'.isSettled) : v' = v ∧ post = .discarded url :: tail := by
  obtain ⟨_, heq, hpost⟩ := split_unique (p := fun x => x.isSettling) h.isUnsettled.isSettling
    (not_isSettling_of_finish url ht) ho he
  exact ⟨(Event.reconciled.inj heq).1.symm, hpost.symm⟩

theorem IsOpen.split_discarded {u : String} {pre post : List Event} (h : IsOpen url es)
    (ht : ∀ x ∈ tail, x = .decided (.finish v))
    (he : es ++ .reconciled v o :: .discarded url :: tail = pre ++ .discarded u :: post) :
    u = url ∧ pre = es ++ [.reconciled v o] := by
  have hbefore : ∀ x ∈ es ++ [.reconciled v o], ¬ ∃ u, x = .discarded u := by
    rintro x hx ⟨u, rfl⟩
    rcases List.mem_append.mp hx with hx | hx
    · exact h.isUnsettled.not_discarded u hx
    · cases List.mem_singleton.mp hx
  have hafter : ∀ x ∈ tail, ¬ ∃ u, x = .discarded u := by
    rintro x hx ⟨u, rfl⟩
    cases ht _ hx
  rw [List.append_cons] at he
  obtain ⟨hpre, hu, _⟩ :=
    split_unique (p := fun x => ∃ u, x = .discarded u) hbefore hafter ⟨u, rfl⟩ he
  exact ⟨(Event.discarded.inj hu).symm, hpre.symm⟩

/-- Of a settled task nothing more is seen after the discard than that it is finished. -/
theorem IsOpen.settlesOnce (h : IsOpen url es) (ho : o.isSettled)
    (ht : tail = [] ∨ tail = [.decided (.finish v)]) :
    SettlesOnce url (es ++ .reconciled v o :: .discarded url :: tail) := by
  have htail : ∀ x ∈ tail, x = .decided (.finish v) := by
    rcases ht with rfl | rfl <;> simp
  refine ⟨h.countP_settled htail, fun pre v' o' post he ho' => ?_, fun pre u post he => ?_,
    fun d hd hne hfinal => ?_, fun u hu => ?_⟩
  · obtain ⟨rfl, rfl⟩ := h.split_settled htail he ho'
    exact ht.imp (congrArg _) (congrArg _)
  · obtain ⟨hu, hpre⟩ := h.split_discarded htail he
    exact ⟨hu, es, v, o, hpre, ho⟩
  · rcases List.mem_append.mp hd with hd | hd
    · have hopen := h _ hd
      rw [Event.isOpen, hfinal] at hopen
      cases hopen
    · simp only [List.mem_cons, reduceCtorEq, false_or] at hd
      exact absurd (Event.decided.inj (htail _ hd)) (hne v)
  · rcases List.mem_append.mp hu with hu | hu
    · exact h.isUnsettled.polled u hu
    · simp only [List.mem_cons, reduceCtorEq, false_or] at hu
      cases htail _ hu

end

theorem IsSealed.settlesOnce (h : IsSealed url v es) : SettlesOnce url es := by
  obtain ⟨before, o, hopen, ho, rfl⟩ := h
  exact hopen.settlesOnce ho (.inl rfl)

theorem IsSealed.settlesOnce_finish (h : IsSealed url v es) :
    SettlesOnce url (es ++ [.decided (.finish v)]) := by
  obtain ⟨before, o, hopen, ho, rfl⟩ := h
  rw [List.append_assoc]
  exact hopen.settlesOnce ho (.inr rfl)

theorem IsOpen.settlesOnce_decided {d : Decision} (h : IsOpen url es) (hd : ∀ v, d ≠ .finish v) :
    SettlesOnce url (es ++ [.decided d]) := by
  refine IsUnsettled.settlesOnce fun x hx => ?_
  rcases List.mem_append.mp hx with hx | hx
  · exact .inl (h x hx)
  · exact .inr ⟨d, List.mem_singleton.mp hx, hd⟩

theorem Outcome.Fits.settlesOnce {o : Outcome} (h : o.Fits url es) : SettlesOnce url es := by
  cases o with
  | finalized v => exact IsSealed.settlesOnce h
  | _ => exact (IsOpen.isUnsettled h).settlesOnce

theorem Errand.Fits.settlesOnce {t : Task} {e : Errand} (h : e.Fits t es) :
    SettlesOnce t.statusUrl es := by
  cases e with
  | inquiring w => exact h.2.isUnsettled.settlesOnce
  | reconciling v w => exact (IsOpen.isUnsettled h).settlesOnce
  | settling w =>
      obtain ⟨v, _, _, _, _, hsealed⟩ := h
      exact hsealed.settlesOnce

/-- Wherever a task is, it has been settled at most once. -/
theorem File.Fits.settlesOnce (h : f.Fits e es) : SettlesOnce f.value.statusUrl es := by
  unfold File.Fits at h
  split at h
  · rw [h]
    exact IsOpen.nil.isUnsettled.settlesOnce
  · obtain ⟨e', _, _, hfits⟩ := h
    exact hfits.settlesOnce
  · exact h.settlesOnce
  · exact h.settlesOnce
  · rename_i d _
    obtain ⟨before, hd, rfl⟩ := h
    cases d with
    | finish v => exact IsSealed.settlesOnce_finish hd
    | _ => exact IsOpen.settlesOnce_decided hd (by simp)
  · rcases h with h | ⟨v, h⟩
    · exact h.isUnsettled.settlesOnce
    · exact h.settlesOnce
  · exact h.isUnsettled.settlesOnce

/-! ## At work -/

namespace Shift

variable {s : Settings} {epoch : Millis} {ms : List Move} {life : Lifecycle} {st : Shift} {k : Nat}

/-- What a crew at work has done about the jobs of its tasks. -/
structure Settles (life : Lifecycle) (st : Shift) : Prop where
  task : ∀ k, SettlesOnce (st.ledger.file k).origin.statusUrl (st.seen k)
  finished : ∀ k v, (st.ledger.file k).place = .ended (.settled (.finish v)) →
    ∃ before o, o.isSettled ∧ st.seen k = before ++ [.reconciled v o,
      .discarded (st.ledger.file k).origin.statusUrl, .decided (.finish v)]
  unsettled : ∀ k d, (st.ledger.file k).place = .ended (.settled d) → (∀ v, d ≠ .finish v) →
    ∀ u, .discarded u ∉ st.seen k
  /-- Nobody polls a URL after it was discarded, if it is the URL of one task only. -/
  unpolled : ∀ k, (∀ j, j < st.ledger.issued → j ≠ k →
      (st.ledger.file j).origin.statusUrl ≠ (st.ledger.file k).origin.statusUrl) →
    ∀ pre u post, st.diary = pre ++ (k, .discarded u) :: post → ∀ j, (j, .polled u) ∉ post
  /-- Whatever a discard replies, the same comes of it. -/
  indifferent : ∀ w ∈ st.crew.workers, w.phase = .polling →
    ∀ u, (st.seen (st.ledger.post w.number)).getLast? = some (.discarded u) →
      ∀ a b, st.step life (.reply w.number a) = st.step life (.reply w.number b)

theorem statusUrl_eq (hw : Watched s st.crew st.ledger) (k : Nat) :
    (st.ledger.file k).value.statusUrl = (st.ledger.file k).origin.statusUrl :=
  congrArg (fun i : String × String × Millis => i.2.1)
    (hw.identity k (st.ledger.file k).value (List.mem_cons_self ..))

theorem Fits.finished (h : st.Fits st.ledger) {v : Verdict}
    (hp : (st.ledger.file k).place = .ended (.settled (.finish v))) :
    ∃ before o, o.isSettled ∧ st.seen k = before ++ [.reconciled v o,
      .discarded (st.ledger.file k).value.statusUrl, .decided (.finish v)] := by
  have hself := h k
  rw [File.Fits, hp] at hself
  obtain ⟨before, ⟨earlier, o, _, ho, rfl⟩, hseen⟩ := hself
  exact ⟨earlier, o, ho, by rw [hseen, List.append_assoc]; rfl⟩

theorem Fits.unsettled (h : st.Fits st.ledger) {d : Decision}
    (hp : (st.ledger.file k).place = .ended (.settled d)) (hd : ∀ v, d ≠ .finish v) (u : String) :
    .discarded u ∉ st.seen k := by
  have hself := h k
  rw [File.Fits, hp] at hself
  obtain ⟨before, hbefore, hseen⟩ := hself
  have hopen : IsOpen (st.ledger.file k).value.statusUrl before := by
    cases d with
    | finish v => exact absurd rfl (hd v)
    | _ => exact hbefore
  rw [hseen]
  intro hu
  rcases List.mem_append.mp hu with hu | hu
  · exact hopen.isUnsettled.not_discarded u hu
  · cases List.mem_singleton.mp hu

/-- Nothing is seen of a task that has not been brought. -/
theorem Fits.lt_issued (h : st.Fits st.ledger) (hw : Watched s st.crew st.ledger) {e : Event}
    (he : e ∈ st.seen k) : k < st.ledger.issued := by
  refine Nat.lt_of_not_le fun hle => ?_
  have hself := h k
  rw [File.Fits, (hw.tracks.issued k).mp hle] at hself
  rw [hself] at he
  cases he

theorem seen_of_diary {pre post : List (Nat × Event)} {e : Event}
    (hd : st.diary = pre ++ (k, e) :: post) : ∃ before, st.seen k =
      before ++ e :: post.filterMap fun x => if x.1 = k then some x.2 else none :=
  ⟨pre.filterMap fun x => if x.1 = k then some x.2 else none, by simp [seen, hd]⟩

theorem unpolled_of_task (h : st.Fits st.ledger) (hw : Watched s st.crew st.ledger)
    (htask : ∀ k, SettlesOnce (st.ledger.file k).origin.statusUrl (st.seen k))
    (hown : ∀ j, j < st.ledger.issued → j ≠ k →
      (st.ledger.file j).origin.statusUrl ≠ (st.ledger.file k).origin.statusUrl)
    {pre post : List (Nat × Event)} {u : String} (hd : st.diary = pre ++ (k, .discarded u) :: post)
    (j : Nat) : (j, .polled u) ∉ post := by
  intro hm
  obtain ⟨earlier, hseen⟩ := seen_of_diary hd
  obtain ⟨hu, before, v, o, rfl, ho⟩ := (htask k).discarded _ _ _ hseen
  have hpolled : .polled u ∈ st.seen j := mem_seen.mpr (by rw [hd]; simp [hm])
  by_cases hj : j = k
  · -- Nothing but the end of the task is seen after the discard.
    subst hj
    have hlater : .polled u ∈ post.filterMap fun x => if x.1 = j then some x.2 else none :=
      List.mem_filterMap.mpr ⟨_, hm, if_pos rfl⟩
    rw [List.append_assoc] at hseen
    rcases (htask j).settled _ _ _ _ hseen ho with hpost | hpost <;>
      rw [(List.cons.inj hpost).2] at hlater <;> simp at hlater
  · exact hown j (h.lt_issued hw hpolled) hj (((htask j).polled u hpolled).symm.trans hu)

theorem Fits.indifferent (h : st.Fits st.ledger) (hw : Watched s st.crew st.ledger) {w : Worker}
    (hm : w ∈ st.crew.workers) (hp : w.phase = .polling) {u : String}
    (hlast : (st.seen (st.ledger.post w.number)).getLast? = some (.discarded u))
    (a b : (c : Call) → c.Reply) :
    st.step life (.reply w.number a) = st.step life (.reply w.number b) := by
  have hself := h (st.ledger.post w.number)
  have hmem := List.mem_of_getLast? hlast
  rw [File.Fits, hw.place_of_worker hm (by rw [hp]; rfl), hp] at hself
  obtain ⟨e, he, _, hfits⟩ := hself
  cases e with
  | inquiring w' => exact absurd hmem (hfits.2.isUnsettled.not_discarded u)
  | reconciling v w' => exact absurd hmem ((IsOpen.isUnsettled hfits).not_discarded u)
  | settling w' =>
      obtain ⟨v, url, next, rfl, hnext, _⟩ := hfits
      have hw? : st.crew.worker? w.number = some w := Crew.worker?_of_mem hw.tracks.nodup hm
      simp only [Shift.step, hw?, hp, he, Option.bind_some, Errand.resume, Script.resume,
        Errand.rush, Errand.wrapUp, hnext]

/-- Whatever a crew at work has done, told to stop or not, it has settled each job at most once and
discarded the records of those jobs only. -/
theorem settles_of_run (hr : (Shift.new s epoch).run life ms = some st) : st.Settles life := by
  have h := Fits.ofRun hr
  have hw := watched hr
  have htask : ∀ k, SettlesOnce (st.ledger.file k).origin.statusUrl (st.seen k) := fun k =>
    statusUrl_eq hw k ▸ (h k).settlesOnce
  exact {
    task := htask
    finished := fun k v hp => statusUrl_eq hw k ▸ h.finished hp
    unsettled := fun k d hp hd u => h.unsettled hp hd u
    unpolled := fun k hown pre u post hd j => unpolled_of_task h hw htask hown hd j
    indifferent := fun w hm hp u hlast a b => h.indifferent hw hm hp hlast a b }

/-- Replies of a service that knows of no dataset and cannot discard a record. -/
def unkindly (p : Remote.Progress) : (c : Call) → c.Reply
  | .discard url => .error (.unexpectedStatus url 500)
  | c => (Service.willing p c ⟨[]⟩).1

/-- A job that is polled twice; it has failed at last, and its record cannot be discarded. -/
def failedJob : List Move :=
  [.crew .start, .crew (.send 0 (.new "a" "/a" 0)), .crew .takeSlot, .crew .takeTask,
    .crew (.work 0), .reply 0 (unkindly .inProgress), .crew (.work 0), .crew (.work 0),
    .crew (.work 0), .crew (.work 0), .crew (.work 0), .crew (.work 0), .crew .takeSlot,
    .crew .takeTask, .crew (.work 1),
    .crew (.pass 5), .crew (.work 1), .reply 1 (unkindly (.failed [])),
    .reply 1 (unkindly .inProgress), .reply 1 (unkindly .inProgress),
    .reply 1 (unkindly .inProgress), .reply 1 (unkindly .inProgress), .crew (.work 1)]

theorem settles_failedJob :
    ∃ st, (Shift.new ⟨1, 1, ⟨5, .attempts 3⟩, 1⟩ 0).run
        ⟨Service.promote ⟨"http://s"⟩, Service.reject⟩ failedJob = some st ∧
      st.seen 0 = [.polled "/a", .decided (.putBack ⟨"a", "/a", 1, 0, some 5⟩), .polled "/a",
        .reconciling .quarantined, .reconciled .quarantined .success, .discarded "/a",
        .decided (.finish .quarantined)] ∧
      st.Settles ⟨Service.promote ⟨"http://s"⟩, Service.reject⟩ := by
  have hseen : ((Shift.new ⟨1, 1, ⟨5, .attempts 3⟩, 1⟩ 0).run
      ⟨Service.promote ⟨"http://s"⟩, Service.reject⟩ failedJob).map (fun st => st.seen 0) =
      some [.polled "/a", .decided (.putBack ⟨"a", "/a", 1, 0, some 5⟩), .polled "/a",
        .reconciling .quarantined, .reconciled .quarantined .success, .discarded "/a",
        .decided (.finish .quarantined)] := rfl
  obtain ⟨st, hr, hseen⟩ := Option.map_eq_some_iff.mp hseen
  exact ⟨st, hr, hseen, settles_of_run hr⟩

end Shift
end Intake.Poll
