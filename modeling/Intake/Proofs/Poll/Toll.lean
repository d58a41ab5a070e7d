import Intake.Proofs.Poll.Plant

/-!
# What scripts count

An ingest counts once, on its way to its end: that its task is in the line, or that it has failed. A poll
counts that it has begun, and from then on nothing that the crew or an ingest counts.
-/

namespace Intake

open Service (Call Work Site Submission Fault)

/-! ## On the way to the next wait -/

namespace Script

variable {α : Type} {P : Call → Prop} {w : Work α}

theorem counted_ask {c : Call} (h : c.isAwaited) (next : c.Reply → Work α) :
    (ask c next).counted = [] := by
  cases c with
  | report e => cases h
  | count k => cases h
  | _ => rfl

namespace Always

theorem counted (h : w.Always P) : ∀ k ∈ w.counted, P (.count k) := by
  induction w with
  | done a => simp [Script.counted]
  | ask c next ih =>
      cases c with
      | report e => exact ih () (h.2 ())
      | count k =>
          intro j hj
          rcases List.mem_cons.mp hj with rfl | hj
          · exact h.1
          · exact ih () (h.2 ()) j hj
      | _ => simp [Script.counted]

theorem rush (h : w.Always P) : w.rush.Always P := by
  induction w with
  | done a => trivial
  | ask c next ih =>
      cases c with
      | report e => exact ih () (h.2 ())
      | count k => exact ih () (h.2 ())
      | _ => exact h

theorem resume (h : w.Always P) (answers : (c : Call) → c.Reply) : (w.resume answers).Always P := by
  cases w with
  | done a => trivial
  | ask c next => exact h.2 _

end Always
end Script

namespace Metrics.Counter

/-- What the crew counts. -/
def isOfCrew : Counter → Bool
  | requeues | completions | vanished | rejected | deadLettered | queueOverflow => true
  | _ => false

/-- What is counted of a task on its way from the ingest that brings it to its end. -/
def isOfTask : Counter → Bool
  | datasetsIngested | datasetsFailed | polls => true
  | k => k.isOfCrew

end Metrics.Counter

theorem Service.Call.Reconciles.not_isOfTask {dataset : String} {k : Metrics.Counter}
    (h : (Call.count k).Reconciles dataset) : k.isOfTask = false := by
  cases h with
  | count => rfl
  | removes h =>
      cases h
      rfl
  | adopts h => cases h
  | inquires h =>
      cases h
      rfl

theorem Script.Always.count_counted {α : Type} {dataset : String} {w : Work α}
    (h : w.Always (Call.Reconciles dataset)) {k : Metrics.Counter} (hk : k.isOfTask) :
    w.counted.count k = 0 := by
  refine List.count_eq_zero.mpr fun hm => ?_
  rw [(h.counted k hm).not_isOfTask] at hk
  cases hk

namespace Poll

/-! ## Ingests -/

/-- Is over before it has to wait, and has counted `k` by then. -/
structure Settles {α : Type} (k : Metrics.Counter) (w : Work α) : Prop where
  counted : w.counted = [k]
  finishes : ∃ a, w.rush = .done a

/-- Waits, and will count when it is over. -/
inductive Owes : Work (Except Fault String) → Prop
  | enqueue {dataset statusUrl : String} {next : Except LineFault Unit → Work (Except Fault String)}
      (h : Settles .datasetsIngested (next (.ok ()))) : Owes (.ask (.enqueue dataset statusUrl) next)
  | ask {c : Call} {next : c.Reply → Work (Except Fault String)} (hc : c.isAwaited)
      (hline : c.isEnqueue = false) (h : ∀ r, ¬ Settles .datasetsFailed (next r) → Owes (next r)) :
      Owes (.ask c next)

theorem Owes.waits {w : Work (Except Fault String)} (h : Owes w) : w.rush = w ∧ w.counted = [] := by
  cases h with
  | enqueue => exact ⟨rfl, rfl⟩
  | ask hc => exact ⟨rush_ask hc _, Script.counted_ask hc _⟩

theorem owes_ingest (site : Site) (s : Submission) : Owes (Service.ingest site s) := by
  refine .ask rfl rfl fun dataset _ => .ask rfl rfl fun stored hopen => ?_
  cases stored with
  | error e => exact absurd ⟨rfl, _, rfl⟩ hopen
  | ok =>
      refine .ask rfl rfl fun stored hopen => ?_
      cases stored with
      | error e => exact absurd ⟨rfl, _, rfl⟩ hopen
      | ok =>
          refine .ask rfl rfl fun submitted hopen => ?_
          cases submitted with
          | error e => exact absurd ⟨rfl, _, rfl⟩ hopen
          | ok statusUrl => exact .enqueue ⟨rfl, _, rfl⟩

inductive Ingest.Sound : Ingest → Prop
  | over {a : Except Fault String} : Sound (.working (.done a))
  | owing {w : Work (Except Fault String)} (h : Owes w) : Sound (.working w)
  | queueing {w : Work (Except Fault String)} (h : Settles .datasetsIngested w) : Sound (.queueing w)

variable {n : Nat} {w : Work (Except Fault String)}

theorem Ingest.Sound.reply {c : Call} {next : c.Reply → Work (Except Fault String)}
    (h : Sound (.working (.ask c next))) (hc : c.isEnqueue = false) (r : c.Reply) :
    Settles .datasetsFailed (next r) ∨ Owes (next r) := by
  cases h with
  | owing h =>
      cases h with
      | enqueue => cases hc
      | ask _ _ h => exact or_iff_not_imp_left.mpr (h r)

theorem Ingest.Sound.brought {dataset statusUrl : String}
    {next : Except LineFault Unit → Work (Except Fault String)}
    (h : Sound (.working (.ask (.enqueue dataset statusUrl) next))) :
    Settles .datasetsIngested (next (.ok ())) := by
  cases h with
  | owing h =>
      cases h with
      | enqueue h => exact h
      | ask _ hline => cases hline

/-! ## The scripts of a plant -/

namespace Plant

variable {p p' : Plant} {site : Site} {m : Move}

theorem tally_pay {α : Type} (p : Plant) (w : Work α) (k : Metrics.Counter) :
    (p.pay w).tally k = p.tally k + w.counted.count k :=
  Metrics.Tally.foldl_count ..

theorem tally_heed (p : Plant) (site : Site) (w : Worker) {k : Metrics.Counter} (hk : k.isOfTask) :
    (p.heed site w).tally k =
      p.tally k + if w.begins p.crew.now then [Metrics.Counter.polls].count k else 0 := by
  unfold heed
  simp only
  split
  · obtain ⟨next, hattempt, hnext⟩ := @Service.reconciles_attempt site w.task
    have hrest : (next ()).counted.count k = 0 := hnext.count_counted hk
    show (pay _ _).tally k = _
    rw [tally_pay, hattempt, Script.counted, List.count_cons, hrest, List.count_cons, List.count_nil]
  · rfl

/-- What is left of the ingests and polls of a plant, and what they have counted. -/
structure Scripted (p : Plant) : Prop where
  ingests : ∀ i ∈ p.ingests, i.Sound
  polls : ∀ n w, p.polls n = some w → ∃ dataset, w.Always (Call.Reconciles dataset)
  crew : ∀ k, k.isOfCrew → p.tally k = 0
  finished : p.tally .datasetsIngested + p.tally .datasetsFailed = p.ingests.countP Ingest.isFinished

namespace Scripted

theorem new (s : Settings) (epoch : Millis) : Scripted (Plant.new s epoch) :=
  ⟨by simp [Plant.new], by simp [Plant.new], fun _ _ => rfl, rfl⟩

theorem frame (h : p.Scripted) (hingests : p'.ingests = p.ingests) (hpolls : p'.polls = p.polls)
    (htally : p'.tally = p.tally) : p'.Scripted :=
  ⟨hingests ▸ h.ingests, hpolls ▸ h.polls, htally ▸ h.crew, htally ▸ hingests ▸ h.finished⟩

theorem sound (h : p.Scripted) {i : Ingest} (hn : p.ingests[n]? = some i) : i.Sound :=
  h.ingests i (List.mem_of_getElem? hn)

theorem set_ingests (h : p.Scripted) {j : Ingest} (hj : j.Sound) :
    ∀ i ∈ p.ingests.set n j, i.Sound := by
  intro i hi
  rcases List.mem_or_eq_of_mem_set hi with hi | rfl
  · exact h.ingests i hi
  · exact hj

theorem countP_set {is : List Ingest} {i : Ingest} (hn : is[n]? = some i)
    (hi : i.isFinished = false) (j : Ingest) :
    (is.set n j).countP Ingest.isFinished =
      is.countP Ingest.isFinished + if j.isFinished then 1 else 0 := by
  obtain ⟨hlt, rfl⟩ := List.getElem?_eq_some_iff.mp hn
  rw [List.countP_set hlt, hi, if_neg Bool.false_ne_true, Nat.sub_zero]

theorem settle (h : p.Scripted) {i : Ingest} {k : Metrics.Counter} (hn : p.ingests[n]? = some i)
    (hi : i.isFinished = false) (hk : k = .datasetsIngested ∨ k = .datasetsFailed)
    (hw : Settles k w) : (p.setIngest n w).Scripted := by
  obtain ⟨hcounted, a, hrush⟩ := hw
  have htally := p.tally_pay w
  simp only [hcounted] at htally
  -- What an ingest counts is nothing of the crew's.
  refine ⟨h.set_ingests (hrush ▸ .over), h.polls, fun j hj => ?_, ?_⟩
  · have hne : j ≠ k := by
      rintro rfl
      rcases hk with rfl | rfl <;> cases hj
    refine (htally j).trans ?_
    rw [List.count_eq_zero.mpr (by simpa using hne)]
    exact h.crew j hj
  · show (p.pay w).tally _ + (p.pay w).tally _ = (p.ingests.set n _).countP _
    have hfinished := h.finished
    rw [htally, htally, countP_set hn hi, hrush]
    rcases hk with rfl | rfl <;> simp [Ingest.isFinished] <;> omega

theorem wait (h : p.Scripted) {i : Ingest} (hn : p.ingests[n]? = some i)
    (hi : i.isFinished = false) (hw : Owes w) : (p.setIngest n w).Scripted := by
  obtain ⟨hrush, hcounted⟩ := hw.waits
  have htally : ∀ k, (p.pay w).tally k = p.tally k := fun k => by
    rw [tally_pay, hcounted]
    rfl
  have hopen : Ingest.isFinished (.working w) = false := by
    cases hw <;> rfl
  refine ⟨h.set_ingests (by rw [hrush]; exact .owing hw), h.polls,
    fun j hj => (htally j).trans (h.crew j hj), ?_⟩
  show (p.pay w).tally _ + (p.pay w).tally _ = (p.ingests.set n _).countP _
  rw [htally, htally, countP_set hn hi, hrush, hopen]
  exact h.finished

theorem tally_reply (h : p.Scripted) {c : Call} {next : c.Reply → Work (Except Fault String)}
    (hn : p.ingests[n]? = some (.working (.ask c next))) (hc : c.isEnqueue = false) (r : c.Reply)
    {k : Metrics.Counter} (hk : k ≠ .datasetsFailed) : (p.setIngest n (next r)).tally k = p.tally k := by
  refine (p.tally_pay _ k).trans ?_
  rcases (h.sound hn).reply hc r with hw | hw
  · rw [hw.counted, List.count_eq_zero.mpr (by simpa using hk), Nat.add_zero]
  · rw [hw.waits.2, List.count_nil, Nat.add_zero]

theorem tally_notice (h : p.Scripted) (hn : p.ingests[n]? = some (.queueing w))
    (k : Metrics.Counter) :
    (p.setIngest n w).tally k = p.tally k + [Metrics.Counter.datasetsIngested].count k := by
  cases h.sound hn with
  | queueing hw => exact (p.tally_pay w k).trans (by rw [hw.counted])

theorem tally_resume (h : p.Scripted) {work : Work Outcome} (hwork : p.polls n = some work)
    (answers : (c : Call) → c.Reply) {k : Metrics.Counter} (hk : k.isOfTask) :
    (p.setPoll n (work.resume answers)).tally k = p.tally k := by
  obtain ⟨dataset, hwork⟩ := h.polls n work hwork
  refine (p.tally_pay _ k).trans ?_
  rw [(hwork.resume answers).count_counted hk, Nat.add_zero]

theorem setPoll (h : p.Scripted) {work : Work Outcome} {dataset : String}
    (hrush : work.rush.Always (Call.Reconciles dataset))
    (hcounted : ∀ k, k ≠ .polls → k.isOfTask → work.counted.count k = 0) :
    (p.setPoll n work).Scripted := by
  have htally : ∀ k, k ≠ .polls → k.isOfTask → (p.pay work).tally k = p.tally k :=
    fun k hne hk => by rw [tally_pay, hcounted k hne hk, Nat.add_zero]
  refine ⟨h.ingests, fun m w hw => ?_, fun k hk => ?_, ?_⟩
  · simp only [Plant.setPoll] at hw
    split at hw
    · cases hw
      exact ⟨dataset, hrush⟩
    · exact h.polls m w hw
  · refine (htally k ?_ ?_).trans (h.crew k hk)
    · rintro rfl
      cases hk
    · cases k <;> first | rfl | cases hk
  · show (p.pay work).tally _ + (p.pay work).tally _ = _
    rw [htally _ (by simp) rfl, htally _ (by simp) rfl]
    exact h.finished

theorem setPoll_attempt (h : p.Scripted) (t : Task) :
    (p.setPoll n (attempt ⟨Service.promote site, Service.reject⟩ t)).Scripted := by
  obtain ⟨next, hattempt, hnext⟩ := @Service.reconciles_attempt site t
  rw [hattempt]
  refine h.setPoll hnext.rush fun k hne hk => ?_
  rw [Script.counted, List.count_cons_of_ne (Ne.symm hne)]
  exact hnext.count_counted hk

theorem setPoll_resume (h : p.Scripted) {work : Work Outcome} (hwork : p.polls n = some work)
    (answers : (c : Call) → c.Reply) : (p.setPoll n (work.resume answers)).Scripted := by
  obtain ⟨dataset, hwork⟩ := h.polls n work hwork
  have hnext := hwork.resume answers
  exact h.setPoll hnext.rush fun k _ hk => hnext.count_counted hk

theorem heed (h : p.Scripted) (w : Worker) : (p.heed site w).Scripted := by
  unfold Plant.heed
  simp only
  split
  · refine setPoll_attempt ?_ w.task
    exact h.frame rfl rfl rfl
  · exact h.frame rfl rfl rfl

theorem step (h : p.Scripted) (hm : p.Makes site m p') : p'.Scripted := by
  cases hm with
  | @ingest s =>
      refine ⟨fun i hi => ?_, h.polls, h.crew, ?_⟩
      · rcases List.mem_append.mp hi with hi | hi
        · exact h.ingests i hi
        · rw [List.mem_singleton.mp hi]
          exact .owing (owes_ingest site s)
      · show p.tally _ + p.tally _ = _
        rw [List.countP_append, h.finished]
        rfl
  | reply hn hc =>
      rcases (h.sound hn).reply hc _ with hw | hw
      · exact h.settle hn rfl (Or.inr rfl) hw
      · exact h.wait hn rfl hw
  | bring hn =>
      refine ⟨h.set_ingests (.queueing (h.sound hn).brought), h.polls, h.crew, ?_⟩
      show p.tally _ + p.tally _ = (p.ingests.set _ _).countP _
      rw [countP_set hn rfl]
      exact h.finished
  | notice hn =>
      cases h.sound hn with
      | queueing hw => exact (h.settle hn rfl (Or.inl rfl) hw).frame rfl rfl rfl
  | answer _ _ hwork => exact h.setPoll_resume hwork _
  | finish hwork => exact (h.setPoll_resume hwork _).frame rfl rfl rfl
  | read => exact h.frame rfl rfl rfl
  | display => exact h.frame rfl rfl rfl
  | @work n w c =>
      have hheed : (p.heed site w).Scripted := h.heed w
      exact hheed.frame rfl rfl rfl
  | abandon => exact h.frame rfl rfl rfl
  | takeTask => exact h.frame rfl rfl rfl
  | quiet => exact h.frame rfl rfl rfl

end Scripted
end Plant
end Poll
end Intake
