import Intake.Proofs.Poll.Budget
import Intake.Proofs.Poll.Grounds
import Intake.Proofs.Poll.Settled
import Intake.Proofs.Poll.Transition

/-!
# What the log of dead letters holds

The log holds the latest of the records of all tasks that were given up, in the order in which this
happened. A record says whose it is, how often the task was polled, and on what grounds it was given up.
-/

namespace Intake.Poll

open Service (Call)

/-! ## The log -/

namespace DeadLetterLog

variable {log : DeadLetterLog} {capacity : Nat} {all : List DeadLetter}

/-- The log holds the last of the records `all`, as many as it has room for. -/
def Holds (log : DeadLetterLog) (capacity : Nat) (all : List DeadLetter) : Prop :=
  log = ⟨max capacity 1, all.drop (all.length - max capacity 1)⟩

/-- That a log is full shows in its length, since it never holds more than it has room for. -/
theorem Holds.record (h : log.Holds capacity all) (l : DeadLetter) :
    (log.record l).Holds capacity (all ++ [l]) := by
  have hpos : 0 < max capacity 1 := Nat.le_max_right _ _
  rw [Holds] at h ⊢
  rw [h]
  simp only [DeadLetterLog.record, List.length_drop, List.length_append, List.length_singleton,
    mk.injEq, true_and]
  by_cases hfull : max capacity 1 ≤ all.length
  · rw [if_pos (Nat.sub_sub_self hfull), List.drop_drop,
      List.drop_append_of_le_length (by omega)]
    congr 2
    omega
  · rw [if_neg (by omega), Nat.sub_eq_zero_of_le (by omega), Nat.sub_eq_zero_of_le (by omega)]
    rfl

end DeadLetterLog

namespace Crew

variable {c c' : Crew} {m : Move}

theorem letters_letIn (c : Crew) (who : Option Party) : (c.letIn who).letters = c.letters := by
  cases who with
  | none => rfl
  | some who =>
      cases who with
      | producer n => rfl
      | worker n =>
          simp only [letIn]
          cases c.worker? n <;> rfl

/-- Only workers write into the log. -/
theorem letters_step (h : c.step m = some c') (hm : ∀ n, m ≠ .work n) : c'.letters = c.letters := by
  cases makes_of_step h with
  | work hw ha => exact absurd rfl (hm _)
  | takeTask hd ht => exact letters_letIn _ _
  | _ => rfl

end Crew

namespace Ledger

variable {c c' : Crew} {g : Ledger} {w : Worker}

/-- What has been written down as given up by a step is what goes into the log. -/
theorem letters_follow (h : c.advance w = some c') :
    ∃ l : Option DeadLetter, c'.letters = l.elim c.letters c.letters.record ∧
      (g.follow c w).letters = g.letters ++ l.toList := by
  have hconclude : ∀ d : Decision, (c.conclude w d).letters =
      d.letter?.elim c.letters c.letters.record := by
    intro d
    cases d <;> rfl
  cases hp : w.phase with
  | hired =>
      simp only [Crew.advance, hp, Option.some.injEq] at h
      simp only [follow, hp]
      subst h
      refine ⟨none, rfl, ?_⟩
      split <;> exact (List.append_nil _).symm
  | resting till =>
      simp only [Crew.advance, hp, Option.ite_none_right_eq_some, Option.some.injEq] at h
      simp only [follow, hp]
      obtain ⟨_, rfl⟩ := h
      exact ⟨none, rfl, (List.append_nil _).symm⟩
  | answered o =>
      simp only [Crew.advance, hp] at h
      simp only [follow, hp]
      split at h <;> cases h
      · rename_i ho
        rw [if_pos ho]
        exact ⟨_, hconclude _, letters_conclude⟩
      · rename_i ho
        rw [if_neg ho]
        exact ⟨none, rfl, (List.append_nil _).symm⟩
  | judging o =>
      simp only [Crew.advance, hp, Option.some.injEq] at h
      simp only [follow, hp]
      subst h
      exact ⟨_, hconclude _, letters_conclude⟩
  | returning =>
      simp only [Crew.advance, hp] at h
      simp only [follow, hp]
      refine ⟨none, ?_, ?_⟩
      · split at h <;> cases h <;> rfl
      · split <;> exact (List.append_nil _).symm
  | polling => simp [Crew.advance, hp] at h
  | blocked => simp [Crew.advance, hp] at h
  | _ =>
      simp only [Crew.advance, hp, Option.some.injEq] at h
      simp only [follow, hp]
      subst h
      exact ⟨none, rfl, (List.append_nil _).symm⟩

theorem letters_note {m : Crew.Move} (h : c.step m = some c') :
    ∃ l : Option DeadLetter, c'.letters = l.elim c.letters c.letters.record ∧
      (g.note c m).letters = g.letters ++ l.toList := by
  by_cases hm : ∃ n, m = .work n
  · obtain ⟨n, rfl⟩ := hm
    obtain ⟨w, hw, hc⟩ := Option.bind_eq_some_iff.mp h
    simp only [note, hw, Option.elim]
    exact letters_follow hc
  · have hm : ∀ n, m ≠ .work n := fun n he => hm ⟨n, he⟩
    refine ⟨none, Crew.letters_step h hm, ?_⟩
    rw [letters, settled_note hm]
    exact (List.append_nil _).symm

theorem holds_along {capacity : Nat} {ms : List Crew.Move}
    (h : c.letters.Holds capacity g.letters) (hr : c.run ms = some c') :
    c'.letters.Holds capacity (g.along c ms).letters := by
  induction ms generalizing c g with
  | nil =>
      cases hr
      exact h
  | cons m ms ih =>
      obtain ⟨c₁, hc, hr⟩ := Option.bind_eq_some_iff.mp hr
      simp only [along, hc, Option.elim]
      refine ih ?_ hr
      obtain ⟨l, hletters, hall⟩ := letters_note (g := g) hc
      rw [hletters, hall]
      cases l with
      | none => simpa using h
      | some l => exact h.record l

/-- Whatever the crew does, its log holds the latest of all records. -/
theorem holds_ofRun {s : Settings} {epoch : Millis} {ms : List Crew.Move}
    (hr : (Crew.new s epoch).run ms = some c) :
    c.letters.Holds s.deadLetterCapacity (ofRun s epoch ms).letters :=
  holds_along (congrArg (DeadLetterLog.mk _) List.drop_nil.symm) hr

end Ledger

/-! ## What is seen of those that were given up -/

theorem Decision.letter?_eq_some {d : Decision} {l : DeadLetter} :
    d.letter? = some l ↔ d = .giveUp l := by
  cases d <;> simp [letter?]

/-- The end of a task, if that is what is seen. -/
def Event.ending? : Event → Option Decision
  | .decided d => if d.isFinal then some d else none
  | _ => none

theorem Event.ending?_of_not_decided {e : Event} (h : e.isDecided = false) : e.ending? = none := by
  cases e with
  | decided d => cases h
  | _ => rfl

namespace Shift

variable {s : Settings} {epoch : Millis} {ms : List Move} {life : Lifecycle} {st st' : Shift}
  {k : Nat} {w : Worker}

/-- The ends of tasks, in the order in which they are seen. -/
def endings (st : Shift) : List (Nat × Decision) :=
  st.diary.filterMap fun x => x.2.ending?.map fun d => (x.1, d)

/-- The tasks that were given up, in the order in which this is seen, with their records. -/
def abandonments (st : Shift) : List (Nat × DeadLetter) :=
  st.diary.filterMap fun x => match x.2 with
    | .decided (.giveUp l) => some (x.1, l)
    | _ => none

theorem abandonments_eq (st : Shift) :
    st.abandonments = st.endings.filterMap fun e => e.2.letter?.map fun l => (e.1, l) := by
  rw [abandonments, endings, List.filterMap_filterMap]
  refine List.filterMap_congr fun x _ => ?_
  obtain ⟨k, e⟩ := x
  cases e with
  | decided d => cases d <;> rfl
  | _ => rfl

theorem endings_write {es : List Event} (h : ∀ e ∈ es, e.isDecided = false) :
    (st.write k es).endings = st.endings := by
  have hnone : (es.map fun e => (k, e)).filterMap
      (fun x => x.2.ending?.map fun d => (x.1, d)) = [] := by
    refine List.filterMap_eq_nil_iff.mpr fun x hx => ?_
    obtain ⟨e, he, rfl⟩ := List.mem_map.mp hx
    rw [Event.ending?_of_not_decided (h e he)]
    rfl
  simp only [endings, write, List.filterMap_append, hnone, List.append_nil]

theorem endings_decided (d : Decision) :
    (st.write k [.decided d]).endings = st.endings ++ if d.isFinal then [(k, d)] else [] := by
  simp only [endings, write, List.filterMap_append, List.append_cancel_left_eq]
  cases hd : d.isFinal <;> simp [Event.ending?, hd]

theorem endings_heed (h : st.endings = st.ledger.settled) :
    (st.heed life w).endings = (st.ledger.follow st.crew w).settled := by
  have hbegin : ∀ t, (st.send (st.ledger.post w.number) (Errand.begin life t)).endings =
      st.ledger.settled := fun t =>
    (endings_write (Errand.not_decided_rush life t _)).trans h
  have hdecide : ∀ d, (st.write (st.ledger.post w.number) [.decided d]).endings =
      (st.ledger.conclude (st.ledger.post w.number) d).settled := by
    intro d
    rw [endings_decided, h, Ledger.conclude]
    cases d.isFinal <;> simp
  cases hp : w.phase with
  | hired =>
      simp only [heed, Ledger.follow, hp]
      split
      · exact hbegin _
      · exact h
  | resting till =>
      simp only [heed, Ledger.follow, hp]
      exact hbegin _
  | answered o =>
      simp only [heed, Ledger.follow, hp]
      split
      · exact hdecide _
      · exact h
  | judging o =>
      simp only [heed, Ledger.follow, hp]
      exact hdecide _
  | returning =>
      simp only [heed, Ledger.follow, hp]
      split <;> exact h
  | _ =>
      simp only [heed, Ledger.follow, hp]
      exact h

theorem endings_carry {m : Crew.Move} (h : st.endings = st.ledger.settled)
    (hm : st.carry m = some st') (hwork : ∀ n, m ≠ .work n) : st'.endings = st'.ledger.settled := by
  obtain ⟨c, _, rfl⟩ := Option.map_eq_some_iff.mp hm
  exact h.trans (Ledger.settled_note hwork).symm

/-- What is seen to end has ended, in the same order. -/
theorem endings_step {m : Move} (h : st.endings = st.ledger.settled)
    (hm : st.step life m = some st') : st'.endings = st'.ledger.settled := by
  cases m with
  | reply n answers =>
      simp only [step, Option.bind_eq_some_iff, Option.ite_none_right_eq_some] at hm
      obtain ⟨w, _, _, e, _, hm⟩ := hm
      have hsend : (st.send (st.ledger.post n) ((e.resume answers).rush life w.task)).endings =
          st.ledger.settled := (endings_write (Errand.not_decided_rush life w.task _)).trans h
      split at hm
      · cases hm
        exact hsend
      · exact endings_carry hsend hm (by simp)
  | crew m =>
      cases m with
      | finish n o => cases hm
      | work n =>
          obtain ⟨c, hc, rfl⟩ := Option.map_eq_some_iff.mp hm
          cases hw? : st.crew.worker? n with
          | none =>
              simp only [hw?, Option.elim, Crew.step, Option.bind_none, reduceCtorEq] at hc
          | some w =>
              obtain ⟨hcrew, hledger⟩ := heed_frame st life w
              simp only [hw?, Option.elim, hcrew, hledger, Ledger.note]
              exact endings_heed h
      | _ => exact endings_carry h hm (by simp)

theorem endings_along (h : st.endings = st.ledger.settled) (hr : st.run life ms = some st') :
    st'.endings = st'.ledger.settled := by
  induction ms generalizing st with
  | nil =>
      cases hr
      exact h
  | cons m ms ih =>
      obtain ⟨st₁, hm, hr⟩ := Option.bind_eq_some_iff.mp hr
      exact ih (endings_step h hm) hr

theorem endings_ofRun (hr : (Shift.new s epoch).run life ms = some st) :
    st.endings = st.ledger.settled :=
  endings_along rfl hr

theorem map_abandonments (h : st.endings = st.ledger.settled) :
    st.abandonments.map Prod.snd = st.ledger.letters := by
  rw [abandonments_eq, h, Ledger.letters, List.map_filterMap]
  refine List.filterMap_congr fun e _ => ?_
  cases e.2.letter? <;> rfl

theorem mem_abandonments (h : st.endings = st.ledger.settled) {l : DeadLetter} :
    (k, l) ∈ st.abandonments ↔ (k, .giveUp l) ∈ st.ledger.settled := by
  rw [abandonments_eq, h]
  constructor
  · intro hm
    obtain ⟨⟨j, d⟩, he, hd⟩ := List.mem_filterMap.mp hm
    obtain ⟨l', hl, hj⟩ := Option.map_eq_some_iff.mp hd
    cases hj
    exact Decision.letter?_eq_some.mp hl ▸ he
  · exact fun hm => List.mem_filterMap.mpr ⟨_, hm, rfl⟩

theorem nodup_abandonments (h : st.endings = st.ledger.settled)
    (hn : (st.ledger.settled.map Prod.fst).Nodup) : (st.abandonments.map Prod.fst).Nodup := by
  rw [abandonments_eq, h, List.Nodup, List.pairwise_map]
  rw [List.Nodup, List.pairwise_map] at hn
  refine hn.filterMap _ fun a b hab x hx y hy => ?_
  obtain ⟨_, _, rfl⟩ := Option.map_eq_some_iff.mp hx
  obtain ⟨_, _, rfl⟩ := Option.map_eq_some_iff.mp hy
  exact hab

end Shift

/-! ## What a record says -/

section

variable {p : Policy} {t : Task} {o : Outcome} {judged date now : Millis} {l : DeadLetter} {f : File}
  {v : Visit} {vs : List Visit} {origin : Task} {since : Millis}

/-- A task is given up because a request was refused, or because its budget is spent. -/
theorem Policy.decide_eq_giveUp (h : .giveUp l = p.decide t o judged date) :
    l.dataset = t.dataset ∧ l.statusUrl = t.statusUrl ∧ l.attempts = t.attempts ∧
      ((l.reason = .rejected ∧ o = .rejected l.message) ∨
        (l.reason = .budgetExhausted ∧ o = .retry l.message ∧ p.isExhausted t judged)) := by
  cases o with
  | finalized v => cases h
  | vanished => cases h
  | rejected m =>
      cases h
      exact ⟨rfl, rfl, rfl, .inl ⟨rfl, rfl⟩⟩
  | retry m =>
      simp only [decide] at h
      split at h
      · rename_i hx
        cases h
        exact ⟨rfl, rfl, rfl, .inr ⟨rfl, rfl, hx⟩⟩
      · cases h

/-- The follow-up after the latest poll counts all polls of the task, as far as the count goes. -/
theorem History.next_attempts (h : History p origin since (v :: vs)) (made wait : Millis) :
    (v.task.next made wait).attempts = min (origin.attempts + (v :: vs).length) attemptLimit := by
  induction vs generalizing v made wait with
  | nil =>
      cases h with
      | visit _ due _ =>
          rw [due.1]
          rfl
  | cons u us ih =>
      cases h with
      | visit earlier due _ =>
          obtain ⟨_, _, ⟨_, made', _, _, _, ht⟩, _⟩ := due
          have hu := ih earlier made' p.wait
          rw [← ht] at hu
          simp only [Task.next, hu, List.length_cons]
          omega

theorem File.Sound.givenUp (h : f.Sound p now) (hp : f.place = .ended (.settled (.giveUp l))) :
    ∃ v earlier o judged date, f.visits = v :: earlier ∧ v.FollowedBy p o f.value judged ∧
      .giveUp l = p.decide f.value o judged date := by
  obtain ⟨v, earlier, hv, hd⟩ := h.decides hp
  obtain ⟨o, judged, date, hdecide, hfollow⟩ := hd.followedBy ⟨l, rfl⟩
  exact ⟨v, earlier, o, judged, date, hv, hfollow, hdecide⟩

/-- A record is about the task itself, and says how often it was polled. -/
theorem File.Sound.letter (h : f.Sound p now) (hp : f.place = .ended (.settled (.giveUp l))) :
    l.dataset = f.origin.dataset ∧ l.statusUrl = f.origin.statusUrl ∧
      l.attempts = min (f.origin.attempts + f.visits.length) attemptLimit := by
  obtain ⟨v, earlier, o, judged, date, hv, ⟨_, made, _, _, _, ht⟩, hd⟩ := h.givenUp hp
  obtain ⟨hdataset, hurl, hattempts, _⟩ := p.decide_eq_giveUp hd
  have hidentity := h.identity f.value (List.mem_cons_self ..)
  have hhistory := h.history
  rw [hv] at hhistory
  refine ⟨hdataset.trans (congrArg Prod.fst hidentity),
    hurl.trans (congrArg (fun i : String × String × Millis => i.2.1) hidentity), ?_⟩
  rw [hattempts, ht, hhistory.next_attempts, hv]

/-- A task is recorded as one that has spent its budget if its last poll asked for another and the budget
was spent then, and only if. -/
theorem File.Sound.budgetExhausted_iff (h : f.Sound p now)
    (hp : f.place = .ended (.settled (.giveUp l))) :
    l.reason = .budgetExhausted ↔ ∃ v earlier returned judged, f.visits = v :: earlier ∧
      v.answer = some (returned, .retry l.message) ∧ returned ≤ judged ∧
      p.isExhausted f.value judged := by
  obtain ⟨v, earlier, o, judged, date, hv, ⟨returned, made, ha, hr, hm, _⟩, hd⟩ := h.givenUp hp
  obtain ⟨_, _, _, ⟨hreason, rfl⟩ | ⟨hreason, rfl, hx⟩⟩ := p.decide_eq_giveUp hd
  · rw [hreason]
    refine iff_of_false (by simp) ?_
    rintro ⟨v', earlier', returned', judged', hv', ha', -⟩
    rw [hv] at hv'
    obtain ⟨rfl, rfl⟩ := List.cons.inj hv'
    rw [ha] at ha'
    cases ha'
  · exact iff_of_true hreason ⟨v, earlier, returned, judged, hv, ha, Nat.le_trans hr hm, hx⟩

end

namespace IsReasoned

variable {p : Policy} {es before after : List Event} {d : Decision} {l : DeadLetter} {m : String}
  {v : Verdict}

/-- After a reconciliation that was refused as malformed a task can only be given up, for this reason. -/
theorem refused (h : IsReasoned p es)
    (he : es = before ++ .reconciled v (.badRequest m) :: .decided d :: after) :
    ∃ l, d = .giveUp l ∧ l.reason = .rejected ∧ l.message = m := by
  obtain ⟨o, t, judged, date, ⟨x, hlast, hx⟩, rfl⟩ :=
    h (before ++ [.reconciled v (.badRequest m)]) d after (by rw [he]; simp)
  rw [List.getLast?_concat, Option.some.injEq] at hlast
  subst hlast
  cases hx
  exact ⟨_, rfl, rfl, rfl⟩

theorem rejected_iff (h : IsReasoned p es) (he : es = before ++ [.decided (.giveUp l)]) :
    l.reason = .rejected ↔ ∃ earlier v,
      es = earlier ++ [.reconciled v (.badRequest l.message), .decided (.giveUp l)] := by
  constructor
  · intro hreason
    obtain ⟨o, t, judged, date, ⟨x, hlast, hx⟩, hd⟩ := h before (.giveUp l) [] he
    obtain ⟨_, _, _, ⟨_, rfl⟩ | ⟨hbudget, _⟩⟩ := p.decide_eq_giveUp hd
    · obtain ⟨earlier, rfl⟩ := List.getLast?_eq_some_iff.mp hlast
      -- Only such a reconciliation leads to an outcome of this kind.
      cases x with
      | reconciled v o =>
          cases o with
          | badRequest m =>
              cases hx
              exact ⟨earlier, v, by rw [he, List.append_assoc]; rfl⟩
          | transient m => cases hx
          | _ => exact hx.elim
      | polled url => rcases hx with hx | ⟨_, hx⟩ <;> cases hx
      | discarded url => obtain ⟨_, hx⟩ := hx; cases hx
      | _ => exact hx.elim
    · rw [hreason] at hbudget
      cases hbudget
  · rintro ⟨earlier, v, he⟩
    obtain ⟨l', hl, hreason, _⟩ := h.refused he
    cases hl
    exact hreason

end IsReasoned

/-! ## At work -/

namespace Shift

variable {s : Settings} {epoch : Millis} {ms : List Move} {life : Lifecycle} {st : Shift}

/-- What the log of a crew at work says about the tasks that were given up. -/
structure KeepsLetters (s : Settings) (st : Shift) : Prop where
  /-- The log holds the latest records, oldest first. -/
  latest : st.crew.letters.records = (st.abandonments.map Prod.snd).drop
    (st.abandonments.length - max s.deadLetterCapacity 1)
  once : (st.abandonments.map Prod.fst).Nodup
  /-- Those that were given up are recorded, and no others. -/
  recorded : ∀ k l, (k, l) ∈ st.abandonments ↔
    (st.ledger.file k).place = .ended (.settled (.giveUp l))
  /-- A record tells whose it is and how many polls there were, as far as they are counted. -/
  own : ∀ k l, (k, l) ∈ st.abandonments → l.dataset = (st.ledger.file k).origin.dataset ∧
    l.statusUrl = (st.ledger.file k).origin.statusUrl ∧
    l.attempts = min ((st.ledger.file k).origin.attempts + (st.ledger.file k).visits.length)
      attemptLimit
  rejected : ∀ k l, (k, l) ∈ st.abandonments → (l.reason = .rejected ↔ ∃ before v,
    st.seen k = before ++ [.reconciled v (.badRequest l.message), .decided (.giveUp l)])
  /-- Whatever is decided after such a reconciliation, it is this. -/
  refused : ∀ k before v m d after,
    st.seen k = before ++ .reconciled v (.badRequest m) :: .decided d :: after →
    ∃ l, d = .giveUp l ∧ l.reason = .rejected ∧ l.message = m
  budgetExhausted : ∀ k l, (k, l) ∈ st.abandonments → (l.reason = .budgetExhausted ↔
    ∃ v earlier returned judged, (st.ledger.file k).visits = v :: earlier ∧
      v.answer = some (returned, .retry l.message) ∧ returned ≤ judged ∧
      s.policy.isExhausted (st.ledger.file k).value judged)
  /-- A task that was put back had not spent its budget then. -/
  kept : ∀ k, ∀ t ∈ (st.ledger.file k).returns, ∃ v ∈ (st.ledger.file k).visits,
    v.KeptAs s.policy t st.crew.now

/-- Whatever a crew at work has done, told to stop or not, its log is the end of the list of all that were
given up. -/
theorem keepsLetters_of_run (hr : (Shift.new s epoch).run life ms = some st) : st.KeepsLetters s := by
  have hw := watched hr
  have hends := endings_ofRun hr
  have hreasons := Grounded.ofRun hr
  have hplace : ∀ k l, (k, l) ∈ st.abandonments ↔
      (st.ledger.file k).place = .ended (.settled (.giveUp l)) := fun k l =>
    (mem_abandonments hends).trans (hw.kept.settled k _)
  refine ⟨?_, nodup_abandonments hends hw.kept.nodup, hplace,
    fun k l hm => (hw.kept.sound k).letter ((hplace k l).mp hm), fun k l hm => ?_,
    fun k before v m d after he => (hreasons k).1.refused he,
    fun k l hm => (hw.kept.sound k).budgetExhausted_iff ((hplace k l).mp hm),
    fun k => (hw.kept.sound k).kept⟩
  · obtain ⟨cs, hcs, hl⟩ := crew_run hr
    have hholds := Ledger.holds_ofRun hcs
    rw [← hl, ← map_abandonments hends] at hholds
    rw [hholds, List.length_map]
  · have hfits := Fits.ofRun hr k
    rw [File.Fits, (hplace k l).mp hm] at hfits
    obtain ⟨before, _, hseen⟩ := hfits
    exact (hreasons k).1.rejected_iff hseen

/-- A lifecycle in which every promotion is refused as malformed. -/
def refusing : Lifecycle :=
  ⟨fun _ _ => return .badRequest "no such catalogue", fun _ => return .success⟩

/-- Two tasks are given up, the first because its promotion is refused, the second because one poll is all
that is allowed. -/
def twoGivenUp : List Move :=
  [.crew .start, .crew (.send 0 (.new "a" "/a" 0)), .crew .takeSlot, .crew .takeTask,
    .crew (.work 0), .reply 0 (unkindly (.done [])), .crew (.work 0), .crew (.work 0),
    .crew (.work 0), .crew (.work 0), .crew (.send 1 (.new "b" "/b" 0)), .crew .takeSlot,
    .crew .takeTask, .crew (.work 1), .reply 1 (unkindly .inProgress), .crew (.work 1), .crew (.work 1)]

theorem keepsLetters_twoGivenUp :
    ∃ st, (Shift.new ⟨1, 1, ⟨5, .attempts 1⟩, 0⟩ 0).run refusing twoGivenUp = some st ∧
      st.abandonments = [(0, ⟨"a", "/a", 1, .rejected, "no such catalogue", 0⟩),
        (1, ⟨"b", "/b", 1, .budgetExhausted, "transform still in progress", 0⟩)] ∧
      st.crew.letters.records =
        [⟨"b", "/b", 1, .budgetExhausted, "transform still in progress", 0⟩] ∧
      st.KeepsLetters ⟨1, 1, ⟨5, .attempts 1⟩, 0⟩ := by
  have hrun : ((Shift.new ⟨1, 1, ⟨5, .attempts 1⟩, 0⟩ 0).run refusing twoGivenUp).map
      (fun st => (st.abandonments, st.crew.letters.records)) =
      some ([(0, ⟨"a", "/a", 1, .rejected, "no such catalogue", 0⟩),
        (1, ⟨"b", "/b", 1, .budgetExhausted, "transform still in progress", 0⟩)],
        [⟨"b", "/b", 1, .budgetExhausted, "transform still in progress", 0⟩]) := rfl
  obtain ⟨st, hr, hst⟩ := Option.map_eq_some_iff.mp hrun
  obtain ⟨habandoned, hrecords⟩ := Prod.mk.inj hst
  exact ⟨st, hr, habandoned, hrecords, keepsLetters_of_run hr⟩

end Shift
end Intake.Poll
