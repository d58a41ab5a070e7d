import Intake.Proofs.Poll.Run

/-!
# The budget of attempts

A task that is new when it is brought counts its own polls: each poll sees how many there were
before it, and the record of a task that is given up says how many there were. Under a policy that
counts attempts there are never more than the policy allows, and exactly as many when none of them
settles the matter.
-/

namespace Intake.Poll

def Visit.saysRetry (v : Visit) : Prop := ∃ returned reason, v.answer = some (returned, .retry reason)

def Place.comesBack : Place → Bool
  | .held (.resting _) | .held .returning => true
  | l => l.isDue

/-- The file of a task that is polled at most `most` times, and at least once. -/
structure File.KeepsBudget (f : File) (most : Nat) : Prop where
  numbered : f.visits.reverse.map (fun v => v.task.attempts) = List.range f.visits.length
  bounded : f.visits.length ≤ max most 1
  putBack : ∀ t ∈ f.returns, t.attempts < max most 1
  /-- A task that is to be polled again has a poll left; after the last one it can only end. -/
  hasLeft : f.place.comesBack → f.visits.length < max most 1
  /-- When no poll settles the matter, the budget is spent to the end. -/
  spent : ∀ d, f.place = .ended (.settled d) → (∀ v ∈ f.visits, v.saysRetry) →
    f.visits.length = max most 1 ∧ ∃ l, d = .giveUp l ∧ l.reason = .budgetExhausted
  exhausted : ∀ l, f.place = .ended (.settled (.giveUp l)) → l.reason = .budgetExhausted →
    f.visits.length = max most 1
  recorded : ∀ l, f.place = .ended (.settled (.giveUp l)) → l.attempts = f.visits.length
  /-- Neither the count in a follow-up nor the one in the report of success reaches the limit. -/
  unsaturated : ∀ v ∈ f.visits, (∀ now wait, (v.task.next now wait).attempts = v.task.attempts + 1) ∧
    ∀ x, (Decision.finish x).events v.task =
      [.taskCompleted v.task.dataset x.name (v.task.attempts + 1)]

variable {p : Policy} {origin : Task} {since now : Millis} {most : Nat} {v : Visit}
  {vs : List Visit} {o : Outcome} {t : Task} {d : Decision} {f : File}

theorem Task.next_attempts (h : t.attempts < attemptLimit) (now wait : Millis) :
    (t.next now wait).attempts = t.attempts + 1 :=
  Nat.min_eq_left h

theorem Policy.isExhausted_attempts (hp : p.stop = .attempts most) :
    p.isExhausted t now ↔ max most 1 ≤ t.attempts := by
  simp only [isExhausted, hp, decide_eq_true_eq]

theorem Visit.FollowedBy.attempts_eq (h : v.FollowedBy p o t now)
    (hv : v.task.attempts < attemptLimit) : t.attempts = v.task.attempts + 1 := by
  obtain ⟨_, made, _, _, _, rfl⟩ := h
  exact Task.next_attempts hv made p.wait

theorem Visit.KeptAs.attempts_lt (h : v.KeptAs p t now) (hp : p.stop = .attempts most) :
    t.attempts < max most 1 := by
  obtain ⟨_, judged, _, _, hx⟩ := h
  exact Nat.lt_of_not_le fun hle => by simp [(Policy.isExhausted_attempts hp).mpr hle] at hx

namespace History

/-- The latest poll sees the number of those before it, which is within the budget. -/
theorem attempts_eq (h : History p origin since (v :: vs)) (hp : p.stop = .attempts most)
    (hmost : most ≤ attemptLimit) (hnew : origin.attempts = 0) :
    v.task.attempts = vs.length ∧ vs.length < max most 1 := by
  generalize hvs : v :: vs = us at h
  induction h generalizing v vs with
  | nil => cases hvs
  | visit earlier due punctual ih =>
      obtain ⟨rfl, rfl⟩ := List.cons.inj hvs
      cases vs with
      | nil => exact ⟨due.1 ▸ hnew, Nat.lt_of_lt_of_le Nat.zero_lt_one (Nat.le_max_right ..)⟩
      | cons u us =>
          obtain ⟨hu, hlt⟩ := ih rfl
          have hkept : u.KeptAs p v.task v.begunAt := due
          have hbound := hkept.attempts_lt hp
          obtain ⟨_, _, hf, _⟩ := hkept
          have hlimit : u.task.attempts < attemptLimit := by
            rw [hu]
            exact Nat.lt_of_lt_of_le hlt (Nat.max_le.mpr ⟨hmost, by decide⟩)
          have hv := hf.attempts_eq hlimit
          rw [hu] at hv
          rw [hv] at hbound
          exact ⟨hv, hbound⟩

theorem tail (h : History p origin since (v :: vs)) : History p origin since vs := by
  cases h with
  | visit earlier due punctual => exact earlier

theorem length_le (h : History p origin since vs) (hp : p.stop = .attempts most)
    (hmost : most ≤ attemptLimit) (hnew : origin.attempts = 0) : vs.length ≤ max most 1 := by
  cases vs with
  | nil => exact Nat.zero_le _
  | cons v vs => exact (h.attempts_eq hp hmost hnew).2

theorem numbered (h : History p origin since vs) (hp : p.stop = .attempts most)
    (hmost : most ≤ attemptLimit) (hnew : origin.attempts = 0) :
    vs.reverse.map (fun v => v.task.attempts) = List.range vs.length := by
  induction vs with
  | nil => rfl
  | cons v vs ih =>
      rw [List.reverse_cons, List.map_append, ih h.tail, List.length_cons, List.range_succ]
      simp [(h.attempts_eq hp hmost hnew).1]

theorem attempts_lt (h : History p origin since vs) (hp : p.stop = .attempts most)
    (hmost : most ≤ attemptLimit) (hnew : origin.attempts = 0) :
    ∀ v ∈ vs, v.task.attempts < attemptLimit := by
  induction vs with
  | nil => simp
  | cons u vs ih =>
      intro v hv
      rcases List.mem_cons.mp hv with rfl | hv
      · obtain ⟨hu, hlt⟩ := h.attempts_eq hp hmost hnew
        rw [hu]
        exact Nat.lt_of_lt_of_le hlt (Nat.max_le.mpr ⟨hmost, by decide⟩)
      · exact ih h.tail v hv

end History

namespace Visit.Decides

theorem followedBy (h : v.Decides p t d) (hd : ∃ l, d = .giveUp l) :
    ∃ o judged date, d = p.decide t o judged date ∧ v.FollowedBy p o t judged := by
  obtain ⟨o, judged, date, hd', _, ⟨ho, _⟩ | hf⟩ := h
  · obtain ⟨l, rfl⟩ := hd
    cases o with
    | finalized x => simp [Policy.decide] at hd'
    | vanished => simp [Policy.decide] at hd'
    | _ => cases ho
  · exact ⟨o, judged, date, hd', hf⟩

theorem attempts_eq {l : DeadLetter} (h : v.Decides p t (.giveUp l))
    (hv : v.task.attempts < attemptLimit) : l.attempts = v.task.attempts + 1 := by
  obtain ⟨o, judged, date, hd, hf⟩ := h.followedBy ⟨l, rfl⟩
  rw [← hf.attempts_eq hv]
  cases o with
  | finalized x => cases hd
  | vanished => cases hd
  | rejected reason =>
      cases hd
      rfl
  | retry reason =>
      simp only [Policy.decide] at hd
      split at hd
      · cases hd
        rfl
      · cases hd

theorem exhausted {l : DeadLetter} (h : v.Decides p t (.giveUp l))
    (hl : l.reason = .budgetExhausted) (hp : p.stop = .attempts most)
    (hv : v.task.attempts < attemptLimit) : max most 1 ≤ v.task.attempts + 1 := by
  obtain ⟨o, judged, date, hd, hf⟩ := h.followedBy ⟨l, rfl⟩
  rw [← hf.attempts_eq hv]
  cases o with
  | finalized x => cases hd
  | vanished => cases hd
  | rejected reason =>
      cases hd
      cases hl
  | retry reason =>
      simp only [Policy.decide] at hd
      split at hd
      · rename_i hx
        exact (Policy.isExhausted_attempts hp).mp hx
      · cases hd

/-- After a poll that asks for another, a task ends only because its budget is spent. -/
theorem of_saysRetry (h : v.Decides p t d) (hr : v.saysRetry) :
    ∃ l, d = .giveUp l ∧ l.reason = .budgetExhausted := by
  obtain ⟨returned, reason, ha⟩ := hr
  obtain ⟨o, judged, date, hd, hfinal, ⟨ho, _, _, ha'⟩ | ⟨_, _, ha', _⟩⟩ := h
  · rw [ha] at ha'
    cases ha'
    cases ho
  · rw [ha] at ha'
    cases ha'
    simp only [Policy.decide] at hd
    split at hd
    · exact ⟨_, hd, rfl⟩
    · rw [hd] at hfinal
      cases hfinal

end Visit.Decides

theorem File.Sound.decides (h : f.Sound p now) (hd : f.place = .ended (.settled d)) :
    ∃ v vs, f.visits = v :: vs ∧ v.Decides p f.value d := by
  have := h.stands
  rw [hd] at this
  exact this

theorem File.Sound.due_of_comesBack (h : f.Sound p now) (hl : f.place.comesBack) :
    Due p f.origin f.broughtAt f.visits f.value now := by
  have hstands := h.stands
  cases hp : f.place with
  | held ph =>
      rw [hp] at hl hstands
      cases ph with
      | resting till => exact hstands.1
      | returning =>
          obtain ⟨v, vs, hvs, hkept⟩ := hstands
          rw [hvs]
          exact hkept
      | _ => first | exact hstands | cases hl
  | _ =>
      rw [hp] at hl
      exact h.due (hp ▸ hl)

theorem File.Sound.keepsBudget (h : f.Sound p now) (hp : p.stop = .attempts most)
    (hmost : most ≤ attemptLimit) (hnew : f.origin.attempts = 0) : f.KeepsBudget most := by
  have hlt := h.history.attempts_lt hp hmost hnew
  have hlast : ∀ v vs, f.visits = v :: vs → v.task.attempts = vs.length ∧ vs.length < max most 1 := by
    intro v vs hvs
    exact (hvs ▸ h.history).attempts_eq hp hmost hnew
  have hexhausted : ∀ l, f.place = .ended (.settled (.giveUp l)) → l.reason = .budgetExhausted →
      f.visits.length = max most 1 := by
    intro l hl hreason
    obtain ⟨v, vs, hvs, hv⟩ := h.decides hl
    obtain ⟨hnum, hbound⟩ := hlast v vs hvs
    have := hv.exhausted hreason hp (hlt v (by simp [hvs]))
    rw [hvs, List.length_cons]
    omega
  refine ⟨h.history.numbered hp hmost hnew, h.history.length_le hp hmost hnew, ?_, ?_, ?_,
    hexhausted, ?_, ?_⟩
  · intro t ht
    obtain ⟨v, _, hk⟩ := h.kept t ht
    exact hk.attempts_lt hp
  · intro hback
    have hdue := h.due_of_comesBack hback
    cases hvs : f.visits with
    | nil => exact Nat.lt_of_lt_of_le Nat.zero_lt_one (Nat.le_max_right ..)
    | cons v vs =>
        rw [hvs] at hdue
        have hkept : v.KeptAs p f.value now := hdue
        have hbound := hkept.attempts_lt hp
        obtain ⟨_, _, hfollow, _⟩ := hkept
        rw [List.length_cons, ← (hlast v vs hvs).1,
          ← hfollow.attempts_eq (hlt v (by simp [hvs]))]
        exact hbound
  · intro d hd hall
    obtain ⟨v, vs, hvs, hv⟩ := h.decides hd
    obtain ⟨l, rfl, hreason⟩ := hv.of_saysRetry (hall v (by simp [hvs]))
    exact ⟨hexhausted l hd hreason, l, rfl, hreason⟩
  · intro l hl
    obtain ⟨v, vs, hvs, hv⟩ := h.decides hl
    rw [hv.attempts_eq (hlt v (by simp [hvs])), (hlast v vs hvs).1, hvs, List.length_cons]
  · intro v hv
    have hv := hlt v hv
    refine ⟨fun now wait => Task.next_attempts hv now wait, fun x => ?_⟩
    simp only [Decision.events, Nat.mod_eq_of_lt (Nat.succ_lt_succ hv)]

variable {s : Settings} {epoch : Millis} {ms : List Crew.Move} {c : Crew} {k : Nat}

/-- Whatever else the crew does, a task that is new when it is brought keeps its budget; the log of
dead letters holds the records of tasks that were given up; and a task that has ended is not polled
again. -/
theorem keepsBudget_of_run (hr : (Crew.new s epoch).run ms = some c)
    (hp : s.policy.stop = .attempts most) (hmost : most ≤ attemptLimit)
    (hnew : ((Ledger.ofRun s epoch ms).file k).origin.attempts = 0) :
    ((Ledger.ofRun s epoch ms).file k).KeepsBudget most ∧
      (∀ l ∈ c.letters.records,
        ∃ j, ((Ledger.ofRun s epoch ms).file j).place = .ended (.settled (.giveUp l))) ∧
      ∀ later, ((Crew.new s epoch).run (ms ++ later)).isSome →
        ((Ledger.ofRun s epoch ms).file k).place.isOver →
        (Ledger.ofRun s epoch (ms ++ later)).file k = (Ledger.ofRun s epoch ms).file k := by
  have h := Watched.ofRun hr
  refine ⟨(h.kept.sound k).keepsBudget hp hmost hnew, fun l hl => ?_, fun later hl hk => ?_⟩
  · obtain ⟨⟨j, d⟩, he, hd⟩ := List.mem_filterMap.mp (h.letters.subset hl)
    obtain rfl : d = .giveUp l := by
      cases d with
      | giveUp l' =>
          cases hd
          rfl
      | _ => cases hd
    exact ⟨j, (h.kept.settled j _).mp he⟩
  · obtain ⟨c', hl⟩ := Option.isSome_iff_exists.mp hl
    exact Ledger.file_ofRun_append hl hk

/-- A task that is polled twice to no avail, where two polls are allowed. -/
def vainRun : List Crew.Move :=
  [.start, .send 0 (.new "a" "/a" 0), .takeSlot, .takeTask, .work 0, .finish 0 (.retry "busy"),
    .work 0, .work 0, .work 0, .work 0, .work 0, .work 0, .takeSlot, .takeTask, .work 1,
    .finish 1 (.retry "busy"), .work 1, .work 1]

theorem keepsBudget_vainRun :
    ∃ c, (Crew.new ⟨1, 1, ⟨0, .attempts 2⟩, 1⟩ 0).run vainRun = some c ∧
      c.letters.records = [⟨"a", "/a", 2, .budgetExhausted, "busy", 0⟩] ∧
      ((Ledger.ofRun ⟨1, 1, ⟨0, .attempts 2⟩, 1⟩ 0 vainRun).file 0).visits.length = 2 ∧
      ((Ledger.ofRun ⟨1, 1, ⟨0, .attempts 2⟩, 1⟩ 0 vainRun).file 0).KeepsBudget 2 :=
  ⟨_, rfl, rfl, rfl, (keepsBudget_of_run rfl rfl (by decide) rfl).1⟩

end Intake.Poll
