import Intake.Proofs.Poll.Run

/-!
# The interval between polls, and the budget of time

However long a task waits in the line or for a slot, its next poll begins no sooner than the interval
after its last one returned. Where a policy limits the time, the intervals alone limit the polls.
-/

namespace Intake.Poll

/-- The file of a task whose polls keep the interval of a policy, and its limit of time. -/
structure File.KeepsPace (f : File) (p : Policy) : Prop where
  spaced : ∀ later v u earlier, f.visits = later ++ v :: u :: earlier →
    ∃ t o, u.answer = some (t, o) ∧ t + p.wait ≤ v.begunAt
  inTime : ∀ limit, p.stop = .elapsed limit → ∀ t ∈ f.returns,
    ∃ b, t.notBefore = some b ∧ b ≤ t.createdAt + limit
  atLeast : ∀ d, f.place = .ended (.settled d) → 1 ≤ f.visits.length
  /-- A task is made before it is brought. -/
  atMost : ∀ limit, p.stop = .elapsed limit → 0 < p.wait → f.origin.createdAt ≤ f.broughtAt →
    f.visits.length ≤ 1 + limit / p.wait

variable {p : Policy} {origin : Task} {since now limit : Millis} {u v : Visit} {vs : List Visit}
  {t : Task} {f : File}

namespace Visit

theorem KeptAs.due (h : u.KeptAs p t now) : ∃ returned o made, u.answer = some (returned, o) ∧
    returned ≤ made ∧ t.notBefore = some (made + p.wait) := by
  obtain ⟨reason, _, ⟨returned, made, ha, hr, _, rfl⟩, _⟩ := h
  exact ⟨returned, .retry reason, made, ha, hr, rfl⟩

theorem KeptAs.spaced (h : u.KeptAs p v.task now) (hv : v.IsPunctual) :
    ∃ returned o, u.answer = some (returned, o) ∧ returned + p.wait ≤ v.begunAt := by
  obtain ⟨returned, o, made, ha, hr, hn⟩ := h.due
  exact ⟨returned, o, ha, Nat.le_trans (Nat.add_le_add_right hr _) (hv.1 _ hn)⟩

theorem KeptAs.inTime (h : u.KeptAs p t now) (hp : p.stop = .elapsed limit) :
    ∃ b, t.notBefore = some b ∧ b ≤ t.createdAt + limit := by
  obtain ⟨reason, judged, ⟨_, made, _, _, hm, rfl⟩, _, hx⟩ := h
  refine ⟨made + p.wait, rfl, ?_⟩
  simp only [Policy.isExhausted, hp] at hx
  have hx : (judged - u.task.createdAt) + p.wait ≤ limit := Nat.not_lt.mp (of_decide_eq_false hx)
  have hjudged : judged ≤ u.task.createdAt + (judged - u.task.createdAt) :=
    Nat.sub_le_iff_le_add'.mp (Nat.le_refl _)
  calc made + p.wait
      ≤ (u.task.createdAt + (judged - u.task.createdAt)) + p.wait :=
        Nat.add_le_add_right (Nat.le_trans hm hjudged) _
    _ = u.task.createdAt + ((judged - u.task.createdAt) + p.wait) := Nat.add_assoc ..
    _ ≤ u.task.createdAt + limit := Nat.add_le_add_left hx _

end Visit

namespace History

theorem of_append {later : List Visit} (h : History p origin since (later ++ vs)) :
    History p origin since vs := by
  induction later with
  | nil => exact h
  | cons v later ih =>
      cases h with
      | visit earlier _ _ => exact ih earlier

theorem due_cons (h : History p origin since (v :: u :: vs)) :
    u.KeptAs p v.task v.begunAt ∧ v.IsPunctual ∧ History p origin since (u :: vs) := by
  cases h with
  | visit earlier due punctual => exact ⟨due, punctual, earlier⟩

theorem createdAt_eq (h : History p origin since (v :: vs)) :
    v.task.createdAt = origin.createdAt :=
  congrArg (fun i => i.2.2) (h.identity v (List.mem_cons_self ..))

/-- The intervals add up. -/
theorem begunAt_ge (h : History p origin since (v :: vs)) (hc : origin.createdAt ≤ since) :
    origin.createdAt + vs.length * p.wait ≤ v.begunAt := by
  induction vs generalizing v with
  | nil =>
      cases h with
      | visit _ due _ =>
          rw [List.length_nil, Nat.zero_mul]
          exact Nat.le_trans hc due.2
  | cons u vs ih =>
      obtain ⟨hkept, hpunctual, hearlier⟩ := h.due_cons
      obtain ⟨returned, o, ha, hle⟩ := hkept.spaced hpunctual
      have hu : u.begunAt ≤ returned := by
        cases hearlier with
        | visit _ _ hpu => exact hpu.2 returned o ha
      calc origin.createdAt + (vs.length + 1) * p.wait
          = (origin.createdAt + vs.length * p.wait) + p.wait := by rw [Nat.succ_mul, Nat.add_assoc]
        _ ≤ returned + p.wait := Nat.add_le_add_right (Nat.le_trans (ih hearlier) hu) _
        _ ≤ v.begunAt := hle

theorem length_mul_le (h : History p origin since (v :: vs)) (hp : p.stop = .elapsed limit)
    (hc : origin.createdAt ≤ since) : vs.length * p.wait ≤ limit := by
  cases vs with
  | nil => simp
  | cons u vs =>
      obtain ⟨hkept, hpunctual, hearlier⟩ := h.due_cons
      obtain ⟨b, hb, hle⟩ := hkept.inTime hp
      obtain ⟨returned, o, made, ha, hr, hn⟩ := hkept.due
      rw [hb] at hn
      cases hn
      have hu : u.begunAt ≤ returned := by
        cases hearlier with
        | visit _ _ hpu => exact hpu.2 returned o ha
      have hge := hearlier.begunAt_ge hc
      rw [h.createdAt_eq] at hle
      rw [List.length_cons, Nat.succ_mul]
      have : origin.createdAt + vs.length * p.wait ≤ made := Nat.le_trans hge (Nat.le_trans hu hr)
      have := Nat.add_le_add_right this p.wait
      refine Nat.le_of_add_le_add_left (a := origin.createdAt) ?_
      rw [← Nat.add_assoc]
      exact Nat.le_trans this hle

end History

theorem File.Sound.keepsPace (h : f.Sound p now) : f.KeepsPace p := by
  refine ⟨?_, ?_, ?_, ?_⟩
  · intro later v u earlier hvs
    have hhistory := h.history
    rw [hvs] at hhistory
    obtain ⟨hkept, hpunctual, _⟩ := hhistory.of_append.due_cons
    exact hkept.spaced hpunctual
  · intro limit hp t ht
    obtain ⟨u, _, hk⟩ := h.kept t ht
    exact hk.inTime hp
  · intro d hd
    have hstands := h.stands
    rw [hd] at hstands
    obtain ⟨v, vs, hvs, _⟩ := hstands
    rw [hvs]
    exact Nat.succ_le_succ (Nat.zero_le _)
  · intro limit hp hw hc
    have hhistory := h.history
    cases hvs : f.visits with
    | nil => exact Nat.zero_le _
    | cons v vs =>
        rw [hvs] at hhistory
        rw [List.length_cons, Nat.add_comm]
        exact Nat.add_le_add_left
          ((Nat.le_div_iff_mul_le hw).mpr (hhistory.length_mul_le hp hc)) 1

variable {s : Settings} {epoch : Millis} {ms : List Crew.Move} {c : Crew}

/-- Whatever else the crew does, the polls of every task keep the pace of its policy. -/
theorem keepsPace_of_run (hr : (Crew.new s epoch).run ms = some c) (k : Nat) :
    ((Ledger.ofRun s epoch ms).file k).KeepsPace s.policy :=
  ((Watched.ofRun hr).kept.sound k).keepsPace

/-- A task that is put back once, and is given up when the next interval would be too long. -/
def slowRun : List Crew.Move :=
  [.start, .send 0 (.new "a" "/a" 0), .takeSlot, .takeTask, .work 0, .pass 2,
    .finish 0 (.retry "busy"), .work 0, .work 0, .work 0, .work 0, .work 0, .work 0, .takeSlot,
    .takeTask, .work 1, .pass 9, .work 1, .pass 1, .finish 1 (.retry "busy"), .work 1, .work 1]

theorem keepsPace_slowRun :
    ∃ c, (Crew.new ⟨1, 1, ⟨5, .elapsed 12⟩, 1⟩ 0).run slowRun = some c ∧
      ((Ledger.ofRun ⟨1, 1, ⟨5, .elapsed 12⟩, 1⟩ 0 slowRun).file 0).visits.map Visit.begunAt =
        [11, 0] ∧
      ((Ledger.ofRun ⟨1, 1, ⟨5, .elapsed 12⟩, 1⟩ 0 slowRun).file 0).place =
        .ended (.settled (.giveUp ⟨"a", "/a", 2, .budgetExhausted, "busy", 12⟩)) ∧
      ((Ledger.ofRun ⟨1, 1, ⟨5, .elapsed 12⟩, 1⟩ 0 slowRun).file 0).KeepsPace ⟨5, .elapsed 12⟩ :=
  ⟨_, rfl, rfl, rfl, keepsPace_of_run (c := _) rfl 0⟩

end Intake.Poll
