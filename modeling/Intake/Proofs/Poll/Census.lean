import Intake.Proofs.Poll.Ledger
import Intake.Proofs.Poll.Line
import Mathlib.Data.List.Basic

/-!
# Where the tasks are

The crew holds its tasks in three ways: in the line, with the producers that wait for room, and with
the workers. The census lists the tickets found in each of them. A ledger counts right if each live
task is found once, at the place that its file names.
-/

namespace Intake.Poll

namespace Ledger

/-- Every ticket that the crew holds, with the place where it is found. -/
def census (g : Ledger) (workers : List Worker) : List (Nat × Place) :=
  g.queued.map (·, .lined) ++ (g.waiting.map (·, .waiting) ++
    (workers.filter fun w => w.phase.hasTask).map fun w => (g.post w.number, .held w.phase))

/-- The workers that wait for room, each with the ticket of its task. -/
def blocked (g : Ledger) : List (Nat × Nat) :=
  g.line.senders.filterMap fun s => match s.1 with
    | .producer _ => none
    | .worker n => some (n, s.2)

/-- Each live task is listed once, at the place that its file names. -/
def Counts (g : Ledger) (l : List (Nat × Place)) : Prop :=
  ∀ k p, p.isLive → l.count (k, p) = if (g.file k).place = p then 1 else 0

variable {g : Ledger} {k : Nat} {p q : Place} {l l' : List (Nat × Place)} {f : File → File}

@[simp] theorem amend_file_self : (g.amend k f).file k = f (g.file k) := if_pos rfl

theorem amend_file_of_ne {j : Nat} (h : j ≠ k) : (g.amend k f).file j = g.file j := if_neg h

/-- The tasks keep their values where the files do. -/
theorem value_amend (hf : ∀ x, (f x).value = x.value) : (g.amend k f).value = g.value := by
  funext j
  by_cases hj : j = k
  · subst hj
    rw [value, amend_file_self, hf]
    rfl
  · rw [value, amend_file_of_ne hj]
    rfl

namespace Counts

theorem perm (h : g.Counts l) (hl : l.Perm l') : g.Counts l' := by
  intro k p hp
  rw [← hl.count_eq]
  exact h k p hp

theorem place (h : g.Counts l) (hm : (k, p) ∈ l) (hp : p.isLive) : (g.file k).place = p := by
  have hpos := List.count_pos_iff.mpr hm
  rw [h k p hp] at hpos
  split at hpos
  · assumption
  · exact absurd hpos (Nat.lt_irrefl 0)

theorem not_mem (h : g.Counts ((k, p) :: l)) (hp : p.isLive) (hq : q.isLive) : (k, q) ∉ l := by
  intro hm
  have hk := h.place (List.mem_cons_self ..) hp
  have hq' := h.place (List.mem_cons_of_mem _ hm) hq
  obtain rfl : p = q := hk.symm.trans hq'
  have hc := h k p hp
  have hpos := List.count_pos_iff.mpr hm
  simp only [List.count_cons_self, hk, if_true] at hc
  omega

theorem change (h : g.Counts ((k, p) :: l)) (hp : p.isLive) (hf : (f (g.file k)).place = q) :
    (g.amend k f).Counts ((k, q) :: l) := by
  intro j r hr
  by_cases hj : j = k
  · subst hj
    have hnone : l.count (j, r) = 0 := List.count_eq_zero.mpr (h.not_mem hp hr)
    simp only [amend_file_self, hf, List.count_cons, hnone, beq_iff_eq, Prod.mk.injEq, true_and]
    split <;> rfl
  · have hold := h j r hr
    have hne : ∀ s : Place, ((k, s) == (j, r)) = false := by
      intro s
      simp [Ne.symm hj]
    simp only [List.count_cons, hne] at hold
    simp only [amend_file_of_ne hj, List.count_cons, hne]
    exact hold

theorem close (h : g.Counts ((k, p) :: l)) (hp : p.isLive) (hf : (f (g.file k)).place.isLive = false) :
    (g.amend k f).Counts l := by
  intro j r hr
  by_cases hj : j = k
  · subst hj
    have hne : (f (g.file j)).place ≠ r := by
      rintro rfl
      rw [hr] at hf
      cases hf
    rw [amend_file_self, if_neg hne]
    exact List.count_eq_zero.mpr (h.not_mem hp hr)
  · have hold := h j r hr
    have hne : ((k, p) == (j, r)) = false := by simp [Ne.symm hj]
    simp only [List.count_cons, hne] at hold
    rw [amend_file_of_ne hj]
    exact hold

theorem enter (h : g.Counts l) (hk : (g.file k).place.isLive = false)
    (hf : (f (g.file k)).place = q) : (g.amend k f).Counts ((k, q) :: l) := by
  intro j r hr
  by_cases hj : j = k
  · subst hj
    have hne : (g.file j).place ≠ r := by
      rintro rfl
      rw [hr] at hk
      cases hk
    have hnone := h j r hr
    rw [if_neg hne] at hnone
    simp only [amend_file_self, hf, List.count_cons, hnone, beq_iff_eq, Prod.mk.injEq, true_and]
    split <;> rfl
  · have hne : ((k, q) == (j, r)) = false := by simp [Ne.symm hj]
    simp only [amend_file_of_ne hj, List.count_cons, hne]
    exact h j r hr

/-- Listed or not, a task is found as often as it is live. -/
theorem count_fst (h : g.Counts l) (hl : ∀ e ∈ l, e.2.isLive) (k : Nat) :
    (l.map Prod.fst).count k = if (g.file k).place.isLive then 1 else 0 := by
  have hone : (l.map Prod.fst).count k = l.count (k, (g.file k).place) := by
    rw [List.count_eq_countP, List.countP_map, List.count_eq_countP]
    refine List.countP_congr ?_
    rintro ⟨j, p⟩ hm
    have hp : p.isLive := hl (j, p) hm
    simp only [Function.comp_apply, beq_iff_eq, Prod.mk.injEq]
    constructor
    · rintro rfl
      exact ⟨rfl, (h.place hm hp).symm⟩
    · exact And.left
  rw [hone]
  by_cases hp : (g.file k).place.isLive
  · rw [h k _ hp, if_pos rfl, if_pos hp]
  · rw [if_neg hp]
    exact List.count_eq_zero.mpr fun hm => hp (hl _ hm)

end Counts

/-! ## The census, worker by worker -/

variable {w : Worker} {ws ws' : List Worker}

theorem census_cons (hw : w.phase.hasTask) :
    (g.census (w :: ws)).Perm ((g.post w.number, .held w.phase) :: g.census ws) := by
  simp only [census, List.filter_cons, hw, if_true, List.map_cons]
  rw [← List.append_assoc, ← List.append_assoc]
  exact List.perm_middle

theorem census_cons_idle (hw : w.phase.hasTask = false) : g.census (w :: ws) = g.census ws := by
  simp [census, hw]

theorem census_perm (h : ws.Perm ws') : (g.census ws).Perm (g.census ws') :=
  ((((h.filter _).map _).append_left _).append_left _)

theorem isLive_of_mem_census {e : Nat × Place} (h : e ∈ g.census ws) : e.2.isLive := by
  simp only [census, List.mem_append, List.mem_map] at h
  rcases h with ⟨_, _, rfl⟩ | ⟨_, _, rfl⟩ | ⟨_, _, rfl⟩ <;> rfl

theorem waiting_withdraw (n : Nat) : (g.withdraw n).waiting = g.waiting := by
  simp only [waiting, withdraw, Line.withdraw, List.filterMap_filter]
  refine List.filterMap_congr ?_
  rintro ⟨party, k⟩ _
  cases party with
  | producer m => rfl
  | worker m => by_cases hm : m = n <;> simp [hm]

theorem census_withdraw (n : Nat) : (g.withdraw n).census ws = g.census ws := by
  simp only [census, waiting_withdraw]
  rfl

theorem blocked_withdraw (n : Nat) :
    (g.withdraw n).blocked = g.blocked.filter fun e => e.1 ≠ n := by
  simp only [blocked, withdraw, Line.withdraw, List.filterMap_filter, List.filter_filterMap]
  refine List.filterMap_congr ?_
  rintro ⟨party, k⟩ _
  cases party with
  | producer m => rfl
  | worker m => by_cases hm : m = n <;> simp [hm, Option.filter]

theorem census_fst : (g.census ws).map Prod.fst = g.queued ++ (g.waiting ++ g.held ws) := by
  simp [census, held, Function.comp_def]

end Ledger

/-! ## A ledger that keeps in step with a crew -/

/-- The ledger `g` follows a crew with this line and these workers, the next of which gets the
number `hired`. -/
structure Tracks (line : Line Party Task) (workers : List Worker) (hired : Nat) (g : Ledger) :
    Prop where
  line_eq : line = g.line.map g.value
  nodup : (workers.map Worker.number).Nodup
  numbered : ∀ w ∈ workers, w.number < hired
  task_eq : ∀ w ∈ workers, w.phase.hasTask → g.value (g.post w.number) = w.task
  census : g.Counts (g.census workers)
  blocked : g.blocked.Perm
    ((workers.filter fun w => w.phase = .blocked).map fun w => (w.number, g.post w.number))
  issued : ∀ k, g.issued ≤ k ↔ (g.file k).place = .nowhere

namespace Tracks

variable {line : Line Party Task} {w w' : Worker} {ws ws' : List Worker} {hired : Nat} {g : Ledger}
  {k : Nat} {f : File → File} {l : Line Party Nat}

theorem perm (h : Tracks line ws hired g) (hp : ws.Perm ws') : Tracks line ws' hired g where
  line_eq := h.line_eq
  nodup := (hp.map _).nodup_iff.mp h.nodup
  numbered := fun w hw => h.numbered w (hp.mem_iff.mpr hw)
  task_eq := fun w hw => h.task_eq w (hp.mem_iff.mpr hw)
  census := h.census.perm (Ledger.census_perm hp)
  blocked := h.blocked.trans ((hp.filter _).map _)
  issued := h.issued

/-! ### Where a ticket is found -/

theorem place_of_worker (h : Tracks line ws hired g) (hw : w ∈ ws) (ht : w.phase.hasTask) :
    (g.file (g.post w.number)).place = .held w.phase := by
  refine h.census.place ?_ rfl
  simp only [Ledger.census, List.mem_append, List.mem_map]
  exact Or.inr (Or.inr ⟨w, List.mem_filter.mpr ⟨hw, ht⟩, rfl⟩)

theorem place_of_queued (h : Tracks line ws hired g) (hk : k ∈ g.line.items) :
    (g.file k).place = .lined := by
  refine h.census.place ?_ rfl
  simp only [Ledger.census, List.mem_append, List.mem_map]
  exact Or.inl ⟨k, hk, rfl⟩

theorem place_of_waiting (h : Tracks line ws hired g) (hk : k ∈ g.waiting) :
    (g.file k).place = .waiting := by
  refine h.census.place ?_ rfl
  simp only [Ledger.census, List.mem_append, List.mem_map]
  exact Or.inr (Or.inl ⟨k, hk, rfl⟩)

/-- A worker that waits for room is blocked, with the task for which it was hired. -/
theorem worker_of_sender (h : Tracks line ws hired g) {n : Nat}
    (hs : (Party.worker n, k) ∈ g.line.senders) :
    ∃ w ∈ ws, w.phase = .blocked ∧ w.number = n ∧ g.post n = k := by
  have hb : (n, k) ∈ g.blocked := List.mem_filterMap.mpr ⟨_, hs, rfl⟩
  obtain ⟨w, hw, he⟩ := List.mem_map.mp (h.blocked.mem_iff.mp hb)
  obtain ⟨hws, hp⟩ := List.mem_filter.mp hw
  obtain ⟨rfl, rfl⟩ := Prod.mk.inj he
  exact ⟨w, hws, of_decide_eq_true hp, rfl, rfl⟩

theorem place_of_sender (h : Tracks line ws hired g) {s : Party × Nat} (hs : s ∈ g.line.senders) :
    (g.file s.2).place = .waiting ∨ (g.file s.2).place = .held .blocked := by
  obtain ⟨party, k⟩ := s
  cases party with
  | producer n => exact Or.inl (h.place_of_waiting (List.mem_filterMap.mpr ⟨_, hs, rfl⟩))
  | worker n =>
      obtain ⟨w, hw, hp, rfl, rfl⟩ := h.worker_of_sender hs
      have := h.place_of_worker hw (by rw [hp]; rfl)
      rw [hp] at this
      exact Or.inr this

/-- A file can be changed without effect on the line while its task is not in it. -/
theorem line_amend (h : Tracks line ws hired g) (h₁ : (g.file k).place ≠ .lined)
    (h₂ : (g.file k).place ≠ .waiting) (h₃ : (g.file k).place ≠ .held .blocked) :
    line = g.line.map (g.amend k f).value := by
  rw [h.line_eq]
  refine Line.map_congr ?_ ?_
  · intro j hj
    have hne : j ≠ k := by
      rintro rfl
      exact h₁ (h.place_of_queued hj)
    simp only [Ledger.value, Ledger.amend_file_of_ne hne]
  · intro s hs
    have hne : s.2 ≠ k := by
      rintro rfl
      exact (h.place_of_sender hs).elim h₂ h₃
    simp only [Ledger.value, Ledger.amend_file_of_ne hne]

theorem post_ne (h : Tracks line (w :: ws) hired g) (hw : w.phase.hasTask) {v : Worker}
    (hv : v ∈ ws) (hvt : v.phase.hasTask) : g.post v.number ≠ g.post w.number := by
  intro he
  have hc := h.census.perm (Ledger.census_cons hw)
  refine hc.not_mem rfl (q := .held v.phase) rfl ?_
  simp only [Ledger.census, List.mem_append, List.mem_map]
  exact Or.inr (Or.inr ⟨v, List.mem_filter.mpr ⟨hv, hvt⟩, by rw [he]⟩)

end Tracks
end Intake.Poll
