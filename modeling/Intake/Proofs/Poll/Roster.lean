import Intake.Poll.Crew
import Mathlib.Data.List.Nodup

/-!
# One worker among the others

The workers of a crew have different numbers. Whoever moves can therefore be brought to the front of
the list, and what happens to it leaves the others alone.
-/

namespace Intake.Poll.Crew

variable {c : Crew} {w u : Worker} {n : Nat}

theorem worker?_eq_some (h : c.worker? n = some w) : w ∈ c.workers ∧ w.number = n :=
  ⟨List.mem_of_find?_eq_some h, by simpa using List.find?_some h⟩

theorem worker?_of_mem (hd : (c.workers.map Worker.number).Nodup) (hw : w ∈ c.workers) :
    c.worker? w.number = some w := by
  cases h : c.worker? w.number with
  | none => exact absurd (List.find?_eq_none.mp h w hw) (by simp)
  | some v =>
      obtain ⟨hv, hn⟩ := worker?_eq_some h
      rw [List.inj_on_of_nodup_map hd hv hw hn]

/-- A worker can be brought to the front; `put` and `dismiss` change nothing behind it. -/
theorem split (hd : (c.workers.map Worker.number).Nodup) (hw : w ∈ c.workers) :
    ∃ rest, c.workers.Perm (w :: rest) ∧
      (∀ u, u.number = w.number → (c.put u).workers.Perm (u :: rest)) ∧
      (c.dismiss w.number).workers = rest := by
  obtain ⟨as, bs, hl⟩ := List.append_of_mem hw
  have hne : ∀ v ∈ as ++ bs, v.number ≠ w.number := by
    rw [hl] at hd
    have hp : (as ++ w :: bs).Perm (w :: (as ++ bs)) := List.perm_middle
    have hd' := (hp.map Worker.number).nodup_iff.mp hd
    intro v hv he
    exact (List.nodup_cons.mp hd').1 (List.mem_map.mpr ⟨v, hv, he⟩)
  have has : ∀ v ∈ as, v.number ≠ w.number := fun v hv => hne v (List.mem_append_left _ hv)
  have hbs : ∀ v ∈ bs, v.number ≠ w.number := fun v hv => hne v (List.mem_append_right _ hv)
  refine ⟨as ++ bs, hl ▸ List.perm_middle, ?_, ?_⟩
  · intro u hn
    have hmap : ∀ l : List Worker, (∀ v ∈ l, v.number ≠ w.number) →
        l.map (fun v => if v.number = w.number then u else v) = l := fun l h =>
      (List.map_congr_left fun v hv => if_neg (h v hv)).trans (List.map_id' l)
    simp only [put, hl, List.map_append, List.map_cons, hn, hmap as has, hmap bs hbs, if_true]
    exact List.perm_middle
  · have hfilter : ∀ l : List Worker, (∀ v ∈ l, v.number ≠ w.number) →
        l.filter (fun v => v.number ≠ w.number) = l := fun l h =>
      List.filter_eq_self.mpr fun v hv => decide_eq_true (h v hv)
    simp only [dismiss, hl, List.filter_append, hfilter as has]
    rw [List.filter_cons_of_neg (by simp), hfilter bs hbs]

end Intake.Poll.Crew
