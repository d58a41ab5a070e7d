import Intake.Poll.Line

/-!
# Lines under a change of items

What a line does depends on the number of its items only, never on the items themselves. A line of
tickets that is treated like a line of tasks therefore keeps in step with it.
-/

namespace Intake.Poll.Line

variable {κ α β : Type}

/-- The line in which `f a` stands in the place of `a`. -/
def map (f : α → β) (l : Line κ α) : Line κ β :=
  ⟨l.capacity, l.items.map f, l.senders.map fun s => (s.1, f s.2), l.receivers, l.called⟩

/-! ## Putting in -/

theorem offer_map (f : α → β) (l : Line κ α) (a : α) :
    (l.map f).offer (f a) = (l.offer a).map (map f) := by
  cases hr : l.receivers with
  | cons r rs => simp [offer, map, hr]
  | nil =>
      by_cases hroom : l.items.length < l.capacity
      · simp [offer, map, hr, hroom]
      · simp [offer, map, hr, hroom]

theorem offer_items {l l' : Line κ α} {a : α} (h : l.offer a = some l') :
    l'.items = l.items ++ [a] ∧ l'.senders = l.senders := by
  unfold offer at h
  split at h
  · cases h; exact ⟨rfl, rfl⟩
  · split at h
    · cases h; exact ⟨rfl, rfl⟩
    · cases h

theorem length_offer {l l' : Line κ α} {a : α} (h : l.offer a = some l') :
    l'.length = l.length + 1 := by
  rw [length, (offer_items h).1, List.length_append, List.length_singleton]
  rfl

theorem send_of_offer {l l' : Line κ α} {who : κ} {a : α} (h : l.offer a = some l') :
    l.send who a = (true, l') := by
  simp only [send, h]

theorem send_of_full {l : Line κ α} {who : κ} {a : α} (h : l.offer a = none) :
    l.send who a = (false, { l with senders := l.senders ++ [(who, a)] }) := by
  simp only [send, h]

theorem map_wait (f : α → β) (l : Line κ α) (who : κ) (a : α) :
    Line.map f { l with senders := l.senders ++ [(who, a)] } =
      { l.map f with senders := (l.map f).senders ++ [(who, f a)] } := by
  simp [map]

/-! ## Taking out -/

/-- What taking an item comes to, when `f a` stands in the place of `a`. -/
def Taken.map (f : α → β) (t : Taken κ α) : Taken κ β := ⟨f t.item, t.line.map f, t.admitted⟩

theorem take?_map (f : α → β) (l : Line κ α) :
    (l.map f).take? = l.take?.map (Taken.map f) := by
  cases hi : l.items with
  | nil => simp [take?, map, hi]
  | cons a rest =>
      cases hs : l.senders with
      | nil => simp [take?, map, hi, hs, Taken.map]
      | cons s others =>
          by_cases hroom : rest.length < l.capacity
          · simp [take?, map, hi, hs, Taken.map, hroom]
          · simp [take?, map, hi, hs, Taken.map, hroom]

/-- The first item leaves; at most the first who waits comes in, at the end. -/
theorem take?_eq_some {l : Line κ α} {t : Taken κ α} (h : l.take? = some t) :
    ∃ rest, l.items = t.item :: rest ∧
      ((t.admitted = none ∧ t.line.items = rest ∧ t.line.senders = l.senders) ∨
        ∃ who b others, l.senders = (who, b) :: others ∧ t.admitted = some who ∧
          t.line.items = rest ++ [b] ∧ t.line.senders = others) := by
  unfold take? at h
  split at h
  · cases h
  · rename_i a rest hi
    split at h
    · rename_i who b others hs
      split at h
      · cases h; exact ⟨rest, hi, Or.inr ⟨who, b, others, hs, rfl, rfl, rfl⟩⟩
      · cases h; exact ⟨rest, hi, Or.inl ⟨rfl, rfl, rfl⟩⟩
    · cases h; exact ⟨rest, hi, Or.inl ⟨rfl, rfl, rfl⟩⟩

/-! ## Leaving and relabelling -/

theorem withdraw_map [DecidableEq κ] (f : α → β) (l : Line κ α) (who : κ) :
    (l.map f).withdraw who = (l.withdraw who).map f := by
  simp [withdraw, map, List.filter_map, Function.comp_def]

/-- Two relabellings that agree on what a line holds give the same line. -/
theorem map_congr {f g : α → β} {l : Line κ α} (hi : ∀ a ∈ l.items, f a = g a)
    (hs : ∀ s ∈ l.senders, f s.2 = g s.2) : l.map f = l.map g := by
  have hitems : l.items.map f = l.items.map g := List.map_congr_left hi
  have hsenders : (l.senders.map fun s => (s.1, f s.2)) = l.senders.map fun s => (s.1, g s.2) :=
    List.map_congr_left fun s h => by rw [hs s h]
  simp only [map, hitems, hsenders]

end Intake.Poll.Line
