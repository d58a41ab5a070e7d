import Intake.Store.Memory

/-!
# What a store holds after an operation

The artifact under one key after an operation on another or the same one.
-/

namespace Intake.Store

/-! ## Lists by key -/

section

variable {α β : Type} [BEq α] [LawfulBEq α] [DecidableEq α] {j k : α}

theorem lookup_filter_ne (l : List (α × β)) (k : α) :
    (l.filter fun e => e.1 ≠ k).lookup k = none := by
  induction l with
  | nil => rfl
  | cons e l ih =>
      obtain ⟨j, a⟩ := e
      by_cases hj : j = k
      · rw [List.filter_cons_of_neg (by simp [hj])]
        exact ih
      · have hk : (k == j) = false := beq_eq_false_iff_ne.mpr (Ne.symm hj)
        rw [List.filter_cons_of_pos (by simp [hj]), List.lookup_cons, hk]
        exact ih

theorem lookup_filter_of_ne (l : List (α × β)) (h : j ≠ k) :
    (l.filter fun e => e.1 ≠ k).lookup j = l.lookup j := by
  induction l with
  | nil => rfl
  | cons e l ih =>
      obtain ⟨i, a⟩ := e
      by_cases hi : i = k
      · have hk : (j == i) = false := beq_eq_false_iff_ne.mpr (hi ▸ h)
        rw [List.filter_cons_of_neg (by simp [hi]), ih, List.lookup_cons, hk]
      · rw [List.filter_cons_of_pos (by simp [hi]), List.lookup_cons, List.lookup_cons, ih]

end

namespace Memory

open Artifact (Key Status)

variable {m : Memory} {j k : Key} {a : Artifact} {s : Status}

@[simp] theorem get?_erase_self : (m.erase k).get? k = none := lookup_filter_ne m.entries k

theorem get?_erase_of_ne (h : j ≠ k) : (m.erase k).get? j = m.get? j :=
  lookup_filter_of_ne m.entries h

@[simp] theorem get?_insert_self : (m.insert k a).get? k = some a := by
  simp [get?, insert]

theorem get?_insert_of_ne (h : j ≠ k) : (m.insert k a).get? j = m.get? j := by
  have := get?_erase_of_ne (m := m) h
  simp only [get?, insert, List.lookup_cons, beq_eq_false_iff_ne.mpr h] at this ⊢
  exact this

theorem store_of_size {u : Artifact.Upload} (h : u.size = u.content.length) :
    m.store k u = (.ok (), m.insert k u.toArtifact) := by
  simp only [store, checkSize, h, if_true]

theorem store_of_size_ne {u : Artifact.Upload} (h : u.size ≠ u.content.length) :
    m.store k u = (.error (.sizeMismatch u.size u.content.length), m) := by
  simp only [store, checkSize, if_neg (Ne.symm h)]

def statusOf? (m : Memory) (k : Key) : Option Status := (m.get? k).map fun a => a.metadata.status

theorem setStatus_of_get? (h : m.get? k = some a) :
    m.setStatus k s =
      (.ok (), m.insert k { a with metadata := { a.metadata with status := s } }) := by
  simp only [setStatus, h]

theorem setStatus_of_none (h : m.get? k = none) : m.setStatus k s = (.error (.notFound k), m) := by
  simp only [setStatus, h]

/-! ## Stores that agree but for one key -/

section

variable {m' : Memory}

@[simp] theorem erase_erase_self : (m.erase k).erase k = m.erase k := by
  simp only [erase, List.filter_filter, Bool.and_self]

theorem erase_comm : (m.erase j).erase k = (m.erase k).erase j := by
  simp only [erase, List.filter_filter, Bool.and_comm]

@[simp] theorem erase_insert_self : (m.insert k a).erase k = m.erase k := by
  have := erase_erase_self (m := m) (k := k)
  simp only [erase, insert, mk.injEq] at this ⊢
  rw [List.filter_cons_of_neg (by simp)]
  exact this

theorem erase_insert_of_ne (h : j ≠ k) : (m.insert j a).erase k = (m.erase k).insert j a := by
  have := erase_comm (m := m) (j := j) (k := k)
  simp only [erase, insert, mk.injEq] at this ⊢
  rw [List.filter_cons_of_pos (by simp [h]), this]

@[simp] theorem insert_erase_self : (m.erase k).insert k a = m.insert k a := by
  simp only [insert, erase_erase_self]

/-- What is put under a key replaces all that was there. -/
theorem insert_congr (h : m.erase k = m'.erase k) : m.insert k a = m'.insert k a := by
  simp only [insert, h]

theorem get?_congr (h : m.erase k = m'.erase k) (hj : j ≠ k) : m.get? j = m'.get? j := by
  rw [← get?_erase_of_ne (m := m) hj, h, get?_erase_of_ne hj]

theorem erase_setStatus_congr (h : m.erase k = m'.erase k) (hj : j ≠ k) :
    (m.setStatus j s).2.erase k = (m'.setStatus j s).2.erase k := by
  have hget := get?_congr h hj
  cases ha : m.get? j with
  | none => rw [setStatus_of_none ha, setStatus_of_none (hget ▸ ha), h]
  | some a =>
      rw [setStatus_of_get? ha, setStatus_of_get? (hget ▸ ha), erase_insert_of_ne hj,
        erase_insert_of_ne hj, h]

theorem get?_setStatus_of_ne (h : j ≠ k) : (m.setStatus k s).2.get? j = m.get? j := by
  cases ha : m.get? k with
  | none => rw [setStatus_of_none ha]
  | some a => rw [setStatus_of_get? ha, get?_insert_of_ne h]

theorem get?_setStatus_eq_none_iff : (m.setStatus k s).2.get? j = none ↔ m.get? j = none := by
  by_cases hj : j = k
  · subst hj
    cases ha : m.get? j with
    | none => rw [setStatus_of_none ha, ha]
    | some a => simp [setStatus_of_get? ha]
  · rw [get?_setStatus_of_ne hj]

/-- A status replaces the one before, whatever that was. -/
theorem setStatus_congr {s' : Status} (h : m.erase k = m'.erase k) (ha : m.get? k = some a)
    (ha' : m'.get? k = some { a with metadata := { a.metadata with status := s' } }) :
    (m'.setStatus k s).2 = (m.setStatus k s).2 := by
  rw [setStatus_of_get? ha, setStatus_of_get? ha']
  exact insert_congr h.symm

end

end Memory
end Intake.Store
