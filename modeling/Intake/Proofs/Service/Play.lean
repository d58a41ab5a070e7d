import Intake.Service.Call
import Intake.Proofs.Store.Memory
import Mathlib.Logic.Relation

/-!
# Work and its surroundings

Work of the service is played against surroundings that answer its calls as they like, but for what
is known of them: the store does what it is asked or fails without effect, and an unexpected status
is never one of success. Before each call others may work on the same store.
-/

namespace Intake.Service

open Store (Memory)
open Relation (ReflTransGen)

structure Exchange where
  call : Call
  reply : call.Reply

/-- The store has failed, not for want of an artifact, and nothing has changed. -/
def Fails {α : Type} (r : Except Store.Fault α) (m m' : Memory) : Prop :=
  ∃ e, r = .error e ∧ (∀ key, e ≠ .notFound key) ∧ m' = m

/-- A call may be answered with `r`, and leaves the store as `m'`. -/
def Answers (m m' : Memory) : (c : Call) → c.Reply → Prop
  | .store key u, r => (r, m') = m.store key u ∨ Fails r m m'
  | .delete key, r => (r, m') = m.delete key ∨ Fails r m m'
  | .setStatus key s, r => (r, m') = m.setStatus key s ∨ Fails r m m'
  | .retrieve key, r => (r = m.retrieve key ∧ m' = m) ∨ Fails r m m'
  | .status key, r => (r = m.status key ∧ m' = m) ∨ Fails r m m'
  | .fetch _, r => m' = m ∧ ∀ resource code, r = .error (.unexpectedStatus resource code) →
      Http.Status.isSuccess ⟨code⟩ = false
  | _, _ => m' = m

/-- Work that begins on the store `m` may come to the result `a` on the store `m'`, with these calls
on the way, while others change the store by `R` between them. -/
inductive Plays {α : Type} (R : Memory → Memory → Prop) :
    Work α → Memory → List Exchange → α → Memory → Prop
  | done {a m} : Plays R (.done a) m [] a m
  | ask {c next m m₁ r m₂ xs a m'} (others : ReflTransGen R m m₁) (answer : Answers m₁ m₂ c r)
      (rest : Plays R (next r) m₂ xs a m') : Plays R (.ask c next) m (⟨c, r⟩ :: xs) a m'

def LeavesAlone (R : Memory → Memory → Prop) (dataset : String) : Prop :=
  ∀ m m', R m m' → ∀ kind, m'.get? ⟨dataset, kind⟩ = m.get? ⟨dataset, kind⟩

theorem LeavesAlone.get?_eq {R : Memory → Memory → Prop} {dataset : String} {m m' : Memory}
    (h : LeavesAlone R dataset) (hm : ReflTransGen R m m') (kind : Artifact.Kind) :
    m'.get? ⟨dataset, kind⟩ = m.get? ⟨dataset, kind⟩ := by
  induction hm with
  | refl => rfl
  | tail _ hr ih => rw [h _ _ hr kind, ih]

/-! ## Taking a play apart -/

namespace Plays

variable {α β : Type} {R : Memory → Memory → Prop} {m m' : Memory} {xs : List Exchange} {a b : α}

theorem of_pure (h : Plays R (pure a) m xs b m') : xs = [] ∧ b = a ∧ m' = m := by
  cases h
  exact ⟨rfl, rfl, rfl⟩

theorem of_call {c : Call} {f : c.Reply → Work α} (h : Plays R (call c >>= f) m xs a m') :
    ∃ m₁ r m₂ ys, xs = ⟨c, r⟩ :: ys ∧ ReflTransGen R m m₁ ∧ Answers m₁ m₂ c r ∧
      Plays R (f r) m₂ ys a m' := by
  cases h with
  | ask others answer rest => exact ⟨_, _, _, _, rfl, others, answer, rest⟩

theorem of_last_call {c : Call} {r : c.Reply} (h : Plays R (call c) m xs r m') :
    xs = [⟨c, r⟩] := by
  cases h with
  | ask _ _ rest =>
      cases rest
      rfl

theorem of_bind {w : Work α} {f : α → Work β} {b : β} (h : Plays R (w >>= f) m xs b m') :
    ∃ ys a m₁ zs, xs = ys ++ zs ∧ Plays R w m ys a m₁ ∧ Plays R (f a) m₁ zs b m' := by
  induction w generalizing m xs with
  | done a => exact ⟨[], a, m, xs, rfl, .done, h⟩
  | ask c next ih =>
      cases h with
      | ask others answer rest =>
          obtain ⟨ys, a, m₁, zs, rfl, hw, hf⟩ := ih _ rest
          exact ⟨_ :: ys, a, m₁, zs, rfl, .ask others answer hw, hf⟩

end Plays

/-- A run against a handler whose answers are possible is a play, in which nobody else works. -/
theorem plays_run {α : Type} {R : Memory → Memory → Prop}
    {handle : (c : Call) → Memory → c.Reply × Memory}
    (h : ∀ c m, Answers m (handle c m).2 c (handle c m).1) (w : Work α) (m : Memory) :
    ∃ xs, Plays R w m xs (w.run handle m).1 (w.run handle m).2 := by
  induction w generalizing m with
  | done a => exact ⟨[], .done⟩
  | ask c next ih =>
      obtain ⟨xs, hxs⟩ := ih (handle c m).1 (handle c m).2
      exact ⟨⟨c, _⟩ :: xs, .ask .refl (h c m) hxs⟩

/-! ## What a play leaves alone -/

namespace Call

def target? : Call → Option Artifact.Key
  | store key _ | delete key | setStatus key _ => some key
  | _ => none

def isFetch : Call → Bool
  | fetch _ => true
  | _ => false

def isIndex : Call → Bool
  | index .. => true
  | _ => false

/-- Whether a call is one of those by which a dataset is reconciled with its job. -/
def isReconciling : Call → Bool
  | store .. | retrieve _ | delete _ | setStatus .. | status _ | fetch _ | index .. => true
  | _ => false

theorem target?_of_not_reconciling {c : Call} (h : c.isReconciling = false) :
    c.target? = none := by
  cases c <;> first | rfl | cases h

theorem isFetch_of_not_reconciling {c : Call} (h : c.isReconciling = false) :
    c.isFetch = false := by
  cases c <;> first | rfl | cases h

theorem isIndex_of_not_reconciling {c : Call} (h : c.isReconciling = false) :
    c.isIndex = false := by
  cases c <;> first | rfl | cases h

end Call

section

variable {α : Type} {R : Memory → Memory → Prop} {w : Work α} {m m' : Memory}
  {xs : List Exchange} {a : α} {c : Call} {r : c.Reply} {dataset : String}

/-- Only a call with a target changes the store. -/
theorem Answers.eq_of_target? (h : Answers m m' c r) (hc : c.target? = none) : m' = m := by
  cases c with
  | store key u => cases hc
  | delete key => cases hc
  | setStatus key s => cases hc
  | retrieve key => exact h.elim And.right fun ⟨_, _, _, hm⟩ => hm
  | status key => exact h.elim And.right fun ⟨_, _, _, hm⟩ => hm
  | fetch location => exact h.1
  | _ => exact h

/-- Work that changes nothing leaves the store to the others. -/
theorem Plays.star (h : Plays R w m xs a m') (hxs : ∀ x ∈ xs, x.call.target? = none) :
    ReflTransGen R m m' := by
  induction h with
  | done => exact .refl
  | ask others answer rest ih =>
      obtain rfl := answer.eq_of_target? (hxs _ (List.mem_cons_self ..))
      exact others.trans (ih fun x hx => hxs x (List.mem_cons_of_mem _ hx))

end

/-! ## The answers of the store -/

section

variable {m m' : Memory} {key j : Artifact.Key} {u : Artifact.Upload} {s : Artifact.Status}

theorem Answers.of_store {r : Except Store.Fault Unit} (h : Answers m m' (.store key u) r)
    (hu : u.content.length = u.size) :
    (r = .ok () ∧ m' = m.insert key u.toArtifact) ∨ Fails r m m' := by
  refine h.imp_left fun h => ?_
  simp only [Memory.store, Store.checkSize, hu, if_true, Prod.mk.injEq] at h
  exact h

theorem Answers.of_delete {r : Except Store.Fault Unit} (h : Answers m m' (.delete key) r) :
    (r = .ok () ∧ m' = m.erase key) ∨ Fails r m m' :=
  h.imp_left fun h => Prod.mk.inj h

theorem Answers.of_setStatus {r : Except Store.Fault Unit}
    (h : Answers m m' (.setStatus key s) r) :
    (∃ a, m.get? key = some a ∧ r = .ok () ∧
      m' = m.insert key { a with metadata := { a.metadata with status := s } }) ∨
    (m.get? key = none ∧ r = .error (.notFound key) ∧ m' = m) ∨ Fails r m m' := by
  rcases h with h | h
  · cases hk : m.get? key with
    | some a =>
        rw [Memory.setStatus_of_get? hk] at h
        exact Or.inl ⟨a, rfl, Prod.mk.inj h⟩
    | none =>
        rw [Memory.setStatus_of_none hk] at h
        exact Or.inr (Or.inl ⟨rfl, Prod.mk.inj h⟩)
  · exact Or.inr (Or.inr h)

theorem Answers.of_status {r : Except Store.Fault Artifact.Status}
    (h : Answers m m' (.status key) r) :
    m' = m ∧ ((∃ a, m.get? key = some a ∧ r = .ok a.metadata.status) ∨
      (m.get? key = none ∧ r = .error (.notFound key)) ∨
      ∃ e, r = .error e ∧ ∀ k, e ≠ .notFound k) := by
  rcases h with ⟨hr, hm⟩ | ⟨e, hr, he, hm⟩
  · refine ⟨hm, ?_⟩
    cases hk : m.get? key with
    | some a =>
        simp only [Memory.status, Memory.retrieve, hk, Except.map] at hr
        exact Or.inl ⟨a, rfl, hr⟩
    | none =>
        simp only [Memory.status, Memory.retrieve, hk, Except.map] at hr
        exact Or.inr (Or.inl ⟨rfl, hr⟩)
  · exact ⟨hm, Or.inr (Or.inr ⟨e, hr, he⟩)⟩

/-- A call leaves every artifact alone but its target. -/
theorem Answers.get?_of_ne {c : Call} {r : c.Reply} (h : Answers m m' c r)
    (hc : c.target? ≠ some j) : m'.get? j = m.get? j := by
  cases c with
  | store key u =>
      have hne : j ≠ key := fun he => hc (he ▸ rfl)
      rcases h with h | ⟨_, _, _, rfl⟩
      · unfold Memory.store at h
        split at h
        · rw [(Prod.mk.inj h).2]
        · rw [(Prod.mk.inj h).2, Memory.get?_insert_of_ne hne]
      · rfl
  | delete key =>
      have hne : j ≠ key := fun he => hc (he ▸ rfl)
      rcases Answers.of_delete h with ⟨_, rfl⟩ | ⟨_, _, _, rfl⟩
      · exact Memory.get?_erase_of_ne hne
      · rfl
  | setStatus key s =>
      have hne : j ≠ key := fun he => hc (he ▸ rfl)
      rcases Answers.of_setStatus h with ⟨a, _, _, rfl⟩ | ⟨_, _, rfl⟩ | ⟨_, _, _, rfl⟩
      · exact Memory.get?_insert_of_ne hne
      · rfl
      · rfl
  | _ => rw [h.eq_of_target? rfl]

/-- An artifact that no call of a play can change, and no one else, stays as it is. -/
theorem Plays.get?_eq {α : Type} {R : Memory → Memory → Prop} {w : Work α} {xs : List Exchange}
    {a : α} {dataset : String} {kind : Artifact.Kind} (hR : LeavesAlone R dataset)
    (h : Plays R w m xs a m') (hxs : ∀ x ∈ xs, x.call.target? ≠ some ⟨dataset, kind⟩) :
    m'.get? ⟨dataset, kind⟩ = m.get? ⟨dataset, kind⟩ := by
  induction h with
  | done => rfl
  | ask others answer rest ih =>
      rw [ih fun x hx => hxs x (List.mem_cons_of_mem _ hx),
        answer.get?_of_ne (hxs _ (List.mem_cons_self ..)), hR.get?_eq others kind]

end

end Intake.Service
