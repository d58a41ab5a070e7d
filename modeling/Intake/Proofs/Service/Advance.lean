import Intake.Proofs.Service.Traffic

/-!
# What becomes of a dataset

In any traffic the file of a dataset is stored once. After that it is approved and it is removed, and
nothing else happens to it. What is approved does not go back to being staged.
-/

namespace Intake

def Artifact.approved (a : Artifact) : Artifact :=
  { a with metadata := { a.metadata with status := .stored } }

namespace Service

open Store (Memory)
open Artifact (Key Kind)
open Relation (ReflTransGen)

/-! ## Once the name of a dataset is known -/

/-- What becomes of an artifact of a dataset whose name is known. -/
inductive Tended (kind : Kind) : Option Artifact → Option Artifact → Prop
  | same (a : Option Artifact) : Tended kind a a
  | gone (a : Option Artifact) : Tended kind a none
  | approved (a : Artifact) : Tended kind (some a) (some a.approved)
  | stored (hkind : kind ≠ .file) (a : Option Artifact) {b : Artifact}
      (hb : b.metadata.status = .stored) : Tended kind a (some b)

theorem Tended.trans {kind : Kind} {a b c : Option Artifact} (h : Tended kind a b)
    (h' : Tended kind b c) : Tended kind a c := by
  cases h' with
  | same => exact h
  | gone => exact .gone a
  | stored hkind _ hc => exact .stored hkind a hc
  | approved b =>
      cases h with
      | same => exact .approved b
      | approved a => exact .approved a
      | stored hkind _ hb => exact .stored hkind a rfl

theorem Tended.of_none {a : Option Artifact} (h : Tended .file none a) : a = none := by
  cases h with
  | same => rfl
  | gone => rfl
  | stored hkind => exact absurd rfl hkind

/-- A call on other datasets, that does not ask for a name. -/
def Call.Apart (dataset : String) (c : Call) : Prop :=
  (∀ key, c.target? = some key → key.dataset ≠ dataset) ∧ c ≠ .freshName

def Call.Minds (dataset : String) (c : Call) : Prop := c.Tends dataset ∨ c.Apart dataset

section

variable {dataset other : String} {m m' : Memory} {c : Call} {r : c.Reply} {kind : Kind}

theorem Call.Quiet.apart (h : c.Quiet) : c.Apart dataset := by
  refine ⟨fun key hkey => ?_, h.2⟩
  rw [h.1] at hkey
  cases hkey

theorem Call.Tends.apart (h : c.Tends other) (hne : other ≠ dataset) : c.Apart dataset := by
  cases c with
  | store key u =>
      refine ⟨?_, by simp⟩
      rintro _ ⟨⟩
      exact fun he => hne (h.1.symm.trans he)
  | delete key =>
      refine ⟨?_, by simp⟩
      rintro _ ⟨⟩
      exact fun he => hne (h.symm.trans he)
  | setStatus key s =>
      refine ⟨?_, by simp⟩
      rintro _ ⟨⟩
      exact fun he => hne (h.1.symm.trans he)
  | freshName => exact h.elim
  | _ => exact ⟨by simp [target?], by simp⟩

theorem Serves.get?_of_ne {j : Key} (h : Serves m m' c r) (hc : c.target? ≠ some j) :
    m'.get? j = m.get? j := by
  cases hf : c.isFetch with
  | false => exact (h.answers hf).get?_of_ne hc
  | true =>
      cases c with
      | fetch => rw [show m' = m from h]
      | _ => cases hf

theorem Serves.get?_of_apart (h : Serves m m' c r) (hc : c.Apart dataset) :
    m'.get? ⟨dataset, kind⟩ = m.get? ⟨dataset, kind⟩ :=
  h.get?_of_ne fun he => hc.1 _ he rfl

theorem Serves.of_store {key : Key} {u : Artifact.Upload} {r : Except Store.Fault Unit}
    (h : Serves m m' (.store key u) r) :
    (r = .ok () ∧ m' = m.insert key u.toArtifact) ∨ ((∃ e, r = .error e) ∧ m' = m) := by
  rcases h with h | ⟨e, hr, _, hm⟩
  · unfold Memory.store at h
    cases hs : Store.checkSize u with
    | error e =>
        rw [hs] at h
        exact Or.inr ⟨⟨e, (Prod.mk.inj h).1⟩, (Prod.mk.inj h).2⟩
    | ok =>
        rw [hs] at h
        exact Or.inl (Prod.mk.inj h)
  · exact Or.inr ⟨⟨e, hr⟩, hm⟩

theorem Serves.tended_of_tends (h : Serves m m' c r) (hc : c.Tends dataset) :
    Tended kind (m.get? ⟨dataset, kind⟩) (m'.get? ⟨dataset, kind⟩) := by
  by_cases htarget : c.target? = some ⟨dataset, kind⟩
  · cases c with
    | store key u =>
        obtain rfl := Option.some.inj htarget
        rcases h.of_store with ⟨_, rfl⟩ | ⟨_, rfl⟩
        · rw [Memory.get?_insert_self]
          exact .stored hc.2.1 _ hc.2.2
        · exact .same _
    | delete key =>
        obtain rfl := Option.some.inj htarget
        rcases Answers.of_delete h with ⟨_, rfl⟩ | ⟨_, _, _, rfl⟩
        · rw [Memory.get?_erase_self]
          exact .gone _
        · exact .same _
    | setStatus key s =>
        obtain rfl := Option.some.inj htarget
        obtain ⟨_, rfl⟩ := hc
        rcases Answers.of_setStatus h with ⟨a, ha, _, rfl⟩ | ⟨_, _, rfl⟩ | ⟨_, _, _, rfl⟩
        · rw [Memory.get?_insert_self, ha]
          exact .approved a
        · exact .same _
        · exact .same _
    | _ => cases htarget
  · rw [h.get?_of_ne htarget]
    exact .same _

theorem Serves.tended (h : Serves m m' c r) (hc : c.Minds dataset) :
    Tended kind (m.get? ⟨dataset, kind⟩) (m'.get? ⟨dataset, kind⟩) := by
  rcases hc with hc | hc
  · exact h.tended_of_tends hc
  · rw [h.get?_of_apart hc]
    exact .same _

end

/-! ## The phases of a dataset -/

/-- Every artifact is approved or, unless it is made by the transformation, staged. -/
def Upright (dataset : String) (m : Memory) : Prop :=
  ∀ kind a, m.get? ⟨dataset, kind⟩ = some a →
    a.metadata.status = .stored ∨ a.metadata.status = .staged ∧ kind ≠ .irm

/-- What the store has of a dataset in a phase. -/
def Phase.Holds (dataset : String) (m : Memory) : Phase → Prop
  | unnamed | named => ∀ kind, m.get? ⟨dataset, kind⟩ = none
  | filed => m.statusOf? ⟨dataset, .file⟩ = some .staged ∧ m.get? ⟨dataset, .irm⟩ = none ∧
      m.get? ⟨dataset, .metacard⟩ = none
  | staged => m.statusOf? ⟨dataset, .file⟩ = some .staged ∧ m.get? ⟨dataset, .irm⟩ = none ∧
      m.statusOf? ⟨dataset, .metacard⟩ = some .staged
  | released => Upright dataset m

/-- Work that leaves a dataset alone. -/
def Idle (dataset : String) (w : Work Unit) : Prop :=
  w.Always (Call.Apart dataset) ∨ IsArriving w

def Minding (dataset : String) (w : Work Unit) : Prop :=
  w.Always (Call.Minds dataset) ∨ IsArriving w

/-- Who works on a dataset in a phase. -/
inductive Staffed (dataset : String) : Phase → Traffic → Prop
  | unnamed {t : Traffic} (hknown : dataset ∉ t.known)
      (hidle : ∀ th ∈ t.threads, Idle dataset th.work) : Staffed dataset .unnamed t
  | staging {t : Traffic} {p : Phase} (i : Nat) {w : Work Unit} (hknown : dataset ∈ t.known)
      (hthread : t.threads[i]? = some ⟨some dataset, w⟩) (hw : Staging dataset p w)
      (hidle : ∀ j th, j ≠ i → t.threads[j]? = some th → Idle dataset th.work) :
      Staffed dataset p t
  | released {t : Traffic} (hknown : dataset ∈ t.known)
      (hminding : ∀ th ∈ t.threads, Minding dataset th.work) : Staffed dataset .released t

structure Stands (dataset : String) (p : Phase) (t : Traffic) : Prop where
  staffed : Staffed dataset p t
  holds : p.Holds dataset t.store

/-- What a later state of the store is to an earlier one, each in its phase. -/
structure Follows (dataset : String) (p : Phase) (m : Memory) (p' : Phase) (m' : Memory) : Prop where
  released : p = .released →
    p' = .released ∧ ∀ kind, Tended kind (m.get? ⟨dataset, kind⟩) (m'.get? ⟨dataset, kind⟩)
  file : ∀ a, m.get? ⟨dataset, .file⟩ = some a →
    Tended .file (some a) (m'.get? ⟨dataset, .file⟩) ∧
      (m'.get? ⟨dataset, .file⟩ = none → p' = .released)

section

variable {dataset : String} {p p' p'' : Phase} {m m' m'' : Memory}

theorem Follows.of_eq (h : ∀ kind, m'.get? ⟨dataset, kind⟩ = m.get? ⟨dataset, kind⟩)
    (hp : p = .released → p' = .released) : Follows dataset p m p' m' where
  released hr := ⟨hp hr, fun kind => by rw [h]; exact .same _⟩
  file a ha := by
    rw [h, ha]
    exact ⟨.same _, by simp⟩

theorem Follows.trans (h : Follows dataset p m p' m') (h' : Follows dataset p' m' p'' m'') :
    Follows dataset p m p'' m'' where
  released hp := by
    obtain ⟨hp', ht⟩ := h.released hp
    obtain ⟨hp'', ht'⟩ := h'.released hp'
    exact ⟨hp'', fun kind => (ht kind).trans (ht' kind)⟩
  file a ha := by
    obtain ⟨ht, hgone⟩ := h.file a ha
    cases hm : m'.get? ⟨dataset, .file⟩ with
    | some b =>
        obtain ⟨ht', hgone'⟩ := h'.file b hm
        rw [hm] at ht
        exact ⟨ht.trans ht', hgone'⟩
    | none =>
        obtain ⟨hp'', ht'⟩ := h'.released (hgone hm)
        exact ⟨ht.trans (ht' .file), fun _ => hp''⟩

theorem upright_of_none (h : ∀ kind, m.get? ⟨dataset, kind⟩ = none) : Upright dataset m := by
  intro kind a ha
  rw [h kind] at ha
  cases ha

theorem Upright.tended (h : Upright dataset m)
    (ht : ∀ kind, Tended kind (m.get? ⟨dataset, kind⟩) (m'.get? ⟨dataset, kind⟩)) :
    Upright dataset m' := by
  intro kind a ha
  have hk := ht kind
  generalize hb : m.get? ⟨dataset, kind⟩ = b at hk
  rw [ha] at hk
  cases hk with
  | same => exact h kind a hb
  | approved b => exact Or.inl rfl
  | stored _ _ ha => exact Or.inl ha

theorem Staging.idle {other : String} {w : Work Unit} (h : Staging other p w)
    (hne : other ≠ dataset) : w.Always (Call.Apart dataset) := by
  refine h.always (fun kind u => ⟨?_, by simp⟩) fun c => Call.Quiet.apart
  rintro _ ⟨⟩
  exact hne

theorem Idle.minding {w : Work Unit} (h : Idle dataset w) : Minding dataset w :=
  h.imp_left fun h => h.mono fun _ => Or.inr

end

/-! ## One step -/

section

variable {dataset : String} {m m' : Memory} {c : Call} {next : c.Reply → Work Unit} {r : c.Reply}

/-- An ingest without a name asks for one first. -/
theorem IsArriving.named (h : IsArriving (.ask c next)) (hserves : Serves m m' c r) :
    ∃ dataset, Exchange.name? ⟨c, r⟩ = some dataset ∧ Staging dataset .named (next r) ∧ m' = m ∧
      ∀ secret?, Exchange.secretAfter secret? ⟨c, r⟩ = some dataset := by
  obtain ⟨site, s, h⟩ := h
  rw [work_ingest] at h
  cases h
  exact ⟨r, rfl, staging_afterName site s r, hserves, fun _ => rfl⟩

/-- Work that leaves a dataset alone goes on doing so, unless it is given its name. -/
theorem Idle.step (h : Idle dataset (.ask c next)) (hserves : Serves m m' c r)
    (hname : Exchange.name? ⟨c, r⟩ ≠ some dataset) :
    Idle dataset (next r) ∧ ∀ kind, m'.get? ⟨dataset, kind⟩ = m.get? ⟨dataset, kind⟩ := by
  rcases h with h | h
  · exact ⟨Or.inl (h.2 r), fun kind => hserves.get?_of_apart h.1⟩
  · obtain ⟨other, hother, hstaging, rfl, _⟩ := h.named hserves
    exact ⟨Or.inl (hstaging.idle fun he => hname (hother.trans (congrArg some he))), fun _ => rfl⟩

theorem Idle.named (h : Idle dataset (.ask c next)) (hserves : Serves m m' c r)
    (hname : Exchange.name? ⟨c, r⟩ = some dataset) :
    Staging dataset .named (next r) ∧ m' = m ∧
      ∀ secret?, Exchange.secretAfter secret? ⟨c, r⟩ = some dataset := by
  rcases h with h | h
  · cases c with
    | freshName => exact absurd rfl h.1.2
    | _ => cases hname
  · obtain ⟨other, hother, hrest⟩ := h.named hserves
    obtain rfl := Option.some.inj (hother.symm.trans hname)
    exact hrest

theorem Minding.step (h : Minding dataset (.ask c next)) (hserves : Serves m m' c r)
    (hname : Exchange.name? ⟨c, r⟩ ≠ some dataset) :
    Minding dataset (next r) ∧
      ∀ kind, Tended kind (m.get? ⟨dataset, kind⟩) (m'.get? ⟨dataset, kind⟩) := by
  rcases h with h | h
  · exact ⟨Or.inl (h.2 r), fun kind => hserves.tended h.1⟩
  · obtain ⟨other, hother, hstaging, rfl, _⟩ := h.named hserves
    exact ⟨Or.inl ((hstaging.idle fun he => hname (hother.trans (congrArg some he))).mono fun _ => Or.inr),
      fun _ => .same _⟩

theorem Job.idle_work {job : Job} (h : job.dataset? ≠ some dataset) : Idle dataset job.work := by
  cases hd : job.dataset? with
  | none =>
      cases job with
      | ingest site s => exact Or.inr ⟨site, s, rfl⟩
      | _ => cases hd
  | some other =>
      refine Or.inl ((Job.tends_work hd).mono fun c hc => hc.apart fun he => h ?_)
      rw [hd, he]

theorem Job.minding_work (job : Job) : Minding dataset job.work := by
  by_cases h : job.dataset? = some dataset
  · exact Or.inl ((Job.tends_work h).mono fun _ => Or.inl)
  · exact (Job.idle_work h).minding

/-! ## Every step -/

theorem status_of_statusOf? {m : Memory} {key : Key} {a : Artifact} {s : Artifact.Status}
    (h : m.statusOf? key = some s) (ha : m.get? key = some a) : a.metadata.status = s := by
  rw [Memory.statusOf?, ha] at h
  exact Option.some.inj h

theorem Phase.Holds.upright {p : Phase} (h : p.Holds dataset m) : Upright dataset m := by
  intro kind a ha
  cases p with
  | unnamed => exact upright_of_none h kind a ha
  | named => exact upright_of_none h kind a ha
  | filed =>
      obtain ⟨hfile, hirm, hcard⟩ := h
      cases kind with
      | file => exact Or.inr ⟨status_of_statusOf? hfile ha, by simp⟩
      | irm => exact absurd (hirm.symm.trans ha) (by simp)
      | metacard => exact absurd (hcard.symm.trans ha) (by simp)
  | staged =>
      obtain ⟨hfile, hirm, hcard⟩ := h
      cases kind with
      | file => exact Or.inr ⟨status_of_statusOf? hfile ha, by simp⟩
      | irm => exact absurd (hirm.symm.trans ha) (by simp)
      | metacard => exact Or.inr ⟨status_of_statusOf? hcard ha, by simp⟩
  | released => exact h kind a ha

theorem Phase.Holds.congr {p : Phase} (h : p.Holds dataset m)
    (hsame : ∀ kind, m'.get? ⟨dataset, kind⟩ = m.get? ⟨dataset, kind⟩) : p.Holds dataset m' := by
  cases p <;> simpa only [Holds, Upright, Memory.statusOf?, hsame] using h

/-- Staging goes on to its next phase, or the dataset is released as it is. -/
theorem Staging.step {p : Phase} (h : Staging dataset p (.ask c next)) (hserves : Serves m m' c r)
    (hholds : p.Holds dataset m) :
    Exchange.name? ⟨c, r⟩ = none ∧
      ((∃ p', Staging dataset p' (next r) ∧
          Exchange.secretAfter (some dataset) ⟨c, r⟩ = some dataset ∧ p'.Holds dataset m' ∧
          Follows dataset p m p' m') ∨
        (next r).Always Call.Quiet ∧ Upright dataset m' ∧ Follows dataset p m .released m') := by
  cases h with
  | named hu hfailed hstored =>
      refine ⟨rfl, ?_⟩
      rcases hserves.of_store with ⟨rfl, rfl⟩ | ⟨⟨e, rfl⟩, rfl⟩
      · refine Or.inl ⟨.filed, hstored, rfl, ⟨?_, ?_, ?_⟩, by simp, fun a ha => ?_⟩
        · rw [Memory.statusOf?, Memory.get?_insert_self, Option.map_some, hu]
        · rw [Memory.get?_insert_of_ne (by simp)]
          exact hholds .irm
        · rw [Memory.get?_insert_of_ne (by simp)]
          exact hholds .metacard
        · rw [hholds .file] at ha
          cases ha
      · exact Or.inr ⟨hfailed e, hholds.upright, .of_eq (fun _ => rfl) (by simp)⟩
  | filed hu hfailed hstored =>
      refine ⟨rfl, ?_⟩
      rcases hserves.of_store with ⟨rfl, rfl⟩ | ⟨⟨e, rfl⟩, rfl⟩
      · have hfile : ∀ u : Artifact.Upload, (m.insert ⟨dataset, .metacard⟩ u.toArtifact).get?
            ⟨dataset, .file⟩ = m.get? ⟨dataset, .file⟩ := fun u => Memory.get?_insert_of_ne (by simp)
        refine Or.inl ⟨.staged, hstored, rfl, ⟨?_, ?_, ?_⟩, by simp, fun a ha => ?_⟩
        · rw [Memory.statusOf?, hfile]
          exact hholds.1
        · rw [Memory.get?_insert_of_ne (by simp)]
          exact hholds.2.1
        · rw [Memory.statusOf?, Memory.get?_insert_self, Option.map_some, hu]
        · rw [hfile, ha]
          exact ⟨.same _, by simp⟩
      · exact Or.inr ⟨hfailed e, hholds.upright, .of_eq (fun _ => rfl) (by simp)⟩
  | staged hafter =>
      obtain rfl : m' = m := hserves
      exact ⟨rfl, Or.inr ⟨hafter r, hholds.upright, .of_eq (fun _ => rfl) (by simp)⟩⟩

end

section

variable {dataset : String} {p : Phase} {t t' : Traffic}

theorem Staging.not_result {w : Work Unit} (h : Staging dataset p w) : w.result? = none := by
  cases h <;> rfl

/-- A new job on a dataset is started only when its name is known or will never be given. -/
theorem Stands.start (h : Stands dataset p t) {job : Job}
    (hopen : ∀ d, job.dataset? = some d → ∀ th ∈ t.threads, ¬ th.Hides d) :
    ∃ p', Stands dataset p' { t with
        known := job.dataset?.toList ++ t.known
        threads := t.threads ++ [⟨none, job.work⟩] } ∧
      Follows dataset p t.store p' t.store := by
  obtain ⟨hstaffed, hholds⟩ := h
  cases hstaffed with
  | unnamed hknown hidle =>
      by_cases hjob : job.dataset? = some dataset
      · refine ⟨.released, ⟨.released ?_ ?_, upright_of_none hholds⟩, .of_eq (fun _ => rfl) (by simp)⟩
        · simp [hjob]
        · intro th hth
          rcases List.mem_append.mp hth with hth | hth
          · exact (hidle th hth).minding
          · rw [List.mem_singleton.mp hth]
            exact job.minding_work
      · refine ⟨.unnamed, ⟨.unnamed ?_ ?_, hholds⟩, .of_eq (fun _ => rfl) (by simp)⟩
        · simpa [hknown] using hjob
        · intro th hth
          rcases List.mem_append.mp hth with hth | hth
          · exact hidle th hth
          · rw [List.mem_singleton.mp hth]
            exact Job.idle_work hjob
  | staging k hknown hthread hw hidle =>
      have hjob : job.dataset? ≠ some dataset := fun hjob =>
        hopen dataset hjob _ (List.mem_of_getElem? hthread) ⟨rfl, hw.not_result⟩
      obtain ⟨hlt, _⟩ := List.getElem?_eq_some_iff.mp hthread
      refine ⟨p, ⟨.staging k (List.mem_append_right _ hknown) ?_ hw ?_, hholds⟩,
        .of_eq (fun _ => rfl) id⟩
      · rw [List.getElem?_append_left hlt]
        exact hthread
      · intro j th hj hth
        by_cases hjt : j < t.threads.length
        · rw [List.getElem?_append_left hjt] at hth
          exact hidle j th hj hth
        · rw [List.getElem?_append_right (Nat.le_of_not_lt hjt)] at hth
          rw [List.mem_singleton.mp (List.mem_of_getElem? hth)]
          exact Job.idle_work hjob
  | released hknown hminding =>
      refine ⟨.released, ⟨.released (List.mem_append_right _ hknown) ?_, hholds⟩,
        .of_eq (fun _ => rfl) id⟩
      intro th hth
      rcases List.mem_append.mp hth with hth | hth
      · exact hminding th hth
      · rw [List.mem_singleton.mp hth]
        exact job.minding_work

theorem Stands.call (h : Stands dataset p t) {i : Nat} {secret? : Option String} {c : Call}
    {next : c.Reply → Work Unit} {r : c.Reply} {m : Memory}
    (hthread : t.threads[i]? = some ⟨secret?, .ask c next⟩) (hserves : Serves t.store m c r)
    (hnew : ∀ d, Exchange.name? ⟨c, r⟩ = some d → d ∉ t.known) :
    ∃ p', Stands dataset p' {
        store := m
        known := (Exchange.name? ⟨c, r⟩).toList ++ t.known
        threads := t.threads.set i ⟨Exchange.secretAfter secret? ⟨c, r⟩, next r⟩ } ∧
      Follows dataset p t.store p' m := by
  obtain ⟨hstaffed, hholds⟩ := h
  have hmem := List.mem_of_getElem? hthread
  obtain ⟨hlt, _⟩ := List.getElem?_eq_some_iff.mp hthread
  cases hstaffed with
  | unnamed hknown hidle =>
      by_cases hname : Exchange.name? ⟨c, r⟩ = some dataset
      · obtain ⟨hstaging, rfl, hsecret⟩ := (hidle _ hmem).named hserves hname
        refine ⟨.named, ⟨.staging i (by simp [hname]) ?_ hstaging ?_, hholds⟩,
          .of_eq (fun _ => rfl) (by simp)⟩
        · rw [List.getElem?_set_self hlt, hsecret]
        · intro j th hj hth
          rw [List.getElem?_set_ne (Ne.symm hj)] at hth
          exact hidle th (List.mem_of_getElem? hth)
      · obtain ⟨hnext, hsame⟩ := (hidle _ hmem).step hserves hname
        refine ⟨.unnamed, ⟨.unnamed ?_ ?_, fun kind => (hsame kind).trans (hholds kind)⟩,
          .of_eq hsame (by simp)⟩
        · simpa [hknown] using hname
        · intro th hth
          rcases List.mem_or_eq_of_mem_set hth with hth | rfl
          · exact hidle th hth
          · exact hnext
  | staging k hknown hstager hw hidle =>
      have hname : Exchange.name? ⟨c, r⟩ ≠ some dataset := fun hname => hnew _ hname hknown
      have hknown' := List.mem_append_right (Exchange.name? ⟨c, r⟩).toList hknown
      by_cases hi : i = k
      · -- The ingest goes on; what it stores is the next phase, and a submission or a failure the last.
        subst hi
        cases hthread.symm.trans hstager
        have hothers : ∀ j th, j ≠ i → (t.threads.set i
            ⟨Exchange.secretAfter (some dataset) ⟨c, r⟩, next r⟩)[j]? = some th →
            Idle dataset th.work := by
          intro j th hj hth
          rw [List.getElem?_set_ne (Ne.symm hj)] at hth
          exact hidle j th hj hth
        obtain ⟨_, ⟨p', hstaging, hsecret, hholds', hfollows⟩ | ⟨hquiet, hupright, hfollows⟩⟩ :=
          hw.step hserves hholds
        · refine ⟨p', ⟨.staging i hknown' ?_ hstaging hothers, hholds'⟩, hfollows⟩
          rw [List.getElem?_set_self hlt, hsecret]
        · refine ⟨.released, ⟨.released hknown' fun th hth => ?_, hupright⟩, hfollows⟩
          obtain ⟨j, hth⟩ := List.getElem?_of_mem hth
          by_cases hj : j = i
          · subst hj
            rw [List.getElem?_set_self hlt] at hth
            cases hth
            exact Or.inl (hquiet.mono fun c hc => Or.inl (hc.tends dataset))
          · exact (hothers j th hj hth).minding
      · -- Someone else goes on, who does not know the name yet.
        obtain ⟨hnext, hsame⟩ := (hidle i _ hi hthread).step hserves hname
        refine ⟨p, ⟨.staging k hknown' ?_ hw ?_, ?_⟩, .of_eq hsame id⟩
        · rw [List.getElem?_set_ne hi]
          exact hstager
        · intro j th hj hth
          by_cases hji : j = i
          · subst hji
            rw [List.getElem?_set_self hlt] at hth
            cases hth
            exact hnext
          · rw [List.getElem?_set_ne (Ne.symm hji)] at hth
            exact hidle j th hj hth
        · exact hholds.congr hsame
  | released hknown hminding =>
      have hname : Exchange.name? ⟨c, r⟩ ≠ some dataset := fun hname => hnew _ hname hknown
      obtain ⟨hnext, htended⟩ := (hminding _ hmem).step hserves hname
      refine ⟨.released, ⟨.released (List.mem_append_right _ hknown) ?_, hholds.tended htended⟩,
        fun _ => ⟨rfl, htended⟩, fun a ha => ⟨?_, fun _ => rfl⟩⟩
      · intro th hth
        rcases List.mem_or_eq_of_mem_set hth with hth | rfl
        · exact hminding th hth
        · exact hnext
      · rw [← ha]
        exact htended .file

theorem Stands.step (h : Stands dataset p t) (hs : Traffic.Step t t') :
    ∃ p', Stands dataset p' t' ∧ Follows dataset p t.store p' t'.store := by
  cases hs with
  | start job hopen => exact h.start hopen
  | call hthread hserves hnew => exact h.call hthread hserves hnew

theorem Stands.leads (h : Stands dataset p t) (hs : t.Leads t') :
    ∃ p', Stands dataset p' t' ∧ Follows dataset p t.store p' t'.store := by
  induction hs with
  | refl => exact ⟨p, h, .of_eq (fun _ => rfl) id⟩
  | tail _ hstep ih =>
      obtain ⟨p₁, h₁, hfollows⟩ := ih
      obtain ⟨p₂, h₂, hfollows'⟩ := h₁.step hstep
      exact ⟨p₂, h₂, hfollows.trans hfollows'⟩

theorem stands_atRest (dataset : String) : Stands dataset .unnamed .atRest :=
  ⟨.unnamed (by simp [Traffic.atRest]) (by simp [Traffic.atRest]), fun _ => rfl⟩

end

/-- A metacard that is approved belongs to a dataset whose name is known. -/
theorem Stands.released_of_stored {dataset : String} {p : Phase} {t : Traffic}
    (h : Stands dataset p t) (hcard : t.store.statusOf? ⟨dataset, .metacard⟩ = some .stored) :
    p = .released := by
  have hholds := h.holds
  cases p with
  | unnamed => simp [Memory.statusOf?, hholds .metacard] at hcard
  | named => simp [Memory.statusOf?, hholds .metacard] at hcard
  | filed => simp [Memory.statusOf?, hholds.2.2] at hcard
  | staged => simp [hholds.2.2] at hcard
  | released => rfl

theorem Tended.not_staged {kind : Kind} {a b : Option Artifact} (h : Tended kind a b)
    (ha : a.map (fun a => a.metadata.status) ≠ some .staged) :
    b.map (fun a => a.metadata.status) ≠ some .staged := by
  cases h with
  | same => exact ha
  | gone => simp
  | approved a => simp [Artifact.approved]
  | stored _ _ hb => simp [hb]

theorem Tended.of_some {a b : Artifact} (h : Tended .file (some a) (some b)) :
    b = a ∨ b = a.approved := by
  cases h with
  | same => exact Or.inl rfl
  | approved => exact Or.inr rfl
  | stored hkind => exact absurd rfl hkind

/-- In any traffic, from its start to `t`, to `t'` and to `t''`: a file stays as it is but for being
approved, and once it is gone it does not come back; a metacard that was approved is never staged
again; what the transformation makes is approved, and nothing is held back. -/
theorem artifacts_advance {t t' t'' : Traffic} (h : Traffic.atRest.Leads t) (h' : t.Leads t')
    (h'' : t'.Leads t'') (dataset : String) :
    (∀ a a', t.store.get? ⟨dataset, .file⟩ = some a → t'.store.get? ⟨dataset, .file⟩ = some a' →
      a' = a ∨ a.metadata.status = .staged ∧ a' = a.approved) ∧
    (t.store.get? ⟨dataset, .file⟩ ≠ none → t'.store.get? ⟨dataset, .file⟩ = none →
      t''.store.get? ⟨dataset, .file⟩ = none) ∧
    (t.store.statusOf? ⟨dataset, .metacard⟩ = some .stored →
      t'.store.statusOf? ⟨dataset, .metacard⟩ ≠ some .staged) ∧
    (∀ a, t.store.get? ⟨dataset, .irm⟩ = some a → a.metadata.status = .stored) ∧
    ∀ kind, t.store.statusOf? ⟨dataset, kind⟩ ≠ some .quarantined := by
  obtain ⟨p, hp, _⟩ := (stands_atRest dataset).leads h
  obtain ⟨p', hp', hfollows⟩ := hp.leads h'
  obtain ⟨p'', _, hfollows'⟩ := hp'.leads h''
  have hupright := hp.holds.upright
  refine ⟨fun a a' ha ha' => ?_, fun hfile hgone => ?_, fun hcard => ?_, fun a ha => ?_,
    fun kind hkind => ?_⟩
  · have htended := (hfollows.file a ha).1
    rw [ha'] at htended
    rcases htended.of_some with rfl | rfl
    · exact Or.inl rfl
    · -- To approve what is approved changes nothing.
      rcases hupright .file a ha with hs | ⟨hs, _⟩
      · left
        obtain ⟨mediaType, content, fileName, status⟩ := a
        obtain rfl : status = .stored := hs
        rfl
      · exact Or.inr ⟨hs, rfl⟩
  · obtain ⟨a, ha⟩ := Option.ne_none_iff_exists'.mp hfile
    have hreleased := (hfollows.file a ha).2 hgone
    have htended := (hfollows'.released hreleased).2 .file
    rw [hgone] at htended
    exact htended.of_none
  · have htended := (hfollows.released (hp.released_of_stored hcard)).2 .metacard
    exact htended.not_staged fun hs => by simp [Memory.statusOf?, hs] at hcard
  · rcases hupright .irm a ha with hs | ⟨_, hne⟩
    · exact hs
    · exact absurd rfl hne
  · obtain ⟨a, ha, hs⟩ := Option.map_eq_some_iff.mp hkind
    rcases hupright kind a ha with hs' | ⟨hs', _⟩ <;> simp [hs'] at hs

/-- A dataset is taken in, promoted with a product that calls itself a file, and removed. -/
theorem artifacts_advance_shortLife :
    ∃ t₁ t₂ t₃ : Traffic, Traffic.atRest.Leads t₁ ∧ t₁.Leads t₂ ∧ t₂.Leads t₃ ∧
      t₁.store.get? ⟨"a", .file⟩ = some ⟨"image/tiff", [1], ⟨some "a.tif", .staged⟩⟩ ∧
      t₂.store.get? ⟨"a", .file⟩ = some ⟨"image/tiff", [1], ⟨some "a.tif", .stored⟩⟩ ∧
      t₂.store.statusOf? ⟨"a", .metacard⟩ = some .stored ∧
      t₃.store.get? ⟨"a", .file⟩ = none ∧
      ∀ t, t₃.Leads t → t.store.get? ⟨"a", .file⟩ = none := by
  obtain ⟨t₁, h₁, hrest₁, hstore₁⟩ := Traffic.isAtRest_atRest.leads_ingest "a" .inProgress
    ⟨"http://s"⟩ ⟨1, "image/tiff", [1], some "a.tif", 1, [2]⟩ (by decide)
  obtain ⟨t₂, h₂, hrest₂, hstore₂⟩ := hrest₁.leads_job .inProgress
    (.promote ⟨"http://s"⟩ "a" [⟨" FILE ", "/1"⟩, ⟨"irm", "/2"⟩]) rfl
  obtain ⟨t₃, h₃, _, hstore₃⟩ := hrest₂.leads_job .inProgress (.quarantine "a") rfl
  rw [hstore₁] at hstore₂
  rw [hstore₂] at hstore₃
  have hfile₂ : t₂.store.get? ⟨"a", .file⟩ =
      some ⟨"image/tiff", [1], ⟨some "a.tif", .stored⟩⟩ := by
    rw [hstore₂]
    decide
  have hfile₃ : t₃.store.get? ⟨"a", .file⟩ = none := by
    rw [hstore₃]
    decide
  refine ⟨t₁, t₂, t₃, h₁, h₂, h₃, ?_, hfile₂, ?_, hfile₃, fun t h => ?_⟩
  · rw [hstore₁]
    decide
  · rw [hstore₂]
    decide
  · exact (artifacts_advance (h₁.trans h₂) h₃ h "a").2.1 (by simp [hfile₂]) hfile₃

end Service
end Intake
