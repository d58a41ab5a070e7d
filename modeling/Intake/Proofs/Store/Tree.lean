import Mathlib.Data.List.Induction
import Intake.Proofs.Store.Overwrite

/-!
# Volumes that are trees

On a tree of files everything lies in a directory. The primitives keep a tree one, change nothing beside
the paths that they are given, and never take a directory away from what is in it. What can be read on a
tree depends on nothing but the file itself.
-/

namespace Intake.Store

open Volume (handle)

namespace Volume

/-- Everything lies in a directory. -/
def IsTree (v : Volume) : Prop :=
  ∀ p name n, v.node? (p ++ [name]) = some n → v.node? p = some .directory

variable {v v' : Volume} {p q : Path} {name : String} {n : Node} {c : Bytes} {e : Errno}

theorem node?_erase_self (h : p ≠ []) : (v.erase p).node? p = none := by
  cases p with
  | nil => exact absurd rfl h
  | cons => exact lookup_filter_ne v.nodes _

theorem isTree_of_forall_mem
    (h : ∀ e ∈ v.nodes, e.1 ≠ [] → v.node? e.1.dropLast = some .directory) : v.IsTree := by
  intro p name n hn
  have hmem : (p ++ [name], n) ∈ v.nodes := by
    cases p <;> exact mem_of_lookup_eq_some hn
  simpa using h _ hmem (by simp)

/-! ## Trees -/

namespace IsTree

/-- A file has nothing in it. -/
theorem node?_below_file (h : v.IsTree) (hp : v.node? p = some (.file c)) (name : String) :
    v.node? (p ++ [name]) = none := by
  refine Option.eq_none_iff_forall_ne_some.mpr fun n hn => ?_
  cases hp.symm.trans (h p name n hn)

/-- Whatever a path leads through is a directory. -/
theorem node?_above (h : v.IsTree) (hq : q ≠ []) (hn : v.node? (p ++ q) = some n) :
    v.node? p = some .directory := by
  induction q using List.reverseRecOn generalizing n with
  | nil => exact absurd rfl hq
  | append_singleton q name ih =>
      rw [← List.append_assoc] at hn
      have hparent := h _ _ _ hn
      by_cases hnil : q = []
      · simpa [hnil] using hparent
      · exact ih hnil hparent

theorem hasRoot (h : v.IsTree) (hn : v.node? p = some n) : v.hasRoot = true := by
  have hroot : v.node? [] = some n ∨ v.node? [] = some .directory := by
    by_cases hp : p = []
    · exact Or.inl (hp ▸ hn)
    · exact Or.inr (h.node?_above (p := []) hp hn)
  cases hv : v.hasRoot with
  | true => rfl
  | false => simp [node?, hv] at hroot

theorem withRoot (h : v.IsTree) : ({ v with hasRoot := true } : Volume).IsTree := by
  intro p name n hn
  have hn' : v.node? (p ++ [name]) = some n := by cases p <;> exact hn
  cases p with
  | nil => rfl
  | cons => exact h _ _ _ hn'

theorem put (h : v.IsTree) (hparent : ∀ q name, p = q ++ [name] → v.node? q = some .directory)
    (hkept : n = .directory ∨ v.node? p ≠ some .directory) : (v.put p n).IsTree := by
  intro q name k hk
  have hq : v.node? q = some .directory := by
    by_cases he : q ++ [name] = p
    · exact hparent q name he.symm
    · exact h q name k (by rwa [node?_put_of_ne he] at hk)
  by_cases he : q = p
  · subst he
    rcases hkept with rfl | hne
    · cases q with
      | nil => exact hq
      | cons => exact node?_put_self (by simp)
    · exact absurd hq hne
  · rwa [node?_put_of_ne he]

theorem erase (h : v.IsTree) (hempty : ∀ name, v.node? (p ++ [name]) = none) : (v.erase p).IsTree := by
  intro q name k hk
  have hne : q ++ [name] ≠ p := by
    rintro rfl
    rw [node?_erase_self (by simp)] at hk
    cases hk
  rw [node?_erase_of_ne hne] at hk
  have hq : q ≠ p := by
    rintro rfl
    rw [hempty] at hk
    cases hk
  rw [node?_erase_of_ne hq]
  exact h q name k hk

end IsTree

/-! ## Following a path -/

theorem follow_eq_ok {at_ rest : Path} (h : v.follow at_ (rest ++ [name]) = .ok ())
    (hat : v.node? at_ = some .directory) : v.node? (at_ ++ rest) = some .directory := by
  induction rest generalizing at_ with
  | nil => simpa using hat
  | cons first rest ih =>
      rw [List.cons_append, follow.eq_3 _ _ _ _ (by simp)] at h
      obtain ⟨-, -, h⟩ := exists_of_bind_eq_ok h
      split at h
      · cases h
      · cases h
      · rename_i hfirst
        simpa using ih h hfirst

/-- What has been resolved lies in a directory. -/
theorem parent_of_resolve {o : Option Node} (h : v.resolve (q ++ [name]) = .ok o) :
    v.node? q = some .directory := by
  rw [resolve] at h
  split at h
  · rename_i hroot
    cases hfollow : v.follow [] (q ++ [name]) with
    | error e => simp [hfollow, Except.map] at h
    | ok => simpa using follow_eq_ok hfollow (by simp [node?, hroot])
  · cases h

theorem removeFile_eq_ok (h : v.removeFile p = .ok v') :
    ∃ c, v.node? p = some (.file c) ∧ v' = v.erase p := by
  obtain ⟨o, ho, h⟩ := exists_of_bind_eq_ok h
  match o with
  | none | some .directory => cases h
  | some (.file c) =>
      cases h
      exact ⟨c, resolve_eq_ok ho, rfl⟩

theorem removeDirectory_eq_ok (h : v.removeDirectory p = .ok v') :
    v.node? p = some .directory ∧ v.hasChildren p = false ∧ v' = v.erase p := by
  obtain ⟨o, ho, h⟩ := exists_of_bind_eq_ok h
  match o with
  | none | some (.file _) => cases h
  | some .directory =>
      simp only at h
      split at h
      · cases h
      · rename_i hchildren
        cases h
        exact ⟨resolve_eq_ok ho, by simpa using hchildren, rfl⟩

/-- A file is written into a directory, and not over one. -/
theorem write_resolves (h : v.write p c = .ok v') :
    (∃ o, v.resolve p = .ok o) ∧ v.node? p ≠ some .directory := by
  obtain ⟨o, ho, h⟩ := exists_of_bind_eq_ok h
  refine ⟨⟨o, ho⟩, ?_⟩
  rw [resolve_eq_ok ho]
  rintro rfl
  cases h

theorem rename_resolves (h : v.rename p q = .ok v') :
    (∃ o, v.resolve q = .ok o) ∧ v.node? q ≠ some .directory := by
  obtain ⟨source, -, h⟩ := exists_of_bind_eq_ok h
  match source with
  | none | some .directory => cases h
  | some (.file c) =>
      obtain ⟨o, ho, h⟩ := exists_of_bind_eq_ok h
      refine ⟨⟨o, ho⟩, ?_⟩
      rw [resolve_eq_ok ho]
      rintro rfl
      cases h

theorem node?_below_of_hasChildren (h : v.hasChildren p = false) (name : String) :
    v.node? (p ++ [name]) = none := by
  refine Option.eq_none_iff_forall_ne_some.mpr fun n hn => ?_
  have hmem : (p ++ [name], n) ∈ v.nodes := by
    cases p <;> exact mem_of_lookup_eq_some hn
  have hany : v.hasChildren p = true := List.any_eq_true.mpr ⟨_, hmem, by simp⟩
  rw [h] at hany
  cases hany

/-! ## What the primitives leave alone -/

theorem answer_preserves {P : Volume → Prop} {r : Except Errno Volume} (hv : P v)
    (h : ∀ v', r = .ok v' → P v') : P (v.answer r).2 := by
  cases r with
  | error => exact hv
  | ok v' => exact h v' rfl

theorem node?_makeBelow (at_ rest : Path) : (v.makeBelow at_ rest).2.node? q = v.node? q ∨
    q <+: at_ ++ rest ∧ v.node? q = none ∧ (v.makeBelow at_ rest).2.node? q = some .directory := by
  induction rest generalizing v at_ with
  | nil => exact Or.inl rfl
  | cons name rest ih =>
      rw [List.append_cons, makeBelow]
      split
      · exact Or.inl rfl
      · exact ih _
      · exact Or.inl rfl
      · rename_i hmissing
        by_cases hq : q = at_ ++ [name]
        · subst hq
          refine Or.inr ⟨⟨rest, rfl⟩, hmissing, ?_⟩
          have hmade : (v.put (at_ ++ [name]) .directory).node? (at_ ++ [name]) = some .directory :=
            node?_put_self (by simp)
          rcases ih (v := v.put (at_ ++ [name]) .directory) (at_ ++ [name]) with hsame | ⟨-, hnone, -⟩
          · exact hsame.trans hmade
          · cases hnone.symm.trans hmade
        · rw [← node?_put_of_ne (v := v) (n := .directory) hq]
          exact ih _

/-- Directories are made only on the way to the last, and only where nothing is. -/
theorem node?_makeDirectories : (v.makeDirectories p).2.node? q = v.node? q ∨
    q <+: p ∧ v.node? q = none ∧ (v.makeDirectories p).2.node? q = some .directory := by
  have hbelow := node?_makeBelow (v := { v with hasRoot := true }) (q := q) [] p
  cases q with
  | cons => exact hbelow
  | nil =>
      have hroot : (v.makeDirectories p).2.node? [] = some .directory := by
        rw [node?, makeDirectories, hasRoot_makeBelow]
        rfl
      cases hv : v.hasRoot with
      | true => exact Or.inl (by rw [hroot, node?, hv]; rfl)
      | false => exact Or.inr ⟨List.nil_prefix, by simp [node?, hv], hroot⟩

theorem IsTree.makeBelow {at_ rest : Path} (h : v.IsTree) (hat : v.node? at_ = some .directory) :
    (v.makeBelow at_ rest).2.IsTree := by
  induction rest generalizing v at_ with
  | nil => exact h
  | cons name rest ih =>
      rw [Volume.makeBelow]
      split
      · exact h
      · rename_i hthere
        exact ih h hthere
      · exact h
      · refine ih (h.put (fun q name' hq => ?_) (Or.inl rfl)) (node?_put_self (by simp))
        obtain ⟨rfl, -⟩ := List.append_inj' hq rfl
        exact hat

/-- The primitives keep a tree one. -/
theorem IsTree.handle (h : v.IsTree) (op : Disk.Op) : (handle op v).2.IsTree := by
  cases op with
  | makeDirectories p => exact h.withRoot.makeBelow (by simp [node?])
  | read p => exact h
  | write p c =>
      refine answer_preserves h fun v' hv' => ?_
      obtain ⟨⟨o, ho⟩, hne⟩ := write_resolves hv'
      rw [write_eq_ok hv']
      refine h.put (fun q name hq => ?_) (Or.inr hne)
      subst hq
      exact parent_of_resolve ho
  | rename p q =>
      refine answer_preserves h fun v' hv' => ?_
      obtain ⟨⟨o, ho⟩, hne⟩ := rename_resolves hv'
      obtain ⟨c, hc, rfl⟩ := rename_eq_ok hv'
      refine (h.erase (h.node?_below_file hc)).put (fun r name hr => ?_) (Or.inr ?_)
      · subst hr
        have hparent := parent_of_resolve ho
        rw [node?_erase_of_ne, hparent]
        rintro rfl
        cases hc.symm.trans hparent
      · by_cases hq : q = p
        · subst hq
          cases q with
          | nil => exact hne
          | cons => simp [node?_erase_self]
        · rwa [node?_erase_of_ne hq]
  | removeFile p =>
      refine answer_preserves h fun v' hv' => ?_
      obtain ⟨c, hc, rfl⟩ := removeFile_eq_ok hv'
      exact h.erase (h.node?_below_file hc)
  | removeDirectory p =>
      refine answer_preserves h fun v' hv' => ?_
      obtain ⟨-, hchildren, rfl⟩ := removeDirectory_eq_ok hv'
      exact h.erase (node?_below_of_hasChildren hchildren)

/-! ## Reading on a tree -/

theorem isShort_of_follow {at_ : Path} (h : v.follow at_ p = .ok ()) : ∀ name ∈ p, IsShort name := by
  induction p generalizing at_ with
  | nil => simp
  | cons name rest ih =>
      have hname : checkName name = .ok () → IsShort name := fun hcheck => by
        by_contra hlong
        rw [checkName_of_not_isShort hlong] at hcheck
        cases hcheck
      cases rest with
      | nil => exact List.forall_mem_singleton.mpr (hname h)
      | cons next rest =>
          rw [follow.eq_3 _ _ _ _ (by simp)] at h
          obtain ⟨_, hcheck, h⟩ := exists_of_bind_eq_ok h
          refine List.forall_mem_cons.mpr ⟨hname hcheck, ?_⟩
          split at h
          · cases h
          · cases h
          · exact ih h

theorem IsTree.follow (h : v.IsTree) (at_ : Path) (hshort : ∀ name ∈ p, IsShort name)
    (hn : v.node? (at_ ++ p) = some n) : v.follow at_ p = .ok () := by
  induction p generalizing at_ with
  | nil => rfl
  | cons name rest ih =>
      obtain ⟨hname, hrest⟩ := List.forall_mem_cons.mp hshort
      rw [List.append_cons] at hn
      cases rest with
      | nil => exact Maps.checkName_of_isShort hname
      | cons next rest =>
          have hdir := h.node?_above (by simp) hn
          rw [follow.eq_3 _ _ _ _ (by simp), Maps.checkName_of_isShort hname, hdir]
          exact ih _ hrest hn

/-- On a tree a file can be read if it is there and no name on the way to it is too long. -/
theorem IsTree.read_eq_ok_iff (h : v.IsTree) :
    v.read p = .ok c ↔ (∀ name ∈ p, IsShort name) ∧ v.node? p = some (.file c) := by
  constructor
  · intro hread
    obtain ⟨o, ho, hread⟩ := exists_of_bind_eq_ok hread
    match o with
    | none | some .directory => cases hread
    | some (.file _) =>
        cases hread
        refine ⟨?_, resolve_eq_ok ho⟩
        rw [resolve] at ho
        split at ho
        · cases hfollow : v.follow [] p with
          | error e => simp [hfollow, Except.map] at ho
          | ok => exact isShort_of_follow hfollow
        · cases ho
  · rintro ⟨hshort, hn⟩
    have hresolve : v.resolve p = .ok (some (.file c)) := by
      rw [resolve, if_pos (h.hasRoot hn), h.follow [] hshort hn, ← hn]
      rfl
    rw [read, hresolve]
    rfl

end Volume

end Intake.Store
