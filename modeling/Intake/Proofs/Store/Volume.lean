import Intake.Store.Volume
import Mathlib.Data.List.Nodup
import Mathlib.Logic.Function.Basic

/-!
# A volume as a map

What the primitives do to a volume whose files lie in directories below the root, as changes of the
map from paths to what is there.
-/

namespace Intake.Store

open Function (update)

/-- A name that is not too long for a component of a path. -/
def IsShort (name : String) : Prop := name.utf8ByteSize ≤ Volume.nameLimit

instance (name : String) : Decidable (IsShort name) := inferInstanceAs (Decidable (_ ≤ _))

namespace Volume

/-- What is on a volume is what `f` says, each path once. -/
structure Maps (v : Volume) (f : Path → Option Node) : Prop where
  mem_iff : ∀ p n, (p, n) ∈ v.nodes ↔ f p = some n
  distinct : (v.nodes.map Prod.fst).Nodup
  rooted : ∀ p n, f p = some n → v.hasRoot = true

variable {v : Volume} {f : Path → Option Node} {p : Path} {n : Node}

theorem lookup_eq_some_of_mem {l : List (Path × Node)} (hl : (l.map Prod.fst).Nodup)
    (h : (p, n) ∈ l) : l.lookup p = some n := by
  induction l with
  | nil => cases h
  | cons e l ih =>
      obtain ⟨q, k⟩ := e
      obtain ⟨hq, hl⟩ := List.nodup_cons.mp hl
      rcases List.mem_cons.mp h with he | hmem
      · cases he
        simp
      · have hne : p ≠ q := by
          rintro rfl
          exact hq (List.mem_map.mpr ⟨_, hmem, rfl⟩)
        rw [List.lookup_cons, beq_eq_false_iff_ne.mpr hne]
        exact ih hl hmem

theorem mem_of_lookup_eq_some {l : List (Path × Node)} (h : l.lookup p = some n) : (p, n) ∈ l := by
  obtain ⟨l₁, l₂, rfl, _⟩ := List.lookup_eq_some_iff.mp h
  exact List.mem_append_right _ (List.mem_cons_self ..)

/-- Any volume on which every path stands once maps it to what it finds there. -/
theorem maps_lookup (hdistinct : (v.nodes.map Prod.fst).Nodup)
    (hrooted : v.nodes ≠ [] → v.hasRoot = true) : v.Maps fun p => v.nodes.lookup p where
  mem_iff _ _ := ⟨lookup_eq_some_of_mem hdistinct, mem_of_lookup_eq_some⟩
  distinct := hdistinct
  rooted _ _ h := hrooted (List.ne_nil_of_mem (mem_of_lookup_eq_some h))

namespace Maps

theorem node? (h : v.Maps f) (hp : p ≠ []) : v.node? p = f p := by
  have hlookup : v.nodes.lookup p = f p := by
    cases hf : f p with
    | some n => exact lookup_eq_some_of_mem h.distinct ((h.mem_iff p n).mpr hf)
    | none =>
        refine Option.eq_none_iff_forall_ne_some.mpr fun n hn => ?_
        rw [(h.mem_iff p n).mp (mem_of_lookup_eq_some hn)] at hf
        cases hf
  cases p with
  | nil => exact absurd rfl hp
  | cons c p => exact hlookup

theorem erase (h : v.Maps f) (p : Path) : (v.erase p).Maps (update f p none) where
  mem_iff q n := by
    by_cases hq : q = p
    · subst hq
      simp [Volume.erase]
    · simp [Volume.erase, hq, h.mem_iff]
  distinct := (h.distinct.sublist (List.filter_sublist.map Prod.fst))
  rooted q n hn := by
    by_cases hq : q = p
    · subst hq
      simp at hn
    · rw [Function.update_of_ne hq] at hn
      exact h.rooted q n hn

theorem put (h : v.Maps f) (hroot : v.hasRoot = true) (p : Path) (n : Node) :
    (v.put p n).Maps (update f p (some n)) where
  mem_iff q k := by
    have herase := (h.erase p).mem_iff q k
    rw [Volume.put, List.mem_cons, herase]
    by_cases hq : q = p
    · subst hq
      simp [eq_comm]
    · simp [hq]
  distinct := by
    refine List.nodup_cons.mpr ⟨?_, (h.erase p).distinct⟩
    simp [Volume.erase]
  rooted _ _ _ := hroot

/-- The same volume with its root made. -/
theorem withRoot (h : v.Maps f) : ({ v with hasRoot := true } : Volume).Maps f where
  mem_iff := h.mem_iff
  distinct := h.distinct
  rooted _ _ _ := rfl

/-! ## Following a path -/

section

variable {d name : String}

theorem checkName_of_isShort (h : IsShort name) : checkName name = .ok () := by
  rw [checkName, if_neg (Nat.not_lt.mpr h)]

theorem resolve_top (h : v.Maps f) (hd : IsShort d) :
    v.resolve [d] = if v.hasRoot then .ok (f [d]) else .error .notFound := by
  rw [resolve, follow, checkName_of_isShort hd, ← h.node? (by simp)]
  rfl

/-- Below a directory that is not there, nothing is. -/
theorem resolve_of_none (h : v.Maps f) (hd : IsShort d) (hdir : f [d] = none) :
    v.resolve [d, name] = .error .notFound := by
  have hnode : v.node? [d] = none := (h.node? (by simp)).trans hdir
  cases hroot : v.hasRoot with
  | false => simp [resolve, hroot]
  | true =>
      simp only [resolve, hroot, if_true, follow, checkName_of_isShort hd, List.nil_append, hnode]
      rfl

theorem resolve_of_directory (h : v.Maps f) (hd : IsShort d) (hname : IsShort name)
    (hdir : f [d] = some .directory) : v.resolve [d, name] = .ok (f [d, name]) := by
  have hnode : v.node? [d] = some .directory := (h.node? (by simp)).trans hdir
  simp only [resolve, h.rooted _ _ hdir, if_true, follow, checkName_of_isShort hd, List.nil_append,
    hnode, checkName_of_isShort hname, ← h.node? (p := [d, name]) (by simp)]
  rfl

end

/-! ## The primitives -/

section

variable {d name target : String} {c : Bytes}

theorem handle_makeDirectories (h : v.Maps f) (hd : IsShort d)
    (hdir : f [d] = none ∨ f [d] = some .directory) :
    ∃ v', handle (.makeDirectories [d]) v = (.ok (), v') ∧
      v'.Maps (update f [d] (some .directory)) := by
  have hnode := h.withRoot.node? (p := [d]) (by simp)
  rcases hdir with hdir | hdir
  · refine ⟨({ v with hasRoot := true } : Volume).put [d] .directory, ?_, h.withRoot.put rfl _ _⟩
    rw [hdir] at hnode
    simp only [handle, makeDirectories, makeBelow, checkName_of_isShort hd, List.nil_append, hnode]
    rfl
  · refine ⟨{ v with hasRoot := true }, ?_, ?_⟩
    · rw [hdir] at hnode
      simp only [handle, makeDirectories, makeBelow, checkName_of_isShort hd, List.nil_append,
        hnode]
      rfl
    · rw [← hdir, Function.update_eq_self]
      exact h.withRoot

theorem handle_write (h : v.Maps f) (hd : IsShort d) (hname : IsShort name)
    (hdir : f [d] = some .directory) (hfile : f [d, name] ≠ some .directory) (c : Bytes) :
    ∃ v', handle (.write [d, name] c) v = (.ok (), v') ∧
      v'.Maps (update f [d, name] (some (.file c))) := by
  refine ⟨v.put [d, name] (.file c), ?_, h.put (h.rooted _ _ hdir) _ _⟩
  rw [handle, write, h.resolve_of_directory hd hname hdir]
  cases hf : f [d, name] with
  | none => rfl
  | some n =>
      cases n with
      | file => rfl
      | directory => exact absurd hf hfile

theorem handle_rename (h : v.Maps f) (hd : IsShort d) (hname : IsShort name)
    (htarget : IsShort target) (hdir : f [d] = some .directory)
    (hsource : f [d, name] = some (.file c)) (hfile : f [d, target] ≠ some .directory) :
    ∃ v', handle (.rename [d, name] [d, target]) v = (.ok (), v') ∧
      v'.Maps (update (update f [d, name] none) [d, target] (some (.file c))) := by
  refine ⟨(v.erase [d, name]).put [d, target] (.file c), ?_,
    (h.erase _).put (h.rooted _ _ hdir) _ _⟩
  rw [handle, rename, h.resolve_of_directory hd hname hdir, hsource]
  change v.answer (v.resolve [d, target] >>= _) = _
  rw [h.resolve_of_directory hd htarget hdir]
  cases hf : f [d, target] with
  | none => rfl
  | some n =>
      cases n with
      | file => rfl
      | directory => exact absurd hf hfile

theorem handle_read (h : v.Maps f) (hd : IsShort d) (hname : IsShort name)
    (hdir : f [d] = none ∧ f [d, name] = none ∨ f [d] = some .directory)
    (hfile : f [d, name] ≠ some .directory) :
    handle (.read [d, name]) v = (match f [d, name] with
      | some (.file c) => .ok c
      | _ => .error (.os .notFound), v) := by
  rw [handle, read]
  rcases hdir with ⟨hdir, hnone⟩ | hdir
  · rw [h.resolve_of_none hd hdir, hnone]
    rfl
  · rw [h.resolve_of_directory hd hname hdir]
    cases hf : f [d, name] with
    | none => rfl
    | some n =>
        cases n with
        | file => rfl
        | directory => exact absurd hf hfile

/-- A file that is not there cannot be removed. -/
theorem handle_removeFile_of_none (h : v.Maps f) (hd : IsShort d) (hname : IsShort name)
    (hdir : f [d] = none ∧ f [d, name] = none ∨ f [d] = some .directory)
    (hnone : f [d, name] = none) :
    handle (.removeFile [d, name]) v = (.error (.os .notFound), v) := by
  rw [handle, removeFile]
  rcases hdir with ⟨hdir, _⟩ | hdir
  · rw [h.resolve_of_none hd hdir]
    rfl
  · rw [h.resolve_of_directory hd hname hdir, hnone]
    rfl

theorem handle_removeFile (h : v.Maps f) (hd : IsShort d) (hname : IsShort name)
    (hdir : f [d] = none ∧ f [d, name] = none ∨ f [d] = some .directory)
    (hfile : f [d, name] ≠ some .directory) :
    ∃ r v', handle (.removeFile [d, name]) v = (r, v') ∧
      (r = .ok () ∨ r = .error (.os .notFound)) ∧ v'.Maps (update f [d, name] none) := by
  by_cases hnone : f [d, name] = none
  · refine ⟨_, v, h.handle_removeFile_of_none hd hname hdir hnone, Or.inr rfl, ?_⟩
    rw [← hnone, Function.update_eq_self]
    exact h
  · refine ⟨.ok (), v.erase [d, name], ?_, Or.inl rfl, h.erase _⟩
    have hdir := hdir.resolve_left fun hd => hnone hd.2
    rw [handle, removeFile, h.resolve_of_directory hd hname hdir]
    cases hf : f [d, name] with
    | none => exact absurd hf hnone
    | some n =>
        cases n with
        | file => rfl
        | directory => exact absurd hf hfile

theorem hasChildren_iff (h : v.Maps f) :
    v.hasChildren [d] = true ↔ ∃ name n, f [d, name] = some n := by
  simp only [hasChildren, List.any_eq_true, Bool.and_eq_true, decide_eq_true_eq]
  constructor
  · rintro ⟨⟨q, n⟩, hmem, hlength, htake⟩
    obtain ⟨x, name, rfl⟩ := List.length_eq_two.mp hlength
    obtain ⟨rfl, _⟩ := List.cons.inj htake
    exact ⟨name, n, (h.mem_iff _ _).mp hmem⟩
  · rintro ⟨name, n, hf⟩
    exact ⟨([d, name], n), (h.mem_iff _ _).mpr hf, rfl, rfl⟩

theorem removeDirectory_of_directory (h : v.Maps f) (hd : IsShort d)
    (hdir : f [d] = some .directory) : v.removeDirectory [d] =
      if v.hasChildren [d] then .error .notEmpty else .ok (v.erase [d]) := by
  rw [Volume.removeDirectory, h.resolve_top hd, hdir, h.rooted _ _ hdir]
  rfl

/-- A directory with something in it stays. -/
theorem handle_removeDirectory_of_kept (h : v.Maps f) (hd : IsShort d)
    (hdir : f [d] = none ∨ f [d] = some .directory)
    (hkept : f [d] = some .directory → ∃ name n, f [d, name] = some n) :
    (handle (.removeDirectory [d]) v).2 = v := by
  rcases hdir with hdir | hdir
  · rw [handle, Volume.removeDirectory, h.resolve_top hd, hdir]
    cases v.hasRoot <;> rfl
  · rw [handle, h.removeDirectory_of_directory hd hdir, if_pos (h.hasChildren_iff.mpr (hkept hdir))]
    rfl

/-- A directory is removed when nothing is in it, and nothing else changes. -/
theorem handle_removeDirectory (h : v.Maps f) (hd : IsShort d)
    (hdir : f [d] = none ∨ f [d] = some .directory) :
    ((∃ name n, f [d, name] = some n) → (handle (.removeDirectory [d]) v).2.Maps f) ∧
      ((∀ name, f [d, name] = none) →
        (handle (.removeDirectory [d]) v).2.Maps (update f [d] none)) := by
  refine ⟨fun hchild => ?_, fun hnone => ?_⟩
  · rw [h.handle_removeDirectory_of_kept hd hdir fun _ => hchild]
    exact h
  · rcases hdir with hdir | hdir
    · rw [h.handle_removeDirectory_of_kept hd (.inl hdir) (by simp [hdir]), ← hdir,
        Function.update_eq_self]
      exact h
    · have hchildren : ¬ v.hasChildren [d] = true := fun hc => by
        obtain ⟨name, n, hf⟩ := h.hasChildren_iff.mp hc
        rw [hnone name] at hf
        cases hf
      rw [handle, h.removeDirectory_of_directory hd hdir, if_neg hchildren]
      exact h.erase [d]

end

end Maps
end Volume
end Intake.Store
