import Intake.Store.Directory
import Intake.Proofs.Store.Memory
import Intake.Proofs.Store.Volume

/-!
# The files of a store

Which files and directories stand for the artifacts of a store, and how they change when an artifact
comes or goes.
-/

namespace Intake.Store

open Artifact (Key Kind Sidecar)
open Directory (contentFile sidecarFile)
open Function (update)

/-! ## What a directory holds -/

/-- What is kept beside the content of an artifact. -/
def sidecarOf (a : Artifact) : Sidecar := ⟨a.mediaType, a.metadata⟩

/-- The files of the artifacts in `m`, and their directories. -/
inductive Shows (m : Memory) : Path → Node → Prop
  | directory {dataset : String} {kind : Kind} {a : Artifact}
      (h : m.get? ⟨dataset, kind⟩ = some a) : Shows m [dataset] .directory
  | content {key : Key} {a : Artifact} (h : m.get? key = some a) :
      Shows m (contentFile key) (.file a.content)
  | sidecar {key : Key} {a : Artifact} (h : m.get? key = some a) :
      Shows m (sidecarFile key) (.file (sidecarOf a).encode)

/-- A volume holds the files of the artifacts in `m` and their directories, each once, and nothing
else. -/
structure Mirrors (v : Volume) (m : Memory) : Prop where
  nodes : ∀ p n, (p, n) ∈ v.nodes ↔ Shows m p n
  distinct : (v.nodes.map Prod.fst).Nodup
  rooted : v.nodes ≠ [] → v.hasRoot = true

/-- A map from paths says what `Shows` does. -/
def Depicts (f : Path → Option Node) (m : Memory) : Prop := ∀ p n, f p = some n ↔ Shows m p n

theorem mirrors_iff {v : Volume} {m : Memory} : Mirrors v m ↔ ∃ f, v.Maps f ∧ Depicts f m := by
  constructor
  · intro h
    have hmaps := Volume.maps_lookup h.distinct h.rooted
    exact ⟨_, hmaps, fun p n => (hmaps.mem_iff p n).symm.trans (h.nodes p n)⟩
  · rintro ⟨f, hmaps, hf⟩
    refine ⟨fun p n => (hmaps.mem_iff p n).trans (hf p n), hmaps.distinct, fun hne => ?_⟩
    obtain ⟨⟨p, n⟩, hmem⟩ := List.exists_mem_of_ne_nil _ hne
    exact hmaps.rooted p n ((hmaps.mem_iff p n).mp hmem)

/-! ## The names of files -/

section

variable {key other : Key}

/-- Every name that the store makes is short, if the dataset's is. -/
theorem isShort_names (kind : Kind) :
    IsShort (kind.name ++ ".bin") ∧ IsShort (kind.name ++ ".bin" ++ ".part") ∧
      IsShort (kind.name ++ ".json") ∧ IsShort (kind.name ++ ".json" ++ ".part") := by
  cases kind <;> exact ⟨by decide, by decide, by decide, by decide⟩

theorem contentFile_inj : contentFile key = contentFile other ↔ key = other := by
  obtain ⟨d, kind⟩ := key
  obtain ⟨d', kind'⟩ := other
  have hname : kind.name ++ ".bin" = kind'.name ++ ".bin" ↔ kind = kind' := by
    cases kind <;> cases kind' <;> decide
  simp [contentFile, hname]

theorem sidecarFile_inj : sidecarFile key = sidecarFile other ↔ key = other := by
  obtain ⟨d, kind⟩ := key
  obtain ⟨d', kind'⟩ := other
  have hname : kind.name ++ ".json" = kind'.name ++ ".json" ↔ kind = kind' := by
    cases kind <;> cases kind' <;> decide
  simp [sidecarFile, hname]

theorem bin_ne_json (kind kind' : Kind) : kind.name ++ ".bin" ≠ kind'.name ++ ".json" := by
  cases kind <;> cases kind' <;> decide

theorem contentFile_ne_sidecarFile : contentFile key ≠ sidecarFile other := by
  simp [contentFile, sidecarFile, bin_ne_json]

/-- A temporary name is never that of an artifact's file. -/
theorem part_ne (kind kind' : Kind) :
    (kind.name ++ ".bin" ++ ".part" ≠ kind'.name ++ ".bin" ∧
      kind.name ++ ".bin" ++ ".part" ≠ kind'.name ++ ".json") ∧
    kind.name ++ ".json" ++ ".part" ≠ kind'.name ++ ".bin" ∧
      kind.name ++ ".json" ++ ".part" ≠ kind'.name ++ ".json" := by
  cases kind <;> cases kind' <;> decide

end

/-! ## Maps that show a store -/

namespace Depicts

variable {f : Path → Option Node} {m : Memory} {key : Key} {d name : String} {a : Artifact}

theorem top (h : Depicts f m) (d : String) : f [d] = none ∨ f [d] = some .directory := by
  cases hf : f [d] with
  | none => exact Or.inl rfl
  | some n =>
      cases (h _ _).mp hf with
      | directory => exact Or.inr rfl

theorem ne_directory (h : Depicts f m) : f [d, name] ≠ some .directory := by
  intro hf
  cases (h _ _).mp hf

/-- There are no files but in a directory. -/
theorem below (h : Depicts f m) (d name : String) :
    f [d] = none ∧ f [d, name] = none ∨ f [d] = some .directory := by
  refine (h.top d).imp_left fun hd => ⟨hd, Option.eq_none_iff_forall_ne_some.mpr fun n hn => ?_⟩
  have hdir : ∀ kind a, m.get? ⟨d, kind⟩ ≠ some a := fun kind a ha => by
    rw [(h _ _).mpr (.directory ha)] at hd
    cases hd
  cases (h _ _).mp hn with
  | content ha => exact hdir _ _ ha
  | sidecar ha => exact hdir _ _ ha

theorem content (h : Depicts f m) (key : Key) :
    f (contentFile key) = (m.get? key).map fun a => .file a.content := by
  cases hm : m.get? key with
  | some a => exact (h _ _).mpr (.content hm)
  | none =>
      refine Option.eq_none_iff_forall_ne_some.mpr fun n hn => ?_
      have hshow := (h _ _).mp hn
      generalize hp : contentFile key = p at hshow
      cases hshow with
      | directory => cases hp
      | content ha =>
          rw [contentFile_inj.mp hp, ha] at hm
          cases hm
      | sidecar => exact contentFile_ne_sidecarFile hp

theorem sidecar (h : Depicts f m) (key : Key) :
    f (sidecarFile key) = (m.get? key).map fun a => .file (sidecarOf a).encode := by
  cases hm : m.get? key with
  | some a => exact (h _ _).mpr (.sidecar hm)
  | none =>
      refine Option.eq_none_iff_forall_ne_some.mpr fun n hn => ?_
      have hshow := (h _ _).mp hn
      generalize hp : sidecarFile key = p at hshow
      cases hshow with
      | directory => cases hp
      | content => exact contentFile_ne_sidecarFile hp.symm
      | sidecar ha =>
          rw [sidecarFile_inj.mp hp, ha] at hm
          cases hm

theorem eq_none (h : Depicts f m)
    (hname : ∀ kind : Kind, name ≠ kind.name ++ ".bin" ∧ name ≠ kind.name ++ ".json") :
    f [d, name] = none := by
  refine Option.eq_none_iff_forall_ne_some.mpr fun n hn => ?_
  cases (h _ _).mp hn with
  | content => exact (hname _).1 rfl
  | sidecar => exact (hname _).2 rfl

theorem insert (h : Depicts f m) (key : Key) (a : Artifact) :
    Depicts (update (update (update f [key.dataset] (some .directory))
      (contentFile key) (some (.file a.content)))
      (sidecarFile key) (some (.file (sidecarOf a).encode))) (m.insert key a) := by
  have hself : (m.insert key a).get? key = some a := Memory.get?_insert_self
  intro p n
  simp only [Function.update_apply]
  constructor
  · intro hn
    split_ifs at hn with hside hcontent hdir
    · subst hside
      cases hn
      exact .sidecar hself
    · subst hcontent
      cases hn
      exact .content hself
    · subst hdir
      cases hn
      exact .directory hself
    · cases (h p n).mp hn with
      | @directory dataset kind b hb =>
          have hne : (⟨dataset, kind⟩ : Key) ≠ key := fun he => hdir (by rw [← he])
          exact .directory ((Memory.get?_insert_of_ne hne).trans hb)
      | @content other b hb =>
          have hne : other ≠ key := fun he => hcontent (by rw [he])
          exact .content ((Memory.get?_insert_of_ne hne).trans hb)
      | @sidecar other b hb =>
          have hne : other ≠ key := fun he => hside (by rw [he])
          exact .sidecar ((Memory.get?_insert_of_ne hne).trans hb)
  · intro hn
    cases hn with
    | @directory dataset kind b hb =>
        rw [if_neg (by simp [sidecarFile]), if_neg (by simp [contentFile])]
        split_ifs with hdir
        · rfl
        · have hne : (⟨dataset, kind⟩ : Key) ≠ key := fun he => hdir (by rw [← he])
          rw [Memory.get?_insert_of_ne hne] at hb
          exact (h _ _).mpr (.directory hb)
    | @content other b hb =>
        rw [if_neg contentFile_ne_sidecarFile]
        split_ifs with hcontent hdir
        · rw [contentFile_inj.mp hcontent, hself] at hb
          rw [Option.some.inj hb]
        · simp [contentFile] at hdir
        · have hne : other ≠ key := fun he => hcontent (by rw [he])
          rw [Memory.get?_insert_of_ne hne] at hb
          exact (h _ _).mpr (.content hb)
    | @sidecar other b hb =>
        split_ifs with hside hcontent hdir
        · rw [sidecarFile_inj.mp hside, hself] at hb
          rw [Option.some.inj hb]
        · exact absurd hcontent.symm contentFile_ne_sidecarFile
        · simp [sidecarFile] at hdir
        · have hne : other ≠ key := fun he => hside (by rw [he])
          rw [Memory.get?_insert_of_ne hne] at hb
          exact (h _ _).mpr (.sidecar hb)

/-- With the files of an artifact gone, the directory shows the store without it, but for the
directory of its dataset, if nothing is left in that. -/
theorem erase_files (h : Depicts f m) (key : Key) {p : Path} (hp : p ≠ [key.dataset]) (n : Node) :
    update (update f (sidecarFile key) none) (contentFile key) none p = some n ↔
      Shows (m.erase key) p n := by
  have hself : (m.erase key).get? key = none := Memory.get?_erase_self
  simp only [Function.update_apply]
  constructor
  · intro hn
    split_ifs at hn with hcontent hside
    cases (h p n).mp hn with
    | @directory dataset kind b hb =>
        have hne : (⟨dataset, kind⟩ : Key) ≠ key := fun he => hp (by rw [← he])
        exact .directory ((Memory.get?_erase_of_ne hne).trans hb)
    | @content other b hb =>
        have hne : other ≠ key := fun he => hcontent (by rw [he])
        exact .content ((Memory.get?_erase_of_ne hne).trans hb)
    | @sidecar other b hb =>
        have hne : other ≠ key := fun he => hside (by rw [he])
        exact .sidecar ((Memory.get?_erase_of_ne hne).trans hb)
  · intro hn
    have hkey : ∀ {other : Key} {b : Artifact}, (m.erase key).get? other = some b → other ≠ key := by
      rintro other b hb rfl
      rw [hself] at hb
      cases hb
    cases hn with
    | @directory dataset kind b hb =>
        rw [if_neg (by simp [contentFile]), if_neg (by simp [sidecarFile])]
        rw [Memory.get?_erase_of_ne (hkey hb)] at hb
        exact (h _ _).mpr (.directory hb)
    | @content other b hb =>
        rw [if_neg (fun he => hkey hb (contentFile_inj.mp he)), if_neg contentFile_ne_sidecarFile]
        rw [Memory.get?_erase_of_ne (hkey hb)] at hb
        exact (h _ _).mpr (.content hb)
    | @sidecar other b hb =>
        rw [if_neg (fun he => contentFile_ne_sidecarFile he.symm),
          if_neg (fun he => hkey hb (sidecarFile_inj.mp he))]
        rw [Memory.get?_erase_of_ne (hkey hb)] at hb
        exact (h _ _).mpr (.sidecar hb)

/-- Something is left in a dataset's directory exactly when an artifact is. -/
theorem erase_children (h : Depicts f m) (key : Key) :
    (∃ name n, update (update f (sidecarFile key) none) (contentFile key) none
      [key.dataset, name] = some n) ↔
      ∃ kind a, (m.erase key).get? ⟨key.dataset, kind⟩ = some a := by
  constructor
  · rintro ⟨name, n, hn⟩
    have hshow := (h.erase_files key (by simp) n).mp hn
    generalize key.dataset = d at hshow ⊢
    cases hshow with
    | content ha => exact ⟨_, _, ha⟩
    | sidecar ha => exact ⟨_, _, ha⟩
  · rintro ⟨kind, a, ha⟩
    exact ⟨kind.name ++ ".bin", _, (h.erase_files key (by simp) _).mpr (.content ha)⟩

theorem erase_of_some (h : Depicts f m) {kind : Kind}
    (ha : (m.erase key).get? ⟨key.dataset, kind⟩ = some a) :
    Depicts (update (update f (sidecarFile key) none) (contentFile key) none) (m.erase key) := by
  intro p n
  by_cases hp : p = [key.dataset]
  · have hne : (⟨key.dataset, kind⟩ : Key) ≠ key := by
      intro he
      rw [he, Memory.get?_erase_self] at ha
      cases ha
    have hdir : f [key.dataset] = some .directory := by
      rw [Memory.get?_erase_of_ne hne] at ha
      exact (h _ _).mpr (.directory ha)
    subst hp
    rw [Function.update_of_ne (by simp [contentFile]), Function.update_of_ne (by simp [sidecarFile]),
      hdir]
    constructor
    · rintro ⟨⟩
      exact .directory ha
    · intro hn
      generalize key.dataset = d at hn
      cases hn with
      | directory => rfl
  · exact h.erase_files key hp n

theorem erase_of_none (h : Depicts f m)
    (hnone : ∀ kind, (m.erase key).get? ⟨key.dataset, kind⟩ = none) :
    Depicts (update (update (update f (sidecarFile key) none) (contentFile key) none)
      [key.dataset] none) (m.erase key) := by
  intro p n
  by_cases hp : p = [key.dataset]
  · subst hp
    rw [Function.update_self]
    constructor
    · rintro ⟨⟩
    · intro hn
      generalize key.dataset = d at hn hnone
      cases hn with
      | directory ha =>
          rw [hnone] at ha
          cases ha
  · rw [Function.update_of_ne hp]
    exact h.erase_files key hp n

end Depicts

end Intake.Store
