import Intake.Proofs.Store.Layout

/-!
# What is enough to be read

The files that decide what artifacts there are are the sidecars and for each of them the content.
Here is how a change of one file changes what there is; all other files do no harm.
-/

namespace Intake.Store

open Artifact (Key Kind)
open Directory (contentFile sidecarFile)
open Function (update)

/-- Directories below the root with files in them, and nothing else. -/
structure Shelves (f : Path → Option Node) : Prop where
  below : ∀ d name, f [d] = none ∧ f [d, name] = none ∨ f [d] = some .directory
  ne_directory : ∀ d name, f [d, name] ≠ some .directory

namespace Shelves

variable {f : Path → Option Node} {d name : String} {n : Option Node}

theorem top (h : Shelves f) (d : String) : f [d] = none ∨ f [d] = some .directory :=
  (h.below d "").imp_left And.left

theorem make_directory (h : Shelves f) (d : String) : Shelves (update f [d] (some .directory)) where
  below d' name := by
    by_cases hd : d' = d
    · exact Or.inr (by simp [hd])
    · simpa [hd] using h.below d' name
  ne_directory d' name := by simpa using h.ne_directory d' name

theorem remove_directory (h : Shelves f) (hnone : ∀ name, f [d, name] = none) :
    Shelves (update f [d] none) where
  below d' name := by
    by_cases hd : d' = d
    · exact Or.inl (by simp [hd, hnone])
    · simpa [hd] using h.below d' name
  ne_directory d' name := by simpa using h.ne_directory d' name

theorem put_file (h : Shelves f) (hdir : f [d] = some .directory) (hn : n ≠ some .directory) :
    Shelves (update f [d, name] n) where
  below d' name' := by
    by_cases hd : d' = d
    · exact Or.inr (by simp [hd, hdir])
    · simpa [hd] using h.below d' name'
  ne_directory d' name' := by
    by_cases he : [d', name'] = [d, name]
    · simpa [he] using hn
    · simpa [he] using h.ne_directory d' name'

theorem remove_file (h : Shelves f) (d name : String) : Shelves (update f [d, name] none) := by
  rcases h.below d name with ⟨_, hnone⟩ | hdir
  · rw [← hnone, Function.update_eq_self]
    exact h
  · exact h.put_file hdir (by simp)

end Shelves

/-- A map from paths in which the sidecars are those of the artifacts in `m`, and each has its content
beside it. There may be other files: contents without a sidecar, and temporary ones. -/
structure Orderly (f : Path → Option Node) (m : Memory) : Prop extends Shelves f where
  sidecar : ∀ key, f (sidecarFile key) = (m.get? key).map fun a => .file (sidecarOf a).encode
  content : ∀ key a, m.get? key = some a → f (contentFile key) = some (.file a.content)

theorem Depicts.orderly {f : Path → Option Node} {m : Memory} (h : Depicts f m) : Orderly f m :=
  ⟨⟨h.below, fun _ _ => h.ne_directory⟩, h.sidecar, fun _ _ ha => (h _ _).mpr (.content ha)⟩

/-- Another content for the artifact under a key, if there is one. -/
def Memory.refill (m : Memory) (key : Key) (c : Bytes) : Memory :=
  match m.get? key with
  | some a => m.insert key { a with content := c }
  | none => m

theorem Memory.get?_refill_of_ne {m : Memory} {j k : Key} {c : Bytes} (h : j ≠ k) :
    (m.refill k c).get? j = m.get? j := by
  rw [Memory.refill]
  cases m.get? k with
  | none => rfl
  | some a => exact Memory.get?_insert_of_ne h

theorem Memory.insert_refill_self {m : Memory} {key : Key} {c : Bytes} {a : Artifact} :
    (m.refill key c).insert key a = m.insert key a := by
  rw [Memory.refill]
  cases m.get? key with
  | none => rfl
  | some b => exact Memory.insert_congr Memory.erase_insert_self

namespace Orderly

variable {f : Path → Option Node} {m : Memory} {key : Key} {d name : String} {a : Artifact}

theorem directory_of_get? (h : Orderly f m) (ha : m.get? key = some a) :
    f [key.dataset] = some .directory := by
  refine (h.below key.dataset (key.kind.name ++ ".bin")).resolve_left fun hno => ?_
  cases hno.2.symm.trans (h.content key a ha)

/-- Only the sidecars and the contents count. -/
theorem congr {f' : Path → Option Node} (h : Orderly f m) (h' : Shelves f')
    (hside : ∀ key, f' (sidecarFile key) = f (sidecarFile key))
    (hcontent : ∀ key, f' (contentFile key) = f (contentFile key)) : Orderly f' m where
  toShelves := h'
  sidecar key := (hside key).trans (h.sidecar key)
  content key a ha := (hcontent key).trans (h.content key a ha)

theorem make_directory (h : Orderly f m) (d : String) : Orderly (update f [d] (some .directory)) m :=
  h.congr (h.toShelves.make_directory d) (fun key => by simp [sidecarFile])
    fun key => by simp [contentFile]

theorem remove_directory (h : Orderly f m) (hnone : ∀ name, f [d, name] = none) :
    Orderly (update f [d] none) m :=
  h.congr (h.toShelves.remove_directory hnone) (fun key => by simp [sidecarFile])
    fun key => by simp [contentFile]

/-- What is under a temporary name does not count. -/
theorem put_temporary {n : Option Node} (h : Orderly f m) (hdir : f [d] = some .directory)
    (hn : n ≠ some .directory)
    (hname : ∀ kind : Kind, name ≠ kind.name ++ ".bin" ∧ name ≠ kind.name ++ ".json") :
    Orderly (update f [d, name] n) m := by
  refine h.congr (h.toShelves.put_file hdir hn) (fun key => ?_) fun key => ?_
  · exact Function.update_of_ne (by simpa [sidecarFile] using fun _ he => (hname _).2 he.symm) _ _
  · exact Function.update_of_ne (by simpa [contentFile] using fun _ he => (hname _).1 he.symm) _ _

/-- A content belongs to the artifact whose sidecar is beside it, if one is. -/
theorem put_content (h : Orderly f m) (hdir : f [key.dataset] = some .directory) (c : Bytes) :
    Orderly (update f (contentFile key) (some (.file c))) (m.refill key c) := by
  have hshelves : Shelves (update f (contentFile key) (some (.file c))) :=
    h.toShelves.put_file hdir (by simp)
  have hside (other : Key) :
      update f (contentFile key) (some (.file c)) (sidecarFile other) = f (sidecarFile other) :=
    Function.update_of_ne contentFile_ne_sidecarFile.symm _ _
  have hcontent {other : Key} (hne : other ≠ key) :
      update f (contentFile key) (some (.file c)) (contentFile other) = f (contentFile other) :=
    Function.update_of_ne (fun he => hne (contentFile_inj.mp he)) _ _
  rw [Memory.refill]
  cases hm : m.get? key with
  | none =>
      refine ⟨hshelves, fun other => (hside other).trans (h.sidecar other), fun other b hb => ?_⟩
      have hne : other ≠ key := fun he => by
        rw [he, hm] at hb
        cases hb
      exact (hcontent hne).trans (h.content other b hb)
  | some a =>
      refine ⟨hshelves, fun other => ?_, fun other b hb => ?_⟩
      · rw [hside, h.sidecar]
        by_cases hne : other = key
        · rw [hne, hm, Memory.get?_insert_self]
          rfl
        · rw [Memory.get?_insert_of_ne hne]
      · by_cases hne : other = key
        · rw [hne, Memory.get?_insert_self] at hb
          rw [hne, Function.update_self, ← Option.some.inj hb]
        · rw [Memory.get?_insert_of_ne hne] at hb
          exact (hcontent hne).trans (h.content other b hb)

/-- A sidecar makes an artifact of the content that is there. -/
theorem put_sidecar (h : Orderly f m) (hdir : f [key.dataset] = some .directory)
    (ha : f (contentFile key) = some (.file a.content)) :
    Orderly (update f (sidecarFile key) (some (.file (sidecarOf a).encode))) (m.insert key a) where
  toShelves := h.toShelves.put_file hdir (by simp)
  sidecar other := by
    by_cases hne : other = key
    · rw [hne, Function.update_self, Memory.get?_insert_self]
      rfl
    · rw [Memory.get?_insert_of_ne hne,
        Function.update_of_ne (fun he => hne (sidecarFile_inj.mp he)), h.sidecar]
  content other b hb := by
    rw [Function.update_of_ne contentFile_ne_sidecarFile]
    by_cases hne : other = key
    · rw [hne, Memory.get?_insert_self] at hb
      rw [hne, ha, ← Option.some.inj hb]
    · rw [Memory.get?_insert_of_ne hne] at hb
      exact h.content other b hb

/-- Without its sidecar there is no artifact. -/
theorem remove_sidecar (h : Orderly f m) (key : Key) :
    Orderly (update f (sidecarFile key) none) (m.erase key) where
  toShelves := h.toShelves.remove_file _ _
  sidecar other := by
    by_cases hne : other = key
    · rw [hne, Function.update_self, Memory.get?_erase_self]
      rfl
    · rw [Memory.get?_erase_of_ne hne,
        Function.update_of_ne (fun he => hne (sidecarFile_inj.mp he)), h.sidecar]
  content other b hb := by
    have hne : other ≠ key := fun he => by
      rw [he, Memory.get?_erase_self] at hb
      cases hb
    rw [Memory.get?_erase_of_ne hne] at hb
    rw [Function.update_of_ne contentFile_ne_sidecarFile]
    exact h.content other b hb

theorem remove_content (h : Orderly f m) (hnone : m.get? key = none) :
    Orderly (update f (contentFile key) none) m where
  toShelves := h.toShelves.remove_file _ _
  sidecar other := by
    rw [Function.update_of_ne contentFile_ne_sidecarFile.symm, h.sidecar]
  content other b hb := by
    have hne : other ≠ key := fun he => by
      rw [he, hnone] at hb
      cases hb
    rw [Function.update_of_ne (fun he => hne (contentFile_inj.mp he))]
    exact h.content other b hb

end Orderly

end Intake.Store
