import Intake.Proofs.Store.Whole

/-!
# Artifacts that are not there

Under a key without an artifact nothing is found and nothing changes. The artifact is told as missing and
deleting it succeeds, but not where the root is there and the name of the dataset is too long for a
directory: then every request passes the refusal of the name on.
-/

namespace Intake.Store

open Artifact (Key Kind Status)
open Directory (contentFile sidecarFile)
open Disk (Ends)
open Volume (handle)

/-- Nothing is found under a key, and nothing changes: `e` is told of the artifact, and deleting it is
answered with `r`. -/
structure Untouched (v : Volume) (key : Key) (e : Fault) (r : Except Fault Unit) : Prop where
  retrieve : (Directory.retrieve key).run handle v = (.error e, v)
  status : (Directory.status key).run handle v = (.error e, v)
  setStatus : ∀ s, (Directory.setStatus key s).run handle v = (.error e, v)
  delete : (Directory.delete key).run handle v = (r, v)

/-- A store that gets as far as making directories. -/
def Request.MakesRoot : Request → Prop
  | .store key u => checkSize u = .ok () ∧ Directory.checkDataset key.dataset = .ok ()
  | _ => False

section

variable {v : Volume} {m : Memory} {q : Request} {key : Key} {e : Fault}

/-! ## Runs of requests on any keys -/

/-- What cannot be a directory's name leaves the artifacts as they are. -/
theorem Mirrors.of_not_isSound (h : Mirrors v m) (hq : ¬ IsSound q.key) :
    Mirrors (q.onVolume v).2 m := by
  rw [q.onVolume_eq]
  have hends := Disk.ends_run False q.work v
  cases he : Directory.checkDataset q.key.dataset with
  | error e =>
      exact hends.preserves (R := (Mirrors · m)) (work_of_error he) (fun _ _ _ hop => hop.elim) h
  | ok =>
      rcases hends.of_not_isShort (under_work q) (fun hshort => hq ⟨he, hshort⟩) with hv | hv
      · rw [hv]
        exact h
      · rw [hv]
        exact ⟨h.nodes, h.distinct, fun _ => rfl⟩

theorem exists_mirrors_inTurn (qs : List Request) (h : Mirrors v m) :
    ∃ m', Mirrors (Request.inTurn Request.onVolume qs v).2 m' := by
  induction qs generalizing v m with
  | nil => exact ⟨m, h⟩
  | cons q qs ih =>
      by_cases hq : IsSound q.key
      · exact ih (h.step hq).2
      · exact ih (h.of_not_isSound hq)

/-- The root is there once a store has made it, and a request never removes it. -/
theorem hasRoot_onVolume (q : Request) (v : Volume) :
    (q.onVolume v).2.hasRoot = true ↔ v.hasRoot = true ∨ q.MakesRoot := by
  have hends := Disk.ends_run False q.work v
  rw [← q.onVolume_eq] at hends
  by_cases hq : ∀ key u, q ≠ .store key u
  · have hmakes : ¬ q.MakesRoot := by
      cases q with
      | store key u => exact absurd rfl (hq key u)
      | retrieve | delete | setStatus | status => exact id
    rw [hends.hasRoot_eq (leavesRoot_work hq)]
    simp [hmakes]
  · obtain ⟨key, u, rfl⟩ : ∃ key u, q = .store key u := by simpa using hq
    by_cases hmakes : Request.MakesRoot (.store key u)
    · simp [hasRoot_store hmakes.1 hmakes.2, hmakes]
    · -- A store that is refused at once asks nothing of the volume.
      have hidle : (Request.work (.store key u)).Always fun _ => False := by
        cases hu : checkSize u with
        | error e' =>
            simp only [Request.work, Directory.store, hu]
            trivial
        | ok =>
            cases he : Directory.checkDataset key.dataset with
            | error e' => exact work_of_error he
            | ok => exact absurd ⟨hu, he⟩ hmakes
      have hsame : (Request.onVolume (.store key u) v).2 = v :=
        hends.preserves (R := (· = v)) hidle (fun _ _ _ hop => hop.elim) rfl
      simp [hsame, hmakes]

theorem hasRoot_inTurn (qs : List Request) (v : Volume) :
    (Request.inTurn Request.onVolume qs v).2.hasRoot = true ↔
      v.hasRoot = true ∨ ∃ q ∈ qs, q.MakesRoot := by
  induction qs generalizing v with
  | nil => simp [Request.inTurn]
  | cons q qs ih =>
      change (Request.inTurn Request.onVolume qs (q.onVolume v).2).2.hasRoot = true ↔ _
      rw [ih, hasRoot_onVolume]
      simp [or_assoc]

/-! ## What is told of a key without an artifact -/

/-- All but a deletion begin with reading the sidecar. -/
theorem untouched_of_readSidecar {r : Except Fault Unit}
    (hkey : Directory.checkDataset key.dataset = .ok ())
    (hread : (Directory.readSidecar key).run handle v = (.error e, v))
    (hdelete : (Directory.delete key).run handle v = (r, v)) : Untouched v key e r where
  retrieve := by
    rw [Directory.retrieve, Directory.guarded, hkey, Script.run_bind, hread]
    rfl
  status := by
    rw [Directory.status, Directory.guarded, hkey, Script.run_bind, hread]
    rfl
  setStatus s := by
    rw [Directory.setStatus, Directory.guarded, hkey, Script.run_bind, hread]
    rfl
  delete := hdelete

theorem run_removePresent_of_error {p : Path} {e : Errno}
    (h : handle (.removeFile p) v = (.error (.os e), v)) :
    (Directory.removePresent p).run handle v =
      (if e = .notFound then .ok () else .error (.device (.os e)), v) := by
  rw [removePresent_eq, run_step, h]
  cases e <;> rfl

/-- The dataset of an artifact that is not there has a directory only if another artifact is in it. -/
theorem Mirrors.untouched (h : Mirrors v m) (hkey : IsSound key) (hnone : m.get? key = none) :
    Untouched v key (.notFound key) (.ok ()) := by
  obtain ⟨f, hmaps, hf⟩ := mirrors_iff.mp h
  have hread : (Directory.readSidecar key).run handle v = (.error (.notFound key), v) := by
    rw [run_readSidecar hmaps hf.orderly hkey, Memory.retrieve, hnone]
    rfl
  refine untouched_of_readSidecar hkey.1 hread ?_
  obtain ⟨hbin, _, hjson, _⟩ := isShort_names key.kind
  have hside : f (sidecarFile key) = none := by rw [hf.sidecar, hnone, Option.map_none]
  have hcontent : f (contentFile key) = none := by rw [hf.content, hnone, Option.map_none]
  have hkept : f [key.dataset] = some .directory → ∃ name n, f [key.dataset, name] = some n := by
    intro hdir
    have hshows := (hf _ _).mp hdir
    generalize key.dataset = d at hshows
    cases hshows with
    | directory ha => exact ⟨_, _, (hf _ _).mpr (.content ha)⟩
  have hside' : handle (.removeFile (sidecarFile key)) v = (.error (.os .notFound), v) :=
    hmaps.handle_removeFile_of_none hkey.2 hjson (hf.below _ _) hside
  have hcontent' : handle (.removeFile (contentFile key)) v = (.error (.os .notFound), v) :=
    hmaps.handle_removeFile_of_none hkey.2 hbin (hf.below _ _) hcontent
  rw [Directory.delete, guarded_of_isSound hkey, Script.run_bind, run_removePresent_of_error hside']
  change Script.run handle (Directory.removePresent (contentFile key) >>= _) v = _
  rw [Script.run_bind, run_removePresent_of_error hcontent']
  change (Except.ok (), (handle (.removeDirectory [key.dataset]) v).2) = _
  rw [hmaps.handle_removeDirectory_of_kept hkey.2 (hf.top _) hkept]

/-- With a name that is too long no path is followed beyond the root. -/
theorem untouched_of_not_isShort (hkey : Directory.checkDataset key.dataset = .ok ())
    (hlong : ¬ IsShort key.dataset) : Untouched v key (overlong key v.hasRoot)
      (if v.hasRoot then .error (.device (.os .nameTooLong)) else .ok ()) := by
  refine untouched_of_readSidecar hkey (run_readSidecar_of_not_isShort hlong v) ?_
  have hremove (p : Path) (hp : p.head? = some key.dataset) : handle (.removeFile p) v =
      (.error (.os (if v.hasRoot then .nameTooLong else .notFound)), v) := by
    rw [handle, Volume.removeFile, Volume.resolve_of_not_isShort hlong hp]
    rfl
  have hdirectory : (handle (.removeDirectory [key.dataset]) v).2 = v := by
    rw [handle, Volume.removeDirectory, Volume.resolve_of_not_isShort hlong rfl]
    rfl
  rw [Directory.delete, Directory.guarded, hkey, Script.run_bind,
    run_removePresent_of_error (hremove (sidecarFile key) rfl)]
  cases hroot : v.hasRoot with
  | true => rfl
  | false =>
      change Script.run handle (Directory.removePresent (contentFile key) >>= _) v = _
      rw [Script.run_bind, run_removePresent_of_error (hremove (contentFile key) rfl), hroot]
      change (Except.ok (), (handle (.removeDirectory [key.dataset]) v).2) = _
      rw [hdirectory]
      rfl

end

/-- Whatever has been asked of a store in a directory that was empty, an artifact without a sidecar is
told as missing, can be deleted, and leaves all as it is, if the name of its dataset fits a directory or
no root has been made yet. Under a longer name all requests fail, and leave all as it is too. -/
theorem untouched_of_absent (hasRoot : Bool) (qs : List Request) {key : Key} {v : Volume}
    (hv : v = (Request.inTurn Request.onVolume qs ⟨hasRoot, []⟩).2)
    (hkey : Directory.checkDataset key.dataset = .ok ())
    (hnone : v.node? (sidecarFile key) = none) :
    (Untouched v key (.notFound key) (.ok ()) ↔
      IsShort key.dataset ∨ hasRoot = false ∧ ∀ q ∈ qs, ¬ q.MakesRoot) ∧
    (¬ (IsShort key.dataset ∨ hasRoot = false ∧ ∀ q ∈ qs, ¬ q.MakesRoot) →
      Untouched v key (.device (.os .nameTooLong)) (.error (.device (.os .nameTooLong)))) := by
  have hroot : v.hasRoot = true ↔ ¬ (hasRoot = false ∧ ∀ q ∈ qs, ¬ q.MakesRoot) := by
    rw [hv, hasRoot_inTurn]
    cases hasRoot <;> simp
  obtain ⟨m, hmirrors⟩ := exists_mirrors_inTurn qs (mirrors_empty hasRoot)
  rw [← hv] at hmirrors
  by_cases hshort : IsShort key.dataset
  · have hget : m.get? key = none := by
      obtain ⟨f, hmaps, hf⟩ := mirrors_iff.mp hmirrors
      rw [hmaps.node? (by simp [sidecarFile]), hf.sidecar] at hnone
      exact Option.map_eq_none_iff.mp hnone
    exact ⟨iff_of_true (hmirrors.untouched ⟨hkey, hshort⟩ hget) (Or.inl hshort),
      fun hno => absurd (Or.inl hshort) hno⟩
  · have huntouched := untouched_of_not_isShort (v := v) hkey hshort
    cases hmade : v.hasRoot with
    | false =>
        rw [hmade] at huntouched
        have hunmade : hasRoot = false ∧ ∀ q ∈ qs, ¬ q.MakesRoot := by
          rw [hmade] at hroot
          simpa using hroot
        exact ⟨iff_of_true huntouched (Or.inr hunmade), fun hno => absurd (Or.inr hunmade) hno⟩
    | true =>
        rw [hmade] at huntouched
        refine ⟨iff_of_false (fun hmissing => ?_) ?_, fun _ => huntouched⟩
        · -- A status cannot be told as missing and refused at once.
          cases hmissing.status.symm.trans huntouched.status
        · rintro (hshort' | hunmade)
          · exact hshort hshort'
          · exact hroot.mp hmade hunmade

/-- A name of 256 octets. -/
def longName : String := String.ofList (List.replicate 256 'a')

/-- After one artifact has been stored, another with a longer name is not told as missing. -/
theorem untouched_longName :
    Directory.checkDataset longName = .ok () ∧ ¬ IsShort longName ∧
    (Request.onVolume someStore ⟨false, []⟩).2.node? (sidecarFile ⟨longName, .irm⟩) = none ∧
    Untouched (Request.onVolume someStore ⟨false, []⟩).2 ⟨longName, .irm⟩
      (.device (.os .nameTooLong)) (.error (.device (.os .nameTooLong))) ∧
    ¬ Untouched (Request.onVolume someStore ⟨false, []⟩).2 ⟨longName, .irm⟩
      (.notFound ⟨longName, .irm⟩) (.ok ()) := by
  have hkey : Directory.checkDataset longName = .ok () := by decide +kernel
  have hlong : ¬ IsShort longName := by decide +kernel
  have hnone : (Request.onVolume someStore ⟨false, []⟩).2.node? (sidecarFile ⟨longName, .irm⟩) =
      none := by decide +kernel
  have hno : ¬ (IsShort longName ∨ false = false ∧ ∀ q ∈ [someStore], ¬ q.MakesRoot) := by
    rintro (hshort | ⟨-, hmakes⟩)
    · exact hlong hshort
    · exact hmakes someStore (by simp) ⟨rfl, rfl⟩
  have hv : (Request.onVolume someStore ⟨false, []⟩).2 =
      (Request.inTurn Request.onVolume [someStore] ⟨false, []⟩).2 := rfl
  obtain ⟨hiff, hrefused⟩ :=
    untouched_of_absent false [someStore] hv (show Directory.checkDataset
      (Key.mk longName .irm).dataset = .ok () from hkey) hnone
  exact ⟨hkey, hlong, hnone, hrefused hno, fun h => hno (hiff.mp h)⟩

end Intake.Store
