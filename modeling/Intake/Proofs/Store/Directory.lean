import Intake.Proofs.Artifact.Sidecar
import Intake.Proofs.Store.Orderly

/-!
# A store in a directory is a store

What each request does to the files of a store, and that it is answered as it is by a store in
memory, however many came before.
-/

namespace Intake.Store

open Artifact (Key Kind Sidecar Status Upload)
open Directory (contentFile sidecarFile)
open Function (update)

/-! ## What the store in a directory does -/

section

open Volume (handle)

variable {v : Volume} {f : Path → Option Node} {m : Memory} {key : Key} {d name : String}
  {c : Bytes}

theorem run_step {α : Type} (op : Disk.Op) (next : op.Reply → Disk.Work α) (v : Volume) :
    (Disk.run op >>= next).run handle v = (next (handle op v).1).run handle (handle op v).2 := rfl

/-- A file is written whole, and its temporary name is free again. -/
theorem run_writeWhole (h : v.Maps f) (hd : IsShort d) (hname : IsShort name)
    (hpart : IsShort (name ++ ".part")) (hdir : f [d] = some .directory)
    (hfile : f [d, name] ≠ some .directory) (hfree : f [d, name ++ ".part"] = none) (c : Bytes) :
    ∃ v', (Directory.writeWhole [d, name] c).run handle v = (.ok (), v') ∧
      v'.Maps (update f [d, name] (some (.file c))) := by
  have hne : name ≠ name ++ ".part" := fun he => by
    simpa using congrArg String.length he
  obtain ⟨v₁, hwrite, hmaps₁⟩ := h.handle_write hd hpart hdir (by simp [hfree]) c
  obtain ⟨v₂, hrename, hmaps₂⟩ := hmaps₁.handle_rename (c := c) hd hpart hname
    (by simpa using hdir) (by simp) (by simpa [hne] using hfile)
  refine ⟨v₂, ?_, ?_⟩
  · have htemporary : Directory.temporary [d, name] = [d, name ++ ".part"] := rfl
    rw [Directory.writeWhole, htemporary, run_step, hwrite]
    change Script.run handle (Disk.run (.rename [d, name ++ ".part"] [d, name]) >>= _) v₁ = _
    rw [run_step, hrename]
    rfl
  · rwa [Function.update_idem, ← hfree, Function.update_eq_self] at hmaps₂

theorem run_removePresent (h : v.Maps f) (hd : IsShort d) (hname : IsShort name)
    (hdir : f [d] = none ∧ f [d, name] = none ∨ f [d] = some .directory)
    (hfile : f [d, name] ≠ some .directory) :
    ∃ v', (Directory.removePresent [d, name]).run handle v = (.ok (), v') ∧
      v'.Maps (update f [d, name] none) := by
  obtain ⟨r, v', hremove, hr, hmaps⟩ := h.handle_removeFile hd hname hdir hfile
  refine ⟨v', ?_, hmaps⟩
  rw [Directory.removePresent, run_step, hremove]
  rcases hr with rfl | rfl <;> rfl

theorem run_readOf (h : v.Maps f) (hd : IsShort d) (hname : IsShort name)
    (hdir : f [d] = none ∧ f [d, name] = none ∨ f [d] = some .directory)
    (hfile : f [d, name] ≠ some .directory) (key : Key) :
    (Directory.readOf key [d, name]).run handle v = (match f [d, name] with
      | some (.file c) => .ok c
      | _ => .error (.notFound key), v) := by
  rw [Directory.readOf, run_step, h.handle_read hd hname hdir hfile]
  cases hf : f [d, name] with
  | none => rfl
  | some n =>
      cases n with
      | file => rfl
      | directory => exact absurd hf hfile

end

/-! ## Requests on sound keys -/

/-- A key whose dataset may be the name of a directory. -/
def IsSound (key : Key) : Prop :=
  Directory.checkDataset key.dataset = .ok () ∧ IsShort key.dataset

instance (key : Key) : Decidable (IsSound key) := inferInstanceAs (Decidable (_ ∧ _))

section

open Volume (handle)

variable {v : Volume} {f : Path → Option Node} {m : Memory} {key : Key}

theorem guarded_of_isSound {α : Type} (hkey : IsSound key) (w : Disk.Work (Except Fault α)) :
    Directory.guarded key w = w := by
  rw [Directory.guarded, hkey.1]

theorem run_readSidecar (h : v.Maps f) (hf : Orderly f m) (hkey : IsSound key) :
    (Directory.readSidecar key).run handle v = ((m.retrieve key).map sidecarOf, v) := by
  have hread := run_readOf h hkey.2 (isShort_names key.kind).2.2.1 (hf.below _ _)
    (hf.ne_directory _ _) key
  change (Directory.readOf key (sidecarFile key)).run handle v =
    (match f (sidecarFile key) with
      | some (.file c) => .ok c
      | _ => .error (.notFound key), v) at hread
  rw [hf.sidecar] at hread
  rw [Directory.readSidecar, Script.run_bind, hread, Memory.retrieve]
  cases m.get? key with
  | none => rfl
  | some a =>
      change ((Sidecar.decode (sidecarOf a).encode).mapError Fault.sidecar, v) = _
      rw [Artifact.Sidecar.decode_encode]
      rfl

theorem run_readContent {a : Artifact} (h : v.Maps f) (hf : Orderly f m) (hkey : IsSound key)
    (ha : m.get? key = some a) :
    (Directory.readOf key (contentFile key)).run handle v = (.ok a.content, v) := by
  have hread := run_readOf h hkey.2 (isShort_names key.kind).1 (hf.below _ _)
    (hf.ne_directory _ _) key
  change (Directory.readOf key (contentFile key)).run handle v =
    (match f (contentFile key) with
      | some (.file c) => .ok c
      | _ => .error (.notFound key), v) at hread
  rw [hread, hf.content key a ha]

/-- The content is written in place, and then the sidecar. -/
theorem run_store (h : v.Maps f) (hf : Depicts f m) (hkey : IsSound key) (u : Upload) :
    ∃ v' f', (Directory.store key u).run handle v = ((m.store key u).1, v') ∧ v'.Maps f' ∧
      Depicts f' (m.store key u).2 := by
  rw [Directory.store, Memory.store]
  cases hsize : checkSize u with
  | error e => exact ⟨v, f, rfl, h, hf⟩
  | ok =>
      obtain ⟨hbin, hbinPart, hjson, hjsonPart⟩ := isShort_names key.kind
      have hne := (bin_ne_json key.kind key.kind).symm
      obtain ⟨v₁, hmake, hmaps₁⟩ := h.handle_makeDirectories hkey.2 (hf.top key.dataset)
      obtain ⟨v₂, hcontent, hmaps₂⟩ := run_writeWhole hmaps₁ hkey.2 hbin hbinPart (by simp)
        (by simpa using hf.ne_directory)
        (by simpa using hf.eq_none fun kind => (part_ne key.kind kind).1) u.content
      obtain ⟨v₃, hside, hmaps₃⟩ := run_writeWhole hmaps₂ hkey.2 hjson hjsonPart (by simp)
        (by simpa [hne] using hf.ne_directory)
        (by simpa [(part_ne key.kind key.kind).2.1] using
          hf.eq_none fun kind => (part_ne key.kind kind).2) (sidecarOf u.toArtifact).encode
      refine ⟨v₃, _, ?_, hmaps₃, hf.insert key u.toArtifact⟩
      change (Directory.guarded key _).run handle v = _
      rw [guarded_of_isSound hkey]
      change Script.run handle (Disk.run (.makeDirectories [key.dataset]) >>= _) v = _
      rw [run_step, hmake]
      change Script.run handle (Directory.writeWhole (contentFile key) u.content >>= _) v₁ = _
      rw [Script.run_bind]
      change (Directory.writeWhole (contentFile key) u.content).run handle v₁ = _ at hcontent
      rw [hcontent]
      exact hside

theorem run_retrieve (h : v.Maps f) (hf : Orderly f m) (hkey : IsSound key) :
    (Directory.retrieve key).run handle v = (m.retrieve key, v) := by
  rw [Directory.retrieve, guarded_of_isSound hkey, Script.run_bind, run_readSidecar h hf hkey,
    Memory.retrieve]
  cases ha : m.get? key with
  | none => rfl
  | some a =>
      change Script.run handle (Directory.readOf key (contentFile key) >>= _) v = _
      rw [Script.run_bind, run_readContent h hf hkey ha]
      rfl

theorem run_status (h : v.Maps f) (hf : Orderly f m) (hkey : IsSound key) :
    (Directory.status key).run handle v = (m.status key, v) := by
  rw [Directory.status, guarded_of_isSound hkey, Script.run_bind, run_readSidecar h hf hkey,
    Memory.status]
  cases m.retrieve key <;> rfl

theorem run_setStatus (h : v.Maps f) (hf : Depicts f m) (hkey : IsSound key) (s : Status) :
    ∃ v' f', (Directory.setStatus key s).run handle v = ((m.setStatus key s).1, v') ∧ v'.Maps f' ∧
      Depicts f' (m.setStatus key s).2 := by
  rw [Directory.setStatus, guarded_of_isSound hkey, Script.run_bind,
    run_readSidecar h hf.orderly hkey, Memory.setStatus, Memory.retrieve]
  cases hm : m.get? key with
  | none => exact ⟨v, f, rfl, h, hf⟩
  | some a =>
      obtain ⟨_, _, hjson, hjsonPart⟩ := isShort_names key.kind
      have hdir : f [key.dataset] = some .directory := (hf _ _).mpr (.directory hm)
      have hcontent : f (contentFile key) = some (.file a.content) := (hf _ _).mpr (.content hm)
      let b : Artifact := { a with metadata := { a.metadata with status := s } }
      obtain ⟨v', hside, hmaps⟩ := run_writeWhole h hkey.2 hjson hjsonPart hdir hf.ne_directory
        (hf.eq_none fun kind => (part_ne key.kind kind).2) (sidecarOf b).encode
      refine ⟨v', _, hside, hmaps, ?_⟩
      -- The directory and the content are there already, so only the sidecar is new.
      have hinsert := hf.insert key b
      rw [← hdir, Function.update_eq_self] at hinsert
      change Depicts (update (update f (contentFile key) (some (.file a.content))) _ _) _ at hinsert
      rw [← hcontent, Function.update_eq_self] at hinsert
      exact hinsert

/-- The sidecar goes first, then the content, then the directory if it is empty. -/
theorem run_delete (h : v.Maps f) (hf : Depicts f m) (hkey : IsSound key) :
    ∃ v' f', (Directory.delete key).run handle v = (.ok (), v') ∧ v'.Maps f' ∧
      Depicts f' (m.erase key) := by
  obtain ⟨hbin, _, hjson, _⟩ := isShort_names key.kind
  have hne := bin_ne_json key.kind key.kind
  obtain ⟨v₁, hside, hmaps₁⟩ := run_removePresent h hkey.2 hjson (hf.below _ _) hf.ne_directory
  obtain ⟨v₂, hcontent, hmaps₂⟩ := run_removePresent hmaps₁ hkey.2 hbin
    (by simpa [hne] using hf.below key.dataset (key.kind.name ++ ".bin"))
    (by simpa [hne] using hf.ne_directory)
  obtain ⟨hkept, hgone⟩ := hmaps₂.handle_removeDirectory hkey.2 (by simpa using hf.top key.dataset)
  have hrun : (Directory.delete key).run handle v =
      (.ok (), (handle (.removeDirectory [key.dataset]) v₂).2) := by
    rw [Directory.delete, guarded_of_isSound hkey, Script.run_bind]
    change (Directory.removePresent (sidecarFile key)).run handle v = _ at hside
    rw [hside]
    change Script.run handle (Directory.removePresent (contentFile key) >>= _) v₁ = _
    change (Directory.removePresent (contentFile key)).run handle v₁ = _ at hcontent
    rw [Script.run_bind, hcontent]
    rfl
  -- Another artifact of the dataset keeps its directory.
  by_cases hleft : ∃ kind a, (m.erase key).get? ⟨key.dataset, kind⟩ = some a
  · have hmaps := hkept ((hf.erase_children key).mpr hleft)
    obtain ⟨kind, a, ha⟩ := hleft
    exact ⟨_, _, hrun, hmaps, hf.erase_of_some ha⟩
  · have hmaps := hgone fun name => Option.eq_none_iff_forall_ne_some.mpr fun n hn =>
      hleft ((hf.erase_children key).mp ⟨name, n, hn⟩)
    refine ⟨_, _, hrun, hmaps, hf.erase_of_none fun kind => ?_⟩
    exact Option.eq_none_iff_forall_ne_some.mpr fun a ha => hleft ⟨kind, a, ha⟩

end

/-! ## Any number of requests -/

/-- What can be asked of a store. -/
inductive Request
  | store (key : Key) (u : Upload)
  | retrieve (key : Key)
  | delete (key : Key)
  | setStatus (key : Key) (s : Status)
  | status (key : Key)

namespace Request

abbrev Reply : Request → Type
  | retrieve _ => Except Fault Artifact
  | status _ => Except Fault Status
  | _ => Except Fault Unit

def key : Request → Key
  | store key _ | retrieve key | delete key | setStatus key _ | status key => key

def onMemory : (q : Request) → Memory → q.Reply × Memory
  | store key u, m => m.store key u
  | retrieve key, m => (m.retrieve key, m)
  | delete key, m => m.delete key
  | setStatus key s, m => m.setStatus key s
  | status key, m => (m.status key, m)

def onVolume : (q : Request) → Volume → q.Reply × Volume
  | store key u, v => (Directory.store key u).run Volume.handle v
  | retrieve key, v => (Directory.retrieve key).run Volume.handle v
  | delete key, v => (Directory.delete key).run Volume.handle v
  | setStatus key s, v => (Directory.setStatus key s).run Volume.handle v
  | status key, v => (Directory.status key).run Volume.handle v

/-- The replies to requests made in turn, and the store after them. -/
def inTurn {σ : Type} (on : (q : Request) → σ → q.Reply × σ) :
    List Request → σ → List (Σ q : Request, q.Reply) × σ
  | [], s => ([], s)
  | q :: qs, s => (⟨q, (on q s).1⟩ :: (inTurn on qs (on q s).2).1, (inTurn on qs (on q s).2).2)

end Request

/-- A request is answered by the directory as by the store in memory, and shows what that then is. -/
theorem Mirrors.step {v : Volume} {m : Memory} (h : Mirrors v m) {q : Request}
    (hq : IsSound q.key) :
    (q.onVolume v).1 = (q.onMemory m).1 ∧ Mirrors (q.onVolume v).2 (q.onMemory m).2 := by
  obtain ⟨f, hmaps, hf⟩ := mirrors_iff.mp h
  cases q with
  | store key u =>
      change IsSound key at hq
      obtain ⟨v', f', hrun, hmaps', hf'⟩ := run_store hmaps hf hq u
      rw [Request.onVolume, Request.onMemory, hrun]
      exact ⟨rfl, mirrors_iff.mpr ⟨f', hmaps', hf'⟩⟩
  | retrieve key =>
      change IsSound key at hq
      rw [Request.onVolume, Request.onMemory, run_retrieve hmaps hf.orderly hq]
      exact ⟨rfl, h⟩
  | delete key =>
      change IsSound key at hq
      obtain ⟨v', f', hrun, hmaps', hf'⟩ := run_delete hmaps hf hq
      rw [Request.onVolume, Request.onMemory, hrun]
      exact ⟨rfl, mirrors_iff.mpr ⟨f', hmaps', hf'⟩⟩
  | setStatus key s =>
      change IsSound key at hq
      obtain ⟨v', f', hrun, hmaps', hf'⟩ := run_setStatus hmaps hf hq s
      rw [Request.onVolume, Request.onMemory, hrun]
      exact ⟨rfl, mirrors_iff.mpr ⟨f', hmaps', hf'⟩⟩
  | status key =>
      change IsSound key at hq
      rw [Request.onVolume, Request.onMemory, run_status hmaps hf.orderly hq]
      exact ⟨rfl, h⟩

theorem mirrors_empty (hasRoot : Bool) : Mirrors ⟨hasRoot, []⟩ .empty where
  nodes p n := by
    constructor
    · rintro ⟨⟩
    · rintro (⟨⟨⟩⟩ | ⟨⟨⟩⟩ | ⟨⟨⟩⟩)
  distinct := List.nodup_nil
  rooted h := absurd rfl h

theorem Mirrors.inTurn {qs : List Request} (hqs : ∀ q ∈ qs, IsSound q.key) {v : Volume}
    {m : Memory} (h : Mirrors v m) :
    (Request.inTurn Request.onVolume qs v).1 = (Request.inTurn Request.onMemory qs m).1 ∧
      Mirrors (Request.inTurn Request.onVolume qs v).2 (Request.inTurn Request.onMemory qs m).2 := by
  induction qs generalizing v m with
  | nil => exact ⟨rfl, h⟩
  | cons q qs ih =>
      obtain ⟨hq, hqs⟩ := List.forall_mem_cons.mp hqs
      obtain ⟨hreply, hmirrors⟩ := h.step hq
      obtain ⟨hreplies, hlast⟩ := ih hqs hmirrors
      exact ⟨by rw [Request.inTurn, Request.inTurn, hreply, hreplies], hlast⟩

/-- From an empty root on, the store in a directory gives the replies of the store in memory, and its
files are those of the artifacts that there are. -/
theorem directory_refines_memory (hasRoot : Bool) {qs : List Request}
    (hqs : ∀ q ∈ qs, IsSound q.key) :
    (Request.inTurn Request.onVolume qs ⟨hasRoot, []⟩).1 =
        (Request.inTurn Request.onMemory qs .empty).1 ∧
      Mirrors (Request.inTurn Request.onVolume qs ⟨hasRoot, []⟩).2
        (Request.inTurn Request.onMemory qs .empty).2 :=
  (mirrors_empty hasRoot).inTurn hqs

/-- One upload is refused, and one dataset is not there. -/
def someRequests : List Request :=
  [.store ⟨"a_1", .file⟩ ⟨⟨"image/tiff", [1, 2], ⟨some "\"é\".tif", .staged⟩⟩, 2⟩,
    .store ⟨"a_1", .irm⟩ ⟨⟨"text/plain", [3], ⟨none, .stored⟩⟩, 5⟩,
    .setStatus ⟨"a_1", .file⟩ .stored, .delete ⟨"b", .metacard⟩, .status ⟨"b", .metacard⟩]

theorem directory_refines_memory_someRequests :
    (∀ q ∈ someRequests, IsSound q.key) ∧
      (Request.inTurn Request.onVolume someRequests ⟨false, []⟩).1 =
        [⟨.store ⟨"a_1", .file⟩ ⟨⟨"image/tiff", [1, 2], ⟨some "\"é\".tif", .staged⟩⟩, 2⟩, .ok ()⟩,
          ⟨.store ⟨"a_1", .irm⟩ ⟨⟨"text/plain", [3], ⟨none, .stored⟩⟩, 5⟩,
            .error (.sizeMismatch 5 1)⟩,
          ⟨.setStatus ⟨"a_1", .file⟩ .stored, .ok ()⟩, ⟨.delete ⟨"b", .metacard⟩, .ok ()⟩,
          ⟨.status ⟨"b", .metacard⟩, .error (.notFound ⟨"b", .metacard⟩)⟩] ∧
      Mirrors (Request.inTurn Request.onVolume someRequests ⟨false, []⟩).2
        ⟨[(⟨"a_1", .file⟩, ⟨"image/tiff", [1, 2], ⟨some "\"é\".tif", .stored⟩⟩)]⟩ := by
  have hsound : ∀ q ∈ someRequests, IsSound q.key := by decide
  obtain ⟨hreplies, hmirrors⟩ := directory_refines_memory false hsound
  exact ⟨hsound, hreplies.trans rfl, hmirrors⟩

end Intake.Store
