import Intake.Proofs.Store.Tree

/-!
# What a request has to do with

A request under a dataset's name works on the directory of that name and on four files in it. On any tree
of files, wherever in it the root lies, all other files stay as they are. Under what is no dataset's name
nothing is asked of the volume.
-/

namespace Intake.Store

open Artifact (Key Kind)
open Directory (contentFile directory sidecarFile temporary)
open Disk (Op)
open Volume (handle)

/-! ## Names -/

/-- What a dataset may be called. -/
def IsDatasetName (d : String) : Prop :=
  d ≠ "" ∧ ∀ c ∈ d.toList,
    'A' ≤ c ∧ c ≤ 'Z' ∨ 'a' ≤ c ∧ c ≤ 'z' ∨ '0' ≤ c ∧ c ≤ '9' ∨ c = '-' ∨ c = '_'

/-- What stands for one entry of a directory in a path that is written out. -/
structure IsComponent (name : String) : Prop where
  ne_empty : name ≠ ""
  ne_here : name ≠ "."
  ne_above : name ≠ ".."
  no_slash : '/' ∉ name.toList
  no_null : '\x00' ∉ name.toList

theorem isNameChar_iff {c : Char} : Directory.isNameChar c = true ↔
    'A' ≤ c ∧ c ≤ 'Z' ∨ 'a' ≤ c ∧ c ≤ 'z' ∨ '0' ≤ c ∧ c ≤ '9' ∨ c = '-' ∨ c = '_' := by
  have hchar : Directory.isNameChar c = (decide ('A' ≤ c ∧ c ≤ 'Z') ||
      decide ('a' ≤ c) && decide (c ≤ 'z') || decide ('0' ≤ c) && decide (c ≤ '9') ||
      decide (c = '-') || decide (c = '_')) := rfl
  simp [hchar, or_assoc]

theorem checkDataset_eq_ok_iff {d : String} :
    Directory.checkDataset d = .ok () ↔ IsDatasetName d := by
  unfold Directory.checkDataset
  simp [IsDatasetName, ← isNameChar_iff]

theorem checkDataset_eq_error {d : String} (h : ¬ IsDatasetName d) :
    Directory.checkDataset d = .error (.invalidDataset d) := by
  rw [← checkDataset_eq_ok_iff] at h
  unfold Directory.checkDataset at h ⊢
  split at h
  · exact absurd rfl h
  · rename_i hname
    rw [if_neg hname]

theorem IsDatasetName.isComponent {d : String} (h : IsDatasetName d) : IsComponent d where
  ne_empty := h.1
  ne_here := by
    rintro rfl
    simpa using h.2 '.'
  ne_above := by
    rintro rfl
    simpa using h.2 '.'
  no_slash hc := by simpa using h.2 _ hc
  no_null hc := by simpa using h.2 _ hc

/-! ## Paths that are written out -/

/-- The names on a path, which go further down; what stands for the place itself does not count. -/
def namesOn (path : List Char) : List (List Char) :=
  (path.splitOn '/').filter fun name => name ≠ [] ∧ name ≠ ['.']

/-- A path with another written after it, which replaces it if it begins at the top. -/
def joined (path : List Char) (name : String) : List Char :=
  if name.toList.head? = some '/' then name.toList
  else if path = [] ∨ path.getLast? = some '/' then path ++ name.toList
  else path ++ '/' :: name.toList

theorem namesOn_append (path name : List Char) :
    namesOn (path ++ '/' :: name) = namesOn path ++ namesOn name := by
  simp [namesOn, List.splitOn, List.splitOnP_append_cons]

theorem IsComponent.namesOn_joined {name : String} (h : IsComponent name) (path : List Char) :
    namesOn (joined path name) = namesOn path ++ [name.toList] := by
  have hname : namesOn name.toList = [name.toList] := by
    have hempty : name.toList ≠ [] := by simpa using h.ne_empty
    have hhere : name.toList ≠ ['.'] := fun he => h.ne_here (String.toList_inj.mp he)
    rw [namesOn, List.splitOn_eq_singleton h.no_slash]
    simp [hempty, hhere]
  have htop : name.toList.head? ≠ some '/' := fun he => h.no_slash (List.mem_of_head? he)
  rw [joined, if_neg htop]
  split
  · rename_i hend
    rcases hend with rfl | hend
    · simpa [namesOn] using hname
    · obtain ⟨path, rfl⟩ := List.getLast?_eq_some_iff.mp hend
      rw [List.append_assoc, List.singleton_append, namesOn_append, hname, namesOn_append]
      simp [namesOn]
  · rw [namesOn_append, hname]

theorem namesOn_foldl_joined {p : Path} (hp : ∀ name ∈ p, IsComponent name) (path : List Char) :
    namesOn (p.foldl joined path) = namesOn path ++ p.map String.toList := by
  induction p generalizing path with
  | nil => simp
  | cons name p ih =>
      rw [List.forall_mem_cons] at hp
      rw [List.foldl_cons, ih hp.2, hp.1.namesOn_joined, List.append_assoc]
      rfl

/-! ## The paths of a key -/

/-- The files of a key, the temporary ones included. -/
def filesOf (key : Key) : List Path :=
  [".bin", ".json", ".bin.part", ".json.part"].map fun ending => [key.dataset, key.kind.name ++ ending]

/-- What a request may ask for: directories are made by a store and removed by a deletion only. -/
inductive Within : Request → Op → Prop
  | makeDirectories {key : Key} {u : Artifact.Upload} :
      Within (.store key u) (.makeDirectories (directory key))
  | removeDirectory {key : Key} : Within (.delete key) (.removeDirectory (directory key))
  | write {q : Request} {p : Path} {c : Bytes} (hp : p ∈ filesOf q.key) : Within q (.write p c)
  | rename {q : Request} {p p' : Path} (hp : p ∈ filesOf q.key) (hp' : p' ∈ filesOf q.key) :
      Within q (.rename p p')
  | read {q : Request} {p : Path} (hp : p ∈ filesOf q.key) : Within q (.read p)
  | removeFile {q : Request} {p : Path} (hp : p ∈ filesOf q.key) : Within q (.removeFile p)

section

variable {key other : Key} {p : Path}

theorem contentFile_mem (key : Key) :
    contentFile key ∈ filesOf key ∧ temporary (contentFile key) ∈ filesOf key := by
  simp [contentFile, temporary, filesOf, String.append_assoc]

theorem sidecarFile_mem (key : Key) :
    sidecarFile key ∈ filesOf key ∧ temporary (sidecarFile key) ∈ filesOf key := by
  simp [sidecarFile, temporary, filesOf, String.append_assoc]

theorem exists_of_mem_filesOf (hp : p ∈ filesOf key) : ∃ name, p = [key.dataset, name] ∧
    name ∈ [".bin", ".json", ".bin.part", ".json.part"].map (key.kind.name ++ ·) := by
  obtain ⟨ending, hending, rfl⟩ := List.mem_map.mp hp
  exact ⟨_, rfl, List.mem_map_of_mem hending⟩

/-- Files of different kinds have different names. -/
theorem kind_eq_of_name_mem {kind kind' : Kind} {name : String}
    (h : name ∈ [".bin", ".json", ".bin.part", ".json.part"].map (kind.name ++ ·))
    (h' : name ∈ [".bin", ".json", ".bin.part", ".json.part"].map (kind'.name ++ ·)) :
    kind = kind' := by
  have hdisjoint : ∀ j k : Kind, j ≠ k → List.Disjoint
      ([".bin", ".json", ".bin.part", ".json.part"].map (j.name ++ ·))
      ([".bin", ".json", ".bin.part", ".json.part"].map (k.name ++ ·)) := by
    intro j k hne
    cases j <;> cases k <;> first | exact absurd rfl hne | (simp [Artifact.Kind.name])
  by_contra hne
  exact hdisjoint kind kind' hne h h'

/-- Two keys have no path in common but the directory, if they are of one dataset. -/
theorem eq_directory_of_mem (hne : other ≠ key) (hp : p ∈ directory key :: filesOf key)
    (hp' : p ∈ directory other :: filesOf other) :
    p = directory key ∧ other.dataset = key.dataset := by
  rcases List.mem_cons.mp hp with rfl | hp
  · rcases List.mem_cons.mp hp' with he | hp'
    · exact ⟨rfl, (List.cons.inj he).1.symm⟩
    · obtain ⟨name, he, -⟩ := exists_of_mem_filesOf hp'
      simp [directory] at he
  · obtain ⟨name, rfl, hname⟩ := exists_of_mem_filesOf hp
    rcases List.mem_cons.mp hp' with he | hp'
    · simp [directory] at he
    · obtain ⟨name', he, hname'⟩ := exists_of_mem_filesOf hp'
      obtain ⟨hdataset, he⟩ := List.cons.inj he
      obtain ⟨rfl, -⟩ := List.cons.inj he
      exact absurd (congrArg₂ Key.mk hdataset.symm (kind_eq_of_name_mem hname' hname)) hne

theorem isComponent_of_mem (hkey : IsDatasetName key.dataset)
    (hp : p ∈ directory key :: filesOf key) : ∀ name ∈ p, IsComponent name := by
  rcases List.mem_cons.mp hp with rfl | hp
  · exact List.forall_mem_singleton.mpr hkey.isComponent
  · obtain ⟨name, rfl, hname⟩ := exists_of_mem_filesOf hp
    refine List.forall_mem_cons.mpr ⟨hkey.isComponent, List.forall_mem_singleton.mpr ?_⟩
    obtain ⟨d, kind⟩ := key
    cases kind <;> simp only [Artifact.Kind.name, List.mem_map, List.mem_cons, List.not_mem_nil,
      or_false, exists_eq_or_imp, exists_eq_left] at hname <;>
      rcases hname with rfl | rfl | rfl | rfl <;> constructor <;> decide

end

theorem within_work (q : Request) : q.work.Always (Within q) := by
  cases q with
  | retrieve key => exact always_retrieve (.read (sidecarFile_mem key).1) (.read (contentFile_mem key).1)
  | status key => exact always_status (.read (sidecarFile_mem key).1)
  | delete key =>
      exact always_delete (.removeFile (sidecarFile_mem key).1) (.removeFile (contentFile_mem key).1)
        .removeDirectory
  | setStatus key s =>
      exact always_setStatus (.read (sidecarFile_mem key).1) (fun _ => .write (sidecarFile_mem key).2)
        (.rename (sidecarFile_mem key).2 (sidecarFile_mem key).1)
  | store key u =>
      change (Directory.store key u).Always _
      rw [Directory.store]
      cases checkSize u with
      | error => trivial
      | ok =>
          refine always_guarded (always_run .makeDirectories fun made => ?_)
          cases made with
          | error => trivial
          | ok =>
              refine Script.Always.bind (always_writeWhole (.write (contentFile_mem key).2)
                (.rename (contentFile_mem key).2 (contentFile_mem key).1)) fun content => ?_
              cases content with
              | error => trivial
              | ok =>
                  exact always_writeWhole (.write (sidecarFile_mem key).2)
                    (.rename (sidecarFile_mem key).2 (sidecarFile_mem key).1)

/-! ## A root somewhere on a tree -/

/-- Answers the primitives of a store whose root lies at `base`. -/
def handleBelow (base : Path) : (op : Op) → Volume → op.Reply × Volume
  | .makeDirectories p, v => handle (.makeDirectories (base ++ p)) v
  | .write p c, v => handle (.write (base ++ p) c) v
  | .rename p q, v => handle (.rename (base ++ p) (base ++ q)) v
  | .read p, v => handle (.read (base ++ p)) v
  | .removeFile p, v => handle (.removeFile (base ++ p)) v
  | .removeDirectory p, v => handle (.removeDirectory (base ++ p)) v

/-- What becomes of a path that is no file of the request's key: it stays as it is, or it is a missing
directory on the way to the dataset's that a store makes, or it is that directory and empty, and a
deletion removes it. -/
inductive Spared (q : Request) (base : Path) (v v' : Volume) (p : Path) : Prop
  | same (h : v'.node? p = v.node? p)
  | made {key : Key} {u : Artifact.Upload} (request : q = .store key u)
      (above : p <+: base ++ directory key) (before : v.node? p = none)
      (after : v'.node? p = some .directory)
  | removed {key : Key} (request : q = .delete key) (place : p = base ++ directory key)
      (before : v.node? p = some .directory) (after : v'.node? p = none)

section

variable {q : Request} {base p : Path} {v v' v'' : Volume} {op : Op} {c : Bytes}

theorem Spared.trans (h : Spared q base v v' p) (h' : Spared q base v' v'' p) :
    Spared q base v v'' p := by
  cases h with
  | same h =>
      cases h' with
      | same h' => exact .same (h'.trans h)
      | made request above before after => exact .made request above (h.symm.trans before) after
      | removed request place before after => exact .removed request place (h.symm.trans before) after
  | made request above before after =>
      cases h' with
      | same h' => exact .made request above before (h'.trans after)
      | made _ _ before' _ => cases after.symm.trans before'
      | removed request' => cases request.symm.trans request'
  | removed request place before after =>
      cases h' with
      | same h' => exact .removed request place before (h'.trans after)
      | made request' => cases request.symm.trans request'
      | removed _ _ before' _ => cases after.symm.trans before'

/-- Whether a file is there is the same before and after. -/
theorem Spared.file_iff (h : Spared q base v v' p) :
    v'.node? p = some (.file c) ↔ v.node? p = some (.file c) := by
  cases h with
  | same h => rw [h]
  | made _ _ before after => simp [before, after]
  | removed _ _ before after => simp [before, after]

theorem spared_of_within (hop : Within q op) (hp : p ∉ (filesOf q.key).map (base ++ ·)) :
    Spared q base v (handleBelow base op v).2 p := by
  have hne {r : Path} (hr : r ∈ filesOf q.key) : p ≠ base ++ r := fun he =>
    hp (List.mem_map.mpr ⟨r, hr, he.symm⟩)
  cases hop with
  | read => exact .same rfl
  | makeDirectories =>
      rcases Volume.node?_makeDirectories (v := v) (p := base ++ directory _) (q := p) with
        h | ⟨habove, hbefore, hafter⟩
      · exact .same h
      · exact .made rfl habove hbefore hafter
  | @removeDirectory key =>
      refine Volume.answer_preserves (P := (Spared (.delete key) base v · p)) (.same rfl) fun v' hv' => ?_
      obtain ⟨hbefore, -, rfl⟩ := Volume.removeDirectory_eq_ok hv'
      by_cases he : p = base ++ directory key
      · subst he
        exact .removed rfl rfl hbefore (Volume.node?_erase_self (by simp [directory]))
      · exact .same (Volume.node?_erase_of_ne he)
  | write hr =>
      refine Volume.answer_preserves (P := (Spared q base v · p)) (.same rfl) fun v' hv' => .same ?_
      rw [Volume.write_eq_ok hv', Volume.node?_put_of_ne (hne hr)]
  | rename hr hr' =>
      refine Volume.answer_preserves (P := (Spared q base v · p)) (.same rfl) fun v' hv' => .same ?_
      obtain ⟨c, -, rfl⟩ := Volume.rename_eq_ok hv'
      rw [Volume.node?_put_of_ne (hne hr'), Volume.node?_erase_of_ne (hne hr)]
  | removeFile hr =>
      refine Volume.answer_preserves (P := (Spared q base v · p)) (.same rfl) fun v' hv' => .same ?_
      obtain ⟨c, -, rfl⟩ := Volume.removeFile_eq_ok hv'
      exact Volume.node?_erase_of_ne (hne hr)

theorem isTree_handleBelow (h : v.IsTree) (base : Path) (op : Op) :
    (handleBelow base op v).2.IsTree := by
  cases op <;> exact h.handle _

variable {α : Type} {w : Disk.Work α}

theorem spared_of_always (hw : w.Always (Within q)) (hp : p ∉ (filesOf q.key).map (base ++ ·)) :
    Spared q base v (w.run (handleBelow base) v).2 p := by
  induction w generalizing v with
  | done => exact .same rfl
  | ask op next ih => exact (spared_of_within hw.1 hp).trans (ih _ (hw.2 _))

theorem isTree_run (h : v.IsTree) (w : Disk.Work α) (base : Path) :
    (w.run (handleBelow base) v).2.IsTree := by
  induction w generalizing v with
  | done => exact h
  | ask op next ih => exact ih _ (isTree_handleBelow h base op)

end

/-! ## Any request -/

namespace Request

/-- Why a request is refused, if its reply says so. -/
def fault? : (q : Request) → q.Reply → Option Fault
  | store .., .error e => some e
  | retrieve _, .error e => some e
  | delete _, .error e => some e
  | setStatus .., .error e => some e
  | status _, .error e => some e
  | _, _ => none

/-- Why a request under what is no dataset's name is refused: a store looks at the size first. -/
def refusal (q : Request) : Fault :=
  match q with
  | store key u =>
    if u.content.length = u.size then .invalidDataset key.dataset
    else .sizeMismatch u.size u.content.length
  | q => .invalidDataset q.key.dataset

end Request

/-- Nothing but what is the key's own has to do with a request, wherever its root lies. -/
structure Confined (q : Request) (base : Path) (v v' : Volume) : Prop where
  asks : q.work.Always (Within q)
  /-- Written after a root, a path of the key leads on by its own names. -/
  written : ∀ p ∈ directory q.key :: filesOf q.key, ∀ root,
    namesOn (p.foldl joined root) = namesOn root ++ p.map String.toList
  nodes : ∀ p, p ∉ (filesOf q.key).map (base ++ ·) → Spared q base v v' p
  tree : v.IsTree → v'.IsTree
  reads : v.IsTree → ∀ p, p ∉ (filesOf q.key).map (base ++ ·) →
    ∀ c, v'.read p = .ok c ↔ v.read p = .ok c

theorem confined_run {q : Request} (hq : IsDatasetName q.key.dataset) (base : Path) (v : Volume) :
    Confined q base v (q.work.run (handleBelow base) v).2 where
  asks := within_work q
  written p hp root := namesOn_foldl_joined (isComponent_of_mem hq hp) root
  nodes p hp := spared_of_always (within_work q) hp
  tree h := isTree_run h _ base
  reads h p hp c := by
    rw [(isTree_run h _ base).read_eq_ok_iff, h.read_eq_ok_iff,
      (spared_of_always (within_work q) hp).file_iff]

theorem work_of_not_isDatasetName {q : Request} (hq : ¬ IsDatasetName q.key.dataset) :
    ∃ r, q.work = .done r ∧ q.fault? r = some q.refusal := by
  have herror := checkDataset_eq_error hq
  cases q with
  | store key u =>
      by_cases hu : u.content.length = u.size
      · refine ⟨.error (.invalidDataset key.dataset), ?_, by simp [Request.fault?, Request.refusal, hu]⟩
        simp only [Request.work, Directory.store, checkSize, if_pos hu]
        exact guarded_of_error herror
      · refine ⟨.error (.sizeMismatch u.size u.content.length), ?_,
          by simp [Request.fault?, Request.refusal, hu]⟩
        simp only [Request.work, Directory.store, checkSize, if_neg hu]
        rfl
  | retrieve key => exact ⟨_, guarded_of_error herror, rfl⟩
  | delete key => exact ⟨_, guarded_of_error herror, rfl⟩
  | setStatus key s => exact ⟨_, guarded_of_error herror, rfl⟩
  | status key => exact ⟨_, guarded_of_error herror, rfl⟩

/-- Under what is no dataset's name a request is refused at once. Under any other it is confined to the
paths of its key, of which another key shares the dataset's directory at most. -/
theorem request_confined (q : Request) (base : Path) (v : Volume) :
    (¬ IsDatasetName q.key.dataset → ∃ r, q.work = .done r ∧ q.fault? r = some q.refusal) ∧
    (IsDatasetName q.key.dataset → IsComponent q.key.dataset ∧
      Confined q base v (q.work.run (handleBelow base) v).2) ∧
    ∀ other, other ≠ q.key → ∀ p ∈ directory q.key :: filesOf q.key,
      p ∈ directory other :: filesOf other → p = directory q.key ∧ other.dataset = q.key.dataset :=
  ⟨work_of_not_isDatasetName, fun hq => ⟨hq.isComponent, confined_run hq base v⟩,
    fun _ hne _ => eq_directory_of_mem hne⟩

/-- A root beside files of others. -/
def sharedTree : Volume :=
  ⟨true, [(["srv"], .directory), (["etc"], .directory), (["etc", "a"], .file [1]),
    (["srv", "a"], .directory), (["srv", "a", "irm.bin"], .file [2]),
    (["srv", "a", "notes"], .file [3])]⟩

theorem request_confined_sharedTree :
    sharedTree.IsTree ∧
    Confined (.store ⟨"a", .file⟩ ⟨⟨"image/tiff", [4], ⟨none, .staged⟩⟩, 1⟩) ["srv"] sharedTree
      ((Request.work (.store ⟨"a", .file⟩ ⟨⟨"image/tiff", [4], ⟨none, .staged⟩⟩, 1⟩)).run
        (handleBelow ["srv"]) sharedTree).2 := by
  refine ⟨Volume.isTree_of_forall_mem (by decide), ?_⟩
  refine ((request_confined _ ["srv"] sharedTree).2.1 ?_).2
  exact checkDataset_eq_ok_iff.mp (by decide)

end Intake.Store
