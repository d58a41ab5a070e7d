import Intake.Proofs.Store.Interruption

/-!
# Never half an artifact

However many requests have been cut short on a directory, each artifact is there as a whole or not
at all, and a request that is made again does what it would have done at once.
-/

namespace Intake.Store

open Artifact (Key Kind Sidecar Status Upload)
open Directory (contentFile sidecarFile)
open Disk (Ends Makes run)
open Volume (handle)

/-! ## Any request -/

namespace Request

def work : (q : Request) → Disk.Work q.Reply
  | store key u => Directory.store key u
  | retrieve key => Directory.retrieve key
  | delete key => Directory.delete key
  | setStatus key s => Directory.setStatus key s
  | status key => Directory.status key

theorem onVolume_eq (q : Request) (v : Volume) : q.onVolume v = q.work.run handle v := by
  cases q <;> rfl

end Request

/-- A request asks only for what is in the directory of its dataset. -/
theorem under_work (q : Request) : q.work.Always (Disk.Op.Under q.key.dataset) := by
  cases q with
  | retrieve key => exact always_retrieve rfl rfl
  | status key => exact always_status rfl
  | delete key => exact always_delete rfl rfl rfl
  | setStatus key s => exact always_setStatus rfl (fun _ => rfl) ⟨rfl, rfl⟩
  | store key u =>
      change (Directory.store key u).Always _
      rw [Directory.store]
      cases checkSize u with
      | error => trivial
      | ok =>
          refine always_guarded (always_run rfl fun made => ?_)
          cases made with
          | error => trivial
          | ok =>
              refine Script.Always.bind (always_writeWhole rfl ⟨rfl, rfl⟩) fun content => ?_
              cases content with
              | error => trivial
              | ok => exact always_writeWhole rfl ⟨rfl, rfl⟩

/-- Only a store makes directories. -/
theorem leavesRoot_work {q : Request} (hq : ∀ key u, q ≠ .store key u) :
    q.work.Always Disk.Op.LeavesRoot := by
  cases q with
  | store key u => exact absurd rfl (hq key u)
  | retrieve key => exact always_retrieve trivial trivial
  | status key => exact always_status trivial
  | delete key => exact always_delete trivial trivial trivial
  | setStatus key s => exact always_setStatus trivial (fun _ => trivial) trivial

/-! ## How a request ends -/

/-- What a request may have made of the artifacts when it is cut short: nothing, all that it does,
or of an artifact that was there one with the content of another. -/
inductive Partly (m : Memory) : Request → Memory → Prop
  | before {q : Request} : Partly m q m
  | after {q : Request} : Partly m q (q.onMemory m).2
  | refilled {key : Key} {u : Upload} (hu : checkSize u = .ok ()) :
      Partly m (.store key u) (m.refill key u.content)

/-- Once it is made again, nothing can be told of that. -/
theorem Partly.again {m m' : Memory} {q : Request} (h : Partly m q m') :
    q.onMemory m' = q.onMemory m := by
  cases h with
  | before => rfl
  | @refilled key u hu =>
      simp only [Request.onMemory, Memory.store, hu, Memory.insert_refill_self]
  | after =>
      cases q with
      | retrieve | status => rfl
      | store key u =>
          simp only [Request.onMemory, Memory.store]
          cases checkSize u with
          | error => rfl
          | ok => simp only [Memory.insert_congr Memory.erase_insert_self]
      | delete key => simp only [Request.onMemory, Memory.delete, Memory.erase_erase_self]
      | setStatus key s =>
          cases ha : m.get? key with
          | none => simp only [Request.onMemory, Memory.setStatus_of_none ha]
          | some a =>
              simp only [Request.onMemory, Memory.setStatus_of_get? ha,
                Memory.setStatus_of_get? Memory.get?_insert_self,
                Memory.insert_congr Memory.erase_insert_self]

section

variable {faulty : Prop} {v v' : Volume} {m : Memory} {q : Request} {o : Option q.Reply}

theorem ends_store {key : Key} {u : Upload} {o : Option (Except Fault Unit)} (h : v.Keeps m)
    (hkey : IsSound key) (hends : Ends faulty (Directory.store key u) v o v') :
    ∃ m', v'.Keeps m' ∧ (m' = (m.store key u).2 ∧ o = some (m.store key u).1 ∨
      faulty ∧ Partly m (.store key u) m') := by
  have hafter : Partly m (.store key u) (m.store key u).2 := .after
  rw [Memory.store] at hafter ⊢
  cases hu : checkSize u with
  | error e =>
      rw [Directory.store, hu] at hends
      obtain ⟨rfl, rfl⟩ := hends.of_pure
      exact ⟨m, h, Or.inl ⟨rfl, rfl⟩⟩
  | ok =>
      rw [hu] at hafter
      rcases makes_store h hkey hu o v' hends with
        ⟨hkeeps, rfl⟩ | ⟨hfaulty, _, hkeeps | hkeeps | hkeeps⟩
      · exact ⟨_, hkeeps, Or.inl ⟨rfl, rfl⟩⟩
      · exact ⟨m, hkeeps, Or.inr ⟨hfaulty, .before⟩⟩
      · exact ⟨_, hkeeps, Or.inr ⟨hfaulty, .refilled hu⟩⟩
      · exact ⟨_, hkeeps, Or.inr ⟨hfaulty, hafter⟩⟩

theorem ends_setStatus {key : Key} {s : Status} {o : Option (Except Fault Unit)} (h : v.Keeps m)
    (hkey : IsSound key) (hends : Ends faulty (Directory.setStatus key s) v o v') :
    ∃ m', v'.Keeps m' ∧ (m' = (m.setStatus key s).2 ∧ o = some (m.setStatus key s).1 ∨
      faulty ∧ Partly m (.setStatus key s) m') := by
  rw [Directory.setStatus, guarded_of_isSound hkey] at hends
  rcases of_readSidecar h hkey hends (fun e => rfl) with hwrite | ⟨hfaulty, rfl⟩
  swap
  · exact ⟨m, h, Or.inr ⟨hfaulty, .before⟩⟩
  have hafter : Partly m (.setStatus key s) (m.setStatus key s).2 := .after
  cases ha : m.get? key with
  | none =>
      rw [Memory.setStatus_of_none ha]
      rw [Memory.retrieve, ha] at hwrite
      obtain ⟨rfl, rfl⟩ := hwrite.of_pure
      exact ⟨m, h, Or.inl ⟨rfl, rfl⟩⟩
  | some a =>
      -- Only the sidecar is written again, and the content that it needs is there.
      let b : Artifact := { a with metadata := { a.metadata with status := s } }
      obtain ⟨f, hmaps, hf⟩ := h
      have hwritten : Makes faulty (Directory.writeSidecar key (sidecarOf b)) v _ _ :=
        makes_writeSidecar hmaps hf hkey (hf.directory_of_get? ha) (hf.content key a ha)
      rw [Memory.setStatus_of_get? ha] at hafter ⊢
      rw [Memory.retrieve, ha] at hwrite
      rcases hwritten o v' hwrite with ⟨hkeeps, rfl⟩ | ⟨hfaulty, _, hkeeps | hkeeps⟩
      · exact ⟨_, hkeeps, Or.inl ⟨rfl, rfl⟩⟩
      · exact ⟨m, hkeeps, Or.inr ⟨hfaulty, .before⟩⟩
      · exact ⟨_, hkeeps, Or.inr ⟨hfaulty, hafter⟩⟩

theorem ends_reads {α : Type} {w : Disk.Work α} {o : Option α} {a : α}
    (hends : Ends faulty w v o v') (hw : w.Always Disk.Op.IsRead) (hrun : w.run handle v = (a, v))
    (h : v.Keeps m) (hbefore : Partly m q m) :
    ∃ m', v'.Keeps m' ∧ (m' = m ∧ o = some a ∨ faulty ∧ Partly m q m') := by
  obtain rfl := hends.of_reads hw
  refine ⟨m, h, ?_⟩
  by_cases hfaulty : faulty
  · exact Or.inr ⟨hfaulty, hbefore⟩
  · exact Or.inl ⟨rfl, (hends.eq_run hfaulty).1.trans (by rw [hrun])⟩

/-- A request is answered as by the store in memory, or it has been cut short. -/
theorem ends_request (h : v.Keeps m) (hkey : IsSound q.key) (hends : Ends faulty q.work v o v') :
    ∃ m', v'.Keeps m' ∧
      (m' = (q.onMemory m).2 ∧ o = some (q.onMemory m).1 ∨ faulty ∧ Partly m q m') := by
  cases q with
  | store key u => exact ends_store h hkey hends
  | setStatus key s => exact ends_setStatus h hkey hends
  | delete key =>
      rcases makes_delete h hkey o v' hends with ⟨hkeeps, rfl⟩ | ⟨hfaulty, _, hkeeps | hkeeps⟩
      · exact ⟨_, hkeeps, Or.inl ⟨rfl, rfl⟩⟩
      · exact ⟨m, hkeeps, Or.inr ⟨hfaulty, .before⟩⟩
      · exact ⟨_, hkeeps, Or.inr ⟨hfaulty, .after⟩⟩
  | retrieve key =>
      obtain ⟨f, hmaps, hf⟩ := h
      have hrun := run_retrieve hmaps hf hkey
      exact ends_reads hends (always_retrieve trivial trivial) hrun ⟨f, hmaps, hf⟩ .before
  | status key =>
      obtain ⟨f, hmaps, hf⟩ := h
      have hrun := run_status hmaps hf hkey
      exact ends_reads hends (always_status trivial) hrun ⟨f, hmaps, hf⟩ .before

end

/-! ## What can be read -/

namespace Volume

def artifactAt (v : Volume) (key : Key) : Except Fault Artifact :=
  ((Directory.retrieve key).run handle v).1

def statusAt (v : Volume) (key : Key) : Except Fault Status :=
  ((Directory.status key).run handle v).1

variable {v : Volume} {m : Memory} {key : Key}

theorem Keeps.artifactAt (h : v.Keeps m) (hkey : IsSound key) :
    v.artifactAt key = m.retrieve key := by
  obtain ⟨f, hmaps, hf⟩ := h
  rw [Volume.artifactAt, run_retrieve hmaps hf hkey]

theorem Keeps.statusAt (h : v.Keeps m) (hkey : IsSound key) : v.statusAt key = m.status key := by
  obtain ⟨f, hmaps, hf⟩ := h
  rw [Volume.statusAt, run_status hmaps hf hkey]

end Volume

/-- Under a key there is a whole artifact or none. -/
structure Undivided (v : Volume) (key : Key) : Prop where
  /-- A sidecar can be read, and the content is there with it. -/
  files : ∀ n, v.node? (sidecarFile key) = some n → ∃ raw c content, n = .file raw ∧
    Sidecar.decode raw = .ok c ∧ v.node? (contentFile key) = some (.file content)
  status : v.statusAt key = (v.artifactAt key).map fun a => a.metadata.status

/-- What a request that is cut short may leave under its key, by what was there before. -/
def Request.Leaves : Request → Except Fault Artifact → Except Fault Artifact → Prop
  | .store key u, before, after => IsShort key.dataset → before = .error (.notFound key) →
    after = before ∨ after = .ok u.toArtifact
  | .delete key, before, after => after = before ∨ after = .error (.notFound key)
  | .setStatus _ s, before, after => after = before ∨
    ∃ a, before = .ok a ∧ after = .ok { a with metadata := { a.metadata with status := s } }
  | .retrieve _, before, after => after = before
  | .status _, before, after => after = before

/-- What a request has to have done on a volume when it has been cut short. -/
structure Survived (v : Volume) (q : Request) (v' : Volume) : Prop where
  leaves : q.Leaves (v.artifactAt q.key) (v'.artifactAt q.key)
  others : ∀ key, IsShort key.dataset → key ≠ q.key → v'.artifactAt key = v.artifactAt key
  /-- Made again, it leaves what it would have left at once. -/
  again : ∀ key, (q.onVolume v').2.artifactAt key = (q.onVolume v).2.artifactAt key ∧
    (q.onVolume v').2.statusAt key = (q.onVolume v).2.statusAt key

/-! ## Under keys that are not sound -/

section

variable {faulty : Prop} {v v' : Volume} {m : Memory} {q : Request} {o : Option q.Reply} {key : Key}
  {e : Fault}

theorem guarded_of_error {α : Type} {w : Disk.Work (Except Fault α)}
    (he : Directory.checkDataset key.dataset = .error e) :
    Directory.guarded key w = pure (.error e) := by
  rw [Directory.guarded, he]

theorem always_of_error {α : Type} {P : Disk.Op → Prop} {w : Disk.Work (Except Fault α)}
    (he : Directory.checkDataset key.dataset = .error e) :
    (Directory.guarded key w).Always P := by
  rw [guarded_of_error he]
  trivial

theorem artifactAt_of_error (he : Directory.checkDataset key.dataset = .error e) :
    v.artifactAt key = .error e := by
  rw [Volume.artifactAt, Directory.retrieve, guarded_of_error he]
  rfl

theorem statusAt_of_error (he : Directory.checkDataset key.dataset = .error e) :
    v.statusAt key = .error e := by
  rw [Volume.statusAt, Directory.status, guarded_of_error he]
  rfl

/-- For a name that cannot be a dataset's nothing is asked of the volume. -/
theorem work_of_error (he : Directory.checkDataset q.key.dataset = .error e) :
    q.work.Always fun _ => False := by
  cases q with
  | store key u =>
      change (Directory.store key u).Always _
      rw [Directory.store]
      cases checkSize u with
      | error => trivial
      | ok => exact always_of_error he
  | retrieve key | delete key | setStatus key | status key => exact always_of_error he

theorem keeps_of_not_isSound (h : v.Keeps m) (hkey : ¬ IsSound q.key)
    (hends : Ends faulty q.work v o v') : v'.Keeps m := by
  cases he : Directory.checkDataset q.key.dataset with
  | error e =>
      exact hends.preserves (R := (·.Keeps m)) (work_of_error he) (fun _ _ _ hop => hop.elim) h
  | ok =>
      obtain ⟨f, hmaps, hf⟩ := h
      rcases hends.of_not_isShort (under_work q) (fun hshort => hkey ⟨he, hshort⟩) with rfl | rfl
      · exact ⟨f, hmaps, hf⟩
      · exact ⟨f, hmaps.withRoot, hf⟩

/-- What is told of an artifact whose dataset has a name that is too long: the name is refused, but for
a root that is not there. -/
def overlong (key : Key) (hasRoot : Bool) : Fault :=
  if hasRoot then .device (.os .nameTooLong) else .notFound key

theorem run_readSidecar_of_not_isShort (hkey : ¬ IsShort key.dataset) (v : Volume) :
    (Directory.readSidecar key).run handle v = (.error (overlong key v.hasRoot), v) := by
  have hread :
      v.read (sidecarFile key) = .error (if v.hasRoot then .nameTooLong else .notFound) := by
    rw [Volume.read, Volume.resolve_of_not_isShort hkey rfl]
    rfl
  rw [Directory.readSidecar, readOf_eq, bind_assoc, run_step, handle, hread]
  cases v.hasRoot <;> rfl

/-- What can be read under such a name depends on nothing but the root. -/
theorem readable_of_not_isShort (hkey : ¬ IsShort key.dataset) : ∃ e : Bool → Fault,
    ∀ v : Volume, v.artifactAt key = .error (e v.hasRoot) ∧
      v.statusAt key = .error (e v.hasRoot) := by
  cases he : Directory.checkDataset key.dataset with
  | error e => exact ⟨fun _ => e, fun v => ⟨artifactAt_of_error he, statusAt_of_error he⟩⟩
  | ok =>
      have hread := run_readSidecar_of_not_isShort hkey
      refine ⟨overlong key, fun v => ⟨?_, ?_⟩⟩
      · rw [Volume.artifactAt, Directory.retrieve, Directory.guarded, he, Script.run_bind, hread]
        rfl
      · rw [Volume.statusAt, Directory.status, Directory.guarded, he, Script.run_bind, hread]
        rfl

/-- The first thing that a store does is to make its directory, and with it the root. -/
theorem hasRoot_store {u : Upload} (hu : checkSize u = .ok ())
    (he : Directory.checkDataset key.dataset = .ok ()) (v : Volume) :
    (Request.onVolume (.store key u) v).2.hasRoot = true := by
  change ((Directory.store key u).run handle v).2.hasRoot = true
  rw [Directory.store, hu]
  change ((Directory.guarded key _).run handle v).2.hasRoot = true
  rw [Directory.guarded, he, run_step]
  have hmade : (handle (.makeDirectories [key.dataset]) v).2.hasRoot = true :=
    Volume.hasRoot_makeBelow { v with hasRoot := true } [] [key.dataset]
  exact (Disk.ends_run False _ _).hasRoot hmade

/-- A request that is made again leaves the root as it leaves it at once. -/
theorem hasRoot_again (hends : Ends faulty q.work v o v') :
    (q.onVolume v').2.hasRoot = (q.onVolume v).2.hasRoot := by
  by_cases hq : ∀ key u, q ≠ .store key u
  · have hleaves := leavesRoot_work hq
    rw [q.onVolume_eq, q.onVolume_eq, (Disk.ends_run False q.work v').hasRoot_eq hleaves,
      (Disk.ends_run False q.work v).hasRoot_eq hleaves, hends.hasRoot_eq hleaves]
  · -- A store makes the root whatever it finds, or it does nothing and is not cut short either.
    obtain ⟨key, u, rfl⟩ : ∃ key u, q = .store key u := by simpa using hq
    cases hu : checkSize u with
    | error =>
        rw [Request.work, Directory.store, hu] at hends
        obtain ⟨-, rfl⟩ := hends.of_pure
        rfl
    | ok =>
        cases he : Directory.checkDataset key.dataset with
        | error =>
            obtain rfl : v' = v := hends.preserves (R := fun v' => v' = v) (work_of_error he)
              (fun _ _ _ hop => hop.elim) rfl
            rfl
        | ok => rw [hasRoot_store hu he, hasRoot_store hu he]

end

/-! ## Runs of requests, cut short or not -/

section

variable {faulty : Prop} {v v' : Volume} {m m' : Memory} {q : Request} {o : Option q.Reply}
  {key : Key}

theorem readable_congr (h : v.Keeps m) (h' : v'.Keeps m')
    (hroot : IsShort key.dataset ∨ v'.hasRoot = v.hasRoot) (hget : m'.get? key = m.get? key) :
    v'.artifactAt key = v.artifactAt key ∧ v'.statusAt key = v.statusAt key := by
  by_cases hshort : IsShort key.dataset
  · cases he : Directory.checkDataset key.dataset with
    | error e => simp only [artifactAt_of_error he, statusAt_of_error he, and_self]
    | ok =>
        have hretrieve : m'.retrieve key = m.retrieve key := by
          rw [Memory.retrieve, Memory.retrieve, hget]
        rw [h.artifactAt ⟨he, hshort⟩, h'.artifactAt ⟨he, hshort⟩, h.statusAt ⟨he, hshort⟩,
          h'.statusAt ⟨he, hshort⟩, Memory.status, Memory.status, hretrieve]
        exact ⟨rfl, rfl⟩
  · obtain ⟨e, hreadable⟩ := readable_of_not_isShort hshort
    simp only [hreadable, hroot.resolve_left hshort, and_self]

theorem Volume.Keeps.undivided (h : v.Keeps m) (key : Key) : Undivided v key where
  files n hn := by
    obtain ⟨f, hmaps, hf⟩ := h
    rw [hmaps.node? (by simp [sidecarFile]), hf.sidecar, Option.map_eq_some_iff] at hn
    obtain ⟨a, ha, rfl⟩ := hn
    refine ⟨_, sidecarOf a, a.content, rfl, Artifact.Sidecar.decode_encode _, ?_⟩
    rw [hmaps.node? (by simp [contentFile]), hf.content key a ha]
  status := by
    by_cases hshort : IsShort key.dataset
    · cases he : Directory.checkDataset key.dataset with
      | error e =>
          rw [artifactAt_of_error he, statusAt_of_error he]
          rfl
      | ok =>
          rw [h.artifactAt ⟨he, hshort⟩, h.statusAt ⟨he, hshort⟩]
          rfl
    · obtain ⟨e, hreadable⟩ := readable_of_not_isShort hshort
      rw [(hreadable v).1, (hreadable v).2]
      rfl

theorem Request.leaves_self (q : Request) (a : Except Fault Artifact) : q.Leaves a a := by
  cases q with
  | store => exact fun _ _ => Or.inl rfl
  | delete | setStatus => exact Or.inl rfl
  | retrieve | status => rfl

theorem Partly.leaves (h : Partly m q m') : q.Leaves (m.retrieve q.key) (m'.retrieve q.key) := by
  cases h with
  | before => exact q.leaves_self _
  | @refilled key u hu =>
      intro _ hbefore
      have hnone : m.get? key = none := by
        cases ha : m.get? key with
        | none => rfl
        | some a => simp only [Request.key, Memory.retrieve, ha, reduceCtorEq] at hbefore
      rw [Memory.refill, hnone]
      exact Or.inl rfl
  | after =>
      cases q with
      | retrieve | status => rfl
      | delete key =>
          exact Or.inr (by simp [Request.onMemory, Memory.delete, Memory.retrieve, Request.key])
      | store key u =>
          intro _ _
          simp only [Request.onMemory, Memory.store, Request.key]
          cases checkSize u with
          | error => exact Or.inl rfl
          | ok => exact Or.inr (by simp [Memory.retrieve])
      | setStatus key s =>
          cases ha : m.get? key with
          | none => exact Or.inl (by simp only [Request.onMemory, Memory.setStatus_of_none ha])
          | some a =>
              simp only [Request.onMemory, Request.key, Memory.setStatus_of_get? ha]
              exact Or.inr ⟨a, by simp [Memory.retrieve, ha], by simp [Memory.retrieve]⟩

theorem Partly.get?_of_ne (h : Partly m q m') (hne : key ≠ q.key) : m'.get? key = m.get? key := by
  cases h with
  | before => rfl
  | refilled => exact Memory.get?_refill_of_ne hne
  | after =>
      cases q with
      | retrieve | status => rfl
      | delete => exact Memory.get?_erase_of_ne hne
      | setStatus => exact Memory.get?_setStatus_of_ne hne
      | store key u =>
          simp only [Request.onMemory, Memory.store]
          cases checkSize u with
          | error => rfl
          | ok => exact Memory.get?_insert_of_ne hne

theorem Volume.Keeps.request (h : v.Keeps m) (hkey : IsSound q.key) :
    (q.onVolume v).2.Keeps (q.onMemory m).2 := by
  rw [q.onVolume_eq]
  obtain ⟨m', hkeeps, ⟨rfl, _⟩ | ⟨hfaulty, _⟩⟩ := ends_request h hkey (Disk.ends_run False q.work v)
  · exact hkeeps
  · exact hfaulty.elim

theorem Volume.Keeps.survived (h : v.Keeps m) (hends : Ends faulty q.work v o v') :
    (∃ m', v'.Keeps m') ∧ Survived v q v' := by
  by_cases hkey : IsSound q.key
  · obtain ⟨m', h', hcase⟩ := ends_request h hkey hends
    have hpartly : Partly m q m' := by
      rcases hcase with ⟨rfl, _⟩ | ⟨_, hpartly⟩
      · exact .after
      · exact hpartly
    have hagain := h'.request hkey
    rw [hpartly.again] at hagain
    refine ⟨⟨m', h'⟩, ?_, fun key hshort hne => ?_, fun key => ?_⟩
    · rw [h.artifactAt hkey, h'.artifactAt hkey]
      exact hpartly.leaves
    · exact (readable_congr h h' (Or.inl hshort) (hpartly.get?_of_ne hne)).1
    · exact readable_congr (h.request hkey) hagain (Or.inr (hasRoot_again hends)) rfl
  · -- Nothing can be done under the key, so the artifacts are the same all along.
    have hkept {v : Volume} (h : v.Keeps m) : (q.onVolume v).2.Keeps m := by
      rw [q.onVolume_eq]
      exact keeps_of_not_isSound h hkey (Disk.ends_run False q.work v)
    have h' := keeps_of_not_isSound h hkey hends
    refine ⟨⟨m, h'⟩, ?_, fun key hshort hne => ?_, fun key => ?_⟩
    · by_cases hq : ∀ key u, q ≠ .store key u
      · rw [(readable_congr h h' (Or.inr (hends.hasRoot_eq (leavesRoot_work hq))) rfl).1]
        exact q.leaves_self _
      · obtain ⟨key, u, rfl⟩ : ∃ key u, q = .store key u := by simpa using hq
        intro hshort _
        exact Or.inl (readable_congr h h' (Or.inl hshort) rfl).1
    · exact (readable_congr h h' (Or.inl hshort) rfl).1
    · exact readable_congr (hkept h) (hkept h') (Or.inr (hasRoot_again hends)) rfl

end

/-- A root on which only requests have been at work, one after another, each to its end or cut
short. -/
inductive Reached : Volume → Prop
  | new {hasRoot : Bool} : Reached ⟨hasRoot, []⟩
  | request {v v' : Volume} {q : Request} {o : Option q.Reply} (h : Reached v)
      (hends : Ends True q.work v o v') : Reached v'

theorem Reached.keeps {v : Volume} (h : Reached v) : ∃ m, v.Keeps m := by
  induction h with
  | @new hasRoot =>
      obtain ⟨f, hmaps, hf⟩ := mirrors_iff.mp (mirrors_empty hasRoot)
      exact ⟨.empty, f, hmaps, hf.orderly⟩
  | request _ hends ih =>
      obtain ⟨m, hkeeps⟩ := ih
      exact (hkeeps.survived hends).1

/-- However requests are cut short, each artifact is there as a whole or not at all, and one more
request may be cut short without harm. -/
theorem undivided_of_reached {v : Volume} (h : Reached v) :
    (∀ key, Undivided v key) ∧
      ∀ (q : Request) (o : Option q.Reply) (v' : Volume), Ends True q.work v o v' →
        Survived v q v' := by
  obtain ⟨m, hkeeps⟩ := h.keeps
  exact ⟨hkeeps.undivided, fun q o v' hends => (hkeeps.survived hends).2⟩

def someStore : Request := .store ⟨"a_1", .file⟩ ⟨⟨"image/tiff", [1, 2], ⟨none, .staged⟩⟩, 2⟩

/-- A store that has stopped after the first octet of the sidecar. -/
def tornStore : Volume :=
  ⟨true, [(["a_1", "file.json.part"], .file [123]), (["a_1", "file.bin"], .file [1, 2]),
    (["a_1"], .directory)]⟩

theorem undivided_tornStore :
    Reached tornStore ∧ Ends True someStore.work ⟨false, []⟩ none tornStore ∧
      (∀ key, Undivided tornStore key) ∧ Survived ⟨false, []⟩ someStore tornStore := by
  have hpart : [123] <+: (⟨"image/tiff", ⟨none, .staged⟩⟩ : Sidecar).encode := by
    rw [Artifact.Sidecar.encode_eq]
    exact ⟨_, rfl⟩
  have hends : Ends True someStore.work ⟨false, []⟩ none tornStore :=
    .answer (.answer (.answer (.stop trivial (.part hpart))))
  have hreached : Reached tornStore := .request .new hends
  exact ⟨hreached, hends, (undivided_of_reached hreached).1,
    (undivided_of_reached .new).2 someStore none tornStore hends⟩

end Intake.Store
