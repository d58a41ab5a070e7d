import Intake.Proofs.Store.Tree

/-!
# Statuses that are set again and again

To set the status of an artifact its sidecar is read and written back with the new status. What was written
is what is read, so everything else in the sidecar stays, however often this is done and whatever the texts
in it are.
-/

namespace Intake.Store

open Artifact (Key Sidecar Status)
open Directory (contentFile sidecarFile temporary)
open Disk (Does Goes)
open Volume (handle)

variable {v v' : Volume} {key : Key} {a : Artifact} {c : Sidecar} {s : Status} {p : Path} {raw : Bytes}
  {d name : String} {changed : List Path} {xs : List Disk.Exchange}

/-! ## What an artifact is made of -/

theorem orMissing_eq_ok_iff {α : Type} {e : Fault} {reply : Except DeviceFault α} {x : α} :
    orMissing (.error e) reply = .ok x ↔ reply = .ok x := by
  constructor
  · intro h
    rcases reply with (e | _) | _
    · cases e <;> cases h
    · cases h
    · cases h
      rfl
  · rintro rfl
    rfl

namespace Volume

theorem fileAt_eq_ok_iff : v.fileAt key p = .ok raw ↔ v.read p = .ok raw := by
  rw [fileAt, orMissing_eq_ok_iff, mapError_eq_ok_iff]

theorem sidecarAt_eq_ok_iff :
    v.sidecarAt key = .ok c ↔ ∃ raw, v.read (sidecarFile key) = .ok raw ∧ Sidecar.decode raw = .ok c := by
  constructor
  · intro h
    obtain ⟨raw, hraw, h⟩ := exists_of_bind_eq_ok h
    exact ⟨raw, fileAt_eq_ok_iff.mp hraw, mapError_eq_ok_iff.mp h⟩
  · rintro ⟨raw, hraw, hc⟩
    rw [sidecarAt, fileAt_eq_ok_iff.mpr hraw]
    exact mapError_eq_ok_iff.mpr hc

/-- An artifact is there if its name is valid and both its files can be read. -/
theorem artifactAt_eq_ok_iff : v.artifactAt key = .ok a ↔ Directory.checkDataset key.dataset = .ok () ∧
    v.sidecarAt key = .ok ⟨a.mediaType, a.metadata⟩ ∧ v.fileAt key (contentFile key) = .ok a.content := by
  rw [artifactAt_eq]
  constructor
  · intro h
    obtain ⟨⟨⟩, hkey, h⟩ := exists_of_bind_eq_ok h
    obtain ⟨c, hc, h⟩ := exists_of_bind_eq_ok h
    obtain ⟨content, hcontent, h⟩ := exists_of_bind_eq_ok h
    cases h
    exact ⟨hkey, hc, hcontent⟩
  · rintro ⟨hkey, hc, hcontent⟩
    rw [hkey, hc, hcontent]
    rfl

end Volume

/-! ## Sidecars written and read -/

theorem does_read {r : Except DeviceFault Bytes} (h : Does (.read p) v r v') :
    v' = v ∧ ∀ raw, r = .ok raw → v.read p = .ok raw := by
  rcases h with h | ⟨e, rfl, h⟩
  · obtain ⟨rfl, rfl⟩ := Prod.mk.inj h
    exact ⟨rfl, fun raw hraw => mapError_eq_ok_iff.mp hraw⟩
  · cases h with
    | nothing => exact ⟨rfl, nofun⟩

theorem goes_readSidecar {r : Except Fault Sidecar} (h : Goes (Directory.readSidecar key) v xs r v') :
    v' = v ∧ ∀ c, r = .ok c → v.sidecarAt key = .ok c := by
  obtain ⟨ys, file, v₁, zs, rfl, hfile, hrest⟩ := h.of_bind
  rw [readOf_eq] at hfile
  obtain ⟨reply, v₂, ws, rfl, hreply, hdone⟩ := hfile.of_run
  obtain ⟨rfl, hread⟩ := does_read hreply
  obtain ⟨rfl, rfl, rfl⟩ := hdone.of_pure
  cases hmissing : orMissing (.error (.notFound key)) reply with
  | error e =>
      rw [hmissing] at hrest
      obtain ⟨-, rfl, rfl⟩ := Goes.of_pure hrest
      exact ⟨rfl, nofun⟩
  | ok raw =>
      rw [hmissing] at hrest
      obtain ⟨-, rfl, rfl⟩ := Goes.of_pure hrest
      refine ⟨rfl, fun c hc => Volume.sidecarAt_eq_ok_iff.mpr ⟨raw, ?_, mapError_eq_ok_iff.mp hc⟩⟩
      exact hread raw (orMissing_eq_ok_iff.mp hmissing)

/-- The sidecar has been put in its place, or its place is untouched. -/
theorem goes_writeSidecar {r : Except Fault Unit} (h : Goes (Directory.writeSidecar key c) v xs r v') :
    (r = .ok () ∧ v.SameBut [temporary (sidecarFile key), sidecarFile key] v' ∧
      v'.node? (sidecarFile key) = some (.file c.encode)) ∨
    (∃ e, r = .error e) ∧ v.SameBut [temporary (sidecarFile key)] v' := by
  obtain ⟨hpart, -⟩ := apart_of_temporary (.inr (Eq.refl (sidecarFile key)))
  rcases goes_writeWhole h hpart with ⟨hr, hsame, hnode, -⟩ | ⟨hr, hsame, -⟩
  · exact Or.inl ⟨hr, hsame, hnode⟩
  · exact Or.inr ⟨hr, hsame⟩

theorem sidecarAt_of_node (hd : v.HasDirectory key.dataset)
    (hnode : v.node? (sidecarFile key) = some (.file c.encode)) : v.sidecarAt key = .ok c := by
  have hread := hd.read_eq (isShort_names key.kind).2.2.1 hnode
  exact Volume.sidecarAt_eq_ok_iff.mpr ⟨c.encode, hread, Sidecar.decode_encode c⟩

theorem apart_of_sidecar (key : Key) :
    [key.dataset] ∉ [temporary (sidecarFile key), sidecarFile key] ∧
      contentFile key ∉ [temporary (sidecarFile key), sidecarFile key] := by
  obtain ⟨d, kind⟩ := key
  cases kind <;> simp [contentFile, sidecarFile, temporary, Artifact.Kind.name]

/-- A file can be written only in a directory. -/
theorem hasDirectory_of_writeWhole {content : Bytes}
    (h : Goes (Directory.writeWhole [d, name] content) v xs (.ok ()) v') : v.HasDirectory d := by
  obtain ⟨written, v₁, ys, rfl, hwrite, hrest⟩ := h.of_run
  cases written with
  | error e =>
      obtain ⟨-, hr, -⟩ := Goes.of_pure hrest
      cases hr
  | ok =>
      rcases hwrite with hwrite | ⟨e, he, -⟩
      · cases hvolume : v.write (temporary [d, name]) content with
        | error e =>
            rw [handle, hvolume] at hwrite
            cases hwrite
        | ok v₂ =>
            obtain ⟨o, ho, -⟩ := exists_of_bind_eq_ok hvolume
            exact Volume.hasDirectory_of_resolve ho
      · cases he

/-- A sidecar that could be written is there as it was written. -/
theorem sidecarAt_of_writeSidecar (h : Goes (Directory.writeSidecar key c) v xs (.ok ()) v') :
    v'.sidecarAt key = .ok c := by
  have hd : v.HasDirectory key.dataset := hasDirectory_of_writeWhole h
  rcases goes_writeSidecar h with ⟨-, hsame, hnode⟩ | ⟨⟨e, he⟩, -⟩
  · exact sidecarAt_of_node (hsame.hasDirectory hd (apart_of_sidecar key).1) hnode
  · cases he

/-! ## One status after another -/

/-- The artifact with another status. -/
def withStatus (a : Artifact) (s : Status) : Artifact :=
  { a with metadata := { a.metadata with status := s } }

/-- The status is set and nothing else, or nothing is changed. -/
theorem goes_setStatus {r : Except Fault Unit} (h : Goes (Directory.setStatus key s) v xs r v')
    (ha : v.artifactAt key = .ok a) :
    v.SameBut [temporary (sidecarFile key), sidecarFile key] v' ∧
    (r = .ok () ∧ v'.artifactAt key = .ok (withStatus a s) ∨
      (∃ e, r = .error e) ∧ v'.artifactAt key = .ok a) := by
  obtain ⟨hkey, hsidecar, hcontent⟩ := Volume.artifactAt_eq_ok_iff.mp ha
  obtain ⟨hdir, hcontentFile⟩ := apart_of_sidecar key
  obtain ⟨-, hdir', hcontentFile', hsidecarFile'⟩ := apart_of_temporary (.inr (Eq.refl (sidecarFile key)))
  rw [Directory.setStatus, Directory.guarded, hkey] at h
  obtain ⟨ys, read, v₁, zs, rfl, hread, h⟩ := Goes.of_bind h
  obtain ⟨rfl, hc⟩ := goes_readSidecar hread
  cases read with
  | error e =>
      obtain ⟨-, rfl, rfl⟩ := Goes.of_pure h
      exact ⟨.refl v', Or.inr ⟨⟨e, rfl⟩, ha⟩⟩
  | ok c =>
      have hc := hc c rfl
      rw [hsidecar] at hc
      cases hc
      -- The content could be read, so the directory that the sidecar goes to is there.
      have hd := Volume.hasDirectory_of_read (Volume.fileAt_eq_ok_iff.mp hcontent)
      rcases goes_writeSidecar h with ⟨rfl, hsame, hnode⟩ | ⟨⟨e, rfl⟩, hsame⟩
      · refine ⟨hsame, Or.inl ⟨rfl, Volume.artifactAt_eq_ok_iff.mpr ⟨hkey, ?_, ?_⟩⟩⟩
        · exact sidecarAt_of_node (hsame.hasDirectory hd hdir) hnode
        · exact (hsame.fileAt_eq hdir hcontentFile).trans hcontent
      · refine ⟨hsame.mono (by simp), Or.inr ⟨⟨e, rfl⟩, ?_⟩⟩
        exact (Volume.artifactAt_congr (hsame.sidecarAt_eq hdir' hsidecarFile')
          (hsame.fileAt_eq hdir' hcontentFile')).trans ha

/-- The status is set to these in turn, with these results; any primitive may fail on the way. -/
inductive Retags (key : Key) : List (Status × Except Fault Unit) → Volume → Volume → Prop
  | nil {v : Volume} : Retags key [] v v
  | cons {s : Status} {r : Except Fault Unit} {ss : List (Status × Except Fault Unit)}
      {xs : List Disk.Exchange} {v v₁ v' : Volume} (h : Goes (Directory.setStatus key s) v xs r v₁)
      (rest : Retags key ss v₁ v') : Retags key ((s, r) :: ss) v v'

/-- The last status that could be set, or `old` if none could. -/
def lastSet (old : Status) : List (Status × Except Fault Unit) → Status
  | [] => old
  | (s, .ok ()) :: ss => lastSet s ss
  | (_, .error _) :: ss => lastSet old ss

theorem Retags.artifactAt_eq {ss : List (Status × Except Fault Unit)} (h : Retags key ss v v')
    (ha : v.artifactAt key = .ok a) :
    v.SameBut [temporary (sidecarFile key), sidecarFile key] v' ∧
      v'.artifactAt key = .ok (withStatus a (lastSet a.metadata.status ss)) := by
  induction h generalizing a with
  | nil => exact ⟨.refl _, ha⟩
  | cons h _ ih =>
      obtain ⟨hsame, ⟨rfl, ha₁⟩ | ⟨⟨e, rfl⟩, ha₁⟩⟩ := goes_setStatus h ha
      · obtain ⟨hrest, ha'⟩ := ih ha₁
        exact ⟨(hsame.trans hrest).mono (by simp), ha'⟩
      · obtain ⟨hrest, ha'⟩ := ih ha₁
        exact ⟨(hsame.trans hrest).mono (by simp), ha'⟩

/-! ## Without failures -/

namespace Volume

theorem node?_of_read (h : v.read p = .ok raw) : v.node? p = some (.file raw) := by
  obtain ⟨o, ho, h⟩ := exists_of_bind_eq_ok h
  rw [resolve_eq_ok ho]
  rcases o with _ | _ | _
  · cases h
  · cases h
    rfl
  · cases h

theorem HasDirectory.resolve_eq_node? (hd : v.HasDirectory d) (hname : IsShort name) :
    v.resolve [d, name] = .ok (v.node? [d, name]) := by
  rw [hd.resolve_eq, Maps.checkName_of_isShort hname]
  rfl

theorem HasDirectory.write_eq (hd : v.HasDirectory d) (hname : IsShort name)
    (hfree : v.node? [d, name] ≠ some .directory) (content : Bytes) :
    v.write [d, name] content = .ok (v.put [d, name] (.file content)) := by
  rw [write, hd.resolve_eq_node? hname]
  rcases hnode : v.node? [d, name] with _ | _ | _
  · rfl
  · rfl
  · exact absurd hnode hfree

theorem HasDirectory.rename_eq (hd : v.HasDirectory d) {source : String} (hsource : IsShort source)
    (hname : IsShort name) (hnode : v.node? [d, source] = some (.file raw))
    (hfree : v.node? [d, name] ≠ some .directory) :
    v.rename [d, source] [d, name] = .ok ((v.erase [d, source]).put [d, name] (.file raw)) := by
  rw [rename, hd.resolve_eq_node? hsource, hnode]
  change v.resolve [d, name] >>= _ = _
  rw [hd.resolve_eq_node? hname]
  rcases htarget : v.node? [d, name] with _ | _ | _
  · rfl
  · rfl
  · exact absurd htarget hfree

end Volume

/-- A file is replaced as long as no directory has its temporary name. -/
theorem run_replace (hread : v.read [d, name] = .ok raw) (hname : IsShort name)
    (hpart : IsShort (name ++ ".part")) (hne : [d, name ++ ".part"] ≠ [d, name])
    (hfree : v.node? [d, name ++ ".part"] ≠ some .directory) (content : Bytes) :
    ∃ v', (Directory.writeWhole [d, name] content).run handle v = (.ok (), v') ∧
      v'.node? [d, name ++ ".part"] ≠ some .directory := by
  have hd := Volume.hasDirectory_of_read hread
  have hwrite := hd.write_eq hpart hfree content
  have hd' : (v.put [d, name ++ ".part"] (.file content)).HasDirectory d :=
    Volume.SameBut.put.hasDirectory hd (by simp)
  have hnode : (v.put [d, name ++ ".part"] (.file content)).node? [d, name] = some (.file raw) :=
    (Volume.node?_put_of_ne hne.symm).trans (Volume.node?_of_read hread)
  have hrename := hd'.rename_eq hpart hname (Volume.node?_put_self (by simp)) (by simp [hnode])
  refine ⟨((v.put [d, name ++ ".part"] (.file content)).erase [d, name ++ ".part"]).put [d, name]
    (.file content), ?_, ?_⟩
  · have htemporary : temporary [d, name] = [d, name ++ ".part"] := rfl
    have hwritten : handle (.write [d, name ++ ".part"] content) v =
        (.ok (), v.put [d, name ++ ".part"] (.file content)) := by
      rw [handle, hwrite]
      rfl
    rw [Directory.writeWhole, htemporary, run_step, hwritten]
    change Script.run handle (Disk.run (.rename [d, name ++ ".part"] [d, name]) >>= _) _ = _
    rw [run_step, handle, hrename]
    rfl
  · rw [Volume.node?_put_of_ne hne, Volume.node?_erase_self (by simp)]
    simp

theorem setStatus_of_free (ha : v.artifactAt key = .ok a)
    (hfree : v.node? (temporary (sidecarFile key)) ≠ some .directory) (s : Status) :
    ∃ v', (Directory.setStatus key s).run handle v = (.ok (), v') ∧
      v'.node? (temporary (sidecarFile key)) ≠ some .directory := by
  obtain ⟨hkey, hsidecar, -⟩ := Volume.artifactAt_eq_ok_iff.mp ha
  obtain ⟨raw, hread, -⟩ := Volume.sidecarAt_eq_ok_iff.mp hsidecar
  obtain ⟨-, -, hname, hpart⟩ := isShort_names key.kind
  obtain ⟨hne, -⟩ := apart_of_temporary (.inr (Eq.refl (sidecarFile key)))
  obtain ⟨v', hrun, hfree'⟩ := run_replace hread hname hpart hne hfree
    (Sidecar.encode ⟨a.mediaType, { a.metadata with status := s }⟩)
  refine ⟨v', ?_, hfree'⟩
  rw [Directory.setStatus, Directory.guarded, hkey]
  simp only
  rw [Script.run_bind, Volume.run_readSidecar_eq, hsidecar]
  exact hrun

/-- All that a store without failures is asked for is done. -/
theorem inTurn_setStatus (ha : v.artifactAt key = .ok a)
    (hfree : v.node? (temporary (sidecarFile key)) ≠ some .directory) (ss : List Status) :
    ∃ v', Request.inTurn Request.onVolume (ss.map (.setStatus key)) v =
        (ss.map fun s => ⟨.setStatus key s, .ok ()⟩, v') ∧
      Retags key (ss.map (·, .ok ())) v v' := by
  induction ss generalizing v a with
  | nil => exact ⟨v, rfl, .nil⟩
  | cons s ss ih =>
      obtain ⟨v₁, hrun, hfree₁⟩ := setStatus_of_free ha hfree s
      obtain ⟨xs, hgoes⟩ := Disk.goes_run (Directory.setStatus key s) v
      rw [hrun] at hgoes
      obtain ⟨-, ⟨-, ha₁⟩ | ⟨⟨e, he⟩, -⟩⟩ := goes_setStatus hgoes ha
      · obtain ⟨v', hrest, hretags⟩ := ih ha₁ hfree₁
        refine ⟨v', ?_, .cons hgoes hretags⟩
        have hfirst : (Request.setStatus key s).onVolume v = (.ok (), v₁) := hrun
        rw [List.map_cons, Request.inTurn, hfirst, hrest]
        rfl
      · cases he

theorem lastSet_map (old : Status) (ss : List Status) :
    lastSet old (ss.map (·, .ok ())) = ss.getLast?.getD old := by
  induction ss generalizing old with
  | nil => rfl
  | cons s ss ih =>
      rw [List.map_cons, lastSet, ih, List.getLast?_cons]
      rfl

theorem apart_of_other {other : Key} (h : other ≠ key) :
    [other.dataset] ∉ [temporary (sidecarFile key), sidecarFile key] ∧
      contentFile other ∉ [temporary (sidecarFile key), sidecarFile key] ∧
      sidecarFile other ∉ [temporary (sidecarFile key), sidecarFile key] := by
  obtain ⟨d, kind⟩ := key
  obtain ⟨d', kind'⟩ := other
  cases kind <;> cases kind' <;>
    simp_all [contentFile, sidecarFile, temporary, Artifact.Kind.name]

/-- The artifact `a` is under the key, and all other artifacts are as they were. -/
structure HasOnly (key : Key) (a : Artifact) (v v' : Volume) : Prop where
  artifact : v'.artifactAt key = .ok a
  others : ∀ other, other ≠ key → v'.artifactAt other = v.artifactAt other

theorem Retags.hasOnly {ss : List (Status × Except Fault Unit)} (h : Retags key ss v v')
    (ha : v.artifactAt key = .ok a) :
    HasOnly key (withStatus a (lastSet a.metadata.status ss)) v v' := by
  obtain ⟨hsame, ha'⟩ := h.artifactAt_eq ha
  refine ⟨ha', fun other hother => ?_⟩
  obtain ⟨hdir, hcontent, hsidecar⟩ := apart_of_other hother
  exact Volume.artifactAt_congr (hsame.sidecarAt_eq hdir hsidecar) (hsame.fileAt_eq hdir hcontent)

/-- A sidecar is read back as it was written. So whatever statuses an artifact is given in turn, it has the
last one in the end and is the same in all else, as are all other artifacts; and without failures it can be
given any. -/
theorem only_status_changes (key : Key) :
    (∀ c : Sidecar, Sidecar.decode c.encode = .ok c) ∧
    (∀ c v xs v', Goes (Directory.writeSidecar key c) v xs (.ok ()) v' → v'.sidecarAt key = .ok c) ∧
    ∀ (v : Volume) (a : Artifact), v.artifactAt key = .ok a →
      (∀ ss v', Retags key ss v v' → HasOnly key (withStatus a (lastSet a.metadata.status ss)) v v') ∧
      (v.node? (temporary (sidecarFile key)) ≠ some .directory → ∀ ss : List Status, ∃ v',
        Request.inTurn Request.onVolume (ss.map (.setStatus key)) v =
          (ss.map fun s => ⟨.setStatus key s, .ok ()⟩, v') ∧
        HasOnly key (withStatus a (ss.getLast?.getD a.metadata.status)) v v') := by
  refine ⟨Sidecar.decode_encode, fun c v xs v' => sidecarAt_of_writeSidecar, fun v a ha => ?_⟩
  refine ⟨fun ss v' h => h.hasOnly ha, fun hfree ss => ?_⟩
  obtain ⟨v', hrun, h⟩ := inTurn_setStatus ha hfree ss
  rw [← lastSet_map]
  exact ⟨v', hrun, h.hasOnly ha⟩

/-- The file of one dataset, whose name holds a quote and a line feed. -/
def oneFile : Artifact := ⟨"image/tiff", [1, 2], ⟨some "a\"\n.tiff", .staged⟩⟩

/-- A volume with nothing but the files of `oneFile`. -/
def oneFileVolume : Volume :=
  let key : Key := ⟨"a", .file⟩
  ⟨true, [(["a"], .directory), (contentFile key, .file oneFile.content),
    (sidecarFile key, .file (Sidecar.encode ⟨oneFile.mediaType, oneFile.metadata⟩))]⟩

theorem artifactAt_oneFileVolume : oneFileVolume.artifactAt ⟨"a", .file⟩ = .ok oneFile := by
  have hd : oneFileVolume.HasDirectory "a" := ⟨rfl, by decide, rfl⟩
  refine Volume.artifactAt_eq_ok_iff.mpr ⟨rfl, sidecarAt_of_node hd rfl, ?_⟩
  exact Volume.fileAt_eq_ok_iff.mpr (hd.read_eq (by decide) rfl)

/-- A file whose name holds a quote and a line feed is quarantined and approved. -/
theorem only_status_changes_oneFile :
    ∃ v', oneFileVolume.artifactAt ⟨"a", .file⟩ = .ok oneFile ∧
      oneFileVolume.node? (temporary (sidecarFile ⟨"a", .file⟩)) ≠ some .directory ∧
      Retags ⟨"a", .file⟩ [(.quarantined, .ok ()), (.stored, .ok ())] oneFileVolume v' ∧
      Request.inTurn Request.onVolume
        [.setStatus ⟨"a", .file⟩ .quarantined, .setStatus ⟨"a", .file⟩ .stored] oneFileVolume =
          ([⟨.setStatus ⟨"a", .file⟩ .quarantined, .ok ()⟩,
            ⟨.setStatus ⟨"a", .file⟩ .stored, .ok ()⟩], v') ∧
      HasOnly ⟨"a", .file⟩ (withStatus oneFile .stored) oneFileVolume v' := by
  have ha := artifactAt_oneFileVolume
  have hfree : oneFileVolume.node? (temporary (sidecarFile ⟨"a", .file⟩)) ≠ some .directory := by
    decide
  obtain ⟨v', hrun, hretags⟩ := inTurn_setStatus ha hfree [.quarantined, .stored]
  have honly := ((only_status_changes ⟨"a", .file⟩).2.2 _ _ ha).1 _ v' hretags
  exact ⟨v', ha, hfree, hretags, hrun, honly⟩

end Intake.Store
