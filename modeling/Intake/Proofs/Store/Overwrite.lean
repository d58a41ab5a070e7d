import Intake.Proofs.Except
import Intake.Proofs.Store.Whole

/-!
# Storing over an artifact that is there

The content of an artifact and its sidecar are moved into place one after the other. A store that fails
before the first of the two moves leaves the artifact as it was; one that fails after it leaves the new
content under the old sidecar. The status is that of the old artifact in any case.
-/

namespace Intake.Store

open Artifact (Key Sidecar Upload)
open Directory (contentFile sidecarFile temporary)
open Volume (handle)

/-! ## Primitives that may fail -/

namespace Disk

structure Exchange where
  op : Op
  reply : op.Reply

/-- What a primitive may have done when it fails: of directories those at the top, of a file its start. -/
inductive Balks : Op → Volume → Volume → Prop
  | nothing {op : Op} {v : Volume} : Balks op v v
  | directories {p q : Path} {v : Volume} (h : q <+: p) :
      Balks (.makeDirectories p) v (v.makeDirectories q).2
  | part {p : Path} {content part : Bytes} {v : Volume} (h : part <+: content) :
      Balks (.write p content) v (handle (.write p part) v).2

/-- A primitive is answered as the volume has it, or it fails for a reason of its own. -/
def Does (op : Op) (v : Volume) (r : op.Reply) (v' : Volume) : Prop :=
  (r, v') = handle op v ∨ ∃ e, r = op.fail e ∧ Balks op v v'

/-- Work that begins on the volume `v` may come to the result `a` on `v'`, with these primitives on the
way. -/
inductive Goes {α : Type} : Work α → Volume → List Exchange → α → Volume → Prop
  | done {a v} : Goes (.done a) v [] a v
  | ask {op next v r v₁ xs a v'} (does : Does op v r v₁) (rest : Goes (next r) v₁ xs a v') :
      Goes (.ask op next) v (⟨op, r⟩ :: xs) a v'

namespace Goes

variable {α β : Type} {v v' : Volume} {xs : List Exchange} {a : α}

theorem of_pure {b : α} (h : Goes (pure b) v xs a v') : xs = [] ∧ a = b ∧ v' = v := by
  cases h
  exact ⟨rfl, rfl, rfl⟩

theorem of_run {op : Op} {next : op.Reply → Work α} (h : Goes (run op >>= next) v xs a v') :
    ∃ r v₁ ys, xs = ⟨op, r⟩ :: ys ∧ Does op v r v₁ ∧ Goes (next r) v₁ ys a v' := by
  cases h with
  | ask does rest => exact ⟨_, _, _, rfl, does, rest⟩

theorem of_bind {w : Work α} {next : α → Work β} {b : β} (h : Goes (w >>= next) v xs b v') :
    ∃ ys a v₁ zs, xs = ys ++ zs ∧ Goes w v ys a v₁ ∧ Goes (next a) v₁ zs b v' := by
  induction w generalizing v xs with
  | done a => exact ⟨[], a, v, xs, rfl, .done, h⟩
  | ask op f ih =>
      cases h with
      | ask does rest =>
          obtain ⟨ys, a, v₁, zs, rfl, hw, hnext⟩ := ih _ rest
          exact ⟨_ :: ys, a, v₁, zs, rfl, .ask does hw, hnext⟩

end Goes

/-- Work that is answered as the volume has it. -/
theorem goes_run {α : Type} (w : Work α) (v : Volume) :
    ∃ xs, Goes w v xs (w.run handle v).1 (w.run handle v).2 := by
  induction w generalizing v with
  | done a => exact ⟨[], .done⟩
  | ask op next ih =>
      obtain ⟨xs, hxs⟩ := ih (handle op v).1 (handle op v).2
      exact ⟨_ :: xs, .ask (Or.inl rfl) hxs⟩

end Disk

open Disk (Does Goes)

/-! ## What is on a volume after a primitive -/

namespace Volume

/-- Both volumes have the same at all paths but those in `changed`. -/
structure SameBut (changed : List Path) (v v' : Volume) : Prop where
  root : v'.hasRoot = v.hasRoot
  node : ∀ p, p ∉ changed → v'.node? p = v.node? p

/-- A directory below the root, in which files can be reached. -/
structure HasDirectory (v : Volume) (d : String) : Prop where
  root : v.hasRoot = true
  short : IsShort d
  node : v.node? [d] = some .directory

variable {v v' v'' : Volume} {p q : Path} {n : Node} {c : Bytes} {d name : String}
  {changed changed' : List Path}

theorem node?_erase_of_ne (h : q ≠ p) : (v.erase p).node? q = v.node? q := by
  cases q with
  | nil => rfl
  | cons => exact lookup_filter_of_ne v.nodes h

theorem node?_put_of_ne (h : q ≠ p) : (v.put p n).node? q = v.node? q := by
  cases q with
  | nil => rfl
  | cons =>
      rw [← node?_erase_of_ne (v := v) h]
      simp only [put, node?, List.lookup_cons, beq_eq_false_iff_ne.mpr h]

theorem node?_put_self (h : p ≠ []) : (v.put p n).node? p = some n := by
  cases p with
  | nil => exact absurd rfl h
  | cons => simp [put, node?]

namespace SameBut

theorem refl (v : Volume) : v.SameBut changed v := ⟨rfl, fun _ _ => rfl⟩

theorem trans (h : v.SameBut changed v') (h' : v'.SameBut changed' v'') :
    v.SameBut (changed ++ changed') v'' where
  root := h'.root.trans h.root
  node q hq := by
    rw [h'.node q fun hq' => hq (List.mem_append_right _ hq'),
      h.node q fun hq' => hq (List.mem_append_left _ hq')]

theorem mono (h : v.SameBut changed v') (hsub : ∀ p ∈ changed, p ∈ changed') :
    v.SameBut changed' v' :=
  ⟨h.root, fun q hq => h.node q fun hq' => hq (hsub q hq')⟩

theorem put : v.SameBut [p] (v.put p n) :=
  ⟨rfl, fun _ hq => node?_put_of_ne (List.ne_of_not_mem_cons hq)⟩

theorem moved : v.SameBut [p, q] ((v.erase p).put q n) where
  root := rfl
  node r hr := by
    simp only [List.mem_cons, List.not_mem_nil, or_false, not_or] at hr
    rw [node?_put_of_ne hr.2, node?_erase_of_ne hr.1]

theorem hasDirectory (h : v.SameBut changed v') (hd : v.HasDirectory d) (hchanged : [d] ∉ changed) :
    v'.HasDirectory d :=
  ⟨h.root.trans hd.root, hd.short, (h.node _ hchanged).trans hd.node⟩

end SameBut

theorem resolve_eq_ok {o : Option Node} (h : v.resolve p = .ok o) : v.node? p = o := by
  rw [resolve] at h
  split at h
  · cases hfollow : v.follow [] p with
    | error e => simp [hfollow, Except.map] at h
    | ok => simpa [hfollow, Except.map] using h
  · cases h

theorem HasDirectory.resolve_eq (h : v.HasDirectory d) (name : String) :
    v.resolve [d, name] = (checkName name).map fun () => v.node? [d, name] := by
  rw [resolve, if_pos h.root]
  simp only [follow, Maps.checkName_of_isShort h.short, List.nil_append, h.node]
  rfl

/-- What can be followed lies in a directory. -/
theorem hasDirectory_of_resolve {o : Option Node} (h : v.resolve [d, name] = .ok o) : v.HasDirectory d := by
  rw [resolve] at h
  split at h
  · rename_i hroot
    simp only [follow, checkName, List.nil_append] at h
    split at h
    · cases h
    · rename_i hshort
      refine ⟨hroot, Nat.le_of_not_lt hshort, ?_⟩
      cases hnode : v.node? [d] with
      | none =>
          rw [hnode] at h
          cases h
      | some n =>
          cases n with
          | directory => rfl
          | file =>
              rw [hnode] at h
              cases h
  · cases h

theorem hasDirectory_of_read (h : v.read [d, name] = .ok c) : v.HasDirectory d := by
  obtain ⟨o, ho, -⟩ := exists_of_bind_eq_ok h
  exact hasDirectory_of_resolve ho

theorem SameBut.read_eq (h : v.SameBut changed v') (hdir : [d] ∉ changed)
    (hfile : [d, name] ∉ changed) : v'.read [d, name] = v.read [d, name] := by
  have hresolve : v'.resolve [d, name] = v.resolve [d, name] := by
    simp only [resolve, follow, List.nil_append, h.root, h.node _ hdir, h.node _ hfile]
  rw [read, read, hresolve]

theorem HasDirectory.read_eq (h : v.HasDirectory d) (hname : IsShort name)
    (hnode : v.node? [d, name] = some (.file c)) : v.read [d, name] = .ok c := by
  rw [read, h.resolve_eq, Maps.checkName_of_isShort hname, hnode]
  rfl

theorem write_eq_ok (h : v.write p c = .ok v') : v' = v.put p (.file c) := by
  obtain ⟨there, -, h⟩ := exists_of_bind_eq_ok h
  match there with
  | some .directory => cases h
  | none | some (.file _) =>
      cases h
      rfl

theorem rename_eq_ok (h : v.rename p q = .ok v') :
    ∃ c, v.node? p = some (.file c) ∧ v' = (v.erase p).put q (.file c) := by
  obtain ⟨source, hsource, h⟩ := exists_of_bind_eq_ok h
  match source with
  | none | some .directory => cases h
  | some (.file c) =>
      obtain ⟨target, -, h⟩ := exists_of_bind_eq_ok h
      refine ⟨c, resolve_eq_ok hsource, ?_⟩
      match target with
      | some .directory => cases h
      | none | some (.file _) =>
          cases h
          rfl

end Volume

/-! ## The primitives of a store -/

section

variable {v v' : Volume} {p q : Path} {c : Bytes} {d : String} {r : Except DeviceFault Unit}

theorem does_makeDirectories (h : Does (.makeDirectories [d]) v r v') (hd : v.HasDirectory d) :
    v' = v := by
  have hmade : v.makeDirectories [d] = (.ok (), v) := by
    simp only [Volume.makeDirectories, Volume.makeBelow, ← hd.root]
    rw [Volume.Maps.checkName_of_isShort hd.short, List.nil_append, hd.node]
  rcases h with h | ⟨e, -, h⟩
  · rw [handle, hmade] at h
    exact congrArg Prod.snd h
  · cases h with
    | nothing => rfl
    | @directories p q _ hq =>
        rcases List.prefix_cons_iff.mp hq with rfl | ⟨t, rfl, ht⟩
        · simp only [Volume.makeDirectories, Volume.makeBelow, ← hd.root]
        · rw [List.prefix_nil.mp ht, hmade]

theorem handle_write_cases (p : Path) (c : Bytes) (v : Volume) :
    handle (.write p c) v = (.ok (), v.put p (.file c)) ∨ ∃ e, handle (.write p c) v = (.error e, v) := by
  cases hwrite : v.write p c with
  | error e => exact Or.inr ⟨.os e, by rw [handle, hwrite]; rfl⟩
  | ok v₁ =>
      rw [handle, hwrite, Volume.write_eq_ok hwrite]
      exact Or.inl rfl

theorem does_write (h : Does (.write p c) v r v') :
    r = .ok () ∧ v' = v.put p (.file c) ∨ (∃ e, r = .error e) ∧ v.SameBut [p] v' := by
  rcases h with h | ⟨e, rfl, h⟩
  · rcases handle_write_cases p c v with hwrite | ⟨e, hwrite⟩
    · exact Or.inl (Prod.mk.inj (h.trans hwrite))
    · obtain ⟨rfl, rfl⟩ := Prod.mk.inj (h.trans hwrite)
      exact Or.inr ⟨⟨e, rfl⟩, .refl v'⟩
  · refine Or.inr ⟨⟨e, rfl⟩, ?_⟩
    cases h with
    | nothing => exact .refl v
    | @part p c part _ hpart =>
        rcases handle_write_cases p part v with hwrite | ⟨e, hwrite⟩
        · rw [hwrite]
          exact .put
        · rw [hwrite]
          exact .refl v

theorem does_rename (h : Does (.rename p q) v r v') :
    (r = .ok () ∧ ∃ c, v.node? p = some (.file c) ∧ v' = (v.erase p).put q (.file c)) ∨
      (∃ e, r = .error e) ∧ v' = v := by
  rcases h with h | ⟨e, rfl, h⟩
  · cases hrename : v.rename p q with
    | error e =>
        rw [handle, hrename] at h
        obtain ⟨rfl, rfl⟩ := Prod.mk.inj h
        exact Or.inr ⟨⟨_, rfl⟩, rfl⟩
    | ok v₁ =>
        rw [handle, hrename] at h
        obtain ⟨rfl, rfl⟩ := Prod.mk.inj h
        exact Or.inl ⟨rfl, Volume.rename_eq_ok hrename⟩
  · cases h with
    | nothing => exact Or.inr ⟨⟨e, rfl⟩, rfl⟩

end

/-! ## Writing a file as a whole -/

/-- The file was not moved into place: it could not be written under its temporary name, or not moved. -/
def FailsToReplace (p : Path) (c : Bytes) (xs : List Disk.Exchange) : Prop :=
  ∃ e, xs = [⟨.write (temporary p) c, .error e⟩] ∨
    xs = [⟨.write (temporary p) c, .ok ()⟩, ⟨.rename (temporary p) p, .error e⟩]

section

variable {v v' : Volume} {p : Path} {c : Bytes} {xs : List Disk.Exchange} {r : Except Fault Unit}

theorem goes_writeWhole (h : Goes (Directory.writeWhole p c) v xs r v') (hp : temporary p ≠ p) :
    (r = .ok () ∧ v.SameBut [temporary p, p] v' ∧ v'.node? p = some (.file c) ∧
      xs = [⟨.write (temporary p) c, .ok ()⟩, ⟨.rename (temporary p) p, .ok ()⟩]) ∨
    (∃ e, r = .error e) ∧ v.SameBut [temporary p] v' ∧ FailsToReplace p c xs := by
  have hne : temporary p ≠ [] ∧ p ≠ [] := by
    match p with
    | [] => exact absurd rfl hp
    | [_] | _ :: _ :: _ => simp [temporary]
  obtain ⟨written, v₁, ys, rfl, hwrite, h⟩ := h.of_run
  rcases does_write hwrite with ⟨rfl, rfl⟩ | ⟨⟨e, rfl⟩, hsame⟩
  · obtain ⟨renamed, v₂, zs, rfl, hrename, h⟩ := Goes.of_run h
    obtain ⟨rfl, rfl, rfl⟩ := h.of_pure
    rcases does_rename hrename with ⟨rfl, c', hc, rfl⟩ | ⟨⟨e, rfl⟩, rfl⟩
    · rw [Volume.node?_put_self hne.1] at hc
      obtain ⟨⟩ := hc
      refine Or.inl ⟨rfl, ?_, Volume.node?_put_self hne.2, rfl⟩
      exact (Volume.SameBut.put.trans .moved).mono (by simp)
    · exact Or.inr ⟨⟨_, rfl⟩, .put, e, Or.inr rfl⟩
  · obtain ⟨rfl, rfl, rfl⟩ := Goes.of_pure h
    exact Or.inr ⟨⟨_, rfl⟩, hsame, e, Or.inl rfl⟩

end

/-! ## What can be read of an artifact -/

namespace Volume

def fileAt (v : Volume) (key : Key) (p : Path) : Except Fault Bytes :=
  orMissing (.error (.notFound key)) ((v.read p).mapError .os)

def sidecarAt (v : Volume) (key : Key) : Except Fault Sidecar := do
  (Sidecar.decode (← v.fileAt key (sidecarFile key))).mapError .sidecar

variable {v : Volume} {key : Key}

theorem run_readOf_eq (p : Path) :
    (Directory.readOf key p).run handle v = (v.fileAt key p, v) := by
  rw [readOf_eq]
  rfl

theorem run_readSidecar_eq : (Directory.readSidecar key).run handle v = (v.sidecarAt key, v) := by
  rw [Directory.readSidecar, Script.run_bind, run_readOf_eq, sidecarAt]
  cases v.fileAt key (sidecarFile key) <;> rfl

theorem statusAt_eq : v.statusAt key = do
    Directory.checkDataset key.dataset
    return (← v.sidecarAt key).metadata.status := by
  rw [statusAt, Directory.status, Directory.guarded]
  cases Directory.checkDataset key.dataset with
  | error => rfl
  | ok =>
      simp only
      rw [Script.run_bind, run_readSidecar_eq]
      cases v.sidecarAt key <;> rfl

theorem artifactAt_eq : v.artifactAt key = do
    Directory.checkDataset key.dataset
    let c ← v.sidecarAt key
    let content ← v.fileAt key (contentFile key)
    return ⟨c.mediaType, content, c.metadata⟩ := by
  rw [artifactAt, Directory.retrieve, Directory.guarded]
  cases Directory.checkDataset key.dataset with
  | error => rfl
  | ok =>
      simp only
      rw [Script.run_bind, run_readSidecar_eq]
      cases v.sidecarAt key with
      | error => rfl
      | ok c =>
          simp only
          rw [Script.run_bind, run_readOf_eq]
          cases v.fileAt key (contentFile key) <;> rfl

end Volume

theorem apart_of_content (key : Key) :
    [key.dataset] ∉ [temporary (contentFile key), contentFile key] ∧
      sidecarFile key ∉ [temporary (contentFile key), contentFile key] := by
  obtain ⟨d, kind⟩ := key
  cases kind <;> simp [contentFile, sidecarFile, temporary, Artifact.Kind.name]

theorem apart_of_temporary {key : Key} {p : Path} (hp : p = contentFile key ∨ p = sidecarFile key) :
    temporary p ≠ p ∧ [key.dataset] ∉ [temporary p] ∧ contentFile key ∉ [temporary p] ∧
      sidecarFile key ∉ [temporary p] := by
  obtain ⟨d, kind⟩ := key
  rcases hp with rfl | rfl <;>
    cases kind <;> simp [contentFile, sidecarFile, temporary, Artifact.Kind.name]

/-! ## A store that fails -/

/-- The content of an artifact has been moved into place. -/
def contentMoved (key : Key) : Disk.Exchange :=
  ⟨.rename (temporary (contentFile key)) (contentFile key), .ok ()⟩

section

variable {v v' : Volume} {key : Key} {u : Upload} {xs : List Disk.Exchange} {e : Fault} {raw c : Bytes}
  {changed : List Path}

theorem FailsToReplace.not_contentMoved (h : FailsToReplace (contentFile key) c xs) :
    contentMoved key ∉ xs := by
  obtain ⟨e, rfl | rfl⟩ := h <;> simp [contentMoved]

namespace Volume

theorem SameBut.fileAt_eq (h : v.SameBut changed v') (hdir : [key.dataset] ∉ changed) {name : String}
    (hfile : [key.dataset, name] ∉ changed) :
    v'.fileAt key [key.dataset, name] = v.fileAt key [key.dataset, name] := by
  rw [fileAt, fileAt, h.read_eq hdir hfile]

theorem SameBut.sidecarAt_eq (h : v.SameBut changed v') (hdir : [key.dataset] ∉ changed)
    (hfile : sidecarFile key ∉ changed) : v'.sidecarAt key = v.sidecarAt key := by
  have hsame : v'.fileAt key (sidecarFile key) = v.fileAt key (sidecarFile key) :=
    h.fileAt_eq hdir hfile
  rw [sidecarAt, sidecarAt, hsame]

theorem statusAt_congr (h : v'.sidecarAt key = v.sidecarAt key) :
    v'.statusAt key = v.statusAt key := by
  rw [statusAt_eq, statusAt_eq, h]

theorem artifactAt_congr (h : v'.sidecarAt key = v.sidecarAt key)
    (hcontent : v'.fileAt key (contentFile key) = v.fileAt key (contentFile key)) :
    v'.artifactAt key = v.artifactAt key := by
  rw [artifactAt_eq, artifactAt_eq, h, hcontent]

theorem artifactAt_of_content (hkey : Directory.checkDataset key.dataset = .ok ())
    (hcontent : v.fileAt key (contentFile key) = .ok c) :
    v.artifactAt key = (v.sidecarAt key).map fun s => ⟨s.mediaType, c, s.metadata⟩ := by
  rw [artifactAt_eq, hkey, hcontent]
  cases v.sidecarAt key <;> rfl

end Volume

/-- What a store under `key` that has failed leaves there. -/
inductive Remnant (key : Key) (u : Upload) (v v' : Volume) (xs : List Disk.Exchange) : Prop
  | old (calls : contentMoved key ∉ xs) (artifact : v'.artifactAt key = v.artifactAt key)
  | refilled {before after : List Disk.Exchange} (calls : xs = before ++ contentMoved key :: after)
      (sidecar : FailsToReplace (sidecarFile key) (Sidecar.encode ⟨u.mediaType, u.metadata⟩) after)
      (artifact : v'.artifactAt key =
        (v.sidecarAt key).map fun s => ⟨s.mediaType, u.content, s.metadata⟩)

theorem Remnant.cons {x : Disk.Exchange} (hx : x ≠ contentMoved key) (h : Remnant key u v v' xs) :
    Remnant key u v v' (x :: xs) := by
  cases h with
  | old calls artifact => exact .old (List.not_mem_cons_of_ne_of_not_mem hx.symm calls) artifact
  | refilled calls sidecar artifact =>
      exact .refilled (by rw [calls, List.cons_append]) sidecar artifact

/-- The content and the sidecar are written in turn. -/
theorem goes_replace (hside : v.read (sidecarFile key) = .ok raw)
    (hkey : Directory.checkDataset key.dataset = .ok ())
    (h : Goes (do
      match ← Directory.writeWhole (contentFile key) u.content with
      | .error e => return .error e
      | .ok () => Directory.writeSidecar key ⟨u.mediaType, u.metadata⟩ :
        Disk.Work (Except Fault Unit)) v xs (.error e) v') :
    v'.statusAt key = v.statusAt key ∧ Remnant key u v v' xs := by
  obtain ⟨hpart, hpartDir, hpartContent, hpartSide⟩ := apart_of_temporary (.inl (Eq.refl (contentFile key)))
  obtain ⟨hpart', hpartDir', hpartContent', hpartSide'⟩ :=
    apart_of_temporary (.inr (Eq.refl (sidecarFile key)))
  obtain ⟨hcontentDir, hcontentSide⟩ := apart_of_content key
  obtain ⟨ys, content, v₁, zs, rfl, hcontent, hrest⟩ := h.of_bind
  rcases goes_writeWhole hcontent hpart with
    ⟨rfl, hsame, hnode, rfl⟩ | ⟨⟨e', rfl⟩, hsame, hfails⟩
  · -- The sidecar is the old one still, so its directory can be read from.
    have hside₁ : v₁.read (sidecarFile key) = .ok raw :=
      (hsame.read_eq hcontentDir hcontentSide).trans hside
    have hdir₁ := Volume.hasDirectory_of_read hside₁
    rcases goes_writeWhole hrest hpart' with ⟨hok, _⟩ | ⟨_, hsame', hfails⟩
    · cases hok
    · have hsidecar : v'.sidecarAt key = v.sidecarAt key :=
        (hsame'.sidecarAt_eq hpartDir' hpartSide').trans
          (hsame.sidecarAt_eq hcontentDir hcontentSide)
      have hread : v'.read (contentFile key) = .ok u.content :=
        (hsame'.hasDirectory hdir₁ hpartDir').read_eq (isShort_names key.kind).1
          ((hsame'.node _ hpartContent').trans hnode)
      have hfile : v'.fileAt key (contentFile key) = .ok u.content := by
        rw [Volume.fileAt, hread]
        rfl
      refine ⟨Volume.statusAt_congr hsidecar,
        .cons (by simp [contentMoved]) (.refilled (List.nil_append _).symm hfails ?_)⟩
      rw [Volume.artifactAt_of_content hkey hfile, hsidecar]
  · obtain ⟨rfl, -, rfl⟩ := Goes.of_pure hrest
    have hsidecar := hsame.sidecarAt_eq hpartDir hpartSide
    refine ⟨Volume.statusAt_congr hsidecar, .old ?_ (Volume.artifactAt_congr hsidecar ?_)⟩
    · rw [List.append_nil]
      exact hfails.not_contentMoved
    · exact hsame.fileAt_eq hpartDir hpartContent

/-- A store that fails leaves the status as it was. It leaves the artifact as it was unless the new
content has been moved into place: then writing the sidecar has failed, and the old sidecar stands with
the new content. -/
theorem failed_store_leaves (hside : v.read (sidecarFile key) = .ok raw)
    (h : Goes (Directory.store key u) v xs (.error e) v') :
    v'.statusAt key = v.statusAt key ∧ Remnant key u v v' xs := by
  rw [Directory.store] at h
  cases hu : checkSize u with
  | error e' =>
      rw [hu] at h
      obtain ⟨rfl, -, rfl⟩ := h.of_pure
      exact ⟨rfl, .old List.not_mem_nil rfl⟩
  | ok =>
      rw [hu] at h
      change Goes (Directory.guarded key _) v xs (.error e) v' at h
      cases hkey : Directory.checkDataset key.dataset with
      | error e' =>
          rw [guarded_of_error hkey] at h
          obtain ⟨rfl, -, rfl⟩ := h.of_pure
          exact ⟨rfl, .old List.not_mem_nil rfl⟩
      | ok =>
          rw [Directory.guarded, hkey] at h
          obtain ⟨made, v₁, ys, rfl, hmade, hrest⟩ := Goes.of_run h
          obtain rfl := does_makeDirectories hmade (Volume.hasDirectory_of_read hside)
          cases made with
          | error e' =>
              obtain ⟨rfl, -, rfl⟩ := Goes.of_pure hrest
              exact ⟨rfl, .old (by simp [contentMoved]) rfl⟩
          | ok =>
              obtain ⟨hstatus, hremnant⟩ := goes_replace hside hkey hrest
              exact ⟨hstatus, hremnant.cons (by simp [contentMoved])⟩

end

/-! ## A directory in the way of the sidecar -/

def oldSidecar : Sidecar := ⟨"text/old", ⟨none, .staged⟩⟩

/-- A file with this content, where a directory has the temporary name of the sidecar. -/
def obstructed (c : Bytes) : Volume :=
  ⟨true, [(["a", "file.bin"], .file c), (["a", "file.json"], .file oldSidecar.encode),
    (["a", "file.json.part"], .directory), (["a"], .directory)]⟩

def newUpload : Upload := ⟨⟨"text/new", [2], ⟨none, .stored⟩⟩, 1⟩

theorem goes_obstructed : ∃ xs, Goes (Directory.store ⟨"a", .file⟩ newUpload) (obstructed [1]) xs
    (.error (.device (.os .isDirectory))) (obstructed [2]) :=
  Disk.goes_run (Directory.store ⟨"a", .file⟩ newUpload) (obstructed [1])

theorem artifactAt_obstructed (c : Bytes) : (obstructed c).artifactAt ⟨"a", .file⟩ =
    .ok ⟨"text/old", c, ⟨none, .staged⟩⟩ := by
  have hside : (obstructed c).sidecarAt ⟨"a", .file⟩ = .ok oldSidecar := by
    change (Sidecar.decode oldSidecar.encode).mapError Fault.sidecar = .ok oldSidecar
    rw [Artifact.Sidecar.decode_encode]
    rfl
  have hcontent : (obstructed c).fileAt ⟨"a", .file⟩ (contentFile ⟨"a", .file⟩) = .ok c := rfl
  rw [Volume.artifactAt_of_content rfl hcontent, hside]
  rfl

theorem failed_store_leaves_obstructed : ∃ xs,
    (obstructed [1]).read (sidecarFile ⟨"a", .file⟩) = .ok oldSidecar.encode ∧
    Goes (Directory.store ⟨"a", .file⟩ newUpload) (obstructed [1]) xs
      (.error (.device (.os .isDirectory))) (obstructed [2]) ∧
    (obstructed [2]).statusAt ⟨"a", .file⟩ = (obstructed [1]).statusAt ⟨"a", .file⟩ ∧
    Remnant ⟨"a", .file⟩ newUpload (obstructed [1]) (obstructed [2]) xs := by
  obtain ⟨xs, h⟩ := goes_obstructed
  exact ⟨xs, rfl, h, failed_store_leaves rfl h⟩

/-- A store that fails may leave the new content under the old sidecar. -/
theorem refilled_obstructed :
    (obstructed [1]).artifactAt ⟨"a", .file⟩ = .ok ⟨"text/old", [1], ⟨none, .staged⟩⟩ ∧
    (∃ xs, Goes (Directory.store ⟨"a", .file⟩ newUpload) (obstructed [1]) xs
      (.error (.device (.os .isDirectory))) (obstructed [2])) ∧
    (obstructed [2]).artifactAt ⟨"a", .file⟩ ≠ (obstructed [1]).artifactAt ⟨"a", .file⟩ := by
  refine ⟨artifactAt_obstructed [1], goes_obstructed, ?_⟩
  rw [artifactAt_obstructed, artifactAt_obstructed]
  simp

end Intake.Store
