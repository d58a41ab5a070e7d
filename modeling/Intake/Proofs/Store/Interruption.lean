import Intake.Proofs.Store.Cut
import Intake.Proofs.Store.Directory

/-!
# Requests that are cut short

What the steps of a request leave on a volume, whether they succeed or are cut short, and from that
what a request on a sound key makes of the artifacts.
-/

namespace Intake.Store

open Artifact (Key Kind Sidecar Status Upload)
open Directory (contentFile sidecarFile)
open Disk (Ends Makes run)
open Function (update)
open Volume (handle)

/-! ## Files that may be missing -/

/-- The reply to a primitive, with `r` in place of that a file is missing. -/
def orMissing {α : Type} (r : Except Fault α) : Except DeviceFault α → Except Fault α
  | .error (.os .notFound) => r
  | reply => Directory.device reply

theorem orMissing_error {α : Type} {r : Except Fault α} {e : DeviceFault} (he : e ≠ .os .notFound) :
    orMissing r (.error e) = .error (.device e) := by
  rcases e with e | text
  · cases e <;> first | rfl | exact absurd rfl he
  · rfl

theorem readOf_eq (key : Key) (p : Path) : Directory.readOf key p =
    run (.read p) >>= fun reply => pure (orMissing (.error (.notFound key)) reply) := by
  refine congrArg (run (.read p) >>= ·) (funext fun reply => ?_)
  rcases reply with (e | _) | _
  · cases e <;> rfl
  · rfl
  · rfl

theorem removePresent_eq (p : Path) : Directory.removePresent p =
    run (.removeFile p) >>= fun reply => pure (orMissing (.ok ()) reply) := by
  refine congrArg (run (.removeFile p) >>= ·) (funext fun reply => ?_)
  rcases reply with (e | _) | _
  · cases e <;> rfl
  · rfl
  · rfl

/-! ## What the steps ask for -/

section

variable {key : Key} {P : Disk.Op → Prop}

theorem always_guarded {α : Type} {w : Disk.Work (Except Fault α)} (hw : w.Always P) :
    (Directory.guarded key w).Always P := by
  rw [Directory.guarded]
  cases Directory.checkDataset key.dataset with
  | error => trivial
  | ok => exact hw

theorem always_run {α : Type} {op : Disk.Op} {next : op.Reply → Disk.Work α} (hop : P op)
    (hnext : ∀ reply, (next reply).Always P) : (run op >>= next).Always P :=
  Script.Always.bind ⟨hop, fun _ => trivial⟩ hnext

theorem always_readOf {p : Path} (hp : P (.read p)) : (Directory.readOf key p).Always P := by
  rw [readOf_eq]
  exact always_run hp fun _ => trivial

theorem always_readSidecar (hp : P (.read (sidecarFile key))) :
    (Directory.readSidecar key).Always P :=
  (always_readOf hp).bind fun raw => by cases raw <;> trivial

theorem always_status (hp : P (.read (sidecarFile key))) : (Directory.status key).Always P :=
  always_guarded ((always_readSidecar hp).bind fun _ => trivial)

theorem always_retrieve (hside : P (.read (sidecarFile key)))
    (hcontent : P (.read (contentFile key))) : (Directory.retrieve key).Always P := by
  refine always_guarded ((always_readSidecar hside).bind fun c => ?_)
  cases c with
  | error => trivial
  | ok => exact (always_readOf hcontent).bind fun content => by cases content <;> trivial

theorem always_removePresent {p : Path} (hp : P (.removeFile p)) :
    (Directory.removePresent p).Always P := by
  rw [removePresent_eq]
  exact always_run hp fun _ => trivial

theorem always_writeWhole {p : Path} {c : Bytes} (hwrite : P (.write (Directory.temporary p) c))
    (hrename : P (.rename (Directory.temporary p) p)) : (Directory.writeWhole p c).Always P := by
  refine always_run hwrite fun reply => ?_
  cases reply with
  | error => trivial
  | ok => exact always_run hrename fun _ => trivial

theorem always_delete (hside : P (.removeFile (sidecarFile key)))
    (hcontent : P (.removeFile (contentFile key)))
    (hdir : P (.removeDirectory (Directory.directory key))) : (Directory.delete key).Always P := by
  refine always_guarded ((always_removePresent hside).bind fun side => ?_)
  cases side with
  | error => trivial
  | ok =>
      refine Script.Always.bind (always_removePresent hcontent) fun content => ?_
      cases content with
      | error => trivial
      | ok => exact always_run hdir fun _ => trivial

theorem always_setStatus {s : Status} (hread : P (.read (sidecarFile key)))
    (hwrite : ∀ c, P (.write (Directory.temporary (sidecarFile key)) c))
    (hrename : P (.rename (Directory.temporary (sidecarFile key)) (sidecarFile key))) :
    (Directory.setStatus key s).Always P := by
  refine always_guarded ((always_readSidecar hread).bind fun c => ?_)
  cases c with
  | error => trivial
  | ok => exact always_writeWhole (hwrite _) hrename

end

/-! ## The steps of a request -/

section

variable {faulty : Prop} {v : Volume} {f : Path → Option Node} {d name : String} {c : Bytes}

theorem makes_makeDirectories (h : v.Maps f) (hf : Shelves f) (hd : IsShort d) :
    Makes faulty (run (.makeDirectories [d])) v (·.Maps (update f [d] (some .directory)))
      fun v' => v'.Maps f ∨ v'.Maps (update f [d] (some .directory)) := by
  obtain ⟨v₁, hmake, hmaps⟩ := h.handle_makeDirectories hd (hf.top d)
  have hafter : (handle (.makeDirectories [d]) v).2.Maps (update f [d] (some .directory)) := by
    rw [hmake]
    exact hmaps
  refine .of_run (.makeDirectories [d]) (g := id) rfl (congrArg Prod.fst hmake)
    (fun e _ he => by cases he) hafter fun v' htorn => ?_
  cases htorn with
  | nothing => exact Or.inl h
  | whole => exact Or.inr hafter
  | directories hq =>
      rcases List.prefix_cons_iff.mp hq with rfl | ⟨t, rfl, ht⟩
      · exact Or.inl h.withRoot
      · rw [List.prefix_nil.mp ht]
        exact Or.inr hafter

theorem makes_write (h : v.Maps f) (hd : IsShort d) (hname : IsShort name)
    (hdir : f [d] = some .directory) (hfile : f [d, name] ≠ some .directory) :
    Makes faulty (run (.write [d, name] c)) v (·.Maps (update f [d, name] (some (.file c))))
      fun v' => ∃ n, n ≠ some .directory ∧ v'.Maps (update f [d, name] n) := by
  have hwritten (c : Bytes) : (handle (.write [d, name] c) v).1 = .ok () ∧
      (handle (.write [d, name] c) v).2.Maps (update f [d, name] (some (.file c))) := by
    obtain ⟨v₁, hwrite, hmaps⟩ := h.handle_write hd hname hdir hfile c
    rw [hwrite]
    exact ⟨rfl, hmaps⟩
  refine .of_run (.write [d, name] c) (g := id) rfl (hwritten c).1 (fun e _ he => by cases he)
    (hwritten c).2 fun v' htorn => ?_
  cases htorn with
  | nothing => exact ⟨f [d, name], hfile, by rwa [Function.update_eq_self]⟩
  | whole => exact ⟨_, by simp, (hwritten c).2⟩
  | part => exact ⟨_, by simp, (hwritten _).2⟩

theorem makes_rename {target : String} (h : v.Maps f) (hd : IsShort d) (hname : IsShort name)
    (htarget : IsShort target) (hdir : f [d] = some .directory)
    (hsource : f [d, name] = some (.file c)) (hfile : f [d, target] ≠ some .directory) :
    Makes faulty (run (.rename [d, name] [d, target])) v
      (·.Maps (update (update f [d, name] none) [d, target] (some (.file c)))) fun v' =>
        v'.Maps f ∨ v'.Maps (update (update f [d, name] none) [d, target] (some (.file c))) := by
  obtain ⟨v₁, hrename, hmaps⟩ := h.handle_rename hd hname htarget hdir hsource hfile
  have hafter : (handle (.rename [d, name] [d, target]) v).2.Maps
      (update (update f [d, name] none) [d, target] (some (.file c))) := by
    rw [hrename]
    exact hmaps
  refine .of_run (.rename [d, name] [d, target]) (g := id) rfl (congrArg Prod.fst hrename)
    (fun e _ he => by cases he) hafter fun v' htorn => ?_
  cases htorn with
  | nothing => exact Or.inl h
  | whole => exact Or.inr hafter

/-- A file is written whole or not at all; what else is left is under its temporary name. -/
theorem makes_writeWhole (h : v.Maps f) (hf : Shelves f) (hd : IsShort d) (hname : IsShort name)
    (hpart : IsShort (name ++ ".part")) (hdir : f [d] = some .directory) :
    Makes faulty (Directory.writeWhole [d, name] c) v
      (·.Maps (update (update f [d, name ++ ".part"] none) [d, name] (some (.file c))))
      fun v' => ∃ n, n ≠ some .directory ∧ (v'.Maps (update f [d, name ++ ".part"] n) ∨
        v'.Maps (update (update f [d, name ++ ".part"] n) [d, name] (some (.file c)))) := by
  have hne : name ≠ name ++ ".part" := fun he => by
    simpa using congrArg String.length he
  have htemporary : Directory.temporary [d, name] = [d, name ++ ".part"] := rfl
  rw [Directory.writeWhole, htemporary]
  refine (makes_write h hd hpart hdir (hf.ne_directory _ _)).bind (fun e => ⟨_, rfl⟩)
    (fun v' hleft => ?_) fun v₁ hmaps => ?_
  · obtain ⟨n, hn, hmaps⟩ := hleft
    exact ⟨n, hn, Or.inl hmaps⟩
  have hrename : Makes faulty _ v₁ _ _ := makes_rename (c := c) hmaps hd hpart hname
    (by simpa using hdir) (by simp) (by simpa [hne] using hf.ne_directory d name)
  rw [Function.update_idem] at hrename
  refine hrename.bind (fun e => ⟨_, rfl⟩) (fun v' hleft => ?_) fun v₂ hmaps => .of_pure hmaps
  rcases hleft with hleft | hleft
  · exact ⟨_, by simp, Or.inl hleft⟩
  · exact ⟨none, by simp, Or.inr hleft⟩

theorem makes_removePresent (h : v.Maps f) (hf : Shelves f) (hd : IsShort d)
    (hname : IsShort name) :
    Makes faulty (Directory.removePresent [d, name]) v (·.Maps (update f [d, name] none))
      fun v' => v'.Maps f ∨ v'.Maps (update f [d, name] none) := by
  obtain ⟨reply, v₁, hremove, hreply, hmaps⟩ :=
    h.handle_removeFile hd hname (hf.below d name) (hf.ne_directory d name)
  have hafter : (handle (.removeFile [d, name]) v).2.Maps (update f [d, name] none) := by
    rw [hremove]
    exact hmaps
  refine .of_run _ (removePresent_eq _) ?_ (fun e he hok => ?_) hafter fun v' htorn => ?_
  · rw [hremove]
    rcases hreply with rfl | rfl <;> rfl
  · cases (orMissing_error he).symm.trans hok
  · cases htorn with
    | nothing => exact Or.inl h
    | whole => exact Or.inr hafter

end

/-! ## Requests on sound keys -/

/-- On a volume are the artifacts in `m`, and perhaps files that do not count. -/
def Volume.Keeps (v : Volume) (m : Memory) : Prop := ∃ f, v.Maps f ∧ Orderly f m

section

variable {faulty : Prop} {v : Volume} {f : Path → Option Node} {m : Memory} {key : Key}
  {c : Bytes} {a : Artifact}

/-- A directory goes only when nothing is in it, and then does not count. -/
theorem ends_removeDirectory {v' : Volume} {o : Option (Except DeviceFault Unit)} (h : v.Keeps m)
    (hkey : IsSound key) (hends : Ends faulty (run (.removeDirectory [key.dataset])) v o v') :
    v'.Keeps m := by
  obtain ⟨f, hmaps, hf⟩ := h
  have hwhole : (handle (.removeDirectory [key.dataset]) v).2.Keeps m := by
    obtain ⟨hkept, hgone⟩ := hmaps.handle_removeDirectory hkey.2 (hf.top key.dataset)
    by_cases hleft : ∃ name n, f [key.dataset, name] = some n
    · exact ⟨f, hkept hleft, hf⟩
    · have hnone : ∀ name, f [key.dataset, name] = none := fun name =>
        Option.eq_none_iff_forall_ne_some.mpr fun n hn => hleft ⟨name, n, hn⟩
      exact ⟨_, hgone hnone, hf.remove_directory hnone⟩
  rcases hends.of_run with ⟨-, rfl⟩ | ⟨-, htorn, -⟩
  · exact hwhole
  · cases htorn with
    | nothing => exact ⟨f, hmaps, hf⟩
    | whole => exact hwhole

theorem makes_writeFile {m' : Memory} {name : String} (h : v.Maps f) (hf : Shelves f)
    (hkey : IsSound key) (hname : IsShort name) (hpart : IsShort (name ++ ".part"))
    (hdir : f [key.dataset] = some .directory)
    (hbefore : ∀ n, n ≠ some .directory →
      Orderly (update f [key.dataset, name ++ ".part"] n) m)
    (hafter : ∀ n, n ≠ some .directory → Orderly (update (update f [key.dataset, name ++ ".part"] n)
      [key.dataset, name] (some (.file c))) m') :
    Makes faulty (Directory.writeWhole [key.dataset, name] c) v
      (fun v' => ∃ f', v'.Maps f' ∧ Orderly f' m' ∧ f' [key.dataset] = some .directory ∧
        f' [key.dataset, name] = some (.file c))
      fun v' => v'.Keeps m ∨ v'.Keeps m' := by
  refine (makes_writeWhole h hf hkey.2 hname hpart hdir).mono (fun v' hmaps => ?_)
    fun v' hleft => ?_
  · exact ⟨_, hmaps, hafter none (by simp), by simpa using hdir, by simp⟩
  · obtain ⟨n, hn, hmaps⟩ := hleft
    exact hmaps.imp (fun hmaps => ⟨_, hmaps, hbefore n hn⟩) fun hmaps => ⟨_, hmaps, hafter n hn⟩

/-- The content is put in place, and with it in the artifact, if there is one. -/
theorem makes_writeContent (h : v.Maps f) (hf : Orderly f m) (hkey : IsSound key)
    (hdir : f [key.dataset] = some .directory) :
    Makes faulty (Directory.writeWhole (contentFile key) c) v
      (fun v' => ∃ f', v'.Maps f' ∧ Orderly f' (m.refill key c) ∧
        f' [key.dataset] = some .directory ∧ f' (contentFile key) = some (.file c))
      fun v' => v'.Keeps m ∨ v'.Keeps (m.refill key c) := by
  obtain ⟨hbin, hbinPart, _, _⟩ := isShort_names key.kind
  have hbefore (n : Option Node) (hn : n ≠ some .directory) :=
    hf.put_temporary hdir hn fun kind => (part_ne key.kind kind).1
  exact makes_writeFile h hf.toShelves hkey hbin hbinPart hdir hbefore fun n hn =>
    (hbefore n hn).put_content (by simpa using hdir) c

theorem makes_writeSidecar (h : v.Maps f) (hf : Orderly f m) (hkey : IsSound key)
    (hdir : f [key.dataset] = some .directory) (ha : f (contentFile key) = some (.file a.content)) :
    Makes faulty (Directory.writeSidecar key (sidecarOf a)) v (·.Keeps (m.insert key a))
      fun v' => v'.Keeps m ∨ v'.Keeps (m.insert key a) := by
  obtain ⟨_, _, hjson, hjsonPart⟩ := isShort_names key.kind
  have hbefore (n : Option Node) (hn : n ≠ some .directory) :=
    hf.put_temporary hdir hn fun kind => (part_ne key.kind kind).2
  have hafter (n : Option Node) (hn : n ≠ some .directory) :
      Orderly (update (update f [key.dataset, key.kind.name ++ ".json" ++ ".part"] n)
        (sidecarFile key) (some (.file (sidecarOf a).encode))) (m.insert key a) := by
    refine (hbefore n hn).put_sidecar (by simpa using hdir) ?_
    rw [Function.update_of_ne _, ha]
    simpa [contentFile] using (part_ne key.kind key.kind).2.1.symm
  refine (makes_writeFile h hf.toShelves hkey hjson hjsonPart hdir hbefore hafter).mono
    (fun v' hdone => ?_) fun _ hleft => hleft
  obtain ⟨f', hmaps, hf', _⟩ := hdone
  exact ⟨f', hmaps, hf'⟩

theorem makes_store (h : v.Keeps m) (hkey : IsSound key) {u : Upload} (hu : checkSize u = .ok ()) :
    Makes faulty (Directory.store key u) v (·.Keeps (m.insert key u.toArtifact)) fun v' =>
      v'.Keeps m ∨ v'.Keeps (m.refill key u.content) ∨ v'.Keeps (m.insert key u.toArtifact) := by
  obtain ⟨f, hmaps, hf⟩ := h
  rw [Directory.store, hu]
  change Makes faulty (Directory.guarded key _) v _ _
  rw [guarded_of_isSound hkey]
  refine (makes_makeDirectories hmaps hf.toShelves hkey.2).bind (fun e => ⟨_, rfl⟩)
    (fun v' hleft => Or.inl ?_) fun v₁ hmaps => ?_
  · rcases hleft with hmaps | hmaps
    · exact ⟨_, hmaps, hf⟩
    · exact ⟨_, hmaps, hf.make_directory _⟩
  refine (makes_writeContent hmaps (hf.make_directory _) hkey (by simp)).bind (fun e => ⟨_, rfl⟩)
    (fun v' hleft => hleft.imp_right Or.inl) fun v₂ hdone => ?_
  obtain ⟨f', hmaps, hf', hdir, hcontent⟩ := hdone
  -- The sidecar replaces what the content alone has made of an artifact that was there.
  have hside : Makes faulty _ v₂ _ _ :=
    makes_writeSidecar (a := u.toArtifact) hmaps hf' hkey hdir hcontent
  rw [Memory.insert_refill_self] at hside
  exact hside.mono (fun _ h => h) fun _ hleft => Or.inr hleft

/-- The sidecar goes first, and with it the artifact. -/
theorem makes_delete (h : v.Keeps m) (hkey : IsSound key) :
    Makes faulty (Directory.delete key) v (·.Keeps (m.erase key)) fun v' =>
      v'.Keeps m ∨ v'.Keeps (m.erase key) := by
  obtain ⟨f, hmaps, hf⟩ := h
  obtain ⟨hbin, _, hjson, _⟩ := isShort_names key.kind
  have hgone := hf.remove_sidecar key
  have hempty := hgone.remove_content Memory.get?_erase_self
  rw [Directory.delete, guarded_of_isSound hkey]
  refine (makes_removePresent hmaps hf.toShelves hkey.2 hjson).bind (fun e => ⟨_, rfl⟩)
    (fun v' hleft => ?_) fun v₁ hmaps => ?_
  · exact hleft.imp (fun hmaps => ⟨f, hmaps, hf⟩) fun hmaps => ⟨_, hmaps, hgone⟩
  refine (makes_removePresent hmaps hgone.toShelves hkey.2 hbin).bind (fun e => ⟨_, rfl⟩)
    (fun v' hleft => Or.inr ?_) fun v₂ hmaps o v' hends => ?_
  · rcases hleft with hmaps | hmaps
    · exact ⟨_, hmaps, hgone⟩
    · exact ⟨_, hmaps, hempty⟩
  -- That the directory cannot be removed is not taken for a failure, so `Makes.bind` is of no use.
  change Ends faulty (run (.removeDirectory [key.dataset]) >>= fun _ => pure (.ok ())) v₂ o v'
    at hends
  obtain ⟨o, hremove, rfl⟩ := hends.of_map
  have hkeeps := ends_removeDirectory ⟨_, hmaps, hempty⟩ hkey hremove
  cases o with
  | some reply => exact Or.inl ⟨hkeeps, rfl⟩
  | none =>
      rcases hremove.of_run with ⟨ho, _⟩ | ⟨hfaulty, _⟩
      · cases ho
      · exact Or.inr ⟨hfaulty, by simp, Or.inr hkeeps⟩

theorem ends_readOf {v' : Volume} {p : Path} {o : Option (Except Fault Bytes)}
    (hends : Ends faulty (Directory.readOf key p) v o v') :
    o = some ((Directory.readOf key p).run handle v).1 ∨ faulty ∧ ∀ c, o ≠ some (.ok c) := by
  rw [readOf_eq] at hends ⊢
  obtain ⟨o, hread, rfl⟩ := hends.of_map
  rcases hread.of_run with ⟨rfl, -⟩ | ⟨hfaulty, -, hfail⟩
  · exact Or.inl rfl
  · refine Or.inr ⟨hfaulty, fun c hc => ?_⟩
    obtain ⟨reply, ho, hreply⟩ := Option.map_eq_some_iff.mp hc
    obtain ⟨e, he, rfl⟩ := hfail reply ho
    cases (orMissing_error he).symm.trans hreply

/-- A sidecar that is read is that of the artifact. -/
theorem ends_readSidecar {v' : Volume} {o : Option (Except Fault Sidecar)} (h : v.Keeps m)
    (hkey : IsSound key) (hends : Ends faulty (Directory.readSidecar key) v o v') :
    v' = v ∧ (o = some ((m.retrieve key).map sidecarOf) ∨ faulty ∧ ∀ c, o ≠ some (.ok c)) := by
  refine ⟨hends.of_reads (always_readSidecar trivial), ?_⟩
  obtain ⟨f, hmaps, hf⟩ := h
  have hrun := congrArg Prod.fst (run_readSidecar hmaps hf hkey)
  -- Without faults the work just runs; with faults the read may fail, but not the decoding after it.
  by_cases hfaulty : faulty
  swap
  · exact Or.inl ((hends.eq_run hfaulty).1.trans (congrArg some hrun))
  rw [Directory.readSidecar] at hends hrun
  rcases hends.of_bind with ⟨rfl, _⟩ | ⟨raw, v₁, hread, hdecode⟩
  · exact Or.inr ⟨hfaulty, by simp⟩
  cases raw with
  | error e =>
      obtain ⟨rfl, -⟩ := hdecode.of_pure
      exact Or.inr ⟨hfaulty, by simp⟩
  | ok c =>
      have hraw := (ends_readOf hread).resolve_right fun hno => hno.2 c rfl
      obtain ⟨rfl, -⟩ := hdecode.of_pure
      rw [Script.run_bind, ← Option.some.inj hraw] at hrun
      exact Or.inl (congrArg some hrun)

/-- What begins with reading a sidecar goes on with that of the artifact. -/
theorem of_readSidecar {α : Type} {v' : Volume} {o : Option (Except Fault α)}
    {next : Except Fault Sidecar → Disk.Work (Except Fault α)} (h : v.Keeps m) (hkey : IsSound key)
    (hends : Ends faulty (Directory.readSidecar key >>= next) v o v')
    (hfail : ∀ e, next (.error e) = pure (.error e)) :
    Ends faulty (next ((m.retrieve key).map sidecarOf)) v o v' ∨ faulty ∧ v' = v := by
  rcases hends.of_bind with ⟨rfl, hread⟩ | ⟨c, v₁, hread, hnext⟩
  · obtain ⟨rfl, ho | ⟨hfaulty, _⟩⟩ := ends_readSidecar h hkey hread
    · cases ho
    · exact Or.inr ⟨hfaulty, rfl⟩
  · obtain ⟨rfl, ho | ⟨hfaulty, ho⟩⟩ := ends_readSidecar h hkey hread
    · rw [Option.some.inj ho] at hnext
      exact Or.inl hnext
    · cases c with
      | ok c => exact absurd rfl (ho c)
      | error e =>
          rw [hfail] at hnext
          exact Or.inr ⟨hfaulty, hnext.of_pure.2⟩

end

end Intake.Store
