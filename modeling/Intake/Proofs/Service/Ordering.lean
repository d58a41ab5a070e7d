import Intake.Proofs.Service.Promotion

/-!
# The order of a promotion

A promotion approves the file only after the metacard has been deleted or approved, or was not there.
As no staged metacard is stored once the name of a dataset is known, a dataset whose file is approved
has no staged metacard, whatever else is going on.
-/

namespace Intake.Service

open Store (Memory)
open Artifact (Key Kind)
open Remote (Fetched Product)
open Relation (ReflTransGen)

/-- After the exchange the metacard is not there, or it is approved. -/
def Exchange.Clears (dataset : String) : Exchange → Prop
  | ⟨.delete key, .ok _⟩ => key = ⟨dataset, .metacard⟩
  | ⟨.setStatus key s, .ok _⟩ | ⟨.setStatus key s, .error (.notFound _)⟩ =>
    key = ⟨dataset, .metacard⟩ ∧ s = .stored
  | _ => False

abbrev Call.approval (dataset : String) : Call := .setStatus ⟨dataset, .file⟩ .stored

/-- Work that approves the file of a dataset only when the metacard is cleared: `p` says that it is
now, and `Q` what is known of it and of the result in the end. -/
def Careful {α : Type} (dataset : String) (Q : Prop → α → Prop) : Work α → Prop → Prop
  | .done a, p => Q p a
  | .ask c next, p =>
    (c = Call.approval dataset → p) ∧
      ∀ r, Careful dataset Q (next r) (p ∨ Exchange.Clears dataset ⟨c, r⟩)

namespace Careful

variable {α β : Type} {dataset : String} {Q : Prop → α → Prop} {w : Work α} {p p' : Prop}

theorem call {c : Call} {f : c.Reply → Work α} (hc : c = Call.approval dataset → p)
    (hf : ∀ r, Careful dataset Q (f r) (p ∨ Exchange.Clears dataset ⟨c, r⟩)) :
    Careful dataset Q (Service.call c >>= f) p :=
  ⟨hc, hf⟩

theorem mono {Q' : Prop → α → Prop} (h : Careful dataset Q w p) (hp : p → p')
    (hQ : ∀ q q' a, (q → q') → Q q a → Q' q' a) : Careful dataset Q' w p' := by
  induction w generalizing p p' with
  | done a => exact hQ p p' a hp h
  | ask c next ih => exact ⟨fun hc => hp (h.1 hc), fun r => ih r (h.2 r) (Or.imp_left hp)⟩

theorem bind {Q' : Prop → β → Prop} {f : α → Work β} (h : Careful dataset Q w p)
    (hf : ∀ q a, Q q a → Careful dataset Q' (f a) q) : Careful dataset Q' (w >>= f) p := by
  induction w generalizing p with
  | done a => exact hf p a h
  | ask c next ih => exact ⟨h.1, fun r => ih r (h.2 r)⟩

theorem of_always (h : w.Always (· ≠ Call.approval dataset)) (hQ : ∀ q a, Q q a) :
    Careful dataset Q w p := by
  induction w generalizing p with
  | done a => exact hQ p a
  | ask c next ih => exact ⟨fun hc => absurd hc h.1, fun r => ih r (h.2 r)⟩

end Careful

/-- Work that does not approve the file unless the metacard is cleared. -/
abbrev IsCareful {α : Type} (dataset : String) (p : Prop) (w : Work α) : Prop :=
  Careful dataset (fun _ _ => True) w p

theorem isCareful_of_always {α : Type} {dataset : String} {p : Prop} {w : Work α}
    (h : w.Always (· ≠ Call.approval dataset)) : IsCareful dataset p w :=
  .of_always h fun _ _ => trivial

/-! ## Every job is careful -/

section

variable {dataset other : String} {p : Prop} {kind : Kind}

theorem careful_storeFetched {q : Prop} (f : Fetched) (hp : p → q) (hq : kind = .metacard → q) :
    Careful dataset (fun q r => (p → q) ∧ (kind = .metacard → r = .ok () → q)) (do
      match ← call (.store ⟨dataset, kind⟩ (fetchedUpload f)) with
      | .error e => return .error (outcomeOf e)
      | .ok () => return .ok () : Work (Except Remote.Outcome Unit)) q := by
  refine ⟨by simp, fun r => ?_⟩
  cases r with
  | error e => exact ⟨fun h => Or.inl (hp h), by simp⟩
  | ok => exact ⟨fun h => Or.inl (hp h), fun h _ => Or.inl (hq h)⟩

theorem careful_adopt (location : String) :
    Careful dataset (fun q r => (p → q) ∧ (kind = .metacard → r = .ok () → q))
      (adopt dataset kind location) p := by
  refine ⟨by simp, fun r => ?_⟩
  cases r with
  | error e => exact ⟨Or.inl, by simp⟩
  | ok f =>
      simp only
      split
      · rename_i hcard
        refine ⟨by simp, fun r => ?_⟩
        cases r with
        | error e => exact ⟨fun h => Or.inl (Or.inl h), by simp⟩
        | ok =>
            refine careful_storeFetched f (fun h => Or.inl (Or.inl h)) fun _ => Or.inr ?_
            rw [hcard]
            rfl
      · rename_i hcard
        exact careful_storeFetched f Or.inl fun h => absurd h hcard

theorem careful_adoptAll (ps : List Product) {b : Bool} (hb : b → p) :
    Careful dataset (fun q r => r = .ok true → q) (adoptAll dataset ps b) p := by
  induction ps generalizing b p with
  | nil =>
      rintro ⟨⟩
      exact hb rfl
  | cons x ps ih =>
      rw [adoptAll]
      cases hx : replaceable? x with
      | none => exact ⟨by simp, fun _ => ih fun h => Or.inl (hb h)⟩
      | some kind =>
          refine (careful_adopt x.location).bind fun q r hr => ?_
          obtain ⟨hp, hcard⟩ := hr
          cases r with
          | error o =>
              intro h
              cases h
          | ok =>
              refine ih fun h => ?_
              rcases Bool.or_eq_true_iff.mp h with h | h
              · exact hp (hb h)
              · exact hcard (of_decide_eq_true h) rfl

theorem careful_approveMetacard :
    Careful dataset (fun q r => r = .ok () → q) (approveMetacard dataset) p := by
  refine ⟨nofun, fun r => ?_⟩
  cases r with
  | ok => exact fun _ => Or.inr ⟨rfl, rfl⟩
  | error e =>
      cases e with
      | notFound key => exact fun _ => Or.inr ⟨rfl, rfl⟩
      | _ => nofun

theorem Call.Removes.ne_approval {c : Call} (h : c.Removes other) : c ≠ Call.approval dataset := by
  cases h <;> simp

theorem Call.Inquires.ne_approval {c : Call} (h : c.Inquires) : c ≠ Call.approval dataset := by
  cases h <;> simp

theorem careful_announce {site : Site} : IsCareful dataset p (announce site dataset) := by
  refine .call nofun fun r => ?_
  simp only
  split
  · exact ⟨nofun, fun _ => ⟨nofun, fun _ => trivial⟩⟩
  · trivial

theorem careful_approveFile {site : Site} (hp : p) :
    IsCareful dataset p (do
      match ← call (.setStatus ⟨dataset, .file⟩ .stored) with
      | .error e => return outcomeOf e
      | .ok () => announce site dataset) := by
  refine ⟨fun _ => hp, fun r => ?_⟩
  cases r with
  | error e => trivial
  | ok => exact careful_announce

/-- A promotion clears the metacard on every way to the approval of the file. -/
theorem careful_promote {site : Site} (ps : List Product) :
    IsCareful dataset p (promote site dataset ps) := by
  refine ⟨nofun, fun r => ?_⟩
  cases r with
  | error e => trivial
  | ok s =>
      refine (careful_adoptAll ps (b := false) nofun).bind fun q r hr => ?_
      cases r with
      | error o => trivial
      | ok replaced =>
          simp only
          split
          · rename_i hcard
            exact careful_approveFile (hr (congrArg _ hcard))
          · refine careful_approveMetacard.bind fun q r hr => ?_
            cases r with
            | error o => trivial
            | ok => exact careful_approveFile (hr rfl)

theorem careful_attempt {site : Site} (t : Poll.Task) :
    IsCareful t.dataset p (Poll.attempt ⟨promote site, reject⟩ t) := by
  have hinquires : ∀ {α : Type} {w : Work α} {q : Prop}, w.Always Call.Inquires →
      IsCareful t.dataset q w := fun h => isCareful_of_always (h.mono fun _ => Call.Inquires.ne_approval)
  obtain ⟨next, hinquire, hnext⟩ := inquires_inquire t
  rw [Poll.attempt, hinquire]
  refine Careful.bind ⟨by simp, fun _ => hinquires hnext⟩ fun q f (_ : True) => ?_
  rcases f with o | ps | _
  · trivial
  · exact (careful_promote ps).bind fun q o _ => hinquires (inquires_settle t _ o)
  · refine Careful.bind (isCareful_of_always ?_) fun q o (_ : True) => hinquires (inquires_settle t _ o)
    exact removes_reject.mono fun _ => Call.Removes.ne_approval

theorem careful_of_tends {w : Work Unit} (h : w.Always (Call.Tends other)) (hne : other ≠ dataset) :
    IsCareful dataset p w := by
  refine isCareful_of_always (h.mono ?_)
  rintro _ hc rfl
  exact hne hc.1.symm

theorem Job.careful_work (job : Job) : IsCareful dataset p job.work := by
  have hdone : ∀ {α : Type} {w : Work α} (f : α → Work Unit), IsCareful dataset p w →
      (∀ a, f a = .done ()) → IsCareful dataset p (w >>= f) := fun f hw hf =>
    hw.bind fun q a _ => by rw [hf a]; trivial
  by_cases h : job.dataset? = some dataset
  · cases job with
    | ingest => cases h
    | promote site d ps =>
        obtain rfl := Option.some.inj h
        exact hdone _ (careful_promote ps) fun _ => rfl
    | quarantine d =>
        obtain rfl := Option.some.inj h
        exact hdone _ (isCareful_of_always (removes_quarantine.mono fun _ => Call.Removes.ne_approval))
          fun _ => rfl
    | reject d =>
        obtain rfl := Option.some.inj h
        exact hdone _ (isCareful_of_always (removes_reject.mono fun _ => Call.Removes.ne_approval))
          fun _ => rfl
    | attempt site t =>
        obtain rfl := Option.some.inj h
        exact hdone _ (careful_attempt t) fun _ => rfl
    | download d kind =>
        obtain rfl := Option.some.inj h
        exact hdone _ (isCareful_of_always (always_download (by simp))) fun _ => rfl
  · cases hd : job.dataset? with
    | some other =>
        exact careful_of_tends (Job.tends_work hd) fun he => h (he ▸ hd)
    | none =>
        cases job with
        | ingest site s =>
            refine isCareful_of_always ⟨by simp, fun d => ?_⟩
            refine (staging_afterName site s d).always (by simp) fun c hc => ?_
            rintro rfl
            cases hc.1
        | _ => cases hd

end

/-! ## In any traffic -/

theorem Exchange.Clears.target? {dataset : String} {c : Call} {r : c.Reply}
    (h : Exchange.Clears dataset ⟨c, r⟩) : c.target? = some ⟨dataset, .metacard⟩ := by
  cases c with
  | delete key =>
      cases r with
      | error e => exact h.elim
      | ok => exact congrArg some h
  | setStatus key s =>
      cases r with
      | ok => exact congrArg some h.1
      | error e =>
          cases e with
          | notFound => exact congrArg some h.1
          | _ => exact h.elim
  | _ => exact h.elim

section

variable {dataset : String} {p p' : Phase} {m m' : Memory} {t t' : Traffic} {c : Call} {r : c.Reply}

theorem Serves.not_staged (h : Serves m m' c r) (hc : Exchange.Clears dataset ⟨c, r⟩) :
    m'.statusOf? ⟨dataset, .metacard⟩ ≠ some .staged := by
  cases c with
  | delete key =>
      rcases Answers.of_delete h with ⟨rfl, rfl⟩ | ⟨e, rfl, _, _⟩
      · obtain rfl : key = _ := hc
        simp [Memory.statusOf?]
      · exact hc.elim
  | setStatus key s =>
      rcases Answers.of_setStatus h with ⟨a, _, rfl, rfl⟩ | ⟨hnone, rfl, rfl⟩ | ⟨e, rfl, he, _⟩
      · obtain ⟨rfl, rfl⟩ := hc
        simp [Memory.statusOf?]
      · obtain ⟨rfl, rfl⟩ := hc
        simp [Memory.statusOf?, hnone]
      · cases e with
        | notFound key => exact absurd rfl (he key)
        | _ => exact hc.elim
  | _ => exact hc.elim

/-- A file that is approved was so before, is stored so, or is approved now. -/
theorem Serves.file_stored (h : Serves m m' c r)
    (hstore : ∀ u, c = .store ⟨dataset, .file⟩ u → u.metadata.status = .staged)
    (hfile : m'.statusOf? ⟨dataset, .file⟩ = some .stored) :
    m.statusOf? ⟨dataset, .file⟩ = some .stored ∨ c = Call.approval dataset := by
  by_cases htarget : c.target? = some ⟨dataset, .file⟩
  · cases c with
    | store key u =>
        obtain rfl := Option.some.inj htarget
        rcases h.of_store with ⟨_, rfl⟩ | ⟨_, rfl⟩
        · have hstaged := hstore u rfl
          simp [Memory.statusOf?, hstaged] at hfile
        · exact Or.inl hfile
    | delete key =>
        obtain rfl := Option.some.inj htarget
        rcases Answers.of_delete h with ⟨_, rfl⟩ | ⟨_, _, _, rfl⟩
        · simp [Memory.statusOf?] at hfile
        · exact Or.inl hfile
    | setStatus key s =>
        obtain rfl := Option.some.inj htarget
        rcases Answers.of_setStatus h with ⟨a, _, _, rfl⟩ | ⟨_, _, rfl⟩ | ⟨_, _, _, rfl⟩
        · obtain rfl : s = .stored := by simpa [Memory.statusOf?] using hfile
          exact Or.inr rfl
        · exact Or.inl hfile
        · exact Or.inl hfile
    | _ => cases htarget
  · rw [statusOf?_congr (h.get?_of_ne htarget)] at hfile
    exact Or.inl hfile

/-- The name of a dataset is known to all, and it has no staged metacard. -/
def IsCleared (dataset : String) (p : Phase) (m : Memory) : Prop :=
  p = .released ∧ m.statusOf? ⟨dataset, .metacard⟩ ≠ some .staged

theorem IsCleared.follows (h : IsCleared dataset p m) (hf : Follows dataset p m p' m') :
    IsCleared dataset p' m' := by
  obtain ⟨hp, htended⟩ := hf.released h.1
  exact ⟨hp, (htended .metacard).not_staged h.2⟩

theorem Idle.apart {next : c.Reply → Work Unit} (h : Idle dataset (.ask c next)) :
    ∀ key, c.target? = some key → key.dataset ≠ dataset := by
  rcases h with h | ⟨site, s, h⟩
  · exact h.1.1
  · rw [work_ingest] at h
    cases h
    nofun

theorem Minding.minds {next : c.Reply → Work Unit} (h : Minding dataset (.ask c next)) :
    c.Minds dataset ∨ c = .freshName := by
  rcases h with h | ⟨site, s, h⟩
  · exact Or.inl h.1
  · rw [work_ingest] at h
    cases h
    exact Or.inr rfl

/-- No file is stored approved, and a metacard is cleared only when the name of its dataset is known. -/
theorem Staffed.of_ask {secret? : Option String} {next : c.Reply → Work Unit}
    (h : Staffed dataset p t) (hth : ⟨secret?, .ask c next⟩ ∈ t.threads) :
    (∀ u, c = .store ⟨dataset, .file⟩ u → u.metadata.status = .staged) ∧
      (Exchange.Clears dataset ⟨c, r⟩ → p = .released) := by
  have hidle : Idle dataset (.ask c next) →
      (∀ u, c = .store ⟨dataset, .file⟩ u → u.metadata.status = .staged) ∧
        (Exchange.Clears dataset ⟨c, r⟩ → p = .released) := fun h =>
    ⟨fun u hc => absurd rfl (h.apart ⟨dataset, .file⟩ (congrArg Call.target? hc)),
      fun hc => absurd rfl (h.apart _ hc.target?)⟩
  cases h with
  | unnamed _ hothers => exact hidle (hothers _ hth)
  | staging i _ hthread hw hothers =>
      obtain ⟨j, hj⟩ := List.getElem?_of_mem hth
      by_cases hji : j = i
      · subst hji
        cases hj.symm.trans hthread
        cases hw with
        | named hu =>
            refine ⟨?_, fun hc => hc.elim⟩
            rintro _ ⟨⟩
            exact hu
        | filed => exact ⟨nofun, fun hc => hc.elim⟩
        | staged => exact ⟨nofun, fun hc => hc.elim⟩
      · exact hidle (hothers j _ hji hj)
  | released _ hminding =>
      refine ⟨?_, fun _ => rfl⟩
      rintro u rfl
      rcases (hminding _ hth).minds with (htends | hapart) | hname
      · exact absurd rfl htends.2.1
      · exact absurd rfl (hapart.1 _ rfl)
      · cases hname

/-- All are careful, and where the file is approved the metacard is cleared. -/
structure IsOrdered (dataset : String) (p : Phase) (t : Traffic) : Prop where
  careful : ∀ th ∈ t.threads, IsCareful dataset (IsCleared dataset p t.store) th.work
  cleared : t.store.statusOf? ⟨dataset, .file⟩ = some .stored → IsCleared dataset p t.store

theorem IsOrdered.step (h : IsOrdered dataset p t) (hstaffed : Staffed dataset p t)
    (hs : Traffic.Step t t') (hf : Follows dataset p t.store p' t'.store) :
    IsOrdered dataset p' t' := by
  have hmono : ∀ {w : Work Unit} {q : Prop}, (q → IsCleared dataset p' t'.store) →
      IsCareful dataset q w → IsCareful dataset (IsCleared dataset p' t'.store) w :=
    fun hq hw => hw.mono hq fun _ _ _ _ _ => trivial
  have hstays : IsCleared dataset p t.store → IsCleared dataset p' t'.store := fun hc => hc.follows hf
  cases hs with
  | start job hopen =>
      refine ⟨fun th hth => ?_, fun hfile => hstays (h.cleared hfile)⟩
      rcases List.mem_append.mp hth with hth | hth
      · exact hmono hstays (h.careful th hth)
      · rw [List.mem_singleton.mp hth]
        exact job.careful_work
  | @call i secret? c next r m hthread hserves hnew =>
      have hmem := List.mem_of_getElem? hthread
      obtain ⟨happroval, hnext⟩ := h.careful _ hmem
      obtain ⟨hstore, hclears⟩ := hstaffed.of_ask (r := r) hmem
      -- What clears the metacard does so for all, as its dataset has been handed on.
      have hthis : IsCleared dataset p t.store ∨ Exchange.Clears dataset ⟨c, r⟩ →
          IsCleared dataset p' m := by
        rintro (hc | hc)
        · exact hstays hc
        · exact ⟨(hf.released (hclears hc)).1, hserves.not_staged hc⟩
      refine ⟨fun th hth => ?_, fun hfile => ?_⟩
      · rcases List.mem_or_eq_of_mem_set hth with hth | rfl
        · exact hmono hstays (h.careful th hth)
        · exact hmono hthis (hnext r)
      · rcases hserves.file_stored hstore hfile with hfile | happroves
        · exact hstays (h.cleared hfile)
        · exact hstays (happroval happroves)

theorem isOrdered_leads (h : Traffic.atRest.Leads t) :
    ∃ p, Stands dataset p t ∧ IsOrdered dataset p t := by
  induction h with
  | refl => exact ⟨.unnamed, stands_atRest dataset, by simp [Traffic.atRest], nofun⟩
  | tail _ hstep ih =>
      obtain ⟨p, hp, hordered⟩ := ih
      obtain ⟨p', hp', hf⟩ := hp.step hstep
      exact ⟨p', hp', hordered.step hp.staffed hstep hf⟩

end

/-! ## One thread and the others -/

/-- The traffic goes on while others leave a dataset as it is, with the exchanges of the thread `i`. -/
inductive Attends (dataset : String) (i : Nat) : Traffic → List Exchange → Traffic → Prop
  | refl (t : Traffic) : Attends dataset i t [] t
  | others {t t' t'' : Traffic} {xs : List Exchange} (hs : Traffic.Step t t')
      (hthread : t'.threads[i]? = t.threads[i]?) (hsame : SameFor dataset t.store t'.store)
      (rest : Attends dataset i t' xs t'') : Attends dataset i t xs t''
  | own {t t'' : Traffic} {secret? : Option String} {c : Call} {next : c.Reply → Work Unit}
      {r : c.Reply} {m : Memory} {xs : List Exchange}
      (hthread : t.threads[i]? = some ⟨secret?, .ask c next⟩) (hserves : Serves t.store m c r)
      (hnew : ∀ dataset, Exchange.name? ⟨c, r⟩ = some dataset → dataset ∉ t.known)
      (rest : Attends dataset i {
        store := m
        known := (Exchange.name? ⟨c, r⟩).toList ++ t.known
        threads := t.threads.set i ⟨Exchange.secretAfter secret? ⟨c, r⟩, next r⟩ } xs t'') :
      Attends dataset i t (⟨c, r⟩ :: xs) t''

namespace Attends

variable {dataset : String} {i : Nat} {t t' : Traffic} {xs : List Exchange}

theorem leads (h : Attends dataset i t xs t') : t.Leads t' := by
  induction h with
  | refl => exact .refl
  | others hs _ _ _ ih => exact .head hs ih
  | own hthread hserves hnew _ ih => exact .head (.call hthread hserves hnew) ih

/-- What the thread does is work that nobody disturbs. -/
theorem undisturbed (h : Attends dataset i t xs t') {th : Thread} (hth : t.threads[i]? = some th) :
    ∃ th', t'.threads[i]? = some th' ∧
      Undisturbed dataset th.work t.store xs th'.work t'.store := by
  induction h generalizing th with
  | refl t => exact ⟨th, hth, .here (SameFor.refl _ _)⟩
  | others hs hthread hsame _ ih =>
      obtain ⟨th', hth', hw⟩ := ih (hthread.trans hth)
      exact ⟨th', hth', hw.of_others hsame⟩
  | own hthread hserves hnew _ ih =>
      obtain ⟨hlt, _⟩ := List.getElem?_eq_some_iff.mp hthread
      obtain ⟨th', hth', hw⟩ := ih (List.getElem?_set_self hlt)
      cases hth.symm.trans hthread
      exact ⟨th', hth', .ask (SameFor.refl _ _) hserves hw⟩

/-- Answers as a willing surroundings does, but for the index service, which does not answer. -/
def beforeIndex (p : Remote.Progress) (c : Call) (m : Memory) : Option (c.Reply × Memory) :=
  if c.isIndex then none else some (willing p c m)

/-- Work that needs no name comes to its next call of the index service while all others wait. -/
theorem untilIndex (dataset : String) (m : Memory) (known : List String) (ths : List Thread)
    (secret? : Option String) {w : Work Unit} (p : Remote.Progress) (hw : w.Always (· ≠ .freshName)) :
    ∃ xs secret?', Attends dataset ths.length ⟨m, known, ths ++ [⟨secret?, w⟩]⟩ xs
      ⟨(w.runWhile (beforeIndex p) m).2, known,
        ths ++ [⟨secret?', (w.runWhile (beforeIndex p) m).1⟩]⟩ := by
  induction w generalizing m secret? with
  | done u => exact ⟨[], secret?, .refl _⟩
  | ask c next ih =>
      cases hc : c.isIndex with
      | true =>
          refine ⟨[], secret?, ?_⟩
          simp only [Script.runWhile, beforeIndex, hc, if_true]
          exact .refl _
      | false =>
          have hname : Exchange.name? ⟨c, (willing p c m).1⟩ = none := Exchange.name?_of_ne hw.1
          obtain ⟨xs, secret?', hrest⟩ := ih (willing p c m).1 (willing p c m).2
            (Exchange.secretAfter secret? ⟨c, (willing p c m).1⟩) (hw.2 _)
          have hlast : (ths ++ [⟨secret?, .ask c next⟩])[ths.length]? = some ⟨secret?, .ask c next⟩ := by
            simp
          refine ⟨_ :: xs, secret?', .own hlast (answers_willing p c m).serves (by simp [hname]) ?_⟩
          simp only [Script.runWhile, beforeIndex, hc, hname, Bool.false_eq_true, if_false]
          simpa using hrest

end Attends

/-- A poll that finds the job done goes on to promote the dataset, and asks the index service no more. -/
theorem work_attempt_done (site : Site) (t : Poll.Task) (ps : List Product) :
    ∃ next next', (Job.attempt site t).work = .ask (.count .polls) next ∧
      next () = .ask (.poll t.statusUrl) next' ∧
      ∃ k : Remote.Outcome → Work Unit, next' (.done ps) = (promote site t.dataset ps >>= k) ∧
        ∀ o, Indexless (k o) := by
  refine ⟨_, _, rfl, rfl, fun o => do let _ ← Poll.settle t .promoted o, ?_, fun o => ?_⟩
  · exact Script.bind_bind (promote site t.dataset ps) (Poll.settle t .promoted) fun _ => .done ()
  · refine Script.Always.bind ((inquires_settle t _ o).mono ?_) fun _ => trivial
    intro c hc
    cases hc <;> rfl

/-- In any traffic a dataset whose file is approved has no staged metacard; and when a promotion that
nobody disturbs asks the index service, the dataset is prepared for it. A poll that finds the job done
goes on with such a promotion. -/
theorem promotion_in_order :
    (∀ t, Traffic.atRest.Leads t → ∀ dataset,
      t.store.statusOf? ⟨dataset, .file⟩ = some .stored →
        t.store.statusOf? ⟨dataset, .metacard⟩ ≠ some .staged) ∧
    (∀ (t t' : Traffic) (i : Nat) (site : Site) (dataset : String) (ps : List Product)
      (secret? secret?' : Option String) (k : Remote.Outcome → Work Unit) (xs : List Exchange)
      (other : String) (req : Remote.IndexRequest) (next : Remote.Outcome → Work Unit),
      Traffic.atRest.Leads t → t.threads[i]? = some ⟨secret?, promote site dataset ps >>= k⟩ →
      (∀ o, Indexless (k o)) → Attends dataset i t xs t' →
      t'.threads[i]? = some ⟨secret?', .ask (.index other req) next⟩ →
      other = dataset ∧ IsPrepared site dataset ps xs t'.store req) ∧
    ∀ (site : Site) (task : Poll.Task) (ps : List Product), ∃ next next',
      (Job.attempt site task).work = .ask (.count .polls) next ∧
      next () = .ask (.poll task.statusUrl) next' ∧
      ∃ k : Remote.Outcome → Work Unit,
        next' (.done ps) = (promote site task.dataset ps >>= k) ∧ ∀ o, Indexless (k o) := by
  refine ⟨fun t ht dataset hfile => ?_, ?_, work_attempt_done⟩
  · obtain ⟨p, _, hordered⟩ := isOrdered_leads ht
    exact (hordered.cleared hfile).2
  · intro t t' i site dataset ps secret? secret?' k xs other req next _ hthread hk hattends hindex
    obtain ⟨th', hth', hw⟩ := hattends.undisturbed hthread
    cases hindex.symm.trans hth'
    rcases hw.of_bind with ⟨c, next₁, hpromote, heq⟩ | ⟨ys, o, m₁, zs, rfl, _, hrest⟩
    · cases heq
      exact hpromote.of_promote
    · cases (hrest.always (hk o)).1

/-- A dataset is taken in, and promoted with two descriptions of one kind. -/
theorem promotion_in_order_indexed :
    ∃ (t t' : Traffic) (i : Nat) (secret? secret?' : Option String) (k : Remote.Outcome → Work Unit)
      (xs : List Exchange) (req : Remote.IndexRequest) (next : Remote.Outcome → Work Unit),
      Traffic.atRest.Leads t ∧ t.threads[i]? = some ⟨secret?, promote ⟨"http://s"⟩ "a"
        [⟨" IRM ", "/1"⟩, ⟨"file", "/2"⟩, ⟨"irm", "/3"⟩] >>= k⟩ ∧
      (∀ o, Indexless (k o)) ∧ Attends "a" i t xs t' ∧
      t'.threads[i]? = some ⟨secret?', .ask (.index "a" req) next⟩ ∧
      t'.store.statusOf? ⟨"a", .file⟩ = some .stored ∧
      t'.store.statusOf? ⟨"a", .metacard⟩ ≠ some .staged ∧
      IsPrepared ⟨"http://s"⟩ "a" [⟨" IRM ", "/1"⟩, ⟨"file", "/2"⟩, ⟨"irm", "/3"⟩] xs t'.store req := by
  obtain ⟨t, ht, hrest, hstore⟩ := Traffic.isAtRest_atRest.leads_ingest "a" .inProgress
    ⟨"http://s"⟩ ⟨1, "image/tiff", [1], some "a.tif", 1, [2]⟩ (by decide)
  let job : Job := .promote ⟨"http://s"⟩ "a" [⟨" IRM ", "/1"⟩, ⟨"file", "/2"⟩, ⟨"irm", "/3"⟩]
  have hstart := Traffic.Step.start job fun _ _ th hth hhides => hrest th hth hhides.2
  have hleads := ht.tail hstart
  obtain ⟨xs, secret?', hattends⟩ := Attends.untilIndex "a" t.store (["a"] ++ t.known) t.threads none
    (w := job.work) .inProgress ((Job.tends_work rfl).mono fun c hc hname => by rw [hname] at hc; exact hc)
  have hasked : (job.work.runWhile (Attends.beforeIndex .inProgress) t.store).1.asked? =
      some (.index "a" ⟨"http://s/datasets/a/file", "http://s/datasets/a/irm",
        "http://s/datasets/a/metacard"⟩) := by
    rw [hstore]
    decide
  obtain ⟨next, hnext⟩ := Script.exists_of_asked? hasked
  have hthread : (t.threads ++ [⟨none, job.work⟩])[t.threads.length]? = some ⟨none, job.work⟩ := by
    simp
  rw [hnext] at hattends
  have hindex : (t.threads ++ [(⟨secret?', .ask (.index "a" ⟨"http://s/datasets/a/file",
      "http://s/datasets/a/irm", "http://s/datasets/a/metacard"⟩) next⟩ : Thread)])[t.threads.length]? =
      some ⟨secret?', .ask (.index "a" _) next⟩ := by
    simp
  have hprepared := (promotion_in_order.2.1 _ _ _ ⟨"http://s"⟩ "a" _ none secret?' (fun _ => .done ()) xs
    "a" _ next hleads hthread (fun _ => trivial) hattends hindex).2
  have hcleared := promotion_in_order.1 _ (hleads.trans hattends.leads) "a" hprepared.file
  exact ⟨_, _, _, none, secret?', fun _ => .done (), xs, _, next, hleads, hthread, fun _ => trivial,
    hattends, hindex, hprepared.file, hcleared, hprepared⟩

end Intake.Service
