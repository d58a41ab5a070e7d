import Intake.Poll.Attempt
import Intake.Service.Dataset
import Intake.Proofs.Service.Play

/-!
# What a settled task says of its dataset

A task ends as promoted or quarantined only when its dataset is in the state that this means, whatever
fails on the way. Each step of the reconciliation is played in turn; a failure never looks like the
absence of an artifact, so it never settles the task.
-/

namespace Intake

/-- Whether a reconciliation leaves nothing to do. -/
def Remote.Outcome.isSettled : Remote.Outcome → Bool
  | success | notFound => true
  | badRequest _ | transient _ => false

namespace Service

open Store (Memory)
open Artifact (Kind)
open Relation (ReflTransGen)

theorem isSettled_outcomeOf {e : Store.Fault} (h : ∀ key, e ≠ .notFound key) :
    (outcomeOf e).isSettled = false := by
  cases e with
  | notFound key => exact absurd rfl (h key)
  | _ => rfl

theorem isSettled_outcomeOfFetch {e : Remote.Fault}
    (h : ∀ resource code, e = .unexpectedStatus resource code → Http.Status.isSuccess ⟨code⟩ = false) :
    (outcomeOfFetch e).isSettled = false := by
  cases e with
  | unexpectedStatus resource code =>
      have hcode := h resource code rfl
      unfold outcomeOfFetch Remote.Outcome.ofFault Remote.Outcome.ofStatus
      simp only [hcode, Bool.false_eq_true, if_false]
      repeat' split
      all_goals first | rfl | simp_all
  | _ => rfl

def indexed (xs : List Exchange) : List Remote.Outcome :=
  xs.filterMap fun x => match x with
    | ⟨.index .., o⟩ => some o
    | _ => none

theorem indexed_append (xs ys : List Exchange) :
    indexed (xs ++ ys) = indexed xs ++ indexed ys :=
  List.filterMap_append

/-- A promoted dataset: its file is approved, and so is its metacard, if it has one. -/
structure IsPromoted (m : Memory) (dataset : String) : Prop where
  file : m.statusOf? ⟨dataset, .file⟩ = some .stored
  metacard : m.get? ⟨dataset, .metacard⟩ = none ∨ m.statusOf? ⟨dataset, .metacard⟩ = some .stored

/-- Calls that neither touch the file of a dataset nor have it indexed. -/
def Prepares (dataset : String) (xs : List Exchange) : Prop :=
  ∀ x ∈ xs, x.call.isIndex = false ∧ x.call.target? ≠ some ⟨dataset, .file⟩

namespace Prepares

variable {dataset : String} {xs ys : List Exchange}

theorem nil : Prepares dataset [] := by simp [Prepares]

theorem cons {x : Exchange} (hi : x.call.isIndex = false)
    (hf : x.call.target? ≠ some ⟨dataset, .file⟩) (h : Prepares dataset xs) :
    Prepares dataset (x :: xs) :=
  List.forall_mem_cons.mpr ⟨⟨hi, hf⟩, h⟩

theorem append (h : Prepares dataset xs) (h' : Prepares dataset ys) :
    Prepares dataset (xs ++ ys) :=
  List.forall_mem_append.mpr ⟨h, h'⟩

theorem of_not_reconciling (dataset : String) (h : ∀ x ∈ xs, x.call.isReconciling = false) :
    Prepares dataset xs := fun x hx =>
  ⟨Call.isIndex_of_not_reconciling (h x hx), by simp [Call.target?_of_not_reconciling (h x hx)]⟩

theorem indexed_eq (h : Prepares dataset xs) : indexed xs = [] := by
  refine List.filterMap_eq_nil_iff.mpr fun x hx => ?_
  obtain ⟨c, r⟩ := x
  have hi := (h _ hx).1
  cases c <;> first | rfl | cases hi

end Prepares

variable {R : Memory → Memory → Prop} {m m' : Memory} {xs : List Exchange} {dataset : String}

/-! ## Quarantine -/

/-- Deleting goes on until it fails; what is gone stays gone. -/
theorem Plays.of_deleteAll {kinds : List Kind} {r : Except Store.Fault Unit}
    (hR : LeavesAlone R dataset) (h : Plays R (deleteAll dataset kinds) m xs r m') :
    (∀ kind, m.get? ⟨dataset, kind⟩ = none → m'.get? ⟨dataset, kind⟩ = none) ∧
      (r = .ok () → ∀ kind ∈ kinds, m'.get? ⟨dataset, kind⟩ = none) ∧
      ∀ e, r = .error e → ∀ key, e ≠ .notFound key := by
  induction kinds generalizing m xs with
  | nil =>
      obtain ⟨_, rfl, rfl⟩ := h.of_pure
      exact ⟨fun _ hk => hk, by simp, by simp⟩
  | cons kind kinds ih =>
      obtain ⟨m₁, r₁, m₂, ys, rfl, hothers, hanswer, h⟩ := h.of_call
      rcases Answers.of_delete hanswer with ⟨rfl, rfl⟩ | ⟨e, rfl, he, rfl⟩
      · obtain ⟨hgone, hall, herror⟩ := ih h
        have hkind : m'.get? ⟨dataset, kind⟩ = none := hgone kind Memory.get?_erase_self
        refine ⟨fun j hj => ?_, fun hr j hj => ?_, herror⟩
        · by_cases hjk : j = kind
          · rw [hjk]
            exact hkind
          · refine hgone j ?_
            rw [Memory.get?_erase_of_ne (by simp [hjk]), hR.get?_eq hothers j]
            exact hj
        · rcases List.mem_cons.mp hj with rfl | hj
          · exact hkind
          · exact hall hr j hj
      · obtain ⟨_, rfl, rfl⟩ := h.of_pure
        refine ⟨fun j hj => ?_, by simp, ?_⟩
        · rw [hR.get?_eq hothers j]
          exact hj
        · rintro _ ⟨⟩
          exact he

/-- A dataset is rejected only when nothing of it is left. -/
theorem Plays.of_reject {o : Remote.Outcome} (hR : LeavesAlone R dataset)
    (h : Plays R (reject dataset) m xs o m') (ho : o.isSettled) (kind : Kind) :
    m'.get? ⟨dataset, kind⟩ = none := by
  obtain ⟨ys, r, m₁, zs, rfl, hq, h⟩ := h.of_bind
  obtain ⟨ys', r', m₂, zs', rfl, hd, hq⟩ := hq.of_bind
  obtain ⟨_, hall, herror⟩ := hd.of_deleteAll hR
  cases r' with
  | error e =>
      obtain ⟨_, rfl, rfl⟩ := hq.of_pure
      obtain ⟨_, rfl, rfl⟩ := h.of_pure
      rw [isSettled_outcomeOf (herror e rfl)] at ho
      cases ho
  | ok u =>
      obtain ⟨m₃, _, m₄, ws, rfl, hothers, hreport, hq⟩ := hq.of_call
      obtain ⟨m₅, _, m₆, ws, rfl, hothers', hcount, hq⟩ := hq.of_call
      obtain ⟨_, rfl, rfl⟩ := hq.of_pure
      obtain ⟨_, _, rfl⟩ := h.of_pure
      rw [hcount.eq_of_target? rfl, hR.get?_eq hothers' kind, hreport.eq_of_target? rfl,
        hR.get?_eq hothers kind]
      exact hall rfl kind (Artifact.Kind.mem_all kind)

/-! ## Promotion -/

theorem Plays.of_storeFetched {kind : Kind} {f : Remote.Fetched} {r : Except Remote.Outcome Unit}
    (hkind : kind ≠ .file)
    (h : Plays R (do
      match ← call (.store ⟨dataset, kind⟩ (fetchedUpload f)) with
      | .error e => return .error (outcomeOf e)
      | .ok () => return .ok () : Work (Except Remote.Outcome Unit)) m xs r m') :
    Prepares dataset xs ∧ (∀ x ∈ xs, x.call.target? = some ⟨dataset, kind⟩) ∧
      (r = .ok () → m'.statusOf? ⟨dataset, kind⟩ = some .stored) ∧
      ∀ o, r = .error o → o.isSettled = false := by
  obtain ⟨m₁, r₁, m₂, ys, rfl, hothers, hanswer, h⟩ := h.of_call
  rcases Answers.of_store hanswer rfl with ⟨rfl, rfl⟩ | ⟨e, rfl, he, rfl⟩
  · obtain ⟨rfl, rfl, rfl⟩ := h.of_pure
    refine ⟨.cons rfl (by simp [Call.target?, hkind]) .nil, by simp [Call.target?], fun _ => ?_,
      by simp⟩
    simp [Memory.statusOf?, fetchedUpload]
  · obtain ⟨rfl, rfl, rfl⟩ := h.of_pure
    refine ⟨.cons rfl (by simp [Call.target?, hkind]) .nil, by simp [Call.target?], by simp, ?_⟩
    rintro _ ⟨⟩
    exact isSettled_outcomeOf he

theorem Plays.of_adopt {kind : Kind} {location : String} {r : Except Remote.Outcome Unit}
    (hkind : kind ≠ .file) (h : Plays R (adopt dataset kind location) m xs r m') :
    Prepares dataset xs ∧
      (∀ x ∈ xs, x.call.target? = none ∨ x.call.target? = some ⟨dataset, kind⟩) ∧
      (r = .ok () → m'.statusOf? ⟨dataset, kind⟩ = some .stored) ∧
      ∀ o, r = .error o → o.isSettled = false := by
  obtain ⟨m₁, r₁, m₂, ys, rfl, _, hfetch, h⟩ := h.of_call
  cases r₁ with
  | error e =>
      obtain ⟨rfl, rfl, rfl⟩ := h.of_pure
      refine ⟨.cons rfl (by simp [Call.target?]) .nil, by simp [Call.target?], by simp, ?_⟩
      rintro _ ⟨⟩
      exact isSettled_outcomeOfFetch fun resource code he => hfetch.2 resource code (he ▸ rfl)
  | ok f =>
      simp only at h
      split at h
      · obtain ⟨m₃, r₃, m₄, ys, rfl, _, hdelete, h⟩ := h.of_call
        rcases Answers.of_delete hdelete with ⟨rfl, rfl⟩ | ⟨e, rfl, he, rfl⟩
        · obtain ⟨hp, ht, hok, herror⟩ := Plays.of_storeFetched hkind h
          refine ⟨.cons rfl (by simp [Call.target?]) (.cons rfl (by simp [Call.target?, hkind]) hp),
            ?_, hok, herror⟩
          intro x hx
          simp only [List.mem_cons] at hx
          rcases hx with rfl | rfl | hx
          · exact Or.inl rfl
          · exact Or.inr rfl
          · exact Or.inr (ht x hx)
        · obtain ⟨rfl, rfl, rfl⟩ := h.of_pure
          refine ⟨.cons rfl (by simp [Call.target?])
            (.cons rfl (by simp [Call.target?, hkind]) .nil), by simp [Call.target?], by simp, ?_⟩
          rintro _ ⟨⟩
          exact isSettled_outcomeOf he
      · obtain ⟨hp, ht, hok, herror⟩ := Plays.of_storeFetched hkind h
        refine ⟨.cons rfl (by simp [Call.target?]) hp, ?_, hok, herror⟩
        exact List.forall_mem_cons.mpr ⟨Or.inl rfl, fun x hx => Or.inr (ht x hx)⟩

theorem replaceable?_ne_file {p : Remote.Product} {kind : Kind} (h : replaceable? p = some kind) :
    kind ≠ .file := by
  unfold replaceable? at h
  split at h <;> cases h <;> simp

theorem statusOf?_congr {key : Artifact.Key} (h : m'.get? key = m.get? key) :
    m'.statusOf? key = m.statusOf? key :=
  congrArg (Option.map _) h

/-- The products are taken over, or the task is not settled; a metacard among them is approved. -/
theorem Plays.of_adoptAll {ps : List Remote.Product} {b : Bool} {r : Except Remote.Outcome Bool}
    (hR : LeavesAlone R dataset) (hb : b → m.statusOf? ⟨dataset, .metacard⟩ = some .stored)
    (h : Plays R (adoptAll dataset ps b) m xs r m') :
    Prepares dataset xs ∧ (r = .ok true → m'.statusOf? ⟨dataset, .metacard⟩ = some .stored) ∧
      ∀ o, r = .error o → o.isSettled = false := by
  induction ps generalizing b m xs with
  | nil =>
      obtain ⟨rfl, rfl, rfl⟩ := h.of_pure
      refine ⟨.nil, ?_, by simp⟩
      rintro ⟨⟩
      exact hb rfl
  | cons p ps ih =>
      simp only [Service.adoptAll] at h
      cases hp : replaceable? p with
      | none =>
          simp only [hp] at h
          obtain ⟨m₁, _, m₂, ys, rfl, hothers, hreport, h⟩ := h.of_call
          have hsame : m₂.get? ⟨dataset, .metacard⟩ = m.get? ⟨dataset, .metacard⟩ := by
            rw [hreport.eq_of_target? rfl, hR.get?_eq hothers]
          obtain ⟨hprep, hrest⟩ := ih (fun hb' => (statusOf?_congr hsame).trans (hb hb')) h
          exact ⟨.cons rfl (by simp [Call.target?]) hprep, hrest⟩
      | some kind =>
          simp only [hp] at h
          obtain ⟨ys, r₁, m₁, zs, rfl, hadopt, h⟩ := h.of_bind
          obtain ⟨hprep, htarget, hok, herror⟩ := hadopt.of_adopt (replaceable?_ne_file hp)
          cases r₁ with
          | error o =>
              obtain ⟨rfl, rfl, rfl⟩ := h.of_pure
              refine ⟨hprep.append .nil, by simp, ?_⟩
              rintro _ ⟨⟩
              exact herror o rfl
          | ok u =>
              have hstored : (b || decide (kind = .metacard)) →
                  m₁.statusOf? ⟨dataset, .metacard⟩ = some .stored := by
                intro hb'
                by_cases hk : kind = .metacard
                · rw [← hk]
                  exact hok rfl
                · have hsame : m₁.get? ⟨dataset, .metacard⟩ = m.get? ⟨dataset, .metacard⟩ :=
                    hadopt.get?_eq hR fun x hx => by
                      rcases htarget x hx with ht | ht <;> simp [ht, hk]
                  simp only [hk, decide_false, Bool.or_false] at hb'
                  exact (statusOf?_congr hsame).trans (hb hb')
              obtain ⟨hprep', hrest⟩ := ih hstored h
              exact ⟨hprep.append hprep', hrest⟩

theorem Plays.of_approveMetacard {r : Except Remote.Outcome Unit}
    (h : Plays R (approveMetacard dataset) m xs r m') :
    Prepares dataset xs ∧
      (r = .ok () → m'.get? ⟨dataset, .metacard⟩ = none ∨
        m'.statusOf? ⟨dataset, .metacard⟩ = some .stored) ∧
      ∀ o, r = .error o → o.isSettled = false := by
  obtain ⟨m₁, r₁, m₂, ys, rfl, _, hanswer, h⟩ := h.of_call
  have hprep : ∀ r, Prepares dataset [⟨.setStatus ⟨dataset, .metacard⟩ .stored, r⟩] := fun r =>
    .cons rfl (by simp [Call.target?]) .nil
  rcases Answers.of_setStatus hanswer with ⟨a, _, rfl, rfl⟩ | ⟨hnone, rfl, rfl⟩ | ⟨e, rfl, he, rfl⟩
  · obtain ⟨rfl, rfl, rfl⟩ := h.of_pure
    refine ⟨hprep _, fun _ => Or.inr ?_, by simp⟩
    simp [Memory.statusOf?]
  · obtain ⟨rfl, rfl, rfl⟩ := h.of_pure
    exact ⟨hprep _, fun _ => Or.inl hnone, by simp⟩
  · cases e with
    | notFound key => exact absurd rfl (he key)
    | _ =>
        obtain ⟨rfl, rfl, rfl⟩ := h.of_pure
        refine ⟨hprep _, by simp, ?_⟩
        rintro _ ⟨⟩
        exact isSettled_outcomeOf he

/-- The index service is asked once, and its answer decides. -/
theorem Plays.of_announce {site : Site} {o : Remote.Outcome}
    (h : Plays R (announce site dataset) m xs o m') :
    (∀ x ∈ xs, x.call.target? = none) ∧ indexed xs = [o] := by
  obtain ⟨m₁, o₁, m₂, ys, rfl, _, _, h⟩ := h.of_call
  simp only at h
  split at h
  · obtain ⟨_, _, _, ys, rfl, _, _, h⟩ := h.of_call
    obtain ⟨_, _, _, ys, rfl, _, _, h⟩ := h.of_call
    obtain ⟨rfl, rfl, rfl⟩ := h.of_pure
    exact ⟨by simp [Call.target?], rfl⟩
  · obtain ⟨rfl, rfl, rfl⟩ := h.of_pure
    exact ⟨by simp [Call.target?], rfl⟩

theorem Plays.of_approveFile {site : Site} {o : Remote.Outcome} (hR : LeavesAlone R dataset)
    (hfile : m.get? ⟨dataset, .file⟩ ≠ none)
    (h : Plays R (do
      match ← call (.setStatus ⟨dataset, .file⟩ .stored) with
      | .error e => return outcomeOf e
      | .ok () => announce site dataset) m xs o m') (ho : o.isSettled) :
    m'.statusOf? ⟨dataset, .file⟩ = some .stored ∧
      m'.get? ⟨dataset, .metacard⟩ = m.get? ⟨dataset, .metacard⟩ ∧ indexed xs = [o] := by
  have hwhole := h
  obtain ⟨m₁, r₁, m₂, ys, rfl, hothers, hanswer, h⟩ := h.of_call
  rcases Answers.of_setStatus hanswer with ⟨a, _, rfl, rfl⟩ | ⟨hnone, _, _⟩ | ⟨e, rfl, he, rfl⟩
  · obtain ⟨htarget, hindexed⟩ := h.of_announce
    refine ⟨?_, ?_, hindexed⟩
    · rw [statusOf?_congr (h.get?_eq hR fun x hx => by simp [htarget x hx])]
      simp [Memory.statusOf?]
    · refine hwhole.get?_eq hR (List.forall_mem_cons.mpr ⟨by simp [Call.target?], fun x hx => ?_⟩)
      simp [htarget x hx]
  · rw [hR.get?_eq hothers] at hnone
    exact absurd hnone hfile
  · obtain ⟨rfl, rfl, rfl⟩ := h.of_pure
    rw [isSettled_outcomeOf he] at ho
    cases ho

/-- A promotion settles the task only when there was nothing to promote, or when it is complete. -/
theorem Plays.of_promote {site : Site} {ps : List Remote.Product} {o : Remote.Outcome}
    (hR : LeavesAlone R dataset) (h : Plays R (promote site dataset ps) m xs o m')
    (ho : o.isSettled) :
    (m.get? ⟨dataset, .file⟩ = none ∧
      ∀ x ∈ xs, x.call.target? = none ∧ x.call.isFetch = false ∧ x.call.isIndex = false) ∨
    (IsPromoted m' dataset ∧ indexed xs = [o]) := by
  obtain ⟨m₁, r₁, m₂, ys, rfl, hothers, hanswer, h⟩ := h.of_call
  obtain ⟨rfl, hstatus⟩ := Answers.of_status hanswer
  rcases hstatus with ⟨a, hfile, rfl⟩ | ⟨hnone, rfl⟩ | ⟨e, rfl, he⟩
  · right
    obtain ⟨ys, r₂, m₃, zs, rfl, hadopt, h⟩ := h.of_bind
    obtain ⟨hprep, hstored, herror⟩ := hadopt.of_adoptAll hR (by simp)
    have hfile₃ : m₃.get? ⟨dataset, .file⟩ ≠ none := by
      rw [hadopt.get?_eq hR fun x hx => (hprep x hx).2, hfile]
      simp
    cases r₂ with
    | error o' =>
        obtain ⟨_, rfl, _⟩ := h.of_pure
        rw [herror _ rfl] at ho
        cases ho
    | ok replaced =>
        simp only at h
        cases replaced with
        | true =>
            obtain ⟨hdone, hcard, hindexed⟩ := Plays.of_approveFile hR hfile₃ h ho
            refine ⟨⟨hdone, Or.inr ((statusOf?_congr hcard).trans (hstored rfl))⟩, ?_⟩
            exact (indexed_append _ zs).trans (by rw [hprep.indexed_eq, hindexed, List.nil_append])
        | false =>
            obtain ⟨ys', r₄, m₄, ws, rfl, happrove, h⟩ := Plays.of_bind h
            obtain ⟨hprep', hcard, herror'⟩ := happrove.of_approveMetacard
            cases r₄ with
            | error o' =>
                obtain ⟨_, rfl, _⟩ := h.of_pure
                rw [herror' _ rfl] at ho
                cases ho
            | ok u =>
                have hfile₄ : m₄.get? ⟨dataset, .file⟩ ≠ none := by
                  rwa [happrove.get?_eq hR fun x hx => (hprep' x hx).2]
                obtain ⟨hdone, hsame, hindexed⟩ := Plays.of_approveFile hR hfile₄ h ho
                refine ⟨⟨hdone, ?_⟩, ?_⟩
                · rw [hsame, statusOf?_congr hsame]
                  exact hcard rfl
                · refine (indexed_append _ (ys' ++ ws)).trans ?_
                  rw [hprep.indexed_eq, indexed_append, hprep'.indexed_eq, hindexed,
                    List.nil_append, List.nil_append]
  · left
    obtain ⟨rfl, _, _⟩ := h.of_pure
    rw [hR.get?_eq hothers] at hnone
    exact ⟨hnone, by simp [Call.target?, Call.isFetch, Call.isIndex]⟩
  · obtain ⟨_, rfl, _⟩ := h.of_pure
    rw [isSettled_outcomeOf he] at ho
    cases ho

/-! ## The whole attempt -/

/-- The record of a job is discarded; a failure to do so is only written down. -/
theorem Plays.of_discardRecord {t : Poll.Task} {u : Unit}
    (h : Plays R (Poll.discardRecord t) m xs u m') : ∀ x ∈ xs, x.call.isReconciling = false := by
  obtain ⟨m₁, r, m₂, ys, rfl, _, _, h⟩ := h.of_call
  cases r with
  | ok u =>
      obtain ⟨rfl, _, _⟩ := h.of_pure
      simp [Call.isReconciling]
  | error e =>
      obtain ⟨_, _, _, ys, rfl, _, _, h⟩ := h.of_call
      obtain rfl := Plays.of_last_call h
      simp [Call.isReconciling]

theorem Plays.of_settle {t : Poll.Task} {v : Poll.Verdict} {o : Remote.Outcome} {out : Poll.Outcome}
    (h : Plays R (Poll.settle t v o) m xs out m') :
    (∀ x ∈ xs, x.call.isReconciling = false) ∧ out ≠ .vanished ∧
      ∀ v', out = .finalized v' → v' = v ∧ o.isSettled := by
  cases o with
  | success =>
      obtain ⟨ys, u, m₁, zs, rfl, hd, h⟩ := Plays.of_bind h
      obtain ⟨rfl, rfl, _⟩ := h.of_pure
      refine ⟨by simpa using hd.of_discardRecord, by simp, ?_⟩
      rintro _ ⟨⟩
      exact ⟨rfl, rfl⟩
  | notFound =>
      obtain ⟨m₁, r, m₂, ys, rfl, _, _, h⟩ := Plays.of_call h
      obtain ⟨ys, u, m₁, zs, rfl, hd, h⟩ := h.of_bind
      obtain ⟨rfl, rfl, _⟩ := h.of_pure
      refine ⟨?_, by simp, ?_⟩
      · exact List.forall_mem_cons.mpr ⟨rfl, by simpa using hd.of_discardRecord⟩
      · rintro _ ⟨⟩
        exact ⟨rfl, rfl⟩
  | badRequest reason =>
      obtain ⟨rfl, rfl, _⟩ := Plays.of_pure h
      exact ⟨by simp, by simp, by simp⟩
  | transient reason =>
      obtain ⟨rfl, rfl, _⟩ := Plays.of_pure h
      exact ⟨by simp, by simp, by simp⟩

def finding : Remote.Progress → Poll.Finding
  | .inProgress => .over (.retry "transform still in progress")
  | .transient reason => .over (.retry reason)
  | .notFound => .over .vanished
  | .done products => .done products
  | .failed _ => .failed

theorem Plays.of_inquire {t : Poll.Task} {f : Poll.Finding}
    (h : Plays R (Poll.inquire t) m xs f m') :
    ∃ p ys, xs = ⟨.count .polls, ()⟩ :: ⟨.poll t.statusUrl, p⟩ :: ys ∧ f = finding p ∧
      ∀ x ∈ ys, x.call.isReconciling = false := by
  obtain ⟨_, _, _, ys, rfl, _, _, h⟩ := h.of_call
  obtain ⟨_, p, _, ys, rfl, _, _, h⟩ := h.of_call
  cases p with
  | notFound =>
      obtain ⟨_, _, _, ys, rfl, _, _, h⟩ := h.of_call
      obtain ⟨rfl, rfl, _⟩ := h.of_pure
      exact ⟨.notFound, _, rfl, rfl, by simp [Call.isReconciling]⟩
  | _ =>
      obtain ⟨rfl, rfl, _⟩ := h.of_pure
      exact ⟨_, _, rfl, rfl, by simp⟩

theorem Plays.of_done {site : Site} {t : Poll.Task} {ps : List Remote.Product} {o : Poll.Outcome}
    (hR : LeavesAlone R t.dataset)
    (h : Plays R (do Poll.settle t .promoted (← promote site t.dataset ps)) m xs o m') :
    o ≠ .vanished ∧ o ≠ .finalized .quarantined ∧ (o = .finalized .promoted →
      (m.get? ⟨t.dataset, .file⟩ = none ∧
        ∀ x ∈ xs, x.call.target? = none ∧ x.call.isFetch = false ∧ x.call.isIndex = false) ∨
      (IsPromoted m' t.dataset ∧ (indexed xs = [.success] ∨ indexed xs = [.notFound]))) := by
  obtain ⟨ys, o₁, m₁, zs, rfl, hp, hs⟩ := h.of_bind
  obtain ⟨hquiet, hnot, hfinal⟩ := hs.of_settle
  refine ⟨hnot, fun ho => ?_, fun ho => ?_⟩
  · cases (hfinal _ ho).1
  · obtain ⟨_, hsettled⟩ := hfinal _ ho
    rcases hp.of_promote hR hsettled with ⟨hnone, hys⟩ | ⟨hdone, hindexed⟩
    · refine Or.inl ⟨hnone, List.forall_mem_append.mpr ⟨hys, fun x hx => ?_⟩⟩
      exact ⟨Call.target?_of_not_reconciling (hquiet x hx),
        Call.isFetch_of_not_reconciling (hquiet x hx), Call.isIndex_of_not_reconciling (hquiet x hx)⟩
    · have hsame : ∀ kind, m'.get? ⟨t.dataset, kind⟩ = m₁.get? ⟨t.dataset, kind⟩ := fun kind =>
        hs.get?_eq hR fun x hx => by simp [Call.target?_of_not_reconciling (hquiet x hx)]
      have hzs := (Prepares.of_not_reconciling t.dataset hquiet).indexed_eq
      refine Or.inr ⟨⟨?_, ?_⟩, ?_⟩
      · rw [statusOf?_congr (hsame .file)]
        exact hdone.file
      · rw [hsame, statusOf?_congr (hsame .metacard)]
        exact hdone.metacard
      · rw [indexed_append, hzs, hindexed]
        cases o₁ with
        | success => exact Or.inl rfl
        | notFound => exact Or.inr rfl
        | _ => cases hsettled

theorem Plays.of_failed {t : Poll.Task} {o : Poll.Outcome} (hR : LeavesAlone R t.dataset)
    (h : Plays R (do Poll.settle t .quarantined (← reject t.dataset)) m xs o m') :
    o ≠ .vanished ∧ o ≠ .finalized .promoted ∧
      (o = .finalized .quarantined → ∀ kind, m'.get? ⟨t.dataset, kind⟩ = none) := by
  obtain ⟨ys, o₁, m₁, zs, rfl, hr, hs⟩ := h.of_bind
  obtain ⟨hquiet, hnot, hfinal⟩ := hs.of_settle
  refine ⟨hnot, fun ho => ?_, fun ho kind => ?_⟩
  · cases (hfinal _ ho).1
  · rw [hs.get?_eq hR fun x hx => by simp [Call.target?_of_not_reconciling (hquiet x hx)]]
    exact hr.of_reject hR (hfinal _ ho).2 kind

/-- Whatever the surroundings answer, a task that is said to be quarantined or promoted is, and a poll
that settles nothing changes nothing. -/
theorem attempt_sound {site : Site} {t : Poll.Task} {o : Poll.Outcome}
    (hR : LeavesAlone R t.dataset)
    (h : Plays R (Poll.attempt ⟨promote site, reject⟩ t) m xs o m') :
    ∃ p ys, xs = ⟨.count .polls, ()⟩ :: ⟨.poll t.statusUrl, p⟩ :: ys ∧
      (o = .finalized .quarantined →
        (∃ ps, p = .failed ps) ∧ ∀ kind, m'.get? ⟨t.dataset, kind⟩ = none) ∧
      (o = .finalized .promoted → (∃ ps, p = .done ps) ∧
        ((m.get? ⟨t.dataset, .file⟩ = none ∧ ReflTransGen R m m' ∧
            ∀ x ∈ xs, x.call.isFetch = false ∧ x.call.isIndex = false) ∨
          (IsPromoted m' t.dataset ∧ (indexed xs = [.success] ∨ indexed xs = [.notFound])))) ∧
      (o = .vanished ∨ p = .inProgress ∨ (∃ reason, p = .transient reason) →
        ReflTransGen R m m' ∧ ∀ x ∈ xs, x.call.isReconciling = false) := by
  have hwhole := h
  obtain ⟨ys, f, m₁, zs, rfl, hi, h⟩ := h.of_bind
  obtain ⟨p, ys, rfl, rfl, hquiet⟩ := hi.of_inquire
  have hpolled : ∀ x ∈ (⟨.count .polls, ()⟩ : Exchange) :: ⟨.poll t.statusUrl, p⟩ :: ys,
      x.call.isReconciling = false :=
    List.forall_mem_cons.mpr ⟨rfl, List.forall_mem_cons.mpr ⟨rfl, hquiet⟩⟩
  have hsame : ∀ kind, m₁.get? ⟨t.dataset, kind⟩ = m.get? ⟨t.dataset, kind⟩ := fun kind =>
    hi.get?_eq hR fun x hx => by simp [Call.target?_of_not_reconciling (hpolled x hx)]
  refine ⟨p, ys ++ zs, rfl, ?_⟩
  -- A poll that decides alone makes no further call.
  have hover : ∀ o', finding p = .over o' → o = o' ∧ ReflTransGen R m m' ∧
      ∀ x ∈ ((⟨.count .polls, ()⟩ : Exchange) :: ⟨.poll t.statusUrl, p⟩ :: ys) ++ zs,
        x.call.isReconciling = false := by
    intro o' ho
    rw [ho] at h
    obtain ⟨rfl, ho', _⟩ := Plays.of_pure h
    rw [List.append_nil] at hwhole ⊢
    exact ⟨ho', hwhole.star fun x hx => Call.target?_of_not_reconciling (hpolled x hx), hpolled⟩
  cases p with
  | inProgress =>
      obtain ⟨rfl, hrest⟩ := hover _ rfl
      exact ⟨by simp, by simp, fun _ => hrest⟩
  | transient reason =>
      obtain ⟨rfl, hrest⟩ := hover _ rfl
      exact ⟨by simp, by simp, fun _ => hrest⟩
  | notFound =>
      obtain ⟨rfl, hrest⟩ := hover _ rfl
      exact ⟨by simp, by simp, fun _ => hrest⟩
  | failed ps =>
      obtain ⟨hnot, hne, hgone⟩ := Plays.of_failed hR h
      exact ⟨fun ho => ⟨⟨ps, rfl⟩, hgone ho⟩, fun ho => absurd ho hne, by simp [hnot]⟩
  | done ps =>
      obtain ⟨hnot, hne, hdone⟩ := Plays.of_done hR h
      refine ⟨fun ho => absurd ho hne, fun ho => ⟨⟨ps, rfl⟩, ?_⟩, by simp [hnot]⟩
      rcases hdone ho with ⟨hnone, hzs⟩ | ⟨hdone, hindexed⟩
      · rw [hsame] at hnone
        refine Or.inl ⟨hnone, hwhole.star fun x hx => ?_, fun x hx => ?_⟩
        · rcases List.mem_append.mp hx with hx | hx
          · exact Call.target?_of_not_reconciling (hpolled x hx)
          · exact (hzs x hx).1
        · rcases List.mem_append.mp hx with hx | hx
          · exact ⟨Call.isFetch_of_not_reconciling (hpolled x hx),
              Call.isIndex_of_not_reconciling (hpolled x hx)⟩
          · exact (hzs x hx).2
      · refine Or.inr ⟨hdone, ?_⟩
        rwa [indexed_append, (Prepares.of_not_reconciling t.dataset hpolled).indexed_eq,
          List.nil_append]

/-- Surroundings without failures, in which a poll says `p`. -/
def willing (p : Remote.Progress) : (c : Call) → Memory → c.Reply × Memory
  | .store key u, m => m.store key u
  | .delete key, m => m.delete key
  | .setStatus key s, m => m.setStatus key s
  | .retrieve key, m => (m.retrieve key, m)
  | .status key, m => (m.status key, m)
  | .poll _, m => (p, m)
  | .submit _, m => (.ok "/jobs/1", m)
  | .discard _, m => (.ok (), m)
  | .fetch _, m => (.ok ⟨"application/xml", []⟩, m)
  | .index .., m => (.success, m)
  | .enqueue .., m => (.ok (), m)
  | .freshName, m => ("a", m)
  | .report _, m => ((), m)
  | .count _, m => ((), m)
  | .deadLetters, m => ([], m)
  | .metrics, m => ([], m)

theorem run_call {α σ : Type} (handle : (c : Call) → σ → c.Reply × σ) (c : Call)
    (f : c.Reply → Work α) (st : σ) :
    (call c >>= f).run handle st = (f (handle c st).1).run handle (handle c st).2 := rfl

theorem run_download (p : Remote.Progress) (dataset : String) (kind : Kind) (m : Memory) :
    (download dataset kind).run (willing p) m =
      (match m.get? ⟨dataset, kind⟩ with
        | some a =>
          if a.metadata.status.isRetrievable then .ok ⟨a.mediaType, a.content, a.metadata.fileName⟩
          else .error (.notFound dataset kind)
        | none => .error (.notFound dataset kind), m) := by
  rw [download, run_call]
  simp only [willing, Memory.retrieve]
  cases m.get? ⟨dataset, kind⟩ with
  | none => rfl
  | some a =>
      simp only
      split <;> rfl

theorem answers_willing (p : Remote.Progress) (c : Call) (m : Memory) :
    Answers m (willing p c m).2 c (willing p c m).1 := by
  cases c with
  | fetch location => exact ⟨rfl, by simp [willing]⟩
  | store key u => exact Or.inl rfl
  | delete key => exact Or.inl rfl
  | setStatus key s => exact Or.inl rfl
  | retrieve key => exact Or.inl ⟨rfl, rfl⟩
  | status key => exact Or.inl ⟨rfl, rfl⟩
  | _ => rfl

def stagedDataset : Memory :=
  ⟨[(⟨"a", .file⟩, ⟨"image/tiff", [1], ⟨none, .staged⟩⟩),
    (⟨"a", .metacard⟩, ⟨"application/xml", [2], ⟨none, .staged⟩⟩)]⟩

theorem attempt_sound_stagedDataset :
    ∃ xs m', Plays (fun _ _ => False) (Poll.attempt ⟨promote ⟨"http://s"⟩, reject⟩ (.new "a" "/a" 0))
        stagedDataset xs (.finalized .promoted) m' ∧
      IsPromoted m' "a" ∧ (indexed xs = [.success] ∨ indexed xs = [.notFound]) := by
  have hR : LeavesAlone (fun _ _ => False) "a" := fun _ _ h => h.elim
  obtain ⟨xs, h⟩ := plays_run (R := fun _ _ => False)
    (answers_willing (.done [⟨"metacard", "/card"⟩]))
    (Poll.attempt ⟨promote ⟨"http://s"⟩, reject⟩ (.new "a" "/a" 0)) stagedDataset
  obtain ⟨_, _, _, _, hpromoted, _⟩ := attempt_sound (t := .new "a" "/a" 0) hR h
  rcases (hpromoted (by decide)).2 with ⟨hnone, _⟩ | hdone
  · exact absurd hnone (by decide)
  · exact ⟨xs, _, h, hdone⟩

end Service
end Intake
