import Intake.Proofs.Service.Convergence
import Intake.Proofs.Service.Advance
import Mathlib.Data.List.Induction

/-!
# What a promotion comes to

The collaborators answer a promotion as they like, each fetch for itself. Their answers decide what the
store holds after it and what it comes to: it takes over what it is brought until a fetch fails, and only
if none does it approves the dataset and asks the index service, once.
-/

namespace Intake

/-- The request was refused as it is; another attempt is refused again. -/
def Remote.Fault.IsRefusal (e : Fault) : Prop :=
  (∃ address reason, e = .invalidAddress address reason) ∨
    ∃ resource, e = .unexpectedStatus resource 400

namespace Service

open Store (Memory)
open Artifact (Key Kind)
open Remote (Fetched Outcome Product)

/-! ## The answers of the collaborators -/

/-- A call that goes to another service. -/
def Call.isOutward : Call → Bool
  | submit _ | poll _ | discard _ | fetch _ | index .. => true
  | _ => false

/-- What the collaborators answer during one promotion. -/
structure Replies where
  /-- The answer to the `n`-th fetch. -/
  fetch : Nat → Except Remote.Fault Fetched
  verdict : Outcome

/-- How far a promotion has come: the store, and what other services were asked, with their answers. -/
structure Course where
  store : Memory
  asked : List Exchange

namespace Replies

/-- The store does what it is asked, and so does everyone else. -/
def serve (p : Replies) : (c : Call) → Course → c.Reply × Memory
  | .fetch _, st => (p.fetch (st.asked.countP fun x => x.call.isFetch), st.store)
  | .index .., st => (p.verdict, st.store)
  | c, st => willing .inProgress c st.store

def handle (p : Replies) (c : Call) (st : Course) : c.Reply × Course :=
  let (r, m) := p.serve c st
  (r, ⟨m, if c.isOutward then st.asked ++ [⟨c, r⟩] else st.asked⟩)

/-- Promotes a dataset on a store; says what came of it. -/
def promote (p : Replies) (site : Site) (dataset : String) (ps : List Product) (m : Memory) :
    Outcome × Course :=
  (Service.promote site dataset ps).run p.handle ⟨m, []⟩

/-- The fetches of these products, which begin with the `n`-th. -/
def fetches (p : Replies) (n : Nat) (ps : List Product) : List Exchange :=
  (ps.zipIdx n).map fun q => ⟨.fetch q.1.location, p.fetch q.2⟩

/-- What the fetches bring until one fails. -/
def brought (p : Replies) : Nat → List Product → List (Product × Fetched)
  | _, [] => []
  | n, q :: ps =>
    match p.fetch n with
    | .ok f => (q, f) :: p.brought (n + 1) ps
    | .error _ => []

/-- The first fetch that fails. -/
def failure? (p : Replies) : Nat → List Product → Option Remote.Fault
  | _, [] => none
  | n, _ :: ps =>
    match p.fetch n with
    | .ok _ => p.failure? (n + 1) ps
    | .error e => some e

end Replies

/-! ## What is to be in the store -/

/-- The products that are fetched. -/
def adoptable (ps : List Product) : List Product := ps.filter fun p => (replaceable? p).isSome

/-- What was brought last of a kind. -/
def latest? (kind : Kind) (taken : List (Product × Fetched)) : Option Fetched :=
  (taken.filter fun q => replaceable? q.1 = some kind).getLast?.map Prod.snd

/-- What takes the place of an artifact when `taken` has been taken over. -/
def renewed (kind : Kind) (taken : List (Product × Fetched)) (old : Option Artifact) :
    Option Artifact :=
  match latest? kind taken with
  | some f => some ⟨f.mediaType, f.content, ⟨none, .stored⟩⟩
  | none => old

/-- The store when `taken` has been taken over. -/
def adoptedAll (dataset : String) (taken : List (Product × Fetched)) (m : Memory) : Memory :=
  taken.foldl (fun m q => adopted (fun _ => q.2) dataset m q.1) m

section

variable {dataset : String} {kind : Kind} {p : Product} {f : Fetched} {m : Memory}
  {taken : List (Product × Fetched)}

theorem latest?_concat : latest? kind (taken ++ [(p, f)]) =
    if replaceable? p = some kind then some f else latest? kind taken := by
  rw [latest?, List.filter_append]
  by_cases hp : replaceable? p = some kind <;> simp [hp, latest?]

theorem latest?_eq_none_iff :
    latest? kind taken = none ↔ ∀ q ∈ taken, replaceable? q.1 ≠ some kind := by
  simp [latest?]

theorem renewed_of_none (h : ∀ q ∈ taken, replaceable? q.1 ≠ some kind) (old : Option Artifact) :
    renewed kind taken old = old := by
  rw [renewed, latest?_eq_none_iff.mpr h]

theorem renewed_file (old : Option Artifact) : renewed .file taken old = old :=
  renewed_of_none (fun _ _ hq => replaceable?_ne_file hq rfl) old

theorem get?_adopted : (adopted (fun _ => f) dataset m p).get? ⟨dataset, kind⟩ =
    if replaceable? p = some kind then some (fetchedUpload f).toArtifact
    else m.get? ⟨dataset, kind⟩ := by
  cases hp : replaceable? p with
  | none => simp [adopted_of_none hp]
  | some other =>
      rw [adopted_of_some hp]
      by_cases hk : other = kind
      · simp [hk]
      · rw [Memory.get?_insert_of_ne (by simp [Ne.symm hk]), if_neg (by simp [hk])]

theorem get?_adopted_of_ne {key : Key} (h : key.dataset ≠ dataset) :
    (adopted (fun _ => f) dataset m p).get? key = m.get? key := by
  cases hp : replaceable? p with
  | none => rw [adopted_of_none hp]
  | some other =>
      rw [adopted_of_some hp, Memory.get?_insert_of_ne]
      rintro rfl
      exact h rfl

theorem adoptedAll_cons : adoptedAll dataset ((p, f) :: taken) m =
    adoptedAll dataset taken (adopted (fun _ => f) dataset m p) := by
  simp only [adoptedAll, List.foldl_cons]

theorem adoptedAll_concat : adoptedAll dataset (taken ++ [(p, f)]) m =
    adopted (fun _ => f) dataset (adoptedAll dataset taken m) p := by
  simp only [adoptedAll, List.foldl_append, List.foldl_cons, List.foldl_nil]

/-- The last of each kind stays. -/
theorem get?_adoptedAll (taken : List (Product × Fetched)) :
    (adoptedAll dataset taken m).get? ⟨dataset, kind⟩ =
      renewed kind taken (m.get? ⟨dataset, kind⟩) := by
  induction taken using List.reverseRecOn with
  | nil => rfl
  | append_singleton taken q ih =>
      obtain ⟨p, f⟩ := q
      rw [adoptedAll_concat, get?_adopted, renewed, latest?_concat]
      by_cases hp : replaceable? p = some kind
      · rw [if_pos hp, if_pos hp]
        rfl
      · rw [if_neg hp, if_neg hp]
        exact ih

theorem get?_adoptedAll_of_ne {key : Key} (h : key.dataset ≠ dataset)
    (taken : List (Product × Fetched)) : (adoptedAll dataset taken m).get? key = m.get? key := by
  induction taken generalizing m with
  | nil => rfl
  | cons q taken ih =>
      rw [adoptedAll_cons]
      exact ih.trans (get?_adopted_of_ne h)

/-- The store when the dataset has been approved: its metacard only if none was taken over. -/
def approvedAfter (dataset : String) (replaced : Bool) (m : Memory) : Memory :=
  ((if replaced then m else (m.setStatus ⟨dataset, .metacard⟩ .stored).2).setStatus
    ⟨dataset, .file⟩ .stored).2

theorem get?_setStatus_self {key : Key} :
    (m.setStatus key .stored).2.get? key = (m.get? key).map Artifact.approved := by
  cases ha : m.get? key with
  | none => rw [Memory.setStatus_of_none ha, ha, Option.map_none]
  | some a =>
      rw [Memory.setStatus_of_get? ha, Memory.get?_insert_self]
      rfl

variable {replaced : Bool}

theorem get?_approvedAfter_of_ne {key : Key} (hfile : key ≠ ⟨dataset, .file⟩)
    (hcard : key ≠ ⟨dataset, .metacard⟩) :
    (approvedAfter dataset replaced m).get? key = m.get? key := by
  rw [approvedAfter, Memory.get?_setStatus_of_ne hfile]
  cases replaced with
  | true => rfl
  | false => exact Memory.get?_setStatus_of_ne hcard

theorem get?_approvedAfter_file : (approvedAfter dataset replaced m).get? ⟨dataset, .file⟩ =
    (m.get? ⟨dataset, .file⟩).map Artifact.approved := by
  rw [approvedAfter, get?_setStatus_self]
  cases replaced with
  | true => rfl
  | false => rw [if_neg (by simp), Memory.get?_setStatus_of_ne (by simp)]

theorem get?_approvedAfter_metacard :
    (approvedAfter dataset replaced m).get? ⟨dataset, .metacard⟩ =
      if replaced then m.get? ⟨dataset, .metacard⟩
      else (m.get? ⟨dataset, .metacard⟩).map Artifact.approved := by
  rw [approvedAfter, Memory.get?_setStatus_of_ne (by simp)]
  cases replaced with
  | true => rfl
  | false => exact get?_setStatus_self

end

/-! ## One promotion -/

theorem outcomeOfFetch_cases {e : Remote.Fault}
    (h : ∀ resource code, e = .unexpectedStatus resource code →
      Http.Status.isSuccess ⟨code⟩ = false) :
    (e.IsRefusal ∧ ∃ reason, outcomeOfFetch e = .badRequest reason) ∨
      (¬ e.IsRefusal ∧ ∃ reason, outcomeOfFetch e = .transient reason) := by
  cases e with
  | transport e => exact .inr ⟨by simp [Remote.Fault.IsRefusal], _, rfl⟩
  | missingLocation d => exact .inr ⟨by simp [Remote.Fault.IsRefusal], _, rfl⟩
  | invalidAddress address reason => exact .inl ⟨.inl ⟨_, _, rfl⟩, _, rfl⟩
  | unexpectedStatus resource code =>
      have hcode := h resource code rfl
      by_cases hbad : code = 400
      · subst hbad
        exact .inl ⟨.inr ⟨_, rfl⟩, _, rfl⟩
      · refine .inr ⟨by simp [Remote.Fault.IsRefusal, hbad], ?_⟩
        by_cases hmissing : code = 404
        · subst hmissing
          exact ⟨_, rfl⟩
        · unfold outcomeOfFetch Remote.Outcome.ofFault Remote.Outcome.ofStatus
          simp only [hcode, hbad, hmissing, Bool.false_eq_true, if_false]
          by_cases hvalid : Http.Status.isValidCode code <;> simp [hvalid]

namespace Replies

variable {p : Replies} {site : Site} {dataset : String} {m : Memory} {xs : List Exchange} {n : Nat}

theorem run_adopt {kind : Kind} {q : Product} (hq : replaceable? q = some kind)
    (hn : xs.countP (fun x => x.call.isFetch) = n) :
    (adopt dataset kind q.location).run p.handle ⟨m, xs⟩ =
      match p.fetch n with
      | .error e => (.error (outcomeOfFetch e), ⟨m, xs ++ [⟨.fetch q.location, .error e⟩]⟩)
      | .ok f =>
        (.ok (), ⟨adopted (fun _ => f) dataset m q, xs ++ [⟨.fetch q.location, .ok f⟩]⟩) := by
  rw [adopt, run_call]
  simp only [handle, serve, hn, Call.isOutward, if_true]
  cases p.fetch n with
  | error e => rfl
  | ok f =>
      simp only [adopted_of_some hq]
      by_cases hk : kind = .metacard
      · rw [if_pos hk, run_call]
        simp only [handle, serve, willing, Memory.delete, Call.isOutward]
        rw [run_call]
        simp only [handle, serve, willing, Trial.store_fetchedUpload, Memory.insert_erase_self]
        rfl
      · rw [if_neg hk, pure_bind, run_call]
        simp only [handle, serve, willing, Trial.store_fetchedUpload]
        rfl

theorem fetches_cons (q : Product) (qs : List Product) :
    p.fetches n (q :: qs) = ⟨.fetch q.location, p.fetch n⟩ :: p.fetches (n + 1) qs := rfl

variable (p dataset) in
/-- The products are fetched in turn, and what comes is taken over, until a fetch fails. -/
theorem run_adoptAll (qs : List Product) (b : Bool)
    (hn : xs.countP (fun x => x.call.isFetch) = n) :
    (adoptAll dataset qs b).run p.handle ⟨m, xs⟩ =
      (match p.failure? n (adoptable qs) with
        | some e => .error (outcomeOfFetch e)
        | none => .ok (b || qs.any (replaceable? · = some .metacard)),
      ⟨adoptedAll dataset (p.brought n (adoptable qs)) m,
        xs ++ p.fetches n ((adoptable qs).take ((p.brought n (adoptable qs)).length + 1))⟩) := by
  -- Along the products, with any store and any calls so far.
  induction qs generalizing m xs n b with
  | nil =>
      simp only [adoptable, List.filter_nil, failure?, brought, List.take_nil, fetches,
        List.zipIdx_nil, List.map_nil, List.append_nil, List.any_nil, Bool.or_false]
      rfl
  | cons q qs ih =>
      rw [adoptAll]
      cases hq : replaceable? q with
      | none =>
          have hrest : adoptable (q :: qs) = adoptable qs := by simp [adoptable, hq]
          rw [hrest]
          simp only
          rw [run_call]
          have hany : (q :: qs).any (replaceable? · = some .metacard) =
              qs.any (replaceable? · = some .metacard) := by simp [hq]
          rw [hany]
          exact ih b hn
      | some kind =>
          have hrest : adoptable (q :: qs) = q :: adoptable qs := by simp [adoptable, hq]
          rw [hrest]
          simp only
          rw [Script.run_bind, run_adopt hq hn]
          cases hf : p.fetch n with
          | error e =>
              simp only [failure?, brought, hf, List.length_nil, List.take_succ_cons, List.take_zero,
                fetches_cons]
              rfl
          | ok f =>
              have hcount : (xs ++ [(⟨.fetch q.location, .ok f⟩ : Exchange)]).countP
                  (fun x => x.call.isFetch) = n + 1 := by
                rw [List.countP_append, hn]
                rfl
              simp only [failure?, brought, hf, List.length_cons, List.take_succ_cons, fetches_cons]
              rw [ih (b || kind = .metacard) hcount, List.append_assoc]
              simp only [List.any_cons, hq, Option.some.injEq, Bool.or_assoc, adoptedAll_cons,
                List.singleton_append]

/-- The one call of the index service, with its answer. -/
def announcement (p : Replies) (site : Site) (dataset : String) : Exchange :=
  ⟨.index dataset ⟨site.artifactUrl dataset .file, site.artifactUrl dataset .irm,
    site.artifactUrl dataset .metacard⟩, p.verdict⟩

theorem run_announce : (announce site dataset).run p.handle ⟨m, xs⟩ =
    (p.verdict, ⟨m, xs ++ [p.announcement site dataset]⟩) := by
  rw [announce, run_call]
  split <;> rfl

/-- The file is there, so it is approved and the index service is asked. -/
theorem run_approveFile (h : m.get? ⟨dataset, .file⟩ ≠ none) :
    (do
      match ← call (.setStatus ⟨dataset, .file⟩ .stored) with
      | .error e => return outcomeOf e
      | .ok () => announce site dataset : Work Outcome).run p.handle ⟨m, xs⟩ =
      (p.verdict, ⟨(m.setStatus ⟨dataset, .file⟩ .stored).2,
        xs ++ [p.announcement site dataset]⟩) := by
  obtain ⟨a, ha⟩ := Option.ne_none_iff_exists'.mp h
  rw [run_call]
  simp only [handle, serve, willing, Memory.setStatus_of_get? ha]
  exact run_announce

theorem run_approveMetacard : (approveMetacard dataset).run p.handle ⟨m, xs⟩ =
    (.ok (), ⟨(m.setStatus ⟨dataset, .metacard⟩ .stored).2, xs⟩) := by
  rw [approveMetacard, run_call]
  simp only [handle, serve, willing]
  cases ha : m.get? ⟨dataset, .metacard⟩ with
  | none =>
      rw [Memory.setStatus_of_none ha]
      rfl
  | some a =>
      rw [Memory.setStatus_of_get? ha]
      rfl

theorem promote_of_absent {ps : List Product} (h : m.get? ⟨dataset, .file⟩ = none) :
    p.promote site dataset ps m = (.notFound, ⟨m, []⟩) := by
  rw [Replies.promote, Service.promote, run_call]
  simp only [handle, serve, willing, Memory.status, Memory.retrieve, h, Except.map]
  rfl

theorem exists_of_failure? {qs : List Product} {e : Remote.Fault} (h : p.failure? n qs = some e) :
    ∃ k, p.fetch k = .error e := by
  induction qs generalizing n with
  | nil => cases h
  | cons q qs ih =>
      simp only [failure?] at h
      cases hf : p.fetch n with
      | ok f =>
          simp only [hf] at h
          exact ih h
      | error e' =>
          simp only [hf, Option.some.injEq] at h
          exact ⟨n, h ▸ hf⟩

theorem map_brought {qs : List Product} (h : p.failure? n qs = none) :
    (p.brought n qs).map Prod.fst = qs := by
  induction qs generalizing n with
  | nil => rfl
  | cons q qs ih =>
      simp only [failure?] at h
      simp only [brought]
      cases hf : p.fetch n with
      | error e => simp [hf] at h
      | ok f =>
          simp only [hf] at h
          rw [List.map_cons, ih h]

/-- Where no fetch fails, a kind is taken over exactly if a product has it. -/
theorem latest?_brought {ps : List Product} {kind : Kind}
    (h : p.failure? 0 (adoptable ps) = none) :
    latest? kind (p.brought 0 (adoptable ps)) = none ↔
      ps.any (replaceable? · = some kind) = false := by
  have htaken : ∀ q, q ∈ adoptable ps ↔ ∃ f, (q, f) ∈ p.brought 0 (adoptable ps) := fun q => by
    conv_lhs => rw [← map_brought h]
    simp
  rw [latest?_eq_none_iff]
  constructor
  · intro hnone
    refine Bool.eq_false_iff.mpr fun hany => ?_
    obtain ⟨q, hq, hkind⟩ := any_replaceable?_iff.mp hany
    obtain ⟨f, hf⟩ := (htaken q).mp (List.mem_filter.mpr ⟨hq, by simp [hkind]⟩)
    exact hnone _ hf hkind
  · intro hany q hq hkind
    have hmem : q.1 ∈ ps := (List.mem_filter.mp ((htaken q.1).mpr ⟨q.2, hq⟩)).1
    exact Bool.eq_false_iff.mp hany (any_replaceable?_iff.mpr ⟨_, hmem, hkind⟩)

/-- A metacard that was taken over is approved as it is. -/
theorem renewed_brought {ps : List Product} {old : Option Artifact}
    (h : p.failure? 0 (adoptable ps) = none) :
    (if ps.any (replaceable? · = some .metacard) then
        renewed .metacard (p.brought 0 (adoptable ps)) old
      else (renewed .metacard (p.brought 0 (adoptable ps)) old).map Artifact.approved) =
      renewed .metacard (p.brought 0 (adoptable ps)) (old.map Artifact.approved) := by
  have hlatest : latest? .metacard (p.brought 0 (adoptable ps)) = none ↔ _ := latest?_brought h
  rw [renewed, renewed]
  cases hany : ps.any (replaceable? · = some .metacard) with
  | false =>
      rw [hlatest.mpr hany]
      rfl
  | true =>
      obtain ⟨f, hf⟩ := Option.ne_none_iff_exists'.mp fun hnone =>
        Bool.eq_false_iff.mp (hlatest.mp hnone) hany
      rw [hf]
      rfl

variable {ps : List Product}

/-- The first fetch that fails decides. -/
theorem promote_of_failure {e : Remote.Fault} (h : m.get? ⟨dataset, .file⟩ ≠ none)
    (hfailure : p.failure? 0 (adoptable ps) = some e) :
    p.promote site dataset ps m =
      (outcomeOfFetch e, ⟨adoptedAll dataset (p.brought 0 (adoptable ps)) m,
        p.fetches 0 ((adoptable ps).take ((p.brought 0 (adoptable ps)).length + 1))⟩) := by
  obtain ⟨a, ha⟩ := Option.ne_none_iff_exists'.mp h
  rw [Replies.promote, Service.promote, run_call]
  simp only [handle, serve, willing, Memory.status, Memory.retrieve, ha, Except.map, Call.isOutward,
    Bool.false_eq_true, if_false]
  rw [Script.run_bind, run_adoptAll p dataset ps false (n := 0) rfl, hfailure]
  rfl

/-- If none fails, the dataset is approved and announced. -/
theorem promote_of_clear (h : m.get? ⟨dataset, .file⟩ ≠ none)
    (hclear : p.failure? 0 (adoptable ps) = none) :
    p.promote site dataset ps m =
      (p.verdict, ⟨approvedAfter dataset (ps.any (replaceable? · = some .metacard))
        (adoptedAll dataset (p.brought 0 (adoptable ps)) m),
          p.fetches 0 (adoptable ps) ++ [p.announcement site dataset]⟩) := by
  obtain ⟨a, ha⟩ := Option.ne_none_iff_exists'.mp h
  have hfile :
      (adoptedAll dataset (p.brought 0 (adoptable ps)) m).get? ⟨dataset, .file⟩ ≠ none := by
    rwa [get?_adoptedAll, renewed_file]
  have hall : (adoptable ps).take ((p.brought 0 (adoptable ps)).length + 1) = adoptable ps := by
    refine List.take_of_length_le (Nat.le_succ_of_le (Nat.le_of_eq ?_))
    rw [← List.length_map Prod.fst, map_brought hclear]
  rw [Replies.promote, Service.promote, run_call]
  simp only [handle, serve, willing, Memory.status, Memory.retrieve, ha, Except.map, Call.isOutward,
    Bool.false_eq_true, if_false]
  rw [Script.run_bind, run_adoptAll p dataset ps false (n := 0) rfl, hclear, hall]
  simp only [Bool.false_or, List.nil_append, approvedAfter]
  cases ps.any (replaceable? · = some .metacard) with
  | true =>
      simp only [if_true, pure_bind]
      exact run_approveFile hfile
  | false =>
      simp only [Bool.false_eq_true, if_false]
      rw [Script.run_bind, run_approveMetacard]
      refine run_approveFile ?_
      rwa [Memory.get?_setStatus_of_ne (by simp)]

end Replies

/-- What a promotion comes to, whatever the collaborators answer. Without a file nothing happens. Else the
products that may be replaced are fetched in turn until a fetch fails, and the last of each kind is
stored. If a fetch fails, that decides what came of it, and the file stays as it was; if none does, the
file and a metacard that was not replaced are approved, and the index service is asked once and its
answer returned. -/
theorem promote_computes {p : Replies} {site : Site} {dataset : String} {ps : List Product} {m : Memory}
    (hstatus : ∀ n resource code, p.fetch n = .error (.unexpectedStatus resource code) →
      Http.Status.isSuccess ⟨code⟩ = false) :
    (m.get? ⟨dataset, .file⟩ = none → p.promote site dataset ps m = (.notFound, ⟨m, []⟩)) ∧
    ∀ a, m.get? ⟨dataset, .file⟩ = some a →
      let wanted := adoptable ps
      let taken := p.brought 0 wanted
      let r := p.promote site dataset ps m
      (∀ key, key.dataset ≠ dataset → r.2.store.get? key = m.get? key) ∧
      r.2.store.get? ⟨dataset, .irm⟩ = renewed .irm taken (m.get? ⟨dataset, .irm⟩) ∧
      match p.failure? 0 wanted with
      | some e =>
        (e.IsRefusal ∧ (∃ reason, r.1 = .badRequest reason) ∨
          ¬ e.IsRefusal ∧ ∃ reason, r.1 = .transient reason) ∧
        r.2.asked = p.fetches 0 (wanted.take (taken.length + 1)) ∧
        r.2.store.get? ⟨dataset, .file⟩ = some a ∧
        r.2.store.get? ⟨dataset, .metacard⟩ =
          renewed .metacard taken (m.get? ⟨dataset, .metacard⟩)
      | none =>
        r.1 = p.verdict ∧
        r.2.asked = p.fetches 0 wanted ++ [p.announcement site dataset] ∧
        r.2.store.get? ⟨dataset, .file⟩ = some a.approved ∧
        r.2.store.get? ⟨dataset, .metacard⟩ =
          renewed .metacard taken ((m.get? ⟨dataset, .metacard⟩).map Artifact.approved) := by
  refine ⟨Replies.promote_of_absent, fun a ha => ?_⟩
  have hpresent : m.get? ⟨dataset, .file⟩ ≠ none := by simp [ha]
  intro wanted taken r
  cases hfailure : p.failure? 0 wanted with
  | some e =>
      obtain ⟨k, hk⟩ := Replies.exists_of_failure? hfailure
      rw [show r = _ from Replies.promote_of_failure hpresent hfailure]
      refine ⟨fun key h => get?_adoptedAll_of_ne h taken, get?_adoptedAll taken,
        outcomeOfFetch_cases fun resource code he => hstatus k resource code (he ▸ hk), rfl, ?_,
        get?_adoptedAll taken⟩
      exact (get?_adoptedAll taken).trans ((renewed_file _).trans ha)
  | none =>
      have hne {key : Key} (h : key.dataset ≠ dataset) (kind : Kind) : key ≠ ⟨dataset, kind⟩ := by
        rintro rfl
        exact h rfl
      rw [show r = _ from Replies.promote_of_clear hpresent hfailure]
      refine ⟨fun key h => ?_, ?_, rfl, rfl, ?_, ?_⟩
      · exact (get?_approvedAfter_of_ne (hne h _) (hne h _)).trans (get?_adoptedAll_of_ne h taken)
      · exact (get?_approvedAfter_of_ne (by simp) (by simp)).trans (get?_adoptedAll taken)
      · rw [get?_approvedAfter_file, get?_adoptedAll, renewed_file, ha, Option.map_some]
      · rw [get?_approvedAfter_metacard, get?_adoptedAll]
        exact Replies.renewed_brought hfailure

/-- The first two fetches bring a description each, and what the others would bring is not there. -/
def goneReplies : Replies where
  fetch
    | 0 => .ok ⟨"text/xml", [3]⟩
    | 1 => .ok ⟨"text/xml", [4]⟩
    | _ => .error (.unexpectedStatus "irm" 404)
  verdict := .success

/-- The promotion stops at its third fetch; the second description has replaced the first. -/
theorem promote_computes_gone :
    let ps : List Product := [⟨" IRM ", "/1"⟩, ⟨"file", "/2"⟩, ⟨"irm", "/3"⟩, ⟨"metacard", "/4"⟩,
      ⟨"irm", "/5"⟩]
    let r := goneReplies.promote ⟨"http://s"⟩ "a" ps stagedDataset
    (∀ n resource code, goneReplies.fetch n = .error (.unexpectedStatus resource code) →
      Http.Status.isSuccess ⟨code⟩ = false) ∧
    stagedDataset.get? ⟨"a", .file⟩ = some ⟨"image/tiff", [1], ⟨none, .staged⟩⟩ ∧
    (∃ reason, r.1 = .transient reason) ∧
    r.2.asked.map Exchange.call = [.fetch "/1", .fetch "/3", .fetch "/4"] ∧
    r.2.store.get? ⟨"a", .irm⟩ = some ⟨"text/xml", [4], ⟨none, .stored⟩⟩ ∧
    r.2.store.get? ⟨"a", .file⟩ = some ⟨"image/tiff", [1], ⟨none, .staged⟩⟩ := by
  have hstatus (n : Nat) (resource : String) (code : Nat)
      (h : goneReplies.fetch n = .error (.unexpectedStatus resource code)) :
      Http.Status.isSuccess ⟨code⟩ = false := by
    match n with
    | 0 | 1 => cases h
    | _ + 2 =>
      cases h
      rfl
  have hfile : stagedDataset.get? ⟨"a", .file⟩ = some ⟨"image/tiff", [1], ⟨none, .staged⟩⟩ := rfl
  intro ps r
  have hall := @promote_computes goneReplies ⟨"http://s"⟩ "a" ps stagedDataset hstatus
  obtain ⟨_, hirm, houtcome, hasked, hkept, _⟩ := hall.2 _ hfile
  refine ⟨hstatus, hfile, ?_, ?_, hirm.trans (by decide), hkept⟩
  · rcases houtcome with ⟨hrefused, _⟩ | ⟨_, hreason⟩
    · simp [Remote.Fault.IsRefusal] at hrefused
    · exact hreason
  · rw [hasked]
    decide

end Service
end Intake
