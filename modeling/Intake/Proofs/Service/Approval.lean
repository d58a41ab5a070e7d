import Intake.Proofs.Service.Advance
import Intake.Proofs.Service.Replacement

/-!
# What becomes of a quarantined artifact

What is tagged as quarantined cannot be downloaded. The tag is kept by all work but a promotion, which
approves the metacard and the file that it finds without a look at their tags: what it leaves in place
can be downloaded afterwards.
-/

namespace Intake.Service

open Store (Memory)
open Artifact (Key Kind)
open Remote (Outcome Product)

namespace Exchange

/-- The artifact under a key has been approved as it is. -/
def Approves (key : Key) : Exchange → Prop
  | ⟨.setStatus k s, .ok ()⟩ => k = key ∧ s = .stored
  | _ => False

/-- Something has been stored under a key. -/
def Stores (key : Key) : Exchange → Prop
  | ⟨.store k _, .ok ()⟩ => k = key
  | _ => False

end Exchange

/-- What a call does to an artifact that it does not store. -/
inductive Touches (key : Key) (x : Exchange) (m m' : Memory) : Prop
  | spares (same : m'.get? key = m.get? key) (unapproved : ¬ x.Approves key)
  | deletes (call : x.call = .delete key) (gone : m'.get? key = none)
  | approves {a : Artifact} (approval : x.Approves key) (before : m.get? key = some a)
      (after : m'.get? key = some a.approved)

/-- What has become of an artifact after these calls, if nothing has been stored in its place. -/
inductive Tag (key : Key) (a : Artifact) (xs : List Exchange) (m : Memory) : Prop
  | kept (unapproved : ∀ x ∈ xs, ¬ x.Approves key) (same : m.get? key = some a ∨ m.get? key = none)
  | lifted {x : Exchange} (mem : x ∈ xs) (approval : x.Approves key) (kind : key.kind ≠ .irm)
      (same : m.get? key = some a.approved)

/-- A call by which a promotion ends. -/
def Call.Closes (dataset : String) (c : Call) : Prop :=
  c.target? = none ∨ c = .setStatus ⟨dataset, .metacard⟩ .stored ∨
    c = .setStatus ⟨dataset, .file⟩ .stored

/-- Whatever the replies, an artifact is approved only at the end of a promotion. -/
def Concludes {α : Type} (dataset : String) : Work α → Prop
  | .done _ => True
  | .ask c next => ∀ r, Concludes dataset (next r) ∧
      ∀ key, Exchange.Approves key ⟨c, r⟩ →
        key.kind ≠ .irm ∧ (next r).Always (Call.Closes dataset)

section

variable {α β : Type} {dataset : String} {kind : Kind} {key : Key} {m m' : Memory}
  {xs : List Exchange} {x : Exchange} {a : Artifact} {c : Call} {r : c.Reply} {w w' : Work α}
  {f : α → Work β}

/-! ## One call -/

theorem Exchange.not_approves_of_ne_setStatus (h : ∀ k s, x.call ≠ .setStatus k s) :
    ¬ x.Approves key := by
  obtain ⟨c, r⟩ := x
  cases c with
  | setStatus k s => exact absurd rfl (h k s)
  | _ => exact id

theorem Exchange.not_stores_of_ne_store (h : ∀ k u, x.call ≠ .store k u) : ¬ x.Stores key := by
  obtain ⟨c, r⟩ := x
  cases c with
  | store k u => exact absurd rfl (h k u)
  | _ => exact id

theorem Exchange.not_approves_of_target? (h : x.call.target? ≠ some key) : ¬ x.Approves key := by
  obtain ⟨c, r⟩ := x
  cases c with
  | setStatus k s =>
      cases r with
      | error e => exact id
      | ok => exact fun happroves => h (congrArg some happroves.1)
  | _ => exact id

theorem Call.Closes.ne_delete (h : c.Closes dataset) (key : Key) : c ≠ .delete key := by
  rintro rfl
  rcases h with h | h | h <;> cases h

theorem Call.Closes.ne_store (h : c.Closes dataset) (key : Key) (u : Artifact.Upload) :
    c ≠ .store key u := by
  rintro rfl
  rcases h with h | h | h <;> cases h

theorem Call.Closes.kind_ne_irm (h : c.Closes dataset) (approval : Exchange.Approves key ⟨c, r⟩) :
    key.kind ≠ .irm := by
  rcases h with h | rfl | rfl
  · exact absurd approval (Exchange.not_approves_of_target? (by simp [h]))
  · cases r with
    | error e => exact approval.elim
    | ok => simp [← approval.1]
  · cases r with
    | error e => exact approval.elim
    | ok => simp [← approval.1]

theorem Serves.touches (hserves : Serves m m' c r) (hc : c.Tends dataset)
    (hstores : ¬ (⟨c, r⟩ : Exchange).Stores key) : Touches key ⟨c, r⟩ m m' := by
  by_cases htarget : c.target? = some key
  · cases c with
    | store k u =>
        obtain rfl := Option.some.inj htarget
        rcases hserves with h | ⟨e, rfl, -, rfl⟩
        · unfold Memory.store at h
          split at h
          · obtain ⟨rfl, rfl⟩ := Prod.mk.inj h
            exact .spares rfl id
          · obtain ⟨rfl, rfl⟩ := Prod.mk.inj h
            exact absurd rfl hstores
        · exact .spares rfl id
    | delete k =>
        obtain rfl := Option.some.inj htarget
        rcases Answers.of_delete hserves with ⟨rfl, rfl⟩ | ⟨e, rfl, -, rfl⟩
        · exact .deletes rfl Memory.get?_erase_self
        · exact .spares rfl id
    | setStatus k s =>
        obtain rfl := Option.some.inj htarget
        obtain rfl := hc.2
        rcases Answers.of_setStatus hserves with ⟨a, ha, rfl, rfl⟩ | ⟨-, rfl, rfl⟩ | ⟨e, rfl, -, rfl⟩
        · exact .approves ⟨rfl, rfl⟩ ha Memory.get?_insert_self
        · exact .spares rfl id
        · exact .spares rfl id
    | _ => cases htarget
  · exact .spares (hserves.get?_of_ne htarget) (Exchange.not_approves_of_target? htarget)

/-! ## A piece of work -/

theorem Undisturbed.forall_mem {P : Call → Prop} (h : Undisturbed dataset w m xs w' m')
    (hw : w.Always P) : ∀ x ∈ xs, P x.call := by
  induction h with
  | here => simp
  | ask _ _ _ ih => exact List.forall_mem_cons.mpr ⟨hw.1, ih (hw.2 _)⟩

/-- What is not there cannot be approved. -/
theorem Undisturbed.absent (h : Undisturbed dataset w m xs w' m') (hw : w.Always (Call.Tends dataset))
    (hstores : ∀ x ∈ xs, ¬ x.Stores ⟨dataset, kind⟩) (hm : m.get? ⟨dataset, kind⟩ = none) :
    (∀ x ∈ xs, ¬ x.Approves ⟨dataset, kind⟩) ∧ m'.get? ⟨dataset, kind⟩ = none := by
  induction h with
  | here others => exact ⟨by simp, (others _).trans hm⟩
  | ask others serves _ ih =>
      have hm := (others kind).trans hm
      cases serves.touches hw.1 (hstores _ (List.mem_cons_self ..)) with
      | spares same unapproved =>
          have ⟨hxs, hgone⟩ := ih (hw.2 _) (fun x hx => hstores x (List.mem_cons_of_mem _ hx))
            (same.trans hm)
          exact ⟨List.forall_mem_cons.mpr ⟨unapproved, hxs⟩, hgone⟩
      | deletes call gone =>
          have ⟨hxs, hgone⟩ := ih (hw.2 _) (fun x hx => hstores x (List.mem_cons_of_mem _ hx)) gone
          obtain rfl := call
          exact ⟨List.forall_mem_cons.mpr ⟨id, hxs⟩, hgone⟩
      | approves approval before _ => cases hm.symm.trans before

theorem Undisturbed.stays_approved (h : Undisturbed dataset w m xs w' m')
    (hw : w.Always (Call.Tends dataset)) (hcloses : w.Always (Call.Closes dataset))
    (hstores : ∀ x ∈ xs, ¬ x.Stores ⟨dataset, kind⟩)
    (hm : m.get? ⟨dataset, kind⟩ = some a.approved) :
    m'.get? ⟨dataset, kind⟩ = some a.approved := by
  induction h with
  | here others => exact (others _).trans hm
  | ask others serves _ ih =>
      have hm := (others kind).trans hm
      refine ih (hw.2 _) (hcloses.2 _) (fun x hx => hstores x (List.mem_cons_of_mem _ hx)) ?_
      cases serves.touches hw.1 (hstores _ (List.mem_cons_self ..)) with
      | spares same => exact same.trans hm
      | deletes call => exact absurd call (hcloses.1.ne_delete _)
      | approves _ before after =>
          obtain rfl := Option.some.inj (before.symm.trans hm)
          exact after

theorem Undisturbed.tag (h : Undisturbed dataset w m xs w' m') (hw : w.Always (Call.Tends dataset))
    (hconcludes : Concludes dataset w) (hstores : ∀ x ∈ xs, ¬ x.Stores ⟨dataset, kind⟩)
    (ha : m.get? ⟨dataset, kind⟩ = some a) : Tag ⟨dataset, kind⟩ a xs m' := by
  induction h with
  | here others => exact .kept (by simp) (Or.inl ((others _).trans ha))
  | ask others serves rest ih =>
      have ha := (others kind).trans ha
      have hrest := fun x hx => hstores x (List.mem_cons_of_mem _ hx)
      cases serves.touches hw.1 (hstores _ (List.mem_cons_self ..)) with
      | spares same unapproved =>
          cases ih (hw.2 _) (hconcludes _).1 hrest (same.trans ha) with
          | kept hxs hsame => exact .kept (List.forall_mem_cons.mpr ⟨unapproved, hxs⟩) hsame
          | lifted mem approval hkind hsame =>
              exact .lifted (List.mem_cons_of_mem _ mem) approval hkind hsame
      | deletes call gone =>
          have ⟨hxs, hgone⟩ := rest.absent (hw.2 _) hrest gone
          obtain rfl := call
          exact .kept (List.forall_mem_cons.mpr ⟨id, hxs⟩) (Or.inr hgone)
      | approves approval before after =>
          obtain rfl := Option.some.inj (before.symm.trans ha)
          have ⟨hkind, hcloses⟩ := (hconcludes _).2 _ approval
          exact .lifted (List.mem_cons_self ..) approval hkind
            (rest.stays_approved (hw.2 _) hcloses hrest after)

theorem Concludes.of_closes (hw : w.Always (Call.Closes dataset)) : Concludes dataset w := by
  induction w with
  | done => trivial
  | ask c next ih =>
      exact fun r => ⟨ih r (hw.2 r), fun _ approval => ⟨hw.1.kind_ne_irm approval, hw.2 r⟩⟩

theorem Concludes.bind (hw : Concludes dataset w) (hf : ∀ a, (f a).Always (Call.Closes dataset)) :
    Concludes dataset (w >>= f) := by
  induction w with
  | done a => exact .of_closes (hf a)
  | ask c next ih =>
      refine fun r => ⟨ih r (hw r).1, fun key approval => ?_⟩
      have ⟨hkind, hcloses⟩ := (hw r).2 key approval
      exact ⟨hkind, hcloses.bind hf⟩

theorem concludes_call {f : c.Reply → Work α} (hc : ∀ k s, c ≠ .setStatus k s)
    (hf : ∀ r, Concludes dataset (f r)) : Concludes dataset (call c >>= f) :=
  fun r => ⟨hf r, fun _ approval => (Exchange.not_approves_of_ne_setStatus hc approval).elim⟩

theorem Concludes.of_unapproved (hw : w.Always fun c => ∀ k s, c ≠ .setStatus k s) :
    Concludes dataset w := by
  induction w with
  | done => trivial
  | ask c next ih => exact concludes_call hw.1 fun r => ih r (hw.2 r)

/-- All the deletions stand before the approvals. -/
theorem Concludes.bind_of_unapproved (hw : w.Always fun c => ∀ k s, c ≠ .setStatus k s)
    (hf : ∀ a, Concludes dataset (f a)) : Concludes dataset (w >>= f) := by
  induction w with
  | done a => exact hf a
  | ask c next ih => exact concludes_call hw.1 fun r => ih r (hw.2 r)

end

/-! ## The jobs of a dataset -/

section

variable {dataset : String} {site : Site} {kind : Kind} {c : Call}

theorem Call.Adopts.ne_setStatus (h : c.Adopts dataset) (k : Key) (s : Artifact.Status) :
    c ≠ .setStatus k s := by
  cases h <;> simp

theorem Call.Removes.ne_setStatus (h : c.Removes dataset) (k : Key) (s : Artifact.Status) :
    c ≠ .setStatus k s := by
  cases h <;> simp

theorem Call.Inquires.ne_setStatus (h : c.Inquires) (k : Key) (s : Artifact.Status) :
    c ≠ .setStatus k s := by
  cases h <;> simp

theorem closes_approveFile : (do
    match ← call (.setStatus ⟨dataset, .file⟩ .stored) with
    | .error e => return outcomeOf e
    | .ok () => announce site dataset : Work Outcome).Always (Call.Closes dataset) := by
  refine always_call (Or.inr (Or.inr rfl)) fun r => ?_
  cases r with
  | error e => trivial
  | ok => exact quiet_announce.mono fun _ => Or.inl

/-- The end of a promotion, once the products have been taken over. -/
theorem closes_approve (replaced : Bool) : (do
    let approved : Except Outcome Unit ←
      if replaced then pure (.ok ()) else approveMetacard dataset
    match approved with
    | .error o => return o
    | .ok () =>
      match ← call (.setStatus ⟨dataset, .file⟩ .stored) with
      | .error e => return outcomeOf e
      | .ok () => announce site dataset : Work Outcome).Always (Call.Closes dataset) := by
  cases replaced with
  | true => exact closes_approveFile
  | false =>
      refine Script.Always.bind (always_approveMetacard (Or.inr (Or.inl rfl))) fun approved => ?_
      cases approved with
      | error o => trivial
      | ok => exact closes_approveFile

theorem closes_settle (t : Poll.Task) (v : Poll.Verdict) (o : Outcome) :
    (Poll.settle t v o).Always (Call.Closes dataset) :=
  (inquires_settle t v o).mono fun _ h => Or.inl h.quiet.1

theorem concludes_promote (ps : List Product) : Concludes dataset (promote site dataset ps) := by
  refine concludes_call (by simp) fun status => ?_
  cases status with
  | error e => trivial
  | ok s =>
      refine .bind_of_unapproved ((adopts_adoptAll ps false).mono fun _ => Call.Adopts.ne_setStatus)
        fun adopted => ?_
      cases adopted with
      | error o => trivial
      | ok replaced => exact .of_closes (closes_approve replaced)

theorem concludes_attempt (t : Poll.Task) :
    Concludes t.dataset (Poll.attempt ⟨promote site, reject⟩ t) := by
  obtain ⟨next, hinquire, hnext⟩ := inquires_inquire t
  have hunapproved : (Poll.inquire t).Always fun c => ∀ k s, c ≠ .setStatus k s := by
    rw [hinquire]
    exact ⟨by simp, fun _ => hnext.mono fun _ => Call.Inquires.ne_setStatus⟩
  refine .bind_of_unapproved hunapproved fun finding => ?_
  rcases finding with o | ps | _
  · trivial
  · exact (concludes_promote ps).bind fun o => closes_settle t _ o
  · exact .bind_of_unapproved (removes_reject.mono fun _ => Call.Removes.ne_setStatus) fun o =>
      .of_closes (closes_settle t _ o)

theorem Job.concludes_work {job : Job} (hjob : job.dataset? = some dataset) :
    Concludes dataset job.work := by
  cases job with
  | ingest => cases hjob
  | promote site d ps =>
      obtain rfl := Option.some.inj hjob
      exact (concludes_promote ps).bind fun _ => trivial
  | quarantine d =>
      exact .bind_of_unapproved (removes_quarantine.mono fun _ => Call.Removes.ne_setStatus)
        fun _ => trivial
  | reject d =>
      exact .bind_of_unapproved (removes_reject.mono fun _ => Call.Removes.ne_setStatus)
        fun _ => trivial
  | attempt site t =>
      obtain rfl := Option.some.inj hjob
      exact (concludes_attempt t).bind fun _ => trivial
  | download d kind =>
      exact .of_closes ((always_download (Or.inl rfl)).bind fun _ => trivial)

end

/-! ## A promotion that asks the index service -/

section

variable {dataset : String} {site : Site} {kind : Kind} {m m' : Memory} {xs : List Exchange}
  {a : Artifact} {o : Outcome} {ps : List Product}

/-- If the index service has been asked, the artifact under a key has been approved. -/
def ApprovedIfIndexed (key : Key) (xs : List Exchange) : Prop :=
  (∃ x ∈ xs, x.call.isIndex = true) → ∃ x ∈ xs, x.Approves key

theorem ApprovedIfIndexed.of_indexless {key : Key} (h : ∀ x ∈ xs, x.call.isIndex = false) :
    ApprovedIfIndexed key xs := by
  rintro ⟨x, hx, hindex⟩
  rw [h x hx] at hindex
  cases hindex

theorem ApprovedIfIndexed.append {key : Key} {ys : List Exchange}
    (hys : ∀ x ∈ ys, x.call.isIndex = false) (h : ApprovedIfIndexed key xs) :
    ApprovedIfIndexed key (ys ++ xs) := by
  rintro ⟨x, hx, hindex⟩
  rcases List.mem_append.mp hx with hx | hx
  · rw [hys x hx] at hindex
    cases hindex
  · obtain ⟨y, hy, approval⟩ := h ⟨x, hx, hindex⟩
    exact ⟨y, List.mem_append_right _ hy, approval⟩

theorem ApprovedIfIndexed.append_indexless {key : Key} {ys : List Exchange}
    (h : ApprovedIfIndexed key xs) (hys : ∀ x ∈ ys, x.call.isIndex = false) :
    ApprovedIfIndexed key (xs ++ ys) := by
  rintro ⟨x, hx, hindex⟩
  rcases List.mem_append.mp hx with hx | hx
  · obtain ⟨y, hy, approval⟩ := h ⟨x, hx, hindex⟩
    exact ⟨y, List.mem_append_left _ hy, approval⟩
  · rw [hys x hx] at hindex
    cases hindex

theorem indexless_approveMetacard : Indexless (approveMetacard dataset) := always_approveMetacard rfl

theorem Undisturbed.approvesFile (h : Undisturbed dataset (do
      match ← call (.setStatus ⟨dataset, .file⟩ .stored) with
      | .error e => return outcomeOf e
      | .ok () => announce site dataset : Work Outcome) m xs (.done o) m') :
    ApprovedIfIndexed ⟨dataset, .file⟩ xs := by
  obtain ⟨m₁, approved, m₂, ys, rfl, -, -, h⟩ := h.of_call_done
  cases approved with
  | error e =>
      obtain ⟨rfl, -, -⟩ := h.of_pure
      exact .of_indexless (by simp [Call.isIndex])
  | ok => exact fun _ => ⟨_, List.mem_cons_self .., rfl, rfl⟩

theorem Undisturbed.approves_metacard {r : Except Outcome Unit}
    (h : Undisturbed dataset (approveMetacard dataset) m xs (.done r) m')
    (ha : m.get? ⟨dataset, .metacard⟩ = some a) :
    (∃ x ∈ xs, x.Approves ⟨dataset, .metacard⟩) ∨ ∃ o, r = .error o := by
  obtain ⟨m₁, approved, m₂, ys, rfl, hothers, hserves, h⟩ := h.of_call_done
  rcases Answers.of_setStatus hserves with ⟨b, -, rfl, -⟩ | ⟨hnone, -, -⟩ | ⟨e, rfl, he, -⟩
  · exact Or.inl ⟨_, List.mem_cons_self .., rfl, rfl⟩
  · cases hnone.symm.trans ((hothers _).trans ha)
  · cases e with
    | notFound key => exact absurd rfl (he key)
    | _ =>
        obtain ⟨-, rfl, -⟩ := h.of_pure
        exact Or.inr ⟨_, rfl⟩

/-- A kind under which nothing is stored is not among the products, and so is left as it is. -/
theorem Undisturbed.get?_of_adoptAll {replaced : Bool}
    (h : Undisturbed dataset (adoptAll dataset ps false) m xs (.done (.ok replaced)) m')
    (ha : m.get? ⟨dataset, kind⟩ = some a) (htag : a.metadata.status = .quarantined)
    (hstores : ∀ x ∈ xs, ¬ x.Stores ⟨dataset, kind⟩) :
    m'.get? ⟨dataset, kind⟩ = some a ∧ ¬ Offers ps kind := by
  have hadopts : (adoptAll dataset ps false).Always (Call.Adopts dataset) := adopts_adoptAll ps false
  obtain ⟨taken, htaken, -, hlatest, -⟩ := h.of_adoptAll
  have hfetched (f : Remote.Fetched)
      (hget : m'.get? ⟨dataset, kind⟩ = some (fetchedUpload f).toArtifact) : False := by
    cases h.tag (hadopts.mono fun _ h => (Call.Reconciles.adopts h).tends)
      (.of_unapproved (hadopts.mono fun _ => Call.Adopts.ne_setStatus)) hstores ha with
    | kept _ same =>
        rw [hget] at same
        rcases same with same | same
        · obtain rfl := Option.some.inj same
          cases htag
        · cases same
    | lifted mem approval =>
        exact Exchange.not_approves_of_ne_setStatus
          (h.forall_mem (hadopts.mono fun _ => Call.Adopts.ne_setStatus) _ mem) approval
  refine ⟨?_, fun hoffers => ?_⟩
  · rcases hlatest kind with ⟨_, _, f, _, _, _, _, hget⟩ | ⟨_, hget⟩
    · exact (hfetched f hget).elim
    · exact hget.trans ha
  · obtain ⟨_, _, f, _, _, _, _, hget⟩ := hlatest.of_offers htaken hoffers
    exact hfetched f hget

/-- A promotion that asks the index service has approved what it found under the tag. -/
theorem Undisturbed.approves_of_promote
    (h : Undisturbed dataset (promote site dataset ps) m xs (.done o) m')
    (ha : m.get? ⟨dataset, kind⟩ = some a) (htag : a.metadata.status = .quarantined)
    (hkind : kind ≠ .irm) (hstores : ∀ x ∈ xs, ¬ x.Stores ⟨dataset, kind⟩) :
    ApprovedIfIndexed ⟨dataset, kind⟩ xs := by
  obtain ⟨m₁, status, m₂, ys, rfl, hothers, hserves, h⟩ := h.of_call_done
  have ha : m₂.get? ⟨dataset, kind⟩ = some a :=
    (hserves.get?_of_ne (by simp [Call.target?])).trans ((hothers _).trans ha)
  change ApprovedIfIndexed _ ([_] ++ _)
  refine .append (by simp [Call.isIndex]) ?_
  cases status with
  | error e =>
      obtain ⟨rfl, -, -⟩ := h.of_pure
      exact .of_indexless (by simp)
  | ok s =>
      obtain ⟨ys, adopted, m₃, zs, rfl, hadopt, h⟩ := h.of_bind_done
      refine .append (hadopt.forall_mem (indexless_adoptAll ps false)) ?_
      cases adopted with
      | error o =>
          obtain ⟨rfl, -, -⟩ := h.of_pure
          exact .of_indexless (by simp)
      | ok replaced =>
          obtain ⟨-, -, -, -, hreplaced⟩ := hadopt.of_adoptAll
          obtain ⟨ha, hoffers⟩ := hadopt.get?_of_adoptAll ha htag
            fun x hx => hstores x (List.mem_cons_of_mem _ (List.mem_append_left _ hx))
          simp only at h
          cases kind with
          | irm => exact absurd rfl hkind
          | file =>
              split at h
              · exact Undisturbed.approvesFile h
              · obtain ⟨ws, approved, m₄, zs, rfl, happrove, h⟩ := h.of_bind_done
                refine .append (happrove.forall_mem indexless_approveMetacard) ?_
                cases approved with
                | error o =>
                    obtain ⟨rfl, -, -⟩ := h.of_pure
                    exact .of_indexless (by simp)
                | ok => exact h.approvesFile
          | metacard =>
              have hfound : ¬ replaced = true := by
                rw [hreplaced, Bool.false_or, any_replaceable?_iff]
                exact hoffers
              rw [if_neg hfound] at h
              obtain ⟨ws, approved, m₄, zs, rfl, happrove, h⟩ := h.of_bind_done
              rcases happrove.approves_metacard ha with ⟨x, hx, approval⟩ | ⟨o, rfl⟩
              · exact fun _ => ⟨x, List.mem_append_left _ hx, approval⟩
              · obtain ⟨rfl, -, -⟩ := h.of_pure
                exact .append (happrove.forall_mem indexless_approveMetacard)
                  (.of_indexless (by simp))

theorem Undisturbed.get?_of_quiet {α : Type} {w w' : Work α}
    (h : Undisturbed dataset w m xs w' m') (hw : w.Always fun c => c.target? = none) :
    m'.get? ⟨dataset, kind⟩ = m.get? ⟨dataset, kind⟩ := by
  induction h with
  | here others => exact others kind
  | ask others serves _ ih =>
      rw [ih (hw.2 _), serves.get?_of_ne (by simp [hw.1]), others]

theorem Undisturbed.approves_of_attempt {t : Poll.Task} {o : Poll.Outcome}
    (h : Undisturbed t.dataset (Poll.attempt ⟨promote site, reject⟩ t) m xs (.done o) m')
    (ha : m.get? ⟨t.dataset, kind⟩ = some a) (htag : a.metadata.status = .quarantined)
    (hkind : kind ≠ .irm) (hstores : ∀ x ∈ xs, ¬ x.Stores ⟨t.dataset, kind⟩) :
    ApprovedIfIndexed ⟨t.dataset, kind⟩ xs := by
  obtain ⟨next, hinquire, hnext⟩ := inquires_inquire t
  have hquiet : (Poll.inquire t).Always Call.Quiet := by
    rw [hinquire]
    exact ⟨⟨rfl, by simp⟩, fun _ => hnext.mono fun _ => Call.Inquires.quiet⟩
  have hindexless : Indexless (Poll.inquire t) := by
    rw [hinquire]
    exact ⟨rfl, fun _ => hnext.mono fun _ h => by cases h <;> rfl⟩
  have hsettle (v : Poll.Verdict) (o : Outcome) : Indexless (Poll.settle t v o) :=
    (inquires_settle t v o).mono fun _ h => by cases h <;> rfl
  obtain ⟨ys, finding, m₁, zs, rfl, hfinding, h⟩ := h.of_bind_done
  refine .append (hfinding.forall_mem hindexless) ?_
  have ha : m₁.get? ⟨t.dataset, kind⟩ = some a :=
    (hfinding.get?_of_quiet (hquiet.mono fun _ h => h.1)).trans ha
  rcases finding with o | ps | _
  · obtain ⟨rfl, -, -⟩ := h.of_pure
    exact .of_indexless (by simp)
  · obtain ⟨ws, o, m₂, zs, rfl, hpromote, h⟩ := h.of_bind_done
    refine .append_indexless (hpromote.approves_of_promote ha htag hkind fun x hx => ?_)
      (h.forall_mem (hsettle _ o))
    exact hstores x (List.mem_append_right _ (List.mem_append_left _ hx))
  · have hreject : Indexless (reject t.dataset >>= Poll.settle t .quarantined) :=
      Script.Always.bind (removes_reject.mono fun _ h => by cases h <;> rfl) (hsettle _)
    exact .of_indexless (h.forall_mem hreject)

theorem Undisturbed.approves_of_work {job : Job} (hjob : job.dataset? = some dataset)
    (h : Undisturbed dataset job.work m xs (.done ()) m') (ha : m.get? ⟨dataset, kind⟩ = some a)
    (htag : a.metadata.status = .quarantined) (hkind : kind ≠ .irm)
    (hstores : ∀ x ∈ xs, ¬ x.Stores ⟨dataset, kind⟩) : ApprovedIfIndexed ⟨dataset, kind⟩ xs := by
  have hremoves {c : Call} (h : c.Removes dataset) : c.isIndex = false := by cases h <;> rfl
  cases job with
  | ingest => cases hjob
  | promote site d ps =>
      obtain rfl := Option.some.inj hjob
      obtain ⟨ys, o, m₁, zs, rfl, hpromote, h⟩ := h.of_bind_done
      obtain ⟨rfl, -, -⟩ := h.of_pure
      rw [List.append_nil] at hstores ⊢
      exact hpromote.approves_of_promote ha htag hkind hstores
  | quarantine d =>
      obtain rfl := Option.some.inj hjob
      have hquarantine : Indexless (quarantine d) := removes_quarantine.mono fun _ => hremoves
      exact .of_indexless (h.forall_mem (hquarantine.bind fun _ => trivial))
  | reject d =>
      obtain rfl := Option.some.inj hjob
      have hreject : Indexless (reject d) := removes_reject.mono fun _ => hremoves
      exact .of_indexless (h.forall_mem (hreject.bind fun _ => trivial))
  | attempt site t =>
      obtain rfl := Option.some.inj hjob
      obtain ⟨ys, o, m₁, zs, rfl, hattempt, h⟩ := h.of_bind_done
      obtain ⟨rfl, -, -⟩ := h.of_pure
      rw [List.append_nil] at hstores ⊢
      exact hattempt.approves_of_attempt ha htag hkind hstores
  | download d kind =>
      have hdownload : Indexless (download d kind) := always_download rfl
      exact .of_indexless (h.forall_mem (hdownload.bind fun _ => trivial))

/-- While a job works on its dataset and nothing is stored in the place of a quarantined artifact, that
artifact comes to be retrievable by an approval and in no other way. A promotion that gets as far as the
index service has approved it, unless it is the description. -/
theorem quarantined_isRetrievable_iff {job : Job} (hjob : job.dataset? = some dataset)
    (ha : m.get? ⟨dataset, kind⟩ = some a) (htag : a.metadata.status = .quarantined)
    (h : Undisturbed dataset job.work m xs (.done ()) m')
    (hstores : ∀ x ∈ xs, ¬ x.Stores ⟨dataset, kind⟩) :
    (IsRetrievable m' dataset kind ↔ ∃ x ∈ xs, x.Approves ⟨dataset, kind⟩) ∧
    (IsRetrievable m' dataset kind →
      kind ≠ .irm ∧ m'.get? ⟨dataset, kind⟩ = some a.approved) ∧
    (kind ≠ .irm → (∃ x ∈ xs, x.call.isIndex = true) → IsRetrievable m' dataset kind) := by
  have hindexed := fun hkind => h.approves_of_work hjob ha htag hkind hstores
  cases h.tag (Job.tends_work hjob) (Job.concludes_work hjob) hstores ha with
  | kept unapproved same =>
      have hrefused : ¬ IsRetrievable m' dataset kind := by
        rw [isRetrievable_iff]
        rintro ⟨b, hb, hstatus⟩
        rw [hb] at same
        rcases same with same | same
        · obtain rfl := Option.some.inj same
          rw [htag] at hstatus
          cases hstatus
        · cases same
      have hnone : ¬ ∃ x ∈ xs, x.Approves ⟨dataset, kind⟩ := fun ⟨x, hx, approval⟩ =>
        unapproved x hx approval
      exact ⟨iff_of_false hrefused hnone, fun h => absurd h hrefused,
        fun hkind hindex => absurd (hindexed hkind hindex) hnone⟩
  | lifted mem approval hkind same =>
      have hlifted : IsRetrievable m' dataset kind := isRetrievable_iff.mpr ⟨_, same, rfl⟩
      exact ⟨iff_of_true hlifted ⟨_, mem, approval⟩, fun _ => ⟨hkind, same⟩, fun _ _ => hlifted⟩

end

/-- The staged dataset, whose metacard somebody else has quarantined. -/
def taggedDataset : Memory :=
  ⟨[(⟨"a", .file⟩, ⟨"image/tiff", [1], ⟨none, .staged⟩⟩),
    (⟨"a", .metacard⟩, ⟨"application/xml", [2], ⟨none, .quarantined⟩⟩)]⟩

/-- A promotion without products makes the quarantined metacard retrievable. -/
theorem quarantined_isRetrievable_taggedDataset :
    ¬ IsRetrievable taggedDataset "a" .metacard ∧
    ∃ xs m', Undisturbed "a" (Job.promote ⟨"http://s"⟩ "a" []).work taggedDataset xs (.done ()) m' ∧
      (∀ x ∈ xs, ¬ x.Stores ⟨"a", .metacard⟩) ∧ IsRetrievable m' "a" .metacard ∧
      ∃ x ∈ xs, x.Approves ⟨"a", .metacard⟩ := by
  have hrefused : ¬ IsRetrievable taggedDataset "a" .metacard := by
    rw [isRetrievable_iff]
    rintro ⟨a, ha, hstatus⟩
    obtain rfl := Option.some.inj ha
    cases hstatus
  obtain ⟨xs, h⟩ := undisturbed_run "a" (fun c m => (answers_willing .inProgress c m).serves)
    (Job.promote ⟨"http://s"⟩ "a" []).work taggedDataset
  have hcalls : (Job.promote ⟨"http://s"⟩ "a" []).work.Always fun c => ∀ k u, c ≠ .store k u := by
    refine Script.Always.bind (always_call (by simp) fun status => ?_) fun _ => trivial
    cases status with
    | error e => trivial
    | ok s => exact (closes_approve false).mono fun _ => Call.Closes.ne_store
  have hstores : ∀ x ∈ xs, ¬ x.Stores ⟨"a", .metacard⟩ := fun x hx =>
    Exchange.not_stores_of_ne_store (h.forall_mem hcalls x hx)
  have hlifted : IsRetrievable ((Job.promote ⟨"http://s"⟩ "a" []).work.run (willing .inProgress)
      taggedDataset).2 "a" .metacard :=
    isRetrievable_iff.mpr ⟨⟨"application/xml", [2], ⟨none, .stored⟩⟩, by decide, rfl⟩
  exact ⟨hrefused, xs, _, h, hstores, hlifted,
    (quarantined_isRetrievable_iff rfl rfl rfl h hstores).1.mp hlifted⟩

end Intake.Service
