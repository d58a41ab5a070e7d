import Intake.Proofs.Service.Promotion
import Intake.Proofs.Service.Race

/-!
# What becomes of the metacard

A promotion deletes the metacard before it stores the one that replaces it. Between the two there is
nothing to download, so the metacard outlives a promotion that fails anywhere but there: if the new one
cannot be stored, the old one is gone as well, and that failure is what the promotion comes to.
-/

namespace Intake.Service

open Store (Memory)
open Artifact (Key Kind)
open Remote (Outcome Product)

/-- The metacard could not be stored. -/
def Exchange.LosesMetacard (dataset : String) : Exchange → Prop
  | ⟨.store key _, .error _⟩ => key = ⟨dataset, .metacard⟩
  | _ => False

/-- What has become of the metacard after these calls, where `Stops` says of an outcome that the work has
stopped with it. -/
inductive MetacardFate (dataset : String) (Stops : Outcome → Prop) (xs : List Exchange)
    (m : Memory) : Prop
  | kept (card : IsRetrievable m dataset .metacard) (stored : ∀ x ∈ xs, ¬ x.LosesMetacard dataset)
  | lost {before : List Exchange} {u : Artifact.Upload} {e : Store.Fault}
      (calls : xs = before ++ [⟨.delete ⟨dataset, .metacard⟩, .ok ()⟩,
        ⟨.store ⟨dataset, .metacard⟩ u, .error e⟩])
      (gone : m.get? ⟨dataset, .metacard⟩ = none) (stops : Stops (outcomeOf e))

/-- A call after which the metacard can be downloaded if it could be before. -/
def Call.Spares (dataset : String) : Call → Prop
  | .store key _ | .delete key => key ≠ ⟨dataset, .metacard⟩
  | .setStatus _ s => s.isRetrievable = true
  | _ => True

section

variable {α : Type} {dataset : String} {m m' : Memory} {kind : Kind} {xs ys : List Exchange}
  {Stops : Outcome → Prop} {c : Call} {r : c.Reply} {w : Work α} {a : α}

theorem IsRetrievable.of_get?_eq (h : IsRetrievable m dataset kind)
    (hsame : m'.get? ⟨dataset, kind⟩ = m.get? ⟨dataset, kind⟩) : IsRetrievable m' dataset kind := by
  rw [isRetrievable_iff, hsame]
  exact isRetrievable_iff.mp h

theorem MetacardFate.append (hys : ∀ x ∈ ys, ¬ x.LosesMetacard dataset)
    (h : MetacardFate dataset Stops xs m) : MetacardFate dataset Stops (ys ++ xs) m := by
  cases h with
  | kept card stored =>
      exact .kept card fun x hx => (List.mem_append.mp hx).elim (hys x) (stored x)
  | lost calls gone stops => exact .lost (by rw [calls, ← List.append_assoc]) gone stops

theorem MetacardFate.cons {x : Exchange} (hx : ¬ x.LosesMetacard dataset)
    (h : MetacardFate dataset Stops xs m) : MetacardFate dataset Stops (x :: xs) m :=
  .append (List.forall_mem_singleton.mpr hx) h

/-! ## Calls that spare the metacard -/

theorem Call.Spares.not_losesMetacard (hc : c.Spares dataset) :
    ¬ (⟨c, r⟩ : Exchange).LosesMetacard dataset := by
  cases c with
  | store key u =>
      cases r with
      | error e => exact hc
      | ok => exact id
  | _ => exact id

theorem Call.Spares.isRetrievable (hc : c.Spares dataset) (hserves : Serves m m' c r)
    (hcard : IsRetrievable m dataset .metacard) : IsRetrievable m' dataset .metacard := by
  by_cases htarget : c.target? = some ⟨dataset, .metacard⟩
  · cases c with
    | store | delete => exact absurd (Option.some.inj htarget) hc
    | setStatus key s =>
        obtain rfl := Option.some.inj htarget
        rcases Answers.of_setStatus hserves with ⟨a, -, -, rfl⟩ | ⟨-, -, rfl⟩ | ⟨-, -, -, rfl⟩
        · exact isRetrievable_iff.mpr ⟨_, Memory.get?_insert_self, hc⟩
        · exact hcard
        · exact hcard
    | _ => cases htarget
  · exact hcard.of_get?_eq (hserves.get?_of_ne htarget)

theorem Undisturbed.fate_of_spares (h : Undisturbed dataset w m xs (.done a) m')
    (hw : w.Always (Call.Spares dataset)) (hcard : IsRetrievable m dataset .metacard) :
    MetacardFate dataset Stops xs m' := by
  induction w generalizing m xs with
  | done b =>
      cases h with
      | here others => exact .kept (hcard.of_get?_eq (others _)) (by simp)
  | ask c next ih =>
      cases h with
      | ask others serves rest =>
          exact .cons hw.1.not_losesMetacard
            (ih _ rest (hw.2 _) (hw.1.isRetrievable serves (hcard.of_get?_eq (others _))))

end

/-! ## The steps of a promotion -/

section

variable {dataset : String} {site : Site} {m m' : Memory} {xs : List Exchange} {kind : Kind}
  {o : Outcome}

theorem spares_adopt (hkind : kind ≠ .metacard) (location : String) :
    (adopt dataset kind location).Always (Call.Spares dataset) := by
  refine always_call trivial fun r => ?_
  cases r with
  | error e => trivial
  | ok f =>
      simp only [if_neg hkind]
      refine always_call (by simpa [Call.Spares] using hkind) fun r => ?_
      cases r <;> trivial

theorem spares_announce : (announce site dataset).Always (Call.Spares dataset) := by
  refine quiet_announce.mono fun c hc => ?_
  cases c with
  | store | delete | setStatus => cases hc
  | _ => trivial

theorem spares_approveFile : (do
    match ← call (.setStatus ⟨dataset, .file⟩ .stored) with
    | .error e => return outcomeOf e
    | .ok () => announce site dataset : Work Outcome).Always (Call.Spares dataset) := by
  refine always_call rfl fun r => ?_
  cases r with
  | error e => trivial
  | ok => exact spares_announce

/-- The new metacard is stored where the old one has been deleted. -/
theorem Undisturbed.fate_of_storeFetched {f : Remote.Fetched} {r : Except Outcome Unit}
    (h : Undisturbed dataset (do
      match ← call (.store ⟨dataset, kind⟩ (fetchedUpload f)) with
      | .error e => return .error (outcomeOf e)
      | .ok () => return .ok () : Work (Except Outcome Unit)) m xs (.done r) m')
    (hkind : kind = .metacard) (hgone : m.get? ⟨dataset, .metacard⟩ = none) :
    MetacardFate dataset (fun o => r = .error o) (⟨.delete ⟨dataset, .metacard⟩, .ok ()⟩ :: xs) m' := by
  subst hkind
  obtain ⟨m₁, stored, m₂, ys, rfl, hothers, hserves, h⟩ := h.of_call_done
  rcases hserves.of_store with ⟨rfl, rfl⟩ | ⟨⟨e, rfl⟩, rfl⟩
  · obtain ⟨rfl, -, hsame⟩ := h.of_pure
    exact .cons id (.cons id
      (.kept (isRetrievable_iff.mpr ⟨_, (hsame _).trans Memory.get?_insert_self, rfl⟩) (by simp)))
  · obtain ⟨rfl, rfl, hsame⟩ := h.of_pure
    exact .lost (List.nil_append _).symm ((hsame _).trans ((hothers _).trans hgone)) rfl

theorem Undisturbed.fate_of_adopt {location : String} {r : Except Outcome Unit}
    (h : Undisturbed dataset (adopt dataset kind location) m xs (.done r) m')
    (hcard : IsRetrievable m dataset .metacard) :
    MetacardFate dataset (fun o => r = .error o) xs m' := by
  by_cases hkind : kind = .metacard
  · subst hkind
    obtain ⟨m₁, fetched, m₂, ys, rfl, hothers, hserves, h⟩ := h.of_call_done
    refine .cons id ?_
    obtain rfl : m₂ = m₁ := hserves
    have hcard := hcard.of_get?_eq (hothers _)
    cases fetched with
    | error e =>
        obtain ⟨rfl, -, hsame⟩ := h.of_pure
        exact .kept (hcard.of_get?_eq (hsame _)) (by simp)
    | ok f =>
        simp only [if_true] at h
        obtain ⟨m₃, cleared, m₄, zs, rfl, hothers, hserves, h⟩ := h.of_call_done
        rcases Answers.of_delete hserves with ⟨rfl, rfl⟩ | ⟨e, rfl, _, rfl⟩
        · exact Undisturbed.fate_of_storeFetched h rfl Memory.get?_erase_self
        · obtain ⟨rfl, -, hsame⟩ := h.of_pure
          exact .cons id (.kept ((hcard.of_get?_eq (hothers _)).of_get?_eq (hsame _)) (by simp))
  · exact h.fate_of_spares (spares_adopt hkind location) hcard

theorem Undisturbed.fate_of_adoptAll {ps : List Product} {b : Bool} {r : Except Outcome Bool}
    (h : Undisturbed dataset (adoptAll dataset ps b) m xs (.done r) m')
    (hcard : IsRetrievable m dataset .metacard) :
    MetacardFate dataset (fun o => r = .error o) xs m' := by
  induction ps generalizing b m xs with
  | nil => exact h.fate_of_spares trivial hcard
  | cons p ps ih =>
      rw [adoptAll] at h
      cases hp : replaceable? p with
      | none =>
          simp only [hp] at h
          obtain ⟨m₁, _, m₂, ys, rfl, hothers, hserves, h⟩ := h.of_call_done
          obtain rfl : m₂ = m₁ := hserves
          exact .cons id (ih h (hcard.of_get?_eq (hothers _)))
      | some kind =>
          simp only [hp] at h
          obtain ⟨ys, adopted, m₁, zs, rfl, hadopt, h⟩ := h.of_bind_done
          cases hadopt.fate_of_adopt hcard with
          | kept card stored =>
              refine .append stored ?_
              cases adopted with
              | error o => exact h.fate_of_spares trivial card
              | ok => exact ih h card
          | lost calls gone stops =>
              obtain rfl := stops
              obtain ⟨rfl, rfl, hsame⟩ := h.of_pure
              exact .lost (by rw [calls, List.append_nil]) ((hsame _).trans gone) rfl

/-- A metacard that could be downloaded before a promotion can be downloaded after it, or it was the last
of its calls that a metacard could not be stored where one had been deleted. -/
theorem metacard_outlives_failure {ps : List Product} (hcard : IsRetrievable m dataset .metacard)
    (h : Undisturbed dataset (promote site dataset ps) m xs (.done o) m') :
    MetacardFate dataset (o = ·) xs m' := by
  obtain ⟨m₁, status, m₂, ys, rfl, hothers, hserves, h⟩ := h.of_call_done
  refine .cons id ?_
  have hcard := (hcard.of_get?_eq (hothers _)).of_get?_eq (hserves.get?_of_ne (by simp [Call.target?]))
  cases status with
  | error e => exact h.fate_of_spares trivial hcard
  | ok s =>
      obtain ⟨ys, adopted, m₃, zs, rfl, hadopt, h⟩ := h.of_bind_done
      cases hadopt.fate_of_adoptAll hcard with
      | lost calls gone stops =>
          obtain rfl := stops
          obtain ⟨rfl, rfl, hsame⟩ := h.of_pure
          exact .lost (by rw [calls, List.append_nil]) ((hsame _).trans gone) rfl
      | kept card stored =>
          refine .append stored (h.fate_of_spares ?_ card)
          cases adopted with
          | error o => trivial
          | ok replaced =>
              cases replaced with
              | true => exact spares_approveFile
              | false =>
                  refine Script.Always.bind (always_approveMetacard rfl) fun approved => ?_
                  cases approved with
                  | error o => trivial
                  | ok => exact spares_approveFile

end

/-! ## A metacard that is lost -/

/-- A run against a handler whose answers are possible is one that nobody disturbs. -/
theorem undisturbed_run {α : Type} (dataset : String) {handle : (c : Call) → Memory → c.Reply × Memory}
    (h : ∀ c m, Serves m (handle c m).2 c (handle c m).1) (w : Work α) (m : Memory) :
    ∃ xs, Undisturbed dataset w m xs (.done (w.run handle m).1) (w.run handle m).2 := by
  induction w generalizing m with
  | done a => exact ⟨[], .here (.refl _ _)⟩
  | ask c next ih =>
      obtain ⟨xs, hxs⟩ := ih (handle c m).1 (handle c m).2
      exact ⟨⟨c, _⟩ :: xs, .ask (.refl _ _) (h c m) hxs⟩

/-- Surroundings in which nothing can be stored. -/
def fullDisk : (c : Call) → Memory → c.Reply × Memory
  | .store .., m => (.error (.device (.other "disk full")), m)
  | c, m => willing .inProgress c m

theorem serves_fullDisk (c : Call) (m : Memory) : Serves m (fullDisk c m).2 c (fullDisk c m).1 := by
  cases c with
  | store key u => exact Or.inr ⟨_, rfl, by simp, rfl⟩
  | _ => exact (answers_willing .inProgress _ m).serves

/-- The staged dataset without its metacard. -/
def bareDataset : Memory := ⟨[(⟨"a", .file⟩, ⟨"image/tiff", [1], ⟨none, .staged⟩⟩)]⟩

theorem undisturbed_fullDisk : ∃ xs, Undisturbed "a"
    (promote ⟨"http://s"⟩ "a" [⟨"metacard", "/card"⟩]) stagedDataset xs
    (.done (.transient "storage I/O error: disk full")) bareDataset := by
  obtain ⟨xs, h⟩ := undisturbed_run "a" serves_fullDisk
    (promote ⟨"http://s"⟩ "a" [⟨"metacard", "/card"⟩]) stagedDataset
  have hrun : (promote ⟨"http://s"⟩ "a" [⟨"metacard", "/card"⟩]).run fullDisk stagedDataset =
      (.transient "storage I/O error: disk full", bareDataset) := by decide
  rw [hrun] at h
  exact ⟨xs, h⟩

theorem isRetrievable_stagedDataset : IsRetrievable stagedDataset "a" .metacard :=
  isRetrievable_iff.mpr ⟨⟨"application/xml", [2], ⟨none, .staged⟩⟩, rfl, rfl⟩

theorem not_isRetrievable_bareDataset : ¬ IsRetrievable bareDataset "a" .metacard := fun h => by
  obtain ⟨a, ha, _⟩ := isRetrievable_iff.mp h
  cases ha

/-- The promotion could not store the metacard, and so nothing is left of the one that was handed in. -/
theorem metacard_outlives_failure_fullDisk : ∃ xs,
    Undisturbed "a" (promote ⟨"http://s"⟩ "a" [⟨"metacard", "/card"⟩]) stagedDataset xs
      (.done (.transient "storage I/O error: disk full")) bareDataset ∧
    IsRetrievable stagedDataset "a" .metacard ∧
    MetacardFate "a" (.transient "storage I/O error: disk full" = ·) xs bareDataset := by
  obtain ⟨xs, h⟩ := undisturbed_fullDisk
  exact ⟨xs, h, isRetrievable_stagedDataset,
    metacard_outlives_failure isRetrievable_stagedDataset h⟩

/-- A promotion that fails may lose the metacard. -/
theorem metacard_lost_fullDisk :
    IsRetrievable stagedDataset "a" .metacard ∧
    (∃ xs, Undisturbed "a" (promote ⟨"http://s"⟩ "a" [⟨"metacard", "/card"⟩]) stagedDataset xs
      (.done (.transient "storage I/O error: disk full")) bareDataset) ∧
    ¬ IsRetrievable bareDataset "a" .metacard :=
  ⟨isRetrievable_stagedDataset, undisturbed_fullDisk, not_isRetrievable_bareDataset⟩

end Intake.Service
