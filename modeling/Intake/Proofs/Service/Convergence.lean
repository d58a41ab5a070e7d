import Intake.Proofs.Service.Settlement

/-!
# Promotions that are tried again

A promotion may stop at any fetch, and what it has stored until then stays. A later one that gets
through replaces all of it, so the store is the same as if the first had got through: every change that
a promotion makes is one that a promotion makes good.
-/

namespace Intake.Service

open Store (Memory)
open Artifact (Key Kind)
open Remote (Fetched Outcome Product)

/-- How the surroundings treat one promotion. -/
structure Trial where
  /-- The failure of the `n`-th fetch, if it fails. -/
  failure? : Nat → Option Remote.Fault
  /-- What the index service says. -/
  verdict : Outcome

/-- A trial in which every fetch succeeds. -/
def Trial.clear (verdict : Outcome) : Trial := ⟨fun _ => none, verdict⟩

/-- The store does what it is asked. The second part of the state counts the fetches, and a location
that can be fetched holds what it always holds. -/
def Trial.handle (t : Trial) (held : String → Fetched) :
    (c : Call) → Memory × Nat → c.Reply × (Memory × Nat)
  | .fetch location, (m, n) =>
    ((t.failure? n).elim (.ok (held location)) .error, (m, n + 1))
  | .index .., st => (t.verdict, st)
  | c, (m, n) => ((willing .inProgress c m).1, ((willing .inProgress c m).2, n))

/-- Tries to promote a dataset; says what came of it, and what the store is then. -/
def Trial.promote (t : Trial) (held : String → Fetched) (site : Site) (dataset : String)
    (ps : List Product) (m : Memory) : Outcome × Memory :=
  let (o, (m, _)) := (Service.promote site dataset ps).run (t.handle held) (m, 0)
  (o, m)

/-! ## What a promotion stores -/

/-- The store after a product has been taken over. -/
def adopted (held : String → Fetched) (dataset : String) (m : Memory) (p : Product) : Memory :=
  match replaceable? p with
  | none => m
  | some kind => m.insert ⟨dataset, kind⟩ (fetchedUpload (held p.location)).toArtifact

/-- Whether a product of this kind is among them. -/
def Offers (ps : List Product) (kind : Kind) : Prop := ∃ p ∈ ps, replaceable? p = some kind

/-- The store after a promotion in which every fetch succeeds, if the dataset has its file. -/
def promoted (held : String → Fetched) (dataset : String) (ps : List Product) (m : Memory) : Memory :=
  let m := ps.foldl (adopted held dataset) m
  let m := if ps.any (replaceable? · = some .metacard) then m
    else (m.setStatus ⟨dataset, .metacard⟩ .stored).2
  (m.setStatus ⟨dataset, .file⟩ .stored).2

section

variable {held : String → Fetched} {dataset : String} {kind : Kind} {p : Product}
  {ps : List Product} {m m' : Memory} {k : Key} {a : Artifact}

theorem adopted_of_none (h : replaceable? p = none) : adopted held dataset m p = m := by
  simp only [adopted, h]

theorem adopted_of_some (h : replaceable? p = some kind) : adopted held dataset m p =
    m.insert ⟨dataset, kind⟩ (fetchedUpload (held p.location)).toArtifact := by
  simp only [adopted, h]

theorem erase_adopted_congr (h : m.erase k = m'.erase k) :
    (adopted held dataset m p).erase k = (adopted held dataset m' p).erase k := by
  cases hp : replaceable? p with
  | none => rw [adopted_of_none hp, adopted_of_none hp, h]
  | some kind =>
      rw [adopted_of_some hp, adopted_of_some hp]
      by_cases hk : (⟨dataset, kind⟩ : Key) = k
      · rw [hk, Memory.insert_congr h]
      · rw [Memory.erase_insert_of_ne hk, Memory.erase_insert_of_ne hk, h]

theorem erase_foldl_adopted_congr (h : m.erase k = m'.erase k) :
    (ps.foldl (adopted held dataset) m).erase k = (ps.foldl (adopted held dataset) m').erase k := by
  induction ps generalizing m m' with
  | nil => exact h
  | cons p ps ih =>
      rw [List.foldl_cons, List.foldl_cons]
      exact ih (erase_adopted_congr h)

/-- An artifact that will be replaced makes no difference. -/
theorem foldl_adopted_congr (h : m.erase ⟨dataset, kind⟩ = m'.erase ⟨dataset, kind⟩)
    (hps : Offers ps kind) :
    ps.foldl (adopted held dataset) m = ps.foldl (adopted held dataset) m' := by
  induction ps generalizing m m' with
  | nil =>
      obtain ⟨p, hp, _⟩ := hps
      cases hp
  | cons q ps ih =>
      obtain ⟨p, hp, hkind⟩ := hps
      rw [List.foldl_cons, List.foldl_cons]
      rcases List.mem_cons.mp hp with rfl | hp
      · rw [adopted_of_some hkind, adopted_of_some hkind, Memory.insert_congr h]
      · exact ih (erase_adopted_congr h) ⟨p, hp, hkind⟩

theorem get?_foldl_adopted (h : ¬ Offers ps kind) :
    (ps.foldl (adopted held dataset) m).get? ⟨dataset, kind⟩ = m.get? ⟨dataset, kind⟩ := by
  induction ps generalizing m with
  | nil => rfl
  | cons p ps ih =>
      rw [List.foldl_cons, ih fun ⟨q, hq, hk⟩ => h ⟨q, List.mem_cons_of_mem _ hq, hk⟩]
      cases hp : replaceable? p with
      | none => rw [adopted_of_none hp]
      | some other =>
          rw [adopted_of_some hp, Memory.get?_insert_of_ne]
          rintro ⟨⟩
          exact h ⟨p, List.mem_cons_self .., hp⟩

theorem not_offers_file : ¬ Offers ps .file := fun ⟨_, _, hp⟩ => replaceable?_ne_file hp rfl

theorem any_replaceable?_iff : ps.any (replaceable? · = some kind) ↔ Offers ps kind := by
  simp only [List.any_eq_true, decide_eq_true_eq, Offers]

/-! ## What a later promotion makes good -/

theorem promoted_insert (hps : Offers ps kind) :
    promoted held dataset ps (m.insert ⟨dataset, kind⟩ a) = promoted held dataset ps m := by
  simp only [promoted]
  rw [foldl_adopted_congr Memory.erase_insert_self hps]

theorem promoted_adopted (hp : p ∈ ps) :
    promoted held dataset ps (adopted held dataset m p) = promoted held dataset ps m := by
  cases hk : replaceable? p with
  | none => rw [adopted_of_none hk]
  | some kind => rw [adopted_of_some hk, promoted_insert ⟨p, hp, hk⟩]

/-- The products that were taken over until a promotion stopped do not matter. -/
theorem promoted_foldl_adopted {qs : List Product} (h : ∀ q ∈ qs, q ∈ ps) :
    promoted held dataset ps (qs.foldl (adopted held dataset) m) = promoted held dataset ps m := by
  induction qs generalizing m with
  | nil => rfl
  | cons q qs ih =>
      obtain ⟨hq, hqs⟩ := List.forall_mem_cons.mp h
      rw [List.foldl_cons, ih hqs, promoted_adopted hq]

variable (held) in
/-- A status that is set before the products are taken over is all that differs after it. -/
theorem foldl_adopted_setStatus (hps : ¬ Offers ps kind) (ha : m.get? ⟨dataset, kind⟩ = some a)
    (s : Artifact.Status) :
    (ps.foldl (adopted held dataset) m).erase ⟨dataset, kind⟩ =
        (ps.foldl (adopted held dataset) (m.setStatus ⟨dataset, kind⟩ s).2).erase ⟨dataset, kind⟩ ∧
      (ps.foldl (adopted held dataset) m).get? ⟨dataset, kind⟩ = some a ∧
      (ps.foldl (adopted held dataset) (m.setStatus ⟨dataset, kind⟩ s).2).get? ⟨dataset, kind⟩ =
        some { a with metadata := { a.metadata with status := s } } := by
  rw [Memory.setStatus_of_get? ha]
  exact ⟨erase_foldl_adopted_congr Memory.erase_insert_self.symm, (get?_foldl_adopted hps).trans ha,
    (get?_foldl_adopted hps).trans Memory.get?_insert_self⟩

theorem promoted_setStatus_metacard (h : ¬ Offers ps .metacard) :
    promoted held dataset ps (m.setStatus ⟨dataset, .metacard⟩ .stored).2 =
      promoted held dataset ps m := by
  cases ha : m.get? ⟨dataset, .metacard⟩ with
  | none => rw [Memory.setStatus_of_none ha]
  | some a =>
      obtain ⟨herase, hold, hnew⟩ := foldl_adopted_setStatus held h ha .stored
      simp only [promoted, any_replaceable?_iff, h, if_false]
      rw [Memory.setStatus_congr herase hold hnew]

theorem promoted_setStatus_file :
    promoted held dataset ps (m.setStatus ⟨dataset, .file⟩ .stored).2 =
      promoted held dataset ps m := by
  cases ha : m.get? ⟨dataset, .file⟩ with
  | none => rw [Memory.setStatus_of_none ha]
  | some a =>
      obtain ⟨herase, hold, hnew⟩ := foldl_adopted_setStatus held not_offers_file ha .stored
      simp only [promoted]
      -- Whether the metacard is approved in between does not matter to the file.
      split
      · exact Memory.setStatus_congr herase hold hnew
      · exact Memory.setStatus_congr (Memory.erase_setStatus_congr herase (by simp))
          ((Memory.get?_setStatus_of_ne (by simp)).trans hold)
          ((Memory.get?_setStatus_of_ne (by simp)).trans hnew)

theorem promoted_promoted :
    promoted held dataset ps (promoted held dataset ps m) = promoted held dataset ps m := by
  have hadopted : promoted held dataset ps (ps.foldl (adopted held dataset) m) =
      promoted held dataset ps m := promoted_foldl_adopted fun _ hq => hq
  refine promoted_setStatus_file.trans ?_
  split
  · exact hadopted
  · rename_i hcard
    rw [promoted_setStatus_metacard fun ho => hcard (any_replaceable?_iff.mpr ho)]
    exact hadopted

theorem get?_promoted_file :
    (promoted held dataset ps m).get? ⟨dataset, .file⟩ = none ↔
      m.get? ⟨dataset, .file⟩ = none := by
  rw [promoted, Memory.get?_setStatus_eq_none_iff]
  split
  · rw [get?_foldl_adopted not_offers_file]
  · rw [Memory.get?_setStatus_eq_none_iff, get?_foldl_adopted not_offers_file]

end

/-! ## Every trial -/

namespace Trial

variable {t : Trial} {held : String → Fetched} {site : Site} {dataset : String} {m : Memory}
  {n : Nat}

theorem store_fetchedUpload (f : Fetched) (k : Key) :
    m.store k (fetchedUpload f) = (.ok (), m.insert k (fetchedUpload f).toArtifact) := by
  simp only [Memory.store, Store.checkSize, fetchedUpload, if_true]

theorem run_adopt {kind : Kind} {p : Product} (hp : replaceable? p = some kind) :
    (adopt dataset kind p.location).run (t.handle held) (m, n) =
      match t.failure? n with
      | some e => (.error (outcomeOfFetch e), (m, n + 1))
      | none => (.ok (), (adopted held dataset m p, n + 1)) := by
  rw [adopt, run_call]
  simp only [handle]
  cases t.failure? n with
  | some e => rfl
  | none =>
      simp only [Option.elim]
      by_cases hk : kind = .metacard
      · rw [if_pos hk, run_call]
        simp only [handle, willing, Memory.delete]
        rw [run_call]
        simp only [handle, willing, store_fetchedUpload, Memory.insert_erase_self, adopted_of_some hp]
        rfl
      · rw [if_neg hk, pure_bind, run_call]
        simp only [handle, willing, store_fetchedUpload, adopted_of_some hp]
        rfl

variable (t held dataset) in
/-- The products are taken over in turn until a fetch fails. -/
theorem run_adoptAll (qs : List Product) (b : Bool) :
    ∃ r taken n', (adoptAll dataset qs b).run (t.handle held) (m, n) =
        (r, (taken.foldl (adopted held dataset) m, n')) ∧ (∀ q ∈ taken, q ∈ qs) ∧
      (∀ b', r = .ok b' → taken = qs ∧ b' = (b || qs.any (replaceable? · = some .metacard))) ∧
      ((∀ n, t.failure? n = none) → ∃ b', r = .ok b') := by
  -- Along the products, with any store and any number of fetches so far.
  induction qs generalizing m n b with
  | nil => exact ⟨.ok b, [], n, rfl, by simp, by simp, fun _ => ⟨b, rfl⟩⟩
  | cons q qs ih =>
      rw [adoptAll]
      cases hq : replaceable? q with
      | none =>
          simp only
          rw [run_call]
          obtain ⟨r, taken, n', hrun, hsub, hok, hclear⟩ := ih (m := m) (n := n) b
          refine ⟨r, q :: taken, n', ?_, ?_, fun b' hr => ?_, hclear⟩
          · rw [List.foldl_cons, adopted_of_none hq]
            exact hrun
          · exact List.forall_mem_cons.mpr ⟨List.mem_cons_self .., fun x hx =>
              List.mem_cons_of_mem _ (hsub x hx)⟩
          · obtain ⟨rfl, rfl⟩ := hok b' hr
            simp [hq]
      | some kind =>
          simp only
          rw [Script.run_bind, run_adopt hq]
          cases hf : t.failure? n with
          | some e =>
              refine ⟨.error (outcomeOfFetch e), [], n + 1, rfl, by simp, by simp, fun hc => ?_⟩
              rw [hc n] at hf
              cases hf
          | none =>
              obtain ⟨r, taken, n', hrun, hsub, hok, hclear⟩ :=
                ih (m := adopted held dataset m q) (n := n + 1) (b || kind = .metacard)
              refine ⟨r, q :: taken, n', ?_, ?_, fun b' hr => ?_, hclear⟩
              · rw [List.foldl_cons]
                exact hrun
              · exact List.forall_mem_cons.mpr ⟨List.mem_cons_self .., fun x hx =>
                  List.mem_cons_of_mem _ (hsub x hx)⟩
              · obtain ⟨rfl, rfl⟩ := hok b' hr
                simp [hq, Bool.or_assoc]

theorem run_announce :
    (announce site dataset).run (t.handle held) (m, n) = (t.verdict, (m, n)) := by
  rw [announce, run_call]
  split <;> rfl

/-- The file is there, so it is approved and the index service is asked. -/
theorem run_approveFile (h : m.get? ⟨dataset, .file⟩ ≠ none) :
    (do
      match ← call (.setStatus ⟨dataset, .file⟩ .stored) with
      | .error e => return outcomeOf e
      | .ok () => announce site dataset : Work Outcome).run (t.handle held) (m, n) =
      (t.verdict, ((m.setStatus ⟨dataset, .file⟩ .stored).2, n)) := by
  obtain ⟨a, ha⟩ := Option.ne_none_iff_exists'.mp h
  rw [run_call]
  simp only [handle, willing, Memory.setStatus_of_get? ha]
  exact run_announce

theorem run_approveMetacard :
    (approveMetacard dataset).run (t.handle held) (m, n) =
      (.ok (), ((m.setStatus ⟨dataset, .metacard⟩ .stored).2, n)) := by
  rw [approveMetacard, run_call]
  simp only [handle, willing]
  cases ha : m.get? ⟨dataset, .metacard⟩ with
  | none =>
      rw [Memory.setStatus_of_none ha]
      rfl
  | some a =>
      rw [Memory.setStatus_of_get? ha]
      rfl

variable (t held site) in
/-- A promotion stops at a fetch, or it does all that it has to do. -/
theorem promote_of_present {ps : List Product} (h : m.get? ⟨dataset, .file⟩ ≠ none) :
    (∃ (o : Outcome) (taken : List Product), (∀ p ∈ taken, p ∈ ps) ∧
      t.promote held site dataset ps m = (o, taken.foldl (adopted held dataset) m) ∧
      ¬ ∀ n, t.failure? n = none) ∨
    t.promote held site dataset ps m = (t.verdict, promoted held dataset ps m) := by
  obtain ⟨a, ha⟩ := Option.ne_none_iff_exists'.mp h
  rw [Trial.promote, Service.promote, run_call]
  simp only [handle, willing, Memory.status, Memory.retrieve, ha, Except.map]
  rw [Script.run_bind]
  obtain ⟨r, taken, n', hrun, hsub, hok, hclear⟩ :=
    run_adoptAll t held dataset (m := m) (n := 0) ps false
  rw [hrun]
  cases r with
  | error o =>
      refine Or.inl ⟨o, taken, hsub, rfl, fun hc => ?_⟩
      obtain ⟨b, hb⟩ := hclear hc
      cases hb
  | ok b =>
      obtain ⟨htaken, rfl⟩ := hok b rfl
      rw [htaken]
      right
      have hfile : (ps.foldl (adopted held dataset) m).get? ⟨dataset, .file⟩ ≠ none := by
        rw [get?_foldl_adopted not_offers_file]
        exact h
      simp only [Bool.false_or, promoted]
      cases hcard : ps.any (replaceable? · = some .metacard) with
      | true =>
          simp only [if_true, pure_bind]
          exact congrArg (fun r : Outcome × (Memory × Nat) => (r.1, r.2.1)) (run_approveFile hfile)
      | false =>
          have hfile' := hfile
          rw [← Memory.get?_setStatus_of_ne (k := ⟨dataset, .metacard⟩) (s := .stored) (by simp)]
            at hfile'
          simp only [Bool.false_eq_true, if_false]
          rw [Script.run_bind, run_approveMetacard]
          exact congrArg (fun r : Outcome × (Memory × Nat) => (r.1, r.2.1)) (run_approveFile hfile')

theorem promote_clear {ps : List Product} {verdict : Outcome}
    (h : m.get? ⟨dataset, .file⟩ ≠ none) :
    (clear verdict).promote held site dataset ps m = (verdict, promoted held dataset ps m) := by
  rcases promote_of_present (clear verdict) held site h with ⟨o, taken, _, _, hf⟩ | hp
  · exact absurd (fun _ => rfl) hf
  · exact hp

variable (t held site) in
/-- A promotion that gets through makes good whatever an earlier one has done. -/
theorem promoted_promote (ps : List Product) (h : m.get? ⟨dataset, .file⟩ ≠ none) :
    promoted held dataset ps (t.promote held site dataset ps m).2 = promoted held dataset ps m ∧
      (t.promote held site dataset ps m).2.get? ⟨dataset, .file⟩ ≠ none := by
  rcases promote_of_present t held site h with ⟨o, taken, hsub, hp, _⟩ | hp
  · rw [hp, promoted_foldl_adopted hsub, get?_foldl_adopted not_offers_file]
    exact ⟨rfl, h⟩
  · rw [hp]
    exact ⟨promoted_promoted, (not_congr get?_promoted_file).mpr h⟩

/-- The store after one trial after the other. -/
def afterAll (trials : List Trial) (held : String → Fetched) (site : Site) (dataset : String)
    (ps : List Product) (m : Memory) : Memory :=
  trials.foldl (fun m t => (t.promote held site dataset ps m).2) m

variable (held site) in
theorem promoted_afterAll (trials : List Trial) (ps : List Product)
    (h : m.get? ⟨dataset, .file⟩ ≠ none) :
    promoted held dataset ps (afterAll trials held site dataset ps m) = promoted held dataset ps m ∧
      (afterAll trials held site dataset ps m).get? ⟨dataset, .file⟩ ≠ none := by
  induction trials generalizing m with
  | nil => exact ⟨rfl, h⟩
  | cons t trials ih =>
      obtain ⟨hsame, hfile⟩ := promoted_promote t held site ps h
      obtain ⟨hrest, hlast⟩ := ih hfile
      exact ⟨hrest.trans hsame, hlast⟩

end Trial

/-- However often a promotion has stopped at a fetch or at the index service, one that gets through
leaves the store as it would have been had it been the first. -/
theorem promote_converges {held : String → Fetched} {site : Site} {dataset : String}
    {ps : List Product} {m : Memory} (hfile : m.get? ⟨dataset, .file⟩ ≠ none) (trials : List Trial)
    (first last : Outcome) :
    (Trial.clear last).promote held site dataset ps
        (Trial.afterAll trials held site dataset ps m) =
      (last, ((Trial.clear first).promote held site dataset ps m).2) := by
  obtain ⟨hsame, hlast⟩ := Trial.promoted_afterAll held site trials ps hfile
  rw [Trial.promote_clear hlast, Trial.promote_clear hfile, hsame]

/-- The first trial stores one description and stops, the second is turned down by the index service. -/
theorem promote_converges_staged :
    stagedDataset.get? ⟨"a", .file⟩ ≠ none ∧
      (Trial.clear .success).promote (fun l => ⟨l, [3]⟩) ⟨"http://s"⟩ "a"
          [⟨" IRM ", "/1"⟩, ⟨"FILE", "/2"⟩, ⟨"metacard", "/3"⟩, ⟨"irm", "/4"⟩]
          (Trial.afterAll [⟨fun n => if n = 1 then some (.missingLocation "a") else none, .success⟩,
            .clear (.transient "busy")] (fun l => ⟨l, [3]⟩) ⟨"http://s"⟩ "a"
            [⟨" IRM ", "/1"⟩, ⟨"FILE", "/2"⟩, ⟨"metacard", "/3"⟩, ⟨"irm", "/4"⟩] stagedDataset) =
        (.success, ⟨[(⟨"a", .file⟩, ⟨"image/tiff", [1], ⟨none, .stored⟩⟩),
          (⟨"a", .irm⟩, ⟨"/4", [3], ⟨none, .stored⟩⟩),
          (⟨"a", .metacard⟩, ⟨"/3", [3], ⟨none, .stored⟩⟩)]⟩) :=
  ⟨by decide, (promote_converges (by decide) _ .success .success).trans (by decide)⟩

end Intake.Service
