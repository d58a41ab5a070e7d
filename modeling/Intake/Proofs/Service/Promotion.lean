import Intake.Proofs.Service.Convergence
import Intake.Proofs.Service.Advance

/-!
# A promotion that nobody disturbs

When a promotion asks the index service and nobody else has worked on its dataset, the dataset is as the
index service is to find it: every product is there as it was fetched last, then the metacard and at
last the file have been approved.
-/

namespace Intake.Service

open Store (Memory)
open Artifact (Key Kind)
open Remote (Fetched Product)

/-- Both stores have the same artifacts of a dataset. -/
def SameFor (dataset : String) (m m' : Memory) : Prop :=
  ∀ kind, m'.get? ⟨dataset, kind⟩ = m.get? ⟨dataset, kind⟩

/-- Work on the store `m` may come to what is left of it on the store `m'`, with these calls on the way,
while others leave the dataset as it is. -/
inductive Undisturbed {α : Type} (dataset : String) :
    Work α → Memory → List Exchange → Work α → Memory → Prop
  | here {w m m'} (others : SameFor dataset m m') : Undisturbed dataset w m [] w m'
  | ask {c next m m₁ r m₂ xs w m'} (others : SameFor dataset m m₁) (serves : Serves m₁ m₂ c r)
      (rest : Undisturbed dataset (next r) m₂ xs w m') :
      Undisturbed dataset (.ask c next) m (⟨c, r⟩ :: xs) w m'

/-- What was fetched, in order, with the places that it was fetched from. -/
def fetches (xs : List Exchange) : List (String × Fetched) :=
  xs.filterMap fun x => match x with
    | ⟨.fetch location, .ok f⟩ => some (location, f)
    | _ => none

theorem fetches_append (xs ys : List Exchange) : fetches (xs ++ ys) = fetches xs ++ fetches ys :=
  List.filterMap_append

namespace SameFor

variable {dataset : String} {m m' m'' : Memory}

theorem refl (dataset : String) (m : Memory) : SameFor dataset m m := fun _ => rfl

theorem trans (h : SameFor dataset m m') (h' : SameFor dataset m' m'') : SameFor dataset m m'' :=
  fun kind => (h' kind).trans (h kind)

theorem statusOf?_eq (h : SameFor dataset m m') (kind : Kind) :
    m'.statusOf? ⟨dataset, kind⟩ = m.statusOf? ⟨dataset, kind⟩ :=
  statusOf?_congr (h kind)

end SameFor

/-! ## Taking it apart -/

namespace Undisturbed

variable {α β : Type} {dataset : String} {m m' m'' : Memory} {xs ys : List Exchange} {a : α}
  {c : Call}

theorem of_others {w w' : Work α} (hm : SameFor dataset m m')
    (h : Undisturbed dataset w m' xs w' m'') : Undisturbed dataset w m xs w' m'' := by
  cases h with
  | here others => exact .here (hm.trans others)
  | ask others serves rest => exact .ask (hm.trans others) serves rest

theorem of_pure {b : α} (h : Undisturbed dataset (pure a) m xs (.done b) m') :
    xs = [] ∧ b = a ∧ SameFor dataset m m' := by
  cases h with
  | here others => exact ⟨rfl, rfl, others⟩

/-- What has come further than a call has made it. -/
theorem of_call {f : c.Reply → Work α} {w' : Work α}
    (h : Undisturbed dataset (call c >>= f) m xs w' m') :
    w' = (call c >>= f) ∧ xs = [] ∧ SameFor dataset m m' ∨
      ∃ m₁ r m₂ ys, xs = ⟨c, r⟩ :: ys ∧ SameFor dataset m m₁ ∧ Serves m₁ m₂ c r ∧
        Undisturbed dataset (f r) m₂ ys w' m' := by
  cases h with
  | here others => exact Or.inl ⟨rfl, rfl, others⟩
  | ask others serves rest => exact Or.inr ⟨_, _, _, _, rfl, others, serves, rest⟩

theorem of_call_done {f : c.Reply → Work α} {b : α}
    (h : Undisturbed dataset (call c >>= f) m xs (.done b) m') :
    ∃ m₁ r m₂ ys, xs = ⟨c, r⟩ :: ys ∧ SameFor dataset m m₁ ∧ Serves m₁ m₂ c r ∧
      Undisturbed dataset (f r) m₂ ys (.done b) m' := by
  rcases h.of_call with ⟨hw, _, _⟩ | h
  · cases hw
  · exact h

/-- Work is still in its first part, or that part is done. -/
theorem of_bind {w : Work α} {f : α → Work β} {w' : Work β}
    (h : Undisturbed dataset (w >>= f) m xs w' m') :
    (∃ c next, Undisturbed dataset w m xs (.ask c next) m' ∧ w' = .ask c next >>= f) ∨
      ∃ ys a m₁ zs, xs = ys ++ zs ∧ Undisturbed dataset w m ys (.done a) m₁ ∧
        Undisturbed dataset (f a) m₁ zs w' m' := by
  induction w generalizing m xs with
  | done a => exact Or.inr ⟨[], a, m, xs, rfl, .here (.refl _ _), h⟩
  | ask c next ih =>
      cases h with
      | here others => exact Or.inl ⟨_, _, .here others, rfl⟩
      | ask others serves rest =>
          rcases ih _ rest with ⟨c, next, hw, rfl⟩ | ⟨ys, a, m₁, zs, rfl, hw, hf⟩
          · exact Or.inl ⟨c, next, .ask others serves hw, rfl⟩
          · exact Or.inr ⟨_ :: ys, a, m₁, zs, rfl, .ask others serves hw, hf⟩

theorem of_bind_done {w : Work α} {f : α → Work β} {b : β}
    (h : Undisturbed dataset (w >>= f) m xs (.done b) m') :
    ∃ ys a m₁ zs, xs = ys ++ zs ∧ Undisturbed dataset w m ys (.done a) m₁ ∧
      Undisturbed dataset (f a) m₁ zs (.done b) m' := by
  rcases h.of_bind with ⟨c, next, _, heq⟩ | h
  · cases heq
  · exact h

theorem always {P : Call → Prop} {w w' : Work α} (h : Undisturbed dataset w m xs w' m')
    (hw : w.Always P) : w'.Always P := by
  induction h with
  | here => exact hw
  | ask _ _ _ ih => exact ih (hw.2 _)

end Undisturbed

/-- Work that never asks the index service. -/
def Indexless {α : Type} (w : Work α) : Prop := w.Always fun c => c.isIndex = false

/-- What is about to ask the index service is past all that never does. -/
theorem Undisturbed.of_indexless {α β : Type} {dataset other : String} {m m' : Memory}
    {xs : List Exchange} {w : Work α} {f : α → Work β} {req : Remote.IndexRequest}
    {next : Remote.Outcome → Work β} (hw : Indexless w)
    (h : Undisturbed dataset (w >>= f) m xs (.ask (.index other req) next) m') :
    ∃ ys a m₁ zs, xs = ys ++ zs ∧ Undisturbed dataset w m ys (.done a) m₁ ∧
      Undisturbed dataset (f a) m₁ zs (.ask (.index other req) next) m' := by
  rcases h.of_bind with ⟨c, next₁, hw₁, heq⟩ | h
  · have hindex := (hw₁.always hw).1
    cases heq
    cases hindex
  · exact h

/-! ## The steps of a promotion -/

section

variable {dataset : String} {m m' : Memory} {xs : List Exchange} {kind : Kind}

theorem indexless_adoptAll (ps : List Product) (b : Bool) : Indexless (adoptAll dataset ps b) :=
  (adopts_adoptAll ps b).mono fun _ h => by cases h <;> rfl

theorem Undisturbed.of_storeFetched {f : Fetched}
    (h : Undisturbed dataset (do
      match ← call (.store ⟨dataset, kind⟩ (fetchedUpload f)) with
      | .error e => return .error (outcomeOf e)
      | .ok () => return .ok () : Work (Except Remote.Outcome Unit)) m xs (.done (.ok ())) m') :
    fetches xs = [] ∧ m'.get? ⟨dataset, kind⟩ = some (fetchedUpload f).toArtifact ∧
      ∀ j, j ≠ kind → m'.get? ⟨dataset, j⟩ = m.get? ⟨dataset, j⟩ := by
  obtain ⟨m₁, r, m₂, ys, rfl, hothers, hserves, h⟩ := h.of_call_done
  rcases hserves.of_store with ⟨rfl, rfl⟩ | ⟨⟨e, rfl⟩, rfl⟩
  · obtain ⟨rfl, -, hsame⟩ := h.of_pure
    refine ⟨rfl, ?_, fun j hj => ?_⟩
    · rw [hsame, Memory.get?_insert_self]
    · rw [hsame, Memory.get?_insert_of_ne (by simp [hj]), hothers]
  · obtain ⟨-, ⟨⟩, -⟩ := h.of_pure

theorem Undisturbed.of_adopt {location : String}
    (h : Undisturbed dataset (adopt dataset kind location) m xs (.done (.ok ())) m') :
    ∃ f, fetches xs = [(location, f)] ∧
      m'.get? ⟨dataset, kind⟩ = some (fetchedUpload f).toArtifact ∧
      ∀ j, j ≠ kind → m'.get? ⟨dataset, j⟩ = m.get? ⟨dataset, j⟩ := by
  obtain ⟨m₁, r, m₂, ys, rfl, hothers, hserves, h⟩ := h.of_call_done
  obtain rfl : m₂ = m₁ := hserves
  cases r with
  | error e => obtain ⟨-, ⟨⟩, -⟩ := h.of_pure
  | ok f =>
      refine ⟨f, ?_⟩
      simp only at h
      split at h
      · rename_i hcard
        obtain ⟨m₃, r, m₄, zs, rfl, hothers', hserves, h⟩ := h.of_call_done
        rcases Answers.of_delete hserves with ⟨rfl, rfl⟩ | ⟨e, rfl, _, rfl⟩
        · obtain ⟨hfetches, hkind, hrest⟩ := Undisturbed.of_storeFetched h
          refine ⟨congrArg (List.cons _) hfetches, hkind, fun j hj => ?_⟩
          rw [hrest j hj, Memory.get?_erase_of_ne (by simp [hj]), hothers', hothers]
        · obtain ⟨-, ⟨⟩, -⟩ := h.of_pure
      · obtain ⟨hfetches, hkind, hrest⟩ := Undisturbed.of_storeFetched h
        refine ⟨congrArg (List.cons _) hfetches, hkind, fun j hj => ?_⟩
        rw [hrest j hj, hothers]

/-- The store has what was fetched last for each kind; a kind that no product has is as before. -/
def HasLatest (dataset : String) (taken : List (Product × Fetched)) (m m' : Memory) : Prop :=
  ∀ kind,
    (∃ before p f after, taken = before ++ (p, f) :: after ∧ replaceable? p = some kind ∧
      (∀ q ∈ after, replaceable? q.1 ≠ some kind) ∧
      m'.get? ⟨dataset, kind⟩ = some (fetchedUpload f).toArtifact) ∨
    (∀ q ∈ taken, replaceable? q.1 ≠ some kind) ∧
      m'.get? ⟨dataset, kind⟩ = m.get? ⟨dataset, kind⟩

theorem HasLatest.cons {p : Product} {f : Fetched} {taken : List (Product × Fetched)}
    {m₁ : Memory} (h : HasLatest dataset taken m₁ m') (hp : replaceable? p = some kind)
    (hkind : m₁.get? ⟨dataset, kind⟩ = some (fetchedUpload f).toArtifact)
    (hrest : ∀ j, j ≠ kind → m₁.get? ⟨dataset, j⟩ = m.get? ⟨dataset, j⟩) :
    HasLatest dataset ((p, f) :: taken) m m' := by
  intro j
  rcases h j with ⟨before, q, g, after, rfl, hq, hafter, hget⟩ | ⟨hnone, hget⟩
  · exact Or.inl ⟨(p, f) :: before, q, g, after, rfl, hq, hafter, hget⟩
  · by_cases hj : j = kind
    · subst hj
      exact Or.inl ⟨[], p, f, taken, rfl, hp, hnone, hget.trans hkind⟩
    · refine Or.inr ⟨List.forall_mem_cons.mpr ⟨fun he => hj ?_, hnone⟩, hget.trans (hrest j hj)⟩
      exact Option.some.inj (he.symm.trans hp)

/-- All products have been taken over in turn. -/
theorem Undisturbed.of_adoptAll {ps : List Product} {b b' : Bool}
    (h : Undisturbed dataset (adoptAll dataset ps b) m xs (.done (.ok b')) m') :
    ∃ taken : List (Product × Fetched),
      taken.map Prod.fst = ps.filter (fun p => (replaceable? p).isSome) ∧
      fetches xs = taken.map (fun q => (q.1.location, q.2)) ∧ HasLatest dataset taken m m' ∧
      b' = (b || ps.any (replaceable? · = some .metacard)) := by
  induction ps generalizing b m xs with
  | nil =>
      obtain ⟨rfl, ⟨⟩, hsame⟩ := h.of_pure
      exact ⟨[], rfl, rfl, fun kind => Or.inr ⟨by simp, hsame kind⟩, by simp⟩
  | cons p ps ih =>
      rw [adoptAll] at h
      cases hp : replaceable? p with
      | none =>
          simp only [hp] at h
          obtain ⟨m₁, r, m₂, ys, rfl, hothers, hserves, h⟩ := h.of_call_done
          obtain rfl : m₂ = m₁ := hserves
          obtain ⟨taken, htaken, hfetches, hlatest, hb'⟩ := ih (h.of_others hothers)
          exact ⟨taken, by simpa [hp] using htaken, hfetches, hlatest, by simpa [hp] using hb'⟩
      | some kind =>
          simp only [hp] at h
          obtain ⟨ys, r, m₁, zs, rfl, hadopt, h⟩ := h.of_bind_done
          cases r with
          | error o => obtain ⟨-, ⟨⟩, -⟩ := h.of_pure
          | ok u =>
              obtain ⟨f, hone, hkind, hrest⟩ := hadopt.of_adopt
              obtain ⟨taken, htaken, hfetches, hlatest, hb'⟩ := ih h
              refine ⟨(p, f) :: taken, ?_, ?_, hlatest.cons hp hkind hrest, ?_⟩
              · simpa [hp] using htaken
              · rw [fetches_append, hone, hfetches]
                rfl
              · simpa [hp, Bool.or_assoc] using hb'

/-- The metacard that was handed in has been approved, unless there is none. -/
theorem Undisturbed.of_approveMetacard
    (h : Undisturbed dataset (approveMetacard dataset) m xs (.done (.ok ())) m') :
    fetches xs = [] ∧
      (m'.get? ⟨dataset, .metacard⟩ = none ∨ m'.statusOf? ⟨dataset, .metacard⟩ = some .stored) ∧
      ∀ j, j ≠ .metacard → m'.get? ⟨dataset, j⟩ = m.get? ⟨dataset, j⟩ := by
  obtain ⟨m₁, r, m₂, ys, rfl, hothers, hserves, h⟩ := h.of_call_done
  rcases Answers.of_setStatus hserves with ⟨a, ha, rfl, rfl⟩ | ⟨hnone, rfl, rfl⟩ | ⟨e, rfl, he, rfl⟩
  · obtain ⟨rfl, -, hsame⟩ := h.of_pure
    refine ⟨rfl, Or.inr ?_, fun j hj => ?_⟩
    · rw [hsame.statusOf?_eq, Memory.statusOf?, Memory.get?_insert_self]
      rfl
    · rw [hsame, Memory.get?_insert_of_ne (by simp [hj]), hothers]
  · obtain ⟨rfl, -, hsame⟩ := h.of_pure
    exact ⟨rfl, Or.inl ((hsame _).trans hnone), fun j _ => by rw [hsame, hothers]⟩
  · cases e with
    | notFound key => exact absurd rfl (he key)
    | _ => obtain ⟨-, ⟨⟩, -⟩ := h.of_pure

theorem Undisturbed.of_announce {site : Site} {other : String} {req : Remote.IndexRequest}
    {next : Remote.Outcome → Work Remote.Outcome}
    (h : Undisturbed dataset (announce site dataset) m xs (.ask (.index other req) next) m') :
    other = dataset ∧ req = ⟨site.artifactUrl dataset .file, site.artifactUrl dataset .irm,
      site.artifactUrl dataset .metacard⟩ ∧ xs = [] ∧ SameFor dataset m m' := by
  rcases h.of_call with ⟨hw, rfl, hsame⟩ | ⟨m₁, o, m₂, ys, rfl, _, _, h⟩
  · cases hw
    exact ⟨rfl, rfl, rfl, hsame⟩
  · -- All that follows the answer is a report.
    have halways : Indexless (do
        if o = .success then
          call (.report (.datasetPromoted dataset))
          call (.count .datasetsPromoted)
        return o : Work Remote.Outcome) := by
      split
      · exact ⟨rfl, fun _ => ⟨rfl, fun _ => trivial⟩⟩
      · trivial
    cases (h.always halways).1

/-- The file has been approved when the index service is asked. -/
theorem Undisturbed.of_approveFile {site : Site} {other : String} {req : Remote.IndexRequest}
    {next : Remote.Outcome → Work Remote.Outcome}
    (h : Undisturbed dataset (do
      match ← call (.setStatus ⟨dataset, .file⟩ .stored) with
      | .error e => return outcomeOf e
      | .ok () => announce site dataset) m xs (.ask (.index other req) next) m') :
    other = dataset ∧ req = ⟨site.artifactUrl dataset .file, site.artifactUrl dataset .irm,
      site.artifactUrl dataset .metacard⟩ ∧ fetches xs = [] ∧
      m'.statusOf? ⟨dataset, .file⟩ = some .stored ∧
      ∀ j, j ≠ .file → m'.get? ⟨dataset, j⟩ = m.get? ⟨dataset, j⟩ := by
  rcases h.of_call with ⟨hw, _, _⟩ | ⟨m₁, r, m₂, ys, rfl, hothers, hserves, h⟩
  · cases hw
  rcases Answers.of_setStatus hserves with ⟨a, ha, rfl, rfl⟩ | ⟨_, rfl, _⟩ | ⟨e, rfl, _, _⟩
  · obtain ⟨hother, hreq, rfl, hsame⟩ := h.of_announce
    refine ⟨hother, hreq, rfl, ?_, fun j hj => ?_⟩
    · rw [hsame.statusOf?_eq, Memory.statusOf?, Memory.get?_insert_self]
      rfl
    · rw [hsame, Memory.get?_insert_of_ne (by simp [hj]), hothers]
  · cases h
  · cases h

/-- What the index service is to find when it is asked. -/
structure IsPrepared (site : Site) (dataset : String) (ps : List Product) (xs : List Exchange)
    (m : Memory) (req : Remote.IndexRequest) : Prop where
  file : m.statusOf? ⟨dataset, .file⟩ = some .stored
  metacard : m.get? ⟨dataset, .metacard⟩ = none ∨ m.statusOf? ⟨dataset, .metacard⟩ = some .stored
  /-- Each kind that a product has is as the last product of that kind was fetched. -/
  products : ∃ taken : List (Product × Fetched),
    taken.map Prod.fst = ps.filter (fun p => (replaceable? p).isSome) ∧
    fetches xs = taken.map (fun q => (q.1.location, q.2)) ∧
    ∀ kind, Offers ps kind → ∃ before p f after, taken = before ++ (p, f) :: after ∧
      replaceable? p = some kind ∧ (∀ q ∈ after, replaceable? q.1 ≠ some kind) ∧
      m.get? ⟨dataset, kind⟩ = some (fetchedUpload f).toArtifact
  urls : req = ⟨site.artifactUrl dataset .file, site.artifactUrl dataset .irm,
    site.artifactUrl dataset .metacard⟩

theorem HasLatest.of_offers {ps : List Product} {taken : List (Product × Fetched)}
    (h : HasLatest dataset taken m m')
    (htaken : taken.map Prod.fst = ps.filter (fun p => (replaceable? p).isSome))
    (hps : Offers ps kind) :
    ∃ before p f after, taken = before ++ (p, f) :: after ∧ replaceable? p = some kind ∧
      (∀ q ∈ after, replaceable? q.1 ≠ some kind) ∧
      m'.get? ⟨dataset, kind⟩ = some (fetchedUpload f).toArtifact := by
  rcases h kind with hlast | ⟨hnone, _⟩
  · exact hlast
  · obtain ⟨p, hp, hkind⟩ := hps
    have hmem : p ∈ taken.map Prod.fst := by
      rw [htaken]
      exact List.mem_filter.mpr ⟨hp, by simp [hkind]⟩
    obtain ⟨q, hq, rfl⟩ := List.mem_map.mp hmem
    exact absurd hkind (hnone q hq)

/-- A promotion that nobody disturbs asks the index service for a dataset that is prepared. -/
theorem Undisturbed.of_promote {site : Site} {ps : List Product} {other : String}
    {req : Remote.IndexRequest} {next : Remote.Outcome → Work Remote.Outcome}
    (h : Undisturbed dataset (promote site dataset ps) m xs (.ask (.index other req) next) m') :
    other = dataset ∧ IsPrepared site dataset ps xs m' req := by
  rcases h.of_call with ⟨hw, _, _⟩ | ⟨m₁, r, m₂, ys, rfl, hothers, hserves, h⟩
  · cases hw
  cases r with
  | error e => cases h
  | ok s =>
      obtain ⟨ys₁, r, m₃, zs, rfl, hadopt, h⟩ := h.of_indexless (indexless_adoptAll ps false)
      cases r with
      | error o => cases h
      | ok replaced =>
          obtain ⟨taken, htaken, hfetches, hlatest, hreplaced⟩ := hadopt.of_adoptAll
          have hoffers : ∀ kind, Offers ps kind → ∃ before p f after,
              taken = before ++ (p, f) :: after ∧ replaceable? p = some kind ∧
              (∀ q ∈ after, replaceable? q.1 ≠ some kind) ∧
              m₃.get? ⟨dataset, kind⟩ = some (fetchedUpload f).toArtifact :=
            fun kind => hlatest.of_offers htaken
          -- The metacard is one of the products, or the one that was handed in is approved.
          obtain ⟨ws, m₄, zs, rfl, hnone, hcard, hsame, h⟩ : ∃ ws m₄ zs', zs = ws ++ zs' ∧
              fetches ws = [] ∧
              (m₄.get? ⟨dataset, .metacard⟩ = none ∨
                m₄.statusOf? ⟨dataset, .metacard⟩ = some .stored) ∧
              (∀ kind, Offers ps kind → m₄.get? ⟨dataset, kind⟩ = m₃.get? ⟨dataset, kind⟩) ∧
              Undisturbed dataset (do
                match ← call (.setStatus ⟨dataset, .file⟩ .stored) with
                | .error e => return outcomeOf e
                | .ok () => announce site dataset) m₄ zs' (.ask (.index other req) next) m' := by
            simp only at h
            split at h
            · rename_i hcard
              refine ⟨[], m₃, zs, rfl, rfl, Or.inr ?_, fun _ _ => rfl, h⟩
              have hcard' : Offers ps .metacard := by
                rw [← any_replaceable?_iff, ← hcard, hreplaced, Bool.false_or]
              obtain ⟨_, _, f, _, _, _, _, hget⟩ := hoffers .metacard hcard'
              rw [Memory.statusOf?, hget]
              rfl
            · rename_i hcard
              obtain ⟨ws, r, m₄, zs', rfl, happrove, h⟩ := h.of_indexless (always_approveMetacard rfl)
              cases r with
              | error o => cases h
              | ok =>
                  obtain ⟨hnone, hstored, hrest⟩ := happrove.of_approveMetacard
                  refine ⟨ws, m₄, zs', rfl, hnone, hstored, fun kind hkind => hrest kind ?_, h⟩
                  rintro rfl
                  rw [hreplaced, Bool.false_or, any_replaceable?_iff] at hcard
                  exact hcard hkind
          obtain ⟨hother, hreq, hnone', hfile, hrest⟩ := h.of_approveFile
          have hcard' := hrest .metacard (by simp)
          refine ⟨hother, hfile, ?_, ⟨taken, htaken, ?_, fun kind hkind => ?_⟩, hreq⟩
          · rw [hcard', statusOf?_congr hcard']
            exact hcard
          · rw [← hfetches, fetches, List.filterMap_cons, ← fetches, fetches_append, fetches_append,
              hnone, hnone', List.append_nil, List.append_nil]
          · have hne : kind ≠ .file := fun he => not_offers_file (he ▸ hkind)
            rw [hrest kind hne, hsame kind hkind]
            exact hoffers kind hkind

end

end Intake.Service
