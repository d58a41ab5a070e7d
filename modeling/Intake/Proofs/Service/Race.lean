import Intake.Proofs.Service.Traffic

/-!
# A promotion and a quarantine of one dataset

The two run call by call in any order on a store in memory. The quarantine deletes the file first, and
the promotion looks for the file before it begins and then not until its products are stored, so what
it stores in between outlives the quarantine. The file never does, and the dataset is never indexed
in such a case.
-/

namespace Intake.Service

open Store (Memory)
open Artifact (Key Kind)
open Remote (Product)
open Relation (ReflTransGen)

/-- As `Serves`, but of a store in memory, which does not fail. -/
def ServesInMemory (m m' : Memory) : (c : Call) → c.Reply → Prop
  | .store key u, r => (r, m') = m.store key u
  | .delete key, r => (r, m') = m.delete key
  | .setStatus key s, r => (r, m') = m.setStatus key s
  | .retrieve key, r => r = m.retrieve key ∧ m' = m
  | .status key, r => r = m.status key ∧ m' = m
  | _, _ => m' = m

theorem ServesInMemory.eq_of_target? {m m' : Memory} {c : Call} {r : c.Reply}
    (h : ServesInMemory m m' c r) (hc : c.target? = none) : m' = m := by
  cases c with
  | store => cases hc
  | delete => cases hc
  | setStatus => cases hc
  | retrieve => exact h.2
  | status => exact h.2
  | _ => exact h

inductive Side
  | promotion
  | quarantine
  deriving Repr, DecidableEq

structure Race where
  promotion : Work Remote.Outcome
  quarantine : Work (Except Fault Unit)
  memory : Memory
  /-- The calls that were made, in order. -/
  log : List (Side × Exchange)

/-- Whether an artifact can be downloaded. -/
def IsRetrievable (m : Memory) (dataset : String) (kind : Kind) : Prop :=
  ∃ x, ((download dataset kind).run (willing .inProgress) m).1 = .ok x

theorem isRetrievable_iff {m : Memory} {dataset : String} {kind : Kind} :
    IsRetrievable m dataset kind ↔
      ∃ a, m.get? ⟨dataset, kind⟩ = some a ∧ a.metadata.status.isRetrievable = true := by
  rw [IsRetrievable, run_download]
  cases m.get? ⟨dataset, kind⟩ with
  | none => simp
  | some a => by_cases hstatus : a.metadata.status.isRetrievable <;> simp [hstatus]

namespace Race

def start (site : Site) (dataset : String) (ps : List Product) (m : Memory) : Race :=
  ⟨promote site dataset ps, Service.quarantine dataset, m, []⟩

/-- One of the two makes its next call. -/
inductive Step (s : Race) : Race → Prop
  | promotion {c next r m} (hp : s.promotion = .ask c next) (h : ServesInMemory s.memory m c r) :
      Step s { s with promotion := next r, memory := m, log := s.log ++ [(.promotion, ⟨c, r⟩)] }
  | quarantine {c next r m} (hq : s.quarantine = .ask c next) (h : ServesInMemory s.memory m c r) :
      Step s { s with quarantine := next r, memory := m, log := s.log ++ [(.quarantine, ⟨c, r⟩)] }

end Race

/-! ## What is left of the promotion -/

section

variable (dataset : String) (ps : List Product)

/-- `u` is what a fetch for one of the products has brought. -/
def Fetched (hs : List Exchange) (kind : Kind) (u : Artifact.Upload) : Prop :=
  ∃ p ∈ ps, ∃ f, replaceable? p = some kind ∧ ⟨.fetch p.location, .ok f⟩ ∈ hs ∧ u = fetchedUpload f

/-- A promotion has found the file gone, or could not fetch a product. -/
def GivenUp (hs : List Exchange) (o : Remote.Outcome) : Prop :=
  o = .notFound ∨ ∃ l e, ⟨.fetch l, .error e⟩ ∈ hs ∧ o = outcomeOfFetch e

/-- What a promotion that has not approved the file may still do, after the fetches `hs`: it stores what
it has fetched, and it gives up unless it finds the file. -/
def Pending : Work Remote.Outcome → List Exchange → Prop
  | .done o, hs => GivenUp hs o
  | .ask (.status key) next, hs =>
    (∀ s, Pending (next (.ok s)) hs) ∧ Pending (next (.error (.notFound key))) hs
  | .ask (.fetch l) next, hs => ∀ r, Pending (next r) (⟨.fetch l, r⟩ :: hs)
  | .ask (.delete _) next, hs => Pending (next (.ok ())) hs
  | .ask (.store key u) next, hs =>
    key ≠ ⟨dataset, .file⟩ ∧ Fetched ps hs key.kind u ∧ Pending (next (.ok ())) hs
  | .ask (.setStatus key s) next, hs =>
    s = .stored ∧ Pending (next (.error (.notFound key))) hs ∧
      if key = ⟨dataset, .file⟩ then (next (.ok ())).Always fun c => c.target? = none
      else Pending (next (.ok ())) hs
  | .ask (.report _) next, hs => Pending (next ()) hs
  | _, _ => False

end

section

variable {dataset : String} {ps : List Product} {site : Site} {hs : List Exchange}

theorem quiet_announce : (announce site dataset).Always fun c => c.target? = none := by
  refine always_call rfl fun r => ?_
  simp only
  split
  · exact ⟨rfl, fun _ => ⟨rfl, fun _ => trivial⟩⟩
  · trivial

theorem pending_adopt {p : Product} (hp : p ∈ ps) {kind : Kind} (hkind : replaceable? p = some kind)
    {f : Except Remote.Outcome Unit → Work Remote.Outcome}
    (hok : ∀ hs, Pending dataset ps (f (.ok ())) hs)
    (herror : ∀ o hs, GivenUp hs o → Pending dataset ps (f (.error o)) hs) :
    Pending dataset ps (adopt dataset kind p.location >>= f) hs := by
  have hfile : (⟨dataset, kind⟩ : Key) ≠ ⟨dataset, .file⟩ := by
    simpa using replaceable?_ne_file hkind
  intro r
  cases r with
  | error e => exact herror _ _ (.inr ⟨p.location, e, List.mem_cons_self .., rfl⟩)
  | ok x =>
      have hfetched : Fetched ps (⟨.fetch p.location, .ok x⟩ :: hs) kind (fetchedUpload x) :=
        ⟨p, hp, x, hkind, List.mem_cons_self .., rfl⟩
      simp only
      split
      · exact ⟨hfile, hfetched, hok _⟩
      · exact ⟨hfile, hfetched, hok _⟩

/-- The products are fetched and stored, and what follows is reached unless a fetch fails. -/
theorem pending_adoptAll {qs : List Product} (hqs : ∀ q ∈ qs, q ∈ ps) {b : Bool}
    {f : Except Remote.Outcome Bool → Work Remote.Outcome}
    (hok : ∀ b hs, Pending dataset ps (f (.ok b)) hs)
    (herror : ∀ o hs, GivenUp hs o → Pending dataset ps (f (.error o)) hs) :
    Pending dataset ps (adoptAll dataset qs b >>= f) hs := by
  induction qs generalizing b hs with
  | nil => exact hok b hs
  | cons q qs ih =>
      have hrest (b : Bool) (hs : List Exchange) :
          Pending dataset ps (adoptAll dataset qs b >>= f) hs :=
        ih fun q hq => hqs q (List.mem_cons_of_mem _ hq)
      rw [adoptAll]
      cases hq : replaceable? q with
      | none => exact hrest b hs
      | some kind =>
          simp only [bind_assoc]
          exact pending_adopt (hqs q (List.mem_cons_self ..)) hq (hrest _) herror

theorem pending_approveFile : Pending dataset ps (do
    match ← call (.setStatus ⟨dataset, .file⟩ .stored) with
    | .error e => return outcomeOf e
    | .ok () => announce site dataset) hs := by
  refine ⟨rfl, .inl rfl, ?_⟩
  rw [if_pos rfl]
  exact quiet_announce

/-- Whatever its products are, a promotion of the dataset is pending when it begins. -/
theorem pending_promote : Pending dataset ps (promote site dataset ps) hs := by
  refine ⟨fun status => ?_, .inl rfl⟩
  refine pending_adoptAll (fun _ h => h) (fun replaced hs => ?_) fun o hs ho => ho
  cases replaced with
  | true => exact pending_approveFile
  | false =>
      refine ⟨rfl, pending_approveFile, ?_⟩
      rw [if_neg (by simp)]
      exact pending_approveFile

end

/-! ## What is left of the quarantine -/

/-- The artifacts are deleted in turn, and then the quarantine succeeds. -/
def Quarantining (dataset : String) : List Kind → Work (Except Fault Unit) → Prop
  | [], .done r => r = .ok ()
  | [], .ask (.report _) next => Quarantining dataset [] (next ())
  | [], .ask (.count _) next => Quarantining dataset [] (next ())
  | kind :: kinds, .ask (.delete key) next =>
    key = ⟨dataset, kind⟩ ∧ Quarantining dataset kinds (next (.ok ()))
  | _, _ => False

theorem quarantining_quarantine (dataset : String) :
    Quarantining dataset Kind.all (quarantine dataset) :=
  ⟨rfl, rfl, rfl, rfl⟩

/-! ## What the two do to each other -/

namespace Race

def made (side : Side) (log : List (Side × Exchange)) : List Exchange :=
  log.filterMap fun x => if x.1 = side then some x.2 else none

section

variable (dataset : String) (ps : List Product)

/-- The promotion has stored an artifact that it had fetched, after the file was deleted. -/
def Late (log : List (Side × Exchange)) (kind : Kind) (a : Artifact) : Prop :=
  ∃ before u after, log = before ++ (.promotion, ⟨.store ⟨dataset, kind⟩ u, .ok ()⟩) :: after ∧
    (.quarantine, ⟨.delete ⟨dataset, .file⟩, .ok ()⟩) ∈ before ∧
    Fetched ps (made .promotion before) kind u ∧ a = u.toArtifact

/-- The race while the quarantine has still to delete the kinds `left`. -/
structure Kept (left : List Kind) (s : Race) : Prop where
  suffix : left <:+ Kind.all
  quarantine : Quarantining dataset left s.quarantine
  file : .file ∉ left → s.memory.get? ⟨dataset, .file⟩ = none ∧
    (.quarantine, ⟨.delete ⟨dataset, .file⟩, .ok ()⟩) ∈ s.log
  promotion :
    (∃ hs, Pending dataset ps s.promotion hs ∧ (∀ x ∈ hs, x ∈ made .promotion s.log) ∧
      ∀ x ∈ made .promotion s.log, x.call.isIndex = false) ∨
    ((s.promotion.Always fun c => c.target? = none) ∧
      ∀ kind, kind ∉ left → s.memory.get? ⟨dataset, kind⟩ = none)
  late : ∀ kind, kind ∉ left → ∀ a, s.memory.get? ⟨dataset, kind⟩ = some a →
    Late dataset ps s.log kind a

end

section

variable {dataset : String} {ps : List Product} {site : Site} {left : List Kind} {kind : Kind}
  {s s' : Race} {log : List (Side × Exchange)} {a : Artifact} {m : Memory} {c : Call} {r : c.Reply}

theorem Late.append (h : Late dataset ps log kind a) (x : Side × Exchange) :
    Late dataset ps (log ++ [x]) kind a := by
  obtain ⟨before, u, after, rfl, hfile, hu, ha⟩ := h
  exact ⟨before, u, after ++ [x], by rw [List.append_assoc]; rfl, hfile, hu, ha⟩

theorem made_append_self (side : Side) (log : List (Side × Exchange)) (x : Exchange) :
    made side (log ++ [(side, x)]) = made side log ++ [x] := by
  simp [made]

theorem made_append_of_ne {side other : Side} (h : other ≠ side) (log : List (Side × Exchange))
    (x : Exchange) : made side (log ++ [(other, x)]) = made side log := by
  simp [made, h]

theorem get?_of_get?_erase {j k : Key} (h : (m.erase k).get? j = some a) : m.get? j = some a := by
  by_cases hj : j = k
  · rw [hj, Memory.get?_erase_self] at h
    cases h
  · rwa [Memory.get?_erase_of_ne hj] at h

/-- The quarantine deletes the next kind. -/
theorem Kept.delete_step {kinds : List Kind} (h : Kept dataset ps (kind :: kinds) s)
    {w : Work (Except Fault Unit)} (hw : Quarantining dataset kinds w) :
    Kept dataset ps kinds { s with
      quarantine := w, memory := s.memory.erase ⟨dataset, kind⟩
      log := s.log ++ [(.quarantine, ⟨.delete ⟨dataset, kind⟩, .ok ()⟩)] } := by
  have hleft : ∀ {j}, j ∉ kinds → j ≠ kind → j ∉ kind :: kinds := fun hj hne => by simp [hj, hne]
  have hgone : (s.memory.erase ⟨dataset, kind⟩).get? ⟨dataset, kind⟩ = none := Memory.get?_erase_self
  have hother : ∀ {j}, j ≠ kind →
      (s.memory.erase ⟨dataset, kind⟩).get? ⟨dataset, j⟩ = s.memory.get? ⟨dataset, j⟩ := fun hj =>
    Memory.get?_erase_of_ne (by simpa using hj)
  have hmade : made .promotion (s.log ++ [(.quarantine, ⟨.delete ⟨dataset, kind⟩, .ok ()⟩)]) =
      made .promotion s.log := made_append_of_ne (by simp) ..
  refine ⟨(List.suffix_cons kind kinds).trans h.suffix, hw, fun hfile => ?_, ?_, fun j hj a ha => ?_⟩
  · by_cases hk : Kind.file = kind
    · subst hk
      exact ⟨hgone, List.mem_append_right _ (List.mem_singleton.mpr rfl)⟩
    · obtain ⟨hnone, hm⟩ := h.file (hleft hfile hk)
      exact ⟨(hother hk).trans hnone, List.mem_append_left _ hm⟩
  · simp only [hmade]
    refine h.promotion.imp_right fun ⟨hquiet, hnone⟩ => ⟨hquiet, fun j hj => ?_⟩
    by_cases hk : j = kind
    · subst hk
      exact hgone
    · exact (hother hk).trans (hnone j (hleft hj hk))
  · by_cases hk : j = kind
    · subst hk
      rw [hgone] at ha
      cases ha
    · rw [hother hk] at ha
      exact (h.late j (hleft hj hk) a ha).append _

theorem Kept.quarantine_step (h : Kept dataset ps left s) {next : c.Reply → Work (Except Fault Unit)}
    (hq : s.quarantine = .ask c next) (hserves : ServesInMemory s.memory m c r) :
    ∃ left', Kept dataset ps left'
      { s with quarantine := next r, memory := m, log := s.log ++ [(.quarantine, ⟨c, r⟩)] } := by
  have hrest := h.quarantine
  have hmade : made .promotion (s.log ++ [(.quarantine, ⟨c, r⟩)]) = made .promotion s.log :=
    made_append_of_ne (by simp) ..
  rw [hq] at hrest
  cases left with
  | cons kind kinds =>
      cases c with
      | delete key =>
          obtain ⟨rfl, hnext⟩ := hrest
          obtain ⟨rfl, rfl⟩ := Prod.mk.inj hserves
          exact ⟨kinds, h.delete_step hnext⟩
      | _ => exact hrest.elim
  | nil =>
      -- Nothing is left to be deleted, and the store stays as it is.
      have hsame : m = s.memory ∧ Quarantining dataset [] (next r) := by
        cases c with
        | report => exact ⟨hserves, hrest⟩
        | count => exact ⟨hserves, hrest⟩
        | _ => exact hrest.elim
      obtain ⟨rfl, hnext⟩ := hsame
      refine ⟨[], h.suffix, hnext, fun hfile => ?_, ?_, fun kind hk a ha => ?_⟩
      · exact (h.file hfile).imp_right fun hm => List.mem_append_left _ hm
      · simp only [hmade]
        exact h.promotion
      · exact (h.late kind hk a ha).append _

/-- A call of the promotion keeps what the quarantine has done, if it stores no file and nothing but
what it has fetched. -/
theorem Kept.of_promotion (h : Kept dataset ps left s) {w : Work Remote.Outcome}
    (hfile : s.memory.get? ⟨dataset, .file⟩ = none → m.get? ⟨dataset, .file⟩ = none)
    (hp : (∃ hs, Pending dataset ps w hs ∧
        (∀ x ∈ hs, x ∈ made .promotion (s.log ++ [(.promotion, ⟨c, r⟩)])) ∧ c.isIndex = false) ∧
        (∀ x ∈ made .promotion s.log, x.call.isIndex = false) ∨
      (w.Always fun c => c.target? = none) ∧
        ∀ kind, kind ∉ left → m.get? ⟨dataset, kind⟩ = none)
    (hlate : ∀ kind, kind ∉ left → ∀ a, m.get? ⟨dataset, kind⟩ = some a →
      Late dataset ps (s.log ++ [(.promotion, ⟨c, r⟩)]) kind a) :
    Kept dataset ps left
      { s with promotion := w, memory := m, log := s.log ++ [(.promotion, ⟨c, r⟩)] } := by
  refine ⟨h.suffix, h.quarantine, fun hf => ?_, ?_, hlate⟩
  · obtain ⟨hnone, hm⟩ := h.file hf
    exact ⟨hfile hnone, List.mem_append_left _ hm⟩
  · refine hp.imp_left fun ⟨⟨hs, hpending, hsub, hindex⟩, hbefore⟩ => ⟨hs, hpending, hsub, ?_⟩
    intro x hx
    rw [made_append_self] at hx
    rcases List.mem_append.mp hx with hx | hx
    · exact hbefore x hx
    · rwa [List.mem_singleton.mp hx]

/-- The file is deleted first. -/
theorem file_not_mem (h : left <:+ Kind.all) (hk : kind ∉ left) : Kind.file ∉ left := by
  rcases List.suffix_cons_iff.mp h with rfl | h
  · exact absurd kind.mem_all hk
  · exact fun hm => absurd (h.mem hm) (by decide)

theorem Kept.of_pending_same (h : Kept dataset ps left s) {w : Work Remote.Outcome}
    {hs : List Exchange} (hw : Pending dataset ps w hs)
    (hsub : ∀ x ∈ hs, x ∈ made .promotion (s.log ++ [(.promotion, ⟨c, r⟩)]))
    (hbefore : ∀ x ∈ made .promotion s.log, x.call.isIndex = false) (hindex : c.isIndex = false) :
    Kept dataset ps left { s with promotion := w, log := s.log ++ [(.promotion, ⟨c, r⟩)] } :=
  h.of_promotion id (.inl ⟨⟨hs, hw, hsub, hindex⟩, hbefore⟩) fun kind hk a ha =>
    (h.late kind hk a ha).append _

theorem Kept.store_step (h : Kept dataset ps left s) {w : Work Remote.Outcome} {key : Key}
    {u : Artifact.Upload} {hs : List Exchange} (hkey : key ≠ ⟨dataset, .file⟩)
    (hu : Fetched ps hs key.kind u) (hw : Pending dataset ps w hs)
    (hsub : ∀ x ∈ hs, x ∈ made .promotion s.log)
    (hbefore : ∀ x ∈ made .promotion s.log, x.call.isIndex = false) :
    Kept dataset ps left { s with
      promotion := w, memory := s.memory.insert key u.toArtifact
      log := s.log ++ [(.promotion, ⟨.store key u, .ok ()⟩)] } := by
  refine h.of_promotion (fun hnone => ?_) (.inl ⟨⟨hs, hw, fun x hx => ?_, rfl⟩, hbefore⟩)
    fun kind hk a ha => ?_
  · rwa [Memory.get?_insert_of_ne hkey.symm]
  · rw [made_append_self]
    exact List.mem_append_left _ (hsub x hx)
  · by_cases hkind : ⟨dataset, kind⟩ = key
    · -- What is stored where the quarantine has been is stored after the file was deleted.
      subst hkind
      rw [Memory.get?_insert_self, Option.some.injEq] at ha
      obtain ⟨p, hp, f, hreplace, hfetch, rfl⟩ := hu
      exact ⟨s.log, _, [], rfl, (h.file (file_not_mem h.suffix hk)).2,
        ⟨p, hp, f, hreplace, hsub _ hfetch, rfl⟩, ha.symm⟩
    · rw [Memory.get?_insert_of_ne hkind] at ha
      exact (h.late kind hk a ha).append _

/-- What is late is approved already. -/
theorem Late.approved (h : Late dataset ps log kind a) :
    { a with metadata := { a.metadata with status := .stored } } = a := by
  obtain ⟨_, _, _, _, _, ⟨_, _, _, _, _, rfl⟩, rfl⟩ := h
  rfl

theorem Kept.approve_step (h : Kept dataset ps left s) {w : Work Remote.Outcome} {key : Key}
    {hs : List Exchange} (ha : s.memory.get? key = some a)
    (hw : if key = ⟨dataset, .file⟩ then w.Always fun c => c.target? = none
      else Pending dataset ps w hs)
    (hsub : ∀ x ∈ hs, x ∈ made .promotion s.log)
    (hbefore : ∀ x ∈ made .promotion s.log, x.call.isIndex = false) :
    Kept dataset ps left { s with
      promotion := w
      memory := s.memory.insert key { a with metadata := { a.metadata with status := .stored } }
      log := s.log ++ [(.promotion, ⟨.setStatus key .stored, .ok ()⟩)] } := by
  by_cases hkey : key = ⟨dataset, .file⟩
  · -- The file is there, so the quarantine has not deleted anything.
    subst hkey
    rw [if_pos rfl] at hw
    have hleft : ∀ kind, kind ∈ left := fun kind => Decidable.of_not_not fun hk => by
      rw [(h.file (file_not_mem h.suffix hk)).1] at ha
      cases ha
    refine h.of_promotion (fun hnone => ?_) (.inr ⟨hw, fun kind hk => absurd (hleft kind) hk⟩)
      fun kind hk => absurd (hleft kind) hk
    rw [hnone] at ha
    cases ha
  · rw [if_neg hkey] at hw
    refine h.of_promotion (fun hnone => ?_) (.inl ⟨⟨hs, hw, fun x hx => ?_, rfl⟩, hbefore⟩)
      fun kind hk b hb => ?_
    · rwa [Memory.get?_insert_of_ne (Ne.symm hkey)]
    · rw [made_append_self]
      exact List.mem_append_left _ (hsub x hx)
    · by_cases hkind : ⟨dataset, kind⟩ = key
      · subst hkind
        rw [Memory.get?_insert_self, Option.some.injEq] at hb
        have hlate := h.late kind hk a ha
        rw [hlate.approved] at hb
        exact hb ▸ hlate.append _
      · rw [Memory.get?_insert_of_ne hkind] at hb
        exact (h.late kind hk b hb).append _

/-- A promotion that has not approved the file makes its next call. -/
theorem Kept.pending_step (h : Kept dataset ps left s) {next : c.Reply → Work Remote.Outcome}
    {hs : List Exchange} (hpending : Pending dataset ps (.ask c next) hs)
    (hsub : ∀ x ∈ hs, x ∈ made .promotion s.log)
    (hbefore : ∀ x ∈ made .promotion s.log, x.call.isIndex = false)
    (hserves : ServesInMemory s.memory m c r) :
    Kept dataset ps left
      { s with promotion := next r, memory := m, log := s.log ++ [(.promotion, ⟨c, r⟩)] } := by
  have hsub' : ∀ x ∈ hs, x ∈ made .promotion (s.log ++ [(.promotion, ⟨c, r⟩)]) := fun x hx => by
    rw [made_append_self]
    exact List.mem_append_left _ (hsub x hx)
  cases c with
  | status key =>
      obtain ⟨rfl, rfl⟩ := hserves
      refine h.of_pending_same ?_ hsub' hbefore rfl
      simp only [Memory.status, Memory.retrieve]
      cases s.memory.get? key with
      | some a => exact hpending.1 _
      | none => exact hpending.2
  | fetch l =>
      obtain rfl := hserves
      refine h.of_pending_same (hpending r) (fun x hx => ?_) hbefore rfl
      rcases List.mem_cons.mp hx with rfl | hx
      · rw [made_append_self]
        exact List.mem_append_right _ (List.mem_singleton.mpr rfl)
      · exact hsub' x hx
  | report e =>
      obtain rfl := hserves
      exact h.of_pending_same hpending hsub' hbefore rfl
  | delete key =>
      obtain ⟨rfl, rfl⟩ := Prod.mk.inj hserves
      refine h.of_promotion (fun hnone => ?_) (.inl ⟨⟨hs, hpending, hsub', rfl⟩, hbefore⟩)
        fun kind hk a ha => (h.late kind hk a (get?_of_get?_erase ha)).append _
      refine Option.eq_none_iff_forall_ne_some.mpr fun a ha => ?_
      rw [get?_of_get?_erase ha] at hnone
      cases hnone
  | store key u =>
      obtain ⟨hkey, hu, hw⟩ := hpending
      have hsize : u.content.length = u.size := by
        obtain ⟨_, _, _, _, _, rfl⟩ := hu
        rfl
      simp only [ServesInMemory, Memory.store, Store.checkSize, hsize, if_true, Prod.mk.injEq]
        at hserves
      obtain ⟨rfl, rfl⟩ := hserves
      exact h.store_step hkey hu hw hsub hbefore
  | setStatus key status =>
      obtain ⟨rfl, hgone, hw⟩ := hpending
      cases hget : s.memory.get? key with
      | none =>
          rw [ServesInMemory, Memory.setStatus_of_none hget, Prod.mk.injEq] at hserves
          obtain ⟨rfl, rfl⟩ := hserves
          exact h.of_pending_same hgone hsub' hbefore rfl
      | some a =>
          rw [ServesInMemory, Memory.setStatus_of_get? hget, Prod.mk.injEq] at hserves
          obtain ⟨rfl, rfl⟩ := hserves
          exact h.approve_step hget hw hsub hbefore
  | _ => exact hpending.elim

theorem Kept.promotion_step (h : Kept dataset ps left s) {next : c.Reply → Work Remote.Outcome}
    (hp : s.promotion = .ask c next) (hserves : ServesInMemory s.memory m c r) :
    Kept dataset ps left
      { s with promotion := next r, memory := m, log := s.log ++ [(.promotion, ⟨c, r⟩)] } := by
  rcases h.promotion with ⟨hs, hpending, hsub, hbefore⟩ | ⟨hquiet, hnone⟩
  · rw [hp] at hpending
    exact h.pending_step hpending hsub hbefore hserves
  · rw [hp] at hquiet
    obtain rfl := hserves.eq_of_target? hquiet.1
    exact h.of_promotion id (.inr ⟨hquiet.2 r, hnone⟩) fun kind hk a ha =>
      (h.late kind hk a ha).append _

theorem Kept.start (site : Site) (dataset : String) (ps : List Product) (m : Memory) :
    Kept dataset ps Kind.all (Race.start site dataset ps m) where
  suffix := List.suffix_refl _
  quarantine := quarantining_quarantine dataset
  file := fun h => absurd (Kind.mem_all _) h
  promotion := .inl ⟨[], pending_promote, by simp, by simp [Race.start, made]⟩
  late := fun kind h => absurd kind.mem_all h

theorem Kept.ofRun (h : ReflTransGen Step (Race.start site dataset ps m) s) :
    ∃ left, Kept dataset ps left s := by
  induction h with
  | refl => exact ⟨_, .start site dataset ps m⟩
  | tail _ hstep ih =>
      obtain ⟨left, hkept⟩ := ih
      cases hstep with
      | promotion hp hserves => exact ⟨left, hkept.promotion_step hp hserves⟩
      | quarantine hq hserves => exact hkept.quarantine_step hq hserves

end

/-! ## When both have returned -/

/-- What a promotion that came to `o` and a quarantine that succeeded leave. -/
structure Leaves (dataset : String) (ps : List Product) (o : Remote.Outcome) (s : Race) : Prop where
  file : ¬ IsRetrievable s.memory dataset .file
  /-- Whatever can be downloaded was stored by the promotion after the file was deleted. -/
  late : ∀ kind, IsRetrievable s.memory dataset kind →
    ∃ a, s.memory.get? ⟨dataset, kind⟩ = some a ∧ Late dataset ps s.log kind a
  /-- If anything can be, the promotion has given up, and it has not asked the index service. -/
  givenUp : ∀ kind, IsRetrievable s.memory dataset kind →
    GivenUp (made .promotion s.log) o ∧ ∀ x ∈ made .promotion s.log, x.call.isIndex = false

section

variable {dataset : String} {ps : List Product} {site : Site} {left : List Kind} {kind : Kind}
  {s : Race} {m : Memory} {hs hs' : List Exchange} {o : Remote.Outcome} {r : Except Fault Unit}

theorem get?_of_isRetrievable (h : IsRetrievable m dataset kind) :
    ∃ a, m.get? ⟨dataset, kind⟩ = some a :=
  (isRetrievable_iff.mp h).imp fun _ => And.left

theorem GivenUp.mono (h : GivenUp hs o) (hsub : ∀ x ∈ hs, x ∈ hs') : GivenUp hs' o :=
  h.imp_right fun ⟨l, e, hm, ho⟩ => ⟨l, e, hsub _ hm, ho⟩

theorem Quarantining.of_done (h : Quarantining dataset left (.done r)) : left = [] ∧ r = .ok () := by
  cases left with
  | nil => exact ⟨rfl, h⟩
  | cons kind kinds => exact h.elim

end

/-- A quarantine that races with a promotion is final for the file of the dataset, and for the rest of
it unless the promotion has given up. -/
theorem leaves_of_race {site : Site} {dataset : String} {ps : List Product} {m : Memory} {s : Race}
    {o : Remote.Outcome} {r : Except Fault Unit}
    (h : ReflTransGen Step (Race.start site dataset ps m) s) (hp : s.promotion = .done o)
    (hq : s.quarantine = .done r) : r = .ok () ∧ Leaves dataset ps o s := by
  obtain ⟨left, hkept⟩ := Kept.ofRun h
  obtain ⟨rfl, rfl⟩ := Quarantining.of_done (hq ▸ hkept.quarantine)
  refine ⟨rfl, ⟨fun hfile => ?_, fun kind hk => ?_, fun kind hk => ?_⟩⟩
  · obtain ⟨a, ha⟩ := get?_of_isRetrievable hfile
    rw [(hkept.file List.not_mem_nil).1] at ha
    cases ha
  · obtain ⟨a, ha⟩ := get?_of_isRetrievable hk
    exact ⟨a, ha, hkept.late kind List.not_mem_nil a ha⟩
  · obtain ⟨a, ha⟩ := get?_of_isRetrievable hk
    rcases hkept.promotion with ⟨hs, hpending, hsub, hindex⟩ | ⟨_, hnone⟩
    · rw [hp] at hpending
      exact ⟨GivenUp.mono hpending hsub, hindex⟩
    · rw [hnone kind List.not_mem_nil] at ha
      cases ha

/-! ## How a product outlives the quarantine -/

/-- One of the two makes its next call, if it has one, in surroundings that do not fail. -/
def turn (s : Race) : Side → Race
  | .promotion =>
    match s.promotion with
    | .done _ => s
    | .ask c next =>
      let x := willing .inProgress c s.memory
      { s with promotion := next x.1, memory := x.2, log := s.log ++ [(.promotion, ⟨c, x.1⟩)] }
  | .quarantine =>
    match s.quarantine with
    | .done _ => s
    | .ask c next =>
      let x := willing .inProgress c s.memory
      { s with quarantine := next x.1, memory := x.2, log := s.log ++ [(.quarantine, ⟨c, x.1⟩)] }

theorem servesInMemory_willing (p : Remote.Progress) (c : Call) (m : Memory) :
    ServesInMemory m (willing p c m).2 c (willing p c m).1 := by
  cases c <;> first | rfl | exact ⟨rfl, rfl⟩

theorem reaches_turn (s : Race) (side : Side) : ReflTransGen Step s (s.turn side) := by
  cases side with
  | promotion =>
      unfold turn
      cases hp : s.promotion with
      | done o => exact .refl
      | ask c next => exact .single (.promotion hp (servesInMemory_willing _ c s.memory))
  | quarantine =>
      unfold turn
      cases hq : s.quarantine with
      | done r => exact .refl
      | ask c next => exact .single (.quarantine hq (servesInMemory_willing _ c s.memory))

theorem reaches_turns (s : Race) (sides : List Side) :
    ReflTransGen Step s (sides.foldl turn s) := by
  induction sides generalizing s with
  | nil => exact .refl
  | cons side sides ih => exact (reaches_turn s side).trans (ih _)

/-- The quarantine runs between a fetch and the storing of what was fetched. -/
def overtaken : Race :=
  [.promotion, .promotion, .quarantine, .quarantine, .quarantine, .quarantine, .quarantine,
    .promotion, .promotion, .promotion].foldl turn
    (start ⟨"http://s"⟩ "a" [⟨"irm", "/irm"⟩] stagedDataset)

/-- A quarantine that succeeds need not leave a dataset empty when a promotion is under way. -/
theorem retrievable_overtaken :
    ReflTransGen Step (start ⟨"http://s"⟩ "a" [⟨"irm", "/irm"⟩] stagedDataset) overtaken ∧
      overtaken.promotion = .done .notFound ∧ overtaken.quarantine = .done (.ok ()) ∧
      IsRetrievable overtaken.memory "a" .irm :=
  ⟨reaches_turns _ _, rfl, rfl, _, rfl⟩

theorem leaves_overtaken :
    overtaken.quarantine = .done (.ok ()) ∧
      Leaves "a" [⟨"irm", "/irm"⟩] .notFound overtaken :=
  ⟨rfl, (leaves_of_race (reaches_turns _ _) rfl rfl).2⟩

end Race
end Intake.Service
