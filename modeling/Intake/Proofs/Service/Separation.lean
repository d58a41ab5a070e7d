import Intake.Proofs.Service.Promotion

/-!
# Datasets keep apart

Whole operations on any number of datasets are done one after the other. They share the store and the
line of poll tasks, and the collaborators answer what is asked for a dataset by what was asked for it
before. What a dataset comes to is then what it would have come to alone.
-/

namespace Intake.Service

open Store (Memory)
open Artifact (Key Kind)
open Remote (Product)

/-! ## Operations -/

inductive Operation
  /-- The dataset is the name that is given. -/
  | ingest (site : Site) (dataset : String) (s : Submission)
  | promote (site : Site) (dataset : String) (ps : List Product)
  | quarantine (dataset : String)
  | download (dataset : String) (kind : Kind)
  /-- A poll of a task and what follows from it. -/
  | attempt (site : Site) (t : Poll.Task)
  /-- The first task in line, which belongs to the dataset, leaves it. -/
  | take (dataset : String)

inductive Result
  | ingest (r : Except Fault String)
  | promote (o : Remote.Outcome)
  | quarantine (r : Except Fault Unit)
  | download (r : Except Fault Download)
  | attempt (o : Poll.Outcome)
  | take (statusUrl : String)

/-- An operation other than one that takes a task from the line. -/
def Operation.isService : Operation → Bool
  | take _ => false
  | _ => true

def Operation.dataset : Operation → String
  | ingest _ dataset _ | promote _ dataset _ | quarantine dataset | download dataset _
  | take dataset => dataset
  | attempt _ t => t.dataset

/-- What the datasets share, while no operation is under way and nobody waits at the line. -/
structure World where
  store : Memory
  capacity : Nat
  /-- The poll tasks in line, each a dataset with its status URL. -/
  items : List (String × String)
  /-- The calls that were made for each dataset, and their answers. -/
  past : String → List Exchange

/-- How the next call for a dataset is answered, after the calls that were made for it. -/
abbrev Collaborators := String → List Exchange → (c : Call) → c.Reply

namespace World

def line (w : World) : Poll.Line Unit (String × String) := ⟨w.capacity, w.items, [], [], []⟩

/-- A call made for a dataset. A task is put into the line only when there is room. -/
def serve (w : World) (collaborators : Collaborators) (dataset : String) :
    (c : Call) → Option (c.Reply × World)
  | .store key u => some ((w.store.store key u).1, { w with store := (w.store.store key u).2 })
  | .retrieve key => some (w.store.retrieve key, w)
  | .delete key => some ((w.store.delete key).1, { w with store := (w.store.delete key).2 })
  | .setStatus key s =>
    some ((w.store.setStatus key s).1, { w with store := (w.store.setStatus key s).2 })
  | .status key => some (w.store.status key, w)
  | .enqueue owner statusUrl =>
    (w.line.offer (owner, statusUrl)).map fun l => (.ok (), { w with items := l.items })
  | .freshName => some (dataset, w)
  | .report _ => some ((), w)
  | .count _ => some ((), w)
  | c => some (collaborators dataset (w.past dataset) c, w)

def note (w : World) (dataset : String) (x : Exchange) : World :=
  { w with past := fun d => if d = dataset then w.past d ++ [x] else w.past d }

/-- As `serve`, and the call is noted. -/
def handle (collaborators : Collaborators) (dataset : String) (c : Call) (w : World) :
    Option (c.Reply × World) :=
  (w.serve collaborators dataset c).map fun a => (a.1, a.2.note dataset ⟨c, a.1⟩)

/-- Does a piece of work for a dataset to its end. -/
def finish (collaborators : Collaborators) (dataset : String) (work : Work Result) (w : World) :
    Option (Result × World) :=
  match work.runWhile (handle collaborators dataset) w with
  | (.done r, w) => some (r, w)
  | (.ask .., _) => none

def take? (w : World) (dataset : String) : Option (Result × World) :=
  match w.line.take? with
  | some t =>
    if t.item.1 = dataset then some (.take t.item.2, { w with items := t.line.items }) else none
  | none => none

/-- What an operation does to the world, if it can be done now. -/
def perform (collaborators : Collaborators) (w : World) : Operation → Option (Result × World)
  | .ingest site dataset s =>
    w.finish collaborators dataset do return .ingest (← Service.ingest site s)
  | .promote site dataset ps =>
    w.finish collaborators dataset do return .promote (← Service.promote site dataset ps)
  | .quarantine dataset =>
    w.finish collaborators dataset do return .quarantine (← Service.quarantine dataset)
  | .download dataset kind =>
    w.finish collaborators dataset do return .download (← Service.download dataset kind)
  | .attempt site t =>
    w.finish collaborators t.dataset do
      return .attempt (← Poll.attempt ⟨Service.promote site, Service.reject⟩ t)
  | .take dataset => w.take? dataset

/-- Operations one after the other, with their results. -/
def performAll (collaborators : Collaborators) :
    List Operation → World → Option (List (String × Result) × World)
  | [], w => some ([], w)
  | op :: ops, w => do
    let (r, w) ← w.perform collaborators op
    let (rs, w) ← performAll collaborators ops w
    return ((op.dataset, r) :: rs, w)

/-- The world in which only the tasks of one dataset are in line. -/
def only (w : World) (dataset : String) : World :=
  { w with items := w.items.filter (·.1 = dataset) }

end World

/-! ## What an operation asks for -/

/-- A call on behalf of one dataset. -/
def Call.Concerns (dataset : String) : Call → Prop
  | .store key _ | .retrieve key | .delete key | .setStatus key _ | .status key =>
    key.dataset = dataset
  | .enqueue owner _ => owner = dataset
  | _ => True

/-- Work on behalf of one dataset, if the name that it is given is that of the dataset. -/
def KeepsTo {α : Type} (dataset : String) : Work α → Prop
  | .done _ => True
  | .ask c next => c.Concerns dataset ∧
      ∀ r, (∀ d, Exchange.name? ⟨c, r⟩ = some d → d = dataset) → KeepsTo dataset (next r)

section

variable {α β : Type} {dataset : String} {c : Call}

theorem keepsTo_of_always {work : Work α} (h : work.Always (Call.Concerns dataset)) :
    KeepsTo dataset work := by
  induction work with
  | done a => trivial
  | ask c next ih => exact ⟨h.1, fun r _ => ih r (h.2 r)⟩

theorem KeepsTo.bind {work : Work α} {f : α → Work β} (h : KeepsTo dataset work)
    (hf : ∀ a, KeepsTo dataset (f a)) : KeepsTo dataset (work >>= f) := by
  induction work with
  | done a => exact hf a
  | ask c next ih => exact ⟨h.1, fun r hr => ih r (h.2 r hr)⟩

theorem Call.Tending.concerns (h : c.Tending dataset) : c.Concerns dataset := by
  cases h with
  | reconciles h =>
      cases h with
      | removes h => cases h <;> trivial
      | adopts h => cases h <;> trivial
      | inquires h => cases h <;> trivial
      | _ => trivial
  | _ => trivial

theorem concerns_stage (site : Site) (s : Submission) :
    (stage site dataset s).Always (Call.Concerns dataset) := by
  refine always_call rfl fun r => ?_
  cases r with
  | error e => trivial
  | ok =>
      refine always_call rfl fun r => ?_
      cases r with
      | error e => trivial
      | ok =>
          refine always_call trivial fun r => ?_
          cases r with
          | error e => trivial
          | ok statusUrl =>
              refine always_call rfl fun r => ?_
              cases r with
              | error e => trivial
              | ok => exact ⟨trivial, fun _ => trivial⟩

theorem KeepsTo.map {work : Work α} (h : KeepsTo dataset work) (f : α → β) :
    KeepsTo dataset (do return f (← work) : Work β) :=
  h.bind fun _ => trivial

theorem keepsTo_ingest (site : Site) (s : Submission) :
    KeepsTo dataset (ingest site s) := by
  refine ⟨trivial, fun d hd => ?_⟩
  obtain rfl := hd d rfl
  refine keepsTo_of_always ((concerns_stage site s).bind fun r => ?_)
  cases r with
  | ok => exact ⟨trivial, fun _ => trivial⟩
  | error e => exact ⟨trivial, fun _ => ⟨trivial, fun _ => trivial⟩⟩

/-- An operation works on behalf of its dataset, or it takes a task from the line. -/
theorem World.perform_cases (collaborators : Collaborators) (op : Operation) :
    (∃ work : Work Result, KeepsTo op.dataset work ∧
      ∀ w : World, w.perform collaborators op = w.finish collaborators op.dataset work) ∨
    op.isService = false ∧ ∀ w : World, w.perform collaborators op = w.take? op.dataset := by
  have htending : ∀ {α : Type} {work : Work α}, work.Always (Call.Tending op.dataset) →
      KeepsTo op.dataset work := fun h => keepsTo_of_always (h.mono fun _ => Call.Tending.concerns)
  cases op with
  | ingest site dataset s => exact Or.inl ⟨_, (keepsTo_ingest site s).map .ingest, fun _ => rfl⟩
  | promote site dataset ps =>
      exact Or.inl ⟨_, (htending ((reconciles_promote ps).mono fun _ => .reconciles)).map .promote, fun _ => rfl⟩
  | quarantine dataset =>
      exact Or.inl ⟨_, (htending (removes_quarantine.mono fun _ h => .reconciles (.removes h))).map .quarantine,
        fun _ => rfl⟩
  | download dataset kind =>
      exact Or.inl ⟨_, (htending (always_download (.retrieve kind))).map .download, fun _ => rfl⟩
  | attempt site t => exact Or.inl ⟨_, (htending (tending_attempt t)).map .attempt, fun _ => rfl⟩
  | take dataset => exact Or.inr ⟨rfl, fun _ => rfl⟩

end

/-! ## The tasks that are put into the line -/

def Call.tasks : Call → List (String × String)
  | .enqueue owner statusUrl => [(owner, statusUrl)]
  | _ => []

def World.HasRoom (w : World) (ts : List (String × String)) : Prop :=
  ts = [] ∨ w.items.length + ts.length ≤ w.capacity

/-- The tasks `ts` have been put into the line, one after the other. -/
structure Puts (w w' : World) (ts : List (String × String)) : Prop where
  room : w.HasRoom ts
  items : w'.items = w.items ++ ts
  capacity : w'.capacity = w.capacity

section

variable {w w' w'' : World} {ts ts' : List (String × String)}

theorem World.HasRoom.left (h : w.HasRoom (ts ++ ts')) : w.HasRoom ts := by
  rcases h with h | h
  · exact Or.inl (List.append_eq_nil_iff.mp h).1
  · rw [List.length_append] at h
    exact Or.inr (by omega)

theorem Puts.hasRoom_right (h : Puts w w' ts) (hroom : w.HasRoom (ts ++ ts')) : w'.HasRoom ts' := by
  rcases hroom with hroom | hroom
  · exact Or.inl (List.append_eq_nil_iff.mp hroom).2
  · rw [List.length_append] at hroom
    refine Or.inr ?_
    rw [h.items, h.capacity, List.length_append]
    omega

theorem Puts.none (hitems : w'.items = w.items) (hcapacity : w'.capacity = w.capacity) :
    Puts w w' [] :=
  ⟨Or.inl rfl, by simp [hitems], hcapacity⟩

theorem Puts.append (h : Puts w w' ts) (h' : Puts w' w'' ts') : Puts w w'' (ts ++ ts') := by
  refine ⟨?_, by rw [h'.items, h.items, List.append_assoc], h'.capacity.trans h.capacity⟩
  rcases h'.room with rfl | hroom
  · rw [List.append_nil]
    exact h.room
  · rw [h.items, h.capacity, List.length_append] at hroom
    exact Or.inr (by rw [List.length_append]; omega)

theorem Puts.note (h : Puts w w' ts) (dataset : String) (x : Exchange) :
    Puts w (w'.note dataset x) ts :=
  ⟨h.room, h.items, h.capacity⟩

theorem offer_line (w : World) (t : String × String) :
    w.line.offer t =
      if w.items.length < w.capacity then some { w.line with items := w.items ++ [t] } else none :=
  rfl

end

/-! ## Worlds that are alike for a dataset -/

/-- The two worlds have the same artifacts and the same past of a dataset. -/
structure Alike (dataset : String) (w v : World) : Prop where
  artifacts : SameFor dataset w.store v.store
  past : v.past dataset = w.past dataset

section

variable {dataset other : String} {m m' : Memory} {key : Key}

theorem SameFor.insert (h : SameFor dataset m m') (key : Key) (a : Artifact) :
    SameFor dataset (m.insert key a) (m'.insert key a) := by
  intro kind
  by_cases hk : (⟨dataset, kind⟩ : Key) = key
  · rw [hk, Memory.get?_insert_self, Memory.get?_insert_self]
  · rw [Memory.get?_insert_of_ne hk, Memory.get?_insert_of_ne hk, h]

theorem SameFor.erase (h : SameFor dataset m m') (key : Key) :
    SameFor dataset (m.erase key) (m'.erase key) := by
  intro kind
  by_cases hk : (⟨dataset, kind⟩ : Key) = key
  · rw [hk, Memory.get?_erase_self, Memory.get?_erase_self]
  · rw [Memory.get?_erase_of_ne hk, Memory.get?_erase_of_ne hk, h]

theorem SameFor.get?_eq (h : SameFor dataset m m') (hkey : key.dataset = dataset) :
    m'.get? key = m.get? key := by
  subst hkey
  exact h key.kind

theorem SameFor.store (h : SameFor dataset m m') (key : Key) (u : Artifact.Upload) :
    (m'.store key u).1 = (m.store key u).1 ∧
      SameFor dataset (m.store key u).2 (m'.store key u).2 := by
  unfold Memory.store
  cases Store.checkSize u with
  | error e => exact ⟨rfl, h⟩
  | ok => exact ⟨rfl, h.insert key _⟩

theorem SameFor.setStatus (h : SameFor dataset m m') (hkey : key.dataset = dataset)
    (s : Artifact.Status) :
    (m'.setStatus key s).1 = (m.setStatus key s).1 ∧
      SameFor dataset (m.setStatus key s).2 (m'.setStatus key s).2 := by
  unfold Memory.setStatus
  rw [h.get?_eq hkey]
  cases m.get? key with
  | none => exact ⟨rfl, h⟩
  | some a => exact ⟨rfl, h.insert key _⟩

variable {collaborators : Collaborators} {w w' v : World} {c : Call} {r : c.Reply}

/-- A call puts its task into the line, if it has one. -/
theorem Puts.of_serve (h : w.serve collaborators dataset c = some (r, w')) : Puts w w' c.tasks := by
  cases c with
  | enqueue owner statusUrl =>
      rw [World.serve, offer_line] at h
      split at h
      · cases h
        exact ⟨Or.inr ‹_›, rfl, rfl⟩
      · cases h
  | _ =>
      cases h
      exact .none rfl rfl

/-- A call on behalf of a dataset is answered the same in worlds that are alike for it. -/
theorem Alike.serve (h : Alike dataset w v) (hc : c.Concerns dataset) (hroom : v.HasRoom c.tasks)
    (hserve : w.serve collaborators dataset c = some (r, w')) :
    ∃ v', v.serve collaborators dataset c = some (r, v') ∧ Alike dataset w' v' := by
  cases c with
  | store key u =>
      cases hserve
      obtain ⟨hr, hsame⟩ := h.artifacts.store key u
      exact ⟨{ v with store := (v.store.store key u).2 }, by rw [World.serve, hr],
        { h with artifacts := hsame }⟩
  | retrieve key =>
      cases hserve
      refine ⟨v, ?_, h⟩
      simp only [World.serve, Memory.retrieve, h.artifacts.get?_eq hc]
  | delete key =>
      cases hserve
      exact ⟨_, rfl, { h with artifacts := h.artifacts.erase key }⟩
  | setStatus key s =>
      cases hserve
      obtain ⟨hr, hsame⟩ := h.artifacts.setStatus hc s
      exact ⟨{ v with store := (v.store.setStatus key s).2 }, by rw [World.serve, hr],
        { h with artifacts := hsame }⟩
  | status key =>
      cases hserve
      refine ⟨v, ?_, h⟩
      simp only [World.serve, Memory.status, Memory.retrieve, h.artifacts.get?_eq hc]
  | enqueue owner statusUrl =>
      have hroom' : v.items.length < v.capacity := by
        rcases hroom with hroom | hroom
        · cases hroom
        · exact hroom
      rw [World.serve, offer_line] at hserve
      split at hserve
      · cases hserve
        refine ⟨{ v with items := v.items ++ [(owner, statusUrl)] }, ?_, { h with }⟩
        rw [World.serve, offer_line, if_pos hroom']
        rfl
      · cases hserve
  | freshName =>
      cases hserve
      exact ⟨v, rfl, h⟩
  | report e =>
      cases hserve
      exact ⟨v, rfl, h⟩
  | count n =>
      cases hserve
      exact ⟨v, rfl, h⟩
  | _ =>
      cases hserve
      refine ⟨v, ?_, h⟩
      simp only [World.serve, h.past]

theorem Alike.note (h : Alike dataset w v) (x : Exchange) :
    Alike dataset (w.note dataset x) (v.note dataset x) where
  artifacts := h.artifacts
  past := by simp only [World.note, if_true, h.past]

theorem Alike.trans {u : World} (h : Alike dataset w v) (h' : Alike dataset v u) :
    Alike dataset w u :=
  ⟨h.artifacts.trans h'.artifacts, h'.past.trans h.past⟩

theorem Alike.symm (h : Alike dataset w v) : Alike dataset v w :=
  ⟨fun kind => (h.artifacts kind).symm, h.past.symm⟩

theorem serves_of_serve (h : w.serve collaborators dataset c = some (r, w')) :
    Serves w.store w'.store c r := by
  cases c with
  | store key u =>
      cases h
      exact Or.inl rfl
  | delete key =>
      cases h
      exact Or.inl rfl
  | setStatus key s =>
      cases h
      exact Or.inl rfl
  | retrieve key =>
      cases h
      exact Or.inl ⟨rfl, rfl⟩
  | status key =>
      cases h
      exact Or.inl ⟨rfl, rfl⟩
  | enqueue owner statusUrl =>
      rw [World.serve, offer_line] at h
      split at h <;> cases h
      rfl
  | _ =>
      cases h
      rfl

/-- What is asked on behalf of one dataset is nothing to another. -/
theorem alike_of_serve (h : w.serve collaborators dataset c = some (r, w')) (x : Exchange)
    (hc : c.Concerns dataset) (hne : other ≠ dataset) :
    Alike other w (w'.note dataset x) := by
  refine ⟨fun kind => (serves_of_serve h).get?_of_ne fun htarget => hne ?_, ?_⟩
  · cases c <;> cases htarget <;> exact hc
  · have hpast : w'.past = w.past := by
      cases c with
      | enqueue owner statusUrl =>
          rw [World.serve, offer_line] at h
          split at h <;> cases h
          rfl
      | _ =>
          cases h
          rfl
    simp only [World.note, if_neg hne, hpast]

theorem name_of_serve (h : w.serve collaborators dataset c = some (r, w')) :
    ∀ d, Exchange.name? ⟨c, r⟩ = some d → d = dataset := by
  cases c with
  | freshName =>
      cases h
      rintro d ⟨⟩
      rfl
  | _ => nofun

end

/-! ## Work to its end -/

section

variable {dataset : String} {collaborators : Collaborators} {work : Work Result} {w w' : World}
  {r : Result}

theorem finish_ask {c : Call} {next : c.Reply → Work Result} {a : c.Reply} {w₁ : World}
    (h : w.serve collaborators dataset c = some (a, w₁)) :
    w.finish collaborators dataset (.ask c next) =
      (w₁.note dataset ⟨c, a⟩).finish collaborators dataset (next a) := by
  simp only [World.finish, Script.runWhile, World.handle, h, Option.map_some]

theorem serve_of_finish {c : Call} {next : c.Reply → Work Result}
    (h : w.finish collaborators dataset (.ask c next) = some (r, w')) :
    ∃ a w₁, w.serve collaborators dataset c = some (a, w₁) := by
  cases hserve : w.serve collaborators dataset c with
  | none =>
      simp only [World.finish, Script.runWhile, World.handle, hserve, Option.map_none] at h
      cases h
  | some p => exact ⟨p.1, p.2, rfl⟩

/-- Work that is done leaves all other datasets alone, and is done the same in every world that is
alike and has room for its tasks. -/
theorem finish_spec (hwork : KeepsTo dataset work)
    (h : w.finish collaborators dataset work = some (r, w')) :
    ∃ ts, Puts w w' ts ∧ (∀ t ∈ ts, t.1 = dataset) ∧ (∀ other, other ≠ dataset → Alike other w w') ∧
      ∀ v, Alike dataset w v → v.HasRoom ts →
        ∃ v', v.finish collaborators dataset work = some (r, v') ∧ Alike dataset w' v' ∧
          Puts v v' ts := by
  induction work generalizing w with
  | done a =>
      cases h
      exact ⟨[], .none rfl rfl, by simp, fun _ _ => ⟨.refl _ _, rfl⟩,
        fun v hv _ => ⟨v, rfl, hv, .none rfl rfl⟩⟩
  | ask c next ih =>
      obtain ⟨a, w₁, hserve⟩ := serve_of_finish h
      rw [finish_ask hserve] at h
      obtain ⟨ts, hputs, hts, hothers, hsame⟩ := ih a (hwork.2 a (name_of_serve hserve)) h
      have hputs₁ := Puts.of_serve hserve
      refine ⟨c.tasks ++ ts, (hputs₁.note dataset ⟨c, a⟩).append hputs, ?_, fun other hne => ?_,
        fun v hv hroom => ?_⟩
      · refine List.forall_mem_append.mpr ⟨?_, hts⟩
        have hc := hwork.1
        cases c <;> simp [Call.tasks]
        exact hc
      · exact (alike_of_serve hserve _ hwork.1 hne).trans (hothers other hne)
      · obtain ⟨v₁, hserve', hv₁⟩ := hv.serve hwork.1 hroom.left hserve
        have hputs' := (Puts.of_serve hserve').note dataset ⟨c, a⟩
        obtain ⟨v', hfinish, hv', hputs''⟩ := hsame _ (hv₁.note ⟨c, a⟩) (hputs'.hasRoom_right hroom)
        refine ⟨v', ?_, hv', hputs'.append hputs''⟩
        rw [finish_ask hserve']
        exact hfinish

end

/-! ## Operations one after the other -/

/-- `v` is what a dataset sees of `w`: only its own tasks are in line. -/
structure Sees (dataset : String) (w v : World) : Prop where
  alike : Alike dataset w v
  capacity : v.capacity = w.capacity
  items : v.items = w.items.filter (·.1 = dataset)

section

variable {dataset : String} {collaborators : Collaborators} {op : Operation} {w w' v : World}
  {r : Result}

theorem filter_tasks {ts : List (String × String)} (h : ∀ t ∈ ts, t.1 = dataset) :
    ts.filter (·.1 = dataset) = ts :=
  List.filter_eq_self.mpr fun t ht => decide_eq_true (h t ht)

theorem filter_tasks_of_ne {owner : String} {ts : List (String × String)}
    (h : ∀ t ∈ ts, t.1 = owner) (hne : dataset ≠ owner) : ts.filter (·.1 = dataset) = [] := by
  refine List.filter_eq_nil_iff.mpr fun t ht => ?_
  rw [h t ht, decide_eq_true_eq]
  exact Ne.symm hne

theorem take?_eq_some : w.take? dataset = some (r, w') ↔
    ∃ statusUrl rest, w.items = (dataset, statusUrl) :: rest ∧ r = .take statusUrl ∧
      w' = { w with items := rest } := by
  unfold World.take? World.line Poll.Line.take?
  cases w.items with
  | nil => simp
  | cons t rest =>
      obtain ⟨owner, statusUrl⟩ := t
      by_cases howner : owner = dataset
      · subst howner
        constructor
        · intro h
          simp only [if_true, Option.some.injEq, Prod.mk.injEq] at h
          exact ⟨statusUrl, rest, rfl, h.1.symm, h.2.symm⟩
        · rintro ⟨_, _, ⟨⟩, rfl, rfl⟩
          simp
      · simp [howner]

/-- An operation of a dataset has the same result in the world that the dataset sees. -/
theorem Sees.own (h : Sees op.dataset w v) (hop : w.perform collaborators op = some (r, w')) :
    ∃ v', v.perform collaborators op = some (r, v') ∧ Sees op.dataset w' v' := by
  rcases World.perform_cases collaborators op with ⟨work, hwork, heq⟩ | ⟨-, heq⟩
  · rw [heq] at hop ⊢
    obtain ⟨ts, hputs, hts, _, hsame⟩ := finish_spec hwork hop
    have hroom : v.HasRoom ts := by
      rcases hputs.room with hroom | hroom
      · exact Or.inl hroom
      · have hle := List.length_filter_le (fun t => decide (t.1 = op.dataset)) w.items
        refine Or.inr ?_
        rw [h.items, h.capacity]
        omega
    obtain ⟨v', hfinish, halike, hputs'⟩ := hsame v h.alike hroom
    refine ⟨v', hfinish, halike, ?_, ?_⟩
    · rw [hputs'.capacity, h.capacity, hputs.capacity]
    · rw [hputs'.items, h.items, hputs.items, List.filter_append, filter_tasks hts]
  · rw [heq] at hop ⊢
    obtain ⟨statusUrl, rest, hitems, rfl, rfl⟩ := take?_eq_some.mp hop
    have hitems' : v.items = (op.dataset, statusUrl) :: rest.filter (·.1 = op.dataset) := by
      rw [h.items, hitems, List.filter_cons_of_pos (by simp)]
    exact ⟨_, take?_eq_some.mpr ⟨_, _, hitems', rfl, rfl⟩, { h.alike with }, h.capacity, rfl⟩

/-- An operation of another dataset changes nothing that a dataset sees. -/
theorem Sees.other (h : Sees dataset w v) (hop : w.perform collaborators op = some (r, w'))
    (hne : dataset ≠ op.dataset) : Sees dataset w' v := by
  rcases World.perform_cases collaborators op with ⟨work, hwork, heq⟩ | ⟨-, heq⟩
  · rw [heq] at hop
    obtain ⟨ts, hputs, hts, hothers, _⟩ := finish_spec hwork hop
    have halike := hothers dataset hne
    refine ⟨⟨fun kind => ?_, ?_⟩, ?_, ?_⟩
    · rw [h.alike.artifacts, halike.artifacts]
    · rw [h.alike.past, halike.past]
    · rw [h.capacity, hputs.capacity]
    · rw [h.items, hputs.items, List.filter_append, filter_tasks_of_ne hts hne, List.append_nil]
  · rw [heq] at hop
    obtain ⟨statusUrl, rest, hitems, rfl, rfl⟩ := take?_eq_some.mp hop
    refine ⟨{ h.alike with }, h.capacity, ?_⟩
    rw [h.items, hitems, List.filter_cons_of_neg (by simpa using Ne.symm hne)]

variable {ops : List Operation} {rs : List (String × Result)}

theorem performAll_cons : World.performAll collaborators (op :: ops) w = some (rs, w') ↔
    ∃ r w₁ rs', w.perform collaborators op = some (r, w₁) ∧
      World.performAll collaborators ops w₁ = some (rs', w') ∧ rs = (op.dataset, r) :: rs' := by
  simp only [World.performAll, Option.bind_eq_bind, Option.bind_eq_some_iff, Prod.exists,
    Option.pure_def, Option.some.injEq, Prod.mk.injEq]
  constructor
  · rintro ⟨r, w₁, hop, rs', w₂, hrest, rfl, rfl⟩
    exact ⟨r, w₁, rs', hop, hrest, rfl⟩
  · rintro ⟨r, w₁, rs', hop, hrest, rfl⟩
    exact ⟨r, w₁, hop, rs', w', hrest, rfl, rfl⟩

/-- The operations of a dataset have the same results when those of all others are left out. -/
theorem Sees.performAll (h : Sees dataset w v)
    (hops : World.performAll collaborators ops w = some (rs, w')) :
    ∃ v', World.performAll collaborators (ops.filter (·.dataset = dataset)) v =
        some (rs.filter (·.1 = dataset), v') ∧ Sees dataset w' v' := by
  induction ops generalizing w v rs with
  | nil =>
      cases hops
      exact ⟨v, rfl, h⟩
  | cons op ops ih =>
      obtain ⟨r, w₁, rs', hop, hrest, rfl⟩ := performAll_cons.mp hops
      by_cases hop' : op.dataset = dataset
      · subst hop'
        obtain ⟨v₁, hop', hv₁⟩ := h.own hop
        obtain ⟨v', hrest', hv'⟩ := ih hv₁ hrest
        refine ⟨v', ?_, hv'⟩
        rw [List.filter_cons_of_pos (by simp), List.filter_cons_of_pos (by simp)]
        exact performAll_cons.mpr ⟨r, v₁, _, hop', hrest', rfl⟩
      · obtain ⟨v', hrest', hv'⟩ := ih (h.other hop (Ne.symm hop')) hrest
        refine ⟨v', ?_, hv'⟩
        rw [List.filter_cons_of_neg (by simpa using hop'), List.filter_cons_of_neg (by simpa using hop')]
        exact hrest'

end

/-! ## Operations in another order -/

section

variable {collaborators : Collaborators} {a b : Operation} {w w₁ w₂ : World} {ra rb : Result}

theorem World.work_of_isService (collaborators : Collaborators) {op : Operation}
    (h : op.isService) : ∃ work : Work Result, KeepsTo op.dataset work ∧
      ∀ w : World, w.perform collaborators op = w.finish collaborators op.dataset work := by
  rcases World.perform_cases collaborators op with hwork | ⟨htake, _⟩
  · exact hwork
  · rw [htake] at h
    cases h

/-- Two operations on different datasets that are done can be done the other way round, and everything
is the same but for the order of the tasks in line. -/
theorem perform_comm (hne : a.dataset ≠ b.dataset) (ha : a.isService) (hb : b.isService)
    (h₁ : w.perform collaborators a = some (ra, w₁))
    (h₂ : w₁.perform collaborators b = some (rb, w₂)) :
    ∃ v₁ v₂, w.perform collaborators b = some (rb, v₁) ∧ v₁.perform collaborators a = some (ra, v₂) ∧
      ∀ dataset, Alike dataset w₂ v₂ := by
  obtain ⟨worka, hworka, heqa⟩ := World.work_of_isService collaborators ha
  obtain ⟨workb, hworkb, heqb⟩ := World.work_of_isService collaborators hb
  rw [heqa] at h₁
  rw [heqb] at h₂
  obtain ⟨ta, hputsa, _, hothersa, hsamea⟩ := finish_spec hworka h₁
  obtain ⟨tb, hputsb, _, hothersb, hsameb⟩ := finish_spec hworkb h₂
  have hroom := hputsb.room
  rw [World.HasRoom, hputsa.items, hputsa.capacity, List.length_append] at hroom
  -- The tasks of both have room in line together, so those of each have room before the others.
  obtain ⟨v₁, hfinishb, halikeb, hputsb'⟩ := hsameb w (hothersa b.dataset (Ne.symm hne)).symm
    (hroom.imp_right fun h => by omega)
  obtain ⟨_, _, _, hothersb', _⟩ := finish_spec hworkb hfinishb
  have hrooma : v₁.HasRoom ta := by
    rw [World.HasRoom, hputsb'.items, hputsb'.capacity, List.length_append]
    rcases hroom with rfl | hroom
    · simpa [World.HasRoom] using hputsa.room
    · exact Or.inr (by omega)
  obtain ⟨v₂, hfinisha, halikea, _⟩ := hsamea v₁ (hothersb' a.dataset hne) hrooma
  obtain ⟨_, _, _, hothersa', _⟩ := finish_spec hworka hfinisha
  refine ⟨v₁, v₂, by rw [heqb]; exact hfinishb, by rw [heqa]; exact hfinisha, fun dataset => ?_⟩
  by_cases hda : dataset = a.dataset
  · subst hda
    exact (hothersb _ hne).symm.trans halikea
  · by_cases hdb : dataset = b.dataset
    · subst hdb
      exact halikeb.trans (hothersa' _ hda)
    · exact ((hothersb _ hdb).symm.trans (hothersa _ hda).symm).trans
        ((hothersb' _ hdb).trans (hothersa' _ hda))

end

/-- Of any operations that are done one after the other, those of one dataset have the same results,
store the same artifacts and make the same calls when those of all others are left out; and two
operations on different datasets come to the same in either order. -/
theorem datasets_separate (collaborators : Collaborators) :
    (∀ (ops : List Operation) (w w' : World) (rs : List (String × Result)),
      World.performAll collaborators ops w = some (rs, w') → ∀ dataset,
      ∃ v, World.performAll collaborators (ops.filter (·.dataset = dataset)) (w.only dataset) =
          some (rs.filter (·.1 = dataset), v) ∧
        (∀ kind, v.store.get? ⟨dataset, kind⟩ = w'.store.get? ⟨dataset, kind⟩) ∧
        v.past dataset = w'.past dataset) ∧
    ∀ (a b : Operation) (w w' : World) (ra rb : Result), a.dataset ≠ b.dataset →
      a.isService → b.isService →
      World.performAll collaborators [a, b] w = some ([(a.dataset, ra), (b.dataset, rb)], w') →
      ∃ v, World.performAll collaborators [b, a] w =
          some ([(b.dataset, rb), (a.dataset, ra)], v) ∧
        (∀ key, v.store.get? key = w'.store.get? key) ∧ v.past = w'.past := by
  refine ⟨fun ops w w' rs hops dataset => ?_, fun a b w w' ra rb hne ha hb hops => ?_⟩
  · have hsees : Sees dataset w (w.only dataset) := ⟨⟨fun _ => rfl, rfl⟩, rfl, rfl⟩
    obtain ⟨v, hrun, hv⟩ := hsees.performAll hops
    exact ⟨v, hrun, hv.alike.artifacts, hv.alike.past⟩
  · obtain ⟨ra', w₁, rs, hopa, hops, heq⟩ := performAll_cons.mp hops
    cases heq
    obtain ⟨rb', w₂, rs, hopb, hops, heq⟩ := performAll_cons.mp hops
    cases heq
    cases hops
    obtain ⟨v₁, v₂, hopb', hopa', halike⟩ := perform_comm hne ha hb hopa hopb
    refine ⟨v₂, ?_, fun key => ?_, funext fun dataset => (halike dataset).past⟩
    · exact performAll_cons.mpr ⟨rb, v₁, _, hopb', performAll_cons.mpr ⟨ra, v₂, [], hopa', rfl, rfl⟩, rfl⟩
    · exact (halike key.dataset).artifacts key.kind

/-- Two datasets are taken in through a line with room for one task; one of them is promoted, and the
other is removed. -/
theorem datasets_separate_twoDatasets :
    ∃ (collaborators : Collaborators) (w w' v u u' : World) (rs : List (String × Result))
      (ra rb : Result),
      World.performAll collaborators
        [.ingest ⟨"http://s"⟩ "a" ⟨1, "image/tiff", [1], none, 1, [2]⟩, .take "a",
          .ingest ⟨"http://s"⟩ "b" ⟨1, "image/tiff", [3], none, 1, [4]⟩,
          .attempt ⟨"http://s"⟩ (.new "a" "/jobs/1" 0), .quarantine "b", .download "a" .file] w =
          some (rs, w') ∧
      World.performAll collaborators
        [.ingest ⟨"http://s"⟩ "a" ⟨1, "image/tiff", [1], none, 1, [2]⟩, .take "a",
          .attempt ⟨"http://s"⟩ (.new "a" "/jobs/1" 0), .download "a" .file] (w.only "a") =
          some (rs.filter (·.1 = "a"), v) ∧
      (∀ kind, v.store.get? ⟨"a", kind⟩ = w'.store.get? ⟨"a", kind⟩) ∧
      v.past "a" = w'.past "a" ∧
      World.performAll collaborators [.quarantine "a", .download "b" .file] w =
        some ([("a", ra), ("b", rb)], u) ∧
      World.performAll collaborators [.download "b" .file, .quarantine "a"] w =
        some ([("b", rb), ("a", ra)], u') ∧
      (∀ key, u'.store.get? key = u.store.get? key) ∧ u'.past = u.past := by
  let collaborators : Collaborators := fun dataset _ c =>
    (willing (.done [⟨"irm", "/" ++ dataset⟩]) c .empty).1
  let w : World := ⟨.empty, 1, [], fun _ => []⟩
  obtain ⟨⟨rs, w'⟩, hops⟩ := Option.isSome_iff_exists.mp (show (World.performAll collaborators
    [.ingest ⟨"http://s"⟩ "a" ⟨1, "image/tiff", [1], none, 1, [2]⟩, .take "a",
      .ingest ⟨"http://s"⟩ "b" ⟨1, "image/tiff", [3], none, 1, [4]⟩,
      .attempt ⟨"http://s"⟩ (.new "a" "/jobs/1" 0), .quarantine "b", .download "a" .file]
    w).isSome by decide +kernel)
  obtain ⟨v, hrun, hartifacts, hpast⟩ := (datasets_separate collaborators).1 _ w w' rs hops "a"
  obtain ⟨⟨rs', u⟩, hboth⟩ := Option.isSome_iff_exists.mp (show (World.performAll collaborators
    [.quarantine "a", .download "b" .file] w).isSome by decide +kernel)
  obtain ⟨ra, w₁, rs₁, hopa, hops₁, rfl⟩ := performAll_cons.mp hboth
  obtain ⟨rb, w₂, rs₂, hopb, hops₂, rfl⟩ := performAll_cons.mp hops₁
  cases hops₂
  obtain ⟨u', hother, hsame, hpast'⟩ := (datasets_separate collaborators).2 (.quarantine "a")
    (.download "b" .file) w u ra rb (by decide) rfl rfl hboth
  exact ⟨collaborators, w, w', v, u, u', rs, ra, rb, hops, hrun, hartifacts, hpast, hboth, hother,
    hsame, hpast'⟩

end Intake.Service
