import Intake.Api.Answer
import Intake.Proofs.Api.Pieces
import Intake.Proofs.Store.Memory

/-!
# A depot of datasets

What stands behind the answers: a store in memory, a line of poll tasks that nobody empties, and a supply
of names. Handing in, reading and removing ask it for nothing that it cannot answer, as long as there is
room in the line.
-/

namespace Intake.Api

open Service (Call Work)
open Artifact (Key Kind)
open Store (Memory)

structure Depot where
  store : Memory
  /-- The poll tasks, each a dataset with its status URL. -/
  line : Poll.Line Unit (String × String)
  /-- How many names have been given. -/
  given : Nat

/-- What surrounds a depot: names to give, and a transform service that takes every job. -/
structure Outside where
  fresh : Nat → String
  accept : Remote.Job → String

namespace Depot

def new (capacity : Nat) : Depot := ⟨.empty, .new capacity, 0⟩

/-- Answers a call. Handing in, reading and removing ask for nothing else. -/
def handle (o : Outside) : (c : Call) → Depot → Option (c.Reply × Depot)
  | .store key u, d => some ((d.store.store key u).1, { d with store := (d.store.store key u).2 })
  | .retrieve key, d => some (d.store.retrieve key, d)
  | .delete key, d => some ((d.store.delete key).1, { d with store := (d.store.delete key).2 })
  | .setStatus key s, d =>
    some ((d.store.setStatus key s).1, { d with store := (d.store.setStatus key s).2 })
  | .status key, d => some (d.store.status key, d)
  | .submit job, d => some (.ok (o.accept job), d)
  | .enqueue dataset url, d =>
    (d.line.offer (dataset, url)).map fun line => (.ok (), { d with line })
  | .freshName, d => some (o.fresh d.given, { d with given := d.given + 1 })
  | .report _, d => some ((), d)
  | .count _, d => some ((), d)
  | _, _ => none

/-- Does a piece of work to its end. -/
def finish {α : Type} (o : Outside) (d : Depot) (work : Work α) : Option (α × Depot) :=
  match work.runWhile (handle o) d with
  | (.done a, d) => some (a, d)
  | (.ask .., _) => none

/-- Answers requests one after the other. -/
def answerAll (o : Outside) (e : Entrance) : Depot → List Request → Option (List Answer × Depot)
  | d, [] => some ([], d)
  | d, r :: rs => do
    let (a, d) ← d.finish o (answer e r)
    let (as, d) ← d.answerAll o e rs
    return (a :: as, d)

end Depot

/-! ## One piece of work after another -/

namespace Depot

variable {α β : Type} {o : Outside} {d d' : Depot}

theorem finish_ask {c : Call} {next : c.Reply → Work α} {r : c.Reply}
    (h : handle o c d = some (r, d')) : d.finish o (.ask c next) = d'.finish o (next r) := by
  simp only [finish, Script.runWhile, h]

theorem finish_bind {w : Work α} {a : α} (h : d.finish o w = some (a, d')) (f : α → Work β) :
    d.finish o (w >>= f) = d'.finish o (f a) := by
  induction w generalizing d with
  | done b =>
      cases h
      rfl
  | ask c next ih =>
      cases hc : handle o c d with
      | none => simp only [finish, Script.runWhile, hc, reduceCtorEq] at h
      | some x =>
          obtain ⟨r, d₁⟩ := x
          rw [finish_ask hc] at h
          rw [Script.bind_ask, finish_ask hc]
          exact ih r h

/-! ## Handing in -/

variable {s : Service.Submission}

/-- The name that is given next. -/
def next (o : Outside) (d : Depot) : String := o.fresh d.given

/-- The depot when a name has been given. -/
def naming (d : Depot) : Depot := { d with given := d.given + 1 }

def put (d : Depot) (key : Key) (u : Artifact.Upload) : Depot :=
  { d with store := d.store.insert key u.toArtifact }

theorem handle_store {key : Key} {u : Artifact.Upload} (h : u.size = u.content.length) :
    handle o (.store key u) d = some (.ok (), d.put key u) := by
  simp only [handle, Memory.store_of_size h]
  rfl

theorem handle_store_of_ne {key : Key} {u : Artifact.Upload} (h : u.size ≠ u.content.length) :
    handle o (.store key u) d = some (.error (.sizeMismatch u.size u.content.length), d) := by
  simp only [handle, Memory.store_of_size_ne h]

/-- The depot when the two artifacts of a dataset have been staged under the next name. -/
def staged (o : Outside) (d : Depot) (s : Service.Submission) : Depot :=
  (d.naming.put ⟨d.next o, .file⟩ s.fileUpload).put ⟨d.next o, .metacard⟩ s.metacardUpload

/-- There is room for `k` more tasks in the line, and nobody waits for one. -/
def HasRoom (d : Depot) (k : Nat) : Prop :=
  d.line.receivers = [] ∧ d.line.items.length + k ≤ d.line.capacity

theorem offer_of_hasRoom {k : Nat} (h : d.HasRoom (k + 1)) (t : String × String) :
    ∃ line, d.line.offer t = some line ∧ { d with line := line }.HasRoom k := by
  obtain ⟨hnone, hroom⟩ := h
  have hlt : d.line.items.length < d.line.capacity := by omega
  refine ⟨{ d.line with items := d.line.items ++ [t] }, ?_, hnone, ?_⟩
  · simp only [Poll.Line.offer, hnone, if_pos hlt]
  · simp only [List.length_append, List.length_singleton]
    omega

theorem finish_ingest {k : Nat} (site : Service.Site) (hf : s.fileSize = s.file.length)
    (hm : s.metacardSize = s.metacard.length) (hroom : d.HasRoom (k + 1)) :
    ∃ line, d.finish o (Service.ingest site s) =
      some (.ok (d.next o), { d.staged o s with line := line }) ∧
        { d with line := line }.HasRoom k := by
  let job : Remote.Job :=
    ⟨d.next o, site.artifactUrl (d.next o) .file, site.artifactUrl (d.next o) .metacard⟩
  obtain ⟨line, hline, hroom⟩ := offer_of_hasRoom hroom (d.next o, o.accept job)
  have hsubmit : handle o (.submit job) (d.staged o s) = some (.ok (o.accept job), d.staged o s) := rfl
  have henqueue : handle o (.enqueue (d.next o) (o.accept job)) (d.staged o s) =
      some (.ok (), { d.staged o s with line := line }) :=
    congrArg (Option.map _) hline
  have hstage : d.naming.finish o (Service.stage site (d.next o) s) =
      some (.ok (), { d.staged o s with line := line }) :=
    (finish_ask (handle_store hf)).trans <| (finish_ask (handle_store hm)).trans <|
      (finish_ask hsubmit).trans (finish_ask henqueue)
  exact ⟨line, finish_bind hstage _, hroom⟩

/-- What a depot is left as by an upload that is refused. -/
inductive Leaves (o : Outside) (d : Depot) : Depot → Prop
  | untouched : Leaves o d d
  | named : Leaves o d d.naming
  /-- The file has been staged, the metacard not. -/
  | halfway {u : Artifact.Upload} : Leaves o d (d.naming.put ⟨d.next o, .file⟩ u)

theorem finish_ingest_of_complaint {r : Refusal} (site : Service.Site)
    (h : sizeComplaint? s = some r) :
    ∃ fault d', r = .service fault ∧ r.status = ⟨400⟩ ∧
      d.finish o (Service.ingest site s) = some (.error fault, d') ∧ d.Leaves o d' := by
  by_cases hf : s.fileSize = s.file.length
  · by_cases hm : s.metacardSize = s.metacard.length
    · rw [sizeComplaint?, wrongSize?, wrongSize?, if_pos hf, if_pos hm] at h
      cases h
    · rw [sizeComplaint?, wrongSize?, wrongSize?, if_pos hf, if_neg hm] at h
      cases h
      have hstage : d.naming.finish o (Service.stage site (d.next o) s) = some
          (.error (.storage (.sizeMismatch s.metacardSize s.metacard.length)),
            d.naming.put ⟨d.next o, .file⟩ s.fileUpload) :=
        (finish_ask (handle_store hf)).trans (finish_ask (handle_store_of_ne hm))
      exact ⟨_, _, rfl, rfl, finish_bind hstage _, .halfway⟩
  · rw [sizeComplaint?, wrongSize?, if_neg hf] at h
    cases h
    have hstage : d.naming.finish o (Service.stage site (d.next o) s) =
        some (.error (.storage (.sizeMismatch s.fileSize s.file.length)), d.naming) :=
      finish_ask (handle_store_of_ne hf)
    exact ⟨_, _, rfl, rfl, finish_bind hstage _, .named⟩

theorem sizes_of_no_complaint (h : sizeComplaint? s = none) :
    s.fileSize = s.file.length ∧ s.metacardSize = s.metacard.length := by
  simpa [sizeComplaint?, wrongSize?, Option.or_eq_none_iff] using h

theorem Leaves.hasRoom {k : Nat} (h : d.Leaves o d') (hroom : d.HasRoom k) : d'.HasRoom k := by
  cases h <;> exact hroom

/-! ## Reading and removing -/

/-- What is read under a name. -/
def read (d : Depot) (name : String) (kind : Kind) : Except Service.Fault Service.Download :=
  match d.store.get? ⟨name, kind⟩ with
  | some a =>
    if a.metadata.status.isRetrievable then .ok ⟨a.mediaType, a.content, a.metadata.fileName⟩
    else .error (.notFound name kind)
  | none => .error (.notFound name kind)

def clear (d : Depot) (name : String) : Depot :=
  { d with store := ((d.store.erase ⟨name, .file⟩).erase ⟨name, .irm⟩).erase ⟨name, .metacard⟩ }

theorem finish_download (name : String) (kind : Kind) :
    d.finish o (Service.download name kind) = some (d.read name kind, d) := by
  have hretrieve : handle o (.retrieve ⟨name, kind⟩) d = some (d.store.retrieve ⟨name, kind⟩, d) := rfl
  refine (finish_ask hretrieve).trans ?_
  rw [Memory.retrieve, read]
  cases d.store.get? ⟨name, kind⟩ with
  | none => rfl
  | some a =>
      show finish o d (if a.metadata.status.isRetrievable then _ else _) = _
      simp only
      split <;> rfl

theorem finish_quarantine (name : String) :
    d.finish o (Service.quarantine name) = some (.ok (), d.clear name) := rfl

end Depot

end Intake.Api
