import Intake.Api.Answer
import Intake.Poll.Attempt
import Intake.Rehearsal.Cast
import Intake.Rehearsal.Holding
import Intake.Rehearsal.Upstream

/-!
# The whole service in rehearsal

Everything the service works with: a store, the transform and the index service, the line of poll
tasks and the dead letters. One operation is carried out after the other; time passes only while one
waits. An operation that waits in vain is given up, and what it has done remains.
-/

namespace Intake.Rehearsal

open Intake.Service (Call Work)
open Intake.Poll (Task Millis)

inductive Made
  | submit (j : Remote.Job)
  | poll (url : String)
  | discard (url : String)
  | fetch (location : String)
  | index (dataset : String) (r : Remote.IndexRequest)
  | sent (r : Http.Request)
  deriving Repr

/-- The other services: scripted, or behind scripted answers of the network. -/
inductive Partners
  | cast (c : Cast)
  | network (u : Upstream) (transform index : Remote.Base)

structure Surroundings where
  entrance : Api.Entrance
  policy : Poll.Policy
  holding : Holding
  troubles : List Trouble
  partners : Partners
  line : Poll.Line Nat Task
  letters : Poll.DeadLetterLog
  /-- How often the metrics have been registered. -/
  registrations : Nat
  names : List String
  now : Millis
  made : List Made
  notes : Notes
  /-- The length of the line when it was last noted. -/
  depth : Option Nat

namespace Surroundings

def nameAfter (n : Nat) : String :=
  let digits := Nat.toDigits 16 n
  "b7e1c29f04d84a6395ce" ++ String.ofList (List.replicate (12 - digits.length) '0' ++ digits)

def say (s : Surroundings) (m : Made) : Surroundings := { s with made := s.made ++ [m] }

/-- Calls the store, unless the call is to fail. -/
def onStore {α : Type} (s : Surroundings) (c : StoreCall) (key : Artifact.Key)
    (f : Holding → Except Store.Fault α × Holding) : Except Store.Fault α × Surroundings :=
  match Trouble.strike c key s.troubles with
  | (some e, ts) => (.error e, { s with troubles := ts })
  | (none, ts) =>
    let (r, h) := f s.holding
    (r, { s with troubles := ts, holding := h })

def onPartner {α : Type} (s : Surroundings) (m : Made) (scripted : Cast → α × Cast)
    (wire : Remote.Base → Remote.Base → Http.Wire α) : α × Surroundings :=
  match s.partners with
  | .cast c =>
    let (a, c) := scripted c
    (a, { s with partners := .cast c }.say m)
  | .network u transform index =>
    let (a, u) := { u with requests := [] }.run (wire transform index)
    (a, { s with
      partners := .network u transform index
      made := s.made ++ u.requests.map .sent })

/-- Puts a task into the line, if there is room. -/
def offer (s : Surroundings) (t : Task) : Option Surroundings :=
  (s.line.offer t).map fun line => { s with line, depth := some line.length }

def take (s : Surroundings) : Option (Task × Surroundings) :=
  s.line.take?.map fun t => (t.item, { s with line := t.line, depth := some t.line.length })

/-- Answers a call; a task that has to wait for room has no answer. -/
def handle : (c : Call) → Surroundings → Option (c.Reply × Surroundings)
  | .store key u, s => some (s.onStore .store key fun h => h.store key u)
  | .retrieve key, s => some (s.onStore .retrieve key fun h => (h.retrieve key, h))
  | .delete key, s => some (s.onStore .delete key fun h => h.delete key)
  | .setStatus key status, s => some (s.onStore .setStatus key fun h => h.setStatus key status)
  | .status key, s => some (s.onStore .status key fun h => (h.status key, h))
  | .submit j, s => some (s.onPartner (.submit j) (·.submit j) fun base _ => Remote.submit base j)
  | .poll url, s => some (s.onPartner (.poll url) (·.poll) fun _ _ => Remote.poll url)
  | .discard url, s =>
    some (s.onPartner (.discard url) (·.discard url) fun _ _ => Remote.discard url)
  | .fetch location, s =>
    some (s.onPartner (.fetch location) (fun c => (c.fetch location, c))
      fun base _ => Remote.fetch base location)
  | .index dataset r, s =>
    some (s.onPartner (.index dataset r) (·.index) fun _ base => Remote.index base dataset r)
  | .enqueue dataset url, s => (s.offer (.new dataset url s.now)).map fun s => (.ok (), s)
  | .freshName, s =>
    let name := nameAfter s.names.length
    some (name, { s with names := s.names ++ [name] })
  | .report e, s => some ((), { s with notes := s.notes.report e })
  | .count c, s => some ((), { s with notes := s.notes.count c })
  | .deadLetters, s => some (s.letters.records, s)
  | .metrics, s =>
    some (Metrics.exposition (List.replicate s.registrations ⟨"service", .build⟩) .zero
      (fun _ => 0), s)

def patience : Millis := 3600000

/-- Carries out an operation; one that waits in vain has no result. -/
def run {α : Type} (s : Surroundings) (work : Work α) : Option α × Surroundings :=
  let (rest, s) := work.runWhile handle s
  match rest.result? with
  | some a => (some a, s)
  | none => (none, { s with now := s.now + patience })

def lifecycle (s : Surroundings) : Poll.Lifecycle :=
  ⟨Service.promote s.entrance.site, Service.reject⟩

def answer (s : Surroundings) (r : Api.Request) : Option Api.Answer × Surroundings :=
  s.run (Api.answer s.entrance r)

inductive CycleEnd
  | over (d : Poll.Disposition) (took : Millis)
  /-- It was given up; the worker's slot had been given back or not. -/
  | givenUp (isSlotFree : Bool)

def noteDecision (s : Surroundings) (t : Task) (d : Poll.Decision) : Surroundings :=
  let notes := (d.events t).foldl Notes.report (d.counts.foldl Notes.count s.notes)
  { s with notes, letters := d.letter?.elim s.letters s.letters.record }

/-- One drain cycle of a task, which is given up when it takes more than `limit`. -/
def cycle (s : Surroundings) (t : Task) (limit : Millis) : CycleEnd × Surroundings :=
  let start := s.now
  let wait := t.readyIn start
  if limit < wait then (.givenUp false, { s with now := start + limit })
  else
    match { s with now := start + wait }.run (Poll.attempt s.lifecycle t) with
    | (none, s) => (.givenUp false, s)
    | (some outcome, s) =>
      let s := { s with notes := outcome.counts.foldl Notes.count s.notes }
      let d := s.policy.decide (t.next s.now s.policy.wait) outcome s.now 0
      let s := s.noteDecision t d
      match d with
      | .putBack next =>
        match s.offer next with
        | some s => (.over .requeued wait, { s with notes := s.notes.count .requeues })
        | none =>
          (.givenUp true, { s with
            notes := s.notes.count .queueOverflow
            now := start + limit })
      | d => (.over d.disposition wait, s)

/-- One drain cycle of the first task in the line. -/
def drain (s : Surroundings) (limit : Millis) : Option CycleEnd × Surroundings :=
  match s.take with
  | none => (none, s)
  | some (t, s) => let (e, s) := s.cycle t limit; (some e, s)

end Surroundings
end Intake.Rehearsal
