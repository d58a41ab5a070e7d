import Intake.Service.Call

/-!
# Scripted services

A transform service and an index service that answer from lists, one entry for each call, and in a
fixed way once a list is used up.
-/

namespace Intake.Rehearsal

open Intake.Service (Call)

/-- A failure that may mention the resource asked for. -/
abbrev FaultFor := String → Remote.Fault

structure Cast where
  submits : List (Except Remote.Fault (Option String))
  polls : List Remote.Progress
  discards : List (Option FaultFor)
  artifacts : List (String × Except Remote.Fault Remote.Fetched)
  indexes : List Remote.Outcome

namespace Cast

/-- The first entry of a list, or what stands for a missing one. -/
def next {α : Type} (otherwise : α) : List α → α × List α
  | [] => (otherwise, [])
  | a :: as => (a, as)

def statusUrl (dataset : String) : String := "http://transform.test/status/" ++ dataset

def submit (c : Cast) (j : Remote.Job) : Except Remote.Fault String × Cast :=
  let (r, rest) := next (.ok none) c.submits
  (r.map (·.getD (statusUrl j.dataset)), { c with submits := rest })

def poll (c : Cast) : Remote.Progress × Cast :=
  let (r, rest) := next (.transient "scripted polls exhausted") c.polls
  (r, { c with polls := rest })

def discard (c : Cast) (url : String) : Except Remote.Fault Unit × Cast :=
  let (r, rest) := next none c.discards
  (match r with
    | none => .ok ()
    | some fault => .error (fault url), { c with discards := rest })

def fetch (c : Cast) (location : String) : Except Remote.Fault Remote.Fetched :=
  (c.artifacts.lookup location).getD (.error (.unexpectedStatus location 404))

def index (c : Cast) : Remote.Outcome × Cast :=
  let (r, rest) := next .success c.indexes
  (r, { c with indexes := rest })

end Cast

structure Notes where
  tally : Metrics.Tally
  /-- What was reported, latest first. -/
  events : List Log.Event

def Notes.none : Notes := ⟨.zero, []⟩

def Notes.report (n : Notes) (e : Log.Event) : Notes := { n with events := e :: n.events }

def Notes.count (n : Notes) (c : Metrics.Counter) : Notes := { n with tally := n.tally.count c }

end Intake.Rehearsal
