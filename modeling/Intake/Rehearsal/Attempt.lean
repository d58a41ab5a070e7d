import Intake.Rehearsal.Cast
import Intake.Poll.Attempt

/-!
# Attempts in rehearsal

Attempts against a scripted transform service, with hooks that answer from a list.
-/

namespace Intake.Rehearsal

open Intake.Service (Call)

inductive Spoken
  | poll (url : String)
  | discard (url : String)
  | onDone (dataset : String) (products : List Remote.Product)
  | onFailed (dataset : String)
  deriving Repr

structure Bench where
  cast : Cast
  /-- What the hooks will answer. -/
  hooks : List Remote.Outcome
  spoken : List Spoken
  notes : Notes

namespace Bench

def say (b : Bench) (s : Spoken) : Bench := { b with spoken := b.spoken ++ [s] }

/-- Answers the calls of an attempt; no other call is part of one. -/
def handle : (c : Call) → Bench → Option (c.Reply × Bench)
  | .poll url, b =>
    let (r, cast) := b.cast.poll
    some (r, { b with cast := cast }.say (.poll url))
  | .discard url, b =>
    let (r, cast) := b.cast.discard url
    some (r, { b with cast := cast }.say (.discard url))
  | .report e, b => some ((), { b with notes := b.notes.report e })
  | .count c, b => some ((), { b with notes := b.notes.count c })
  | _, _ => none

def hook (b : Bench) (s : Spoken) : Remote.Outcome × Bench :=
  let (o, rest) := Cast.next .success b.hooks
  (o, { b with hooks := rest }.say s)

def attempt (b : Bench) (t : Poll.Task) : Option Poll.Outcome × Bench :=
  let (found, b) := (Poll.inquire t).runWhile handle b
  match found.result? with
  | none => (none, b)
  | some (.over o) => (some o, b)
  | some (.done products) =>
    let (o, b) := b.hook (.onDone t.dataset products)
    let (s, b) := (Poll.settle t .promoted o).runWhile handle b
    (s.result?, b)
  | some .failed =>
    let (o, b) := b.hook (.onFailed t.dataset)
    let (s, b) := (Poll.settle t .quarantined o).runWhile handle b
    (s.result?, b)

end Bench
end Intake.Rehearsal
