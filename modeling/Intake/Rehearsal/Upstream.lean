import Intake.Remote.Gateway

/-!
# Scripted answers

Services reached over the network whose answers come from a list. Once the list is used up, the
connection is closed without an answer.
-/

namespace Intake.Rehearsal

open Http (Request Response Wire)

/-- The answers to come, and the requests that were sent. -/
structure Upstream where
  answers : List (Option Response)
  requests : List Request

namespace Upstream

def handle (r : Request) (u : Upstream) : Option Response × Upstream :=
  let sent := u.requests ++ [r]
  match u.answers with
  | [] => (none, ⟨[], sent⟩)
  | a :: rest => (a, ⟨rest, sent⟩)

def run {α : Type} (w : Wire α) (u : Upstream) : α × Upstream := Script.run handle w u

end Upstream

inductive RemoteCall
  | submit (j : Remote.Job)
  | poll (url : String)
  | discard (url : String)
  | fetch (location : String)
  | index (dataset : String) (r : Remote.IndexRequest)

inductive RemoteResult
  | refused (e : Remote.Fault)
  | submitted (url : String)
  | progress (p : Remote.Progress)
  | discarded
  | fetched (f : Remote.Fetched)
  | indexed (o : Remote.Outcome)

/-- The bases of the two services; one that cannot be used fails every call to its service. -/
structure Bases where
  transform : Except Remote.Fault Remote.Base
  index : Except Remote.Fault Remote.Base

namespace RemoteCall

/-- Makes a result of one that may be a failure. -/
def result {α : Type} (f : α → RemoteResult) : Except Remote.Fault α → RemoteResult
  | .ok a => f a
  | .error e => .refused e

def run (b : Bases) : RemoteCall → Wire RemoteResult
  | index dataset r =>
    match b.index with
    | .error e => return .refused e
    | .ok base => return .indexed (← Remote.index base dataset r)
  | call =>
    match b.transform with
    | .error e => return .refused e
    | .ok base =>
      match call with
      | submit j => return result .submitted (← Remote.submit base j)
      | poll url => return .progress (← Remote.poll url)
      | discard url => return result (fun _ => .discarded) (← Remote.discard url)
      | fetch location => return result .fetched (← Remote.fetch base location)
      | index .. => return .indexed .success

end RemoteCall
end Intake.Rehearsal
