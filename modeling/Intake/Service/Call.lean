import Intake.Script
import Intake.Poll.Line
import Intake.Poll.Cycle
import Intake.Remote.Message
import Intake.Remote.Fault
import Intake.Store.Fault

/-!
# What the service asks for

The service works on its surroundings through these calls: a store of artifacts, the transform and
the index service, the line of poll tasks, the dead letters, a source of fresh names, the log and the
counters.
-/

namespace Intake.Service

inductive Call
  | store (key : Artifact.Key) (upload : Artifact.Upload)
  | retrieve (key : Artifact.Key)
  | delete (key : Artifact.Key)
  | setStatus (key : Artifact.Key) (status : Artifact.Status)
  | status (key : Artifact.Key)
  | submit (job : Remote.Job)
  | poll (statusUrl : String)
  | discard (statusUrl : String)
  | fetch (location : String)
  | index (dataset : String) (request : Remote.IndexRequest)
  /-- Puts a new poll task into the line, waiting for room. -/
  | enqueue (dataset statusUrl : String)
  /-- A name that has not been given before. -/
  | freshName
  | report (event : Log.Event)
  | count (counter : Metrics.Counter)
  /-- The dead letters, oldest first. -/
  | deadLetters
  | metrics
  deriving Repr, DecidableEq

abbrev Call.Reply : Call → Type
  | store .. | delete _ | setStatus .. => Except Store.Fault Unit
  | retrieve _ => Except Store.Fault Artifact
  | status _ => Except Store.Fault Artifact.Status
  | submit _ => Except Remote.Fault String
  | poll _ => Remote.Progress
  | discard _ => Except Remote.Fault Unit
  | fetch _ => Except Remote.Fault Remote.Fetched
  | index .. => Remote.Outcome
  | enqueue .. => Except Poll.LineFault Unit
  | freshName => String
  | report _ | count _ => Unit
  | deadLetters => List Poll.DeadLetter
  | metrics => List String

abbrev Work := Script Call Call.Reply

def call (c : Call) : Work c.Reply := Script.request c

/-- Why the service does not do what it is asked. -/
inductive Fault
  | notFound (dataset : String) (kind : Artifact.Kind)
  | storage (e : Store.Fault)
  | submission (e : Remote.Fault)
  | queue (e : Poll.LineFault)
  deriving Repr, DecidableEq

namespace Fault

def message : Fault → String
  | notFound dataset kind =>
    "dataset " ++ dataset ++ " has no retrievable " ++ kind.name ++ " artifact"
  | storage e => e.message
  | submission e => "transform submission failed: " ++ e.message
  | queue e => "could not enqueue transform status task: " ++ e.message

def isInvalidRequest : Fault → Bool
  | storage e => e.isInvalidRequest
  | _ => false

def cause? : Fault → Option String
  | notFound .. => none
  | storage (.device e) => some e.message
  | storage (.sidecar e) => some e.message
  | storage _ => none
  | submission e => some e.message
  | queue e => some e.message

end Fault

def report (message : String) (causes : List String) : String :=
  let line (c : String × Nat) : String :=
    "caused by (" ++ toString (c.2 + 1) ++ "): " ++ c.1
  String.intercalate "\n" (("error: " ++ message) :: causes.zipIdx.map line)

/-- What a refusal of the store amounts to. -/
def outcomeOf (e : Store.Fault) : Remote.Outcome :=
  match e with
  | .notFound _ => .notFound
  | e => if e.isInvalidRequest then .badRequest e.message else .transient e.message

/-- What a failed fetch amounts to. Something that cannot be fetched yet leaves nothing to
promote, so an answer that it is not there is a reason to try again. -/
def outcomeOfFetch (e : Remote.Fault) : Remote.Outcome :=
  match Remote.Outcome.ofFault e with
  | .notFound => .transient e.message
  | o => o

end Intake.Service
