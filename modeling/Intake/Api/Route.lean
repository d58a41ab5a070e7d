import Intake.Http.Message
import Intake.Text.Percent
import Intake.Text.Utf8

/-!
# Routes

The paths under which the service is reached, and the methods that each of them knows. A path is
matched as it was sent; only the names in it are then decoded.
-/

namespace Intake.Api

/-- A place that requests can be sent to; names are as they were sent. -/
inductive Route
  | health
  | metrics
  | deadLetters
  | datasets
  | dataset (id : String)
  | artifact (id kind : String)
  deriving Repr, DecidableEq

namespace Route

def segments : List Char → List (List Char)
  | [] => [[]]
  | c :: r =>
    match c, segments r with
    | '/', rest => [] :: rest
    | c, [] => [[c]]
    | c, s :: rest => (c :: s) :: rest

/-- The path of a target: what stands before a query or a fragment. -/
def path (target : String) : List Char := target.toList.takeWhile fun c => c ≠ '?' ∧ c ≠ '#'

/-- The route of a target. The last name of a route is not empty, another one may be. -/
def ofTarget? (target : String) : Option Route :=
  match (segments (path target)).map String.ofList with
  | ["", "health"] => some health
  | ["", "metrics"] => some metrics
  | ["", "dead-letters"] => some deadLetters
  | ["", "datasets"] => some datasets
  | ["", "datasets", id] => if id.isEmpty then none else some (dataset id)
  | ["", "datasets", id, kind] => if kind.isEmpty then none else some (artifact id kind)
  | _ => none

def method : Route → Http.Method
  | health | metrics | deadLetters | artifact .. => .get
  | datasets => .post
  | dataset _ => .delete

/-- The methods that a route knows; what can be read can be asked for without its body. -/
def allowed (r : Route) : List String :=
  match r.method with
  | .get => [Http.Method.get.name, "HEAD"]
  | m => [m.name]

end Route

/-- The name in a path, decoded; not every name is text. -/
def name? (raw : String) : Option String :=
  Text.Utf8.decode? (Text.Percent.decode (Bytes.ofString raw))

end Intake.Api
