import Intake.Http.Client
import Intake.Remote.PollBody

/-!
# Calling the services

The calls to the transform and the index service as exchanges of requests and answers. Every address
is built on the base of its service; an address that a service answers with, or that is fetched, may
be relative to it.
-/

namespace Intake.Remote

open Http (Response Wire send)

structure Base where
  text : String
  deriving Repr, DecidableEq

namespace Base

/-- The base that a text gives: it has to be an address; slashes at its end do not count. -/
def ofText (raw : String) : Except Fault Base :=
  let text := Text.trimEndOf '/' (Text.trim raw)
  match Url.parse text with
  | .ok _ => .ok ⟨text⟩
  | .error e => .error (.invalidAddress raw e.message)

def resolve (b : Base) (location : String) : Except Fault String :=
  match Url.parse (b.text ++ "/") with
  | .error e => .error (.invalidAddress b.text e.message)
  | .ok base =>
    match base.join location with
    | .ok u => .ok u.text
    | .error e => .error (.invalidAddress location e.message)

end Base

/-- The media type of a description that does not name one. -/
def standardMediaType : String := "application/octet-stream"

/-- The answer to a granted request, or the failure that it is. -/
def granted (resource : String) (r : Except Http.TransportFault Response) : Except Fault Response :=
  match r with
  | .error e => .error (.transport e)
  | .ok answer =>
    if answer.status.isSuccess then .ok answer
    else .error (.unexpectedStatus resource answer.status.code)

/-- Submits a job and answers with the address under which it is polled. -/
def submit (b : Base) (j : Job) : Wire (Except Fault String) := do
  let r ← send .post (b.text ++ "/transform") (some j.toJson)
  return do
    let answer ← granted ("transform submission for dataset " ++ j.dataset) r
    match answer.headers.text? "location" with
    | none => .error (.missingLocation j.dataset)
    | some location => b.resolve location

def poll (url : String) : Wire Progress := do
  match ← send .get url none with
  | .error e => return .transient ("transport error polling " ++ url ++ ": " ++ e.message)
  | .ok answer =>
    if answer.status.code = 200 then
      match answer.text? with
      | some body => return interpret body
      | none =>
        return .transient ("failed reading poll body from " ++ url ++ ": "
          ++ Http.TransportFault.body.message)
    else if answer.status.code = 404 then return .notFound
    else return .transient ("unexpected status " ++ answer.status.text ++ " polling " ++ url)

def discard (url : String) : Wire (Except Fault Unit) := do
  let r ← send .delete url none
  return (granted ("transform record " ++ url) r).map fun _ => ()

def fetch (b : Base) (location : String) : Wire (Except Fault Fetched) := do
  match b.resolve location with
  | .error e => return .error e
  | .ok url =>
    let r ← send .get url none
    return do
      let answer ← granted ("metadata artifact " ++ url) r
      match answer.content? with
      | none => .error (.transport .body)
      | some content =>
        .ok ⟨(answer.headers.text? "content-type").getD standardMediaType, content⟩

def index (b : Base) (dataset : String) (r : IndexRequest) : Wire Outcome := do
  match ← send .put (b.text ++ "/index/" ++ dataset) (some r.toJson) with
  | .error e => return .transient ("index request failed: " ++ e.message)
  | .ok answer => return .ofStatus answer.status "index service"

end Intake.Remote
