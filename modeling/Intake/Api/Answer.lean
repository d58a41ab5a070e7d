import Intake.Api.Route
import Intake.Api.Upload
import Intake.Json.Writer
import Intake.Metrics.Exposition

/-!
# Answering requests

What the service answers to the requests that reach it: datasets are handed in, their artifacts
read, and whole datasets removed; besides, the service says how it is doing.
-/

namespace Intake.Api

open Service (Work call)

structure Request where
  method : String
  target : String
  headers : Http.Headers
  body : Bytes
  deriving Repr, DecidableEq

/-- An answer; the names of its headers are in lower case. -/
structure Answer where
  status : Http.Status
  headers : List (String × String)
  body : Bytes
  deriving Repr, DecidableEq

namespace Answer

def bare (status : Nat) : Answer := ⟨⟨status⟩, [], []⟩

def plain (status : Nat) (text : String) : Answer :=
  ⟨⟨status⟩, [("content-type", "text/plain; charset=utf-8")], Bytes.ofString text⟩

def json (status : Http.Status) (v : Json.Value) : Answer :=
  ⟨status, [("content-type", "application/json")], Bytes.ofString (Json.write v)⟩

/-- The answer to a method that a route does not know. -/
def notAllowed (r : Route) : Answer :=
  ⟨⟨405⟩, [("allow", String.intercalate "," r.allowed)], []⟩

def withoutBody (a : Answer) : Answer := { a with body := [] }

end Answer

/-- Where the service is reached, and how much it takes in at once. -/
structure Entrance where
  site : Service.Site
  /-- The most octets of a body that hands in a dataset. -/
  uploadLimit : Nat
  deriving Repr, DecidableEq

/-- Refuses a request; what is the service's own fault is reported. -/
def refuse (r : Refusal) : Work Answer := do
  if 500 ≤ r.status.code then call (.report (.requestFailed r.status.code r.message))
  return .json r.status (.object [("error", .text r.message)])

/-! ## Handing in -/

/-- The form in a body of no more than the permitted size. -/
def readForm (limit : Nat) (boundary : String) (body : Bytes) : Http.Form :=
  if limit < body.length then ⟨[], false⟩ else .read boundary body

/-- Takes a dataset in. -/
def accept (e : Entrance) (r : Request) : Work Answer :=
  match Http.Form.boundary? r.headers with
  | none => pure (.plain 400 "Invalid `boundary` for `multipart/form-data` request")
  | some boundary =>
    match Upload.ofForm (readForm e.uploadLimit boundary r.body) with
    | .error refusal => refuse refusal
    | .ok submission => do
      match ← Service.ingest e.site submission with
      | .error fault => refuse (.service fault)
      | .ok dataset =>
        call (.report (.datasetAccepted dataset))
        return .json ⟨201⟩ (.object [("id", .text dataset)])

/-! ## Reading -/

/-- A character that may stand in the value of a header. -/
def isHeaderChar (c : Char) : Bool := c = '\t' || (0x20 ≤ c.toNat && c.toNat ≠ 0x7F)

/-- The text as the value of a header, if it may stand in one. -/
def headerValue? (s : String) : Option String := if s.toList.all isHeaderChar then some s else none

def offeredMediaType (stored : String) : String :=
  (headerValue? stored).getD Upload.standardMediaType

/-- A character that may stand between the quotes of a disposition. -/
def isPlain (c : Char) : Bool :=
  0x20 ≤ c.toNat && c.toNat < 0x7F && c ≠ '"' && c ≠ '\\'

/-- The disposition under which a file of this name is handed out. -/
def disposition (fileName : String) : String :=
  "attachment; filename=\"" ++ String.ofList (fileName.toList.filter isPlain) ++ "\""

/-- Hands out what was read; a disposition that cannot stand in a header is left out. -/
def offer (d : Service.Download) : Answer where
  status := ⟨200⟩
  headers := ("content-type", offeredMediaType d.mediaType) ::
    (d.fileName.bind fun n => headerValue? (disposition n)).toList.map fun v => ("content-disposition", v)
  body := d.content

def fetch (dataset kind : String) : Work Answer :=
  match Artifact.Kind.ofText? kind with
  | none => refuse (.unknownKind kind)
  | some k => do
    match ← Service.download dataset k with
    | .error fault => refuse (.service fault)
    | .ok d => return offer d

/-! ## Removing -/

def remove (dataset : String) : Work Answer := do
  match ← Service.quarantine dataset with
  | .error fault => refuse (.service fault)
  | .ok () => return .bare 204

/-! ## All requests -/

/-- Goes on with the name in a path. -/
def withName (parameter raw : String) (next : String → Work Answer) : Work Answer :=
  match name? raw with
  | none => pure (.plain 400 ("Invalid URL: Invalid UTF-8 in `" ++ parameter ++ "`"))
  | some name => next name

def serve (e : Entrance) (r : Request) : Route → Work Answer
  | .health => pure (.plain 200 "Healthy")
  | .metrics => do return .plain 200 (Metrics.document (← call .metrics))
  | .deadLetters => do
    return .json ⟨200⟩ (.list ((← call .deadLetters).map Poll.DeadLetter.toJson))
  | .datasets => accept e r
  | .dataset id => withName "id" id remove
  | .artifact id kind => withName "id" id fun id => withName "artifact" kind (fetch id)

def answer (e : Entrance) (r : Request) : Work Answer :=
  match Route.ofTarget? r.target with
  | none => pure (.bare 404)
  | some route =>
    if r.method = route.method.name then serve e r route
    else if r.method ∈ route.allowed then Answer.withoutBody <$> serve e r route
    else pure (.notAllowed route)

end Intake.Api
