import Intake.Json.Record
import Intake.Remote.Message
import Intake.Text.Blank

/-!
# Poll bodies

What the transform service answers to a poll: an object with the state of the job and, once it has
ended, the descriptions it has made. A body that cannot be read is a reason to ask again.
-/

namespace Intake.Remote

namespace Product

structure Draft where
  kind : Option String := none
  location : Option String := none

def record : Json.Record Draft Product where
  title := "struct MetadataArtifact"
  members := [
    { name := "metadataType"
      names := ["metadataType", "type"]
      isSet := (·.kind.isSome)
      read := fun d s => (Json.textValue s).map fun (t, r) => ({ d with kind := some t }, r)
      mayLack := false },
    { name := "location"
      names := ["location"]
      isSet := (·.location.isSome)
      read := fun d s => (Json.textValue s).map fun (t, r) => ({ d with location := some t }, r)
      mayLack := false }]
  start := {}
  finish := fun d =>
    match d.kind, d.location with
    | none, _ => .error (.missing "metadataType")
    | some _, none => .error (.missing "location")
    | some k, some l => .ok ⟨k, l⟩

end Product

/-- A poll body: the state of the job, if it is given, and its products. -/
structure PollBody where
  state : Option String
  products : List Product
  deriving Repr, DecidableEq

namespace PollBody

structure Draft where
  state : Option (Option String) := none
  products : Option (List Product) := none

def record : Json.Record Draft PollBody where
  title := "struct TransformStatusBody"
  members := [
    { name := "transformationStatus"
      names := ["transformationStatus"]
      isSet := (·.state.isSome)
      read := fun d s => (Json.nullable Json.textValue s).map fun (t, r) =>
        ({ d with state := some t }, r)
      mayLack := false },
    { name := "metadata"
      names := ["metadata"]
      isSet := (·.products.isSome)
      read := fun d s => (Json.listOf Product.record.read s).map fun (ps, r) =>
        ({ d with products := some ps }, r)
      mayLack := true }]
  start := {}
  finish := fun d => .ok ⟨d.state.join, d.products.getD []⟩

def progress (b : PollBody) : Progress :=
  match b.state with
  | none => .transient "poll body carried no transformationStatus"
  | some s =>
    if s = "IN_PROGRESS" then .inProgress
    else if s = "DONE" then .done b.products
    else if s = "FAILED" then .failed b.products
    else .transient ("unrecognized transformationStatus " ++ Text.quote s)

end PollBody

/-- What the text of an answer says of the job. -/
def interpret (body : String) : Progress :=
  if Text.isAllBlank body then .transient "empty poll body"
  else
    match Json.decode PollBody.record.read (Bytes.ofString body) with
    | .ok b => b.progress
    | .error e => .transient ("malformed poll body: " ++ e.message)

end Intake.Remote
