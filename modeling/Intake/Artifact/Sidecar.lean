import Intake.Artifact.Basic
import Intake.Json.Record
import Intake.Json.Writer

/-!
# Sidecars

What is kept beside an artifact's content: its media type, file name and status, as one JSON
object. The media type is read in place. The two members of the metadata may stand anywhere among
the others, so everything else is kept until the object is complete and they are looked up then.
-/

namespace Intake.Artifact

def Kind.read : Json.Read Kind := Json.oneOf Kind.names

def Status.read : Json.Read Status := Json.oneOf Status.names

namespace Metadata

/-- The members of the metadata read so far. -/
structure Draft where
  fileName : Option (Option String) := none
  status : Option Status := none

def Draft.finish (d : Draft) : Except Json.Fault Metadata :=
  match d.status with
  | none => .error (.missing "status")
  | some status => .ok ⟨d.fileName.join, status⟩

def record : Json.Record Draft Metadata where
  title := "struct ArtifactMetadata"
  members := [
    { name := "file_name"
      names := ["file_name"]
      isSet := (·.fileName.isSome)
      read := fun d s => (Json.nullable Json.textValue s).map fun (n, r) =>
        ({ d with fileName := some n }, r)
      mayLack := false },
    { name := "status"
      names := ["status"]
      isSet := (·.status.isSome)
      read := fun d s => (Status.read s).map fun (st, r) => ({ d with status := some st }, r)
      mayLack := false }]
  start := {}
  finish := Draft.finish

def toJson (m : Metadata) : Json.Value :=
  .object [("file_name", .optional m.fileName), ("status", .text m.status.name)]

def fileNameOf : Json.Value → Except Json.Fault (Option String)
  | .null => .ok none
  | .text s => .ok (some s)
  | v => .error (.wrongKind v.kind "a string")

def statusNamed (name : String) : Except Json.Fault Status :=
  match Status.names.lookup name with
  | some s => .ok s
  | none => .error (.unknownName name (Status.names.map Prod.fst))

def statusOf : Json.Value → Except Json.Fault Status
  | .text name => statusNamed name
  | .object [(name, v)] => do
    let s ← statusNamed name
    match v with
    | .null => return s
    | .object [] => return s
    | v => .error (.wrongKind v.kind "unit")
  | .object _ => .error .notSingle
  | v => .error (.wrongKind v.kind "string or map")

def Draft.add (d : Draft) (name : String) (v : Json.Value) : Except Json.Fault Draft :=
  if name = "file_name" then
    if d.fileName.isSome then .error (.repeated "file_name")
    else (fileNameOf v).map fun n => { d with fileName := some n }
  else if name = "status" then
    if d.status.isSome then .error (.repeated "status")
    else (statusOf v).map fun s => { d with status := some s }
  else .ok d

/-- The metadata among members that were kept. -/
def ofMembers (members : List (String × Json.Value)) : Except Json.Fault Metadata := do
  (← members.foldlM (fun (d : Draft) (m : String × Json.Value) => d.add m.1 m.2) {}).finish

end Metadata

structure Sidecar where
  mediaType : String
  metadata : Metadata
  deriving Repr, DecidableEq

namespace Sidecar

def toJson (c : Sidecar) : Json.Value :=
  .object [("media_type", .text c.mediaType), ("file_name", .optional c.metadata.fileName),
    ("status", .text c.metadata.status.name)]

def encode (c : Sidecar) : Bytes := Bytes.ofString (Json.write c.toJson)

/-- The members of a sidecar read so far: the media type, and the others in reverse order. -/
structure Draft where
  mediaType : Option String := none
  others : List (String × Json.Value) := []

def Draft.finish (d : Draft) : Except Json.Fault Sidecar :=
  match d.mediaType with
  | none => .error (.missing "media_type")
  | some m => (Metadata.ofMembers d.others.reverse).map fun md => ⟨m, md⟩

def readMember (d : Draft) (name : String) : Json.Read Draft := fun s =>
  if name = "media_type" then
    if d.mediaType.isSome then .error (.repeated "media_type")
    else (Json.colon s >>= Json.textValue).map fun (m, r) => ({ d with mediaType := some m }, r)
  else (Json.colon s >>= Json.value (Json.depthLimit - 1)).map fun (v, r) =>
    ({ d with others := (name, v) :: d.others }, r)

/-- Reads the members of a sidecar after those in `d`. -/
def readMembers : Nat → Bool → Draft → Json.Read Draft
  | 0, _, _, _ => .error .endInObject
  | fuel + 1, isFirst, d, s =>
    match Json.memberName isFirst s with
    | .error e => .error e
    | .ok (none, r) => .ok (d, r)
    | .ok (some name, r) =>
      match readMember d name r with
      | .error e => .error e
      | .ok (d, r) => readMembers fuel false d r

/-- Reads a sidecar; only an object is one. -/
def read : Json.Read Sidecar := fun s =>
  match Json.skipBlanks s with
  | 0x7B :: r => do
    let (d, r) ← readMembers (r.length + 1) true {} r
    return (← d.finish, r)
  | s => Json.mismatch "struct Sidecar" s

def decode (s : Bytes) : Except Json.Fault Sidecar := Json.decode read s

end Sidecar
end Intake.Artifact
