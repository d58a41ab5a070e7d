import Intake.Api.Refusal
import Intake.Http.Multipart
import Intake.Service.Dataset
import Intake.Text.Decimal

/-!
# Uploads

A dataset is handed in as a form with a file and a metacard, and with their sizes if the sender
wants them checked. Of several parts with one name the last counts; parts with other names are
passed over. The parts are looked at in turn, and the first that cannot be used refuses the form.
-/

namespace Intake.Api

open Http (Form Part)

structure Received where
  content : Bytes
  mediaType : Option String
  fileName : Option String
  deriving Repr, DecidableEq

structure Upload where
  file : Option Received := none
  metacard : Option Received := none
  fileSize : Option Nat := none
  metacardSize : Option Nat := none
  deriving Repr, DecidableEq

namespace Upload

def sizeBound : Nat := UInt64.size

def receive (p : Part) : Except Refusal Received :=
  match p.content with
  | none => .error .brokenPart
  | some content => .ok ⟨content, p.mediaType.map (·.text), p.fileName⟩

def readSize (name : String) (p : Part) : Except Refusal Nat :=
  match p.text? with
  | none => .error (.brokenSize name)
  | some text =>
    match Text.readNat sizeBound (Text.trim text) with
    | .ok n => .ok n
    | .error _ => .error (.invalidSize name)

def add (u : Upload) (p : Part) : Except Refusal Upload :=
  match p.name with
  | some "file" => (receive p).map fun r => { u with file := some r }
  | some "metacard" => (receive p).map fun r => { u with metacard := some r }
  | some "fileSize" => (readSize "fileSize" p).map fun n => { u with fileSize := some n }
  | some "metacardSize" =>
    (readSize "metacardSize" p).map fun n => { u with metacardSize := some n }
  | _ => .ok u

/-- The media type of a file that comes without one. -/
def standardMediaType : String := "application/octet-stream"

def finish (u : Upload) : Except Refusal Service.Submission :=
  match u.file, u.metacard with
  | none, _ => .error (.missingPart "file")
  | some _, none => .error (.missingPart "metacard")
  | some file, some metacard =>
    .ok {
      fileSize := u.fileSize.getD file.content.length
      mediaType := file.mediaType.getD standardMediaType
      file := file.content
      fileName := file.fileName
      metacardSize := u.metacardSize.getD metacard.content.length
      metacard := metacard.content }

def ofForm (f : Form) : Except Refusal Service.Submission := do
  let u ← f.parts.foldlM add {}
  if f.isWhole then u.finish else .error .brokenForm

end Upload
end Intake.Api
