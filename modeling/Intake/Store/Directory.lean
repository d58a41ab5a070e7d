import Intake.Store.Volume
import Intake.Artifact.Sidecar

/-!
# A store in a directory

An artifact is two files in its dataset's directory: the content, and a sidecar with everything
else. The sidecar is written last and removed first, so that its presence is what makes an artifact
exist. Every file is written under a temporary name and then moved into place.
-/

namespace Intake.Store.Directory

open Artifact (Key Sidecar Status Upload)
open Disk (Work run)

def isNameChar (c : Char) : Bool := c.isAlphanum || c = '-' || c = '_'

/-- A dataset's name has to be one ordinary path component. -/
def checkDataset (dataset : String) : Except Fault Unit :=
  if !dataset.isEmpty && dataset.toList.all isNameChar then .ok ()
  else .error (.invalidDataset dataset)

def directory (key : Key) : Path := [key.dataset]

def contentFile (key : Key) : Path := [key.dataset, key.kind.name ++ ".bin"]

def sidecarFile (key : Key) : Path := [key.dataset, key.kind.name ++ ".json"]

def temporary : Path → Path
  | [] => []
  | [name] => [name ++ ".part"]
  | c :: rest => c :: temporary rest

/-- Makes a failure of the file system one of the store. -/
def device {α : Type} (r : Except DeviceFault α) : Except Fault α := r.mapError .device

/-- Writes a file under its temporary name and moves it into place. -/
def writeWhole (p : Path) (content : Bytes) : Work (Except Fault Unit) := do
  match device (← run (.write (temporary p) content)) with
  | .error e => return .error e
  | .ok () => return device (← run (.rename (temporary p) p))

/-- Removes a file, if it is there. -/
def removePresent (p : Path) : Work (Except Fault Unit) := do
  match ← run (.removeFile p) with
  | .error (.os .notFound) => return .ok ()
  | r => return device r

/-- Reads a file of an artifact; where it is missing, so is the artifact. -/
def readOf (key : Key) (p : Path) : Work (Except Fault Bytes) := do
  match ← run (.read p) with
  | .error (.os .notFound) => return .error (.notFound key)
  | r => return device r

def readSidecar (key : Key) : Work (Except Fault Sidecar) := do
  match ← readOf key (sidecarFile key) with
  | .error e => return .error e
  | .ok raw => return (Sidecar.decode raw).mapError .sidecar

def writeSidecar (key : Key) (c : Sidecar) : Work (Except Fault Unit) :=
  writeWhole (sidecarFile key) c.encode

/-- Goes on for a valid dataset name only. -/
def guarded {α : Type} (key : Key) (work : Work (Except Fault α)) : Work (Except Fault α) :=
  match checkDataset key.dataset with
  | .error e => pure (.error e)
  | .ok () => work

def store (key : Key) (u : Upload) : Work (Except Fault Unit) :=
  match checkSize u with
  | .error e => pure (.error e)
  | .ok () => guarded key do
    match device (← run (.makeDirectories (directory key))) with
    | .error e => return .error e
    | .ok () =>
      match ← writeWhole (contentFile key) u.content with
      | .error e => return .error e
      | .ok () => writeSidecar key ⟨u.mediaType, u.metadata⟩

def retrieve (key : Key) : Work (Except Fault Artifact) :=
  guarded key do
    match ← readSidecar key with
    | .error e => return .error e
    | .ok c =>
      match ← readOf key (contentFile key) with
      | .error e => return .error e
      | .ok content => return .ok ⟨c.mediaType, content, c.metadata⟩

/-- Removes an artifact, and its dataset's directory once that is empty. -/
def delete (key : Key) : Work (Except Fault Unit) :=
  guarded key do
    match ← removePresent (sidecarFile key) with
    | .error e => return .error e
    | .ok () =>
      match ← removePresent (contentFile key) with
      | .error e => return .error e
      | .ok () =>
        let _ ← run (.removeDirectory (directory key))
        return .ok ()

def setStatus (key : Key) (s : Status) : Work (Except Fault Unit) :=
  guarded key do
    match ← readSidecar key with
    | .error e => return .error e
    | .ok c => writeSidecar key { c with metadata := { c.metadata with status := s } }

def status (key : Key) : Work (Except Fault Status) :=
  guarded key do
    return (← readSidecar key).map fun c => c.metadata.status

end Intake.Store.Directory
