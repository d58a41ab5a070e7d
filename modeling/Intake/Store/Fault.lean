import Intake.Artifact.Basic
import Intake.Json.Fault

/-!
# Why a store refuses

The causes for which a store does not do what it is asked, and their words.
-/

namespace Intake.Store

/-- A failure of the file system, by its cause. -/
inductive Errno
  | notFound
  | exists
  | notDirectory
  | isDirectory
  | nameTooLong
  | notEmpty
  deriving Repr, DecidableEq

def Errno.message : Errno → String
  | .notFound => "No such file or directory (os error 2)"
  | .exists => "File exists (os error 17)"
  | .notDirectory => "Not a directory (os error 20)"
  | .isDirectory => "Is a directory (os error 21)"
  | .nameTooLong => "File name too long (os error 36)"
  | .notEmpty => "Directory not empty (os error 39)"

inductive DeviceFault
  | os (e : Errno)
  | other (text : String)
  deriving Repr, DecidableEq

def DeviceFault.message : DeviceFault → String
  | .os e => e.message
  | .other text => text

inductive Fault
  | notFound (key : Artifact.Key)
  | sizeMismatch (declared actual : Nat)
  | invalidDataset (id : String)
  | unknownKind (name : String)
  | device (e : DeviceFault)
  | sidecar (e : Json.Fault)
  deriving Repr, DecidableEq

namespace Fault

def message : Fault → String
  | notFound key => "artifact " ++ key.text ++ " not found"
  | sizeMismatch declared actual =>
    "declared size " ++ toString declared ++ " does not match received " ++ toString actual
      ++ " bytes"
  | invalidDataset id => "invalid dataset id: " ++ Text.quote id
  | unknownKind name => "unknown artifact type: " ++ Text.quote name
  | device e => "storage I/O error: " ++ e.message
  | sidecar e => "corrupt artifact sidecar: " ++ e.message

def isInvalidRequest : Fault → Bool
  | sizeMismatch .. | invalidDataset _ | unknownKind _ => true
  | notFound _ | device _ | sidecar _ => false

end Fault

/-- The declared size of an upload has to be the size of its content. -/
def checkSize (u : Artifact.Upload) : Except Fault Unit :=
  if u.content.length = u.size then .ok () else .error (.sizeMismatch u.size u.content.length)

def kindOf (raw : String) : Except Fault Artifact.Kind :=
  match Artifact.Kind.ofText? raw with
  | some k => .ok k
  | none => .error (.unknownKind (Artifact.Kind.normalize raw))

end Intake.Store
