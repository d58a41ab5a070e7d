import Intake.Bytes
import Intake.Text.Blank

/-!
# Artifacts of a dataset

A dataset has up to three artifacts: the file that was handed in and two descriptions of it. Each
carries a media type, its content, an optional file name and the status that decides whether it may
be handed out.
-/

namespace Intake

namespace Artifact

/-- What an artifact is to its dataset. -/
inductive Kind
  | file
  | irm
  | metacard
  deriving Repr, DecidableEq

namespace Kind

/-- Every kind, in the order in which they are dealt with. -/
def all : List Kind := [file, irm, metacard]

def name : Kind → String
  | file => "file"
  | irm => "irm"
  | metacard => "metacard"

def names : List (String × Kind) := all.map fun k => (k.name, k)

/-- A text as names are compared: without blanks at its ends and in lower case. -/
def normalize (raw : String) : String := Text.lower (Text.trim raw)

def ofText? (raw : String) : Option Kind := names.lookup (normalize raw)

theorem mem_all (k : Kind) : k ∈ all := by cases k <;> decide

end Kind

inductive Status
  /-- Held back. -/
  | quarantined
  /-- Received, not yet approved. -/
  | staged
  /-- Approved. -/
  | stored
  deriving Repr, DecidableEq

namespace Status

def all : List Status := [quarantined, staged, stored]

def name : Status → String
  | quarantined => "quarantined"
  | staged => "staged"
  | stored => "stored"

def names : List (String × Status) := all.map fun s => (s.name, s)

def isRetrievable : Status → Bool
  | quarantined => false
  | staged | stored => true

end Status

/-- The place of an artifact: its dataset and its kind. -/
structure Key where
  dataset : String
  kind : Kind
  deriving Repr, DecidableEq

def Key.text (k : Key) : String := k.dataset ++ "/" ++ k.kind.name

/-- What is known of an artifact beside its media type. -/
structure Metadata where
  fileName : Option String
  status : Status
  deriving Repr, DecidableEq

end Artifact

structure Artifact where
  mediaType : String
  content : Bytes
  metadata : Artifact.Metadata
  deriving Repr, DecidableEq

/-- An artifact together with the size that its sender declared. -/
structure Artifact.Upload extends Artifact where
  size : Nat
  deriving Repr, DecidableEq

end Intake
