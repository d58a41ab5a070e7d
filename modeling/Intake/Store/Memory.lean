import Intake.Store.Fault

/-!
# A store in memory

Artifacts by key. Storing replaces what was there, deleting what is not there does nothing.
-/

namespace Intake.Store

open Artifact (Key Status Upload)

/-- The artifacts of a store, each key at most once. -/
structure Memory where
  entries : List (Key × Artifact)
  deriving Repr, DecidableEq

namespace Memory

def empty : Memory := ⟨[]⟩

def get? (m : Memory) (key : Key) : Option Artifact := m.entries.lookup key

def size (m : Memory) : Nat := m.entries.length

def erase (m : Memory) (key : Key) : Memory := ⟨m.entries.filter fun e => e.1 ≠ key⟩

def insert (m : Memory) (key : Key) (a : Artifact) : Memory := ⟨(key, a) :: (m.erase key).entries⟩

def store (m : Memory) (key : Key) (u : Upload) : Except Fault Unit × Memory :=
  match checkSize u with
  | .error e => (.error e, m)
  | .ok () => (.ok (), m.insert key u.toArtifact)

/-- The artifact under a key, which has to be there. -/
def retrieve (m : Memory) (key : Key) : Except Fault Artifact :=
  match m.get? key with
  | some a => .ok a
  | none => .error (.notFound key)

def delete (m : Memory) (key : Key) : Except Fault Unit × Memory := (.ok (), m.erase key)

def setStatus (m : Memory) (key : Key) (s : Status) : Except Fault Unit × Memory :=
  match m.get? key with
  | some a => (.ok (), m.insert key { a with metadata := { a.metadata with status := s } })
  | none => (.error (.notFound key), m)

def status (m : Memory) (key : Key) : Except Fault Status :=
  (m.retrieve key).map fun a => a.metadata.status

end Memory
end Intake.Store
