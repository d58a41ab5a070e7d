import Intake.Store.Memory
import Intake.Store.Directory

/-!
# Stores in rehearsal

A store of either kind, and failures that are arranged for some of its calls: a call that fails so
does not reach the store.
-/

namespace Intake.Rehearsal

open Artifact (Key Kind Status Upload)

inductive Holding
  | memory (m : Store.Memory)
  | directory (v : Store.Volume)

namespace Holding

def onVolume {α : Type} (v : Store.Volume) (work : Store.Disk.Work α) : α × Holding :=
  let (a, v) := work.run Store.Volume.handle v
  (a, directory v)

def store (h : Holding) (key : Key) (u : Upload) : Except Store.Fault Unit × Holding :=
  match h with
  | memory m => let (r, m) := m.store key u; (r, memory m)
  | directory v => onVolume v (Store.Directory.store key u)

def retrieve (h : Holding) (key : Key) : Except Store.Fault Artifact :=
  match h with
  | memory m => m.retrieve key
  | directory v => (onVolume v (Store.Directory.retrieve key)).1

def delete (h : Holding) (key : Key) : Except Store.Fault Unit × Holding :=
  match h with
  | memory m => let (r, m) := m.delete key; (r, memory m)
  | directory v => onVolume v (Store.Directory.delete key)

def setStatus (h : Holding) (key : Key) (s : Status) : Except Store.Fault Unit × Holding :=
  match h with
  | memory m => let (r, m) := m.setStatus key s; (r, memory m)
  | directory v => onVolume v (Store.Directory.setStatus key s)

def status (h : Holding) (key : Key) : Except Store.Fault Status :=
  match h with
  | memory m => m.status key
  | directory v => (onVolume v (Store.Directory.status key)).1

def size? : Holding → Option Nat
  | memory m => some m.size
  | directory _ => none

/-! ## The files of a directory -/

def components (path : String) : Store.Path :=
  let step (c : Char) (acc : List Char × Store.Path) : List Char × Store.Path :=
    if c = '/' then ([], String.ofList acc.1 :: acc.2) else (c :: acc.1, acc.2)
  let (first, rest) := path.toList.foldr step ([], [])
  (String.ofList first :: rest).filter fun c => !c.isEmpty && c != "."

/-- Works on the files; says whether it could be done. -/
def attempt (h : Holding) (work : Store.Disk.Work (Except Store.DeviceFault Unit)) :
    Bool × Holding :=
  match h with
  | memory m => (false, memory m)
  | directory v => let (r, h) := onVolume v work; (r.toOption.isSome, h)

def makeDirectory (h : Holding) (path : String) : Bool × Holding :=
  h.attempt (Store.Disk.run (.makeDirectories (components path)))

/-- Writes a file; the directories above it are made. -/
def writeFile (h : Holding) (path : String) (content : Bytes) : Bool × Holding :=
  let p := components path
  h.attempt do
    match ← Store.Disk.run (.makeDirectories p.dropLast) with
    | .error e => return .error e
    | .ok () => Store.Disk.run (.write p content)

def removeFile (h : Holding) (path : String) : Bool × Holding :=
  h.attempt (Store.Disk.run (.removeFile (components path)))

def listing : Holding → List (String × Store.Node)
  | memory _ => []
  | directory v => v.nodes.map fun (p, n) => (String.intercalate "/" p, n)

end Holding

/-! ## Arranged failures -/

inductive StoreCall
  | store
  | retrieve
  | delete
  | setStatus
  | status
  deriving Repr, DecidableEq

/-- A failure that is arranged for some calls. -/
structure Trouble where
  call : StoreCall
  /-- The kind of artifact that is concerned; every kind, where there is none. -/
  kind : Option Kind
  /-- How many calls are let pass before. -/
  skip : Nat
  /-- How many calls fail; all of them, where there is none. -/
  times : Option Nat
  fault : Key → Store.Fault

namespace Trouble

def concerns (t : Trouble) (c : StoreCall) (key : Key) : Bool :=
  t.call = c && t.kind.all (· = key.kind)

/-- The failure of a call, if it is to fail, and the failures that remain. The first that concerns
the call and has to let none pass decides; those before it have let one more pass. -/
def strike (c : StoreCall) (key : Key) : List Trouble → Option Store.Fault × List Trouble
  | [] => (none, [])
  | t :: ts =>
    if !t.concerns c key || t.times = some 0 && t.skip = 0 then
      let (e, ts) := strike c key ts
      (e, t :: ts)
    else if 0 < t.skip then
      let (e, ts) := strike c key ts
      (e, { t with skip := t.skip - 1 } :: ts)
    else (some (t.fault key), { t with times := t.times.map (· - 1) } :: ts)

end Trouble
end Intake.Rehearsal
