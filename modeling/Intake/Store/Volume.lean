import Intake.Script
import Intake.Store.Fault

/-!
# A volume of files

Files and directories under one root, and the primitives that work on them. A path is followed
component by component: every directory on the way has to be there, and no component may be longer
than 255 octets. The root itself is made with the first directory in it.
-/

namespace Intake.Store

/-- The components of a path below the root. -/
abbrev Path := List String

namespace Disk

inductive Op
  /-- Makes a directory and those above it, where they are missing. -/
  | makeDirectories (p : Path)
  /-- Writes a file, new or over an old one. -/
  | write (p : Path) (content : Bytes)
  | rename (source target : Path)
  | read (p : Path)
  | removeFile (p : Path)
  | removeDirectory (p : Path)
  deriving Repr, DecidableEq

abbrev Op.Reply : Op → Type
  | read _ => Except DeviceFault Bytes
  | _ => Except DeviceFault Unit

abbrev Work := Script Op Op.Reply

def run (op : Op) : Work op.Reply := Script.request op

end Disk

inductive Node
  | file (content : Bytes)
  | directory
  deriving Repr, DecidableEq

/-- The files and directories below a root, each path at most once. -/
structure Volume where
  hasRoot : Bool
  nodes : List (Path × Node)
  deriving Repr, DecidableEq

namespace Volume

def unmade : Volume := ⟨false, []⟩

def empty : Volume := ⟨true, []⟩

/-- What a path leads to; the root is a directory. -/
def node? (v : Volume) : Path → Option Node
  | [] => if v.hasRoot then some .directory else none
  | p => v.nodes.lookup p

def erase (v : Volume) (p : Path) : Volume := { v with nodes := v.nodes.filter fun e => e.1 ≠ p }

def put (v : Volume) (p : Path) (n : Node) : Volume :=
  { v with nodes := (p, n) :: (v.erase p).nodes }

/-- The longest component, in octets. -/
def nameLimit : Nat := 255

def checkName (name : String) : Except Errno Unit :=
  if nameLimit < name.utf8ByteSize then .error .nameTooLong else .ok ()

/-- Follows `rest` from the directory `at_`: everything but the last component has to be a
directory. -/
def follow (v : Volume) (at_ : Path) : Path → Except Errno Unit
  | [] => .ok ()
  | [name] => checkName name
  | name :: rest => do
    checkName name
    match v.node? (at_ ++ [name]) with
    | none => .error .notFound
    | some (.file _) => .error .notDirectory
    | some .directory => v.follow (at_ ++ [name]) rest

/-- What a path leads to, once it has been followed. -/
def resolve (v : Volume) (p : Path) : Except Errno (Option Node) :=
  if v.hasRoot then (v.follow [] p).map fun () => v.node? p else .error .notFound

def hasChildren (v : Volume) (p : Path) : Bool :=
  v.nodes.any fun e => e.1.length = p.length + 1 && e.1.take p.length = p

/-- Makes the directory `at_` followed by each component of `rest` in turn. -/
def makeBelow (v : Volume) (at_ : Path) : Path → Except Errno Unit × Volume
  | [] => (.ok (), v)
  | name :: rest =>
    match checkName name, v.node? (at_ ++ [name]) with
    | .error e, _ => (.error e, v)
    | .ok (), some .directory => v.makeBelow (at_ ++ [name]) rest
    | .ok (), some (.file _) => (.error (if rest.isEmpty then .exists else .notDirectory), v)
    | .ok (), none => (v.put (at_ ++ [name]) .directory).makeBelow (at_ ++ [name]) rest

/-- Makes a directory and those above it; what has been made stays when the next cannot be. -/
def makeDirectories (v : Volume) (p : Path) : Except Errno Unit × Volume :=
  { v with hasRoot := true }.makeBelow [] p

def write (v : Volume) (p : Path) (content : Bytes) : Except Errno Volume := do
  match ← v.resolve p with
  | some .directory => .error .isDirectory
  | _ => .ok (v.put p (.file content))

/-- Moves a file to where no directory is. -/
def rename (v : Volume) (source target : Path) : Except Errno Volume := do
  match ← v.resolve source with
  | none => .error .notFound
  | some .directory => .error .isDirectory
  | some (.file content) =>
    match ← v.resolve target with
    | some .directory => .error .isDirectory
    | _ => .ok ((v.erase source).put target (.file content))

def read (v : Volume) (p : Path) : Except Errno Bytes := do
  match ← v.resolve p with
  | none => .error .notFound
  | some .directory => .error .isDirectory
  | some (.file content) => .ok content

def removeFile (v : Volume) (p : Path) : Except Errno Volume := do
  match ← v.resolve p with
  | none => .error .notFound
  | some .directory => .error .isDirectory
  | some (.file _) => .ok (v.erase p)

def removeDirectory (v : Volume) (p : Path) : Except Errno Volume := do
  match ← v.resolve p with
  | none => .error .notFound
  | some (.file _) => .error .notDirectory
  | some .directory => if v.hasChildren p then .error .notEmpty else .ok (v.erase p)

/-- The answer to a primitive that changes the volume, and the volume after it. -/
def answer (v : Volume) (r : Except Errno Volume) : Except DeviceFault Unit × Volume :=
  match r with
  | .ok v => (.ok (), v)
  | .error e => (.error (.os e), v)

def handle : (op : Disk.Op) → Volume → op.Reply × Volume
  | .makeDirectories p, v => let (r, v) := v.makeDirectories p; (r.mapError .os, v)
  | .write p content, v => v.answer (v.write p content)
  | .rename source target, v => v.answer (v.rename source target)
  | .read p, v => ((v.read p).mapError .os, v)
  | .removeFile p, v => v.answer (v.removeFile p)
  | .removeDirectory p, v => v.answer (v.removeDirectory p)

end Volume
end Intake.Store
