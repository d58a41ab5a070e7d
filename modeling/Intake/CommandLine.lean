import Intake.Build
import Intake.Settings

/-!
# The command line

Three options may override settings. An option's value follows it as the next argument or after an
equals sign. A value given after an equals sign is checked at once; one that is an argument of its
own is checked when the next option is met or the line ends, so that an unknown argument behind it
is reported first.
-/

namespace Intake.CommandLine

inductive Choice
  | listenAddress
  | storageDirectory
  | poolSize
  deriving Repr, DecidableEq

def options : List (String × Choice) :=
  [("listen-addr", .listenAddress), ("storage-dir", .storageDirectory), ("pool-size", .poolSize)]

structure Overrides where
  listenAddress : Option Net.SocketAddress := none
  storageDirectory : Option String := none
  poolSize : Option Nat := none
  deriving Repr, DecidableEq

/-- Why the program does not go on after reading its command line. -/
inductive Stop
  | unknownArgument
  /-- A value is missing or empty. -/
  | invalidValue
  /-- A value cannot be read. -/
  | valueValidation
  /-- An option is given twice. -/
  | argumentConflict
  /-- A value is given to an option that takes none. -/
  | tooManyValues
  | displayHelp
  | displayVersion
  deriving Repr, DecidableEq

def Stop.name : Stop → String
  | .unknownArgument => "UnknownArgument"
  | .invalidValue => "InvalidValue"
  | .valueValidation => "ValueValidation"
  | .argumentConflict => "ArgumentConflict"
  | .tooManyValues => "TooManyValues"
  | .displayHelp => "DisplayHelp"
  | .displayVersion => "DisplayVersion"

def help : List String :=
  ["Dataset ingestion service with transform-status polling", "",
    "Usage: dataset_ingest [OPTIONS]", "",
    "Options:",
    "      --listen-addr <LISTEN_ADDR>  Address for the HTTP API (overrides LISTEN_ADDR)",
    "      --storage-dir <STORAGE_DIR>  Filesystem artifact store root (overrides STORAGE_DIR)",
    "      --pool-size <POOL_SIZE>      Number of concurrent poll workers (overrides POOL_SIZE)",
    "  -h, --help                       Print help",
    "  -V, --version                    Print version"]

/-- What a stop has to say to someone who asked for it. -/
def Stop.output : Stop → List String
  | .displayHelp => help
  | .displayVersion => ["dataset_ingest " ++ Build.versionWithCommit]
  | _ => []

def Stop.exitCode : Stop → Nat
  | .displayHelp | .displayVersion => 0
  | _ => 2

def Overrides.has (o : Overrides) : Choice → Bool
  | .listenAddress => o.listenAddress.isSome
  | .storageDirectory => o.storageDirectory.isSome
  | .poolSize => o.poolSize.isSome

def Overrides.set (o : Overrides) (opt : Choice) (value : String) : Except Stop Overrides :=
  if o.has opt then .error .argumentConflict
  else match opt with
    | .listenAddress =>
      match Net.SocketAddress.parse? value with
      | some a => .ok { o with listenAddress := some a }
      | none => .error .valueValidation
    | .storageDirectory =>
      if value.isEmpty then .error .invalidValue else .ok { o with storageDirectory := some value }
    | .poolSize =>
      match Text.readNat Settings.sizeBound value with
      | .ok n => .ok { o with poolSize := some n }
      | .error _ => .error .valueValidation

/-- What has been read of a command line. -/
structure Reading where
  overrides : Overrides := {}
  /-- The last option whose value is an argument of its own, and that argument. -/
  pending : Option (Choice × Option String) := none
  /-- Whether no option can follow. -/
  onlyValues : Bool := false

namespace Reading

/-- Takes the value of the pending option. -/
def settle (r : Reading) : Except Stop Overrides :=
  match r.pending with
  | none => .ok r.overrides
  | some (_, none) => .error .invalidValue
  | some (opt, some v) => r.overrides.set opt v

/-- Stops, unless the pending option stops first. -/
def stop (r : Reading) (s : Stop) : Except Stop Reading := do
  let _ ← r.settle
  .error s

/-- Reads an option given by its long name, with what follows an equals sign. -/
def long (r : Reading) (name : String) (value : Option String) : Except Stop Reading :=
  match options.lookup name, value with
  | some opt, some v => do
    let o ← r.settle
    return { r with overrides := ← o.set opt v, pending := none }
  | some opt, none => do return { r with overrides := ← r.settle, pending := some (opt, none) }
  | none, _ =>
    let flag := if name = "help" then some Stop.displayHelp
      else if name = "version" then some Stop.displayVersion else none
    match flag, value with
    | some s, none => r.stop s
    | some _, some _ => .error .tooManyValues
    | none, _ => .error .unknownArgument

def plain (r : Reading) (arg : String) : Except Stop Reading :=
  match r.pending with
  | some (opt, none) => .ok { r with pending := some (opt, some arg) }
  | _ => .error .unknownArgument

/-- The two parts of a text around the first equals sign. -/
def splitEquals (cs : List Char) : String × Option String :=
  match cs.dropWhile (· ≠ '=') with
  | [] => (String.ofList cs, none)
  | _ :: v => (String.ofList (cs.takeWhile (· ≠ '=')), some (String.ofList v))

def step (r : Reading) (arg : String) : Except Stop Reading :=
  if r.onlyValues then .error .unknownArgument
  else match arg.toList with
    | ['-', '-'] => .ok { r with onlyValues := true }
    | '-' :: '-' :: cs => let (name, value) := splitEquals cs; r.long name value
    | '-' :: 'h' :: _ => r.stop .displayHelp
    | '-' :: 'V' :: _ => r.stop .displayVersion
    | '-' :: _ :: _ => .error .unknownArgument
    | _ => r.plain arg

end Reading

def parse (args : List String) : Except Stop Overrides := do
  (← args.foldlM Reading.step {}).settle

/-- The settings with the options of the command line in force. -/
def Overrides.apply (o : Overrides) (s : Settings) : Settings :=
  { s with
    listenAddress := o.listenAddress.getD s.listenAddress
    storageDirectory := o.storageDirectory <|> s.storageDirectory
    poolSize := (o.poolSize.map (max · 1)).getD s.poolSize }

end Intake.CommandLine
