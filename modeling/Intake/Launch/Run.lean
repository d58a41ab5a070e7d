import Intake.CommandLine
import Intake.Launch.EnvFile
import Intake.Log.Filter
import Intake.Log.Setup
import Intake.Poll.Crew
import Intake.Remote.Gateway
import Intake.Service.Call

/-!
# A run of the program

From the command line to the exit code: the variables are completed from a file, the log is set up,
the settings are read, the service is opened and runs until a signal ends it. What can fail is
reported before the program gives up.
-/

namespace Intake.Launch

structure Start where
  /-- The arguments after the program's name. -/
  arguments : List String
  environment : Environment
  /-- The text of the file of variables. -/
  envFile : Option String
  pid : Nat
  /-- The time of day, in milliseconds since 1970. -/
  startedAt : Poll.Millis
  deriving Repr, DecidableEq

def Start.variables (s : Start) : Environment :=
  s.envFile.elim s.environment (EnvFile.load s.environment)

def Start.format (s : Start) : Log.Format := .ofText (s.variables.value? "LOG_FORMAT")

inductive ListenFault
  | inUse
  | notAvailable
  | other (text : String)
  deriving Repr, DecidableEq

/-- The words for an address that cannot be listened on. -/
def ListenFault.message : ListenFault → String
  | .inUse => "Address already in use (os error 98)"
  | .notAvailable => "Cannot assign requested address (os error 99)"
  | .other text => text

inductive Signal
  | terminate
  | interrupt
  deriving Repr, DecidableEq

def Signal.name : Signal → String
  | .terminate => "SIGTERM"
  | .interrupt => "SIGINT"

inductive Call
  | print (line : String)
  | report (e : Log.Event)
  /-- Listens on an address; answers with the one it got. -/
  | listen (address : Net.SocketAddress)
  /-- Serves requests and lets the crew work, until a signal arrives. -/
  | serve (settings : Settings) (transform index : Remote.Base) (crew : Poll.Crew)

abbrev Call.Reply : Call → Type
  | .print _ | .report _ => Unit
  | .listen _ => Except ListenFault Net.SocketAddress
  | .serve .. => Signal × Poll.Crew

/-- A run of the program, or a part of it. -/
abbrev Work := Script Call Call.Reply

def call (c : Call) : Work c.Reply := Script.request c

inductive Fault
  | address (e : Remote.Fault)
  | listen (e : ListenFault)
  deriving Repr, DecidableEq

def Fault.message : Fault → String
  | .address e => e.message
  | .listen e => e.message

def report (f : Log.Filter) (e : Log.Event) : Work Unit :=
  if f.shows e then call (.report e) else return

/-- Reports what a crew has to say that it has not said `before`. -/
def reportCrew (f : Log.Filter) (before after : Poll.Crew) : Work Unit :=
  (after.events.take (after.events.length - before.events.length)).reverse.forM (report f)

/-- Opens the service and runs it until a signal arrives. -/
def serve (f : Log.Filter) (s : Settings) (startedAt : Poll.Millis) : Work (Except Fault Unit) := do
  report f (.storeSelected s.storageDirectory)
  match Remote.Base.ofText s.transformApi, Remote.Base.ofText s.indexApi with
  | .error e, _ => return .error (.address e)
  | _, .error e => return .error (.address e)
  | .ok transform, .ok index =>
    match ← call (.listen s.listenAddress) with
    | .error e => return .error (.listen e)
    | .ok address =>
      report f (.serverListening address)
      let idle := Poll.Crew.new s.scheduler startedAt
      let crew := (idle.step .start).getD idle
      reportCrew f idle crew
      let (signal, crew) ← call (.serve s transform index crew)
      report f (.shutdownSignal signal.name)
      let stopped := (crew.run [.cancel, .stop]).getD crew
      reportCrew f crew stopped
      report f (.shutdownComplete stopped.line.length)
      return .ok ()

def runWith (overrides : CommandLine.Overrides) (env : Environment) (s : Start) : Work Nat := do
  let f := Log.Filter.ofText (env.value? "RUST_LOG")
  report f (.loggingInitialized (.ofRun "dataset_ingest" "serve" env.value? s.pid s.startedAt))
  match Settings.read env.value? with
  | .error e =>
    report f (.configInvalid (Service.report e.message []))
    return 1
  | .ok settings =>
    match ← serve f (overrides.apply settings) s.startedAt with
    | .ok () => return 0
    | .error e =>
      report f (.serviceFailed (Service.report e.message []))
      return 1

def run (s : Start) : Work Nat :=
  match CommandLine.parse s.arguments with
  | .ok overrides => runWith overrides s.variables s
  | .error stop => do
    stop.output.forM fun line => call (.print line)
    return stop.exitCode

end Intake.Launch
