import Intake.Net.SocketAddress
import Intake.Poll.Policy
import Intake.Text.Blank

/-!
# Settings of the service

Settings are read from named variables. Two addresses are required; every other setting has a
default. A number may have blanks around it and a leading plus sign, and most must not be zero. The
variables are looked at in a fixed order, and the first one that cannot be used is reported.
-/

namespace Intake

structure Settings where
  transformApi : String
  indexApi : String
  /-- The address under which other services read artifacts back. -/
  publicBase : String
  listenAddress : Net.SocketAddress
  /-- Where artifacts are kept; in memory if there is none. -/
  storageDirectory : Option String
  poolSize : Nat
  queueCapacity : Nat
  policy : Poll.Policy
  pollRate : Nat
  httpTimeout : Poll.Millis
  maxUploadBytes : Nat
  deadLetterCapacity : Nat
  deriving Repr, DecidableEq

namespace Settings

inductive Fault
  | missing (name : String)
  | invalid (name value reason : String)
  deriving Repr, DecidableEq

def Fault.message : Fault → String
  | .missing name => "Missing environment variable: " ++ name
  | .invalid name value reason =>
    "Invalid value for " ++ name ++ ": " ++ Text.quote value ++ " (" ++ reason ++ ")"

/-- The variables that settings are read from. -/
abbrev Lookup := String → Option String

/-- A variable that holds more than blanks. -/
def present (vars : Lookup) (name : String) : Option String :=
  (vars name).filter fun v => !Text.isAllBlank v

def required (vars : Lookup) (name : String) : Except Fault String :=
  match present vars name with
  | some v => .ok v
  | none => .error (.missing name)

def number (vars : Lookup) (name : String) (bound standard : Nat) : Except Fault Nat :=
  match vars name with
  | none => .ok standard
  | some raw =>
    match Text.readNat bound (Text.trim raw) with
    | .ok n => .ok n
    | .error e => .error (.invalid name raw e.message)

def positive (vars : Lookup) (name : String) (bound standard : Nat) : Except Fault Nat := do
  let n ← number vars name bound standard
  if n = 0 then .error (.invalid name "0" "must be greater than zero") else .ok n

/-- Counts of attempts and requests stay below this bound. -/
def countBound : Nat := UInt32.size

/-- Sizes and times stay below this bound. -/
def sizeBound : Nat := UInt64.size

def standardListenAddress : Net.SocketAddress := .v4 (.ofOctets 0 0 0 0) 3000

def address (vars : Lookup) (name : String) : Except Fault Net.SocketAddress :=
  match vars name with
  | none => .ok standardListenAddress
  | some raw =>
    match Net.SocketAddress.parse? (Text.trim raw) with
    | some a => .ok a
    | none => .error (.invalid name raw "invalid socket address syntax")

def stopRule (vars : Lookup) : Except Fault Poll.StopRule :=
  let raw := (vars "POLL_STOP_STRATEGY").getD "attempts"
  let chosen := Text.lower (Text.trim raw)
  if chosen = "attempts" then
    (positive vars "POLL_MAX_ATTEMPTS" countBound 12).map .attempts
  else if chosen = "elapsed" then
    (positive vars "POLL_MAX_ELAPSED_SECS" sizeBound 20).map fun s => .elapsed (s * 1000)
  else .error (.invalid "POLL_STOP_STRATEGY" raw "expected `attempts` or `elapsed`")

/-- How many polls a second may see unless something else is said. -/
def standardRate : Nat := 50

/-- A rate that is not zero; zero gives way to the standard. -/
def nonZeroRate (n : Nat) : Nat := if n = 0 then standardRate else n

def read (vars : Lookup) : Except Fault Settings := do
  let transformApi ← required vars "TRANSFORM_API_URL"
  let indexApi ← required vars "INDEX_API_URL"
  let listenAddress ← address vars "LISTEN_ADDR"
  let poolSize ← positive vars "POOL_SIZE" sizeBound 64
  let queueCapacity ← positive vars "QUEUE_CAPACITY" sizeBound Poll.standardCapacity
  let wait ← number vars "POLL_WAIT_INTERVAL_MS" sizeBound 5000
  let stop ← stopRule vars
  let pollRate ← positive vars "POLL_RATE_PER_SECOND" countBound standardRate
  let timeout ← positive vars "HTTP_TIMEOUT_SECS" sizeBound 30
  let maxUploadBytes ← positive vars "MAX_UPLOAD_BYTES" sizeBound (512 * 1024 * 1024)
  let deadLetterCapacity ← positive vars "DEAD_LETTER_CAPACITY" sizeBound 1000
  return {
    transformApi, indexApi
    publicBase := (vars "PUBLIC_BASE_URL").getD "http://localhost:3000"
    listenAddress
    storageDirectory := present vars "STORAGE_DIR"
    poolSize, queueCapacity
    policy := ⟨wait, stop⟩
    pollRate := nonZeroRate pollRate
    httpTimeout := timeout * 1000
    maxUploadBytes, deadLetterCapacity }

def scheduler (s : Settings) : Poll.Settings :=
  ⟨s.poolSize, s.queueCapacity, s.policy, s.deadLetterCapacity⟩

end Settings
end Intake
