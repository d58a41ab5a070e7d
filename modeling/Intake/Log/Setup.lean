import Intake.Log.Event
import Intake.Build
import Intake.Text.Blank

/-!
# Setting up the log

How a process introduces itself, and which of its events are shown in which form.
-/

namespace Intake.Log

inductive Format
  | json
  | text
  deriving Repr, DecidableEq

namespace Format

def name : Format → String
  | json => "json"
  | text => "text"

/-- The form that a variable asks for; without a clear wish it is JSON. -/
def ofText (raw : Option String) : Format :=
  match raw with
  | some s => if Text.lower (Text.trim s) = "text" then text else json
  | none => json

end Format

/-- The identity of a run of `service` as process `pid`, begun at `startedAt` milliseconds since
1970. -/
def Identity.ofRun (service mode : String) (vars : String → Option String) (pid startedAt : Nat) :
    Identity where
  service := service
  mode := mode
  environment := (vars "APP_ENV" <|> vars "ENVIRONMENT").getD "dev"
  runId := service ++ "-" ++ Text.decimal pid ++ "-" ++ Text.decimal startedAt
  buildVersion := Build.version
  buildCommit := Build.shortCommit
  format := (Format.ofText (vars "LOG_FORMAT")).name

end Intake.Log
