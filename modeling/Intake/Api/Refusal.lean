import Intake.Service.Call
import Intake.Http.Status

/-!
# Refused requests

Why a request is refused, the words for it, and the status that goes with them.
-/

namespace Intake.Api

inductive Refusal
  /-- The form breaks off between two parts. -/
  | brokenForm
  /-- The form breaks off within a part. -/
  | brokenPart
  /-- The form breaks off within a declared size. -/
  | brokenSize (part : String)
  /-- A declared size is no number of octets. -/
  | invalidSize (part : String)
  | missingPart (part : String)
  | unknownKind (raw : String)
  | service (e : Service.Fault)
  deriving Repr, DecidableEq

namespace Refusal

def brokenMessage : String := "Error parsing `multipart/form-data` request"

def message : Refusal → String
  | brokenForm => "malformed multipart body: " ++ brokenMessage
  | brokenPart => "could not read part: " ++ brokenMessage
  | brokenSize part => "could not read `" ++ part ++ "`: " ++ brokenMessage
  | invalidSize part => "`" ++ part ++ "` must be a byte count"
  | missingPart part => "missing `" ++ part ++ "` part"
  | unknownKind raw => "unknown artifact type " ++ Text.quote raw
  | service e => e.message

/-- The status of the answer to a request that the service refuses. -/
def statusOf (e : Service.Fault) : Http.Status :=
  if e.isInvalidRequest then ⟨400⟩
  else match e with
    | .notFound .. => ⟨404⟩
    | .submission _ => ⟨502⟩
    | .queue _ => ⟨503⟩
    | .storage _ => ⟨500⟩

def status : Refusal → Http.Status
  | service e => statusOf e
  | _ => ⟨400⟩

end Refusal
end Intake.Api
