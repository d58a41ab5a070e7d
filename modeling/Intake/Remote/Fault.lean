import Intake.Http.Status
import Intake.Text.Quoted

/-!
# Failures of the services called

What can go wrong in a call to the transform or the index service, and what a failure means for the
work that needed the call: try again later, give up, or nothing left to do.
-/

namespace Intake

/-- Why no complete answer to a request arrived. The address is the one that the words show. -/
inductive Http.TransportFault
  /-- The connection was closed before an answer began. -/
  | sending (address : String)
  /-- The request cannot be made: its address cannot be read, or is not one for this protocol. -/
  | builder (address : Option String)
  | redirects (address : String)
  /-- The answer's body ended early. -/
  | body
  deriving Repr, DecidableEq

def Http.TransportFault.message : Http.TransportFault → String
  | .sending address => "error sending request for url (" ++ address ++ ")"
  | .builder none => "builder error"
  | .builder (some address) => "builder error for url (" ++ address ++ ")"
  | .redirects address => "error following redirect for url (" ++ address ++ ")"
  | .body => "error decoding response body"

namespace Remote

inductive Fault
  | transport (e : Http.TransportFault)
  | unexpectedStatus (resource : String) (status : Nat)
  | missingLocation (dataset : String)
  | invalidAddress (address reason : String)
  deriving Repr, DecidableEq

def Fault.message : Fault → String
  | .transport e => "request error: " ++ e.message
  | .unexpectedStatus resource status =>
    "unexpected status " ++ Text.decimal status ++ " from " ++ resource
  | .missingLocation dataset =>
    "transform submission response for " ++ dataset ++ " carried no Location header"
  | .invalidAddress address reason => "invalid URL " ++ Text.quote address ++ ": " ++ reason

/-- What a call amounts to for the work that needed it. -/
inductive Outcome
  | success
  /-- The target is gone; nothing is left to do. -/
  | notFound
  /-- The request is malformed; to repeat it cannot help. -/
  | badRequest (reason : String)
  /-- Another attempt may succeed. -/
  | transient (reason : String)
  deriving Repr, DecidableEq

namespace Outcome

/-- What a status says of a request to a resource. -/
def ofStatus (s : Http.Status) (resource : String) : Outcome :=
  if s.isSuccess then success
  else if s.code = 404 then notFound
  else if s.code = 400 then badRequest (resource ++ " rejected the request as malformed")
  else transient ("unexpected status " ++ s.text ++ " from " ++ resource)

def ofFault (e : Fault) : Outcome :=
  match e with
  | .unexpectedStatus resource status =>
    if Http.Status.isValidCode status then ofStatus ⟨status⟩ resource else transient e.message
  | .invalidAddress .. => badRequest e.message
  | .transport _ | .missingLocation _ => transient e.message

end Outcome
end Remote
end Intake
