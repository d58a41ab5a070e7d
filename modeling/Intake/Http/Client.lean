import Intake.Http.Message
import Intake.Remote.Fault
import Intake.Script

/-!
# Sending requests

A request is sent, and where the answer redirects it, sent again to where it points, up to ten times.
An answer of the kinds 301 and 302 makes a get request of a post, one of kind 303 of every request,
and then nothing is sent along; kinds 307 and 308 repeat the request as it is.
-/

namespace Intake.Http

/-- One request and its answer; there is none where the connection is closed. -/
abbrev Wire := Script Request (fun _ => Option Response)

def redirectLimit : Nat := 10

/-- The authorization that user and password of an address ask for. -/
def authorizationOf (u : Url) : Option String :=
  if u.hasCredentials then
    let plain (s : String) : Bytes := Text.Percent.decode (Bytes.ofString s)
    some ("Basic " ++ Text.Base64.encode (plain u.user ++ 0x3A :: plain u.password))
  else none

def isSendable (u : Url) : Bool := u.scheme = "http" && u.hasHost

def isReferenceChar (c : Char) : Bool :=
  c.isAlphanum || "-._~:/?#[]@!$&'()*+,;=%".toList.contains c

/-- Whether percent signs are followed by two digits. -/
def hasWholeEscapes : List Char → Bool
  | [] => true
  | '%' :: r =>
    match r with
    | a :: b :: r => (Net.digitIn? 16 a).isSome && (Net.digitIn? 16 b).isSome && hasWholeEscapes r
    | _ => false
  | _ :: r => hasWholeEscapes r

/-- Whether a text can be the target of a redirection. -/
def isReference (s : String) : Bool :=
  let cs := s.toList
  cs.all isReferenceChar && hasWholeEscapes cs && cs.count '#' ≤ 1

def redirectTarget? (r : Response) (source : Url) : Option Url :=
  if [301, 302, 303, 307, 308].contains r.status.code then do
    let location ← r.headers.value? "location" >>= Text.Utf8.decode?
    if isReference location then (source.join location).toOption else none
  else none

def redirected (r : Request) (status : Status) (target : Url) : Request :=
  let isSameHost := target.host = r.url.host ∧ target.port = r.url.port
  let becomesGet := status.code = 303 ∨ (r.method = .post ∧ (status.code = 301 ∨ status.code = 302))
  { method := if becomesGet then .get else r.method
    url := target.withoutCredentials.withoutFragment
    body := if becomesGet then none else r.body
    authorization := if isSameHost then r.authorization else none }

/-- Sends a request that has already been redirected, `left` more times at most. Failures to send
name the address `first` that was asked for. -/
def follow (first : String) : Nat → Request → Wire (Except TransportFault Response)
  | left, r => do
    match ← Script.request r with
    | none => return .error (.sending first)
    | some answer =>
      match redirectTarget? answer r.url with
      | none => return .ok answer
      | some target =>
        match left with
        | 0 => return .error (.redirects r.url.text)
        | left + 1 =>
          if isSendable target then follow first left (redirected r answer.status target)
          else return .error (.builder (some target.text))

def send (method : Method) (address : String) (body : Option Json.Value) :
    Wire (Except TransportFault Response) :=
  match Url.parse address with
  | .error _ => return .error (.builder none)
  | .ok url =>
    if isSendable url then
      follow url.withoutCredentials.text redirectLimit
        ⟨method, url.withoutCredentials.withoutFragment, body, authorizationOf url⟩
    else return .error (.builder (some (if url.hasHost then url.withoutCredentials else url).text))

end Intake.Http
