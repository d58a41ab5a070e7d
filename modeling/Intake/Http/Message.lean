import Intake.Http.MediaType
import Intake.Http.Status
import Intake.Json.Value
import Intake.Text.Base64
import Intake.Text.Charset
import Intake.Url.Parse

/-!
# Messages

Requests that are sent and the answers to them. The names of headers do not depend on case. The value
of a header is text only if it consists of tabs and visible ASCII characters.
-/

namespace Intake.Http

/-- Headers in the order in which they were sent. -/
abbrev Headers := List (String × Bytes)

namespace Headers

def isBlank (b : UInt8) : Bool := b = 0x20 || b = 0x09

/-- A value without the blanks around it. -/
def trim (v : Bytes) : Bytes := ((v.dropWhile isBlank).reverse.dropWhile isBlank).reverse

def value? (h : Headers) (name : String) : Option Bytes :=
  (h.find? fun e => Text.lower e.1 = name).map fun e => trim e.2

def isVisible (b : UInt8) : Bool := b = 0x09 || (0x20 ≤ b && b < 0x7F)

def asText? (v : Bytes) : Option String :=
  if v.all isVisible then some (String.ofList (v.map fun b => Char.ofNat b.toNat)) else none

def text? (h : Headers) (name : String) : Option String := h.value? name >>= asText?

/-! ## Reading headers -/

def lineEnd : Bytes := [0x0D, 0x0A]

def blockEnd : Bytes := lineEnd ++ lineEnd

/-- A line without the carriage return at its end; its octets are given last to first. -/
def closeLine : Bytes → Bytes
  | 0x0D :: line => line.reverse
  | line => line.reverse

/-- The lines of a block, up to the first empty one; `current` holds what has been read of a line,
last to first. -/
def lines (current : Bytes) : Bytes → List Bytes
  | [] => []
  | 0x0A :: r =>
    match closeLine current with
    | [] => []
    | line => line :: lines [] r
  | b :: r => lines (b :: current) r

def isControl (b : UInt8) : Bool := (b < 0x20 && b != 0x09) || b = 0x7F

def readLine (line : Bytes) : Option (String × Bytes) :=
  let isToken (b : UInt8) : Bool := b < 0x80 && isTokenChar (Char.ofNat b.toNat)
  let name := line.takeWhile isToken
  match line.dropWhile isToken with
  | 0x3A :: value =>
    if name.isEmpty || value.any isControl then none
    else some (String.ofList (name.map fun b => Char.ofNat b.toNat), value)
  | _ => none

def read (block : Bytes) : Option Headers := (lines [] block).mapM readLine

end Headers

inductive Method
  | get
  | post
  | put
  | delete
  deriving Repr, DecidableEq

def Method.name : Method → String
  | get => "GET"
  | post => "POST"
  | put => "PUT"
  | delete => "DELETE"

/-- A request; its address has neither user nor fragment. -/
structure Request where
  method : Method
  url : Url
  /-- What is sent as JSON. -/
  body : Option Json.Value
  authorization : Option String
  deriving Repr

structure Response where
  status : Status
  headers : Headers
  body : Bytes
  isComplete : Bool
  deriving Repr

namespace Response

def isBodyless (s : Status) : Bool := s.code = 204 || s.code = 304

/-- The octets of the body; nothing if it ended early. -/
def content? (r : Response) : Option Bytes :=
  if isBodyless r.status then some []
  else if r.isComplete then some r.body else none

def charset (r : Response) : Text.Charset :=
  let label := do (← MediaType.parse? (← r.headers.text? "content-type")).parameter? "charset"
  (label >>= Text.Charset.ofLabel?).getD .utf8

/-- The text of the body; nothing if it ended early. -/
def text? (r : Response) : Option String := r.content?.map r.charset.decode

end Response
end Intake.Http
