import Intake.Url.Host

/-!
# Addresses

An address in its parts, as the WHATWG URL Standard has them, and its notation. Every part is kept
in the form in which it is written.
-/

namespace Intake

/-- What follows the host: segments, or text that is not divided. -/
inductive Url.Path
  | segments (l : List String)
  | undivided (s : String)
  deriving Repr, DecidableEq

structure Url where
  scheme : String
  user : String
  password : String
  /-- There is none where no two slashes are written. -/
  host : Option Url.Host
  port : Option Nat
  path : Url.Path
  query : Option String
  fragment : Option String
  deriving Repr, DecidableEq

namespace Url

def Path.text : Path → String
  | segments l => String.join (l.map ("/" ++ ·))
  | undivided s => s

def standardPort? (scheme : String) : Option Nat :=
  [("http", 80), ("ws", 80), ("https", 443), ("wss", 443), ("ftp", 21)].lookup scheme

/-- Whether a scheme is one of the web's own, apart from files. -/
def isWebScheme (scheme : String) : Bool := (standardPort? scheme).isSome

def isSpecial (scheme : String) : Bool := isWebScheme scheme || scheme = "file"

def hasCredentials (u : Url) : Bool := !u.user.isEmpty || !u.password.isEmpty

def withoutCredentials (u : Url) : Url := { u with user := "", password := "" }

def withoutFragment (u : Url) : Url := { u with fragment := none }

def credentials (u : Url) : String :=
  if u.hasCredentials then
    u.user ++ (if u.password.isEmpty then "" else ":" ++ u.password) ++ "@"
  else ""

def portText (u : Url) : String :=
  match u.port with
  | some p => ":" ++ Text.decimal p
  | none => ""

/-- What stands between scheme and path. A path that would look like a host is set apart. -/
def authority (u : Url) : String :=
  match u.host with
  | some h => "//" ++ u.credentials ++ h.text ++ u.portText
  | none =>
    match u.path with
    | .segments ("" :: _ :: _) => "/."
    | _ => ""

def text (u : Url) : String :=
  u.scheme ++ ":" ++ u.authority ++ u.path.text
    ++ (u.query.elim "" ("?" ++ ·)) ++ (u.fragment.elim "" ("#" ++ ·))

def hasHost (u : Url) : Bool :=
  match u.host with
  | some (.name "") => false
  | some _ => true
  | none => false

end Url
end Intake
