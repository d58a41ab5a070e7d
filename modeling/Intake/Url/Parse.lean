import Intake.Url.Basic
import Intake.Text.Blank

/-!
# Reading addresses

An address is read on its own or relative to another one. Control characters and spaces around it
and tabs and line ends within it do not count. Within the web's own schemes a backslash is a slash,
dots as segments are resolved, and what may not stand in a part is percent-encoded.
-/

namespace Intake.Url

/-- The characters of an address that count. -/
def relevant (s : String) : List Char :=
  let isOuter (c : Char) : Bool := c.toNat ≤ 0x20
  let cs := s.toList.dropWhile isOuter
  let cs := (cs.reverse.dropWhile isOuter).reverse
  cs.filter fun c => c ≠ '\t' ∧ c ≠ '\n' ∧ c ≠ '\r'

def isSchemeChar (c : Char) : Bool := c.isAlphanum || c = '+' || c = '-' || c = '.'

/-- The scheme in front of a colon, in lower case, and what follows. -/
def splitScheme : List Char → Option (String × List Char)
  | [] => none
  | c :: cs =>
    if c.isAlpha then
      match cs.dropWhile isSchemeChar with
      | ':' :: rest => some (Text.lower (String.ofList (c :: cs.takeWhile isSchemeChar)), rest)
      | _ => none
    else none

/-- A slash, or a backslash that counts as one. -/
def isSlash (special : Bool) (c : Char) : Bool := c = '/' || (special && c = '\\')

/-- The end of the part before a query or fragment. -/
def isTailMark (c : Char) : Bool := c = '?' || c = '#'

/-! ## Query and fragment -/

/-- Query and fragment of a tail that starts with a mark or is empty. -/
def tail (special : Bool) (cs : List Char) : Option String × Option String :=
  let escapes := if special then Text.Percent.inWebQuery else Text.Percent.inQuery
  let fragment (cs : List Char) : Option String :=
    match cs with
    | '#' :: f => some (Text.Percent.encode Text.Percent.inFragment f)
    | _ => none
  match cs with
  | '?' :: q =>
    (some (Text.Percent.encode escapes (q.takeWhile (· ≠ '#'))), fragment (q.dropWhile (· ≠ '#')))
  | cs => (none, fragment cs)

def splitTail (cs : List Char) : List Char × List Char :=
  (cs.takeWhile fun c => !isTailMark c, cs.dropWhile fun c => !isTailMark c)

/-! ## Paths -/

def isSingleDot (s : String) : Bool := [".", "%2e"].contains (Text.lower s)

def isDoubleDot (s : String) : Bool := ["..", ".%2e", "%2e.", "%2e%2e"].contains (Text.lower s)

/-- The segments between slashes; there is at least one. -/
def splitSegments (special : Bool) : List Char → List (List Char)
  | [] => [[]]
  | c :: cs =>
    match splitSegments special cs with
    | [] => [[c]]
    | s :: ss => if isSlash special c then [] :: s :: ss else (c :: s) :: ss

/-- Appends segments to a path, resolving dots; a dot at the end leaves an empty segment. -/
def walk (path : List String) : List String → List String
  | [] => path
  | [s] =>
    if isDoubleDot s then path.dropLast ++ [""]
    else if isSingleDot s then path ++ [""]
    else path ++ [s]
  | s :: rest =>
    if isDoubleDot s then walk path.dropLast rest
    else if isSingleDot s then walk path rest
    else walk (path ++ [s]) rest

def readPath (special : Bool) (base : List String) (cs : List Char) : Path :=
  .segments (walk base ((splitSegments special cs).map (Text.Percent.encode Text.Percent.inPath)))

def pathAfterHost (special : Bool) (cs : List Char) : Path :=
  match cs with
  | [] => if special then .segments [""] else .segments []
  | c :: rest => if isSlash special c then readPath special [] rest else readPath special [] (c :: rest)

/-! ## Hosts and ports -/

/-- The part of an address that names user, host and port. -/
def splitAuthority (special : Bool) (cs : List Char) : List Char × List Char :=
  let inside (c : Char) : Bool := !(isSlash special c || isTailMark c)
  (cs.takeWhile inside, cs.dropWhile inside)

/-- Splits at the last at-sign; the first part is absent where there is none. -/
def splitUser (cs : List Char) : Option (List Char) × List Char :=
  match (cs.reverse.dropWhile (· ≠ '@')) with
  | [] => (none, cs)
  | _ :: user => (some user.reverse, cs.drop (user.length + 1))

/-- User and password, encoded. -/
def readUser (cs : List Char) : String × String :=
  let encode := Text.Percent.encode Text.Percent.inUser
  (encode (cs.takeWhile (· ≠ ':')), encode ((cs.dropWhile (· ≠ ':')).drop 1))

/-- Splits before the colon of a port; a colon between brackets does not count. -/
def splitPort (inBrackets : Bool) : List Char → List Char × List Char
  | [] => ([], [])
  | c :: cs =>
    if c = ':' && !inBrackets then ([], c :: cs)
    else
      let inBrackets := if c = '[' then true else if c = ']' then false else inBrackets
      let (h, p) := splitPort inBrackets cs
      (c :: h, p)

/-- Reads a port after its colon; the standard port of a scheme is not kept. -/
def readPort (scheme : String) (cs : List Char) : Except Fault (Option Nat) :=
  match cs with
  | [] => .ok none
  | _ =>
    if !cs.all Char.isDigit then .error .invalidPort
    else
      let n := Net.ofDigits 10 (cs.filterMap (Net.digitIn? 10))
      if 65535 < n then .error .invalidPort
      else .ok (if standardPort? scheme = some n then none else some n)

def readAuthority (scheme : String) (cs : List Char) : Except Fault Url := do
  let special := isSpecial scheme
  let (auth, rest) := splitAuthority special cs
  let (user, hostPort) := splitUser auth
  let (hostPart, portPart) := splitPort false hostPort
  let (name, password) := (user.map readUser).getD ("", "")
  if hostPart.isEmpty ∧ (special ∨ user.isSome ∨ !portPart.isEmpty) then .error .emptyHost
  else
    let host ← if special then Host.parseSpecial hostPart else Host.parseOpaque hostPart
    let port ← readPort scheme (portPart.drop 1)
    let (pathPart, tailPart) := splitTail rest
    let (query, fragment) := tail special tailPart
    return {
      scheme, user := name, password, host := some host, port
      path := pathAfterHost special pathPart, query, fragment }

/-- The host of a file: none, or a name; the local host is none. -/
def readFileHost (cs : List Char) : Except Fault Host :=
  if cs.isEmpty then .ok (.name "")
  else do
    match ← Host.parseSpecial cs with
    | .name "localhost" => return .name ""
    | h => return h

/-- Reads the address of a file after its scheme; `base` is another file. -/
def readFile (base : Option Url) (cs : List Char) : Except Fault Url := do
  let make (host : Host) (path : Path) (tailPart : List Char) : Url :=
    let (query, fragment) := tail true tailPart
    { scheme := "file", user := "", password := "", host := some host, port := none
      path, query, fragment }
  let baseHost := (base.bind (·.host)).getD (.name "")
  let (pathPart, tailPart) := splitTail cs
  match pathPart with
  | a :: b :: rest =>
    if isSlash true a && isSlash true b then
      let (hostPart, rest) := splitAuthority true (rest ++ tailPart)
      let host ← readFileHost hostPart
      let (pathPart, tailPart) := splitTail rest
      return make host (pathAfterHost true pathPart) tailPart
    else if isSlash true a then return make baseHost (readPath true [] (b :: rest)) tailPart
    else return make baseHost (readPath true (above base) pathPart) tailPart
  | [a] =>
    if isSlash true a then return make baseHost (readPath true [] []) tailPart
    else return make baseHost (readPath true (above base) pathPart) tailPart
  | [] =>
    match base with
    | none => return make baseHost (.segments [""]) tailPart
    | some b =>
      let u := make baseHost b.path tailPart
      return if u.query.isNone then { u with query := b.query } else u
where
  /-- The directory of a base. -/
  above (base : Option Url) : List String :=
    match base.map Url.path with
    | some (.segments l) => l.dropLast
    | _ => []

/-! ## Whole addresses -/

/-- Reads an address relative to one of its own scheme. -/
def readRelative (base : Url) (cs : List Char) : Except Fault Url :=
  let special := isSpecial base.scheme
  let (pathPart, tailPart) := splitTail cs
  let (query, fragment) := tail special tailPart
  match pathPart with
  | [] =>
    .ok { base with query := if query.isSome then query else base.query, fragment }
  | a :: rest =>
    if isSlash special a then
      match rest with
      | b :: _ =>
        if isSlash special b then
          let isMark := isSlash special
          readAuthority base.scheme (if special then cs.dropWhile isMark else cs.drop 2)
        else .ok { base with path := readPath special [] rest, query, fragment }
      | [] => .ok { base with path := readPath special [] [], query, fragment }
    else
      let directory := match base.path with
        | .segments l => l.dropLast
        | .undivided _ => []
      .ok { base with path := readPath special directory pathPart, query, fragment }

/-- Reads an address of a foreign scheme after its colon. -/
def readForeign (scheme : String) (cs : List Char) : Except Fault Url :=
  match cs with
  | '/' :: '/' :: rest => readAuthority scheme rest
  | _ =>
    let (pathPart, tailPart) := splitTail cs
    let (query, fragment) := tail false tailPart
    let path := match pathPart with
      | '/' :: rest => readPath false [] rest
      | p => .undivided (Text.Percent.encode Text.Percent.isControl p)
    .ok {
      scheme, user := "", password := "", host := none, port := none, path, query, fragment }

def readWithScheme (base : Option Url) (scheme : String) (cs : List Char) : Except Fault Url :=
  if scheme = "file" then readFile (base.filter fun b => b.scheme = "file") cs
  else if isWebScheme scheme then
    let slashes := cs.takeWhile (isSlash true)
    match base with
    | some b =>
      if slashes.length < 2 ∧ b.scheme = scheme then readRelative b cs
      else readAuthority scheme (cs.drop slashes.length)
    | none => readAuthority scheme (cs.drop slashes.length)
  else readForeign scheme cs

/-- Reads an address, relative to `base` where it has no scheme of its own. -/
def parseWith (base : Option Url) (s : String) : Except Fault Url :=
  let cs := relevant s
  match splitScheme cs with
  | some (scheme, rest) => readWithScheme base scheme rest
  | none =>
    match base with
    | none => .error .noBase
    | some b =>
      match b.path, cs with
      | .undivided _, '#' :: _ => .ok { b with fragment := (tail false cs).2 }
      | .undivided _, _ => .error .opaqueBase
      | .segments _, _ => if b.scheme = "file" then readFile (some b) cs else readRelative b cs

def parse (s : String) : Except Fault Url := parseWith none s

def join (base : Url) (s : String) : Except Fault Url := parseWith (some base) s

end Intake.Url
