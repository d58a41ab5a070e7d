import Intake.Text.Blank
import Intake.Bytes

/-!
# Files of variables

A file of variables holds one assignment a line. A value may be quoted, may use escapes outside
single quotes, and may name other variables, whose values then stand in their place. A file is read
up to its first malformed line, and a variable that already has a value keeps it.
-/

namespace Intake.Launch

abbrev Environment := List (String × String)

def Environment.value? (env : Environment) (name : String) : Option String := env.lookup name

namespace EnvFile

/-- What the reader of a value expects. -/
inductive Mode
  | plain
  /-- Between single quotes. -/
  | quoted
  /-- After a backslash. -/
  | escape
  /-- In a name after a dollar sign, last character first. -/
  | name (chars : List Char)
  /-- In a name between braces, last character first. -/
  | braced (chars : List Char)
  /-- After the value, where only blanks may follow. -/
  | ended
  | comment
  deriving Repr, DecidableEq

structure Reading where
  mode : Mode := .plain
  /-- Whether it goes on between double quotes. -/
  isInQuotes : Bool := false
  /-- The characters, last first. -/
  output : List Char := []
  deriving Repr, DecidableEq

namespace Reading

def push (r : Reading) (c : Char) : Reading := { r with mode := .plain, output := c :: r.output }

/-- Adds the value of a variable; one without a value adds nothing. -/
def substitute (env : Environment) (r : Reading) (chars : List Char) : Reading :=
  let value := (env.value? (String.ofList chars.reverse)).getD ""
  { r with mode := .plain, output := value.toList.reverse ++ r.output }

/-- Reads a character where nothing special is expected. -/
def plainStep (r : Reading) (c : Char) : Reading :=
  if c = '$' then { r with mode := .name [] }
  else if c = '\\' then { r with mode := .escape }
  else if r.isInQuotes then
    if c = '"' then { r with isInQuotes := false } else r.push c
  else if c = '\x27' then { r with mode := .quoted }
  else if c = '"' then { r with isInQuotes := true }
  else if c = ' ' ∨ c = '\t' then { r with mode := .ended }
  else r.push c

def step (env : Environment) (r : Reading) (c : Char) : Option Reading :=
  match r.mode with
  | .plain => some (r.plainStep c)
  | .quoted =>
    some (if c = '\x27' then { r with mode := .plain } else { r with output := c :: r.output })
  | .escape =>
    if c = 'n' then some (r.push '\n')
    else if "\\\x27\"$ ".toList.contains c then some (r.push c)
    else none
  | .name chars =>
    if c.isAlphanum then some { r with mode := .name (c :: chars) }
    else if c = '\x7b' && chars.isEmpty then some { r with mode := .braced [] }
    else
      let r := substitute env r chars
      some (if c = '$' then { r with mode := .name [] } else r.push c)
  | .braced chars =>
    some (if c = '\x7d' then substitute env r chars else { r with mode := .braced (c :: chars) })
  | .ended =>
    if c = ' ' ∨ c = '\t' then some r
    else if c = '#' then some { r with mode := .comment }
    else none
  | .comment => some r

/-- The value, if it ends here. -/
def finish (env : Environment) (r : Reading) : Option String :=
  if r.isInQuotes then none
  else match r.mode with
    | .quoted | .braced _ => none
    | .name chars => some (String.ofList (substitute env r chars).output.reverse)
    | _ => some (String.ofList r.output.reverse)

end Reading

def readValue (env : Environment) (cs : List Char) : Option String :=
  (cs.foldlM (Reading.step env) {}).bind (Reading.finish env)

/-- A name at the beginning of a text, and what follows it and the blanks after it. -/
def readName (cs : List Char) : Option (String × List Char) :=
  let isNameChar (c : Char) : Bool := c.isAlphanum || c = '_' || c = '.'
  match cs with
  | c :: _ =>
    if c.isAlpha || c = '_' then
      some (String.ofList (cs.takeWhile isNameChar),
        (cs.dropWhile isNameChar).dropWhile Text.isBlank)
    else none
  | [] => none

def readAssigned (env : Environment) : List Char → Option String
  | '=' :: cs =>
    match cs.dropWhile Text.isBlank with
    | [] => some ""
    | '#' :: _ => some ""
    | cs => readValue env cs
  | _ => none

inductive Line
  | empty
  | assignment (name value : String)
  | malformed
  deriving Repr, DecidableEq

def Line.ofParts (name : String) (value : Option String) : Line :=
  match value with
  | some v => .assignment name v
  | none => .malformed

/-- Reads a line. A word that marks a variable for export may stand before its name. -/
def readLine (env : Environment) (line : List Char) : Line :=
  match (Text.dropEnd Text.isBlank line).dropWhile Text.isBlank with
  | [] => .empty
  | '#' :: _ => .empty
  | cs =>
    match readName cs with
    | none => .malformed
    | some ("export", r) =>
      match r, readName r with
      | '=' :: _, _ => .ofParts "export" (readAssigned env r)
      | _, some (name, r) => .ofParts name (readAssigned env r)
      | _, none => .malformed
    | some (name, r) => .ofParts name (readAssigned env r)

def lines : List Char → List (List Char)
  | [] => []
  | c :: cs =>
    if c = '\n' then [] :: lines cs
    else match lines cs with
      | [] => [[c]]
      | l :: ls => (c :: l) :: ls

def loadLines (env : Environment) : List (List Char) → Environment
  | [] => env
  | l :: ls =>
    match readLine env l with
    | .empty => loadLines env ls
    | .assignment name value =>
      loadLines (if (env.value? name).isSome then env else env ++ [(name, value)]) ls
    | .malformed => env

def load (env : Environment) (text : String) : Environment := loadLines env (lines text.toList)

end EnvFile
end Intake.Launch
