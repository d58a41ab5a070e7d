import Intake.Bytes
import Intake.Text.Blank

/-!
# Media types

A type and a subtype, followed by parameters. The type, the names of parameters and the charset do
not depend on case and are kept in lower case; everything else of the notation is kept as it is,
except that a list without parameters is dropped.
-/

namespace Intake.Http

def isTokenChar (c : Char) : Bool := c.isAlphanum || "!#$%&'*+-.^_`|~".toList.contains c

structure MediaType where
  type : String
  subtype : String
  parameters : List (String × String)
  /-- The notation. -/
  text : String
  deriving Repr, DecidableEq

namespace MediaType

def parameter? (m : MediaType) (name : String) : Option String := m.parameters.lookup name

/-- A parameter as it was read: its name, its value, and the notation up to the next one. -/
structure Read where
  name : String
  value : String
  text : List Char

def isQuotable (c : Char) : Bool := 31 < c.toNat && c.toNat ≠ 127

/-- The rest of a quoted value; at its beginning a quote does not end it. -/
def quotedRest (isFirst : Bool) : List Char → Option (List Char × List Char)
  | [] => none
  | c :: cs =>
    if c = '"' && !isFirst then some ([], cs)
    else if isQuotable c then (quotedRest false cs).map fun (v, r) => (c :: v, r)
    else none

/-- The value of a parameter in lower case where that is its meaning. -/
def canonical (name : String) (value : List Char) : List Char :=
  if name = "charset" then value.map Text.lowerChar else value

def readParameter (cs : List Char) : Option (Read × List Char) :=
  let nameChars := cs.takeWhile isTokenChar
  let name := Text.lower (String.ofList nameChars)
  if nameChars.isEmpty then none
  else match cs.dropWhile isTokenChar with
    | '=' :: '"' :: r => do
      let (value, r) ← quotedRest true r
      let blanks := r.takeWhile (· = ' ')
      let value := canonical name value
      let text := name.toList ++ '=' :: '"' :: value ++ '"' :: blanks
      match r.dropWhile (· = ' ') with
      | [] => some (⟨name, String.ofList value, text⟩, [])
      | ';' :: r => some (⟨name, String.ofList value, text ++ [';']⟩, r)
      | _ => none
    | '=' :: r =>
      let raw := r.takeWhile isTokenChar
      let value := canonical name raw
      let text := name.toList ++ '=' :: value
      match r.dropWhile isTokenChar with
      | [] => some (⟨name, String.ofList value, text⟩, [])
      | ';' :: r => if raw.isEmpty then none else some (⟨name, String.ofList value, text ++ [';']⟩, r)
      | _ => none
    | _ => none

def readParameters : Nat → List Char → Option (List Read × List Char)
  | 0, _ => some ([], [])
  | fuel + 1, cs =>
    let blanks := cs.takeWhile (· = ' ')
    match cs.dropWhile (· = ' ') with
    | [] => some ([], blanks)
    | c :: r => do
      let (p, rest) ← readParameter (c :: r)
      let (ps, last) ← readParameters fuel rest
      some ({ p with text := blanks ++ p.text } :: ps, last)

def beforeSuffix (cs : List Char) : List Char :=
  match cs.reverse.dropWhile (· ≠ '+') with
  | [] => cs
  | '+' :: r => if r.isEmpty then cs else r.reverse
  | _ => cs

def parse? (s : String) : Option MediaType :=
  let cs := s.toList
  let typeChars := (cs.takeWhile isTokenChar).map Text.lowerChar
  match cs.dropWhile isTokenChar with
  | '/' :: rest =>
    let subtypeChars := (rest.takeWhile isTokenChar).map Text.lowerChar
    let make (ps : List Read) (text : List Char) : MediaType :=
      ⟨String.ofList typeChars, String.ofList (beforeSuffix subtypeChars),
        ps.map (fun p => (p.name, p.value)), String.ofList text⟩
    let head := typeChars ++ '/' :: subtypeChars
    if typeChars.isEmpty then none
    else match rest.dropWhile isTokenChar with
      | [] => some (make [] head)
      | c :: r =>
        if (c = ';' ∨ c = ' ') ∧ !subtypeChars.isEmpty then do
          let (ps, last) ← readParameters r.length r
          if ps.isEmpty then some (make [] head)
          else some (make ps (head ++ c :: ps.flatMap (·.text) ++ last))
        else none
  | _ => none

end MediaType
end Intake.Http
