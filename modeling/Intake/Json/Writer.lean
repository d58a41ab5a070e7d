import Intake.Json.Value

/-!
# Writing JSON

The compact form: no blanks, members in order, and in texts only the quote, the backslash and the
control characters escaped.
-/

namespace Intake.Json

def fourDigits (n : Nat) : String :=
  let ds := Nat.toDigits 16 n
  String.ofList (List.replicate (4 - ds.length) '0' ++ ds)

def writeChar (c : Char) : String :=
  if c = '"' then "\\\""
  else if c = '\\' then "\\\\"
  else if c = '\n' then "\\n"
  else if c = '\r' then "\\r"
  else if c = '\t' then "\\t"
  else if c = '\x08' then "\\b"
  else if c = '\x0C' then "\\f"
  else if c.toNat < 0x20 then "\\u" ++ fourDigits c.toNat
  else String.singleton c

def writeText (s : String) : String := "\"" ++ String.join (s.toList.map writeChar) ++ "\""

def writeNumber : Number → String
  | .natural n => toString n
  | .negative n => "-" ++ toString n
  | .fraction s x => (if s then "-" else "") ++ x.text

mutual

def write : Value → String
  | .null => "null"
  | .boolean b => if b then "true" else "false"
  | .number n => writeNumber n
  | .text s => writeText s
  | .list items => "[" ++ writeItems items ++ "]"
  | .object members => "\x7b" ++ writeMembers members ++ "\x7d"

def writeItems : List Value → String
  | [] => ""
  | [v] => write v
  | v :: vs => write v ++ "," ++ writeItems vs

def writeMembers : List (String × Value) → String
  | [] => ""
  | [(n, v)] => writeText n ++ ":" ++ write v
  | (n, v) :: ms => writeText n ++ ":" ++ write v ++ "," ++ writeMembers ms

end

end Intake.Json
