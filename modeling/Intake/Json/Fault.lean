import Intake.Text.Quoted
import Intake.Decimal.Shortest

/-!
# What can be wrong with a JSON text

The first defect of a text in reading order, and the words for it. A defect of notation is met by
any reader; a defect of kind or of members depends on what the reader wanted.
-/

namespace Intake.Json

/-- A number as it was written: whole, or as the nearest binary fraction. -/
inductive Number
  | natural (n : Nat)
  | negative (n : Nat)
  | fraction (isNegative : Bool) (x : Decimal.Binary64)
  deriving Repr, DecidableEq

/-- The kind of a value, with what a message shows of it. -/
inductive Kind
  | null
  | boolean (b : Bool)
  | number (n : Number)
  | text (s : String)
  | list
  | object
  deriving Repr, DecidableEq

def Kind.describe : Kind → String
  | .null => "null"
  | .boolean b => "boolean `" ++ (if b then "true" else "false") ++ "`"
  | .number (.natural n) => "integer `" ++ toString n ++ "`"
  | .number (.negative n) => "integer `-" ++ toString n ++ "`"
  | .number (.fraction s x) => "floating point `" ++ (if s then "-" else "") ++ x.text ++ "`"
  | .text s => "string " ++ Text.quote s
  | .list => "sequence"
  | .object => "map"

inductive Fault
  | endInValue
  | endInObject
  | endInList
  | endInText
  | valueExpected
  | wordExpected
  | keyExpected
  | colonExpected
  | commaOrBraceExpected
  | commaOrBracketExpected
  | trailingComma
  | trailingText
  | malformedNumber
  | numberRange
  | malformedEscape
  | unfinishedSurrogate
  | loneSurrogate
  | controlCharacter
  | notUnicode
  | tooDeep
  /-- A member that must be there is not. -/
  | missing (name : String)
  | repeated (name : String)
  /-- A name that is none of those listed. -/
  | unknownName (name : String) (known : List String)
  /-- A value of another kind than `wanted`. -/
  | wrongKind (got : Kind) (wanted : String)
  /-- An object that does not have exactly one member. -/
  | notSingle
  /-- A list that ends after `n` elements. -/
  | tooShort (n : Nat) (wanted : String)
  deriving Repr, DecidableEq

def tickList (names : List String) : String :=
  String.intercalate ", " (names.map fun n => "`" ++ n ++ "`")

def Fault.message : Fault → String
  | .endInValue => "EOF while parsing a value"
  | .endInObject => "EOF while parsing an object"
  | .endInList => "EOF while parsing a list"
  | .endInText => "EOF while parsing a string"
  | .valueExpected => "expected value"
  | .wordExpected => "expected ident"
  | .keyExpected => "key must be a string"
  | .colonExpected => "expected `:`"
  | .commaOrBraceExpected => "expected `,` or `\x7d`"
  | .commaOrBracketExpected => "expected `,` or `]`"
  | .trailingComma => "trailing comma"
  | .trailingText => "trailing characters"
  | .malformedNumber => "invalid number"
  | .numberRange => "number out of range"
  | .malformedEscape => "invalid escape"
  | .unfinishedSurrogate => "unexpected end of hex escape"
  | .loneSurrogate => "lone leading surrogate in hex escape"
  | .controlCharacter => "control character (\\u0000-\\u001F) found while parsing a string"
  | .notUnicode => "invalid unicode code point"
  | .tooDeep => "recursion limit exceeded"
  | .missing name => "missing field `" ++ name ++ "`"
  | .repeated name => "duplicate field `" ++ name ++ "`"
  | .unknownName name known =>
    "unknown variant `" ++ name ++ "`, expected one of " ++ tickList known
  | .wrongKind got wanted => "invalid type: " ++ got.describe ++ ", expected " ++ wanted
  | .notSingle => "invalid value: map, expected map with a single key"
  | .tooShort n wanted => "invalid length " ++ toString n ++ ", expected " ++ wanted

end Intake.Json
