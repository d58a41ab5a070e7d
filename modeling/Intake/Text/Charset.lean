import Intake.Text.Blank
import Intake.Text.CodePages
import Intake.Text.EastAsian
import Intake.Text.Utf8

/-!
# Decoding texts by their encoding

Octets become characters as the WHATWG Encoding Standard has it: a byte order mark at the beginning
decides and is dropped; otherwise the encoding that was named is used. What cannot be decoded becomes
a replacement character.
-/

namespace Intake.Text

inductive Charset
  | utf8
  | utf16 (bigEndian : Bool)
  /-- One octet for each character; the upper half of the page. -/
  | page (upper : List Char)
  | shiftJis
  | eucJp
  | iso2022Jp
  | eucKr
  | big5
  /-- Also read where GBK is named. -/
  | gb18030
  /-- An encoding that is not read at all. -/
  | unreadable
  /-- Octets beyond ASCII in an area for private use. -/
  | userDefined
  deriving Repr, DecidableEq

namespace Charset

def isLabelBlank (c : Char) : Bool := [0x09, 0x0A, 0x0C, 0x0D, 0x20].contains c.toNat

def nameOfLabel? (label : String) : Option String :=
  let cs := (label.toList.dropWhile isLabelBlank).reverse.dropWhile isLabelBlank |>.reverse
  let l := lower (String.ofList cs)
  (charsetLabels.find? fun e => e.2.contains l).map Prod.fst

/-- The encodings that are no code pages, by name. -/
def named : List (String × Charset) :=
  [("utf-8", utf8), ("utf-16le", utf16 false), ("utf-16be", utf16 true), ("shift_jis", shiftJis),
    ("euc-jp", eucJp), ("iso-2022-jp", iso2022Jp), ("euc-kr", eucKr), ("big5", big5),
    ("gbk", gb18030), ("gb18030", gb18030), ("replacement", unreadable),
    ("x-user-defined", userDefined)]

def ofName? (name : String) : Option Charset :=
  named.lookup name <|> (pages.lookup name).map fun p => page p.toList

def ofLabel? (label : String) : Option Charset := nameOfLabel? label >>= ofName?

/-! ## UTF-16 -/

/-- The 16-bit units of octets; a last octet without a partner is no unit. -/
def units (bigEndian : Bool) : Bytes → List (Option Nat)
  | [] => []
  | [_] => [none]
  | a :: b :: r =>
    some (if bigEndian then a.toNat * 256 + b.toNat else b.toNat * 256 + a.toNat) :: units bigEndian r

/-- The characters of units, after a high surrogate that waits for its partner. -/
def ofUnits (high : Option Nat) : List (Option Nat) → List Char
  | [] => if high.isSome then [Utf8.replacement] else []
  | none :: _ => [Utf8.replacement]
  | some u :: r =>
    let isHigh := 0xD800 ≤ u ∧ u ≤ 0xDBFF
    let isLow := 0xDC00 ≤ u ∧ u ≤ 0xDFFF
    match high with
    | some h =>
      if isLow then Char.ofNat (0x10000 + (h - 0xD800) * 0x400 + (u - 0xDC00)) :: ofUnits none r
      else if isHigh then Utf8.replacement :: ofUnits (some u) r
      else Utf8.replacement :: Char.ofNat u :: ofUnits none r
    | none =>
      if isHigh then ofUnits (some u) r
      else if isLow then Utf8.replacement :: ofUnits none r
      else Char.ofNat u :: ofUnits none r

def decodePlain (c : Charset) (b : Bytes) : String :=
  match c with
  | utf8 => Utf8.decodeLossy b
  | utf16 bigEndian => String.ofList (ofUnits none (units bigEndian b))
  | page upper =>
    String.ofList (b.map fun x =>
      if x < 0x80 then Char.ofNat x.toNat else upper.getD (x.toNat - 0x80) Utf8.replacement)
  | shiftJis => String.ofList (EastAsian.shiftJis.decode b)
  | eucJp => String.ofList (EastAsian.eucJp b)
  | iso2022Jp => String.ofList (EastAsian.iso2022Jp .ascii false b)
  | eucKr => String.ofList (EastAsian.eucKr.decode b)
  | big5 => String.ofList (EastAsian.big5Code.decode b)
  | gb18030 => String.ofList (EastAsian.gb18030 b)
  | unreadable => if b.isEmpty then "" else String.singleton Utf8.replacement
  | userDefined =>
    String.ofList (b.map fun x =>
      Char.ofNat (if x < 0x80 then x.toNat else 0xF780 + (x.toNat - 0x80)))

/-- The text of octets, where a byte order mark overrules the encoding. -/
def decode (c : Charset) (b : Bytes) : String :=
  match b with
  | 0xEF :: 0xBB :: 0xBF :: r => utf8.decodePlain r
  | 0xFF :: 0xFE :: r => (utf16 false).decodePlain r
  | 0xFE :: 0xFF :: r => (utf16 true).decodePlain r
  | b => c.decodePlain b

end Charset
end Intake.Text
