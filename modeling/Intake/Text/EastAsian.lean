import Intake.Text.Index.Big5
import Intake.Text.Index.Chinese
import Intake.Text.Index.Jis
import Intake.Text.Index.Korean
import Intake.Text.Utf8

/-!
# Encodings of East Asian scripts

Encodings in which a character takes one octet or several. Octets that make no character become one
replacement character; an ASCII octet among them is then read on its own.
-/

namespace Intake.Text.EastAsian

/-! ## Indexes -/

/-- The places of an index, row after row. -/
def places (rows : List String) : Array Char := (String.join rows).toList.toArray

/-- The character at a place of an index; there may be none. -/
def assigned? (index : Array Char) (place : Nat) : Option Char :=
  match index[place]? with
  | some '.' => none
  | c => c

def jis0208 : Array Char := places Index.jis0208Rows

/-- The places of JIS X 0208 that only Shift_JIS reaches. -/
def jis0208Extra : Array Char := places Index.jis0208ExtraRows

def jis0212 : Array Char := places Index.jis0212Rows

def korean : Array Char := places Index.koreanRows

def big5 : Array Char := places Index.big5Rows

def chinese : Array Char := places Index.chineseRows

/-! ## One or two octets -/

/-- An encoding in which a character takes one octet or two; ASCII stands for itself. -/
structure TwoOctet where
  /-- The characters of one octet beyond ASCII. -/
  single? : UInt8 → Option Char
  /-- Whether an octet is the first of two. -/
  isLead : UInt8 → Bool
  /-- What two octets stand for. -/
  pair? : UInt8 → UInt8 → Option (List Char)

def TwoOctet.decode (e : TwoOctet) : Bytes → List Char
  | [] => []
  | [a] =>
    if a < 0x80 then [Char.ofNat a.toNat] else [(e.single? a).getD Utf8.replacement]
  | a :: b :: r =>
    if a < 0x80 then Char.ofNat a.toNat :: e.decode (b :: r)
    else
      match e.single? a with
      | some c => c :: e.decode (b :: r)
      | none =>
        if !e.isLead a then Utf8.replacement :: e.decode (b :: r)
        else
          match e.pair? a b with
          | some cs => cs ++ e.decode r
          | none => Utf8.replacement :: (if b < 0x80 then e.decode (b :: r) else e.decode r)

/-- The place of a second octet in its row: the octets from 0x40 on without 0x7F. -/
def column (b : UInt8) : Nat := if b < 0x7F then b.toNat - 0x40 else b.toNat - 0x41

def between (lo hi b : UInt8) : Bool := lo ≤ b && b ≤ hi

def halfWidth? (b : UInt8) : Option Char :=
  if between 0xA1 0xDF b then some (Char.ofNat (0xFF61 - 0xA1 + b.toNat)) else none

def shiftJis : TwoOctet where
  single? b := if b = 0x80 then some '\x80' else halfWidth? b
  isLead b := between 0x81 0x9F b || between 0xE0 0xFC b
  pair? a b :=
    if between 0x40 0x7E b || between 0x80 0xFC b then
      let place := (a.toNat - if a < 0xA0 then 0x81 else 0xC1) * 188 + column b
      if 8836 ≤ place ∧ place ≤ 10715 then some [Char.ofNat (0xE000 + (place - 8836))]
      else (if place < 8836 then assigned? jis0208 place else assigned? jis0208Extra (place - 10716)).map
        fun c => [c]
    else none

/-- Whether an octet is the first of two in the encodings that use all of the upper half. -/
def isUpperLead (b : UInt8) : Bool := between 0x81 0xFE b

def eucKr : TwoOctet where
  single? _ := none
  isLead := isUpperLead
  pair? a b :=
    if between 0x41 0xFE b then
      (assigned? korean ((a.toNat - 0x81) * 190 + (b.toNat - 0x41))).map fun c => [c]
    else none

/-- The places of Big5 that stand for a letter with a mark on it. -/
def big5Marked : List (Nat × List Char) :=
  [(1133, ['\u00CA', '\u0304']), (1135, ['\u00CA', '\u030C']), (1164, ['\u00EA', '\u0304']),
    (1166, ['\u00EA', '\u030C'])]

def big5Code : TwoOctet where
  single? _ := none
  isLead := isUpperLead
  pair? a b :=
    if between 0x40 0x7E b || between 0xA1 0xFE b then
      let place := (a.toNat - 0x81) * 157 + (b.toNat - if b < 0x7F then 0x40 else 0x62)
      match big5Marked.lookup place with
      | some cs => some cs
      | none => (assigned? big5 place).map fun c => [c]
    else none

/-! ## EUC-JP -/

/-- The character at a row and column of a table of 94 by 94. -/
def square? (index : Array Char) (low a b : UInt8) : Option Char :=
  if between low (low + 93) a && between low (low + 93) b then
    assigned? index ((a.toNat - low.toNat) * 94 + (b.toNat - low.toNat))
  else none

/-- Whether an octet of EUC-JP begins a character of several. -/
def isJisLead (b : UInt8) : Bool := b = 0x8E || b = 0x8F || between 0xA1 0xFE b

def eucJpPair? (a b : UInt8) : Option Char :=
  if a = 0x8E then halfWidth? b else square? jis0208 0xA1 a b

def eucJp : Bytes → List Char
  | [] => []
  | a :: r =>
    if a < 0x80 then Char.ofNat a.toNat :: eucJp r
    else if !isJisLead a then Utf8.replacement :: eucJp r
    else
      match r with
      | [] => [Utf8.replacement]
      | b :: rest =>
        if a = 0x8F ∧ between 0xA1 0xFE b then
          match rest with
          | [] => [Utf8.replacement]
          | c :: rest =>
            match square? jis0212 0xA1 b c with
            | some x => x :: eucJp rest
            | none => Utf8.replacement :: (if c < 0x80 then eucJp (c :: rest) else eucJp rest)
        else
          match eucJpPair? a b with
          | some x => x :: eucJp rest
          | none => Utf8.replacement :: (if b < 0x80 then eucJp (b :: rest) else eucJp rest)
termination_by s => s.length
decreasing_by all_goals simp only [List.length_cons]; omega

/-! ## GB 18030 -/

/-- The areas for private use: their first rows and columns, the length of a row, and the first code
point. -/
def chinesePrivate? (a b : UInt8) : Option Char :=
  if between 0xAA 0xAF a && 0xA1 ≤ b then
    some (Char.ofNat (0xE000 + (a.toNat - 0xAA) * 94 + (b.toNat - 0xA1)))
  else if 0xF8 ≤ a && 0xA1 ≤ b then
    some (Char.ofNat (0xE234 + (a.toNat - 0xF8) * 94 + (b.toNat - 0xA1)))
  else if between 0xA1 0xA7 a && b ≤ 0xA0 then
    some (Char.ofNat (0xE4C6 + (a.toNat - 0xA1) * 96 + column b))
  else none

def chinesePair? (a b : UInt8) : Option Char :=
  if between 0x40 0x7E b || between 0x80 0xFE b then
    assigned? chinese ((a.toNat - 0x81) * 190 + column b) <|> chinesePrivate? a b
  else none

def chineseFour? (a b c d : UInt8) : Option Char :=
  let place := (((a.toNat - 0x81) * 10 + (b.toNat - 0x30)) * 126 + (c.toNat - 0x81)) * 10
    + (d.toNat - 0x30)
  if place ≤ 39419 then
    (Index.chineseRuns.reverse.find? fun r => r.1 ≤ place).map fun r =>
      Char.ofNat (r.2 + (place - r.1))
  else if 189000 ≤ place ∧ place ≤ 1237575 then some (Char.ofNat (0x10000 + (place - 189000)))
  else none

def isDigit (b : UInt8) : Bool := between 0x30 0x39 b

def gb18030 : Bytes → List Char
  | [] => []
  | a :: r =>
    if a < 0x80 then Char.ofNat a.toNat :: gb18030 r
    else if a = 0x80 then '€' :: gb18030 r
    else if a = 0xFF then Utf8.replacement :: gb18030 r
    else
      match r with
      | [] => [Utf8.replacement]
      | b :: rest =>
        if !isDigit b then
          match chinesePair? a b with
          | some x => x :: gb18030 rest
          | none => Utf8.replacement :: (if b < 0x80 then gb18030 (b :: rest) else gb18030 rest)
        else
          match rest with
          | [] => [Utf8.replacement]
          | [c] => if isUpperLead c then [Utf8.replacement] else Utf8.replacement :: gb18030 [b, c]
          | c :: d :: rest =>
            if isUpperLead c && isDigit d then
              (chineseFour? a b c d).getD Utf8.replacement :: gb18030 rest
            else Utf8.replacement :: gb18030 (b :: c :: d :: rest)
termination_by s => s.length
decreasing_by all_goals simp only [List.length_cons]; omega

/-! ## ISO-2022-JP -/

/-- The sets of characters between which escapes switch. -/
inductive JisSet
  | ascii
  | roman
  | katakana
  | kanji
  deriving Repr, DecidableEq

def JisSet.ofEscape? (a b : UInt8) : Option JisSet :=
  match a, b with
  | 0x28, 0x42 => some ascii
  | 0x28, 0x4A => some roman
  | 0x28, 0x49 => some katakana
  | 0x24, 0x40 | 0x24, 0x42 => some kanji
  | _, _ => none

def JisSet.single? (s : JisSet) (b : UInt8) : Option Char :=
  match s with
  | ascii | roman =>
    if 0x7F < b ∨ b = 0x0E ∨ b = 0x0F then none
    else if s = roman ∧ b = 0x5C then some '¥'
    else if s = roman ∧ b = 0x7E then some '\u203E'
    else some (Char.ofNat b.toNat)
  | katakana => if between 0x21 0x5F b then some (Char.ofNat (0xFF61 - 0x21 + b.toNat)) else none
  | kanji => none

/-- The characters of ISO-2022-JP in a set. A switch right after a switch, with nothing between them,
counts as malformed; `isFresh` holds after a switch. -/
def iso2022Jp (s : JisSet) (isFresh : Bool) : Bytes → List Char
  | [] => []
  | a :: r =>
    if a = 0x1B then
      match r with
      | b :: c :: rest =>
        match JisSet.ofEscape? b c with
        | some t =>
          if isFresh then Utf8.replacement :: iso2022Jp t true rest else iso2022Jp t true rest
        | none => Utf8.replacement :: iso2022Jp s false (b :: c :: rest)
      | r => Utf8.replacement :: iso2022Jp s false r
    else
      match s with
      | .kanji =>
        if !between 0x21 0x7E a then Utf8.replacement :: iso2022Jp s false r
        else
          match r with
          | [] => [Utf8.replacement]
          | b :: rest =>
            if b = 0x1B then Utf8.replacement :: iso2022Jp s false (b :: rest)
            else (square? jis0208 0x21 a b).getD Utf8.replacement :: iso2022Jp s false rest
      | s => (s.single? a).getD Utf8.replacement :: iso2022Jp s false r
termination_by b => b.length

end Intake.Text.EastAsian
