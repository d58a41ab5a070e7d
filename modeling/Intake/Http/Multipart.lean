import Intake.Http.Message

/-!
# Forms in parts

A body that consists of parts, each with headers and a content, between lines that begin with two
hyphens and the form's boundary. What stands before the first and after the closing line does not
count. A form that breaks off is read as far as it goes: a part that does not end has no content,
and the form is not whole.
-/

namespace Intake.Http

structure Part where
  name : Option String
  fileName : Option String
  mediaType : Option MediaType
  /-- The octets; nothing where the part does not end. -/
  content : Option Bytes
  deriving Repr, DecidableEq

/-- A form as far as it could be read. -/
structure Form where
  parts : List Part
  isWhole : Bool
  deriving Repr, DecidableEq

/-- The text of a part, by the charset of its media type. -/
def Part.text? (p : Part) : Option String :=
  let label := p.mediaType >>= fun m => m.parameter? "charset"
  let charset := (label >>= Text.Charset.ofLabel?).getD .utf8
  p.content.map charset.decode

/-! ## Dispositions -/

namespace Disposition

def isSeparator (c : Char) : Bool := c = ';' || " \t\n\x0c\r".toList.contains c

/-- What follows `start` where a parameter begins with it. A place that only looks like one is
skipped as a whole, and what follows it is read as if it were the beginning. -/
def after? (start : List Char) : Nat → Option Char → List Char → Option (List Char)
  | _, _, [] => none
  | skip + 1, _, _ :: r => after? start skip none r
  | 0, before, c :: r =>
    if start.isPrefixOf (c :: r) then
      if before.all isSeparator then some ((c :: r).drop start.length)
      else after? start (start.length - 1) none r
    else after? start 0 (some c) r

/-- What stands before the first quote without a backslash in front of it. -/
def beforeQuote? (before : Option Char) : List Char → Option (List Char)
  | [] => none
  | c :: r =>
    if c = '"' && before != some '\\' then some []
    else (beforeQuote? (some c) r).map (c :: ·)

/-- The value of a parameter, quoted or bare; escapes in it are kept as they are. -/
def parameter? (name : String) (disposition : String) : Option String :=
  match after? (name.toList ++ ['=']) 0 none disposition.toList with
  | none => none
  | some ('"' :: r) => (beforeQuote? none r).map String.ofList
  | some r => some (String.ofList (r.takeWhile (· ≠ ';')))

end Disposition

/-! ## Reading -/

namespace Form

def headerLimit : Nat := 32

/-- The headers of a part, last to first, so that of two with one name the later one counts. Their
values have to be text. -/
def readHeaders (block : Bytes) : Option Headers := do
  let headers ← Headers.read block
  if headers.length ≤ headerLimit ∧ headers.all fun h => (Text.Utf8.decode? h.2).isSome then
    return headers.reverse
  else none

def makePart (headers : Headers) (content : Option Bytes) : Part :=
  let disposition := headers.value? "content-disposition" >>= Text.Utf8.decode?
  { name := disposition >>= Disposition.parameter? "name"
    fileName := disposition >>= Disposition.parameter? "filename"
    mediaType := headers.text? "content-type" >>= MediaType.parse?
    content }

inductive Next
  | broken
  | closed
  /-- A part with its headers, and everything after them. -/
  | part (headers : Headers) (rest : Bytes)

/-- Reads what follows a boundary, up to the content of a part. -/
def next (s : Bytes) : Next :=
  match s with
  | 0x2D :: 0x2D :: _ => .closed
  | s =>
    match Bytes.after? Headers.lineEnd (s.dropWhile Headers.isBlank) with
    | none => .broken
    | some s =>
      match Bytes.cut? Headers.blockEnd s with
      | none => .broken
      | some (block, rest) =>
        match readHeaders (block ++ Headers.blockEnd) with
        | none => .broken
        | some headers => .part headers (rest.drop Headers.blockEnd.length)

/-- The form that follows a boundary; `mark` is the boundary with its hyphens. -/
def readAfter (mark : Bytes) : Nat → Bytes → Form
  | 0, _ => ⟨[], false⟩
  | fuel + 1, s =>
    match next s with
    | .broken => ⟨[], false⟩
    | .closed => ⟨[], true⟩
    | .part headers rest =>
      match Bytes.cut? (Headers.lineEnd ++ mark) rest with
      | none => ⟨[makePart headers none], false⟩
      | some (content, rest) =>
        let form := readAfter mark fuel (rest.drop (Headers.lineEnd ++ mark).length)
        { form with parts := makePart headers (some content) :: form.parts }

def read (boundary : String) (body : Bytes) : Form :=
  let mark := 0x2D :: 0x2D :: Bytes.ofString boundary
  match Bytes.cut? mark body with
  | none => ⟨[], false⟩
  | some (_, rest) => readAfter mark rest.length (rest.drop mark.length)

def boundary? (headers : Headers) : Option String := do
  let m ← headers.text? "content-type" >>= MediaType.parse?
  if m.type = "multipart" ∧ m.subtype = "form-data" then m.parameter? "boundary" else none

end Form
end Intake.Http
