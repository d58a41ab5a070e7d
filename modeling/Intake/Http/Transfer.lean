import Intake.Http.Message
import Intake.Json.Writer

/-!
# Messages on a connection

How messages are written to a connection and read from one: a first line, headers, an empty line,
and a body whose end the headers tell. A connection carries one request and its answer.
-/

namespace Intake.Http

structure Head where
  line : Bytes
  headers : Headers
  deriving Repr, DecidableEq

/-- What can be said of a message while it arrives. -/
inductive Arrival (α : Type) where
  | incomplete
  | broken
  | whole (a : α)

namespace Head

/-- The head of a message, and what has arrived after it. -/
def read (s : Bytes) : Arrival (Head × Bytes) :=
  match Bytes.cut? Headers.blockEnd s with
  | none => .incomplete
  | some (block, rest) =>
    match Headers.lines [] (block ++ Headers.blockEnd) with
    | [] => .broken
    | line :: headers =>
      match headers.mapM Headers.readLine with
      | none => .broken
      | some headers => .whole (⟨line, headers⟩, rest.drop Headers.blockEnd.length)

def words (h : Head) : List Bytes :=
  let step (b : UInt8) (acc : List Bytes) : List Bytes :=
    match acc with
    | [] => [[b]]
    | w :: ws => if b = 0x20 then [] :: w :: ws else (b :: w) :: ws
  (h.line.foldr step [[]]).filter (!·.isEmpty)

end Head

/-- How the end of a body is told. -/
inductive Framing
  | sized (n : Nat)
  /-- In pieces, each after a line with its size. -/
  | chunked
  /-- By the end of the connection. -/
  | untilClose
  deriving Repr, DecidableEq

namespace Framing

/-- How the headers of a message tell the end of its body. -/
def ofHeaders (h : Headers) (otherwise : Framing) : Framing :=
  if (h.text? "transfer-encoding").map Text.lower = some "chunked" then .chunked
  else match (h.text? "content-length").map (Text.readNat UInt64.size) with
    | some (.ok n) => .sized n
    | _ => otherwise

/-- The size that the line before a piece names. -/
def pieceSize? (line : Bytes) : Option Nat :=
  let digits := (line.takeWhile fun b => (Bytes.hexDigit? b).isSome).filterMap Bytes.hexDigit?
  if digits.isEmpty then none else some (digits.foldl (fun n d => 16 * n + d) 0)

/-- The content of the pieces that have arrived, and whether the last of them has. -/
def readPieces : Nat → Bytes → Bytes × Bool
  | 0, _ => ([], false)
  | fuel + 1, s =>
    match Bytes.cut? Headers.lineEnd s with
    | none => ([], false)
    | some (line, rest) =>
      match pieceSize? line with
      | none => ([], false)
      | some 0 => ([], true)
      | some (n + 1) =>
        let rest := rest.drop Headers.lineEnd.length
        if rest.length ≤ n then (rest, false)
        else
          let (more, isWhole) := readPieces fuel (rest.drop (n + 1 + Headers.lineEnd.length))
          (rest.take (n + 1) ++ more, isWhole)

/-- The content of a body that has arrived, and whether all of it has. -/
def read (f : Framing) (s : Bytes) : Bytes × Bool :=
  match f with
  | .sized n => (s.take n, n ≤ s.length)
  | .chunked => readPieces s.length s
  | .untilClose => (s, false)

end Framing

/-- A message in full: its first line, its headers and its body. -/
def encodeMessage (line : String) (headers : List (String × String)) (body : Bytes) : Bytes :=
  let header (h : String × String) : String := h.1 ++ ": " ++ h.2 ++ "\r\n"
  Bytes.ofString (line ++ "\r\n" ++ String.join (headers.map header) ++ "\r\n") ++ body

def Request.encode (r : Request) : Bytes :=
  let host := (r.url.host.map Url.Host.text).getD "" ++ r.url.portText
  let path := r.url.path.text ++ r.url.query.elim "" ("?" ++ ·)
  let content := r.body.map fun v => Bytes.ofString (Json.write v)
  let headers := [("host", host), ("accept", "*/*"), ("connection", "close")]
    ++ r.authorization.toList.map (("authorization", ·))
    ++ content.elim [] fun c =>
      [("content-type", "application/json"), ("content-length", Text.decimal c.length)]
  encodeMessage (r.method.name ++ " " ++ path ++ " HTTP/1.1") headers (content.getD [])

/-- The answer that arrived on a connection until it was closed. -/
def Response.decode? (s : Bytes) : Option Response :=
  match Head.read s with
  | .whole (head, rest) =>
    match head.words with
    | _ :: code :: _ => do
      let code ← Text.Utf8.decode? code
      let code ← (Text.readNat 1000 code).toOption
      let framing := Framing.ofHeaders head.headers .untilClose
      let (body, isWhole) := framing.read rest
      return ⟨⟨code⟩, head.headers, body, isWhole || framing = .untilClose⟩
    | _ => none
  | .incomplete | .broken => none

end Intake.Http
