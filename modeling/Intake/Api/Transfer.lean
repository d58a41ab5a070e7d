import Intake.Api.Answer
import Intake.Http.Transfer

/-!
# Requests and answers on a connection
-/

namespace Intake.Api

open Http (Arrival Framing Head)

def Request.read (s : Bytes) : Arrival Request :=
  match Head.read s with
  | .incomplete => .incomplete
  | .broken => .broken
  | .whole (head, rest) =>
    match head.words.mapM Text.Utf8.decode? with
    | some (method :: target :: _) =>
      match (Framing.ofHeaders head.headers (.sized 0)).read rest with
      | (body, true) => .whole ⟨method, target, head.headers, body⟩
      | (_, false) => .incomplete
    | _ => .broken

def Answer.encode (a : Answer) : Bytes :=
  Http.encodeMessage ("HTTP/1.1 " ++ a.status.text)
    (a.headers ++ [("content-length", Text.decimal a.body.length), ("connection", "close")]) a.body

end Intake.Api
