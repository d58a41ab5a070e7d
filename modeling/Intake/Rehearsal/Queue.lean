import Intake.Poll.Line
import Intake.Poll.Task

/-!
# A waiting line in rehearsal

Producers and consumers that come to a line one after the other. After each of them everyone moves
who can.
-/

namespace Intake.Rehearsal

open Intake.Poll (Line Task Millis)

inductive WaitEnd
  | sent
  | received (t : Task)
  | cancelled
  deriving Repr

/-- A line with the waits that have begun, in the order in which they began. -/
structure Queue where
  now : Millis
  line : Line Nat Task
  waits : List (Nat × String)
  next : Nat

namespace Queue

def new (capacity : Nat) : Queue := ⟨0, .new capacity, [], 0⟩

/-- The ends of waits, in the order in which the waits began; those that have ended are forgotten. -/
def close (q : Queue) (ends : List (Nat × WaitEnd)) : List (String × WaitEnd) × Queue :=
  let done := q.waits.filterMap fun (n, label) => (ends.lookup n).map (label, ·)
  (done, { q with waits := q.waits.filter fun w => (ends.lookup w.1).isNone })

def settle (q : Queue) : List (Nat × WaitEnd) × Queue :=
  let s := q.line.settle
  (s.taken.map (fun (n, t) => (n, .received t)) ++ s.admitted.map (·, .sent),
    { q with line := s.line })

def enter (q : Queue) (label : String) : Nat × Queue :=
  (q.next, { q with waits := q.waits ++ [(q.next, label)], next := q.next + 1 })

/-- Offers tasks in turn before anybody moves; counts how many fit. -/
def offerAll (q : Queue) : List Task → Nat × Queue
  | [] => (0, q)
  | t :: ts =>
    match q.line.tryPut t with
    | .ok line => let (n, q) := { q with line := line }.offerAll ts; (n + 1, q)
    | .error _ => q.offerAll ts

def send (q : Queue) (label : String) (t : Task) : List (Nat × WaitEnd) × Queue :=
  let (n, q) := q.enter label
  let (isIn, line) := q.line.send n t
  (if isIn then [(n, .sent)] else [], { q with line := line })

def receive (q : Queue) (label : String) : List (Nat × WaitEnd) × Queue :=
  let (n, q) := q.enter label
  let (taken, line) := q.line.receive n
  let q := { q with line := line }
  match taken with
  | none => ([], q)
  | some t => ((n, .received t.item) :: t.admitted.toList.map (·, .sent), q)

def cancel (q : Queue) (label : String) : List (Nat × WaitEnd) × Queue :=
  match q.waits.find? fun w => w.2 = label with
  | none => ([], q)
  | some (n, _) => ([(n, .cancelled)], { q with line := q.line.withdraw n })

end Queue
end Intake.Rehearsal
