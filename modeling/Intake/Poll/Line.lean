/-!
# Waiting lines

A bounded line, first in, first out. Who finds it full may wait with an item, and who finds it empty
may wait for one; both are served in the order of their arrival. An item that is put in while
someone waits for one calls the first of them up: it stays in the line until that one takes it.
-/

namespace Intake.Poll

inductive LineFault
  | full (capacity : Nat)
  | closed
  deriving Repr, DecidableEq

def LineFault.message : LineFault → String
  | .full capacity => "task queue is at capacity (" ++ toString capacity ++ ")"
  | .closed => "task queue is closed"

/-- An item that was not put in, and why. -/
structure Refused (α : Type) where
  item : α
  fault : LineFault
  deriving Repr, DecidableEq

/-- A line of items `α` in which waiters are told apart by a `κ`. -/
structure Line (κ α : Type) where
  capacity : Nat
  /-- The items, first to leave first. -/
  items : List α
  /-- Who waits for room, with what they bring, first to come first. -/
  senders : List (κ × α)
  /-- Who waits for an item, first to come first. -/
  receivers : List κ
  /-- Who has been called up for an item and has yet to take it. -/
  called : List κ
  deriving Repr, DecidableEq

namespace Line

variable {κ α : Type}

/-- An empty line; it has room for at least one item. -/
def new (capacity : Nat) : Line κ α := ⟨max capacity 1, [], [], [], []⟩

def length (l : Line κ α) : Nat := l.items.length

/-- Puts an item in at once, or refuses it. -/
def offer (l : Line κ α) (a : α) : Option (Line κ α) :=
  match l.receivers with
  | r :: rs => some { l with items := l.items ++ [a], receivers := rs, called := l.called ++ [r] }
  | [] => if l.items.length < l.capacity then some { l with items := l.items ++ [a] } else none

/-- Puts an item in at once, or hands it back. -/
def tryPut (l : Line κ α) (a : α) : Except (Refused α) (Line κ α) :=
  match l.offer a with
  | some l => .ok l
  | none => .error ⟨a, .full l.capacity⟩

/-- Puts an item in, or waits for room; says whether it is in. -/
def send (l : Line κ α) (who : κ) (a : α) : Bool × Line κ α :=
  match l.offer a with
  | some l => (true, l)
  | none => (false, { l with senders := l.senders ++ [(who, a)] })

structure Taken (κ α : Type) where
  item : α
  line : Line κ α
  /-- Who was waiting for the room and has been let in. -/
  admitted : Option κ

/-- Takes the first item; the room goes to the first who waits for it. -/
def take? (l : Line κ α) : Option (Taken κ α) :=
  match l.items with
  | [] => none
  | a :: rest =>
    match l.senders with
    | (who, b) :: others =>
      if rest.length < l.capacity then
        some ⟨a, { l with items := rest ++ [b], senders := others }, some who⟩
      else some ⟨a, { l with items := rest }, none⟩
    | [] => some ⟨a, { l with items := rest }, none⟩

/-- Takes the first item, or waits for one. -/
def receive (l : Line κ α) (who : κ) : Option (Taken κ α) × Line κ α :=
  match l.take? with
  | some t => (some t, t.line)
  | none => (none, { l with receivers := l.receivers ++ [who] })

/-- What those who were called up take, in order, and who was let in meanwhile. -/
structure Settled (κ α : Type) where
  line : Line κ α
  taken : List (κ × α)
  admitted : List κ

/-- Lets each of `waiters` take an item. -/
def settleAll (l : Line κ α) : List κ → Settled κ α
  | [] => ⟨l, [], []⟩
  | who :: others =>
    match l.take? with
    | none => { l with receivers := l.receivers ++ [who] }.settleAll others
    | some t =>
      let s := t.line.settleAll others
      ⟨s.line, (who, t.item) :: s.taken, t.admitted.toList ++ s.admitted⟩

/-- Lets all who were called up take their items. -/
def settle (l : Line κ α) : Settled κ α := { l with called := [] }.settleAll l.called

/-- Removes a waiter, and what it brings. -/
def withdraw [DecidableEq κ] (l : Line κ α) (who : κ) : Line κ α :=
  { l with
    senders := l.senders.filter fun s => s.1 ≠ who
    receivers := l.receivers.filter (· ≠ who) }

end Line
end Intake.Poll
