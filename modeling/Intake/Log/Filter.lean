import Intake.Log.Event
import Intake.Text.Blank

/-!
# Filters

Which events are shown. A filter is a list of directives, each of them a level, a target, or a
target with a level; a target stands for everything whose target begins with it. The directive with
the longest target that fits decides about an event, and an event that none fits is not shown.
-/

namespace Intake.Log

/-- How much is shown: nothing, or everything of at least some weight. -/
inductive Verbosity
  | off
  | error
  | warn
  | info
  | debug
  | trace
  deriving Repr, DecidableEq

namespace Verbosity

def names : List (String × Verbosity) :=
  [("off", off), ("error", error), ("warn", warn), ("info", info), ("debug", debug),
    ("trace", trace), ("0", off), ("1", error), ("2", warn), ("3", info), ("4", debug),
    ("5", trace)]

/-- The verbosity of a name, in which case does not matter. -/
def ofText? (s : String) : Option Verbosity := names.lookup (Text.lower s)

def shows (v : Verbosity) (l : Level) : Bool :=
  match v, l with
  | off, _ => false
  | error, l => l == .error
  | warn, l => l != .info
  | info, _ | debug, _ | trace, _ => true

end Verbosity

structure Directive where
  /-- What the target of an event has to begin with. -/
  target : String
  verbosity : Verbosity
  deriving Repr, DecidableEq

structure Filter where
  directives : List Directive
  deriving Repr, DecidableEq

namespace Filter

/-- The filter that shows every event of at least some weight. -/
def all (v : Verbosity) : Filter := ⟨[⟨"", v⟩]⟩

/-- A character with which a directive may begin. -/
def isFirstChar (c : Char) : Bool := c = '-' || c = ':' || c = '_' || c.isAlphanum || 0x7F < c.toNat

/-- The directive of a text; one about spans is well-formed, but there are no spans. -/
def directive? (s : String) : Option (Option Directive) :=
  match s.toList with
  | [] => none
  | c :: _ =>
    if s.toList.contains '[' then some none
    else if !isFirstChar c then none
    else match s.toList.dropWhile (· ≠ '=') with
      | [] => some (some ((Verbosity.ofText? s).elim ⟨s, .trace⟩ (⟨"", ·⟩)))
      | _ :: level =>
        let target := String.ofList (s.toList.takeWhile (· ≠ '='))
        if level.isEmpty then some (some ⟨target, .trace⟩)
        else (Verbosity.ofText? (String.ofList level)).map fun v => some ⟨target, v⟩

def split : List Char → List (List Char)
  | [] => [[]]
  | c :: cs =>
    if c = ',' then [] :: split cs
    else match split cs with
      | [] => [[c]]
      | s :: rest => (c :: s) :: rest

/-- Reads directives; where there are none, only errors are shown. -/
def parse? (s : String) : Option Filter :=
  let texts := ((split s.toList).filter (!·.isEmpty)).map String.ofList
  match texts.mapM directive? with
  | none => none
  | some [] => some (all .error)
  | some ds => some ⟨ds.filterMap id⟩

/-- The filter that a variable asks for; without a readable wish, everything but details is shown. -/
def ofText (raw : Option String) : Filter := (raw >>= parse?).getD (all .info)

/-- Of two directives, the one with the longer target; of two with one target, the later one. -/
def narrower (best : Option Directive) (d : Directive) : Option Directive :=
  match best with
  | none => some d
  | some b => if d.target.length < b.target.length then some b else some d

def shows (f : Filter) (e : Event) : Bool :=
  let fitting := f.directives.filter fun d => d.target.toList.isPrefixOf e.target.toList
  match fitting.foldl narrower none with
  | none => false
  | some d => d.verbosity.shows e.level

end Filter
end Intake.Log
