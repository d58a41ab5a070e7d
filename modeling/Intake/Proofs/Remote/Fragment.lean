import Intake.Poll.Attempt
import Intake.Proofs.Json.Extent
import Intake.Proofs.Remote.PollBody

/-!
# Bodies that are cut or run on

An answer that ends too early, or that does not end where it should, is no poll body. It is a reason to
ask again, and nothing is done about the dataset.
-/

namespace Intake.Remote

open Json (IsBlanks IsSelfDelimiting)

/-! ## The records of a body end with their brackets -/

theorem Product.isSelfDelimiting_record : IsSelfDelimiting Product.record.read := by
  apply Json.isSelfDelimiting_read
  intro m hm st
  have hm : m ∈ [kindMember, placeMember] := hm
  rcases List.mem_pair.mp hm with rfl | rfl
  · exact kindMember_isSlot.isSelfDelimiting (Json.isSelfDelimiting_textAs _) st
  · exact placeMember_isSlot.isSelfDelimiting (Json.isSelfDelimiting_textAs _) st

theorem PollBody.isSelfDelimiting_record : IsSelfDelimiting PollBody.record.read := by
  apply Json.isSelfDelimiting_read
  intro m hm st
  have hm : m ∈ [stateMember, productsMember] := hm
  rcases List.mem_pair.mp hm with rfl | rfl
  · exact stateMember_isSlot.isSelfDelimiting (Json.isSelfDelimiting_textAs _).nullable st
  · exact productsMember_isSlot.isSelfDelimiting Product.isSelfDelimiting_record.listOf st

/-! ## What is read of them -/

section

variable {body more : String}

/-- The body says that the job goes on, or how it has ended. -/
def Tells (body : String) : Prop :=
  interpret body = .inProgress ∨ ∃ ps, interpret body = .done ps ∨ interpret body = .failed ps

/-- The poll is to be made again, and the attempt ends with that: it asks for nothing after the poll. -/
def PutsOff (body : String) : Prop :=
  ∃ reason, interpret body = .transient reason ∧ ∀ (life : Poll.Lifecycle) (t : Poll.Task), ∃ next,
    Poll.attempt life t = .ask (.count .polls) (fun _ => .ask (.poll t.statusUrl) next) ∧
    next (interpret body) = .done (.retry reason)

theorem putsOff_of_transient {reason : String} (h : interpret body = .transient reason) : PutsOff body := by
  refine ⟨reason, h, fun life t => ⟨_, rfl, ?_⟩⟩
  rw [h]
  rfl

theorem interpret_of_error {e : Json.Fault}
    (h : Json.decode PollBody.record.read (Bytes.ofString body) = .error e) :
    ∃ reason, interpret body = .transient reason := by
  unfold interpret
  split
  · exact ⟨_, rfl⟩
  · exact ⟨_, by rw [h]⟩

theorem Tells.not_transient {reason : String} (h : Tells body) : interpret body ≠ .transient reason := by
  rcases h with h | ⟨ps, h | h⟩ <;> simp [h]

/-- What is added to a body that says something spoils it, unless it is blank. -/
theorem interpret_append (h : ∀ reason, interpret body ≠ .transient reason)
    (hmore : ¬ IsBlanks (Bytes.ofString more)) : ∃ reason, interpret (body ++ more) = .transient reason := by
  cases hbody : Json.decode PollBody.record.read (Bytes.ofString body) with
  | ok b =>
      apply interpret_of_error
      rw [Bytes.ofString_append]
      exact Json.decode_append PollBody.isSelfDelimiting_record hbody hmore
  | error e =>
      obtain ⟨reason, hreason⟩ := interpret_of_error hbody
      exact absurd hreason (h reason)

/-- A body that has lost more than the blanks at its end, or to which more than blanks has been added, is a
reason to ask again. -/
theorem putsOff_of_tells (h : Tells body) :
    (∀ front rest, body = front ++ rest → ¬ IsBlanks (Bytes.ofString rest) → PutsOff front) ∧
    ∀ more, ¬ IsBlanks (Bytes.ofString more) → PutsOff (body ++ more) := by
  constructor
  · rintro front rest rfl hrest
    by_contra hfront
    have hsays (reason : String) : interpret front ≠ .transient reason := by
      intro hreason
      exact hfront (putsOff_of_transient hreason)
    obtain ⟨reason, hreason⟩ := interpret_append hsays hrest
    exact h.not_transient hreason
  · intro more hmore
    obtain ⟨reason, hreason⟩ := interpret_append (fun _ => h.not_transient) hmore
    exact putsOff_of_transient hreason

end

def briefBody : String := "\x7b\"transformationStatus\":\"FAILED\"\x7d\n"

theorem briefBody_tells : Tells briefBody := by
  refine Or.inr ⟨[], Or.inr ?_⟩
  decide +kernel

theorem putsOff_briefBody :
    PutsOff "\x7b\"transformationStatus\":\"FAILED\"" ∧ PutsOff (briefBody ++ briefBody) := by
  have hspoils {s : String} (hs : 0x7D ∈ Bytes.ofString s) : ¬ IsBlanks (Bytes.ofString s) := by
    intro h
    simpa using h _ hs
  have h := putsOff_of_tells briefBody_tells
  constructor
  · apply h.1 _ "\x7d\n"
    · decide +kernel
    · exact hspoils (by decide +kernel)
  · exact h.2 _ (hspoils (by decide +kernel))

end Intake.Remote
