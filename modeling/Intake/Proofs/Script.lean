import Intake.Script

/-!
# What a script may ask for

A predicate on all the requests of a script, whatever is replied to them.
-/

namespace Intake

namespace Script

variable {Op : Type} {Reply : Op → Type} {α β : Type} {P P' : Op → Prop}

/-- Whatever the replies are, a script asks only for what `P` allows. -/
def Always (P : Op → Prop) : Script Op Reply α → Prop
  | done _ => True
  | ask op next => P op ∧ ∀ r, (next r).Always P

/-- What a script asks for next. -/
def asked? : Script Op Reply α → Option Op
  | done _ => none
  | ask op _ => some op

theorem exists_of_asked? {s : Script Op Reply α} {op : Op} (h : s.asked? = some op) :
    ∃ next, s = ask op next := by
  cases s with
  | done a => cases h
  | ask op' next =>
      obtain rfl := Option.some.inj h
      exact ⟨next, rfl⟩

namespace Always

theorem bind {s : Script Op Reply α} {f : α → Script Op Reply β} (hs : s.Always P)
    (hf : ∀ a, (f a).Always P) : (s >>= f).Always P := by
  induction s with
  | done a => exact hf a
  | ask op next ih => exact ⟨hs.1, fun r => ih r (hs.2 r)⟩

theorem mono {s : Script Op Reply α} (hs : s.Always P) (h : ∀ op, P op → P' op) :
    s.Always P' := by
  induction s with
  | done a => trivial
  | ask op next ih => exact ⟨h op hs.1, fun r => ih r (hs.2 r)⟩

end Always
end Script

end Intake
