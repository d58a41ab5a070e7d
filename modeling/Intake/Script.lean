/-!
# Scripts

A piece of work as data: it is done with a result, or it asks for something and goes on with the
reply. What a request does is left to whoever runs the script, so the same script can be run against
any surroundings, and several scripts can be run request by request in any order.
-/

namespace Intake

/-- Work that asks for things of type `Op`, each with its type of replies. -/
inductive Script (Op : Type) (Reply : Op → Type) (α : Type) where
  | done (a : α)
  | ask (op : Op) (next : Reply op → Script Op Reply α)

namespace Script

variable {Op : Type} {Reply : Op → Type} {α β γ : Type}

/-- One piece of work after another. -/
def bind : Script Op Reply α → (α → Script Op Reply β) → Script Op Reply β
  | done a, f => f a
  | ask op next, f => ask op fun r => (next r).bind f

instance : Monad (Script Op Reply) where
  pure := done
  bind := bind

def request (op : Op) : Script Op Reply (Reply op) := ask op done

@[simp] theorem bind_done (a : α) (f : α → Script Op Reply β) :
    (done a : Script Op Reply α) >>= f = f a := rfl

@[simp] theorem bind_ask (op : Op) (next : Reply op → Script Op Reply α)
    (f : α → Script Op Reply β) : ask op next >>= f = ask op fun r => next r >>= f := rfl

theorem bind_pure_self (s : Script Op Reply α) : s >>= pure = s := by
  induction s with
  | done a => rfl
  | ask op next ih => exact congrArg (ask op) (funext ih)

theorem bind_bind (s : Script Op Reply α) (f : α → Script Op Reply β)
    (g : β → Script Op Reply γ) : (s >>= f) >>= g = s >>= fun a => f a >>= g := by
  induction s with
  | done a => rfl
  | ask op next ih => exact congrArg (ask op) (funext ih)

instance : LawfulMonad (Script Op Reply) :=
  LawfulMonad.mk' _ bind_pure_self (fun _ _ => rfl) bind_bind

/-- Runs a script to its end, every request being answered by `handle`. -/
def run {σ : Type} (handle : (op : Op) → σ → Reply op × σ) : Script Op Reply α → σ → α × σ
  | done a, s => (a, s)
  | ask op next, s => let (r, s) := handle op s; (next r).run handle s

/-- Carries a script out in a monad, in which `handle` answers its requests. -/
def carryOut {m : Type → Type} [Monad m] (handle : (op : Op) → m (Reply op)) :
    Script Op Reply α → m α
  | done a => pure a
  | ask op next => do (next (← handle op)).carryOut handle

/-- Runs a script until it is done or asks for something that cannot be answered now. -/
def runWhile {σ : Type} (handle : (op : Op) → σ → Option (Reply op × σ)) :
    Script Op Reply α → σ → Script Op Reply α × σ
  | done a, s => (done a, s)
  | ask op next, s =>
    match handle op s with
    | none => (ask op next, s)
    | some (r, s) => (next r).runWhile handle s

def result? : Script Op Reply α → Option α
  | done a => some a
  | ask .. => none

theorem run_bind {σ : Type} (handle : (op : Op) → σ → Reply op × σ) (s : Script Op Reply α)
    (f : α → Script Op Reply β) (st : σ) :
    (s >>= f).run handle st = (f (s.run handle st).1).run handle (s.run handle st).2 := by
  induction s generalizing st with
  | done a => rfl
  | ask op next ih => exact ih _ _

end Script
end Intake
