import Intake.Proofs.Script
import Intake.Proofs.Store.Volume

/-!
# Work that is cut short

What is left on a volume when a piece of work stops between two primitives or in the middle of one,
or when a primitive fails. Files are written from their start on, and directories made from the top;
moving a file and removing something are done in one piece.
-/

namespace Intake.Store

/-! ## How a piece of work ends -/

namespace Disk

open Volume (handle)

def Op.fail (e : DeviceFault) : (op : Op) → op.Reply
  | .makeDirectories _ => .error e
  | .write .. => .error e
  | .rename .. => .error e
  | .read _ => .error e
  | .removeFile _ => .error e
  | .removeDirectory _ => .error e

/-- What a primitive may leave that has not come to its end. -/
inductive Torn : Op → Volume → Volume → Prop
  | nothing {op : Op} {v : Volume} : Torn op v v
  | whole {op : Op} {v : Volume} : Torn op v (handle op v).2
  | directories {p q : Path} {v : Volume} (h : q <+: p) :
      Torn (.makeDirectories p) v (v.makeDirectories q).2
  | part {p : Path} {content part : Bytes} {v : Volume} (h : part <+: content) :
      Torn (.write p content) v (handle (.write p part) v).2

/-- How a piece of work may end, and on which volume. With faults it may also stop anywhere and then
has no result, and a primitive may fail, but never by taking for missing what is there. -/
inductive Ends (faulty : Prop) {α : Type} : Work α → Volume → Option α → Volume → Prop
  | done {a : α} {v : Volume} : Ends faulty (.done a) v (some a) v
  | answer {op : Op} {next : op.Reply → Work α} {v v' : Volume} {o : Option α}
      (h : Ends faulty (next (handle op v).1) (handle op v).2 o v') :
      Ends faulty (.ask op next) v o v'
  | stop {op : Op} {next : op.Reply → Work α} {v v' : Volume} (hfaulty : faulty)
      (htorn : Torn op v v') : Ends faulty (.ask op next) v none v'
  | fail {op : Op} {next : op.Reply → Work α} {v v₁ v' : Volume} {o : Option α} (hfaulty : faulty)
      (e : DeviceFault) (he : e ≠ .os .notFound) (htorn : Torn op v v₁)
      (h : Ends faulty (next (op.fail e)) v₁ o v') : Ends faulty (.ask op next) v o v'

variable {faulty : Prop} {α β : Type} {w : Work α} {v v' : Volume} {o : Option α}

/-- Work may always come to its end. -/
theorem ends_run (faulty : Prop) (w : Work α) (v : Volume) :
    Ends faulty w v (some (w.run handle v).1) (w.run handle v).2 := by
  induction w generalizing v with
  | done a => exact .done
  | ask op next ih => exact .answer (ih _ _)

namespace Ends

/-- Without faults it does. -/
theorem eq_run (h : Ends faulty w v o v') (hfaulty : ¬ faulty) :
    o = some (w.run handle v).1 ∧ v' = (w.run handle v).2 := by
  induction h with
  | done => exact ⟨rfl, rfl⟩
  | answer _ ih => exact ih
  | stop hf => exact absurd hf hfaulty
  | fail hf => exact absurd hf hfaulty

theorem of_pure {a : α} (h : Ends faulty (pure a) v o v') : o = some a ∧ v' = v := by
  change Ends faulty (.done a) v o v' at h
  cases h
  exact ⟨rfl, rfl⟩

theorem of_bind {k : α → Work β} {o : Option β} (h : Ends faulty (w >>= k) v o v') :
    (o = none ∧ Ends faulty w v none v') ∨
      ∃ a v₁, Ends faulty w v (some a) v₁ ∧ Ends faulty (k a) v₁ o v' := by
  induction w generalizing v with
  | done a => exact Or.inr ⟨a, v, .done, h⟩
  | ask op next ih =>
      cases h with
      | answer h =>
          refine (ih _ h).imp (fun ⟨ho, h⟩ => ⟨ho, .answer h⟩) fun ⟨a, v₁, hw, hk⟩ => ?_
          exact ⟨a, v₁, .answer hw, hk⟩
      | stop hf ht => exact Or.inl ⟨rfl, .stop hf ht⟩
      | fail hf e he ht h =>
          refine (ih _ h).imp (fun ⟨ho, h⟩ => ⟨ho, .fail hf e he ht h⟩) fun ⟨a, v₁, hw, hk⟩ => ?_
          exact ⟨a, v₁, .fail hf e he ht hw, hk⟩

theorem of_map {g : α → β} {o : Option β} (h : Ends faulty (w >>= fun a => pure (g a)) v o v') :
    ∃ o', Ends faulty w v o' v' ∧ o = o'.map g := by
  rcases h.of_bind with ⟨rfl, hw⟩ | ⟨a, v₁, hw, ha⟩
  · exact ⟨none, hw, rfl⟩
  · obtain ⟨rfl, rfl⟩ := ha.of_pure
    exact ⟨some a, hw, rfl⟩

/-- A primitive is answered, or it leaves something torn. -/
theorem of_run {op : Op} {o : Option op.Reply} (h : Ends faulty (run op) v o v') :
    (o = some (handle op v).1 ∧ v' = (handle op v).2) ∨
      (faulty ∧ Torn op v v' ∧ ∀ r, o = some r → ∃ e, e ≠ .os .notFound ∧ r = op.fail e) := by
  change Ends faulty (.ask op .done) v o v' at h
  cases h with
  | answer h => exact Or.inl h.of_pure
  | stop hf ht => exact Or.inr ⟨hf, ht, fun r hr => by cases hr⟩
  | fail hf e he ht h =>
      obtain ⟨rfl, rfl⟩ := h.of_pure
      exact Or.inr ⟨hf, ht, fun r hr => ⟨e, he, (Option.some.inj hr).symm⟩⟩

/-- What every primitive does to a volume, torn or not, the whole work does. -/
theorem preserves {P : Op → Prop} {R : Volume → Prop} (h : Ends faulty w v o v') (hw : w.Always P)
    (htorn : ∀ op v v', P op → Torn op v v' → R v → R v') (hv : R v) : R v' := by
  induction h with
  | done => exact hv
  | answer _ ih => exact ih (hw.2 _) (htorn _ _ _ hw.1 .whole hv)
  | stop _ ht => exact htorn _ _ _ hw.1 ht hv
  | fail _ _ _ ht _ ih => exact ih (hw.2 _) (htorn _ _ _ hw.1 ht hv)

end Ends

/-! ## Work that succeeds, but for faults -/

/-- From `v` on, work succeeds and leaves `A`, or there are faults, it does not and leaves `B`. -/
def Makes (faulty : Prop) {ε : Type} (w : Work (Except ε Unit)) (v : Volume)
    (A B : Volume → Prop) : Prop :=
  ∀ o v', Ends faulty w v o v' →
    A v' ∧ o = some (.ok ()) ∨ faulty ∧ o ≠ some (.ok ()) ∧ B v'

namespace Makes

variable {ε ε' : Type} {w : Work (Except ε Unit)} {A A' B B' : Volume → Prop}

theorem mono (h : Makes faulty w v A B) (hA : ∀ v', A v' → A' v') (hB : ∀ v', B v' → B' v') :
    Makes faulty w v A' B' := fun o v' hends =>
  (h o v' hends).imp (fun hdone => ⟨hA v' hdone.1, hdone.2⟩)
    fun ⟨hfaulty, ho, hleft⟩ => ⟨hfaulty, ho, hB v' hleft⟩

/-- What goes on only after a success goes on from what that leaves. -/
theorem bind {next : Except ε Unit → Work (Except ε' Unit)} (h : Makes faulty w v A B)
    (hfail : ∀ e, ∃ e', next (.error e) = pure (.error e')) (hB : ∀ v', B v' → B' v')
    (hnext : ∀ v₁, A v₁ → Makes faulty (next (.ok ())) v₁ A' B') :
    Makes faulty (w >>= next) v A' B' := by
  intro o v' hends
  rcases hends.of_bind with ⟨rfl, hw⟩ | ⟨reply, v₁, hw, hreply⟩
  · rcases h none v' hw with ⟨_, ho⟩ | ⟨hfaulty, _, hleft⟩
    · cases ho
    · exact Or.inr ⟨hfaulty, by simp, hB v' hleft⟩
  · -- Only a success goes on; an error ends the work at once, with what it has left so far.
    rcases h _ v₁ hw with ⟨hA, ho⟩ | ⟨hfaulty, ho, hleft⟩
    · obtain rfl := Option.some.inj ho
      exact hnext v₁ hA o v' hreply
    · cases reply with
      | ok => exact absurd rfl ho
      | error e =>
          obtain ⟨e', he⟩ := hfail e
          rw [he] at hreply
          obtain ⟨rfl, rfl⟩ := hreply.of_pure
          exact Or.inr ⟨hfaulty, by simp, hB v' hleft⟩

theorem of_pure (hA : A v) : Makes faulty (pure (.ok ()) : Work (Except ε Unit)) v A B := by
  intro o v' hends
  obtain ⟨rfl, rfl⟩ := hends.of_pure
  exact Or.inl ⟨hA, rfl⟩

/-- Work of one primitive, of whose reply `g` makes the result. -/
theorem of_run (op : Op) {g : op.Reply → Except ε Unit}
    (hw : w = run op >>= fun reply => pure (g reply)) (hok : g (handle op v).1 = .ok ())
    (hfail : ∀ e, e ≠ .os .notFound → g (op.fail e) ≠ .ok ()) (hA : A (handle op v).2)
    (hB : ∀ v', Torn op v v' → B v') : Makes faulty w v A B := by
  intro o v' hends
  rw [hw] at hends
  obtain ⟨o, hrun, rfl⟩ := hends.of_map
  rcases hrun.of_run with ⟨rfl, rfl⟩ | ⟨hfaulty, htorn, hfailed⟩
  · exact Or.inl ⟨hA, congrArg some hok⟩
  · refine Or.inr ⟨hfaulty, fun ho => ?_, hB v' htorn⟩
    obtain ⟨reply, ho, hreply⟩ := Option.map_eq_some_iff.mp ho
    obtain ⟨e, he, rfl⟩ := hfailed reply ho
    exact hfail e he hreply

end Makes

/-! ## Work that changes nothing -/

def Op.IsRead : Op → Prop
  | .read _ => True
  | _ => False

theorem Ends.of_reads (h : Ends faulty w v o v') (hw : w.Always Op.IsRead) : v' = v := by
  refine h.preserves (R := fun v' => v' = v) hw (fun op v₁ v₂ hop ht hv => ?_) rfl
  cases op with
  | read => cases ht <;> exact hv
  | _ => exact hop.elim

/-! ## Work in one directory -/

/-- Every path of a primitive leads into one directory. -/
def Op.Under (d : String) : Op → Prop
  | .rename p q => p.head? = some d ∧ q.head? = some d
  | .makeDirectories p => p.head? = some d
  | .write p _ => p.head? = some d
  | .read p => p.head? = some d
  | .removeFile p => p.head? = some d
  | .removeDirectory p => p.head? = some d

end Disk

namespace Volume

open Disk (Op Torn Ends)

variable {v v' : Volume} {d : String} {p : Path}

theorem checkName_of_not_isShort (hd : ¬ IsShort d) : checkName d = .error .nameTooLong := by
  rw [checkName, if_pos (Nat.not_le.mp hd)]

theorem resolve_of_not_isShort (hd : ¬ IsShort d) (hp : p.head? = some d) :
    v.resolve p = .error (if v.hasRoot then .nameTooLong else .notFound) := by
  have hfollow : v.follow [] p = .error .nameTooLong := by
    match p, hp with
    | [_], rfl => exact checkName_of_not_isShort hd
    | _ :: _ :: _, rfl => simp only [follow, checkName_of_not_isShort hd]; rfl
  rw [resolve, hfollow]
  cases v.hasRoot <;> rfl

/-- Nothing can be done in a directory whose name is too long, but that the root is made. -/
theorem handle_of_not_isShort {op : Op} (hd : ¬ IsShort d) (hop : op.Under d) :
    (handle op v).2 = v ∨ (handle op v).2 = { v with hasRoot := true } := by
  cases op with
  | makeDirectories p =>
      match p, hop with
      | _ :: rest, rfl =>
          refine Or.inr ?_
          simp only [handle, makeDirectories, makeBelow, checkName_of_not_isShort hd]
  | write p c =>
      rw [handle, write, resolve_of_not_isShort hd hop]
      exact Or.inl rfl
  | rename p q =>
      rw [handle, rename, resolve_of_not_isShort hd hop.1]
      exact Or.inl rfl
  | read p => exact Or.inl rfl
  | removeFile p =>
      rw [handle, removeFile, resolve_of_not_isShort hd hop]
      exact Or.inl rfl
  | removeDirectory p =>
      rw [handle, removeDirectory, resolve_of_not_isShort hd hop]
      exact Or.inl rfl

theorem torn_of_not_isShort {op : Op} (hd : ¬ IsShort d) (hop : op.Under d) (h : Torn op v v') :
    v' = v ∨ v' = { v with hasRoot := true } := by
  cases h with
  | nothing => exact Or.inl rfl
  | whole => exact handle_of_not_isShort hd hop
  | @directories p q _ hq =>
      match q, hq with
      | [], _ => exact Or.inr rfl
      | c :: rest, hq =>
          obtain ⟨t, rfl⟩ := hq
          have hunder : Op.Under d (.makeDirectories (c :: rest)) := hop
          exact handle_of_not_isShort hd hunder
  | @part p content part _ hpart =>
      have hunder : Op.Under d (.write p part) := hop
      exact handle_of_not_isShort hd hunder

end Volume

theorem Disk.Ends.of_not_isShort {faulty : Prop} {α : Type} {w : Disk.Work α} {v v' : Volume}
    {o : Option α} {d : String} (h : Disk.Ends faulty w v o v') (hw : w.Always (Disk.Op.Under d))
    (hd : ¬ IsShort d) : v' = v ∨ v' = { v with hasRoot := true } := by
  refine h.preserves (R := fun v' => v' = v ∨ v' = { v with hasRoot := true }) hw
    (fun op v₁ v₂ hop ht hv => ?_) (Or.inl rfl)
  rcases hv with rfl | rfl
  · exact Volume.torn_of_not_isShort hd hop ht
  · exact (Volume.torn_of_not_isShort hd hop ht).elim Or.inr Or.inr

/-! ## The root -/

def Disk.Op.LeavesRoot : Disk.Op → Prop
  | .makeDirectories _ => False
  | _ => True

namespace Volume

open Disk (Op Torn)

variable {v v' : Volume} {op : Op}

theorem hasRoot_answer {r : Except Errno Volume} (hr : ∀ v', r = .ok v' → v'.hasRoot = v.hasRoot) :
    (v.answer r).2.hasRoot = v.hasRoot := by
  cases r with
  | error => rfl
  | ok v' => exact hr v' rfl

theorem hasRoot_makeBelow (v : Volume) (at_ p : Path) :
    (v.makeBelow at_ p).2.hasRoot = v.hasRoot := by
  induction p generalizing v at_ with
  | nil => rfl
  | cons name rest ih =>
      rw [makeBelow]
      split
      · rfl
      · exact ih ..
      · rfl
      · exact ih ..

theorem hasRoot_handle (hop : op.LeavesRoot) : (handle op v).2.hasRoot = v.hasRoot := by
  cases op with
  | makeDirectories => exact hop.elim
  | read => rfl
  | write p c =>
      refine hasRoot_answer fun v' h => ?_
      simp only [write, bind, Except.bind] at h
      grind [put, erase]
  | rename p q =>
      refine hasRoot_answer fun v' h => ?_
      simp only [rename, bind, Except.bind] at h
      grind [put, erase]
  | removeFile p =>
      refine hasRoot_answer fun v' h => ?_
      simp only [removeFile, bind, Except.bind] at h
      grind [erase]
  | removeDirectory p =>
      refine hasRoot_answer fun v' h => ?_
      simp only [removeDirectory, bind, Except.bind] at h
      grind [erase]

/-- Only making directories makes the root. -/
theorem hasRoot_torn (hop : op.LeavesRoot) (h : Torn op v v') : v'.hasRoot = v.hasRoot := by
  cases h with
  | nothing => rfl
  | whole => exact hasRoot_handle hop
  | directories => exact hop.elim
  | @part p content part _ _ =>
      have hwrite : Op.LeavesRoot (.write p part) := trivial
      exact hasRoot_handle hwrite

/-- A root that is there stays. -/
theorem hasRoot_of_torn (h : Torn op v v') (hv : v.hasRoot = true) : v'.hasRoot = true := by
  cases op with
  | makeDirectories p =>
      cases h with
      | nothing => exact hv
      | whole => exact hasRoot_makeBelow ..
      | directories => exact hasRoot_makeBelow ..
  | _ => exact (hasRoot_torn (by trivial) h).trans hv

end Volume

namespace Disk.Ends

variable {faulty : Prop} {α : Type} {w : Work α} {v v' : Volume} {o : Option α}

theorem hasRoot_eq (h : Ends faulty w v o v') (hw : w.Always Op.LeavesRoot) :
    v'.hasRoot = v.hasRoot :=
  h.preserves (R := fun v' => v'.hasRoot = v.hasRoot) hw
    (fun _ _ _ hop ht hv => (Volume.hasRoot_torn hop ht).trans hv) rfl

theorem hasRoot (h : Ends faulty w v o v') (hv : v.hasRoot = true) : v'.hasRoot = true := by
  induction h with
  | done => exact hv
  | answer _ ih => exact ih (Volume.hasRoot_of_torn .whole hv)
  | stop _ ht => exact Volume.hasRoot_of_torn ht hv
  | fail _ _ _ ht _ ih => exact ih (Volume.hasRoot_of_torn ht hv)

end Disk.Ends

end Intake.Store
