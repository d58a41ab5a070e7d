import Intake.Proofs.Poll.Ledger

/-!
# The life of one task

What the file of a task says at any moment, by where the task is: each poll began when the value it
polled was due, and each value but the first is the follow-up of the one before it, dated after the
poll returned and found within the budget after that.
-/

namespace Intake.Poll

/-- What a task keeps when it is followed up. -/
def Task.identity (t : Task) : String × String × Millis := (t.dataset, t.statusUrl, t.createdAt)

@[simp] theorem Task.next_identity (t : Task) (now wait : Millis) :
    (t.next now wait).identity = t.identity := rfl

namespace Visit

/-- The poll returned `o`, and `t` is the follow-up that was made after that, before `now`. -/
def FollowedBy (p : Policy) (v : Visit) (o : Outcome) (t : Task) (now : Millis) : Prop :=
  ∃ returned made, v.answer = some (returned, o) ∧ returned ≤ made ∧ made ≤ now ∧
    t = v.task.next made p.wait

/-- `t` is a follow-up that was found within the budget before `now`. -/
def KeptAs (p : Policy) (v : Visit) (t : Task) (now : Millis) : Prop :=
  ∃ reason judged, v.FollowedBy p (.retry reason) t judged ∧ judged ≤ now ∧
    p.isExhausted t judged = false

/-- The poll did not begin before its task was due, nor return before it began. -/
def IsPunctual (v : Visit) : Prop :=
  (∀ b, v.task.notBefore = some b → b ≤ v.begunAt) ∧ ∀ t o, v.answer = some (t, o) → v.begunAt ≤ t

variable {p : Policy} {v : Visit} {o : Outcome} {t : Task} {now later : Millis}

theorem FollowedBy.mono (h : v.FollowedBy p o t now) (hle : now ≤ later) :
    v.FollowedBy p o t later := by
  obtain ⟨returned, made, ha, hr, hm, ht⟩ := h
  exact ⟨returned, made, ha, hr, Nat.le_trans hm hle, ht⟩

theorem FollowedBy.identity (h : v.FollowedBy p o t now) : t.identity = v.task.identity := by
  obtain ⟨_, _, _, _, _, rfl⟩ := h
  rfl

theorem KeptAs.mono (h : v.KeptAs p t now) (hle : now ≤ later) : v.KeptAs p t later := by
  obtain ⟨reason, judged, hf, hj, hx⟩ := h
  exact ⟨reason, judged, hf, Nat.le_trans hj hle, hx⟩

theorem KeptAs.answered (h : v.KeptAs p t now) : v.answer ≠ none := by
  obtain ⟨_, _, ⟨_, _, ha, _⟩, _⟩ := h
  simp [ha]

end Visit

/-- `t` is what is to be polled next after the polls `vs`. -/
def Due (p : Policy) (origin : Task) (since : Millis) : List Visit → Task → Millis → Prop
  | [], t, now => t = origin ∧ since ≤ now
  | v :: _, t, now => v.KeptAs p t now

/-- The polls of a task, latest first, each of a value that was due. -/
inductive History (p : Policy) (origin : Task) (since : Millis) : List Visit → Prop
  | nil : History p origin since []
  | visit {v vs} (earlier : History p origin since vs)
      (due : Due p origin since vs v.task v.begunAt) (punctual : v.IsPunctual) :
      History p origin since (v :: vs)

theorem Due.identity {p : Policy} {origin : Task} {since : Millis} {vs : List Visit} {t : Task}
    {now : Millis} (h : Due p origin since vs t now)
    (hvs : ∀ v ∈ vs, v.task.identity = origin.identity) : t.identity = origin.identity := by
  cases vs with
  | nil => rw [h.1]
  | cons v vs =>
      obtain ⟨_, _, hf, _⟩ := h
      exact hf.identity.trans (hvs v (List.mem_cons_self ..))

theorem History.identity {p : Policy} {origin : Task} {since : Millis} {vs : List Visit}
    (h : History p origin since vs) : ∀ v ∈ vs, v.task.identity = origin.identity := by
  induction h with
  | nil => simp
  | visit earlier due punctual ih =>
      intro v hv
      rcases List.mem_cons.mp hv with rfl | hv
      · exact due.identity ih
      · exact ih v hv

/-- A settled decision, and the poll from which it follows. -/
def Visit.Decides (p : Policy) (v : Visit) (t : Task) (d : Decision) : Prop :=
  ∃ o judged date, d = p.decide t o judged date ∧ d.isFinal ∧
    ((o.isFinal = true ∧ v.task = t ∧ ∃ returned, v.answer = some (returned, o)) ∨
      v.FollowedBy p o t judged)

namespace File

/-- What holds of the latest poll and the present value of a task, by where the task is. -/
def Stands (p : Policy) (now : Millis) (f : File) : Place → Prop
  | .waiting | .lined => Due p f.origin f.broughtAt f.visits f.value now
  | .held (.resting till) => Due p f.origin f.broughtAt f.visits f.value now ∧
      ∀ b, f.value.notBefore = some b → b ≤ till
  | .held .polling => ∃ v vs, f.visits = v :: vs ∧ v.task = f.value ∧ v.answer = none ∧
      v.begunAt ≤ now
  | .held (.answered o) => ∃ v vs returned, f.visits = v :: vs ∧ v.task = f.value ∧
      v.answer = some (returned, o) ∧ returned ≤ now
  | .held (.judging o) => ∃ v vs, f.visits = v :: vs ∧ v.FollowedBy p o f.value now
  | .held .returning => ∃ v vs, f.visits = v :: vs ∧ v.KeptAs p f.value now
  | .held .hired | .held .refused | .held .aside | .held .blocked =>
      Due p f.origin f.broughtAt f.visits f.value now
  | .ended (.settled d) => ∃ v vs, f.visits = v :: vs ∧ v.Decides p f.value d
  | .nowhere | .held .returned | .held .admitted | .held (.leaving _) | .held .departing
  | .ended .abandoned => True

/-- The file of a task is in order. -/
structure Sound (p : Policy) (now : Millis) (f : File) : Prop where
  history : History p f.origin f.broughtAt f.visits
  stands : f.Stands p now f.place
  identity : ∀ t ∈ f.value :: f.returns, t.identity = f.origin.identity
  kept : ∀ t ∈ f.returns, ∃ v ∈ f.visits, v.KeptAs p t now

end File

def Place.isDue : Place → Bool
  | .waiting | .lined | .held .hired | .held .refused | .held .aside | .held .blocked => true
  | _ => false

variable {p : Policy} {now later : Millis} {f : File}

theorem Due.mono {origin since vs t} (h : Due p origin since vs t now) (hle : now ≤ later) :
    Due p origin since vs t later := by
  cases vs with
  | nil => exact ⟨h.1, Nat.le_trans h.2 hle⟩
  | cons v vs => exact Visit.KeptAs.mono h hle

namespace File

theorem stands_of_isDue {l : Place} (hl : l.isDue) :
    f.Stands p now l ↔ Due p f.origin f.broughtAt f.visits f.value now := by
  cases l with
  | waiting => exact Iff.rfl
  | lined => exact Iff.rfl
  | held ph => cases ph <;> first | exact Iff.rfl | cases hl
  | nowhere => cases hl
  | ended e => cases hl

theorem Stands.mono {l : Place} (h : f.Stands p now l) (hle : now ≤ later) :
    f.Stands p later l := by
  cases l with
  | waiting => exact Due.mono h hle
  | lined => exact Due.mono h hle
  | nowhere => trivial
  | ended e => cases e <;> exact h
  | held ph =>
      cases ph with
      | resting till => exact ⟨Due.mono h.1 hle, h.2⟩
      | polling =>
          obtain ⟨v, vs, hv, ht, ha, hb⟩ := h
          exact ⟨v, vs, hv, ht, ha, Nat.le_trans hb hle⟩
      | answered o =>
          obtain ⟨v, vs, returned, hv, ht, ha, hr⟩ := h
          exact ⟨v, vs, returned, hv, ht, ha, Nat.le_trans hr hle⟩
      | judging o =>
          obtain ⟨v, vs, hv, hf⟩ := h
          exact ⟨v, vs, hv, hf.mono hle⟩
      | returning =>
          obtain ⟨v, vs, hv, hk⟩ := h
          exact ⟨v, vs, hv, hk.mono hle⟩
      | returned => trivial
      | admitted => trivial
      | leaving d => trivial
      | departing => trivial
      | _ => exact Due.mono h hle

namespace Sound

theorem mono (h : f.Sound p now) (hle : now ≤ later) : f.Sound p later :=
  ⟨h.history, h.stands.mono hle, h.identity, fun t ht =>
    let ⟨v, hv, hk⟩ := h.kept t ht; ⟨v, hv, hk.mono hle⟩⟩

theorem due (h : f.Sound p now) (hl : f.place.isDue) :
    Due p f.origin f.broughtAt f.visits f.value now :=
  (stands_of_isDue hl).mp h.stands

/-! ## What a move does to a file -/

theorem new (t : Task) {l : Place} (hl : l.isDue) : (File.new t now l).Sound p now where
  history := .nil
  stands := (stands_of_isDue hl).mpr ⟨rfl, Nat.le_refl _⟩
  identity := by simp [File.new]
  kept := by simp [File.new]

theorem move {l : Place} (h : f.Sound p now) (hs : f.Stands p now l) : (f.move l).Sound p now :=
  ⟨h.history, hs, h.identity, h.kept⟩

theorem pass {l : Place} (h : f.Sound p now) (hf : f.place.isDue) (hl : l.isDue) :
    (f.move l).Sound p now :=
  h.move ((stands_of_isDue hl).mpr (h.due hf))

theorem begin (h : f.Sound p now) (hd : Due p f.origin f.broughtAt f.visits f.value now)
    (hb : ∀ b, f.value.notBefore = some b → b ≤ now) : (f.begin now).Sound p now where
  history := .visit h.history hd ⟨hb, by simp⟩
  stands := ⟨_, _, rfl, rfl, rfl, Nat.le_refl _⟩
  identity := h.identity
  kept := fun t ht =>
    let ⟨v, hv, hk⟩ := h.kept t ht; ⟨v, List.mem_cons_of_mem _ hv, hk⟩

theorem answer (o : Outcome) (h : f.Sound p now) (hf : f.place = .held .polling) :
    (f.answer now o).Sound p now := by
  have hs := h.stands
  rw [hf] at hs
  obtain ⟨v, vs, hv, ht, ha, hb⟩ := hs
  have hh := h.history
  rw [hv] at hh
  cases hh with
  | visit earlier due punctual =>
      refine ⟨?_, ?_, h.identity, ?_⟩
      · simp only [File.answer, hv, List.modifyHead_cons]
        refine .visit earlier due ⟨punctual.1, ?_⟩
        rintro _ _ ⟨⟩
        exact hb
      · exact ⟨{ v with answer := some (now, o) }, vs, now,
          by simp only [File.answer, hv, List.modifyHead_cons], ht, rfl, Nat.le_refl _⟩
      · intro t hr
        obtain ⟨w, hw, hk⟩ := h.kept t hr
        -- The poll that has just returned has no follow-up yet, so `w` is an earlier one.
        rw [hv] at hw
        rcases List.mem_cons.mp hw with rfl | hw
        · exact absurd ha hk.answered
        · refine ⟨w, ?_, hk⟩
          simp only [File.answer, hv, List.modifyHead_cons]
          exact List.mem_cons_of_mem _ hw

theorem renew {o : Outcome} (h : f.Sound p now) (hf : f.place = .held (.answered o)) :
    (f.renew now p.wait o).Sound p now := by
  have hs := h.stands
  rw [hf] at hs
  obtain ⟨v, vs, returned, hv, ht, ha, hr⟩ := hs
  refine ⟨h.history, ⟨v, vs, hv, returned, now, ha, hr, Nat.le_refl _, ?_⟩, ?_, h.kept⟩
  · rw [ht]; rfl
  · intro t hm
    rcases List.mem_cons.mp hm with rfl | hm
    · exact (Task.next_identity ..).trans (h.identity _ (by simp))
    · exact h.identity t (List.mem_cons_of_mem _ hm)

/-- A poll that ends a task is decided about at once. -/
theorem conclude_answered {o : Outcome} {date : Millis} (h : f.Sound p now)
    (hf : f.place = .held (.answered o)) (ho : o.isFinal) :
    (f.conclude (p.decide f.value o now date)).Sound p now := by
  have hs := h.stands
  rw [hf] at hs
  obtain ⟨v, vs, returned, hv, ht, ha, _⟩ := hs
  cases o with
  | finalized x =>
      exact h.move ⟨v, vs, hv, .finalized x, now, date, rfl, rfl,
        Or.inl ⟨rfl, ht, _, ha⟩⟩
  | vanished =>
      exact h.move ⟨v, vs, hv, .vanished, now, date, rfl, rfl,
        Or.inl ⟨rfl, ht, _, ha⟩⟩
  | rejected reason => cases ho
  | retry reason => cases ho

theorem conclude_judging {o : Outcome} {date : Millis} (h : f.Sound p now)
    (hf : f.place = .held (.judging o)) :
    (f.conclude (p.decide f.value o now date)).Sound p now := by
  have hs := h.stands
  rw [hf] at hs
  obtain ⟨v, vs, hv, hfollow⟩ := hs
  cases hd : p.decide f.value o now date with
  | putBack t =>
      -- Only a retry within the budget puts a task back.
      cases o with
      | retry reason =>
          refine h.move ?_
          cases hx : p.isExhausted f.value now with
          | true => simp [Policy.decide, hx] at hd
          | false => exact ⟨v, vs, hv, reason, now, hfollow, Nat.le_refl _, hx⟩
      | _ => simp [Policy.decide] at hd
  | _ => exact h.move ⟨v, vs, hv, o, now, date, hd.symm, rfl, Or.inr hfollow⟩

theorem bringBack {l : Place} (h : f.Sound p now) (hf : f.place = .held .returning)
    (hl : l.isDue) : (f.bringBack l).Sound p now := by
  have hs := h.stands
  rw [hf] at hs
  obtain ⟨v, vs, hv, hk⟩ := hs
  refine ⟨h.history, (stands_of_isDue hl).mpr ?_, ?_, ?_⟩
  · simp only [File.bringBack, hv]
    exact hk
  · intro t ht
    rcases List.mem_cons.mp ht with rfl | ht
    · exact h.identity _ (by simp [File.bringBack])
    · exact h.identity t ht
  · intro t ht
    rcases List.mem_cons.mp ht with rfl | ht
    · exact ⟨v, by simp [File.bringBack, hv], hk⟩
    · exact h.kept t ht

end Sound
end File
end Intake.Poll
