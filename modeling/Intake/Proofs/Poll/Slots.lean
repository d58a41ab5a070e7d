import Intake.Proofs.Poll.Conservation
import Intake.Proofs.Poll.Transition

/-!
# Slots and room

Two balances that every move of the crew keeps. A slot is free, or it is held by the dispatcher or by
a worker, and there are as many as the settings say. Someone waits for room in the line only while it
is full.
-/

namespace Intake.Poll

/-! ## Room in the line -/

namespace Line

variable {κ α : Type} {l l' : Line κ α}

/-- A line from which only the dispatcher takes, in which nobody waits for room that there is. -/
structure IsTight (l : Line κ α) (capacity : Nat) : Prop where
  capacity_eq : l.capacity = capacity
  receivers : l.receivers = []
  length_le : l.items.length ≤ capacity
  full : l.senders ≠ [] → l.items.length = capacity

/-- What happens to a line at once: nothing, or something comes in, is taken out or withdrawn. -/
inductive Turn [DecidableEq κ] (l : Line κ α) : Line κ α → Prop
  | stay : Turn l l
  | offer {a l'} (h : l.offer a = some l') : Turn l l'
  | send {who a} : Turn l (l.send who a).2
  | take {t} (h : l.take? = some t) : Turn l t.line
  | withdraw {who} : Turn l (l.withdraw who)

namespace IsTight

variable {capacity : Nat}

theorem offer_eq (h : l.IsTight capacity) (a : α) :
    l.offer a =
      if l.items.length < capacity then some { l with items := l.items ++ [a] } else none := by
  simp only [Line.offer, h.receivers, h.capacity_eq]

theorem offer {a : α} (h : l.IsTight capacity) (ho : l.offer a = some l') :
    l'.IsTight capacity := by
  rw [h.offer_eq, Option.ite_none_right_eq_some, Option.some.injEq] at ho
  obtain ⟨hroom, rfl⟩ := ho
  refine ⟨h.capacity_eq, h.receivers, ?_, fun hs => ?_⟩
  · rw [List.length_append, List.length_singleton]
    exact hroom
  · exact absurd (h.full hs) (Nat.ne_of_lt hroom)

theorem send {who : κ} {a : α} (h : l.IsTight capacity) : (l.send who a).2.IsTight capacity := by
  cases ho : l.offer a with
  | some l' =>
      rw [send_of_offer ho]
      exact h.offer ho
  | none =>
      rw [send_of_full ho]
      rw [h.offer_eq, ite_eq_right_iff] at ho
      have hfull : ¬ l.items.length < capacity := fun hroom => by cases ho hroom
      exact ⟨h.capacity_eq, h.receivers, h.length_le, fun _ =>
        Nat.le_antisymm h.length_le (Nat.le_of_not_lt hfull)⟩

theorem take {t : Taken κ α} (h : l.IsTight capacity) (ht : l.take? = some t) :
    t.line.IsTight capacity := by
  have hle := h.length_le
  unfold take? at ht
  split at ht
  · cases ht
  · rename_i a rest hi
    simp only [hi, List.length_cons] at hle
    split at ht
    · rename_i who b others hs
      rw [h.capacity_eq, if_pos (Nat.lt_of_succ_le hle), Option.some.injEq] at ht
      subst ht
      -- Who is let in takes the place of the item that has left.
      have hfull : rest.length + 1 = capacity := by
        have := h.full (by simp [hs])
        rwa [hi, List.length_cons] at this
      exact ⟨rfl, h.receivers, by simpa using hle, fun _ => by simpa using hfull⟩
    · rename_i hs
      cases ht
      exact ⟨h.capacity_eq, h.receivers, Nat.le_of_lt hle, fun hne => absurd hs hne⟩

theorem withdraw [DecidableEq κ] {who : κ} (h : l.IsTight capacity) :
    (l.withdraw who).IsTight capacity := by
  refine ⟨h.capacity_eq, ?_, h.length_le, fun hne => h.full ?_⟩
  · simp only [Line.withdraw, h.receivers, List.filter_nil]
  · intro hnil
    refine hne ?_
    simp only [Line.withdraw, hnil, List.filter_nil]

theorem turn [DecidableEq κ] (h : l.IsTight capacity) (ht : l.Turn l') : l'.IsTight capacity := by
  cases ht with
  | stay => exact h
  | offer ho => exact h.offer ho
  | send => exact h.send
  | take ht => exact h.take ht
  | withdraw => exact h.withdraw

end IsTight
end Line

/-! ## What a move does to the line -/

namespace Crew

variable {c c' : Crew} {w u : Worker}

/-- What a worker does leaves to the dispatcher what is the dispatcher's. -/
structure Frame (c c' : Crew) : Prop where
  turn : c.line.Turn c'.line
  dispatcher : c'.dispatcher = c.dispatcher
  isCancelled : c'.isCancelled = c.isCancelled
  released : c'.released = c.released

theorem frame_conclude (c : Crew) (w : Worker) (d : Decision) : Frame c (c.conclude w d) := by
  cases d <;> exact ⟨.stay, rfl, rfl, rfl⟩

theorem letIn_eq (c : Crew) (who : Option Party) :
    (c.letIn who).line = c.line ∧ (c.letIn who).dispatcher = c.dispatcher ∧
      (c.letIn who).isCancelled = c.isCancelled := by
  cases who with
  | none => exact ⟨rfl, rfl, rfl⟩
  | some who =>
      cases who with
      | producer n => exact ⟨rfl, rfl, rfl⟩
      | worker n =>
          simp only [letIn]
          cases c.worker? n <;> exact ⟨rfl, rfl, rfl⟩

theorem frame_act (h : c.Act w c') : Frame c c' := by
  cases h with
  | conclude => exact frame_conclude c w _
  | judge => exact frame_conclude c w _
  | putIn _ ho => exact ⟨.offer ho, rfl, rfl, rfl⟩
  | send => exact ⟨.send, rfl, rfl, rfl⟩
  | _ => exact ⟨.stay, rfl, rfl, rfl⟩

theorem turn_step {m : Move} (h : c.step m = some c') : c.line.Turn c'.line := by
  cases makes_of_step h with
  | send => exact .send
  | offer ho => exact .offer ho
  | takeTask _ ht =>
      rw [(letIn_eq _ _).1]
      exact .take ht
  | work _ ha => exact (frame_act ha).turn
  | abandon => exact .withdraw
  | abandonHolding => exact .withdraw
  | _ => exact .stay

end Crew

/-! ## Who holds the slots -/

def Dispatcher.slots : Dispatcher → Nat
  | .holdingSlot => 1
  | _ => 0

/-- Who may hold a slot. -/
inductive Holder
  | dispatcher
  | worker (n : Nat)
  deriving Repr, DecidableEq

def Dispatcher.holders : Dispatcher → List Holder
  | .holdingSlot => [.dispatcher]
  | _ => []

def Worker.holders (w : Worker) : List Holder :=
  if w.phase.holdsSlot then [.worker w.number] else []

theorem Worker.holders_of_holdsSlot {w : Worker} (h : w.phase.holdsSlot) :
    w.holders = [.worker w.number] :=
  if_pos h

theorem Worker.holders_of_not_holdsSlot {w : Worker} (h : w.phase.holdsSlot = false) :
    w.holders = [] := by
  simp only [Worker.holders, h, Bool.false_eq_true, if_false]

namespace Crew

variable {c c' : Crew} {w u : Worker} {s : Settings} {g : Ledger}

def holders (c : Crew) : Nat := c.workers.countP fun w => w.phase.holdsSlot

/-- All slots: those that are free, that of the dispatcher, and those of the workers. -/
def slots (c : Crew) : Nat := c.freeSlots + c.dispatcher.slots + c.holders

/-- Who holds a slot, going by where each of them is. -/
def taken (c : Crew) : List Holder := c.dispatcher.holders ++ c.workers.flatMap Worker.holders

theorem slots_eq (c : Crew) : c.slots = c.freeSlots + c.taken.length := by
  have hworkers : ∀ ws : List Worker,
      (ws.flatMap Worker.holders).length = ws.countP fun w => w.phase.holdsSlot := by
    intro ws
    induction ws with
    | nil => rfl
    | cons w ws ih =>
        rw [List.flatMap_cons, List.length_append, ih, List.countP_cons, Worker.holders,
          apply_ite List.length, Nat.add_comm]
        rfl
  have hdispatcher : c.dispatcher.holders.length = c.dispatcher.slots := by
    cases c.dispatcher <;> rfl
  rw [slots, holders, taken, List.length_append, hworkers, hdispatcher, Nat.add_assoc]

/-- What a move does with the slots: it leaves them where they are, or who makes it gives one back or
takes one, or the dispatcher hands its own to the worker that it hires. -/
inductive Deal (c c' : Crew) (who : Holder) : Prop
  | keep (free : c'.freeSlots = c.freeSlots) (hired : c'.hired = c.hired)
      (taken : c.taken.Perm c'.taken)
  | give (free : c'.freeSlots = c.freeSlots + 1) (taken : c.taken.Perm (who :: c'.taken))
  | take (free : c.freeSlots = c'.freeSlots + 1) (taken : c'.taken.Perm (who :: c.taken))
  | handOver {hs : List Holder} (free : c'.freeSlots = c.freeSlots)
      (hired : c'.hired = c.hired + 1) (before : c.taken.Perm (.dispatcher :: hs))
      (after : c'.taken.Perm (.worker c.hired :: hs))

/-- No deal makes a slot, and none loses one. -/
theorem Deal.slots_eq {who : Holder} (h : Deal c c' who) : c'.slots = c.slots := by
  rw [Crew.slots_eq, Crew.slots_eq]
  cases h with
  | keep free _ taken => rw [free, taken.length_eq]
  | give free taken =>
      rw [free, taken.length_eq, List.length_cons]
      omega
  | take free taken =>
      rw [free, taken.length_eq, List.length_cons]
      omega
  | handOver free _ before after =>
      rw [free, before.length_eq, after.length_eq, List.length_cons, List.length_cons]

/-! ### One worker's slot among the others -/

theorem taken_split (hd : (c.workers.map Worker.number).Nodup) (hw : w ∈ c.workers) :
    ∃ rest, c.taken.Perm (w.holders ++ rest) ∧
      (∀ u, u.number = w.number → (c.put u).taken.Perm (u.holders ++ rest)) ∧
      (c.dismiss w.number).taken = rest := by
  obtain ⟨rest, hperm, hput, hrest⟩ := split hd hw
  have hfront : ∀ {ws : List Worker} {v : Worker}, ws.Perm (v :: rest) →
      (c.dispatcher.holders ++ ws.flatMap Worker.holders).Perm
        (v.holders ++ (c.dispatcher.holders ++ rest.flatMap Worker.holders)) := fun hws =>
    ((hws.flatMap_right Worker.holders).append_left _).trans (List.perm_append_comm_assoc ..)
  refine ⟨c.dispatcher.holders ++ rest.flatMap Worker.holders, hfront hperm,
    fun u hu => hfront (hput u hu), ?_⟩
  show c.dispatcher.holders ++ (c.dismiss w.number).workers.flatMap Worker.holders = _
  rw [hrest]

theorem taken_put (hd : (c.workers.map Worker.number).Nodup) (hw : w ∈ c.workers)
    (hn : u.number = w.number) (hs : u.phase.holdsSlot = w.phase.holdsSlot) :
    c.taken.Perm (c.put u).taken := by
  obtain ⟨rest, hperm, hput, _⟩ := taken_split hd hw
  have hsame : u.holders = w.holders := by rw [Worker.holders, Worker.holders, hs, hn]
  exact hperm.trans (hsame ▸ (hput u hn).symm)

theorem taken_put_of_release (hd : (c.workers.map Worker.number).Nodup) (hw : w ∈ c.workers)
    (hn : u.number = w.number) (hs : w.phase.holdsSlot) (hs' : u.phase.holdsSlot = false) :
    c.taken.Perm (.worker w.number :: (c.put u).taken) := by
  obtain ⟨rest, hperm, hput, _⟩ := taken_split hd hw
  have hrest := hput u hn
  rw [Worker.holders_of_not_holdsSlot hs', List.nil_append] at hrest
  rw [Worker.holders_of_holdsSlot hs] at hperm
  exact hperm.trans (hrest.symm.cons _)

theorem taken_dismiss (hd : (c.workers.map Worker.number).Nodup) (hw : w ∈ c.workers) :
    c.taken.Perm (w.holders ++ (c.dismiss w.number).taken) := by
  obtain ⟨rest, hperm, _, rfl⟩ := taken_split hd hw
  exact hperm

theorem taken_conclude (hd : (c.workers.map Worker.number).Nodup) (hw : w ∈ c.workers)
    (hp : w.phase.holdsSlot) (d : Decision) : c.taken.Perm (c.conclude w d).taken := by
  cases d with
  | putBack t => exact taken_put (c := c.record w.task (.putBack t)) hd hw rfl hp.symm
  | finish v => exact taken_put (c := c.record w.task (.finish v)) hd hw rfl hp.symm
  | drop => exact taken_put (c := c.record w.task .drop) hd hw rfl hp.symm
  | giveUp l => exact taken_put (c := c.record w.task (.giveUp l)) hd hw rfl hp.symm

theorem counts_conclude (c : Crew) (w : Worker) (d : Decision) :
    (c.conclude w d).freeSlots = c.freeSlots ∧ (c.conclude w d).hired = c.hired := by
  cases d <;> exact ⟨rfl, rfl⟩

/-- A worker that is let in had given its slot back. -/
theorem taken_letIn (hd : (c.workers.map Worker.number).Nodup) {who : Option Party}
    (hb : ∀ n, who = some (.worker n) → ∀ w ∈ c.workers, w.number = n → w.phase = .blocked) :
    c.taken.Perm (c.letIn who).taken := by
  cases who with
  | none => rfl
  | some who =>
      cases who with
      | producer n => exact .refl _
      | worker n =>
          simp only [letIn]
          cases hw? : c.worker? n with
          | none => exact .refl _
          | some w =>
              obtain ⟨hw, hn⟩ := worker?_eq_some hw?
              exact taken_put hd hw rfl (by rw [hb n rfl w hw hn]; rfl)

theorem counts_letIn (c : Crew) (who : Option Party) :
    (c.letIn who).freeSlots = c.freeSlots ∧ (c.letIn who).hired = c.hired := by
  cases who with
  | none => exact ⟨rfl, rfl⟩
  | some who =>
      cases who with
      | producer n => exact ⟨rfl, rfl⟩
      | worker n =>
          simp only [letIn]
          cases c.worker? n <;> exact ⟨rfl, rfl⟩

/-! ### What each move does -/

theorem deal_act (hd : (c.workers.map Worker.number).Nodup) (hw : w ∈ c.workers)
    (h : c.Act w c') : Deal c c' (.worker w.number) := by
  cases h with
  | begin hp => exact .keep rfl rfl (taken_put hd hw rfl (by rw [hp]; rfl))
  | rest hp => exact .keep rfl rfl (taken_put hd hw rfl (by rw [hp]; rfl))
  | wake hp => exact .keep rfl rfl (taken_put hd hw rfl (by rw [hp]; rfl))
  | conclude hp =>
      exact .keep (counts_conclude c w _).1 (counts_conclude c w _).2
        (taken_conclude hd hw (by rw [hp]; rfl) _)
  | renew hp => exact .keep rfl rfl (taken_put hd hw rfl (by rw [hp]; rfl))
  | judge hp =>
      exact .keep (counts_conclude c w _).1 (counts_conclude c w _).2
        (taken_conclude hd hw (by rw [hp]; rfl) _)
  | putIn hp => exact .keep rfl rfl (taken_put hd hw rfl (by rw [hp]; rfl))
  | tell hp => exact .keep rfl rfl (taken_put hd hw rfl (by rw [hp]; rfl))
  | refuse hp => exact .keep rfl rfl (taken_put hd hw rfl (by rw [hp]; rfl))
  | stepAside hp =>
      exact .give rfl (taken_put_of_release (c := c.count .queueOverflow) hd hw rfl
        (by rw [hp]; rfl) rfl)
  | send hp =>
      refine .keep rfl rfl (taken_put hd hw rfl ?_)
      rw [hp]
      dsimp only
      split <;> rfl
  | follow hp => exact .keep rfl rfl (taken_put hd hw rfl (by rw [hp]; rfl))
  | leave hp => exact .give rfl (taken_put_of_release hd hw rfl (by rw [hp]; rfl) rfl)
  | depart hp =>
      have hgone := taken_dismiss hd hw
      rw [Worker.holders_of_not_holdsSlot (by rw [hp]; rfl)] at hgone
      exact .keep rfl rfl hgone

theorem nodup_hire (h : Watched s c g) (t : Line.Taken Party Task) :
    ((c.hire t).workers.map Worker.number).Nodup := by
  simp only [hire, List.map_append, List.map_cons, List.map_nil]
  refine List.nodup_append'.mpr ⟨h.tracks.nodup, List.nodup_singleton _, ?_⟩
  rw [List.disjoint_singleton]
  intro hm
  obtain ⟨w, hw, hn⟩ := List.mem_map.mp hm
  exact absurd hn (Nat.ne_of_lt (h.tracks.numbered w hw))

/-- The slot of the dispatcher goes to the worker that it hires. -/
theorem deal_takeTask (h : Watched s c g) (hheld : c.dispatcher = .holdingSlot)
    {t : Line.Taken Party Task} (ht : c.line.take? = some t) :
    Deal c ((c.hire t).letIn t.admitted) .dispatcher := by
  have hhired : (c.hire t).taken.Perm (.worker c.hired :: c.workers.flatMap Worker.holders) := by
    simp only [taken, hire, Dispatcher.holders, List.flatMap_append, List.nil_append,
      List.flatMap_singleton]
    exact List.perm_append_singleton _ _
  have hbefore : c.taken.Perm (.dispatcher :: c.workers.flatMap Worker.holders) := by
    rw [taken, hheld]
    exact .refl _
  refine .handOver (counts_letIn (c.hire t) _).1 (counts_letIn (c.hire t) _).2 hbefore
    ((taken_letIn (nodup_hire h t) ?_).symm.trans hhired)
  intro n hn w hw hwn
  obtain ⟨rest, hi, ⟨hnone, _⟩ | ⟨who, b, others, hs, hsome, _⟩⟩ := Line.take?_eq_some ht
  · rw [hnone] at hn
    cases hn
  · rw [hsome, Option.some.injEq] at hn
    subst hn
    have hblocked : (⟨n, b, .blocked⟩ : Worker) ∈ (c.hire t).workers :=
      List.mem_append_left _ (h.tracks.blocked_of_sender (by simp [hs]))
    rw [List.inj_on_of_nodup_map (nodup_hire h t) hw hblocked hwn]

/-- Who makes a move, as far as slots go. -/
def Move.mover : Move → Holder
  | .work n | .finish n _ | .abandon n => .worker n
  | _ => .dispatcher

theorem deal_step {m : Move} (h : Watched s c g) (hc : c.step m = some c') :
    Deal c c' m.mover := by
  have hd := h.tracks.nodup
  cases makes_of_step hc with
  | start hidle =>
      refine .keep rfl rfl ?_
      simp only [taken, report, hidle, Dispatcher.holders]
      exact .refl _
  | takeSlot hseek hfree =>
      refine .take (Nat.sub_add_cancel hfree).symm ?_
      simp only [taken, hseek, Dispatcher.holders]
      exact .refl _
  | takeTask hheld ht => exact deal_takeTask h hheld ht
  | work hw ha => exact deal_act hd hw ha
  | finish hw hp => exact .keep rfl rfl (taken_put hd hw rfl (by rw [hp]; rfl))
  | stop _ hseek =>
      refine .keep rfl rfl ?_
      simp only [taken, report, hseek, Dispatcher.holders]
      exact .refl _
  | stopHolding _ hheld =>
      refine .give rfl ?_
      simp only [taken, report, freeSlot, hheld, Dispatcher.holders]
      exact .refl _
  | abandon hw _ _ hs => exact .keep rfl rfl (taken_put hd hw rfl hs.symm)
  | abandonHolding hw _ _ hs => exact .give rfl (taken_put_of_release (c := c.freeSlot) hd hw rfl hs rfl)
  | _ => exact .keep rfl rfl (.refl _)

/-! ## Along a run -/

theorem stopped_step {m : Move} (h : c.dispatcher = .stopped → c.isCancelled)
    (hc : c.step m = some c') : c'.dispatcher = .stopped → c'.isCancelled := by
  intro hd
  cases makes_of_step hc with
  | start => cases hd
  | takeSlot => cases hd
  | takeTask =>
      rw [(letIn_eq _ _).2.1] at hd
      cases hd
  | work _ ha =>
      have hf := frame_act ha
      rw [hf.isCancelled]
      exact h (hf.dispatcher ▸ hd)
  | cancel => rfl
  | stop hcancelled => exact hcancelled
  | stopHolding hcancelled => exact hcancelled
  | abandon _ hcancelled => exact hcancelled
  | abandonHolding _ hcancelled => exact hcancelled
  | _ => exact h hd

/-- What the slots, the line and the dispatcher of a crew with the settings `s` keep to. -/
structure Balanced (s : Settings) (c : Crew) : Prop where
  slots : c.slots = max s.poolSize 1
  line : c.line.IsTight (max s.queueCapacity 1)
  stopped : c.dispatcher = .stopped → c.isCancelled

namespace Balanced

theorem new (s : Settings) (epoch : Millis) : Balanced s (Crew.new s epoch) :=
  ⟨rfl, ⟨rfl, rfl, Nat.zero_le _, fun h => absurd rfl h⟩, by simp [Crew.new]⟩

theorem step {m : Move} (h : Balanced s c) (hw : Watched s c g) (hc : c.step m = some c') :
    Balanced s c' :=
  ⟨(deal_step hw hc).slots_eq.trans h.slots, h.line.turn (turn_step hc), stopped_step h.stopped hc⟩

theorem ofRun {epoch : Millis} {ms : List Move} (hr : (Crew.new s epoch).run ms = some c) :
    Balanced s c :=
  Watched.keeps_along step (new s epoch) (.new s epoch) hr

end Balanced
end Crew
end Intake.Poll
