import Intake.Proofs.Poll.Slots

/-!
# The crew never comes to a standstill

As long as a task is unfinished or a producer waits for room, someone of the crew can go on, if need be
after some time: a full line does not keep the workers from giving their slots back, and a dispatcher
that has a slot empties the line.
-/

namespace Intake.Poll

namespace Crew

/-- Moves that the crew makes by itself: nobody brings a task, and it is not told to stop. -/
def Move.isOwn : Move → Bool
  | .start | .takeSlot | .takeTask | .work _ | .finish .. => true
  | _ => false

/-- After some time a move of the crew itself is possible. -/
def CanGoOn (c : Crew) : Prop :=
  ∃ span m, m.isOwn ∧ (c.run [.pass span, m]).isSome

variable {c : Crew} {w : Worker} {s : Settings}

theorem canGoOn_of_step {m : Move} (hm : m.isOwn) (span : Millis)
    (h : (Crew.step { c with now := c.now + span } m).isSome) : c.CanGoOn := by
  obtain ⟨c', hc⟩ := Option.isSome_iff_exists.mp h
  refine ⟨span, m, hm, ?_⟩
  simp only [run, step, Option.bind_some] at hc ⊢
  rw [hc]
  rfl

/-- Only a worker that waits for room cannot go on by itself. -/
theorem canGoOn_of_worker (hd : (c.workers.map Worker.number).Nodup) (hw : w ∈ c.workers)
    (hb : w.phase ≠ .blocked) : c.CanGoOn := by
  have hw? : ∀ span : Millis,
      Crew.worker? { c with now := c.now + span } w.number = some w :=
    fun _ => worker?_of_mem hd hw
  cases hp : w.phase with
  | blocked => exact absurd hp hb
  | polling =>
      refine canGoOn_of_step (m := .finish w.number .vanished) rfl 0 ?_
      simp only [step, hw?, Option.bind_some, hp, if_true, Option.isSome_some]
  | resting till =>
      -- The worker sleeps until its task may be polled.
      refine canGoOn_of_step (m := .work w.number) rfl (till - c.now) ?_
      have hle : till ≤ c.now + (till - c.now) := Nat.sub_le_iff_le_add'.mp (Nat.le_refl _)
      simp only [step, hw?, Option.bind_some, advance, hp, hle, if_true, Option.isSome_some]
  | answered o =>
      refine canGoOn_of_step (m := .work w.number) rfl 0 ?_
      simp only [step, hw?, Option.bind_some, advance, hp]
      split <;> rfl
  | returning =>
      refine canGoOn_of_step (m := .work w.number) rfl 0 ?_
      simp only [step, hw?, Option.bind_some, advance, hp]
      split <;> rfl
  | _ =>
      refine canGoOn_of_step (m := .work w.number) rfl 0 ?_
      simp only [step, hw?, Option.bind_some, advance, hp, Option.isSome_some]

/-- A dispatcher without a slot gets one, or a worker that holds one can go on. -/
theorem canGoOn_of_seeking (h : Balanced s c) (hd : (c.workers.map Worker.number).Nodup)
    (hs : c.dispatcher = .seekingSlot) : c.CanGoOn := by
  by_cases hfree : 0 < c.freeSlots
  · refine canGoOn_of_step (m := .takeSlot) rfl 0 ?_
    simp only [step, hs, hfree, and_self, if_true, Option.isSome_some]
  · have hslots := h.slots
    simp only [slots, hs, Dispatcher.slots] at hslots
    have hholders : 0 < c.holders := by omega
    obtain ⟨w, hw, hp⟩ := List.countP_pos_iff.mp hholders
    refine canGoOn_of_worker hd hw fun hb => ?_
    rw [hb] at hp
    cases hp

theorem canGoOn_of_items (hs : c.dispatcher = .holdingSlot) (hi : c.line.items ≠ []) :
    c.CanGoOn := by
  refine canGoOn_of_step (m := .takeTask) rfl 0 ?_
  obtain ⟨t, rest, hi⟩ := List.exists_cons_of_ne_nil hi
  simp only [step, hs, if_true, Option.isSome_map, Line.take?, hi]
  split
  · split <;> rfl
  · rfl

end Crew

variable {s : Settings} {epoch : Millis} {ms : List Crew.Move} {c : Crew}

/-- A task that has been let in and has not ended is in the line or with a worker. -/
theorem Watched.unfinished {g : Ledger} {k : Nat} (h : Watched s c g) (hk : k ∈ g.accepted)
    (he : k ∉ g.ended) : c.line.items ≠ [] ∨ ∃ w ∈ c.workers, w.phase.hasTask := by
  have hplace := h.tracks.shares.mem_iff.mpr hk
  simp only [List.mem_append, he, or_false] at hplace
  rcases hplace with hq | hheld
  · left
    rw [h.tracks.items_eq]
    exact List.ne_nil_of_mem (List.mem_map_of_mem hq)
  · obtain ⟨w, hw, _⟩ := List.mem_map.mp hheld
    exact Or.inr ⟨w, (List.mem_filter.mp hw).1, (List.mem_filter.mp hw).2⟩

/-- A worker that waits for room is among those who wait at the line. -/
theorem Tracks.sender_of_blocked {line : Line Party Task} {ws : List Worker} {w : Worker}
    {hired : Nat} {g : Ledger} (h : Tracks line ws hired g) (hw : w ∈ ws)
    (hb : w.phase = .blocked) : line.senders ≠ [] := by
  have hm : (w.number, g.post w.number) ∈ g.blocked :=
    h.blocked.mem_iff.mpr (List.mem_map.mpr ⟨w, List.mem_filter.mpr ⟨hw, by simp [hb]⟩, rfl⟩)
  obtain ⟨e, he, _⟩ := List.mem_filterMap.mp hm
  rw [h.line_eq]
  exact List.ne_nil_of_mem (List.mem_map_of_mem he)

/-- Whatever moves the crew has made before it is told to stop, it can go on while an accepted task is
unfinished or a producer waits for room. -/
theorem canGoOn_of_run (hr : (Crew.new s epoch).run ms = some c) (hc : c.isCancelled = false)
    (hu : (∃ k ∈ (Ledger.ofRun s epoch ms).accepted, k ∉ (Ledger.ofRun s epoch ms).ended) ∨
      ∃ n t, (Party.producer n, t) ∈ c.line.senders) : c.CanGoOn := by
  have hw := Watched.ofRun hr
  have hb := Crew.Balanced.ofRun hr
  have hd := hw.tracks.nodup
  cases hdisp : c.dispatcher with
  | idle =>
      refine Crew.canGoOn_of_step (m := .start) rfl 0 ?_
      simp only [Crew.step, hdisp, if_true, Option.isSome_some]
  | stopped =>
      have := hb.stopped hdisp
      rw [hc] at this
      cases this
  | seekingSlot => exact Crew.canGoOn_of_seeking hb hd hdisp
  | holdingSlot =>
      by_cases hi : c.line.items = []
      · -- With an empty line nobody waits for room, so the task is with a worker that can go on.
        have hnone : c.line.senders = [] := by
          by_contra hs
          have hfull := hb.line.full hs
          rw [hi, List.length_nil] at hfull
          omega
        rcases hu with ⟨k, hk, he⟩ | ⟨n, t, hs⟩
        · rcases hw.unfinished hk he with hne | ⟨w, hworker, _⟩
          · exact absurd hi hne
          · exact Crew.canGoOn_of_worker hd hworker fun hblocked =>
              hw.tracks.sender_of_blocked hworker hblocked hnone
        · rw [hnone] at hs
          cases hs
      · exact Crew.canGoOn_of_items hdisp hi

/-- The only worker has given its slot back and waits for the room of one, behind it a producer. -/
def contestedRun : List Crew.Move := crowdedRun ++ [.send 2 (.new "c" "/c" 0)]

theorem canGoOn_contestedRun :
    ∃ c, (Crew.new ⟨1, 1, ⟨5, .attempts 3⟩, 1⟩ 0).run contestedRun = some c ∧
      c.isCancelled = false ∧ c.dispatcher = .seekingSlot ∧
      c.line.senders = [(.worker 0, ⟨"a", "/a", 1, 0, some 5⟩), (.producer 2, .new "c" "/c" 0)] ∧
      c.CanGoOn := by
  have hr : ((Crew.new ⟨1, 1, ⟨5, .attempts 3⟩, 1⟩ 0).run contestedRun).isSome := rfl
  obtain ⟨c, hr⟩ := Option.isSome_iff_exists.mp hr
  have hc := hr
  cases hc
  exact ⟨_, hr, rfl, rfl, rfl, canGoOn_of_run hr rfl (Or.inr ⟨2, .new "c" "/c" 0, by decide⟩)⟩

end Intake.Poll
