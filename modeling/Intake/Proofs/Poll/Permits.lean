import Intake.Proofs.Poll.Slots

/-!
# The bound on polls

A book of slots is kept beside a run by someone who sees the free slots, who moves and who is hired, but
not where anyone is. Whoever takes a slot is written in, and whoever gives one back is struck out. The
book agrees with where everyone is after every move, so no more polls are in flight than there are slots.
-/

namespace Intake.Poll

/-- Whether a worker waits out the interval of its task or polls. -/
def Phase.isTending : Phase → Bool
  | .resting _ | .polling => true
  | _ => false

theorem Phase.holdsSlot_of_isTending {p : Phase} (h : p.isTending) : p.holdsSlot := by
  cases p with
  | resting => rfl
  | polling => rfl
  | _ => cases h

theorem Dispatcher.mem_holders {d : Dispatcher} {h : Holder} :
    h ∈ d.holders ↔ d = .holdingSlot ∧ h = .dispatcher := by
  cases d <;> simp [Dispatcher.holders]

namespace Crew

/-! ## The book of slots -/

/-- What a move from `c` to `c'` does to the book. A slot given back by someone who is not in the book
strikes nobody out. -/
def entry (book : List Holder) (c : Crew) (m : Move) (c' : Crew) : List Holder :=
  if c.freeSlots < c'.freeSlots then book.erase m.mover
  else if c'.freeSlots < c.freeSlots then m.mover :: book
  else if c.hired < c'.hired then .worker c.hired :: book.erase .dispatcher
  else book

/-- Keeps the book while the crew makes moves. -/
def bookAlong (book : List Holder) (c : Crew) : List Move → List Holder
  | [] => book
  | m :: ms => (c.step m).elim book fun c' => bookAlong (entry book c m c') c' ms

/-- Nobody holds a slot before the first move. -/
def book (s : Settings) (epoch : Millis) (ms : List Move) : List Holder :=
  bookAlong [] (new s epoch) ms

variable {c c' : Crew} {w : Worker} {s : Settings} {g : Ledger} {book : List Holder} {m : Move}

theorem Deal.entry_perm (h : Deal c c' m.mover) (hb : book.Perm c.taken) :
    (entry book c m c').Perm c'.taken := by
  cases h with
  | keep free hired taken =>
      rw [entry, free, hired, if_neg (Nat.lt_irrefl _), if_neg (Nat.lt_irrefl _),
        if_neg (Nat.lt_irrefl _)]
      exact hb.trans taken
  | give free taken =>
      rw [entry, free, if_pos (Nat.lt_succ_self _)]
      have := (hb.trans taken).erase m.mover
      rwa [List.erase_cons_head] at this
  | take free taken =>
      rw [entry, free, if_neg (Nat.not_lt.mpr (Nat.le_succ _)), if_pos (Nat.lt_succ_self _)]
      exact (hb.cons _).trans taken.symm
  | handOver free hired before after =>
      rw [entry, free, hired, if_neg (Nat.lt_irrefl _), if_neg (Nat.lt_irrefl _),
        if_pos (Nat.lt_succ_self _)]
      have := (hb.trans before).erase .dispatcher
      rw [List.erase_cons_head] at this
      exact (this.cons _).trans after.symm

theorem bookAlong_perm {ms : List Move} (h : Watched s c g) (hb : book.Perm c.taken)
    (hr : c.run ms = some c') : (bookAlong book c ms).Perm c'.taken := by
  induction ms generalizing c g book with
  | nil =>
      cases hr
      exact hb
  | cons m ms ih =>
      obtain ⟨c₁, hc, hr⟩ := Option.bind_eq_some_iff.mp hr
      simp only [bookAlong, hc, Option.elim]
      exact ih (h.step hc) ((deal_step h hc).entry_perm hb) hr

theorem book_perm {epoch : Millis} {ms : List Move} (hr : (new s epoch).run ms = some c) :
    (Crew.book s epoch ms).Perm c.taken :=
  bookAlong_perm (.new s epoch) (.refl _) hr

/-! ## Who is in the book -/

theorem mem_workerHolders {h : Holder} :
    h ∈ c.workers.flatMap Worker.holders ↔
      ∃ w ∈ c.workers, w.phase.holdsSlot ∧ h = .worker w.number := by
  simp only [List.mem_flatMap, Worker.holders, List.mem_ite_nil_right, List.mem_singleton]

theorem dispatcher_mem_taken : .dispatcher ∈ c.taken ↔ c.dispatcher = .holdingSlot := by
  simp only [taken, List.mem_append, Dispatcher.mem_holders, mem_workerHolders, and_true, reduceCtorEq,
    and_false, exists_false, or_false]

theorem worker_mem_taken {n : Nat} :
    .worker n ∈ c.taken ↔ ∃ w ∈ c.workers, w.phase.holdsSlot ∧ w.number = n := by
  simp only [taken, List.mem_append, Dispatcher.mem_holders, mem_workerHolders, reduceCtorEq, and_false,
    false_or, Holder.worker.injEq, eq_comm]

/-- As the numbers of the workers differ, a worker is in the book only for itself. -/
theorem mem_taken (hd : (c.workers.map Worker.number).Nodup) (hw : w ∈ c.workers) :
    .worker w.number ∈ c.taken ↔ w.phase.holdsSlot := by
  rw [worker_mem_taken]
  refine ⟨fun ⟨u, hu, hs, hn⟩ => ?_, fun hs => ⟨w, hw, hs, rfl⟩⟩
  rwa [List.inj_on_of_nodup_map hd hu hw hn] at hs

theorem nodup_taken (hd : (c.workers.map Worker.number).Nodup) : c.taken.Nodup := by
  have hworkers : (c.workers.flatMap Worker.holders).Nodup := by
    refine (hd.map (f := Holder.worker) fun _ _ h => Holder.worker.inj h).sublist ?_
    rw [List.map_map]
    generalize c.workers = ws
    induction ws with
    | nil => exact .refl _
    | cons w ws ih =>
        rw [List.flatMap_cons, List.map_cons, Worker.holders]
        split
        · exact ih.cons_cons _
        · exact ih.cons _
  have hdispatcher : c.dispatcher.holders.Nodup := by
    cases c.dispatcher <;> simp [Dispatcher.holders]
  refine List.nodup_append'.mpr ⟨hdispatcher, hworkers, ?_⟩
  intro h hh hm
  obtain ⟨w, _, _, rfl⟩ := mem_workerHolders.mp hm
  cases (Dispatcher.mem_holders.mp hh).2

/-! ## The bound -/

/-- What the slots of a crew with the settings `s` are bound to, going by the book. -/
structure KeepsPool (s : Settings) (book : List Holder) (c : Crew) : Prop where
  balance : c.freeSlots + (if c.dispatcher = .holdingSlot then 1 else 0) +
    c.workers.countP (fun w => .worker w.number ∈ book) = max s.poolSize 1
  nodup : book.Nodup
  dispatcher : .dispatcher ∈ book ↔ c.dispatcher = .holdingSlot
  present : ∀ n, .worker n ∈ book → ∃ w ∈ c.workers, w.number = n
  tending : ∀ w ∈ c.workers, w.phase.isTending → .worker w.number ∈ book
  inFlight : (c.workers.countP fun w => w.phase = .polling) ≤ max s.poolSize 1
  blocked : ∀ w ∈ c.workers, w.phase = .blocked → .worker w.number ∉ book
  waiting : ∀ n t, (Party.worker n, t) ∈ c.line.senders → .worker n ∉ book

theorem KeepsPool.of_perm (h : Watched s c g) (hb : Balanced s c) (hbook : book.Perm c.taken) :
    KeepsPool s book c := by
  have hd := h.tracks.nodup
  have hmem : ∀ w ∈ c.workers, .worker w.number ∈ book ↔ w.phase.holdsSlot := fun w hw =>
    hbook.mem_iff.trans (mem_taken hd hw)
  have hholders : c.workers.countP (fun w => .worker w.number ∈ book) = c.holders :=
    List.countP_congr fun w hw => by rw [decide_eq_true_iff, hmem w hw]
  have hslot : (if c.dispatcher = .holdingSlot then 1 else 0) = c.dispatcher.slots := by
    cases c.dispatcher <;> rfl
  have hbalance : c.freeSlots + c.dispatcher.slots + c.holders = max s.poolSize 1 := hb.slots
  refine ⟨?_, ?_, ?_, ?_, ?_, ?_, ?_, ?_⟩
  · rw [hslot, hholders, hbalance]
  · exact hbook.nodup_iff.mpr (nodup_taken hd)
  · exact hbook.mem_iff.trans dispatcher_mem_taken
  · intro n hn
    obtain ⟨w, hw, _, rfl⟩ := worker_mem_taken.mp (hbook.mem_iff.mp hn)
    exact ⟨w, hw, rfl⟩
  · exact fun w hw ht => (hmem w hw).mpr (Phase.holdsSlot_of_isTending ht)
  · -- Whoever polls holds a slot.
    have hle : (c.workers.countP fun w => w.phase = .polling) ≤ c.holders :=
      List.countP_mono_left fun w _ hp => by rw [of_decide_eq_true hp]; rfl
    omega
  · intro w hw hp
    rw [hmem w hw, hp]
    exact Bool.false_ne_true
  · intro n t hs
    rw [hmem _ (h.tracks.blocked_of_sender hs)]
    exact Bool.false_ne_true

end Crew

variable {s : Settings} {epoch : Millis} {ms : List Crew.Move} {c : Crew}

/-- Whatever moves the crew has made, told to stop or not, its slots are those of the settings and each
is where the book says. -/
theorem keepsPool_of_run (hr : (Crew.new s epoch).run ms = some c) :
    Crew.KeepsPool s (Crew.book s epoch ms) c :=
  .of_perm (.ofRun hr) (.ofRun hr) (Crew.book_perm hr)

/-- Two slots, and three tasks: one worker waits for room without a slot while another polls. -/
def sharedRun : List Crew.Move :=
  [.start, .send 0 (.new "a" "/a" 0), .takeSlot, .takeTask, .work 0, .send 1 (.new "b" "/b" 0),
    .takeSlot, .takeTask, .work 1, .send 2 (.new "c" "/c" 0), .finish 0 (.retry "busy"), .work 0,
    .work 0, .work 0, .work 0, .work 0, .cancel]

theorem keepsPool_sharedRun :
    ∃ c, (Crew.new ⟨2, 1, ⟨5, .attempts 3⟩, 1⟩ 0).run sharedRun = some c ∧ c.isCancelled ∧
      c.freeSlots = 1 ∧ c.workers.map Worker.phase = [.blocked, .polling] ∧
      Crew.book ⟨2, 1, ⟨5, .attempts 3⟩, 1⟩ 0 sharedRun = [.worker 1] ∧
      Crew.KeepsPool ⟨2, 1, ⟨5, .attempts 3⟩, 1⟩
        (Crew.book ⟨2, 1, ⟨5, .attempts 3⟩, 1⟩ 0 sharedRun) c :=
  ⟨_, rfl, rfl, rfl, rfl, rfl, keepsPool_of_run rfl⟩

end Intake.Poll
