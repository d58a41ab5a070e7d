import Intake.Proofs.Poll.Census

/-!
# How the ledger keeps in step

One lemma for each way in which a task can change its place. In each of them the worker that moves
stands first in the list of workers; the order of the list does not matter.
-/

namespace Intake.Poll.Tracks

variable {line : Line Party Task} {w u : Worker} {ws : List Worker} {hired k : Nat} {g : Ledger}
  {f : File → File} {l : Line Party Nat}

theorem issued_amend (h : Tracks line ws hired g) (hk : (g.file k).place ≠ .nowhere)
    (hf : (f (g.file k)).place ≠ .nowhere) (j : Nat) :
    g.issued ≤ j ↔ ((g.amend k f).file j).place = .nowhere := by
  by_cases hj : j = k
  · subst hj
    rw [Ledger.amend_file_self, h.issued j]
    exact ⟨fun he => absurd he hk, fun he => absurd he hf⟩
  · rw [Ledger.amend_file_of_ne hj]
    exact h.issued j

theorem place_head (h : Tracks line (w :: ws) hired g) (ht : w.phase.hasTask) :
    (g.file (g.post w.number)).place = .held w.phase :=
  h.place_of_worker (List.mem_cons_self ..) ht

theorem task_eq_head (h : Tracks line (w :: ws) hired g) (hn : u.number = w.number)
    (ht : w.phase.hasTask)
    (hv : u.phase.hasTask → (f (g.file (g.post w.number))).value = u.task) :
    ∀ v ∈ u :: ws, v.phase.hasTask →
      (g.amend (g.post w.number) f).value (g.post v.number) = v.task := by
  intro v hm hvt
  rcases List.mem_cons.mp hm with rfl | hm
  · rw [hn, Ledger.value, Ledger.amend_file_self]
    exact hv hvt
  · rw [Ledger.value, Ledger.amend_file_of_ne (h.post_ne ht hm hvt)]
    exact h.task_eq v (List.mem_cons_of_mem _ hm) hvt

theorem line_amend_head (h : Tracks line (w :: ws) hired g) (ht : w.phase.hasTask)
    (hb : w.phase ≠ .blocked) : line = g.line.map (g.amend (g.post w.number) f).value := by
  have hp := h.place_head ht
  refine h.line_amend ?_ ?_ ?_ <;> rw [hp] <;> simp [hb]

theorem nodup_head (h : Tracks line (w :: ws) hired g) (hn : u.number = w.number) :
    ((u :: ws).map Worker.number).Nodup := by
  have := h.nodup
  simp only [List.map_cons] at this ⊢
  rwa [hn]

theorem numbered_head (h : Tracks line (w :: ws) hired g) (hn : u.number = w.number) :
    ∀ v ∈ u :: ws, v.number < hired := by
  intro v hv
  rcases List.mem_cons.mp hv with rfl | hv
  · rw [hn]
    exact h.numbered w (List.mem_cons_self ..)
  · exact h.numbered v (List.mem_cons_of_mem _ hv)

theorem ne_blocked (ht : w.phase.hasTask = false) : w.phase ≠ .blocked := by
  intro he
  rw [he] at ht
  cases ht

/-- A worker that is not blocked can be exchanged for another that is not. -/
theorem blocked_head (h : Tracks line (w :: ws) hired g) (hb : w.phase ≠ .blocked)
    (hb' : u.phase ≠ .blocked) : g.blocked.Perm
      (((u :: ws).filter fun v => v.phase = .blocked).map fun v => (v.number, g.post v.number)) := by
  have := h.blocked
  simp only [List.filter_cons, hb, hb', decide_false] at this ⊢
  exact this

/-! ## A worker keeps its task -/

/-- A worker goes on with its task, which is not in the line. -/
theorem keep (h : Tracks line (w :: ws) hired g) (hn : u.number = w.number)
    (ht : w.phase.hasTask) (hb : w.phase ≠ .blocked) (ht' : u.phase.hasTask)
    (hb' : u.phase ≠ .blocked) (hp : (f (g.file (g.post w.number))).place = .held u.phase)
    (hv : (f (g.file (g.post w.number))).value = u.task) :
    Tracks line (u :: ws) hired (g.amend (g.post w.number) f) where
  line_eq := h.line_amend_head ht hb
  nodup := h.nodup_head hn
  numbered := h.numbered_head hn
  task_eq := h.task_eq_head hn ht fun _ => hv
  census := by
    have hc := (h.census.perm (Ledger.census_cons ht)).change rfl hp
    refine hc.perm (List.Perm.trans ?_ (Ledger.census_cons ht').symm)
    rw [hn]
    exact .refl _
  blocked := h.blocked_head hb hb'
  issued := h.issued_amend (by rw [h.place_head ht]; simp) (by rw [hp]; simp)

theorem block (h : Tracks line (w :: ws) hired g) (hn : u.number = w.number)
    (ht : w.phase.hasTask) (hb : w.phase ≠ .blocked) (hw' : u.phase = .blocked)
    (hp : (f (g.file (g.post w.number))).place = .held .blocked)
    (hv : (f (g.file (g.post w.number))).value = u.task) (htask : u.task = w.task) :
    Tracks { line with senders := line.senders ++ [(.worker w.number, w.task)] } (u :: ws) hired
      { g.amend (g.post w.number) f with
        line := { g.line with
          senders := g.line.senders ++ [(.worker w.number, g.post w.number)] } } where
  line_eq := by
    have hself : (g.amend (g.post w.number) f).value (g.post w.number) = w.task := by
      rw [Ledger.value, Ledger.amend_file_self, hv, htask]
    refine Eq.trans ?_ (Line.map_wait (g.amend (g.post w.number) f).value g.line _ _).symm
    rw [← h.line_amend_head ht hb, hself]
  nodup := h.nodup_head hn
  numbered := h.numbered_head hn
  task_eq := h.task_eq_head hn ht fun _ => hv
  census := by
    have hc := (h.census.perm (Ledger.census_cons ht)).change rfl hp
    have ht' : u.phase.hasTask := by rw [hw']; rfl
    refine hc.perm (List.Perm.trans ?_ (Ledger.census_cons ht').symm)
    rw [hn, hw']
    refine .cons _ ?_
    simp [Ledger.census, Ledger.queued, Ledger.waiting, Ledger.amend]
  blocked := by
    have := h.blocked
    simp only [List.filter_cons, hb, hw', decide_false, decide_true, if_true, List.map_cons, hn]
      at this ⊢
    simp only [Ledger.blocked, List.filterMap_append, List.filterMap_cons, List.filterMap_nil]
    exact (List.perm_append_singleton _ _).trans (this.cons _)
  issued := h.issued_amend (by rw [h.place_head ht]; simp) (by rw [hp]; simp)

/-! ## A worker gives its task up -/

/-- How tasks ended does not matter for where the others are. -/
theorem settle (h : Tracks line ws hired g) (es : List (Nat × Decision)) :
    Tracks line ws hired { g with settled := es } :=
  { h with }

theorem close (h : Tracks line (w :: ws) hired g) (hn : u.number = w.number)
    (ht : w.phase.hasTask) (hb : w.phase ≠ .blocked) (ht' : u.phase.hasTask = false)
    {e : Ending} (hp : (f (g.file (g.post w.number))).place = .ended e) :
    Tracks line (u :: ws) hired (g.amend (g.post w.number) f) where
  line_eq := h.line_amend_head ht hb
  nodup := h.nodup_head hn
  numbered := h.numbered_head hn
  task_eq := h.task_eq_head hn ht fun he => absurd he (by simp [ht'])
  census := by
    have hc := (h.census.perm (Ledger.census_cons ht)).close (f := f) rfl (by rw [hp]; rfl)
    rw [Ledger.census_cons_idle ht']
    exact hc
  blocked := h.blocked_head hb (ne_blocked ht')
  issued := h.issued_amend (by rw [h.place_head ht]; simp) (by rw [hp]; simp)

theorem putIn (h : Tracks line (w :: ws) hired g) (hn : u.number = w.number)
    (ht : w.phase.hasTask) (hb : w.phase ≠ .blocked) (ht' : u.phase.hasTask = false)
    (ho : g.line.offer (g.post w.number) = some l)
    (hp : (f (g.file (g.post w.number))).place = .lined) :
    Tracks (l.map (g.amend (g.post w.number) f).value) (u :: ws) hired
      { g.amend (g.post w.number) f with line := l } where
  line_eq := rfl
  nodup := h.nodup_head hn
  numbered := h.numbered_head hn
  task_eq := h.task_eq_head hn ht fun he => absurd he (by simp [ht'])
  census := by
    obtain ⟨hi, hs⟩ := Line.offer_items ho
    have hc := (h.census.perm (Ledger.census_cons ht)).change rfl hp
    rw [Ledger.census_cons_idle ht']
    refine hc.perm ?_
    simp only [Ledger.census, Ledger.queued, Ledger.waiting, Ledger.amend, hi, hs, List.map_append,
      List.map_cons, List.map_nil, List.append_assoc, List.singleton_append]
    exact List.perm_middle.symm
  blocked := by
    obtain ⟨_, hs⟩ := Line.offer_items ho
    have := h.blocked_head hb (ne_blocked ht')
    simp only [Ledger.blocked, hs] at this ⊢
    exact this
  issued := h.issued_amend (by rw [h.place_head ht]; simp) (by rw [hp]; simp)

theorem leave (h : Tracks line (w :: ws) hired g) (ht : w.phase.hasTask = false) :
    Tracks line ws hired g where
  line_eq := h.line_eq
  nodup := (List.nodup_cons.mp h.nodup).2
  numbered := fun v hv => h.numbered v (List.mem_cons_of_mem _ hv)
  task_eq := fun v hv => h.task_eq v (List.mem_cons_of_mem _ hv)
  census := by
    have := h.census
    rwa [Ledger.census_cons_idle ht] at this
  blocked := by
    have := h.blocked
    simp only [List.filter_cons, ne_blocked ht, decide_false] at this
    exact this
  issued := h.issued

/-- A worker that has no task is nothing to the ledger. -/
theorem join (h : Tracks line ws hired g) (hd : ((u :: ws).map Worker.number).Nodup)
    (hlt : u.number < hired) (ht : u.phase.hasTask = false) : Tracks line (u :: ws) hired g where
  line_eq := h.line_eq
  nodup := hd
  numbered := fun v hv => (List.mem_cons.mp hv).elim (fun he => he ▸ hlt) (h.numbered v)
  task_eq := fun v hv hvt => (List.mem_cons.mp hv).elim
    (fun he => absurd (he ▸ hvt) (by simp [ht])) fun hv => h.task_eq v hv hvt
  census := by
    rw [Ledger.census_cons_idle ht]
    exact h.census
  blocked := by
    rw [List.filter_cons_of_neg (by simpa using ne_blocked ht)]
    exact h.blocked
  issued := h.issued

/-- A worker without a task takes the place of one that has let go of its own. -/
theorem replace {l : Line Party Task} {g' : Ledger} (h : Tracks line (w :: ws) hired g)
    (hrest : Tracks l ws hired g') (hn : u.number = w.number) (ht : u.phase.hasTask = false) :
    Tracks l (u :: ws) hired g' :=
  hrest.join (h.nodup_head hn) (h.numbered_head hn u (List.mem_cons_self ..)) ht

theorem drop (h : Tracks line (w :: ws) hired g) :
    Tracks (line.withdraw (.worker w.number)) ws hired (g.drop w) := by
  have hline : line.withdraw (.worker w.number) = (g.withdraw w.number).line.map g.value := by
    rw [h.line_eq, Line.withdraw_map]
    rfl
  have hblocked : (g.withdraw w.number).blocked.Perm
      ((ws.filter fun v => v.phase = .blocked).map fun v => (v.number, g.post v.number)) := by
    have hne : ∀ v ∈ ws, v.number ≠ w.number := fun v hv he =>
      (List.nodup_cons.mp h.nodup).1 (List.mem_map.mpr ⟨v, hv, he⟩)
    rw [Ledger.blocked_withdraw]
    refine (h.blocked.filter _).trans (.of_eq ?_)
    rw [List.filter_map, List.filter_filter]
    refine congrArg (List.map _) ?_
    simp only [List.filter_cons, Function.comp_apply, ne_eq, not_true_eq_false, decide_false,
      Bool.false_and, Bool.false_eq_true, if_false]
    exact List.filter_congr fun v hv => by simp [hne v hv]
  have htail := fun v hv => h.task_eq v (List.mem_cons_of_mem w hv)
  have hrest : ∀ v ∈ ws, v.number < hired := fun v hv => h.numbered v (List.mem_cons_of_mem _ hv)
  cases ht : w.phase.hasTask with
  | true =>
      have hp := h.place_head ht
      have hc := (h.census.perm (Ledger.census_cons ht)).close (f := File.move (.ended .abandoned))
        rfl rfl
      have hv : ((g.withdraw w.number).amend (g.post w.number) (.move (.ended .abandoned))).value =
          g.value := Ledger.value_amend fun _ => rfl
      simp only [Ledger.drop, ht, if_true]
      refine ⟨?_, (List.nodup_cons.mp h.nodup).2, hrest, ?_, ?_, hblocked, ?_⟩
      · rw [hv]
        exact hline
      · intro v hm hvt
        rw [hv]
        exact htail v hm hvt
      · have he : (g.withdraw w.number).census ws = g.census ws := Ledger.census_withdraw w.number
        simp only [Ledger.census, Ledger.queued, Ledger.waiting, Ledger.amend] at he hc ⊢
        rw [he]
        exact hc
      · exact h.issued_amend (by rw [hp]; simp) (by simp [File.move])
  | false =>
      simp only [Ledger.drop, ht, if_false, Bool.false_eq_true]
      refine ⟨hline, (List.nodup_cons.mp h.nodup).2, hrest, htail, ?_, hblocked, h.issued⟩
      rw [Ledger.census_withdraw]
      have hc := h.census
      rwa [Ledger.census_cons_idle ht] at hc

/-! ## A task is brought -/

theorem place_issued (h : Tracks line ws hired g) : (g.file g.issued).place = .nowhere :=
  (h.issued _).mp (Nat.le_refl _)

theorem issued_enter (h : Tracks line ws hired g) {t : Task} {now : Millis} {p : Place}
    (hp : p ≠ .nowhere) (k : Nat) :
    (g.enter t now p).issued ≤ k ↔ ((g.enter t now p).file k).place = .nowhere := by
  have hi := h.issued k
  by_cases hk : k = g.issued
  · subst hk
    simp [Ledger.enter, File.new, hp]
  · simp only [Ledger.enter, Ledger.amend_file_of_ne hk]
    rw [← hi]
    omega

/-- A task that has not been brought changes nothing for those that have. -/
theorem line_enter (h : Tracks line ws hired g) (t : Task) (now : Millis) (p : Place) :
    line = g.line.map (g.enter t now p).value := by
  have hn := h.place_issued
  refine h.line_amend (f := fun _ => .new t now p) ?_ ?_ ?_ <;> rw [hn] <;> simp

@[simp] theorem value_enter (t : Task) (now : Millis) (p : Place) :
    (g.enter t now p).value g.issued = t := by
  simp [Ledger.enter, Ledger.value, File.new]

theorem task_eq_enter (h : Tracks line ws hired g) (t : Task) (now : Millis) (p : Place) :
    ∀ w ∈ ws, w.phase.hasTask → (g.enter t now p).value (g.post w.number) = w.task := by
  intro w hw ht
  have hne : g.post w.number ≠ g.issued := by
    intro he
    have hp := h.place_of_worker hw ht
    rw [he, h.place_issued] at hp
    cases hp
  rw [← h.task_eq w hw ht]
  simp only [Ledger.value, Ledger.enter, Ledger.amend_file_of_ne hne]

theorem enter_lined (h : Tracks line ws hired g) (t : Task) (now : Millis)
    (ho : g.line.offer g.issued = some l) :
    Tracks (l.map (g.enter t now .lined).value) ws hired
      { g.enter t now .lined with line := l } where
  line_eq := rfl
  nodup := h.nodup
  numbered := h.numbered
  task_eq := h.task_eq_enter t now .lined
  census := by
    obtain ⟨hi, hs⟩ := Line.offer_items ho
    have hc := h.census.enter (f := fun _ => .new t now .lined) (q := .lined)
      (by rw [h.place_issued]; rfl) rfl
    refine hc.perm ?_
    simp only [Ledger.census, Ledger.queued, Ledger.waiting, Ledger.enter, Ledger.amend, hi, hs,
      List.map_append, List.map_cons, List.map_nil, List.append_assoc, List.singleton_append]
    exact List.perm_middle.symm
  blocked := by
    obtain ⟨_, hs⟩ := Line.offer_items ho
    have := h.blocked
    simp only [Ledger.blocked, hs] at this ⊢
    exact this
  issued := h.issued_enter (by simp)

theorem enter_waiting (h : Tracks line ws hired g) (t : Task) (now : Millis) (n : Nat) :
    Tracks { line with senders := line.senders ++ [(.producer n, t)] } ws hired
      { g.enter t now .waiting with
        line := { g.line with senders := g.line.senders ++ [(.producer n, g.issued)] } } where
  line_eq := by
    have hself := value_enter (g := g) t now .waiting
    refine Eq.trans ?_ (Line.map_wait (g.enter t now .waiting).value g.line _ g.issued).symm
    rw [← h.line_enter t now .waiting, hself]
  nodup := h.nodup
  numbered := h.numbered
  task_eq := h.task_eq_enter t now .waiting
  census := by
    have hc := h.census.enter (f := fun _ => .new t now .waiting) (q := .waiting)
      (by rw [h.place_issued]; rfl) rfl
    refine hc.perm ?_
    simp only [Ledger.census, Ledger.queued, Ledger.waiting, Ledger.enter, Ledger.amend,
      List.filterMap_append, List.filterMap_cons, List.filterMap_nil,
      List.map_append, List.map_cons, List.map_nil, List.append_assoc, List.singleton_append]
    exact List.perm_middle.symm.trans (.append_left _ List.perm_middle.symm)
  blocked := by
    have := h.blocked
    simp only [Ledger.blocked, List.filterMap_append, List.filterMap_cons, List.filterMap_nil,
      List.append_nil] at this ⊢
    exact this
  issued := h.issued_enter (by simp)

/-! ## The dispatcher takes a task -/

theorem hire (h : Tracks line ws hired g) {rest : List Nat} (hi : g.line.items = k :: rest)
    (hli : l.items = rest) (hls : l.senders = g.line.senders) :
    Tracks (l.map g.value) (⟨hired, g.value k, .hired⟩ :: ws) (hired + 1)
      { g.amend k (.move (.held .hired)) with
        line := l, post := fun m => if m = hired then k else g.post m } := by
  have hv : (g.amend k (.move (.held .hired))).value = g.value := Ledger.value_amend fun _ => rfl
  have hpost : ∀ v ∈ ws, (if v.number = hired then k else g.post v.number) = g.post v.number :=
    fun v hm => if_neg (Nat.ne_of_lt (h.numbered v hm))
  refine ⟨congrArg l.map hv.symm, ?_, ?_, ?_, ?_, ?_, ?_⟩
  · refine List.nodup_cons.mpr ⟨fun hm => ?_, h.nodup⟩
    obtain ⟨v, hv, he⟩ := List.mem_map.mp hm
    exact absurd he (Nat.ne_of_lt (h.numbered v hv))
  · intro v hm
    rcases List.mem_cons.mp hm with rfl | hm
    · exact Nat.lt_succ_self _
    · exact Nat.lt_succ_of_lt (h.numbered v hm)
  · intro v hm ht
    rcases List.mem_cons.mp hm with rfl | hm
    · exact (congrFun hv _).trans (congrArg g.value (if_pos rfl))
    · refine (congrFun hv _).trans ((congrArg g.value (hpost v hm)).trans ?_)
      exact h.task_eq v hm ht
  · have hfirst : g.census ws = (k, .lined) :: ((rest.map (·, Place.lined)) ++
        ((g.waiting.map (·, .waiting)) ++ (ws.filter fun w => w.phase.hasTask).map
          fun w => (g.post w.number, .held w.phase))) := by
      simp only [Ledger.census, Ledger.queued, hi, List.map_cons, List.cons_append]
    have hc := h.census
    rw [hfirst] at hc
    have hc' := hc.change (f := .move (.held .hired)) (q := .held .hired) rfl rfl
    refine hc'.perm ?_
    have hnew : (⟨hired, g.value k, .hired⟩ : Worker).phase.hasTask := rfl
    refine List.Perm.trans ?_ (Ledger.census_cons hnew).symm
    have hsame : ((ws.filter fun w => w.phase.hasTask).map
        fun w => (if w.number = hired then k else g.post w.number, Place.held w.phase)) =
        (ws.filter fun w => w.phase.hasTask).map fun w => (g.post w.number, .held w.phase) :=
      List.map_congr_left fun v hm => by rw [hpost v (List.mem_of_mem_filter hm)]
    simp only [Ledger.census, Ledger.queued, Ledger.waiting, hli, hls, if_true, hsame]
    exact .refl _
  · have hsame : ((ws.filter fun w => w.phase = .blocked).map
        fun w => (w.number, if w.number = hired then k else g.post w.number)) =
        (ws.filter fun w => w.phase = .blocked).map fun w => (w.number, g.post w.number) :=
      List.map_congr_left fun v hm => by rw [hpost v (List.mem_of_mem_filter hm)]
    rw [List.filter_cons_of_neg (by simp)]
    have := h.blocked
    simp only [Ledger.blocked, hls] at this ⊢
    exact this.trans (.of_eq hsame.symm)
  · exact h.issued_amend (by rw [h.place_of_queued (by simp [hi])]; simp) (by simp [File.move])

/-- The first who waits for room is a producer, and its task is let in. -/
theorem admit_producer (h : Tracks line ws hired g) {n : Nat} {others : List (Party × Nat)}
    (hs : g.line.senders = (.producer n, k) :: others) (hli : l.items = g.line.items ++ [k])
    (hls : l.senders = others) :
    Tracks (l.map g.value) ws hired { g.amend k (.move .lined) with line := l } := by
  have hv : (g.amend k (.move .lined)).value = g.value := Ledger.value_amend fun _ => rfl
  have hwaiting : g.waiting = k :: { g with line := l }.waiting := by
    simp only [Ledger.waiting, hs, hls, List.filterMap_cons]
  have hk : k ∈ g.waiting := hwaiting ▸ List.mem_cons_self ..
  refine ⟨congrArg l.map hv.symm, h.nodup, h.numbered, ?_, ?_, ?_, ?_⟩
  · exact fun v hm ht => (congrFun hv _).trans (h.task_eq v hm ht)
  · have hfirst : (g.census ws).Perm ((k, .waiting) ::
        ((g.queued.map (·, Place.lined)) ++ ({ g with line := l }.waiting.map (·, .waiting) ++
        (ws.filter fun w => w.phase.hasTask).map fun w => (g.post w.number, .held w.phase)))) := by
      simp only [Ledger.census, hwaiting, List.map_cons, List.cons_append]
      exact List.perm_middle
    have hc := (h.census.perm hfirst).change (f := .move .lined) (q := .lined) rfl rfl
    refine hc.perm ?_
    simp only [Ledger.census, Ledger.queued, Ledger.waiting, hli, hls, List.map_append,
      List.map_cons, List.map_nil, List.append_assoc, List.singleton_append]
    exact List.perm_middle.symm
  · have := h.blocked
    simp only [Ledger.blocked, hs, hls, List.filterMap_cons] at this ⊢
    exact this
  · exact h.issued_amend (by rw [h.place_of_waiting hk]; simp) (by simp [File.move])

/-- The first who waits for room is a worker, and its task is let in. -/
theorem admit_worker (h : Tracks line (w :: ws) hired g) (hb : w.phase = .blocked)
    {others : List (Party × Nat)} (hs : g.line.senders = (.worker w.number, k) :: others)
    (hli : l.items = g.line.items ++ [k]) (hls : l.senders = others) :
    Tracks (l.map g.value) ({ w with phase := .admitted } :: ws) hired
      { g.amend k (.move .lined) with line := l } := by
  have hv : (g.amend k (.move .lined)).value = g.value := Ledger.value_amend fun _ => rfl
  have ht : w.phase.hasTask := by rw [hb]; rfl
  obtain ⟨v, hm, hvp, hvn, hk⟩ := h.worker_of_sender (n := w.number) (k := k) (by simp [hs])
  subst hk
  refine ⟨congrArg l.map hv.symm, h.nodup, h.numbered_head rfl, ?_, ?_, ?_, ?_⟩
  · intro v hm hvt
    rcases List.mem_cons.mp hm with rfl | hm
    · cases hvt
    · exact (congrFun hv _).trans (h.task_eq v (List.mem_cons_of_mem _ hm) hvt)
  · have hc := (h.census.perm (Ledger.census_cons ht)).change (f := .move .lined) (q := .lined)
      rfl rfl
    rw [Ledger.census_cons_idle rfl]
    refine hc.perm ?_
    simp only [Ledger.census, Ledger.queued, Ledger.waiting, hs, hli, hls, List.filterMap_cons,
      List.map_append, List.map_cons, List.map_nil, List.append_assoc, List.singleton_append]
    exact List.perm_middle.symm
  · have := h.blocked
    simp only [Ledger.blocked, hs, List.filterMap_cons, List.filter_cons, hb, decide_true, if_true,
      List.map_cons] at this
    simp only [Ledger.blocked, hls]
    exact this.cons_inv
  · exact h.issued_amend (by rw [h.place_head ht]; simp) (by simp [File.move])

end Intake.Poll.Tracks
