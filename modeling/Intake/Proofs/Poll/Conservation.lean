import Intake.Proofs.Poll.Run

/-!
# No task is lost, none is doubled

As long as the crew has not been told to stop, every task that was ever let into the line is found
in exactly one place: in the line, with one worker, or among those that were finished, dropped or
given up.
-/

namespace Intake.Poll

/-- The tasks of a dataset that are in the line or with a worker. -/
def Crew.outstanding (c : Crew) (dataset : String) : List Task :=
  (c.line.items ++ (c.workers.filter fun w => w.phase.hasTask).map Worker.task).filter fun t =>
    t.dataset = dataset

def Crew.Move.brought? : Crew.Move → Option Task
  | .send _ t | .offer t => some t
  | _ => none

def Disposition.isFinal : Disposition → Bool
  | .completed _ | .dropped | .deadLettered _ => true
  | .requeued | .lost => false

theorem Decision.isFinal_disposition (d : Decision) : d.disposition.isFinal = d.isFinal := by
  cases d <;> rfl

theorem Decision.counted_once (d : Decision) (h : d.isFinal) :
    d.counts.count .completions + d.counts.count .vanished + d.counts.count .deadLettered = 1 := by
  cases d with
  | finish v => rfl
  | drop => rfl
  | giveUp l => rfl
  | putBack t => cases h

theorem Decision.counted_each {es : List (Nat × Decision)} (h : ∀ e ∈ es, e.2.isFinal) :
    (es.flatMap fun e => e.2.counts).count .completions +
      (es.flatMap fun e => e.2.counts).count .vanished +
      (es.flatMap fun e => e.2.counts).count .deadLettered = es.length := by
  induction es with
  | nil => rfl
  | cons e es ih =>
      have hes := ih fun e he => h e (List.mem_cons_of_mem _ he)
      have hone := e.2.counted_once (h e (List.mem_cons_self ..))
      simp only [List.flatMap_cons, List.count_append, List.length_cons]
      omega

/-- The crew `c` accounts for every task that the moves `ms` have brought into the line. -/
structure Conserves (ms : List Crew.Move) (c : Crew) (g : Ledger) : Prop where
  /-- There is a ticket for each task that was brought, in order. -/
  origins : g.origins = ms.filterMap Crew.Move.brought?
  accepted_nodup : g.accepted.Nodup
  once : (g.queued ++ (g.held c.workers ++ g.ended)).Perm g.accepted
  queued : c.line.items = g.queued.map g.value
  held : ∀ w ∈ c.workers, w.phase.hasTask → w.task = g.value (g.post w.number)
  /-- What a worker brings to a full line is the task that it has. -/
  blocked : ∀ n t, (Party.worker n, t) ∈ c.line.senders → ⟨n, t, .blocked⟩ ∈ c.workers
  ended : ∀ k ∈ g.ended, ∃ d, (g.file k).place = .ended (.settled d) ∧ d.disposition.isFinal
  /-- A worker that leaves with a disposition has seen its task end that way. -/
  attests : ∀ w ∈ c.workers, g.Attests w
  tallied : c.tally .completions + c.tally .vanished + c.tally .deadLettered = g.ended.length
  not_lost : ∀ w ∈ c.workers, w.phase ≠ .leaving .lost
  outstanding : ∀ dataset, (c.outstanding dataset).length ≤
    ((ms.filterMap Crew.Move.brought?).filter fun t => t.dataset = dataset).length
  identity : ∀ k, ∀ t ∈ g.values k, t.identity = (g.file k).origin.identity

namespace Tracks

variable {line : Line Party Task} {ws : List Worker} {hired k : Nat} {g : Ledger}

theorem nodup_census (h : Tracks line ws hired g) :
    (g.queued ++ (g.waiting ++ g.held ws)).Nodup := by
  rw [← Ledger.census_fst, List.nodup_iff_count_le_one]
  intro k
  rw [h.census.count_fst (fun _ => Ledger.isLive_of_mem_census)]
  split <;> omega

theorem mem_census (h : Tracks line ws hired g) :
    k ∈ g.queued ++ (g.waiting ++ g.held ws) ↔ (g.file k).place.isLive := by
  rw [← Ledger.census_fst, ← List.count_pos_iff,
    h.census.count_fst (fun _ => Ledger.isLive_of_mem_census)]
  split <;> simp_all

theorem place_of_held (h : Tracks line ws hired g) (hk : k ∈ g.held ws) :
    ∃ ph, (g.file k).place = .held ph := by
  obtain ⟨w, hw, rfl⟩ := List.mem_map.mp hk
  obtain ⟨hw, ht⟩ := List.mem_filter.mp hw
  exact ⟨_, h.place_of_worker hw ht⟩

theorem mem_accepted (h : Tracks line ws hired g) :
    k ∈ g.accepted ↔ (g.file k).place.isAccepted := by
  simp only [Ledger.accepted, List.mem_filter, List.mem_range, and_iff_right_iff_imp]
  intro hk
  refine Nat.lt_of_not_le fun hle => ?_
  rw [(h.issued k).mp hle] at hk
  cases hk

theorem mem_ended (h : Tracks line ws hired g) : k ∈ g.ended ↔ (g.file k).place.isOver := by
  simp only [Ledger.ended, List.mem_filter, List.mem_range, and_iff_right_iff_imp]
  intro hk
  refine Nat.lt_of_not_le fun hle => ?_
  rw [(h.issued k).mp hle] at hk
  cases hk

/-- The line, the workers and the tasks that have ended share out what was accepted. -/
theorem shares (h : Tracks line ws hired g) :
    (g.queued ++ (g.held ws ++ g.ended)).Perm g.accepted := by
  have hall := h.nodup_census
  have hnodup : (g.queued ++ (g.held ws ++ g.ended)).Nodup := by
    rw [← List.append_assoc]
    refine List.nodup_append'.mpr ⟨?_, List.nodup_range.filter _, ?_⟩
    · exact hall.sublist ((List.Sublist.refl _).append (List.sublist_append_right _ _))
    · intro k hk he
      have hlive : (g.file k).place.isLive := by
        refine h.mem_census.mp ?_
        simp only [List.mem_append] at hk ⊢
        exact hk.imp_right Or.inr
      have hover := h.mem_ended.mp he
      cases hp : (g.file k).place <;> simp_all [Place.isLive, Place.isOver]
  refine (List.perm_ext_iff_of_nodup hnodup (List.nodup_range.filter _)).mpr fun k => ?_
  refine Iff.trans ?_ h.mem_accepted.symm
  simp only [List.mem_append, h.mem_ended]
  have hlive := h.mem_census (k := k)
  simp only [List.mem_append] at hlive
  constructor
  · rintro (hk | hk | hk)
    · rw [h.place_of_queued hk]
      rfl
    · obtain ⟨ph, hp⟩ := h.place_of_held hk
      rw [hp]
      rfl
    · cases hp : (g.file k).place <;> simp_all [Place.isAccepted, Place.isOver]
  · intro hk
    by_cases hover : (g.file k).place.isOver
    · exact Or.inr (Or.inr hover)
    · have : (g.file k).place.isLive := by
        cases hp : (g.file k).place <;> simp_all [Place.isAccepted, Place.isOver, Place.isLive]
      rcases hlive.mpr this with hq | hw | hh
      · exact Or.inl hq
      · rw [h.place_of_waiting hw] at hk
        cases hk
      · exact Or.inr (Or.inl hh)

theorem items_eq (h : Tracks line ws hired g) : line.items = g.queued.map g.value := by
  rw [h.line_eq]
  rfl

theorem tasks_eq (h : Tracks line ws hired g) :
    (ws.filter fun w => w.phase.hasTask).map Worker.task = (g.held ws).map g.value := by
  rw [Ledger.held, List.map_map]
  refine List.map_congr_left fun w hw => ?_
  obtain ⟨hw, ht⟩ := List.mem_filter.mp hw
  exact (h.task_eq w hw ht).symm

theorem blocked_of_sender (h : Tracks line ws hired g) {n : Nat} {t : Task}
    (hs : (Party.worker n, t) ∈ line.senders) : ⟨n, t, .blocked⟩ ∈ ws := by
  rw [h.line_eq] at hs
  obtain ⟨⟨who, k⟩, hk, he⟩ := List.mem_map.mp hs
  simp only [Prod.mk.injEq] at he
  obtain ⟨rfl, rfl⟩ := he
  obtain ⟨⟨m, t, ph⟩, hw, hp, rfl, rfl⟩ := h.worker_of_sender hk
  simp only at hp hw ⊢
  subst hp
  rwa [h.task_eq _ hw rfl]

end Tracks

namespace Ledger

variable {g : Ledger} {k : Nat} {f : File → File}

theorem origins_amend (hf : ∀ x, (f x).origin = x.origin) : (g.amend k f).origins = g.origins := by
  refine List.map_congr_left fun j _ => ?_
  by_cases hj : j = k
  · rw [hj, amend_file_self, hf]
  · rw [amend_file_of_ne hj]

theorem origins_enter (t : Task) (now : Millis) (p : Place) :
    (g.enter t now p).origins = g.origins ++ [t] := by
  have hself : ((g.enter t now p).file g.issued).origin = t :=
    congrArg File.origin (amend_file_self (f := fun _ => .new t now p))
  have hothers : (List.range g.issued).map (fun k => ((g.enter t now p).file k).origin) =
      g.origins :=
    List.map_congr_left fun j hj => by
      rw [enter_file_of_ne (Nat.ne_of_lt (List.mem_range.mp hj))]
  have hissued : (g.enter t now p).issued = g.issued + 1 := rfl
  rw [origins, hissued, List.range_succ, List.map_append, hothers, List.map_cons, hself]
  rfl

theorem origins_follow (c : Crew) (w : Worker) : (g.follow c w).origins = g.origins := by
  unfold follow
  cases w.phase with
  | hired =>
      simp only
      split <;> exact origins_amend fun _ => rfl
  | answered o =>
      simp only
      split <;> exact origins_amend fun _ => rfl
  | returning =>
      simp only
      split <;> exact origins_amend fun _ => rfl
  | resting till => exact origins_amend fun _ => rfl
  | judging o => exact origins_amend fun _ => rfl
  | refused => exact origins_amend fun _ => rfl
  | aside => exact origins_amend fun _ => rfl
  | _ => rfl

end Ledger

namespace Watched

variable {s : Settings} {c c' : Crew} {g : Ledger}

/-! ## What was brought -/

theorem origins_note {m : Crew.Move} (h : Watched s c g) (hc : c.step m = some c') :
    (g.note c m).origins = g.origins ++ m.brought?.toList := by
  cases m with
  | send n t => exact Ledger.origins_enter ..
  | offer t =>
      simp only [Crew.step, h.offer_issued t] at hc
      simp only [Ledger.note]
      cases ho : g.line.offer g.issued with
      | none => simp [ho] at hc
      | some l => exact Ledger.origins_enter ..
  | takeTask =>
      simp only [Ledger.note, Crew.Move.brought?, Option.toList_none, List.append_nil]
      cases g.line.take? with
      | none => rfl
      | some t =>
          have hfirst := Ledger.origins_amend (g := g) (k := t.item) (f := .move (.held .hired))
            fun _ => rfl
          simp only [Option.elim, Ledger.hire]
          split
          · exact (Ledger.origins_amend (f := .move .lined) fun _ => rfl).trans hfirst
          · exact hfirst
  | work n =>
      simp only [Ledger.note, Crew.Move.brought?, Option.toList_none, List.append_nil]
      cases c.worker? n with
      | none => rfl
      | some w => exact Ledger.origins_follow c w
  | finish n o =>
      simp only [Ledger.note, Crew.Move.brought?, Option.toList_none, List.append_nil]
      exact Ledger.origins_amend fun _ => rfl
  | abandon n =>
      simp only [Ledger.note, Crew.Move.brought?, Option.toList_none, List.append_nil]
      cases c.worker? n with
      | none => rfl
      | some w =>
          simp only [Option.elim, Ledger.drop]
          split
          · exact Ledger.origins_amend fun _ => rfl
          · rfl
  | _ => exact (List.append_nil _).symm

theorem origins_along {ms : List Crew.Move} (h : Watched s c g) (hr : c.run ms = some c') :
    (g.along c ms).origins = g.origins ++ ms.filterMap Crew.Move.brought? := by
  induction ms generalizing c g with
  | nil => exact (List.append_nil _).symm
  | cons m ms ih =>
      simp only [Crew.run, Option.bind_eq_some_iff] at hr
      obtain ⟨c₁, hc, hr⟩ := hr
      simp only [Ledger.along, hc, Option.elim]
      rw [ih (h.step hc) hr, h.origins_note hc, List.append_assoc]
      cases hm : m.brought? with
      | none => rw [List.filterMap_cons_none hm]; rfl
      | some t => rw [List.filterMap_cons_some hm]; rfl

/-! ## Where it is -/

theorem identity (h : Watched s c g) (k : Nat) :
    ∀ t ∈ g.values k, t.identity = (g.file k).origin.identity := by
  intro t ht
  have hsound := h.kept.sound k
  rcases List.mem_append.mp ht with ht | ht
  · exact hsound.identity t ht
  · obtain ⟨v, hv, rfl⟩ := List.mem_map.mp ht
    exact hsound.history.identity v hv

theorem dataset_eq (h : Watched s c g) (k : Nat) :
    (g.value k).dataset = (g.file k).origin.dataset :=
  congrArg Prod.fst (h.identity k (g.value k) (List.mem_cons_self ..))

theorem outstanding_le (h : Watched s c g) (dataset : String) :
    (c.outstanding dataset).length ≤
      (g.origins.filter fun t => t.dataset = dataset).length := by
  have hshares := h.tracks.shares.filter fun k => (g.file k).origin.dataset = dataset
  calc (c.outstanding dataset).length
      = ((g.queued ++ g.held c.workers).filter
          fun k => (g.file k).origin.dataset = dataset).length := by
        rw [Crew.outstanding, h.tracks.items_eq, h.tracks.tasks_eq, ← List.map_append,
          List.filter_map, List.length_map]
        simp only [Function.comp_def, h.dataset_eq]
    _ ≤ (g.accepted.filter fun k => (g.file k).origin.dataset = dataset).length := by
        rw [← hshares.length_eq, ← List.append_assoc]
        exact ((List.sublist_append_left _ _).filter _).length_le
    _ ≤ ((List.range g.issued).filter fun k => (g.file k).origin.dataset = dataset).length :=
        (List.filter_sublist.filter _).length_le
    _ = (g.origins.filter fun t => t.dataset = dataset).length := by
        rw [Ledger.origins, List.filter_map, List.length_map]
        rfl

theorem ended (h : Watched s c g) (hc : c.isCancelled = false) {k : Nat} (hk : k ∈ g.ended) :
    ∃ d, (g.file k).place = .ended (.settled d) ∧ d.disposition.isFinal := by
  have hover := h.tracks.mem_ended.mp hk
  have hstands := (h.kept.sound k).stands
  cases hp : (g.file k).place with
  | ended e =>
      cases e with
      | settled d =>
          rw [hp] at hstands
          obtain ⟨v, vs, _, o, judged, date, _, hd, _⟩ := hstands
          exact ⟨d, rfl, d.isFinal_disposition.trans hd⟩
      | abandoned =>
          have := h.kept.dropped k hp
          rw [hc] at this
          cases this
  | _ =>
      rw [hp] at hover
      cases hover

/-- The tasks that have ended are those about which a final decision was made. -/
theorem ended_perm (h : Watched s c g) (hc : c.isCancelled = false) :
    g.ended.Perm (g.settled.map Prod.fst) := by
  refine (List.perm_ext_iff_of_nodup (List.nodup_range.filter _) h.kept.nodup).mpr fun k => ?_
  constructor
  · intro hk
    obtain ⟨d, hp, _⟩ := h.ended hc hk
    exact List.mem_map.mpr ⟨(k, d), (h.kept.settled k d).mpr hp, rfl⟩
  · intro hk
    obtain ⟨⟨j, d⟩, hm, rfl⟩ := List.mem_map.mp hk
    refine h.tracks.mem_ended.mpr ?_
    rw [(h.kept.settled j d).mp hm]
    rfl

/-- Each final decision is counted once, as a completion, as vanished or as a dead letter. -/
theorem tallied_ended (h : Watched s c g) (hc : c.isCancelled = false) :
    c.tally .completions + c.tally .vanished + c.tally .deadLettered = g.ended.length := by
  rw [h.tallied .completions rfl, h.tallied .vanished rfl, h.tallied .deadLettered rfl,
    (h.ended_perm hc).length_eq, List.length_map]
  have hfinal : ∀ e ∈ g.settled, e.2.isFinal := by
    rintro ⟨k, d⟩ he
    have hstands := (h.kept.sound k).stands
    rw [(h.kept.settled k d).mp he] at hstands
    obtain ⟨v, vs, _, o, judged, date, _, hd, _⟩ := hstands
    exact hd
  exact Decision.counted_each hfinal

theorem not_lost (h : Watched s c g) {w : Worker} (hw : w ∈ c.workers) :
    w.phase ≠ .leaving .lost := by
  intro hp
  rcases h.attests w hw .lost hp with he | ⟨d, _, hd⟩
  · cases he
  · cases d <;> cases hd

end Watched

variable {s : Settings} {epoch : Millis} {ms : List Crew.Move} {c : Crew}

/-- Whatever moves the crew has made before it is told to stop, no task is lost and none is
doubled; and whatever moves follow, a task that has ended stays as it is. -/
theorem conserves_of_run (hr : (Crew.new s epoch).run ms = some c) (hc : c.isCancelled = false) :
    Conserves ms c (Ledger.ofRun s epoch ms) ∧
      ∀ later, ((Crew.new s epoch).run (ms ++ later)).isSome → ∀ k ∈ (Ledger.ofRun s epoch ms).ended,
        (Ledger.ofRun s epoch (ms ++ later)).file k = (Ledger.ofRun s epoch ms).file k := by
  have h := Watched.ofRun hr
  have horigins : (Ledger.ofRun s epoch ms).origins = ms.filterMap Crew.Move.brought? :=
    (Watched.new s epoch).origins_along hr
  refine ⟨?_, fun later hl k hk => ?_⟩
  · exact {
      origins := horigins
      accepted_nodup := List.nodup_range.filter _
      once := h.tracks.shares
      queued := h.tracks.items_eq
      held := fun w hw ht => (h.tracks.task_eq w hw ht).symm
      blocked := fun n t hs => h.tracks.blocked_of_sender hs
      ended := fun k hk => h.ended hc hk
      attests := h.attests
      tallied := h.tallied_ended hc
      not_lost := fun w hw => h.not_lost hw
      outstanding := fun dataset => horigins ▸ h.outstanding_le dataset
      identity := h.identity }
  · obtain ⟨c', hl⟩ := Option.isSome_iff_exists.mp hl
    exact Ledger.file_ofRun_append hl (h.tracks.mem_ended.mp hk)

/-- A crew of one, a line with room for one, and a task that has to go back while another has taken
its room. -/
def crowdedRun : List Crew.Move :=
  [.start, .send 0 (.new "a" "/a" 0), .takeSlot, .takeTask, .work 0, .send 1 (.new "b" "/b" 0),
    .finish 0 (.retry "busy"), .work 0, .work 0, .work 0, .work 0, .work 0]

theorem conserves_crowdedRun :
    ∃ c, (Crew.new ⟨1, 1, ⟨5, .attempts 3⟩, 1⟩ 0).run crowdedRun = some c ∧
      c.isCancelled = false ∧ c.line.items = [.new "b" "/b" 0] ∧
      c.workers = [⟨0, ⟨"a", "/a", 1, 0, some 5⟩, .blocked⟩] ∧
      Conserves crowdedRun c (Ledger.ofRun ⟨1, 1, ⟨5, .attempts 3⟩, 1⟩ 0 crowdedRun) :=
  ⟨_, rfl, rfl, rfl, rfl, (conserves_of_run rfl rfl).1⟩

end Intake.Poll
