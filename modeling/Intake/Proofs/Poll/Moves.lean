import Intake.Proofs.Poll.Watch

/-!
# Every move

Whoever makes a move, the ledger that writes it down keeps in step with the crew, and its files stay
in order.
-/

namespace Intake.Poll

theorem Task.due_of_readyIn {t : Task} {now : Millis} (h : t.readyIn now = 0) :
    ∀ b, t.notBefore = some b → b ≤ now := by
  intro b hb
  simp only [readyIn, hb] at h
  exact Nat.sub_eq_zero_iff_le.mp h

theorem Task.due_after_readyIn (t : Task) (now : Millis) :
    ∀ b, t.notBefore = some b → b ≤ now + t.readyIn now := by
  intro b hb
  simp only [readyIn, hb]
  exact Nat.sub_le_iff_le_add'.mp (Nat.le_refl _)

namespace Watched

variable {s : Settings} {c c' : Crew} {g : Ledger} {w u : Worker} {f : File → File}

/-! ## What a worker does -/

theorem begin (h : Watched s c g) (hw : w ∈ c.workers) (ht : w.phase.hasTask)
    (hb : w.phase ≠ .blocked)
    (hs : ((g.file (g.post w.number)).begin c.now).Sound s.policy c.now) :
    Watched s (c.setPhase w .polling) (g.amend (g.post w.number) (.begin c.now)) :=
  h.goOn hw ht hb rfl rfl (by simp) hs rfl (h.value_of_worker hw ht)

/-- A worker only changes what it is doing, and its task is where that says. -/
theorem turn {ph : Phase} (h : Watched s c g) (hw : w ∈ c.workers) (ht : w.phase.hasTask)
    (hb : w.phase ≠ .blocked) (ht' : ph.hasTask) (hb' : ph ≠ .blocked)
    (hs : ((g.file (g.post w.number)).move (.held ph)).Sound s.policy c.now) :
    Watched s (c.setPhase w ph) (g.amend (g.post w.number) (.move (.held ph))) :=
  h.goOn hw ht hb rfl ht' hb' hs rfl (h.value_of_worker hw ht)

theorem hired (h : Watched s c g) (hw : w ∈ c.workers) (hp : w.phase = .hired)
    (hc : c.advance w = some c') : Watched s c' (g.follow c w) := by
  have ht : w.phase.hasTask := by rw [hp]; rfl
  have hb : w.phase ≠ .blocked := by rw [hp]; simp
  have hplace := h.place_of_worker hw ht
  have hvalue := h.value_of_worker hw ht
  have hsound := h.kept.sound (g.post w.number)
  have hdue := hsound.due (by rw [hplace, hp]; rfl)
  simp only [Crew.advance, hp, Option.some.injEq] at hc
  simp only [Ledger.follow, hp]
  subst hc
  split
  · rename_i hr
    exact h.begin hw ht hb (hsound.begin hdue (by rw [hvalue]; exact Task.due_of_readyIn hr))
  · exact h.turn hw ht hb rfl (by simp)
      (hsound.move ⟨hdue, by rw [hvalue]; exact w.task.due_after_readyIn c.now⟩)

theorem resting {till : Millis} (h : Watched s c g) (hw : w ∈ c.workers)
    (hp : w.phase = .resting till) (hc : c.advance w = some c') :
    Watched s c' (g.follow c w) := by
  have ht : w.phase.hasTask := by rw [hp]; rfl
  have hb : w.phase ≠ .blocked := by rw [hp]; simp
  have hsound := h.kept.sound (g.post w.number)
  have hstands := hsound.stands
  rw [h.place_of_worker hw ht, hp] at hstands
  simp only [Crew.advance, hp] at hc
  simp only [Ledger.follow, hp]
  split at hc
  · rename_i hle
    cases hc
    exact h.begin hw ht hb (hsound.begin hstands.1 fun b hn => Nat.le_trans (hstands.2 b hn) hle)
  · cases hc

theorem answered {o : Outcome} (h : Watched s c g) (hw : w ∈ c.workers)
    (hp : w.phase = .answered o) (hc : c.advance w = some c') :
    Watched s c' (g.follow c w) := by
  have ht : w.phase.hasTask := by rw [hp]; rfl
  have hb : w.phase ≠ .blocked := by rw [hp]; simp
  have hplace := h.place_of_worker hw ht
  have hvalue := h.value_of_worker hw ht
  have hsound := h.kept.sound (g.post w.number)
  rw [hp] at hplace
  simp only [Crew.advance, hp] at hc
  simp only [Ledger.follow, hp]
  split at hc
  · rename_i ho
    cases hc
    rw [if_pos ho]
    refine h.conclude hw ht hb ?_
    rw [Crew.decision, h.policy, ← hvalue]
    exact hsound.conclude_answered hplace ho
  · rename_i ho
    cases hc
    rw [if_neg ho]
    refine (h.countAll fun k => Outcome.isMidway_of_mem).goOn hw ht hb rfl rfl (by simp) ?_ rfl ?_
    · rw [h.policy]
      exact hsound.renew hplace
    · exact congrArg (Task.next · c.now c.settings.policy.wait) hvalue

theorem judging {o : Outcome} (h : Watched s c g) (hw : w ∈ c.workers)
    (hp : w.phase = .judging o) (hc : c.advance w = some c') :
    Watched s c' (g.follow c w) := by
  have ht : w.phase.hasTask := by rw [hp]; rfl
  have hb : w.phase ≠ .blocked := by rw [hp]; simp
  have hplace := h.place_of_worker hw ht
  rw [hp] at hplace
  simp only [Crew.advance, hp, Option.some.injEq] at hc
  simp only [Ledger.follow, hp]
  subst hc
  refine h.conclude hw ht hb ?_
  rw [Crew.decision, h.policy, ← h.value_of_worker hw ht]
  exact (h.kept.sound _).conclude_judging hplace

/-- The line answers a worker as the line of tickets answers its ticket. -/
theorem offer_eq (h : Watched s c g) (hw : w ∈ c.workers) (ht : w.phase.hasTask)
    (hb : w.phase ≠ .blocked) (hf : (f (g.file (g.post w.number))).value = w.task) :
    c.line.offer w.task =
      (g.line.offer (g.post w.number)).map (Line.map (g.amend (g.post w.number) f).value) := by
  obtain ⟨rest, hperm, _⟩ := Crew.split h.tracks.nodup hw
  have hself : (g.amend (g.post w.number) f).value (g.post w.number) = w.task :=
    (congrArg File.value Ledger.amend_file_self).trans hf
  rw [← Line.offer_map, ← (h.tracks.perm hperm).line_amend_head ht hb, hself]

theorem putIn {l : Line Party Nat} (h : Watched s c g) (hw : w ∈ c.workers) (ht : w.phase.hasTask)
    (hb : w.phase ≠ .blocked) (hn : u.number = w.number) (ht' : u.phase.hasTask = false)
    (hr : ∀ d, u.phase = .leaving d → d = .requeued)
    (ho : g.line.offer (g.post w.number) = some l)
    (hs : (f (g.file (g.post w.number))).Sound s.policy c.now)
    (hp : (f (g.file (g.post w.number))).place = .lined) :
    Watched s (Crew.put { c with line := l.map (g.amend (g.post w.number) f).value } u)
      { g.amend (g.post w.number) f with line := l } := by
  obtain ⟨rest, hperm, hput, _⟩ := Crew.split h.tracks.nodup hw
  have htracks := ((h.tracks.perm hperm).putIn hn ht hb ht' ho hp).perm (hput u hn).symm
  have hkept := h.kept.amend (h.isOver_of_worker hw ht) hs (by rw [hp]; rfl)
  exact ⟨h.policy, htracks, { hkept with }, h.attests_put hw ht hn fun d hd => Or.inl (hr d hd),
    h.letters, h.tallied⟩

theorem returning (h : Watched s c g) (hw : w ∈ c.workers) (hp : w.phase = .returning)
    (hc : c.advance w = some c') : Watched s c' (g.follow c w) := by
  have ht : w.phase.hasTask := by rw [hp]; rfl
  have hb : w.phase ≠ .blocked := by rw [hp]; simp
  have hplace := h.place_of_worker hw ht
  have hvalue := h.value_of_worker hw ht
  have hoffer := h.offer_eq (f := .bringBack .lined) hw ht hb hvalue
  have hsound := h.kept.sound (g.post w.number)
  rw [hp] at hplace
  simp only [Crew.advance, hp, hoffer] at hc
  simp only [Ledger.follow, hp]
  cases ho : g.line.offer (g.post w.number) with
  | none =>
      simp only [ho, Option.map_none, Option.some.injEq] at hc
      subst hc
      exact h.goOn hw ht hb rfl rfl (by simp) (hsound.bringBack hplace rfl) rfl hvalue
  | some l =>
      simp only [ho, Option.map_some, Option.some.injEq] at hc
      subst hc
      exact h.putIn (u := { w with phase := .returned }) hw ht hb rfl rfl (by simp) ho
        (hsound.bringBack hplace rfl) rfl

theorem refused (h : Watched s c g) (hw : w ∈ c.workers) (hp : w.phase = .refused)
    (hc : c.advance w = some c') : Watched s c' (g.follow c w) := by
  have ht : w.phase.hasTask := by rw [hp]; rfl
  have hb : w.phase ≠ .blocked := by rw [hp]; simp
  have hplace := h.place_of_worker hw ht
  simp only [Crew.advance, hp, Option.some.injEq] at hc
  simp only [Ledger.follow, hp]
  subst hc
  refine Watched.freeSlot ((h.count rfl).turn hw ht hb rfl (by simp) ?_)
  exact (h.kept.sound _).pass (by rw [hplace, hp]; rfl) rfl

theorem aside (h : Watched s c g) (hw : w ∈ c.workers) (hp : w.phase = .aside)
    (hc : c.advance w = some c') : Watched s c' (g.follow c w) := by
  have ht : w.phase.hasTask := by rw [hp]; rfl
  have hb : w.phase ≠ .blocked := by rw [hp]; simp
  have hvalue := h.value_of_worker hw ht
  have hoffer := h.offer_eq (f := .move .lined) hw ht hb hvalue
  have hdue : (g.file (g.post w.number)).place.isDue := by
    rw [h.place_of_worker hw ht, hp]
    rfl
  have hsound := h.kept.sound (g.post w.number)
  simp only [Crew.advance, hp] at hc
  simp only [Ledger.follow, hp]
  cases ho : g.line.offer (g.post w.number) with
  | none =>
      rw [ho, Option.map_none] at hoffer
      rw [Line.send_of_full hoffer] at hc
      rw [Line.send_of_full ho]
      cases hc
      obtain ⟨rest, hperm, hput, _⟩ := Crew.split h.tracks.nodup hw
      have htracks := (h.tracks.perm hperm).block (u := { w with phase := .blocked })
        (f := .move (.held .blocked)) rfl ht hb rfl rfl hvalue rfl
      have hkept := h.kept.amend (h.isOver_of_worker hw ht)
        (hsound.pass hdue (l := .held .blocked) rfl) rfl
      exact ⟨h.policy, htracks.perm (hput { w with phase := .blocked } rfl).symm,
        { hkept with }, h.attests_put hw ht rfl (Ledger.attests_of_hasTask rfl), h.letters, h.tallied⟩
  | some l =>
      rw [ho, Option.map_some] at hoffer
      rw [Line.send_of_offer hoffer] at hc
      rw [Line.send_of_offer ho]
      cases hc
      exact h.putIn (u := { w with phase := .admitted }) hw ht hb rfl rfl (by simp) ho
        (hsound.pass hdue rfl) rfl

/-- A worker that has no task goes on to its end. -/
theorem idle {p : Phase} (h : Watched s c g) (hw : w ∈ c.workers) (ht : w.phase.hasTask = false)
    (ht' : p.hasTask = false) (hr : ∀ d, p = .leaving d → d = .requeued) :
    Watched s (c.setPhase w p) g := by
  obtain ⟨rest, hperm, hput, _⟩ := Crew.split h.tracks.nodup hw
  have htracks := h.tracks.perm hperm
  refine { h with tracks := ?_, attests := ?_ }
  · have hreplaced := htracks.replace (u := { w with phase := p }) (htracks.leave ht) rfl ht'
    exact hreplaced.perm (hput { w with phase := p } rfl).symm
  · intro v hv
    rcases List.mem_cons.mp ((hput { w with phase := p } rfl).mem_iff.mp hv) with rfl | hv
    · exact fun d hd => .inl (hr d hd)
    · exact h.attests v (hperm.mem_iff.mpr (List.mem_cons_of_mem _ hv))

theorem leave (h : Watched s c g) (hw : w ∈ c.workers) (ht : w.phase.hasTask = false) :
    Watched s (c.dismiss w.number) g := by
  obtain ⟨rest, hperm, _, hrest⟩ := Crew.split h.tracks.nodup hw
  refine { h with tracks := ?_, attests := ?_ }
  · rw [hrest]
    exact (h.tracks.perm hperm).leave ht
  · intro v hv
    exact h.attests v (List.mem_of_mem_filter hv)

/-- Whatever step a worker takes, the ledger follows. -/
theorem advance (h : Watched s c g) (hw : w ∈ c.workers) (hc : c.advance w = some c') :
    Watched s c' (g.follow c w) := by
  cases hp : w.phase with
  | hired => exact h.hired hw hp hc
  | resting till => exact h.resting hw hp hc
  | answered o => exact h.answered hw hp hc
  | judging o => exact h.judging hw hp hc
  | returning => exact h.returning hw hp hc
  | refused => exact h.refused hw hp hc
  | aside => exact h.aside hw hp hc
  | returned =>
      simp only [Crew.advance, hp, Option.some.injEq] at hc
      simp only [Ledger.follow, hp]
      subst hc
      exact (h.count rfl).idle hw (by rw [hp]; rfl) rfl (by simp)
  | admitted =>
      simp only [Crew.advance, hp, Option.some.injEq] at hc
      simp only [Ledger.follow, hp]
      subst hc
      exact (h.count rfl).idle hw (by rw [hp]; rfl) rfl nofun
  | leaving d =>
      simp only [Crew.advance, hp, Option.some.injEq] at hc
      simp only [Ledger.follow, hp]
      subst hc
      exact (h.idle (p := .departing) hw (by rw [hp]; rfl) rfl nofun).freeSlot
  | departing =>
      simp only [Crew.advance, hp, Option.some.injEq] at hc
      simp only [Ledger.follow, hp]
      subst hc
      exact h.leave hw (by rw [hp]; rfl)
  | polling => simp [Crew.advance, hp] at hc
  | blocked => simp [Crew.advance, hp] at hc

/-! ## What the others do -/

theorem attests_enter (h : Watched s c g) (t : Task) (now : Millis) (p : Place) :
    ∀ w ∈ c.workers, (g.enter t now p).Attests w := by
  intro w hw
  have := (h.attests w hw).amend (k := g.issued) (f := fun _ => .new t now p)
    (by rw [h.tracks.place_issued]; rfl)
  exact this

theorem enter {l : Line Party Nat} (h : Watched s c g) (t : Task)
    (ho : g.line.offer g.issued = some l) :
    Watched s { c with line := l.map (g.enter t c.now .lined).value }
      { g.enter t c.now .lined with line := l } where
  policy := h.policy
  tracks := h.tracks.enter_lined t c.now ho
  kept := by
    have := h.kept.amend (f := fun _ => .new t c.now .lined) (by rw [h.tracks.place_issued]; rfl)
      (.new t rfl) rfl
    exact { this with }
  attests := h.attests_enter t c.now .lined
  letters := h.letters
  tallied := h.tallied

theorem offer_issued (h : Watched s c g) (t : Task) :
    c.line.offer t = (g.line.offer g.issued).map (Line.map (g.enter t c.now .lined).value) := by
  rw [← Line.offer_map, ← h.tracks.line_enter t c.now .lined, Tracks.value_enter]

theorem send {n : Nat} {t : Task} (h : Watched s c g) (hc : c.step (.send n t) = some c') :
    Watched s c' (g.note c (.send n t)) := by
  have hoffer := h.offer_issued t
  simp only [Crew.step] at hc
  simp only [Ledger.note]
  cases ho : g.line.offer g.issued with
  | none =>
      rw [ho, Option.map_none] at hoffer
      rw [Line.send_of_full hoffer] at hc
      rw [Line.send_of_full ho]
      cases hc
      have hkept := h.kept.amend (f := fun _ => .new t c.now .waiting)
        (by rw [h.tracks.place_issued]; rfl) (.new t rfl) rfl
      exact ⟨h.policy, h.tracks.enter_waiting t c.now n, { hkept with },
        h.attests_enter t c.now .waiting, h.letters, h.tallied⟩
  | some l =>
      rw [ho, Option.map_some] at hoffer
      rw [Line.send_of_offer hoffer] at hc
      rw [Line.send_of_offer ho]
      cases hc
      exact { h.enter t ho with }

theorem offer {t : Task} (h : Watched s c g) (hc : c.step (.offer t) = some c') :
    Watched s c' (g.note c (.offer t)) := by
  simp only [Crew.step, h.offer_issued t] at hc
  simp only [Ledger.note]
  cases ho : g.line.offer g.issued with
  | none => simp [ho] at hc
  | some l =>
      simp only [ho, Option.map_some, Option.some.injEq] at hc
      subst hc
      exact h.enter t ho

theorem finish {n : Nat} {o : Outcome} (h : Watched s c g) (hc : c.step (.finish n o) = some c') :
    Watched s c' (g.note c (.finish n o)) := by
  simp only [Crew.step, Option.bind_eq_some_iff] at hc
  obtain ⟨w, hw?, hc⟩ := hc
  obtain ⟨hw, rfl⟩ := Crew.worker?_eq_some hw?
  split at hc
  · rename_i hp
    cases hc
    have ht : w.phase.hasTask := by rw [hp]; rfl
    have hplace := h.place_of_worker hw ht
    rw [hp] at hplace
    exact h.goOn hw ht (by rw [hp]; simp) rfl rfl (by simp) ((h.kept.sound _).answer o hplace) rfl
      (h.value_of_worker hw ht)
  · cases hc

theorem abandon {n : Nat} (h : Watched s c g) (hc : c.step (.abandon n) = some c') :
    Watched s c' (g.note c (.abandon n)) := by
  simp only [Crew.step, Option.bind_eq_some_iff] at hc
  obtain ⟨w, hw?, hc⟩ := hc
  obtain ⟨hw, rfl⟩ := Crew.worker?_eq_some hw?
  obtain ⟨rest, hperm, hput, _⟩ := Crew.split h.tracks.nodup hw
  have htracks := ((h.tracks.perm hperm).replace (u := { w with phase := .departing })
    (h.tracks.perm hperm).drop rfl rfl).perm (hput { w with phase := .departing } rfl).symm
  split at hc
  · rename_i hcancel
    have hall := h.kept
    rw [hcancel.1] at hall
    have hkept : (g.drop w).IsKept s.policy c.now true := by
      unfold Ledger.drop
      split
      · rename_i ht
        have := hall.abandon (h.isOver_of_worker hw ht)
        exact { this with }
      · exact { hall with }
    have hattests : ∀ v ∈ (c.setPhase w .departing).workers, (g.drop w).Attests v := by
      intro v hv
      rcases List.mem_cons.mp ((hput { w with phase := .departing } rfl).mem_iff.mp hv) with rfl | hv
      · exact Ledger.attests_of_phase nofun
      have hv := h.attests v (hperm.mem_iff.mpr (List.mem_cons_of_mem _ hv))
      unfold Ledger.drop
      split
      · rename_i ht
        have := hv.amend (f := .move (.ended .abandoned)) (h.isOver_of_worker hw ht)
        exact this
      · exact hv
    have hsettled : (g.drop w).settled = g.settled := by
      unfold Ledger.drop
      split <;> rfl
    have hletters : c.letters.records <:+ (g.drop w).letters := by
      rw [Ledger.letters, hsettled]
      exact h.letters
    have htallied : ∀ x : Metrics.Counter, x.isMidway = false →
        c.tally x = (g.drop w).counts.count x := by
      rw [Ledger.counts, hsettled]
      exact h.tallied
    rw [← hcancel.1] at hkept
    simp only [Ledger.note, hw?, Option.elim]
    cases hc
    split <;> exact ⟨h.policy, htracks, hkept, hattests, hletters, htallied⟩
  · cases hc

theorem hire {k : Nat} {rest : List Nat} {l : Line Party Nat} (h : Watched s c g) (d : Dispatcher)
    (hi : g.line.items = k :: rest) (hli : l.items = rest) (hls : l.senders = g.line.senders) :
    Watched s
      { c with
        dispatcher := d, line := l.map g.value, hired := c.hired + 1
        workers := c.workers ++ [⟨c.hired, g.value k, .hired⟩] }
      { g.amend k (.move (.held .hired)) with
        line := l, post := fun m => if m = c.hired then k else g.post m } := by
  have hplace := h.tracks.place_of_queued (k := k) (by simp [hi])
  have hkept := h.kept.amend (k := k) (f := .move (.held .hired)) (by rw [hplace]; rfl)
    ((h.kept.sound k).pass (by rw [hplace]; rfl) rfl) rfl
  have htracks := (h.tracks.hire hi hli hls).perm (List.perm_append_singleton _ _).symm
  refine ⟨h.policy, htracks, { hkept with }, ?_, h.letters, h.tallied⟩
  intro v hv
  rcases List.mem_append.mp hv with hv | hv
  · have hpost : (if v.number = c.hired then k else g.post v.number) = g.post v.number :=
      if_neg (Nat.ne_of_lt (h.tracks.numbered v hv))
    have := (h.attests v hv).amend (k := k) (f := .move (.held .hired)) (by rw [hplace]; rfl)
    simp only [Ledger.Attests, hpost] at this ⊢
    exact this
  · rw [List.mem_singleton.mp hv]
    exact Ledger.attests_of_hasTask rfl

theorem letIn {who : Party} {k : Nat} {others : List (Party × Nat)} {l : Line Party Nat}
    (h : Watched s c g) (hs : g.line.senders = (who, k) :: others)
    (hli : l.items = g.line.items ++ [k]) (hls : l.senders = others) :
    Watched s (Crew.letIn { c with line := l.map g.value } (some who))
      { g.amend k (.move .lined) with line := l } := by
  have hplace : (g.file k).place.isOver = false ∧ (g.file k).place.isDue := by
    rcases h.tracks.place_of_sender (s := (who, k)) (by simp [hs]) with hp | hp <;> simp [hp] <;>
      exact ⟨rfl, rfl⟩
  have hkept := h.kept.amend hplace.1 ((h.kept.sound k).pass hplace.2 (l := .lined) rfl) rfl
  have hattests : ∀ v ∈ c.workers, (g.amend k (.move .lined)).Attests v := fun v hv =>
    (h.attests v hv).amend hplace.1
  cases who with
  | producer n =>
      exact ⟨h.policy, h.tracks.admit_producer hs hli hls, { hkept with }, hattests, h.letters,
        h.tallied⟩
  | worker n =>
      obtain ⟨w, hw, hp, rfl, rfl⟩ := h.tracks.worker_of_sender (n := n) (k := k) (by simp [hs])
      obtain ⟨rest, hperm, hput, _⟩ := Crew.split h.tracks.nodup hw
      have hw? : Crew.worker? { c with line := l.map g.value } w.number = some w :=
        Crew.worker?_of_mem h.tracks.nodup hw
      have htracks := (h.tracks.perm hperm).admit_worker hp hs hli hls
      simp only [Crew.letIn, hw?, Option.elim]
      refine ⟨h.policy, htracks.perm (hput { w with phase := .admitted } rfl).symm, { hkept with },
        ?_, h.letters, h.tallied⟩
      exact h.attests_put hw (by rw [hp]; rfl) rfl (Ledger.attests_of_phase (by simp))

/-- The dispatcher takes a task; whoever waits for the room gets it. -/
theorem takeTask (h : Watched s c g) (hc : c.step .takeTask = some c') :
    Watched s c' (g.note c .takeTask) := by
  simp only [Crew.step] at hc
  split at hc
  · simp only [h.tracks.line_eq, Line.take?_map, Option.map_map, Option.map_eq_some_iff] at hc
    obtain ⟨t, ht, rfl⟩ := hc
    simp only [Ledger.note, ht, Option.elim]
    obtain ⟨rest, hi, ⟨hnone, hitems, hsenders⟩ | ⟨who, b, others, hs, hsome, hitems, hsenders⟩⟩ :=
      Line.take?_eq_some ht
    · have := h.hire .seekingSlot hi hitems hsenders
      simp only [Ledger.hire, hnone, Function.comp_apply, Line.Taken.map, Crew.letIn]
      exact this
    · have hfirst := h.hire (l := { t.line with items := rest, senders := g.line.senders })
        .seekingSlot hi rfl rfl
      have := hfirst.letIn (l := t.line) hs hitems hsenders
      have hvalue : (g.amend t.item (.move (.held .hired))).value = g.value :=
        Ledger.value_amend fun _ => rfl
      simp only [Ledger.hire, hsome, hs, Function.comp_apply, Line.Taken.map]
      rw [← hvalue] at this ⊢
      exact this
  · cases hc

/-- Whatever move is made, the ledger follows. -/
theorem step {m : Crew.Move} (h : Watched s c g) (hc : c.step m = some c') :
    Watched s c' (g.note c m) := by
  cases m with
  | send n t => exact h.send hc
  | offer t => exact h.offer hc
  | takeTask => exact h.takeTask hc
  | finish n o => exact h.finish hc
  | abandon n => exact h.abandon hc
  | work n =>
      simp only [Crew.step, Option.bind_eq_some_iff] at hc
      obtain ⟨w, hw, hc⟩ := hc
      simp only [Ledger.note, hw, Option.elim]
      exact h.advance (Crew.worker?_eq_some hw).1 hc
  | pass span =>
      cases hc
      exact ⟨h.policy, h.tracks, h.kept.mono (Nat.le_add_right _ _), h.attests, h.letters, h.tallied⟩
  | cancel =>
      cases hc
      have hkept : g.IsKept s.policy c.now true :=
        ⟨h.kept.sound, fun _ _ => rfl, h.kept.settled, h.kept.nodup⟩
      exact ⟨h.policy, h.tracks, hkept, h.attests, h.letters, h.tallied⟩
  | notice n =>
      simp only [Crew.step, Option.ite_none_right_eq_some, Option.some.injEq] at hc
      obtain ⟨_, rfl⟩ := hc
      exact { h with }
  | start =>
      simp only [Crew.step, Option.ite_none_right_eq_some, Option.some.injEq] at hc
      obtain ⟨_, rfl⟩ := hc
      exact { h with }
  | takeSlot =>
      simp only [Crew.step, Option.ite_none_right_eq_some, Option.some.injEq] at hc
      obtain ⟨_, rfl⟩ := hc
      exact { h with }
  | stop =>
      simp only [Crew.step, Option.ite_none_right_eq_some, Option.some.injEq] at hc
      obtain ⟨_, rfl⟩ := hc
      split
      · exact { h with }
      · exact { h with }

end Watched
end Intake.Poll
