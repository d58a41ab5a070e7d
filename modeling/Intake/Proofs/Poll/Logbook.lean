import Intake.Poll.Line

/-!
# The calls to a line

Calls come to a line one after the other, and after each of them everyone moves who can. A logbook numbers
the calls and writes down whose item was let in, who got which item, and who was refused. In it the line
shows as a bounded queue, first in, first out, at which all who wait are served in the order of their
arrival.
-/

namespace Intake.Poll

namespace Line

inductive Call (α : Type)
  /-- Brings an item, and waits if there is no room. -/
  | put (a : α)
  /-- Brings an item that is handed back if there is no room. -/
  | tryPut (a : α)
  /-- Takes an item, and waits if there is none. -/
  | take
  deriving Repr, DecidableEq

def Call.item? {α : Type} : Call α → Option α
  | put a | tryPut a => some a
  | take => none

variable {κ α : Type} {l : Line κ α}

/-- A line at which everyone has moved who could. -/
structure IsCalm (l : Line κ α) : Prop where
  hasRoom : 0 < l.capacity
  called : l.called = []
  length_le : l.items.length ≤ l.capacity
  full : l.senders ≠ [] → l.items.length = l.capacity
  empty : l.receivers ≠ [] → l.items = []

namespace IsCalm

theorem senders_eq_nil (h : l.IsCalm) (hroom : l.items.length < l.capacity) : l.senders = [] := by
  refine Classical.byContradiction fun hs => ?_
  exact absurd (h.full hs) (Nat.ne_of_lt hroom)

theorem receivers_eq_nil (h : l.IsCalm) (hi : l.items ≠ []) : l.receivers = [] := by
  exact Classical.byContradiction fun hr => hi (h.empty hr)

/-- Nobody waits for room while someone waits for an item. -/
theorem senders_or_receivers (h : l.IsCalm) : l.senders = [] ∨ l.receivers = [] := by
  by_cases hi : l.items = []
  · exact .inl (h.senders_eq_nil (by rw [hi]; exact h.hasRoom))
  · exact .inr (h.receivers_eq_nil hi)

theorem length_eq_of_full (h : l.IsCalm) (hfull : ¬ l.items.length < l.capacity) :
    l.items.length = l.capacity :=
  Nat.le_antisymm h.length_le (Nat.le_of_not_lt hfull)

theorem receivers_of_full (h : l.IsCalm) (hfull : l.items.length = l.capacity) :
    l.receivers = [] :=
  h.receivers_eq_nil (List.length_pos_iff.mp (hfull ▸ h.hasRoom))

end IsCalm

theorem settle_of_called (h : l.called = []) : l.settle = ⟨l, [], []⟩ := by
  cases l
  cases h
  rfl

/-- Who is called up for the only item takes it. -/
theorem settle_single {r : κ} {a : α} (hi : l.items = [a]) (hs : l.senders = [])
    (hc : l.called = [r]) : l.settle = ⟨{ l with items := [], called := [] }, [(r, a)], []⟩ := by
  cases l
  cases hi
  cases hs
  cases hc
  rfl

end Line

open Line (Call)

structure Logbook (α : Type) where
  line : Line Nat α
  /-- The calls so far; each is numbered by its place. -/
  calls : List (Call α)
  /-- The calls whose items were let in, in this order. -/
  entered : List Nat
  /-- The calls that got an item, in this order. -/
  served : List (Nat × α)
  /-- The calls that were refused, with what was handed back. -/
  refused : List (Nat × Refused α)

namespace Logbook

variable {α : Type}

def new (capacity : Nat) : Logbook α := ⟨.new capacity, [], [], [], []⟩

/-- Writes down a call, as long as nobody else has moved. -/
def begin (b : Logbook α) (q : Call α) : Logbook α :=
  let n := b.calls.length
  let b := { b with calls := b.calls ++ [q] }
  match q with
  | .put a =>
    let (isIn, line) := b.line.send n a
    { b with line := line, entered := if isIn then b.entered ++ [n] else b.entered }
  | .tryPut a =>
    match b.line.tryPut a with
    | .ok line => { b with line := line, entered := b.entered ++ [n] }
    | .error r => { b with refused := b.refused ++ [(n, r)] }
  | .take =>
    match b.line.receive n with
    | (some t, line) =>
      { b with
        line := line, served := b.served ++ [(n, t.item)]
        entered := b.entered ++ t.admitted.toList }
    | (none, line) => { b with line := line }

/-- Lets all who were called up take their items. -/
def settle (b : Logbook α) : Logbook α :=
  let s := b.line.settle
  { b with line := s.line, served := b.served ++ s.taken, entered := b.entered ++ s.admitted }

/-- A call comes, and everyone moves who can. -/
def call (b : Logbook α) (q : Call α) : Logbook α := (b.begin q).settle

def ofCalls (capacity : Nat) (calls : List (Call α)) : Logbook α := calls.foldl call (new capacity)

/-- What a call has brought. -/
def item? (b : Logbook α) (n : Nat) : Option α := b.calls[n]?.bind Call.item?

/-- The calls that have brought an item and were not refused, in the order of their arrival. -/
def bearers (b : Logbook α) : List Nat :=
  (List.range b.calls.length).filter fun n =>
    (b.item? n).isSome && decide (n ∉ b.refused.map Prod.fst)

/-- The calls for an item, in the order of their arrival. -/
def seekers (b : Logbook α) : List Nat :=
  (List.range b.calls.length).filter fun n => (b.item? n).isNone

/-! ## What a call comes to -/

/-- What each call needs, and what it leads to. -/
inductive Deals (b : Logbook α) : Call α → Logbook α → Prop
  /-- The item goes to the first who waits for one. -/
  | handOn {q a r rs} (hq : q.item? = some a) (hr : b.line.receivers = r :: rs) :
      Deals b q { b with
        line := { b.line with receivers := rs }
        calls := b.calls ++ [q]
        entered := b.entered ++ [b.calls.length]
        served := b.served ++ [(r, a)] }
  | enter {q a} (hq : q.item? = some a) (hr : b.line.receivers = [])
      (hroom : b.line.items.length < b.line.capacity) :
      Deals b q { b with
        line := { b.line with items := b.line.items ++ [a] }
        calls := b.calls ++ [q]
        entered := b.entered ++ [b.calls.length] }
  | wait {a} (hfull : b.line.items.length = b.line.capacity) :
      Deals b (.put a) { b with
        line := { b.line with senders := b.line.senders ++ [(b.calls.length, a)] }
        calls := b.calls ++ [.put a] }
  | refuse {a} (hfull : b.line.items.length = b.line.capacity) :
      Deals b (.tryPut a) { b with
        calls := b.calls ++ [.tryPut a]
        refused := b.refused ++ [(b.calls.length, ⟨a, .full b.line.capacity⟩)] }
  | take {a rest} (hi : b.line.items = a :: rest) (hs : b.line.senders = []) :
      Deals b .take { b with
        line := { b.line with items := rest }
        calls := b.calls ++ [.take]
        served := b.served ++ [(b.calls.length, a)] }
  /-- The room goes to the first who waits for it. -/
  | exchange {a rest who x others} (hi : b.line.items = a :: rest)
      (hs : b.line.senders = (who, x) :: others) :
      Deals b .take { b with
        line := { b.line with items := rest ++ [x], senders := others }
        calls := b.calls ++ [.take]
        entered := b.entered ++ [who]
        served := b.served ++ [(b.calls.length, a)] }
  | stand (hi : b.line.items = []) :
      Deals b .take { b with
        line := { b.line with receivers := b.line.receivers ++ [b.calls.length] }
        calls := b.calls ++ [.take] }

variable {b b' : Logbook α}

theorem settle_of_called (h : b.line.called = []) : b.settle = b := by
  simp only [settle, Line.settle_of_called h, List.append_nil]

theorem deals_of_begin {q : Call α} (hd : b.Deals q b') (hc : b'.line.called = [])
    (hb : b.begin q = b') : b.Deals q (b.call q) := by
  rw [call, hb, settle_of_called hc]
  exact hd

theorem deals_of_offer {q : Call α} {a : α} {l : Line Nat α} (h : b.line.IsCalm)
    (hq : q.item? = some a) (ho : b.line.offer a = some l)
    (hb : b.begin q = { b with
      line := l, calls := b.calls ++ [q], entered := b.entered ++ [b.calls.length] }) :
    b.Deals q (b.call q) := by
  unfold Line.offer at ho
  split at ho
  · -- Whoever waits for an item waits at an empty line, and is called up for this one.
    rename_i r rs hr
    cases ho
    have hi : b.line.items = [] := h.empty (by simp [hr])
    have hs : b.line.senders = [] := h.senders_eq_nil (by rw [hi]; exact h.hasRoom)
    have hsettle := Line.settle_single (l := { b.line with
      items := b.line.items ++ [a], receivers := rs, called := b.line.called ++ [r] })
      (r := r) (a := a) (by rw [hi]; rfl) hs (by rw [h.called]; rfl)
    have hline : { b.line with items := [], receivers := rs, called := [] } =
        { b.line with receivers := rs } := by
      rw [← hi, ← h.called]
    rw [call, hb]
    simp only [settle, hsettle, hline, List.append_nil]
    exact .handOn hq hr
  · rename_i hr
    split at ho
    · rename_i hroom
      cases ho
      exact deals_of_begin (.enter hq hr hroom) h.called hb
    · cases ho

theorem full_of_offer {a : α} (h : b.line.IsCalm) (ho : b.line.offer a = none) :
    b.line.items.length = b.line.capacity := by
  unfold Line.offer at ho
  split at ho
  · cases ho
  · split at ho
    · cases ho
    · exact h.length_eq_of_full ‹_›

theorem offer_of_full {a : α} (h : b.line.IsCalm)
    (hfull : b.line.items.length = b.line.capacity) : b.line.offer a = none := by
  simp only [Line.offer, h.receivers_of_full hfull, hfull, Nat.lt_irrefl, if_false]

theorem deals_put (h : b.line.IsCalm) (a : α) : b.Deals (.put a) (b.call (.put a)) := by
  cases ho : b.line.offer a with
  | some l => exact deals_of_offer h rfl ho (by simp only [begin, Line.send, ho, if_true])
  | none =>
      refine deals_of_begin (.wait (full_of_offer h ho)) h.called ?_
      simp only [begin, Line.send, ho, Bool.false_eq_true, if_false]

theorem deals_tryPut (h : b.line.IsCalm) (a : α) : b.Deals (.tryPut a) (b.call (.tryPut a)) := by
  cases ho : b.line.offer a with
  | some l => exact deals_of_offer h rfl ho (by simp only [begin, Line.tryPut, ho])
  | none =>
      refine deals_of_begin (.refuse (full_of_offer h ho)) h.called ?_
      simp only [begin, Line.tryPut, ho]

theorem deals_take (h : b.line.IsCalm) : b.Deals .take (b.call .take) := by
  cases hi : b.line.items with
  | nil =>
      refine deals_of_begin (.stand hi) h.called ?_
      simp only [begin, Line.receive, Line.take?, hi]
  | cons a rest =>
      cases hs : b.line.senders with
      | nil =>
          refine deals_of_begin (.take hi hs) h.called ?_
          simp only [begin, Line.receive, Line.take?, hi, hs, Option.toList_none, List.append_nil]
      | cons s others =>
          have hroom : rest.length < b.line.capacity := by
            have hle := h.length_le
            rwa [hi, List.length_cons] at hle
          refine deals_of_begin (.exchange hi hs) h.called ?_
          simp only [begin, Line.receive, Line.take?, hi, hs, hroom, if_true, Option.toList_some]

theorem deals (h : b.line.IsCalm) (q : Call α) : b.Deals q (b.call q) := by
  cases q with
  | put a => exact deals_put h a
  | tryPut a => exact deals_tryPut h a
  | take => exact deals_take h

/-! ## What a call adds to the logbook -/

section

variable {q : Call α}

theorem item?_of_lt (hc : b'.calls = b.calls ++ [q]) {n : Nat} (hn : n < b.calls.length) :
    b'.item? n = b.item? n := by
  simp only [item?, hc, List.getElem?_append_left hn]

theorem item?_length (hc : b'.calls = b.calls ++ [q]) : b'.item? b.calls.length = q.item? := by
  simp only [item?, hc, List.getElem?_concat_length, Option.bind_some]

theorem map_item? (hc : b'.calls = b.calls ++ [q]) {ns : List Nat}
    (hns : ∀ n ∈ ns, n < b.calls.length) : ns.map b'.item? = ns.map b.item? :=
  List.map_congr_left fun n hn => item?_of_lt hc (hns n hn)

theorem filter_range_succ {f g : Nat → Bool} {n : Nat} (h : ∀ m < n, f m = g m) :
    (List.range (n + 1)).filter f = (List.range n).filter g ++ if f n then [n] else [] := by
  have hrest : (List.range n).filter f = (List.range n).filter g :=
    List.filter_congr fun m hm => h m (List.mem_range.mp hm)
  rw [List.range_succ, List.filter_append, hrest]
  cases hf : f n <;> simp [hf]

theorem seekers_of_calls (hc : b'.calls = b.calls ++ [q]) :
    b'.seekers = b.seekers ++ if q.item?.isNone then [b.calls.length] else [] := by
  have hlen : b'.calls.length = b.calls.length + 1 := by rw [hc, List.length_append]; rfl
  rw [seekers, hlen, filter_range_succ (g := fun n => (b.item? n).isNone), item?_length hc]
  · rfl
  · intro m hm
    rw [item?_of_lt hc hm]

/-- A call that was not refused at once joins those who have brought an item, if it has brought one. -/
theorem bearers_of_calls (hc : b'.calls = b.calls ++ [q])
    (hr : ∀ n < b.calls.length, n ∈ b'.refused.map Prod.fst ↔ n ∈ b.refused.map Prod.fst) :
    b'.bearers = b.bearers ++
      if q.item?.isSome && decide (b.calls.length ∉ b'.refused.map Prod.fst) then [b.calls.length]
      else [] := by
  have hlen : b'.calls.length = b.calls.length + 1 := by rw [hc, List.length_append]; rfl
  rw [bearers, hlen, filter_range_succ (g := fun n =>
    (b.item? n).isSome && decide (n ∉ b.refused.map Prod.fst)), item?_length hc]
  · rfl
  · intro m hm
    rw [item?_of_lt hc hm, decide_eq_decide.mpr (not_congr (hr m hm))]

end

/-! ## What holds of every logbook -/

/-- Who waits is served in the order of arrival, and the items leave in the order in which they came in. -/
structure IsFair (b : Logbook α) (capacity : Nat) : Prop where
  capacity_eq : b.line.capacity = max capacity 1
  calm : b.line.IsCalm
  bearers : b.entered ++ b.line.senders.map Prod.fst = b.bearers
  brought : ∀ s ∈ b.line.senders, b.item? s.1 = some s.2
  items : b.entered.map b.item? = (b.served.map Prod.snd ++ b.line.items).map some
  seekers : b.served.map Prod.fst ++ b.line.receivers = b.seekers
  refused : ∀ x ∈ b.refused,
    b.calls[x.1]? = some (.tryPut x.2.item) ∧ x.2.fault = .full (max capacity 1)

theorem Deals.calm {q : Call α} (h : b.line.IsCalm) (hd : b.Deals q b') : b'.line.IsCalm := by
  cases hd with
  | handOn _ hr =>
      exact ⟨h.hasRoom, h.called, h.length_le, h.full, fun _ => h.empty (by simp [hr])⟩
  | enter _ hr hroom =>
      refine ⟨h.hasRoom, h.called, ?_, fun hs => ?_, fun hne => absurd hr hne⟩
      · rw [List.length_append, List.length_singleton]
        exact hroom
      · exact absurd (h.senders_eq_nil hroom) hs
  | wait hfull => exact ⟨h.hasRoom, h.called, h.length_le, fun _ => hfull, h.empty⟩
  | refuse _ => exact h
  | @take a rest hi hs =>
      have hle := h.length_le
      rw [hi] at hle
      refine ⟨h.hasRoom, h.called, Nat.le_of_succ_le hle, fun hne => absurd hs hne, fun hne => ?_⟩
      exact absurd (h.receivers_eq_nil (by simp [hi])) hne
  | @exchange a rest who x others hi hs =>
      -- Who is let in fills the place that has become free.
      have hfull := h.full (by simp [hs])
      rw [hi, List.length_cons] at hfull
      refine ⟨h.hasRoom, h.called, ?_, fun _ => ?_, fun hne => ?_⟩
      · simp [← hfull]
      · simp [← hfull]
      · exact absurd (h.receivers_eq_nil (by simp [hi])) hne
  | stand hi =>
      exact ⟨h.hasRoom, h.called, h.length_le, h.full, fun _ => hi⟩

namespace IsFair

variable {capacity : Nat} {q : Call α}

theorem lt_of_bearer (h : b.IsFair capacity) {n : Nat}
    (hn : n ∈ b.entered ++ b.line.senders.map Prod.fst) : n < b.calls.length := by
  rw [h.bearers] at hn
  exact List.mem_range.mp (List.mem_filter.mp hn).1

theorem lt_of_refused (h : b.IsFair capacity) {n : Nat} (hn : n ∈ b.refused.map Prod.fst) :
    n < b.calls.length := by
  obtain ⟨x, hx, rfl⟩ := List.mem_map.mp hn
  exact (List.getElem?_eq_some_iff.mp (h.refused x hx).1).1

theorem not_refused (h : b.IsFair capacity) : b.calls.length ∉ b.refused.map Prod.fst :=
  fun hn => Nat.lt_irrefl _ (h.lt_of_refused hn)

theorem bearers_next (h : b.IsFair capacity) (hc : b'.calls = b.calls ++ [q])
    (hr : b'.refused = b.refused)
    (he : b'.entered ++ b'.line.senders.map Prod.fst =
      b.entered ++ b.line.senders.map Prod.fst ++
        if q.item?.isSome then [b.calls.length] else []) :
    b'.entered ++ b'.line.senders.map Prod.fst = b'.bearers := by
  rw [bearers_of_calls hc (fun n _ => by rw [hr]), hr, he, h.bearers]
  simp [h.not_refused]

theorem seekers_next (h : b.IsFair capacity) (hc : b'.calls = b.calls ++ [q])
    (he : b'.served.map Prod.fst ++ b'.line.receivers =
      b.served.map Prod.fst ++ b.line.receivers ++
        if q.item?.isNone then [b.calls.length] else []) :
    b'.served.map Prod.fst ++ b'.line.receivers = b'.seekers := by
  rw [seekers_of_calls hc, he, h.seekers]

/-- The items `as`, brought by the calls `ns`, are let in behind the others. -/
theorem items_next (h : b.IsFair capacity) (hc : b'.calls = b.calls ++ [q]) (ns : List Nat)
    (as : List α) (he : b'.entered = b.entered ++ ns) (hns : ns.map b'.item? = as.map some)
    (hi : b'.served.map Prod.snd ++ b'.line.items = b.served.map Prod.snd ++ b.line.items ++ as) :
    b'.entered.map b'.item? = (b'.served.map Prod.snd ++ b'.line.items).map some := by
  rw [he, List.map_append, map_item? hc fun n hn => h.lt_of_bearer (List.mem_append_left _ hn),
    h.items, hns, hi]
  simp only [List.map_append]

theorem brought_next (h : b.IsFair capacity) (hc : b'.calls = b.calls ++ [q]) :
    ∀ s ∈ b.line.senders, b'.item? s.1 = some s.2 := by
  intro s hs
  rw [item?_of_lt hc (h.lt_of_bearer (List.mem_append_right _ (List.mem_map_of_mem hs)))]
  exact h.brought s hs

theorem refused_next (h : b.IsFair capacity) (hc : b'.calls = b.calls ++ [q]) :
    ∀ x ∈ b.refused,
      b'.calls[x.1]? = some (.tryPut x.2.item) ∧ x.2.fault = .full (max capacity 1) := by
  intro x hx
  rw [hc, List.getElem?_append_left (h.lt_of_refused (List.mem_map_of_mem hx))]
  exact h.refused x hx

/-- Every call leaves the line fair. -/
theorem deal (h : b.IsFair capacity) (hd : b.Deals q b') : b'.IsFair capacity := by
  have hcalm := hd.calm h.calm
  cases hd with
  | @handOn _ a r rs hq hr =>
      have hi : b.line.items = [] := h.calm.empty (by simp [hr])
      have hs : b.line.senders = [] :=
        h.calm.senders_eq_nil (by rw [hi]; exact h.calm.hasRoom)
      exact ⟨h.capacity_eq, hcalm, h.bearers_next rfl rfl (by simp [hq, hs]), h.brought_next rfl,
        h.items_next rfl [b.calls.length] [a] rfl (by simp [item?_length, hq]) (by simp [hi]),
        h.seekers_next rfl (by simp [hq, hr]), h.refused_next rfl⟩
  | @enter _ a hq hr hroom =>
      have hs : b.line.senders = [] := h.calm.senders_eq_nil hroom
      exact ⟨h.capacity_eq, hcalm, h.bearers_next rfl rfl (by simp [hq, hs]), h.brought_next rfl,
        h.items_next rfl [b.calls.length] [a] rfl (by simp [item?_length, hq]) (by simp),
        h.seekers_next rfl (by simp [hq]), h.refused_next rfl⟩
  | @wait a hfull =>
      refine ⟨h.capacity_eq, hcalm, h.bearers_next rfl rfl (by simp [Call.item?]), ?_,
        h.items_next rfl [] [] (by simp) rfl (by simp), h.seekers_next rfl (by simp [Call.item?]),
        h.refused_next rfl⟩
      intro s hs
      rcases List.mem_append.mp hs with hs | hs
      · exact h.brought_next rfl s hs
      · rw [List.mem_singleton.mp hs]
        exact item?_length (b := b) (q := .put a) rfl
  | @refuse a hfull =>
      refine ⟨h.capacity_eq, hcalm, ?_, h.brought_next rfl,
        h.items_next rfl [] [] (by simp) rfl (by simp), h.seekers_next rfl (by simp [Call.item?]),
        ?_⟩
      · rw [bearers_of_calls rfl fun n hn => by simp [Nat.ne_of_lt hn], h.bearers]
        simp
      · intro x hx
        rcases List.mem_append.mp hx with hx | hx
        · exact h.refused_next rfl x hx
        · rw [List.mem_singleton.mp hx, h.capacity_eq]
          exact ⟨List.getElem?_concat_length, rfl⟩
  | @take a rest hi hs =>
      have hr : b.line.receivers = [] := h.calm.receivers_eq_nil (by simp [hi])
      exact ⟨h.capacity_eq, hcalm, h.bearers_next rfl rfl (by simp [Call.item?]), h.brought_next rfl,
        h.items_next rfl [] [] (by simp) rfl (by simp [hi]),
        h.seekers_next rfl (by simp [Call.item?, hr]), h.refused_next rfl⟩
  | @exchange a rest who x others hi hs =>
      have hr : b.line.receivers = [] := h.calm.receivers_eq_nil (by simp [hi])
      refine ⟨h.capacity_eq, hcalm, h.bearers_next rfl rfl (by simp [Call.item?, hs]), ?_,
        h.items_next rfl [who] [x] rfl ?_ (by simp [hi]),
        h.seekers_next rfl (by simp [Call.item?, hr]), h.refused_next rfl⟩
      · exact fun s hmem => h.brought_next rfl s (by rw [hs]; exact List.mem_cons_of_mem _ hmem)
      · exact congrArg (fun y => [y]) (h.brought_next rfl (who, x) (by simp [hs]))
  | stand hi =>
      exact ⟨h.capacity_eq, hcalm, h.bearers_next rfl rfl (by simp [Call.item?]), h.brought_next rfl,
        h.items_next rfl [] [] (by simp) rfl (by simp),
        h.seekers_next rfl (by simp [Call.item?]), h.refused_next rfl⟩

theorem new (capacity : Nat) : (Logbook.new capacity : Logbook α).IsFair capacity where
  capacity_eq := rfl
  calm := ⟨Nat.le_max_right _ _, rfl, Nat.zero_le _, fun hs => absurd rfl hs, fun _ => rfl⟩
  bearers := rfl
  brought := nofun
  items := rfl
  seekers := rfl
  refused := nofun

theorem foldl {calls : List (Call α)} (h : b.IsFair capacity) :
    (calls.foldl call b).IsFair capacity := by
  induction calls generalizing b with
  | nil => exact h
  | cons q calls ih => exact ih (h.deal (deals h.calm q))

theorem ofCalls (capacity : Nat) (calls : List (Call α)) :
    (Logbook.ofCalls capacity calls).IsFair capacity :=
  (new capacity).foldl

end IsFair

theorem Deals.calls_eq {q : Call α} (hd : b.Deals q b') : b'.calls = b.calls ++ [q] := by
  cases hd <;> rfl

theorem calls_foldl (h : b.line.IsCalm) (calls : List (Call α)) :
    (calls.foldl call b).calls = b.calls ++ calls := by
  induction calls generalizing b with
  | nil => exact (List.append_nil _).symm
  | cons q calls ih =>
      have hd := deals h q
      rw [List.foldl_cons, ih (hd.calm h), hd.calls_eq, List.append_assoc]
      rfl

/-! ## Who waits for room -/

section

variable {capacity n : Nat} {a : α} {q : Call α}

theorem ofCalls_concat (calls : List (Call α)) :
    ofCalls capacity (calls ++ [q]) = (ofCalls capacity calls).call q :=
  List.foldl_append

theorem calls_ofCalls (calls : List (Call α)) : (ofCalls capacity calls).calls = calls :=
  calls_foldl (IsFair.new capacity).calm calls

theorem Deals.mem_entered (hd : b.Deals q b') (hn : n ∈ b.entered) : n ∈ b'.entered := by
  cases hd with
  | wait | refuse | take | stand => exact hn
  | handOn | enter | exchange => exact List.mem_append_left _ hn

/-- Who brings an item and waits if need be is let in, or waits with it. -/
theorem IsFair.entered_or_waits (h : b.IsFair capacity) (hn : b.calls[n]? = some (.put a)) :
    n ∈ b.entered ∨ (n, a) ∈ b.line.senders := by
  have hitem : b.item? n = some a := by simp [item?, hn, Call.item?]
  have hbearer : n ∈ b.bearers := by
    refine List.mem_filter.mpr ⟨List.mem_range.mpr (List.getElem?_eq_some_iff.mp hn).1, ?_⟩
    simp only [hitem, Option.isSome_some, Bool.true_and, decide_eq_true_eq]
    intro hrefused
    obtain ⟨x, hx, rfl⟩ := List.mem_map.mp hrefused
    cases (h.refused x hx).1.symm.trans hn
  rw [← h.bearers] at hbearer
  refine (List.mem_append.mp hbearer).imp_right fun hwaits => ?_
  obtain ⟨⟨k, x⟩, hx, rfl⟩ := List.mem_map.mp hwaits
  obtain rfl := Option.some.inj ((h.brought _ hx).symm.trans hitem)
  exact hx

/-- When an item is taken from a line at which someone waits for room, the first who waits is let in. -/
theorem IsFair.take_admits (h : b.IsFair capacity) {others : List (Nat × α)}
    (hs : b.line.senders = (n, a) :: others) :
    (b.call .take).line.senders = others ∧ n ∈ (b.call .take).entered := by
  have hitems : b.line.items ≠ [] := List.length_pos_iff.mp <| by
    rw [h.calm.full (by simp [hs])]
    exact h.calm.hasRoom
  have hd := deals_take h.calm
  generalize b.call .take = b' at hd
  cases hd with
  | handOn hq | enter hq => cases hq
  | take _ hnone => cases hnone.symm.trans hs
  | stand hnone => exact absurd hnone hitems
  | exchange _ hs' =>
      obtain ⟨hfirst, rfl⟩ := List.cons.inj (hs'.symm.trans hs)
      cases hfirst
      exact ⟨rfl, List.mem_append_right _ (List.mem_singleton_self _)⟩

/-- Who waits for room is let in as items are taken. -/
theorem IsFair.enters (h : b.IsFair capacity) {before after : List (Nat × α)}
    (hs : b.line.senders = before ++ (n, a) :: after) :
    ∃ k, n ∈ ((List.replicate k Call.take).foldl call b).entered := by
  induction before generalizing b with
  | nil => exact ⟨1, (h.take_admits hs).2⟩
  | cons x before ih =>
      obtain ⟨k, hk⟩ := ih (h.deal (deals_take h.calm)) (h.take_admits hs).1
      exact ⟨k + 1, hk⟩

end

/-! ## The line as a bounded queue -/

/-- A full line refuses who would not wait, and nothing else happens. -/
theorem call_tryPut_of_full {a : α} (h : b.line.IsCalm)
    (hfull : b.line.items.length = b.line.capacity) :
    b.call (.tryPut a) = { b with
      calls := b.calls ++ [.tryPut a]
      refused := b.refused ++ [(b.calls.length, ⟨a, .full b.line.capacity⟩)] } := by
  simp only [call, begin, Line.tryPut, offer_of_full h hfull]
  exact settle_of_called h.called

theorem tryPut_eq_error {a : α} {r : Refused α} (h : b.line.IsCalm) :
    b.line.tryPut a = .error r ↔
      b.line.items.length = b.line.capacity ∧ r = ⟨a, .full b.line.capacity⟩ := by
  constructor
  · intro ht
    cases ho : b.line.offer a with
    | some l => simp [Line.tryPut, ho] at ht
    | none =>
        simp only [Line.tryPut, ho, Except.error.injEq] at ht
        exact ⟨full_of_offer h ho, ht.symm⟩
  · rintro ⟨hfull, rfl⟩
    simp only [Line.tryPut, offer_of_full h hfull]

/-- The line is a bounded queue, first in, first out, and it is fair. After any calls, the items that
were taken and those that are in the line are the items that were let in, in this order; those who bring
an item are let in in the order of their arrival, but for those who would not wait and were refused, and
those who want one get it in the order of theirs. Someone waits for room only while the line is full, for
an item only while it is empty, and who would not wait is refused exactly while it is full: the item is
handed back, and nothing else changes. -/
theorem bounded_fair_queue (capacity : Nat) (calls : List (Call α)) :
    let b := Logbook.ofCalls capacity calls
    b.calls = calls ∧ b.line.called = [] ∧
      b.line.length ≤ max capacity 1 ∧
      b.entered.map b.item? = (b.served.map Prod.snd ++ b.line.items).map some ∧
      b.entered ++ b.line.senders.map Prod.fst = b.bearers ∧
      (∀ x ∈ b.refused, calls[x.1]? = some (.tryPut x.2.item)) ∧
      b.served.map Prod.fst ++ b.line.receivers = b.seekers ∧
      (b.line.senders ≠ [] → b.line.length = max capacity 1) ∧
      (b.line.receivers ≠ [] → b.line.length = 0) ∧
      (b.line.senders = [] ∨ b.line.receivers = []) ∧
      ∀ a r,
        (b.line.tryPut a = .error r ↔
          b.line.length = max capacity 1 ∧ r = ⟨a, .full (max capacity 1)⟩) ∧
        (b.line.tryPut a = .error r →
          b.call (.tryPut a) = { b with
            calls := calls ++ [.tryPut a], refused := b.refused ++ [(calls.length, r)] }) := by
  intro b
  have h : b.IsFair capacity := IsFair.ofCalls capacity calls
  have hcalls : b.calls = calls := calls_foldl (IsFair.new capacity).calm calls
  have hcap := h.capacity_eq
  refine ⟨hcalls, h.calm.called, hcap ▸ h.calm.length_le, h.items, h.bearers, ?_, h.seekers,
    fun hs => hcap ▸ h.calm.full hs, fun hr => ?_, h.calm.senders_or_receivers, fun a r => ?_⟩
  · exact fun x hx => hcalls ▸ (h.refused x hx).1
  · rw [Line.length, h.calm.empty hr, List.length_nil]
  · rw [← hcap, tryPut_eq_error h.calm]
    refine ⟨Iff.rfl, ?_⟩
    rintro ⟨hfull, rfl⟩
    rw [call_tryPut_of_full h.calm hfull, hcalls]

/-- Two bring an item and a third would not wait, at a line with room for one. -/
example :
    let b := Logbook.ofCalls 0 [.put "a", .put "b", .tryPut "c", .take, .take, .take]
    b.served = [(3, "a"), (4, "b")] ∧ b.refused = [(2, ⟨"c", .full 1⟩)] ∧
      b.line.receivers = [5] := by
  decide

end Logbook
end Intake.Poll
