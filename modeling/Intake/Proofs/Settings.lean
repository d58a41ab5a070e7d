import Intake.CommandLine
import Intake.Poll.Crew
import Intake.Proofs.Except
import Intake.Proofs.Text.Decimal
import Mathlib.Logic.Function.Basic

/-!
# Settings that are accepted

Each variable that is looked at has to hold something of its own kind. Where all of them do, the settings
are what the variables say, number by number, and nothing that is built on them has to raise a number to
one. Otherwise the first variable that does not is reported.
-/

namespace Intake.Settings

open CommandLine (Overrides)
open Text (IsNumeral trim lower isAllBlank)

/-! ## What the variables have to hold -/

/-- What a variable has to hold. Only a text must be there. -/
inductive Demand
  | text
  | address
  | strategy
  /-- A number from `least` on and below `bound`. -/
  | number (least bound : Nat)

/-- Blanks around a value do not count, nor does the case of a strategy. -/
def Demand.IsMet : Demand → Option String → Prop
  | text, v => ∃ raw, v = some raw ∧ isAllBlank raw = false
  | address, v => ∀ raw, v = some raw → ∃ a, Net.SocketAddress.parse? (trim raw) = some a
  | strategy, v => ∀ raw, v = some raw → lower (trim raw) = "attempts" ∨ lower (trim raw) = "elapsed"
  | number least bound, v =>
    ∀ raw, v = some raw → ∃ n, IsNumeral (trim raw) n ∧ least ≤ n ∧ n < bound

/-- The strategy that is chosen, in lower case. -/
def strategy (vars : Lookup) : String := lower (trim ((vars "POLL_STOP_STRATEGY").getD "attempts"))

/-- The variable with the budget of a strategy. -/
def budget (strategy : String) : List (String × Demand) :=
  if strategy = "attempts" then [("POLL_MAX_ATTEMPTS", .number 1 (2 ^ 32))]
  else if strategy = "elapsed" then [("POLL_MAX_ELAPSED_SECS", .number 1 (2 ^ 64))]
  else []

/-- The variables that are looked at, in order, each with what it has to hold. -/
def consulted (vars : Lookup) : List (String × Demand) :=
  [("TRANSFORM_API_URL", .text), ("INDEX_API_URL", .text), ("LISTEN_ADDR", .address),
    ("POOL_SIZE", .number 1 (2 ^ 64)), ("QUEUE_CAPACITY", .number 1 (2 ^ 64)),
    ("POLL_WAIT_INTERVAL_MS", .number 0 (2 ^ 64)), ("POLL_STOP_STRATEGY", .strategy)] ++
  (budget (strategy vars) ++
  [("POLL_RATE_PER_SECOND", .number 1 (2 ^ 32)), ("HTTP_TIMEOUT_SECS", .number 1 (2 ^ 64)),
    ("MAX_UPLOAD_BYTES", .number 1 (2 ^ 64)), ("DEAD_LETTER_CAPACITY", .number 1 (2 ^ 64))])

/-- The fault is reported of this variable: it is missing, or its value is invalid. -/
def Fault.Blames (f : Fault) (name : String) : Demand → Prop
  | .text => f = .missing name
  | _ => ∃ value reason, f = .invalid name value reason

variable {α β : Type} {vars : Lookup} {name : String} {bound standard n : Nat}

/-- The computation looks at these variables in turn, and fails at the first that is not as it has to be. -/
structure Examines (vars : Lookup) (x : Except Fault α) (checks : List (String × Demand)) : Prop where
  ok : ∀ a, x = .ok a → ∀ c ∈ checks, c.2.IsMet (vars c.1)
  error : ∀ f, x = .error f → ∃ before c after, checks = before ++ c :: after ∧
    (∀ b ∈ before, b.2.IsMet (vars b.1)) ∧ ¬ c.2.IsMet (vars c.1) ∧ f.Blames c.1 c.2

namespace Examines

variable {x : Except Fault α} {f : α → Except Fault β} {checks checks' : List (String × Demand)}
  {d : Demand}

theorem pure (a : α) : Examines vars (.ok a : Except Fault α) [] := by
  constructor
  · simp
  · intro f h
    cases h

theorem bind (hx : Examines vars x checks) (hf : ∀ a, x = .ok a → Examines vars (f a) checks') :
    Examines vars (x >>= f) (checks ++ checks') := by
  cases hresult : x with
  | error e =>
      constructor
      · intro b h
        cases h
      · intro e' h
        cases h
        obtain ⟨before, c, after, rfl, hbefore, hc, he⟩ := hx.error e hresult
        exact ⟨before, c, after ++ checks', by simp, hbefore, hc, he⟩
  | ok a =>
      constructor
      · intro b h c hc
        rcases List.mem_append.mp hc with hc | hc
        · exact hx.ok a hresult c hc
        · exact (hf a hresult).ok b h c hc
      · intro e h
        obtain ⟨before, c, after, rfl, hbefore, hc, he⟩ := (hf a hresult).error e h
        refine ⟨checks ++ before, c, after, by simp, ?_, hc, he⟩
        intro b hb
        rcases List.mem_append.mp hb with hb | hb
        · exact hx.ok a hresult b hb
        · exact hbefore b hb

theorem cons {c : String × Demand} (hx : Examines vars x [c])
    (hf : ∀ a, x = .ok a → Examines vars (f a) checks) : Examines vars (x >>= f) (c :: checks) :=
  hx.bind hf

theorem map (hx : Examines vars x checks) (g : α → β) : Examines vars (x.map g) checks := by
  have h := hx.bind (f := fun a => .ok (g a)) fun a _ => pure (g a)
  rw [List.append_nil] at h
  cases x <;> exact h

theorem single (hok : ∀ a, x = .ok a → d.IsMet (vars name))
    (herror : ∀ f, x = .error f → ¬ d.IsMet (vars name) ∧ f.Blames name d) :
    Examines vars x [(name, d)] := by
  constructor
  · intro a h
    simpa using hok a h
  · intro f h
    exact ⟨[], (name, d), [], rfl, by simp, herror f h⟩

end Examines

/-! ## One variable -/

theorem required_eq_ok_iff {v : String} :
    required vars name = .ok v ↔ vars name = some v ∧ isAllBlank v = false := by
  have hpresent : present vars name = some v ↔ vars name = some v ∧ isAllBlank v = false := by
    simp [present, Option.filter_eq_some_iff]
  rw [← hpresent, required]
  cases present vars name <;> simp

theorem examines_required (name : String) : Examines vars (required vars name) [(name, .text)] := by
  apply Examines.single
  · intro v h
    exact ⟨v, required_eq_ok_iff.mp h⟩
  · intro f h
    constructor
    · rintro ⟨raw, hraw⟩
      rw [required_eq_ok_iff.mpr hraw] at h
      cases h
    · unfold required at h
      split at h
      · cases h
      · cases h
        rfl

theorem examines_address (name : String) : Examines vars (address vars name) [(name, .address)] := by
  apply Examines.single
  · intro a h raw hraw
    simp only [address, hraw] at h
    split at h
    · next a' ha => exact ⟨a', ha⟩
    · cases h
  · intro f h
    unfold address at h
    split at h
    · cases h
    · next raw hraw =>
      split at h
      · cases h
      · next ha =>
        cases h
        refine ⟨fun hmet => ?_, raw, _, rfl⟩
        obtain ⟨a, ha'⟩ := hmet raw hraw
        rw [ha] at ha'
        cases ha'

/-- The number that a variable gives, or the standard one where it is not set. -/
def Gives (vars : Lookup) (name : String) (bound standard n : Nat) : Prop :=
  match vars name with
  | none => n = standard
  | some raw => IsNumeral (trim raw) n ∧ n < bound

theorem gives_of_number (hbound : 0 < bound) (h : number vars name bound standard = .ok n) :
    Gives vars name bound standard n := by
  cases hvars : vars name with
  | none =>
      rw [number, hvars] at h
      cases h
      rw [Gives, hvars]
  | some raw =>
      rw [Gives, hvars]
      rw [number, hvars] at h
      dsimp only at h
      split at h
      · next n' hn =>
        cases h
        exact (Text.readNat_eq_ok_iff hbound).mp hn
      · cases h

theorem number_error {f : Fault} (hbound : 0 < bound) (h : number vars name bound standard = .error f) :
    (∀ least, ¬ (Demand.number least bound).IsMet (vars name)) ∧
    ∃ value reason, f = .invalid name value reason := by
  cases hvars : vars name with
  | none =>
      rw [number, hvars] at h
      cases h
  | some raw =>
      rw [number, hvars] at h
      dsimp only at h
      split at h
      · cases h
      · next e he =>
        cases h
        refine ⟨fun least hmet => ?_, raw, e.message, rfl⟩
        obtain ⟨n, hn, -, hlt⟩ := hmet raw rfl
        rw [(Text.readNat_eq_ok_iff hbound).mpr ⟨hn, hlt⟩] at he
        cases he

theorem examines_number (hbound : 0 < bound) :
    Examines vars (number vars name bound standard) [(name, .number 0 bound)] := by
  apply Examines.single
  · intro n h raw hraw
    have hn := gives_of_number hbound h
    rw [Gives, hraw] at hn
    exact ⟨n, hn.1, Nat.zero_le n, hn.2⟩
  · intro f h
    obtain ⟨hmet, hf⟩ := number_error hbound h
    exact ⟨hmet 0, hf⟩

theorem gives_of_positive (hbound : 0 < bound) (h : positive vars name bound standard = .ok n) :
    Gives vars name bound standard n ∧ 1 ≤ n := by
  obtain ⟨m, hm, h⟩ := exists_of_bind_eq_ok h
  split at h
  · cases h
  · next hne =>
    cases h
    exact ⟨gives_of_number hbound hm, Nat.pos_of_ne_zero hne⟩

theorem examines_positive (hbound : 0 < bound) (hstandard : 0 < standard) :
    Examines vars (positive vars name bound standard) [(name, .number 1 bound)] := by
  apply Examines.single
  · intro n h raw hraw
    obtain ⟨hn, hpos⟩ := gives_of_positive hbound h
    rw [Gives, hraw] at hn
    exact ⟨n, hn.1, hpos, hn.2⟩
  · intro f h
    cases hn : number vars name bound standard with
    | error e =>
        rw [positive, hn] at h
        cases h
        obtain ⟨hmet, hf⟩ := number_error hbound hn
        exact ⟨hmet 1, hf⟩
    | ok n =>
        have hgives := gives_of_number hbound hn
        rw [positive, hn] at h
        change (if n = 0 then _ else _) = _ at h
        split at h
        · next hzero =>
          cases h
          refine ⟨fun hmet => ?_, _, _, rfl⟩
          -- Zero can only have been written, as the standard is not zero.
          cases hvars : vars name with
          | none =>
              rw [Gives, hvars] at hgives
              exact Nat.ne_of_gt hstandard (hgives.symm.trans hzero)
          | some raw =>
              rw [Gives, hvars] at hgives
              obtain ⟨m, hm, hpos, -⟩ := hmet raw hvars
              have hmn := hm.unique hgives.1
              omega
        · cases h

/-! ## The strategy and its budget -/

theorem isMet_strategy_iff : Demand.strategy.IsMet (vars "POLL_STOP_STRATEGY") ↔
    strategy vars = "attempts" ∨ strategy vars = "elapsed" := by
  unfold strategy Demand.IsMet
  cases vars "POLL_STOP_STRATEGY" with
  | none =>
      have hdefault : lower (trim "attempts") = "attempts" := by decide
      simp [hdefault]
  | some raw => simp

theorem stopRule_eq (vars : Lookup) : stopRule vars =
    if strategy vars = "attempts" then
      (positive vars "POLL_MAX_ATTEMPTS" countBound 12).map .attempts
    else if strategy vars = "elapsed" then
      (positive vars "POLL_MAX_ELAPSED_SECS" sizeBound 20).map fun s => .elapsed (s * 1000)
    else .error (.invalid "POLL_STOP_STRATEGY" ((vars "POLL_STOP_STRATEGY").getD "attempts")
      "expected `attempts` or `elapsed`") := rfl

theorem examines_stopRule (vars : Lookup) :
    Examines vars (stopRule vars) (("POLL_STOP_STRATEGY", .strategy) :: budget (strategy vars)) := by
  have hpass {x : Except Fault Poll.StopRule} {checks : List (String × Demand)}
      (h : strategy vars = "attempts" ∨ strategy vars = "elapsed") (hx : Examines vars x checks) :
      Examines vars x (("POLL_STOP_STRATEGY", .strategy) :: checks) := by
    have hok : Examines vars (.ok () : Except Fault Unit) [("POLL_STOP_STRATEGY", .strategy)] :=
      .single (fun _ _ => isMet_strategy_iff.mpr h) (by simp)
    exact hok.bind (f := fun _ => x) fun _ _ => hx
  rw [stopRule_eq, budget]
  split
  · next hattempts => exact hpass (Or.inl hattempts) ((examines_positive (by decide) (by decide)).map _)
  · next hattempts =>
    split
    · next helapsed => exact hpass (Or.inr helapsed) ((examines_positive (by decide) (by decide)).map _)
    · next helapsed =>
      apply Examines.single
      · intro r h
        cases h
      · intro f h
        cases h
        refine ⟨fun hmet => ?_, _, _, rfl⟩
        exact (isMet_strategy_iff.mp hmet).elim hattempts helapsed

/-- The budget is that of the strategy chosen; times are in milliseconds. -/
inductive GivesStop (vars : Lookup) : Poll.StopRule → Prop
  | attempts {n : Nat} (hchosen : strategy vars = "attempts")
      (hn : Gives vars "POLL_MAX_ATTEMPTS" (2 ^ 32) 12 n) : GivesStop vars (.attempts n)
  | elapsed {n : Nat} (hchosen : strategy vars = "elapsed")
      (hn : Gives vars "POLL_MAX_ELAPSED_SECS" (2 ^ 64) 20 n) : GivesStop vars (.elapsed (n * 1000))

/-- There is at least one attempt, or one second. -/
def HasBudget : Poll.StopRule → Prop
  | .attempts most => 1 ≤ most
  | .elapsed limit => 1000 ≤ limit

theorem givesStop_of_stopRule {r : Poll.StopRule} (h : stopRule vars = .ok r) :
    GivesStop vars r ∧ HasBudget r := by
  rw [stopRule_eq] at h
  split at h
  · next hchosen =>
    obtain ⟨n, hn, rfl⟩ := exists_of_map_eq_ok h
    obtain ⟨hgives, hpos⟩ := gives_of_positive (by decide) hn
    exact ⟨.attempts hchosen hgives, hpos⟩
  · split at h
    · next hchosen =>
      obtain ⟨n, hn, rfl⟩ := exists_of_map_eq_ok h
      obtain ⟨hgives, hpos⟩ := gives_of_positive (by decide) hn
      exact ⟨.elapsed hchosen hgives, Nat.mul_le_mul_right 1000 hpos⟩
    · cases h

/-! ## All variables -/

theorem examines_read (vars : Lookup) : Examines vars (read vars) (consulted vars) := by
  have hsize : 0 < sizeBound := by decide
  have hcount : 0 < countBound := by decide
  unfold read
  simp only [consulted, List.cons_append, List.nil_append]
  refine (examines_required _).cons fun transformApi _ => ?_
  refine (examines_required _).cons fun indexApi _ => ?_
  refine (examines_address _).cons fun listenAddress _ => ?_
  refine (examines_positive hsize (by decide)).cons fun poolSize _ => ?_
  refine (examines_positive hsize (by decide)).cons fun queueCapacity _ => ?_
  refine (examines_number hsize).cons fun wait _ => ?_
  rw [← List.cons_append]
  refine (examines_stopRule vars).bind fun stop _ => ?_
  refine (examines_positive hcount (by decide)).cons fun pollRate _ => ?_
  refine (examines_positive hsize (by decide)).cons fun timeout _ => ?_
  refine (examines_positive hsize (by decide)).cons fun maxUploadBytes _ => ?_
  refine (examines_positive hsize (by decide)).cons fun deadLetterCapacity _ => ?_
  exact .pure _

/-- The settings are what the variables say; times are in milliseconds. -/
structure IsExact (vars : Lookup) (s : Settings) : Prop where
  transformApi : vars "TRANSFORM_API_URL" = some s.transformApi
  indexApi : vars "INDEX_API_URL" = some s.indexApi
  poolSize : Gives vars "POOL_SIZE" (2 ^ 64) 64 s.poolSize
  queueCapacity : Gives vars "QUEUE_CAPACITY" (2 ^ 64) 10000 s.queueCapacity
  wait : Gives vars "POLL_WAIT_INTERVAL_MS" (2 ^ 64) 5000 s.policy.wait
  stop : GivesStop vars s.policy.stop
  pollRate : Gives vars "POLL_RATE_PER_SECOND" (2 ^ 32) 50 s.pollRate
  httpTimeout : ∃ n, Gives vars "HTTP_TIMEOUT_SECS" (2 ^ 64) 30 n ∧ s.httpTimeout = n * 1000
  maxUploadBytes : Gives vars "MAX_UPLOAD_BYTES" (2 ^ 64) (512 * 1024 * 1024) s.maxUploadBytes
  deadLetterCapacity : Gives vars "DEAD_LETTER_CAPACITY" (2 ^ 64) 1000 s.deadLetterCapacity

/-- All that must not be zero is at least one. -/
structure IsPositive (s : Settings) : Prop where
  poolSize : 1 ≤ s.poolSize
  queueCapacity : 1 ≤ s.queueCapacity
  stop : HasBudget s.policy.stop
  pollRate : 1 ≤ s.pollRate
  httpTimeout : 1000 ≤ s.httpTimeout
  maxUploadBytes : 1 ≤ s.maxUploadBytes
  deadLetterCapacity : 1 ≤ s.deadLetterCapacity

theorem exact_of_read {s : Settings} (h : read vars = .ok s) : IsExact vars s ∧ IsPositive s := by
  have hsize : 0 < sizeBound := by decide
  have hcount : 0 < countBound := by decide
  unfold read at h
  obtain ⟨transformApi, htransform, h⟩ := exists_of_bind_eq_ok h
  obtain ⟨indexApi, hindex, h⟩ := exists_of_bind_eq_ok h
  obtain ⟨listenAddress, -, h⟩ := exists_of_bind_eq_ok h
  obtain ⟨poolSize, hpool, h⟩ := exists_of_bind_eq_ok h
  obtain ⟨queueCapacity, hqueue, h⟩ := exists_of_bind_eq_ok h
  obtain ⟨wait, hwait, h⟩ := exists_of_bind_eq_ok h
  obtain ⟨stop, hstop, h⟩ := exists_of_bind_eq_ok h
  obtain ⟨pollRate, hrate, h⟩ := exists_of_bind_eq_ok h
  obtain ⟨timeout, htimeout, h⟩ := exists_of_bind_eq_ok h
  obtain ⟨maxUploadBytes, hupload, h⟩ := exists_of_bind_eq_ok h
  obtain ⟨deadLetterCapacity, hletters, h⟩ := exists_of_bind_eq_ok h
  cases h
  obtain ⟨hpool, hpool'⟩ := gives_of_positive hsize hpool
  obtain ⟨hqueue, hqueue'⟩ := gives_of_positive hsize hqueue
  obtain ⟨hstop, hstop'⟩ := givesStop_of_stopRule hstop
  obtain ⟨hrate, hrate'⟩ := gives_of_positive hcount hrate
  obtain ⟨htimeout, htimeout'⟩ := gives_of_positive hsize htimeout
  obtain ⟨hupload, hupload'⟩ := gives_of_positive hsize hupload
  obtain ⟨hletters, hletters'⟩ := gives_of_positive hsize hletters
  have hnonZero : nonZeroRate pollRate = pollRate := if_neg (Nat.pos_iff_ne_zero.mp hrate')
  constructor
  · exact {
      transformApi := (required_eq_ok_iff.mp htransform).1
      indexApi := (required_eq_ok_iff.mp hindex).1
      poolSize := hpool
      queueCapacity := hqueue
      wait := gives_of_number hsize hwait
      stop := hstop
      pollRate := hnonZero.symm ▸ hrate
      httpTimeout := ⟨timeout, htimeout, rfl⟩
      maxUploadBytes := hupload
      deadLetterCapacity := hletters }
  · exact {
      poolSize := hpool'
      queueCapacity := hqueue'
      stop := hstop'
      pollRate := hnonZero.symm ▸ hrate'
      httpTimeout := Nat.mul_le_mul_right 1000 htimeout'
      maxUploadBytes := hupload'
      deadLetterCapacity := hletters' }

/-! ## Nothing is raised to one -/

theorem IsPositive.apply {s : Settings} (h : IsPositive s) (o : Overrides) : IsPositive (o.apply s) := by
  refine { h with poolSize := ?_ }
  unfold Overrides.apply
  cases o.poolSize with
  | none => exact h.poolSize
  | some n => exact Nat.le_max_right n 1

/-- What is built on the settings takes its numbers as they are. -/
structure IsTakenAsGiven (s : Settings) : Prop where
  crew (epoch : Poll.Millis) : (Poll.Crew.new s.scheduler epoch).settings = s.scheduler
  freeSlots (epoch : Poll.Millis) : (Poll.Crew.new s.scheduler epoch).freeSlots = s.poolSize
  line (epoch : Poll.Millis) : (Poll.Crew.new s.scheduler epoch).line.capacity = s.queueCapacity
  letters (epoch : Poll.Millis) : (Poll.Crew.new s.scheduler epoch).letters.capacity = s.deadLetterCapacity
  attempts (most : Nat) (t : Poll.Task) (now : Poll.Millis) : s.policy.stop = .attempts most →
    s.policy.isExhausted t now = decide (most ≤ t.attempts)

theorem IsPositive.isTakenAsGiven {s : Settings} (h : IsPositive s) : IsTakenAsGiven s where
  crew epoch := by simp [Poll.Crew.new, scheduler, max_eq_left h.poolSize]
  freeSlots epoch := max_eq_left h.poolSize
  line epoch := max_eq_left h.queueCapacity
  letters epoch := max_eq_left h.deadLetterCapacity
  attempts most t now hstop := by
    have hmost := h.stop
    rw [hstop] at hmost
    rw [Poll.Policy.isExhausted, hstop]
    simp only [max_eq_left hmost]

/-! ## Variables that do not matter -/

section

variable {vars' : Lookup}

theorem present_congr (h : vars' name = vars name) : present vars' name = present vars name := by
  rw [present, present, h]

theorem required_congr (h : vars' name = vars name) : required vars' name = required vars name := by
  rw [required, required, present_congr h]

theorem address_congr (h : vars' name = vars name) : address vars' name = address vars name := by
  rw [address, address, h]

theorem number_congr (h : vars' name = vars name) (bound standard : Nat) :
    number vars' name bound standard = number vars name bound standard := by
  rw [number, number, h]

theorem positive_congr (h : vars' name = vars name) (bound standard : Nat) :
    positive vars' name bound standard = positive vars name bound standard := by
  rw [positive, positive, number_congr h]

theorem stopRule_congr (hchoice : vars' "POLL_STOP_STRATEGY" = vars "POLL_STOP_STRATEGY")
    (hbudget : ∀ c ∈ budget (strategy vars), vars' c.1 = vars c.1) : stopRule vars' = stopRule vars := by
  have hstrategy : strategy vars' = strategy vars := by rw [strategy, strategy, hchoice]
  rw [stopRule_eq, stopRule_eq, hstrategy, hchoice]
  split
  · next hchosen =>
    rw [budget, if_pos hchosen] at hbudget
    rw [positive_congr (hbudget _ (List.mem_singleton_self _))]
  · next hother =>
    split
    · next hchosen =>
      rw [budget, if_neg hother, if_pos hchosen] at hbudget
      rw [positive_congr (hbudget _ (List.mem_singleton_self _))]
    · rfl

/-- Nothing is read but what is looked at, the public address and the directory of the store. -/
theorem read_congr (h : ∀ c ∈ consulted vars, vars' c.1 = vars c.1)
    (hbase : vars' "PUBLIC_BASE_URL" = vars "PUBLIC_BASE_URL")
    (hstorage : vars' "STORAGE_DIR" = vars "STORAGE_DIR") : read vars' = read vars := by
  simp only [consulted, List.cons_append, List.nil_append, List.forall_mem_cons, List.forall_mem_append] at h
  obtain ⟨htransform, hindex, haddress, hpool, hqueue, hwait, hchoice, hbudget, hrate, htimeout, hupload,
    hletters, -⟩ := h
  unfold read
  rw [required_congr htransform, required_congr hindex, address_congr haddress, stopRule_congr hchoice hbudget,
    present_congr hstorage, hbase]
  simp only [positive_congr hpool, positive_congr hqueue, number_congr hwait, positive_congr hrate,
    positive_congr htimeout, positive_congr hupload, positive_congr hletters]

/-- The variables with the budgets of both strategies. -/
def budgetNames : List String := ["POLL_MAX_ATTEMPTS", "POLL_MAX_ELAPSED_SECS"]

theorem read_update (hname : name ∈ budgetNames) (hidle : name ∉ (budget (strategy vars)).map Prod.fst)
    (value : Option String) : read (Function.update vars name value) = read vars := by
  have hother {other : String} (h : other ∉ budgetNames) :
      Function.update vars name value other = vars other := by
    apply Function.update_of_ne
    rintro rfl
    exact h hname
  have hbudget : ∀ c ∈ budget (strategy vars), Function.update vars name value c.1 = vars c.1 := by
    intro c hc
    apply Function.update_of_ne
    rintro rfl
    exact hidle (List.mem_map_of_mem hc)
  apply read_congr
  · simp only [consulted, List.cons_append, List.nil_append, List.forall_mem_cons, List.forall_mem_append]
    exact ⟨hother (by decide), hother (by decide), hother (by decide), hother (by decide),
      hother (by decide), hother (by decide), hother (by decide), hbudget, hother (by decide),
      hother (by decide), hother (by decide), hother (by decide), by simp⟩
  · exact hother (by decide)
  · exact hother (by decide)

end

/-- Settings that are read are what the variables say, and stay as they are whatever the command line
overrides. They are not read exactly if some variable that is looked at is not as it has to be, and the
first such variable is reported. -/
theorem read_accepts (vars : Lookup) :
    (∀ s, read vars = .ok s →
      IsExact vars s ∧ ∀ o : Overrides, IsPositive (o.apply s) ∧ IsTakenAsGiven (o.apply s)) ∧
    ((∃ f, read vars = .error f) ↔ ∃ c ∈ consulted vars, ¬ c.2.IsMet (vars c.1)) ∧
    (∀ f, read vars = .error f → ∃ before c after, consulted vars = before ++ c :: after ∧
      (∀ b ∈ before, b.2.IsMet (vars b.1)) ∧ ¬ c.2.IsMet (vars c.1) ∧ f.Blames c.1 c.2) ∧
    ∀ name ∈ budgetNames, name ∉ (budget (strategy vars)).map Prod.fst →
      ∀ value, read (Function.update vars name value) = read vars := by
  have hexamines := examines_read vars
  refine ⟨?_, ⟨?_, ?_⟩, hexamines.error, fun name hname hidle => read_update hname hidle⟩
  · intro s h
    obtain ⟨hexact, hpositive⟩ := exact_of_read h
    exact ⟨hexact, fun o => ⟨hpositive.apply o, (hpositive.apply o).isTakenAsGiven⟩⟩
  · rintro ⟨f, h⟩
    obtain ⟨before, c, after, horder, -, hc, -⟩ := hexamines.error f h
    exact ⟨c, by simp [horder], hc⟩
  · rintro ⟨c, hmem, hc⟩
    cases h : read vars with
    | error f => exact ⟨f, rfl⟩
    | ok s => exact absurd (hexamines.ok s h c hmem) hc

/-- The two addresses, and a number with blanks around it and a sign. -/
def fewVars : Lookup := fun name =>
  [("TRANSFORM_API_URL", "http://transform"), ("INDEX_API_URL", "http://index"),
    ("POOL_SIZE", " +8 ")].lookup name

/-- The same, and a number that must not be zero. -/
def zeroVars : Lookup := Function.update fewVars "QUEUE_CAPACITY" (some "0")

/-- The settings are read from the first variables and not from the others, and the budget of the strategy
that is not chosen may be anything. -/
theorem read_accepts_fewVars :
    (∃ s, read fewVars = .ok s ∧ s.poolSize = 8 ∧ IsExact fewVars s ∧
      ∀ o : Overrides, IsPositive (o.apply s) ∧ IsTakenAsGiven (o.apply s)) ∧
    (∃ f, read zeroVars = .error f ∧ ∃ before c after, consulted zeroVars = before ++ c :: after ∧
      (∀ b ∈ before, b.2.IsMet (zeroVars b.1)) ∧ ¬ c.2.IsMet (zeroVars c.1) ∧ f.Blames c.1 c.2) ∧
    read (Function.update fewVars "POLL_MAX_ELAPSED_SECS" (some "soon")) = read fewVars := by
  obtain ⟨s, hs, hpool⟩ : ∃ s, read fewVars = .ok s ∧ s.poolSize = 8 := ⟨_, rfl, rfl⟩
  obtain ⟨hexact, hoverrides⟩ := (read_accepts fewVars).1 s hs
  have hzero : read zeroVars = .error (.invalid "QUEUE_CAPACITY" "0" "must be greater than zero") := rfl
  have hblamed := (read_accepts zeroVars).2.2.1 _ hzero
  have hidle := (read_accepts fewVars).2.2.2 "POLL_MAX_ELAPSED_SECS" (by decide) (by decide) (some "soon")
  exact ⟨⟨s, hs, hpool, hexact, hoverrides⟩, ⟨_, hzero, hblamed⟩, hidle⟩

end Intake.Settings
