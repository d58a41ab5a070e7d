import Intake.Proofs.Json.Spelling

/-!
# Values of a known shape

A reader of a shape settles what is JSON: it reads the value to its end, with the same result wherever
the value stands, or it refuses it wherever it stands. So it is with texts, optional values and lists.
-/

namespace Intake.Json

section

variable {α : Type}

/-- The value is read to its end, whatever stands around it. -/
def Accepts (read : Read α) (w : Bytes) (a : α) : Prop :=
  ∀ lead rest, IsBlanks lead → IsBounded rest → read (lead ++ (w ++ rest)) = .ok (a, rest)

def Refuses (read : Read α) (w : Bytes) : Prop :=
  ∀ lead rest, IsBlanks lead → IsBounded rest → ∃ e, read (lead ++ (w ++ rest)) = .error e

def Settles (read : Read α) (w : Bytes) : Prop := (∃ a, Accepts read w a) ∨ Refuses read w

/-- Every value is settled. -/
def Decides (read : Read α) : Prop := ∀ w, IsValue w → Settles read w

variable {read : Read α} {w s r : Bytes} {a : α} {b : UInt8} {t wanted : String} {lead rest : Bytes}

theorem isBlanks_nil : IsBlanks [] := by simp [IsBlanks]

theorem isBounded_nil : IsBounded [] := by simp [IsBounded]

theorem Accepts.read_eq (h : Accepts read w a) (hrest : IsBounded rest) :
    read (w ++ rest) = .ok (a, rest) := h [] rest isBlanks_nil hrest

theorem Accepts.not_refuses (h : Accepts read w a) : ¬ Refuses read w := by
  intro hw
  obtain ⟨e, he⟩ := hw [] [] isBlanks_nil isBounded_nil
  rw [h [] [] isBlanks_nil isBounded_nil] at he
  cases he

theorem refuses_of_ne (h : ∀ lead rest x, IsBlanks lead → IsBounded rest →
    read (lead ++ (w ++ rest)) ≠ .ok x) : Refuses read w := by
  intro lead rest hlead hrest
  cases hread : read (lead ++ (w ++ rest)) with
  | error e => exact ⟨e, rfl⟩
  | ok x => exact absurd hread (h lead rest x hlead hrest)

/-! ## Whole texts -/

theorem decode_of_accepts (h : Accepts read w a) (hlead : IsBlanks lead) (hrest : IsBlanks rest) :
    decode read (lead ++ (w ++ rest)) = .ok a := by
  have hend : skipBlanks rest = [] := by simpa [skipBlanks] using skipBlanks_append hrest []
  rw [decode, h lead rest hlead hrest.isBounded]
  simp [hend]

theorem decode_of_refuses (h : Refuses read w) (hlead : IsBlanks lead) (hrest : IsBlanks rest) :
    ∃ e, decode read (lead ++ (w ++ rest)) = .error e := by
  obtain ⟨e, he⟩ := h lead rest hlead hrest.isBounded
  exact ⟨e, by rw [decode, he]⟩

/-! ## The first octet -/

/-- What the first octet of a value tells of the rest. -/
structure Dispatch (b : UInt8) (r : Bytes) : Prop where
  notBlank : isBlank b = false
  null : b = 0x6E → r = nullRest
  text : b = 0x22 → ∃ s, r = s ++ [0x22] ∧ IsContent s
  list : b = 0x5B → ∃ (es : List Bytes) (s : Bytes), r = s ++ [0x5D] ∧ (∀ e ∈ es, IsValue e) ∧
    Elements true es s
  object : b = 0x7B → ∃ (fs : List Field) (s : Bytes), r = s ++ [0x7D] ∧ (∀ f ∈ fs, f.IsWritten) ∧
    (∀ f ∈ fs, IsValue f.value) ∧ Elements true (fs.map Field.text) s

theorem dispatch_digit (h : Bytes.isDigit b = true) (r : Bytes) : Dispatch b r := by
  have hne {c : UInt8} (hc : Bytes.isDigit c = false) : b ≠ c := by
    rintro rfl
    rw [h] at hc
    cases hc
  refine ⟨?_, fun hb => absurd hb (hne rfl), fun hb => absurd hb (hne rfl),
    fun hb => absurd hb (hne rfl), fun hb => absurd hb (hne rfl)⟩
  simp [isBlank, hne (c := 0x20) rfl, hne (c := 0x09) rfl, hne (c := 0x0A) rfl, hne (c := 0x0D) rfl]

theorem IsNumber.dispatch (h : IsNumber w) : ∃ b r, w = b :: r ∧ Dispatch b r := by
  obtain @⟨sign, w, f, e, hsign, hw, -, -⟩ := h
  rcases hsign with rfl | rfl
  · obtain ⟨hdigits, hne⟩ := hw.isDigits
    obtain ⟨b, s, rfl⟩ := List.exists_cons_of_ne_nil hne
    exact ⟨b, _, rfl, dispatch_digit (isDigit_iff.mpr (hdigits b (List.mem_cons_self ..))) _⟩
  · exact ⟨0x2D, _, rfl, rfl, by simp, by simp, by simp, by simp⟩

theorem IsValue.dispatch (h : IsValue w) : ∃ b r, w = b :: r ∧ Dispatch b r := by
  cases h with
  | word hw =>
      simp only [words, List.mem_cons, List.not_mem_nil, or_false] at hw
      rcases hw with rfl | rfl | rfl <;>
        exact ⟨_, _, rfl, rfl, by simp [nullRest], by simp, by simp, by simp⟩
  | number hw => exact hw.dispatch
  | text hs => exact ⟨0x22, _, rfl, rfl, by simp, fun _ => ⟨_, rfl, hs⟩, by simp, by simp⟩
  | list hes hs => exact ⟨0x5B, _, rfl, rfl, by simp, by simp, fun _ => ⟨_, _, rfl, hes, hs⟩, by simp⟩
  | object hfs hvs hs =>
      exact ⟨0x7B, _, rfl, rfl, by simp, by simp, by simp, fun _ => ⟨_, _, rfl, hfs, hvs, hs⟩⟩

theorem skipBlanks_ahead (hlead : IsBlanks lead) (hb : isBlank b = false) (s : Bytes) :
    skipBlanks (lead ++ b :: s) = b :: s := by
  rw [skipBlanks_append hlead, skipBlanks, if_neg (by simp [hb])]

theorem mismatch_eq_error (wanted : String) (s : Bytes) :
    ∃ e, (mismatch wanted s : Except Fault α) = .error e := by
  unfold mismatch
  split
  · exact ⟨_, rfl⟩
  · exact ⟨_, rfl⟩

/-! ## Texts and optional values -/

theorem accepts_textValue (h : Spells s t.toList) : Accepts textValue (quoted s) t := by
  intro lead rest hlead _
  have hquoted : quoted s ++ rest = 0x22 :: (s ++ 0x22 :: rest) := by simp [quoted]
  rw [textValue, textAs, hquoted, skipBlanks_ahead hlead rfl]
  exact text_of_spells h rest

theorem decides_textValue : Decides textValue := by
  intro w hw
  obtain ⟨b, r, rfl, hb⟩ := hw.dispatch
  have hskip {lead : Bytes} (hlead : IsBlanks lead) (rest : Bytes) :
      skipBlanks (lead ++ (b :: r ++ rest)) = b :: (r ++ rest) := skipBlanks_ahead hlead hb.notBlank _
  by_cases hquote : b = 0x22
  · obtain ⟨s, rfl, hs⟩ := hb.text hquote
    have hread {lead : Bytes} (hlead : IsBlanks lead) (rest : Bytes) :
        textValue (lead ++ (b :: (s ++ [0x22]) ++ rest)) = text (s ++ 0x22 :: rest) := by
      rw [textValue, textAs, hskip hlead, hquote, List.append_assoc]
      rfl
    rcases text_settles hs with ⟨t, ht⟩ | he
    · refine Or.inl ⟨t, fun lead rest hlead _ => ?_⟩
      rw [hread hlead, ht]
    · refine Or.inr fun lead rest hlead _ => ?_
      rw [hread hlead]
      exact he rest
  · refine Or.inr fun lead rest hlead _ => ?_
    rw [textValue, textAs, hskip hlead]
    split
    · next heq => exact absurd (List.cons.inj heq).1 hquote
    · exact mismatch_eq_error _ _

theorem nullable_of_ne (hlead : IsBlanks lead) (hb : isBlank b = false) (hne : b ≠ 0x6E) (s : Bytes) :
    nullable read (lead ++ b :: s) =
      match read (b :: s) with
      | .error e => .error e
      | .ok (a, r) => .ok (some a, r) := by
  rw [nullable, skipBlanks_ahead hlead hb]
  split
  · next heq => exact absurd (List.cons.inj heq).1 hne
  · rfl

theorem accepts_nullable (hb : isBlank b = false) (hne : b ≠ 0x6E) (h : Accepts read (b :: r) a) :
    Accepts (nullable read) (b :: r) (some a) := by
  intro lead rest hlead hrest
  have hread := h.read_eq hrest
  rw [List.cons_append] at hread ⊢
  rw [nullable_of_ne hlead hb hne, hread]

theorem Decides.nullable (h : Decides read) : Decides (nullable read) := by
  intro w hw
  have hsettles := h w hw
  obtain ⟨b, r, rfl, hb⟩ := hw.dispatch
  by_cases hnull : b = 0x6E
  · obtain rfl := hb.null hnull
    refine Or.inl ⟨none, fun lead rest hlead _ => ?_⟩
    rw [Json.nullable, List.cons_append, skipBlanks_ahead hlead hb.notBlank, hnull]
    rfl
  · rcases hsettles with ⟨a, ha⟩ | he
    · exact Or.inl ⟨some a, accepts_nullable hb.notBlank hnull ha⟩
    · refine Or.inr fun lead rest hlead hrest => ?_
      obtain ⟨e, he⟩ := he [] rest isBlanks_nil hrest
      refine ⟨e, ?_⟩
      rw [List.nil_append, List.cons_append] at he
      rw [List.cons_append, nullable_of_ne hlead hb.notBlank hnull, he]

/-! ## Lists -/

variable {es : List Bytes} {as items xs : List α} {isFirst : Bool} {fuel : Nat}

theorem Elements.isBlanks (h : Elements isFirst [] s) : IsBlanks s := by
  cases h with
  | none hw => exact hw

theorem listItems_of_accepts (has : List.Forall₂ (Accepts read) es as) (hes : ∀ e ∈ es, Begins e)
    (hs : Elements isFirst es s) (hfirst : items.isEmpty = isFirst) (hfuel : es.length ≤ fuel)
    (rest : Bytes) :
    listItems read (fuel + 1) items (s ++ 0x5D :: rest) = .ok (items.reverse ++ as, rest) := by
  induction has generalizing isFirst s items fuel with
  | nil =>
      rw [listItems, listSeparator, separator_none hs.isBlanks (Or.inl rfl), List.append_nil]
  | @cons e a es as ha _ ih =>
      obtain ⟨he, hes⟩ := List.forall_mem_cons.mp hes
      obtain ⟨t, ht, hsep⟩ := separator_cons hs he (Or.inl rfl)
      rw [listItems, listSeparator, hfirst, hsep]
      simp only [ha.read_eq (ht.isBounded (Or.inl rfl) rest)]
      cases fuel with
      | zero => exact absurd hfuel (by simp)
      | succ fuel =>
          rw [ih hes ht rfl (Nat.le_of_succ_le_succ hfuel)]
          simp

/-- Where a list is read, each of its elements is. -/
theorem accepts_of_listItems (hes : ∀ e ∈ es, Settles read e ∧ Begins e) (hs : Elements isFirst es s)
    (hfirst : items.isEmpty = isFirst)
    (h : listItems read fuel items (s ++ 0x5D :: rest) = .ok (xs, r)) :
    ∃ as, List.Forall₂ (Accepts read) es as := by
  induction es generalizing isFirst s items fuel with
  | nil => exact ⟨[], .nil⟩
  | cons e es ih =>
      obtain ⟨⟨hsettles, he⟩, hes⟩ := List.forall_mem_cons.mp hes
      cases fuel with
      | zero => cases h
      | succ fuel =>
          obtain ⟨t, ht, hsep⟩ := separator_cons hs he (Or.inl rfl)
          rw [listItems, listSeparator, hfirst, hsep] at h
          rcases hsettles with ⟨a, ha⟩ | hrefuses
          · simp only [ha.read_eq (ht.isBounded (Or.inl rfl) rest)] at h
            obtain ⟨as, has⟩ := ih hes ht rfl h
            exact ⟨a :: as, .cons ha has⟩
          · obtain ⟨f, hf⟩ := hrefuses [] _ isBlanks_nil (ht.isBounded (Or.inl rfl) rest)
            rw [List.nil_append] at hf
            simp only [hf] at h
            cases h

theorem listOf_listed (hlead : IsBlanks lead) (s rest : Bytes) :
    listOf read (lead ++ (listed s ++ rest)) =
      listItems read ((s ++ 0x5D :: rest).length + 1) [] (s ++ 0x5D :: rest) := by
  have hlisted : listed s ++ rest = 0x5B :: (s ++ 0x5D :: rest) := by simp [listed]
  rw [listOf, hlisted, skipBlanks_ahead hlead rfl]
  rfl

theorem accepts_listOf (has : List.Forall₂ (Accepts read) es as) (hes : ∀ e ∈ es, Begins e)
    (hs : Elements true es s) : Accepts (listOf read) (listed s) as := by
  intro lead rest hlead _
  have hlength := hs.length_le hes
  rw [listOf_listed hlead, listItems_of_accepts has hes hs rfl]
  · rfl
  · rw [List.length_append]
    omega

theorem accepts_of_mem {e : Bytes} (has : List.Forall₂ (Accepts read) es as) (he : e ∈ es) :
    ∃ a, Accepts read e a := by
  induction has with
  | nil => cases he
  | cons ha _ ih =>
      rcases List.mem_cons.mp he with rfl | he
      · exact ⟨_, ha⟩
      · exact ih he

/-- A list is read or refused as its elements are. -/
theorem listOf_settles (h : Decides read) (hes : ∀ e ∈ es, IsValue e) (hs : Elements true es s) :
    (∃ as, List.Forall₂ (Accepts read) es as) ∨ Refuses (listOf read) (listed s) := by
  by_cases has : ∃ as, List.Forall₂ (Accepts read) es as
  · exact Or.inl has
  · refine Or.inr (refuses_of_ne fun lead rest x hlead _ hread => has ?_)
    rw [listOf_listed hlead] at hread
    exact accepts_of_listItems (fun e he => ⟨h e (hes e he), (hes e he).begins⟩) hs rfl hread

theorem Decides.listOf (h : Decides read) : Decides (listOf read) := by
  intro w hw
  obtain ⟨b, r, rfl, hb⟩ := hw.dispatch
  by_cases hlist : b = 0x5B
  · obtain ⟨es, s, rfl, hes, hs⟩ := hb.list hlist
    obtain rfl := hlist
    refine (listOf_settles h hes hs).imp (fun ⟨as, has⟩ => ⟨as, ?_⟩) id
    exact accepts_listOf has (fun e he => (hes e he).begins) hs
  · refine Or.inr fun lead rest hlead _ => ?_
    rw [Json.listOf, List.cons_append, skipBlanks_ahead hlead hb.notBlank]
    split
    · next heq => exact absurd (List.cons.inj heq).1 hlist
    · exact mismatch_eq_error _ _

end

end Intake.Json
