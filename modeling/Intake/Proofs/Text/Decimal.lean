import Intake.Text.Decimal
import Mathlib.Data.Nat.Digits.Defs

/-!
# Which texts are whole numbers

A text is read as a number exactly if it is digits, with a plus sign in front at most, and what they
stand for stays below the bound. The number read is then that number.
-/

namespace Intake.Text

/-- What digits stand for; the last one counts units. -/
def digitsValue (ds : List Char) : Nat := Nat.ofDigits 10 (ds.reverse.map fun c => c.toNat - '0'.toNat)

/-- The text is digits that stand for `n`, with a plus sign in front at most. -/
def IsNumeral (s : String) (n : Nat) : Prop :=
  ∃ sign ds : List Char, s.toList = sign ++ ds ∧ (sign = [] ∨ sign = ['+']) ∧ ds ≠ [] ∧
    (∀ c ∈ ds, '0' ≤ c ∧ c ≤ '9') ∧ n = digitsValue ds

variable {bound n m : Nat} {c : Char} {cs : List Char} {s : String}

theorem digitsValue_cons (c : Char) (cs : List Char) :
    digitsValue (c :: cs) = 10 ^ cs.length * (c.toNat - '0'.toNat) + digitsValue cs := by
  simp [digitsValue, Nat.ofDigits_append, Nat.add_comm]

theorem digit?_of_isDigit (hc : '0' ≤ c ∧ c ≤ '9') : digit? c = some (c.toNat - '0'.toNat) := by
  simp [digit?, hc]

theorem digit?_eq_none (hc : ¬ ('0' ≤ c ∧ c ≤ '9')) : digit? c = none := by
  simpa [digit?] using hc

/-- The digits after those that make `n` move these to higher places. -/
theorem readDigits_eq_ok_iff (hn : n < bound) : readDigits bound n cs = .ok m ↔
    (∀ c ∈ cs, '0' ≤ c ∧ c ≤ '9') ∧ m = 10 ^ cs.length * n + digitsValue cs ∧ m < bound := by
  induction cs generalizing n with
  | nil =>
      simp only [readDigits, digitsValue, List.reverse_nil, List.map_nil, Nat.ofDigits_nil,
        List.length_nil, pow_zero, one_mul, Nat.add_zero, Except.ok.injEq]
      constructor
      · rintro rfl
        exact ⟨by simp, rfl, hn⟩
      · rintro ⟨-, rfl, -⟩
        rfl
  | cons c cs ih =>
      rw [readDigits, digitsValue_cons, List.forall_mem_cons, List.length_cons]
      by_cases hc : '0' ≤ c ∧ c ≤ '9'
      · have hvalue : 10 ^ (cs.length + 1) * n + (10 ^ cs.length * (c.toNat - '0'.toNat) + digitsValue cs) =
            10 ^ cs.length * (10 * n + (c.toNat - '0'.toNat)) + digitsValue cs := by ring
        rw [digit?_of_isDigit hc, hvalue]
        simp only [hc, and_self, true_and]
        split
        · next hd => exact ih hd
        · next hd =>
          constructor
          · intro h
            cases h
          · rintro ⟨-, rfl, hm⟩
            have hpow : 1 ≤ 10 ^ cs.length := Nat.one_le_pow _ _ (by decide)
            have := Nat.mul_le_mul_right (10 * n + (c.toNat - '0'.toNat)) hpow
            omega
      · rw [digit?_eq_none hc]
        constructor
        · intro h
          cases h
        · rintro ⟨⟨hdigit, -⟩, -⟩
          exact absurd hdigit hc

theorem isNumeral_iff_of_plus (hs : s.toList = '+' :: cs) :
    IsNumeral s n ↔ cs ≠ [] ∧ (∀ c ∈ cs, '0' ≤ c ∧ c ≤ '9') ∧ n = digitsValue cs := by
  constructor
  · rintro ⟨sign, ds, hsign, rfl | rfl, hne, hds, hn⟩
    · rw [hs, List.nil_append] at hsign
      obtain rfl := hsign
      exact absurd (hds '+' (List.mem_cons_self ..)).1 (by decide)
    · rw [hs] at hsign
      obtain rfl := (List.cons.inj hsign).2
      exact ⟨hne, hds, hn⟩
  · rintro ⟨hne, hcs, hn⟩
    exact ⟨['+'], cs, hs, Or.inr rfl, hne, hcs, hn⟩

theorem isNumeral_iff_of_ne_plus (hs : s.toList = c :: cs) (hc : c ≠ '+') :
    IsNumeral s n ↔ (∀ d ∈ c :: cs, '0' ≤ d ∧ d ≤ '9') ∧ n = digitsValue (c :: cs) := by
  constructor
  · rintro ⟨sign, ds, hsign, rfl | rfl, hne, hds, hn⟩
    · rw [hs, List.nil_append] at hsign
      rw [hsign]
      exact ⟨hds, hn⟩
    · rw [hs] at hsign
      exact absurd (List.cons.inj hsign).1 hc
  · rintro ⟨hcs, hn⟩
    exact ⟨[], c :: cs, hs, Or.inl rfl, List.cons_ne_nil _ _, hcs, hn⟩

theorem readNat_eq_ok_iff (hbound : 0 < bound) : readNat bound s = .ok n ↔ IsNumeral s n ∧ n < bound := by
  have hdigits (ds : List Char) : readDigits bound 0 ds = .ok n ↔
      ((∀ c ∈ ds, '0' ≤ c ∧ c ≤ '9') ∧ n = digitsValue ds) ∧ n < bound := by
    rw [readDigits_eq_ok_iff hbound, Nat.mul_zero, Nat.zero_add, and_assoc]
  unfold readNat
  split
  · next hs =>
    constructor
    · intro h
      cases h
    · rintro ⟨⟨sign, ds, hsign, -, hne, -⟩, -⟩
      rw [hs] at hsign
      exact absurd (List.append_eq_nil_iff.mp hsign.symm).2 hne
  · next hs =>
    rw [isNumeral_iff_of_plus hs]
    simp
  · next c cs hs =>
    rw [isNumeral_iff_of_plus hs, hdigits]
    simp only [ne_eq, reduceCtorEq, not_false_eq_true, true_and]
  · next c cs hplus hmore hs =>
    have hc : c ≠ '+' := by
      rintro rfl
      cases cs with
      | nil => exact hplus rfl rfl
      | cons d ds => exact hmore d ds rfl rfl
    rw [isNumeral_iff_of_ne_plus hs hc, hdigits]

theorem IsNumeral.unique (hn : IsNumeral s n) (hm : IsNumeral s m) : n = m := by
  have hbound : 0 < n + m + 1 := by omega
  have hread := (readNat_eq_ok_iff hbound).mpr ⟨hn, by omega⟩
  rw [(readNat_eq_ok_iff hbound).mpr ⟨hm, by omega⟩] at hread
  cases hread
  rfl

end Intake.Text
