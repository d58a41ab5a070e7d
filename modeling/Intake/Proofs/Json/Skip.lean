import Intake.Proofs.Json.Grammar

/-!
# Values that nobody asked for

Any value that is JSON is passed over to its end, and no further.
-/

namespace Intake.Json

/-! ## Texts -/

section

variable {a b c d e : UInt8} {n : Nat} {x : Char} {s : Bytes}

theorem hexDigit?_eq (h : IsHexDigit b n) : Bytes.hexDigit? b = some n := by
  cases h with
  | decimal hn => interval_cases n <;> rfl
  | @upper n hn => interval_cases n <;> rfl
  | @lower n hn => interval_cases n <;> rfl

theorem hex4?_eq (h : IsCode a b c d n) : hex4? a b c d = some n := by
  obtain ⟨ha, hb, hc, hd⟩ := h
  rw [hex4?, hexDigit?_eq ha, hexDigit?_eq hb, hexDigit?_eq hc, hexDigit?_eq hd]
  simp only [Option.pure_def, Option.bind_eq_bind, Option.bind_some, Option.some.injEq]
  omega

theorem shortEscape (h : (e, x) ∈ shortEscapes) :
    e ≠ 0x75 ∧ ∃ b, simpleEscape? e = some b ∧ String.utf8EncodeChar x = [b] := by
  simp only [shortEscapes, List.mem_cons, Prod.mk.injEq, List.not_mem_nil, or_false] at h
  rcases h with ⟨rfl, rfl⟩ | ⟨rfl, rfl⟩ | ⟨rfl, rfl⟩ | ⟨rfl, rfl⟩ | ⟨rfl, rfl⟩ | ⟨rfl, rfl⟩ |
    ⟨rfl, rfl⟩ | ⟨rfl, rfl⟩ <;> exact ⟨by decide, _, rfl, rfl⟩

theorem skipText_plain (hb : IsPlain b) : skipText (b :: s) = skipText s := by
  obtain ⟨hb, hquote, hslash⟩ := hb
  rw [skipText.eq_def]
  split <;> simp_all

theorem skipText_of_content (hs : IsContent s) (rest : Bytes) :
    skipText (s ++ 0x22 :: rest) = .ok rest := by
  induction hs with
  | nil => rfl
  | plain hb _ ih => rw [List.cons_append, skipText_plain hb, ih]
  | short he _ ih =>
      obtain ⟨hne, b, hb, -⟩ := shortEscape he
      rw [List.cons_append, List.cons_append, skipText.eq_5 _ _ hne, hb]
      exact ih
  | code h _ ih =>
      simp only [List.cons_append, skipText, hex4?_eq h, Option.isSome_some, if_true]
      exact ih

/-- The name of a member and its colon. -/
theorem skipName_of_written {f : Field} {w : Bytes} (hf : f.IsWritten) (hw : IsBlanks w)
    (rest : Bytes) : skipName (w ++ (f.text ++ rest)) = .ok (f.lead ++ (f.value ++ rest)) := by
  have htext : f.text ++ rest =
      0x22 :: (f.label ++ 0x22 :: (f.gap ++ 0x3A :: (f.lead ++ (f.value ++ rest)))) := by
    simp [Field.text]
  have hcolon (r : Bytes) : skipBlanks (0x3A :: r) = 0x3A :: r := rfl
  rw [skipName, hw.skipBlanks_eq f.begins_text, htext]
  simp only [if_true, skipText_of_content hf.label, skipBlanks_append hf.gap, hcolon]

end

/-! ## Numbers -/

section

variable {s w f e rest : Bytes} {b : UInt8}

theorem isDigit_iff : Bytes.isDigit b = true ↔ 0x30 ≤ b ∧ b ≤ 0x39 := by
  simp [Bytes.isDigit]

theorem IsBounded.not_digit (h : IsBounded (b :: s)) : Bytes.isDigit b = false := by
  rcases h b rfl with (rfl | rfl | rfl | rfl) | rfl | rfl | rfl <;> rfl

theorem spanDigits_append (hs : IsDigits s) (hrest : ∀ b ∈ rest.head?, Bytes.isDigit b = false) :
    ∃ ds, spanDigits (s ++ rest) = (ds, rest) ∧ ds.length = s.length := by
  induction s with
  | nil =>
      refine ⟨[], ?_, rfl⟩
      cases rest with
      | nil => rfl
      | cons b r => simp [spanDigits, hrest b rfl]
  | cons b s ih =>
      obtain ⟨hb, hs⟩ := List.forall_mem_cons.mp hs
      obtain ⟨ds, hspan, hlength⟩ := ih hs
      refine ⟨(b.toNat - 0x30) :: ds, ?_, by simp [hlength]⟩
      rw [List.cons_append, spanDigits, if_pos (isDigit_iff.mpr hb), hspan]

/-- There is at least one digit. -/
theorem spanDigits_cons (hs : IsDigits (b :: s)) (hrest : ∀ b ∈ rest.head?, Bytes.isDigit b = false) :
    ∃ d ds, spanDigits (b :: (s ++ rest)) = (d :: ds, rest) := by
  obtain ⟨ds, hspan, hlength⟩ := spanDigits_append hs hrest
  cases ds with
  | nil => cases hlength
  | cons d ds => exact ⟨d, ds, hspan⟩

theorem IsBounded.head_not_digit (h : IsBounded rest) : ∀ b ∈ rest.head?, Bytes.isDigit b = false := by
  intro b hb
  cases rest with
  | nil => cases hb
  | cons c r =>
      obtain rfl := Option.some.inj hb
      exact h.not_digit

theorem skipExponent_of_digits {sign : Bytes} (hsign : sign = [] ∨ sign = [0x2B] ∨ sign = [0x2D])
    (h : IsDigits (b :: s)) (hrest : IsBounded rest) :
    skipExponent (sign ++ b :: (s ++ rest)) = .ok rest := by
  obtain ⟨d, ds, hspan⟩ := spanDigits_cons h hrest.head_not_digit
  rcases hsign with rfl | rfl | rfl
  · have hdigit := isDigit_iff.mpr (h b (List.mem_cons_self ..))
    have hplus : b ≠ 0x2B := by
      rintro rfl
      cases hdigit
    have hminus : b ≠ 0x2D := by
      rintro rfl
      cases hdigit
    unfold skipExponent
    simp only [List.nil_append]
    split <;> simp_all
  · simp only [List.cons_append, List.nil_append, skipExponent, hspan]
  · simp only [List.cons_append, List.nil_append, skipExponent, hspan]

theorem skipExponentMark_of_exponent (he : IsExponent e) (hrest : IsBounded rest) :
    skipExponentMark (e ++ rest) = .ok rest := by
  cases he with
  | none =>
      cases rest with
      | nil => rfl
      | cons b r =>
          rcases hrest b rfl with (rfl | rfl | rfl | rfl) | rfl | rfl | rfl <;> rfl
  | some hmark hsign h =>
      rw [List.cons_append, List.append_assoc, List.cons_append, skipExponentMark]
      rcases hmark with rfl | rfl <;> exact skipExponent_of_digits hsign h hrest

theorem IsExponent.head_not_digit (he : IsExponent e) (hrest : IsBounded rest) :
    ∀ b ∈ (e ++ rest).head?, Bytes.isDigit b = false ∧ b ≠ 0x2E := by
  intro b hb
  cases he with
  | none =>
      refine ⟨hrest.head_not_digit b hb, ?_⟩
      rintro rfl
      exact absurd (hrest _ hb) (by decide)
  | some hmark =>
      obtain rfl := Option.some.inj hb
      rcases hmark with rfl | rfl <;> exact ⟨rfl, by decide⟩

theorem skipNumberTail_of_fraction (hf : IsFraction f) (he : IsExponent e) (hrest : IsBounded rest) :
    skipNumberTail (f ++ (e ++ rest)) = .ok rest := by
  cases hf with
  | none =>
      rw [List.nil_append, skipNumberTail]
      · exact skipExponentMark_of_exponent he hrest
      · intro s hs
        exact (he.head_not_digit hrest 0x2E (by rw [hs]; rfl)).2 rfl
  | some h =>
      obtain ⟨d, ds, hspan⟩ := spanDigits_cons h fun b hb => (he.head_not_digit hrest b hb).1
      simp only [List.cons_append, skipNumberTail, hspan]
      exact skipExponentMark_of_exponent he hrest

theorem IsFraction.head_not_digit (hf : IsFraction f) (he : IsExponent e) (hrest : IsBounded rest) :
    ∀ b ∈ (f ++ (e ++ rest)).head?, Bytes.isDigit b = false := by
  intro b hb
  cases hf with
  | none => exact (he.head_not_digit hrest b hb).1
  | some =>
      obtain rfl := Option.some.inj hb
      rfl

theorem skipNumber_of_whole (hw : IsWhole w) (hf : IsFraction f) (he : IsExponent e)
    (hrest : IsBounded rest) : skipNumber (w ++ (f ++ (e ++ rest))) = .ok rest := by
  have htail := skipNumberTail_of_fraction hf he hrest
  have hhead := hf.head_not_digit he hrest
  cases hw with
  | zero =>
      generalize f ++ (e ++ rest) = s at htail hhead
      cases s with
      | nil => simpa [skipNumber, skipNumberTail, skipExponentMark] using htail
      | cons b r => simpa [skipNumber, hhead b rfl] using htail
  | @digits b s hb hs =>
      have hdigit : 0x30 ≤ b ∧ b ≤ 0x39 := ⟨UInt8.le_trans (by decide) hb.1, hb.2⟩
      have hne : b ≠ 0x30 := by
        rintro rfl
        exact absurd hb.1 (by decide)
      obtain ⟨ds, hspan, -⟩ := spanDigits_append hs hhead
      rw [List.cons_append, skipNumber.eq_4 _ _ hne, if_pos (isDigit_iff.mpr hdigit), hspan]
      exact htail

end

/-! ## Values of any depth -/

/-- A value is passed over, in a number of rounds that its length bounds. -/
def Passes (w : Bytes) (n : Nat) : Prop :=
  n + 1 ≤ 2 * w.length ∧ ∀ fuel frames lead rest, IsBlanks lead → IsBounded rest →
    skipFrom (fuel + n) .value frames (lead ++ (w ++ rest)) = skipFrom fuel .done frames rest

/-- What stands between two commas of a container: a value after what its frame wants in front. -/
structure IsItem (frame : Frame) (x v : Bytes) : Prop where
  begins : Begins x
  length_le : v.length ≤ x.length
  label : ∀ w rest, IsBlanks w → ∃ lead, IsBlanks lead ∧
    skipLabel frame (w ++ (x ++ rest)) = .ok (lead ++ (v ++ rest))

section

variable {w s t x : Bytes} {b : UInt8} {frame : Frame} {xs : List Bytes} {n : Nat}

theorem passes_scalar (hw : Begins (b :: s)) (hlist : b ≠ 0x5B) (hobject : b ≠ 0x7B)
    (hscalar : ∀ rest, IsBounded rest → skipScalar b (s ++ rest) = .ok rest) : Passes (b :: s) 1 := by
  refine ⟨by simp, fun fuel frames lead rest hlead hrest => ?_⟩
  rw [skipFrom, hlead.skipBlanks_eq hw]
  simp only [List.cons_append, if_neg hlist, if_neg hobject, hscalar rest hrest]

theorem passes_number (hw : IsNumber w) : Passes w 1 := by
  have hbegins := hw.begins
  obtain @⟨sign, w, f, e, hsign, hw, hf, he⟩ := hw
  have hskip (rest : Bytes) (hrest : IsBounded rest) := skipNumber_of_whole hw hf he hrest
  rcases hsign with rfl | rfl
  · obtain ⟨hdigits, hne⟩ := hw.isDigits
    obtain ⟨b, s, rfl⟩ := List.exists_cons_of_ne_nil hne
    have hdigit := isDigit_iff.mpr (hdigits b (List.mem_cons_self ..))
    have hne {c : UInt8} (hc : Bytes.isDigit c = false) : b ≠ c := by
      rintro rfl
      rw [hdigit] at hc
      cases hc
    refine passes_scalar hbegins (hne rfl) (hne rfl) fun rest hrest => ?_
    rw [skipScalar, if_neg (hne rfl), if_neg (hne rfl), if_neg (hne rfl), if_neg (hne rfl),
      if_neg (hne rfl), if_pos hdigit]
    simpa using hskip rest hrest
  · refine passes_scalar hbegins (by decide) (by decide) fun rest hrest => ?_
    simpa [skipScalar] using hskip rest hrest

theorem isItem_list (hx : IsValue x) : IsItem .list x x :=
  ⟨hx.begins, Nat.le_refl _, fun w _ hw => ⟨w, hw, rfl⟩⟩

theorem isItem_object {f : Field} (hf : f.IsWritten) : IsItem .object f.text f.value where
  begins := f.begins_text
  length_le := by
    simp only [Field.text, List.length_cons, List.length_append]
    omega
  label _ rest hw := ⟨f.lead, hf.lead, skipName_of_written hf hw rest⟩

/-- The rest of a container after one of its elements. -/
theorem skipFrom_done (hxs : ∀ x ∈ xs, ∃ v n, IsItem frame x v ∧ Passes v n)
    (ht : Elements false xs t) : ∃ n, n ≤ 2 * t.length + 1 ∧ ∀ fuel frames rest,
      skipFrom (fuel + n) .done (frame :: frames) (t ++ frame.closer :: rest) =
        skipFrom fuel .done frames rest := by
  have hcloser : frame.closer = 0x5D ∨ frame.closer = 0x7D := by cases frame <;> decide
  generalize hfirst : false = isFirst at ht
  induction ht with
  | first => cases hfirst
  | none hw =>
      refine ⟨1, by omega, fun fuel frames rest => ?_⟩
      rw [skipFrom, skipBlanks_append hw]
      cases frame <;> rfl
  | @next w w' x t xs hw hw' ht ih =>
      obtain ⟨⟨v, m, hitem, hlength, hpasses⟩, hxs⟩ := List.forall_mem_cons.mp hxs
      obtain ⟨n, hn, htail⟩ := ih hxs hfirst
      refine ⟨n + m + 1, ?_, fun fuel frames rest => ?_⟩
      · have := hitem.length_le
        simp only [List.length_append, List.length_cons]
        omega
      · obtain ⟨lead, hlead, hlabel⟩ := hitem.label w' (t ++ frame.closer :: rest) hw'
        rw [← Nat.add_assoc, skipFrom, List.append_assoc, skipBlanks_append hw]
        simp only [List.cons_append, List.append_assoc, show ∀ r, skipBlanks (0x2C :: r) = 0x2C :: r from
          fun _ => rfl, if_true, hlabel]
        rw [← Nat.add_assoc, hpasses _ _ _ _ hlead (ht.isBounded hcloser rest), htail]

/-- All that stands between the brackets of a container. -/
theorem skipFrom_opened (hxs : ∀ x ∈ xs, ∃ v n, IsItem frame x v ∧ Passes v n)
    (hs : Elements true xs s) : ∃ n, n ≤ 2 * s.length + 1 ∧ ∀ fuel frames rest,
      skipFrom (fuel + n) .opened (frame :: frames) (s ++ frame.closer :: rest) =
        skipFrom fuel .done frames rest := by
  have hcloser : frame.closer = 0x5D ∨ frame.closer = 0x7D := by cases frame <;> decide
  cases hs with
  | none hw =>
      refine ⟨1, by omega, fun fuel frames rest => ?_⟩
      rw [skipFrom, skipBlanks_append hw]
      cases frame <;> rfl
  | @first w x t xs hw ht =>
      obtain ⟨⟨v, m, hitem, hlength, hpasses⟩, hxs⟩ := List.forall_mem_cons.mp hxs
      obtain ⟨n, hn, htail⟩ := skipFrom_done hxs ht
      refine ⟨n + m + 1, ?_, fun fuel frames rest => ?_⟩
      · have := hitem.length_le
        simp only [List.length_append]
        omega
      · obtain ⟨lead, hlead, hlabel⟩ := hitem.label [] (t ++ frame.closer :: rest) (by simp [IsBlanks])
        rw [← Nat.add_assoc, skipFrom, List.append_assoc, List.append_assoc,
          hw.skipBlanks_eq hitem.begins]
        obtain ⟨b, r, rfl, hb, hlist, hobject⟩ := hitem.begins
        have hne : b ≠ frame.closer := by cases frame <;> assumption
        rw [List.nil_append] at hlabel
        simp only [List.cons_append] at hlabel ⊢
        simp only [if_neg hne, hlabel]
        rw [← Nat.add_assoc, hpasses _ _ _ _ hlead (ht.isBounded hcloser rest), htail]

theorem passes_container (frame : Frame) {opener : UInt8}
    (hopener : opener = match frame with | .list => 0x5B | .object => 0x7B)
    (hxs : ∀ x ∈ xs, ∃ v n, IsItem frame x v ∧ Passes v n) (hs : Elements true xs s) :
    ∃ n, Passes (opener :: (s ++ [frame.closer])) n := by
  obtain ⟨n, hn, hopened⟩ := skipFrom_opened hxs hs
  refine ⟨n + 1, by simp; omega, fun fuel frames lead rest hlead _ => ?_⟩
  have hbegins : Begins (opener :: (s ++ [frame.closer])) := by
    subst hopener
    cases frame <;> exact ⟨_, _, rfl, rfl, by decide, by decide⟩
  rw [← Nat.add_assoc, skipFrom, hlead.skipBlanks_eq hbegins]
  subst hopener
  cases frame <;> simpa using hopened fuel frames rest

theorem IsValue.passes (h : IsValue w) : ∃ n, Passes w n := by
  induction h with
  | word hw =>
      refine ⟨1, ?_⟩
      simp only [words, List.mem_cons, List.not_mem_nil, or_false] at hw
      rcases hw with rfl | rfl | rfl <;>
        exact passes_scalar ⟨_, _, rfl, rfl, by decide, by decide⟩ (by decide) (by decide) fun _ _ => rfl
  | number hw => exact ⟨1, passes_number hw⟩
  | text hs =>
      refine ⟨1, passes_scalar ⟨_, _, rfl, rfl, by decide, by decide⟩ (by decide) (by decide) ?_⟩
      intro rest _
      rw [List.append_assoc]
      exact skipText_of_content hs rest
  | list hes hs ih =>
      refine passes_container .list rfl (fun x hx => ?_) hs
      obtain ⟨n, hn⟩ := ih x hx
      exact ⟨x, n, isItem_list (hes x hx), hn⟩
  | object hfs hvs hs ih =>
      refine passes_container .object rfl (fun x hx => ?_) hs
      obtain ⟨f, hf, rfl⟩ := List.mem_map.mp hx
      obtain ⟨n, hn⟩ := ih f hf
      exact ⟨f.value, n, isItem_object (hfs f hf), hn⟩

/-- A value is passed over to its end. -/
theorem skip_of_value {lead rest : Bytes} (hw : IsValue w) (hlead : IsBlanks lead)
    (hrest : IsBounded rest) : skip (lead ++ (w ++ rest)) = .ok rest := by
  obtain ⟨n, hn, hpasses⟩ := hw.passes
  obtain ⟨fuel, hfuel⟩ : ∃ fuel, 2 * (lead ++ (w ++ rest)).length + 1 = (fuel + 1) + n := by
    refine ⟨2 * (lead ++ (w ++ rest)).length - n, ?_⟩
    simp only [List.length_append]
    omega
  rw [skip, hfuel, hpasses _ _ _ _ hlead hrest, skipFrom]

end

end Intake.Json
