import Intake.Proofs.Json.Spelling

/-!
# When more text follows

A reader that has found the end of what it reads does not look further. What it answers is then the
same for a longer text, with the addition left over at the end. A number has no end of its own, so one
that is passed over must have something after it for this.
-/

namespace Intake.Json

variable {s r : Bytes} {b : UInt8}

/-! ## Tokens -/

theorem skipBlanks_more (h : skipBlanks s = b :: r) (t : Bytes) :
    skipBlanks (s ++ t) = b :: (r ++ t) := by
  induction s with
  | nil => cases h
  | cons c s ih =>
      rw [skipBlanks] at h
      rw [List.cons_append, skipBlanks]
      split at h
      · rw [if_pos ‹_›, ih h]
      · rw [if_neg ‹_›, ← List.cons_append, h, List.cons_append]

theorem word_more {cs : Bytes} (h : word cs s = .ok r) (t : Bytes) : word cs (s ++ t) = .ok (r ++ t) := by
  fun_induction word cs s with
  | case1 s =>
      cases h
      rw [word]
  | case2 => cases h
  | case3 cs b s ih => simpa [word] using ih h
  | case4 => cases h

theorem isPlain_of_not_escape (hquote : b ≠ 0x22) (hescape : ∀ e r, b = 0x5C → s ≠ e :: r)
    (hend : b = 0x5C → s ≠ []) (hb : ¬ b < 0x20) : IsPlain b := by
  refine ⟨by simpa using hb, hquote, ?_⟩
  rintro rfl
  cases s with
  | nil => exact hend rfl rfl
  | cons e r => exact hescape e r rfl rfl

theorem skipText_more (h : skipText s = .ok r) (t : Bytes) : skipText (s ++ t) = .ok (r ++ t) := by
  fun_induction skipText s
  case case10 b s hquote _ hescape hend hb ih =>
    have hplain := isPlain_of_not_escape hquote hescape hend hb
    rw [List.cons_append, skipText_plain hplain, ih h]
  all_goals simp_all [skipText]

theorem textOctets_more {acc : List Bytes} {o : Bytes} (h : textOctets acc s = .ok (o, r)) (t : Bytes) :
    textOctets acc (s ++ t) = .ok (o, r ++ t) := by
  fun_induction textOctets acc s
  case case9 acc a b c d n hn hlow hhigh a' b' c' d' s m hm hm' ih =>
    simp only [List.cons_append]
    rw [textOctets_high hn (by omega) hm, if_pos hm', ih h]
  case case18 acc b s hquote _ hescape hend hb ih =>
    have hplain := isPlain_of_not_escape hquote hescape hend hb
    rw [List.cons_append, textOctets_plain hplain, ih h]
  all_goals simp_all [textOctets]

theorem text_more {x : String} (h : text s = .ok (x, r)) (t : Bytes) : text (s ++ t) = .ok (x, r ++ t) := by
  unfold text at h ⊢
  split at h
  · cases h
  · next octets rest heq =>
    rw [textOctets_more heq]
    split at h
    · next x' hx =>
      cases h
      simp only [hx]
    · cases h

theorem spanDigits_more {ds : List Nat} (h : spanDigits s = (ds, b :: r)) (t : Bytes) :
    spanDigits (s ++ t) = (ds, b :: (r ++ t)) := by
  fun_induction spanDigits s generalizing ds with
  | case1 => cases h
  | case2 c s hc ds' r' heq ih =>
      cases h
      simp [spanDigits, hc, ih heq]
  | case3 c s hc =>
      cases h
      simp [spanDigits, hc]

/-- Whatever follows, an exponent's digits begin at the same place. -/
theorem skipExponent_digits (b : UInt8) (s : Bytes) : ∃ u, ∀ t, skipExponent (b :: s ++ t) =
    match spanDigits (u ++ t) with
    | ([], _) => .error .malformedNumber
    | (_, r) => .ok r := by
  by_cases hplus : b = 0x2B
  · subst hplus
    exact ⟨s, fun _ => rfl⟩
  by_cases hminus : b = 0x2D
  · subst hminus
    exact ⟨s, fun _ => rfl⟩
  · refine ⟨b :: s, fun t => ?_⟩
    unfold skipExponent
    split
    · next heq => exact absurd (List.cons.inj heq).1 hplus
    · next heq => exact absurd (List.cons.inj heq).1 hminus
    · rfl

theorem skipExponent_more (h : skipExponent s = .ok (b :: r)) (t : Bytes) :
    skipExponent (s ++ t) = .ok (b :: (r ++ t)) := by
  cases s with
  | nil => cases h
  | cons c s =>
      obtain ⟨u, hu⟩ := skipExponent_digits c s
      have hend := hu []
      rw [List.append_nil, List.append_nil, h] at hend
      rw [hu]
      rcases hspan : spanDigits u with ⟨_ | ⟨d, ds⟩, r'⟩
      · rw [hspan] at hend
        cases hend
      · rw [hspan] at hend
        cases hend
        rw [spanDigits_more hspan]

theorem skipExponentMark_more (h : skipExponentMark s = .ok (b :: r)) (t : Bytes) :
    skipExponentMark (s ++ t) = .ok (b :: (r ++ t)) := by
  fun_cases skipExponentMark s with
  | case1 c s hc =>
      rw [skipExponentMark, if_pos hc] at h
      rw [List.cons_append, skipExponentMark, if_pos hc]
      exact skipExponent_more h t
  | case2 c s hc =>
      rw [skipExponentMark, if_neg hc] at h
      cases h
      rw [List.cons_append, skipExponentMark, if_neg hc]
  | case3 => cases h

theorem skipNumberTail_more (h : skipNumberTail s = .ok (b :: r)) (t : Bytes) :
    skipNumberTail (s ++ t) = .ok (b :: (r ++ t)) := by
  cases s with
  | nil => cases h
  | cons c s =>
      by_cases hpoint : c = 0x2E
      · subst hpoint
        simp only [skipNumberTail, List.cons_append] at h ⊢
        rcases hspan : spanDigits s with ⟨_ | ⟨d, ds⟩, _ | ⟨c, r'⟩⟩
        · rw [hspan] at h
          cases h
        · rw [hspan] at h
          cases h
        · rw [hspan] at h
          cases h
        · rw [hspan] at h
          rw [spanDigits_more hspan]
          exact skipExponentMark_more h t
      · have htail (u : Bytes) : skipNumberTail (c :: u) = skipExponentMark (c :: u) := by
          unfold skipNumberTail
          split <;> simp_all
        rw [htail] at h
        rw [List.cons_append, htail]
        exact skipExponentMark_more h t

theorem skipNumber_more (h : skipNumber s = .ok (b :: r)) (t : Bytes) :
    skipNumber (s ++ t) = .ok (b :: (r ++ t)) := by
  fun_cases skipNumber s with
  | case1 => cases h
  | case2 c s hc => simp [skipNumber, hc] at h
  | case3 c s hc =>
      simp only [skipNumber, hc, List.cons_append] at h ⊢
      exact skipNumberTail_more h t
  | case4 => cases h
  | case5 c s hzero hc =>
      rw [skipNumber.eq_4 _ _ hzero, if_pos hc] at h
      rw [List.cons_append, skipNumber.eq_4 _ _ hzero, if_pos hc]
      rcases hspan : spanDigits s with ⟨ds, _ | ⟨d, r'⟩⟩
      · rw [hspan] at h
        cases h
      · rw [hspan] at h
        rw [spanDigits_more hspan]
        exact skipNumberTail_more h t
  | case6 c s hzero hc =>
      rw [skipNumber.eq_4 _ _ hzero, if_neg hc] at h
      cases h

/-! ## Values that nobody asked for -/

theorem skipName_more (h : skipName s = .ok r) (t : Bytes) : skipName (s ++ t) = .ok (r ++ t) := by
  unfold skipName at h ⊢
  split at h
  · cases h
  · next c u hblank =>
    rw [skipBlanks_more hblank]
    simp only
    split at h
    · next hquote =>
      rw [if_pos hquote]
      split at h
      · cases h
      · next u' htext =>
        rw [skipText_more htext]
        simp only
        split at h
        · cases h
        · next d v hgap =>
          rw [skipBlanks_more hgap]
          simp only
          split at h
          · next hcolon =>
            cases h
            rw [if_pos hcolon]
          · cases h
    · cases h

theorem skipLabel_more {frame : Frame} (h : skipLabel frame s = .ok r) (t : Bytes) :
    skipLabel frame (s ++ t) = .ok (r ++ t) := by
  cases frame with
  | list =>
      cases h
      rfl
  | object => exact skipName_more h t

theorem skipScalar_more {c : UInt8} (h : skipScalar c s = .ok (b :: r)) (t : Bytes) :
    skipScalar c (s ++ t) = .ok (b :: (r ++ t)) := by
  unfold skipScalar at h ⊢
  split_ifs at h ⊢ with hnull htrue hfalse hquote hminus hdigit
  · exact word_more h t
  · exact word_more h t
  · exact word_more h t
  · exact skipText_more h t
  · exact skipNumber_more h t
  · exact skipNumber_more h t

theorem skipFrom_nil_of_done {fuel : Nat} {frames : List Frame}
    (h : skipFrom fuel .done frames [] = .ok r) : r = [] := by
  cases fuel with
  | zero => cases h
  | succ fuel =>
      cases frames with
      | nil =>
          cases h
          rfl
      | cons => cases h

theorem skipFrom_more {fuel : Nat} {place : Place} {frames : List Frame}
    (h : skipFrom fuel place frames s = .ok (b :: r)) (t : Bytes) (k : Nat) :
    skipFrom (fuel + k) place frames (s ++ t) = .ok (b :: (r ++ t)) := by
  fun_induction skipFrom fuel place frames s with
  | case1 => cases h
  | case2 => cases h
  | case3 _ _ _ _ hblank ih =>
      rw [Nat.succ_add, skipFrom, skipBlanks_more hblank]
      exact ih h
  | case4 _ _ _ _ hblank _ ih =>
      rw [Nat.succ_add, skipFrom, skipBlanks_more hblank]
      exact ih h
  | case5 => cases h
  | case6 _ _ _ c _ hblank hlist hobject rest hscalar ih =>
      -- A number at the very end could go on in `t`. But then nothing is left for `b`.
      cases rest with
      | nil => cases skipFrom_nil_of_done h
      | cons d rest =>
          rw [Nat.succ_add, skipFrom, skipBlanks_more hblank]
          simp only [if_neg hlist, if_neg hobject, skipScalar_more hscalar t]
          exact ih h
  | case7 =>
      cases h
      rw [Nat.succ_add]
      rfl
  | case8 => cases h
  | case9 _ _ _ _ _ hblank ih =>
      rw [Nat.succ_add, skipFrom, skipBlanks_more hblank]
      simp only [if_true]
      exact ih h
  | case10 => cases h
  | case11 _ frame _ _ c u hblank hclose _ hlabel ih =>
      have hmore := skipLabel_more hlabel t
      rw [List.cons_append] at hmore
      rw [Nat.succ_add, skipFrom, skipBlanks_more hblank]
      simp only [if_neg hclose, hmore]
      exact ih h
  | case12 =>
      cases h
      rw [Nat.succ_add]
      rfl
  | case13 => cases h
  | case14 => cases h
  | case15 _ _ _ _ _ _ hlabel hblank ih =>
      rw [Nat.succ_add, skipFrom, skipBlanks_more hblank]
      simp only [if_true, skipLabel_more hlabel t]
      exact ih h
  | case16 _ _ _ _ _ hblank hcomma ih =>
      rw [Nat.succ_add, skipFrom, skipBlanks_more hblank]
      simp only [if_neg hcomma, if_true]
      exact ih h
  | case17 => cases h

theorem skip_more (h : skip s = .ok (b :: r)) (t : Bytes) : skip (s ++ t) = .ok (b :: (r ++ t)) := by
  have hfuel : 2 * (s ++ t).length + 1 = 2 * s.length + 1 + 2 * t.length := by
    rw [List.length_append]
    omega
  rw [skip, hfuel]
  exact skipFrom_more h t _

end Intake.Json
