import Intake.Proofs.Json.Skip

/-!
# Texts as they are spelled

However a text is spelled, it is read as that text. What may stand between quotes is read to the closing
quote or refused, whatever follows.
-/

namespace Intake.Json

section

variable {a b c d a' b' c' d' : UInt8} {n m : Nat} {acc : List Bytes} {s w : Bytes} {xs : List Char}
  {t : String}

/-! ## Escapes by number -/

theorem textOctets_number (h : hex4? a b c d = some n) (hn : n < 0xD800 ∨ 0xDFFF < n) :
    textOctets acc (0x5C :: 0x75 :: a :: b :: c :: d :: s) = textOctets (encodeCode n :: acc) s := by
  rw [textOctets.eq_def]
  simp only [h]
  rw [if_neg (by omega), if_pos (by omega)]

theorem textOctets_low (h : hex4? a b c d = some n) (hn : 0xDC00 ≤ n ∧ n ≤ 0xDFFF) :
    textOctets acc (0x5C :: 0x75 :: a :: b :: c :: d :: s) = .error .loneSurrogate := by
  rw [textOctets.eq_def]
  simp only [h]
  rw [if_pos hn]

theorem textOctets_high (h : hex4? a b c d = some n) (hn : 0xD800 ≤ n ∧ n ≤ 0xDBFF)
    (h' : hex4? a' b' c' d' = some m) :
    textOctets acc (0x5C :: 0x75 :: a :: b :: c :: d :: 0x5C :: 0x75 :: a' :: b' :: c' :: d' :: s) =
      if 0xDC00 ≤ m ∧ m ≤ 0xDFFF then textOctets (encodeCode (pairCode n m) :: acc) s
      else .error .loneSurrogate := by
  rw [textOctets.eq_def]
  simp only [h, h']
  rw [if_neg (by omega), if_neg (by omega)]

/-- A high surrogate wants another escape by number after it. -/
theorem textOctets_high_alone (h : hex4? a b c d = some n) (hn : 0xD800 ≤ n ∧ n ≤ 0xDBFF)
    (hs : ∀ r, s ≠ 0x5C :: 0x75 :: r) :
    ∃ e, textOctets acc (0x5C :: 0x75 :: a :: b :: c :: d :: s) = .error e := by
  rw [textOctets.eq_def]
  simp only [h]
  rw [if_neg (by omega), if_neg (by omega)]
  split
  · exact ⟨_, rfl⟩
  · exact ⟨_, rfl⟩
  · exact absurd rfl (hs _)
  · exact ⟨_, rfl⟩

theorem encodeCode_toNat (x : Char) : encodeCode x.toNat = String.utf8EncodeChar x := by
  rw [encodeCode, Char.ofNat_toNat, Bytes.ofString_singleton]

theorem encodeCode_pairCode {high low : Nat} {x : Char}
    (hx : x.toNat = 0x10000 + (high - 0xD800) * 0x400 + (low - 0xDC00)) :
    encodeCode (pairCode high low) = String.utf8EncodeChar x := by
  unfold pairCode
  rw [← encodeCode_toNat, hx]

/-! ## Texts that are spelled -/

theorem textOctets_of_spells (h : Spells s xs) (acc : List Bytes) (rest : Bytes) :
    textOctets acc (s ++ 0x22 :: rest) =
      .ok (acc.reverse.flatten ++ xs.flatMap String.utf8EncodeChar, rest) := by
  induction h generalizing acc with
  | nil => simp [textOctets]
  | plain hx hquote hslash _ ih =>
      rw [List.append_assoc,
        textOctets_append_of_plain (isPlain_utf8EncodeChar (Nat.not_lt.mpr hx) hquote hslash), ih]
      simp [← List.flatMap_def]
  | short he _ ih =>
      obtain ⟨hne, b, hb, hoctets⟩ := shortEscape he
      rw [List.cons_append, List.cons_append, textOctets_escape hne hb, ih]
      simp [hoctets]
  | @code _ _ _ _ x _ _ h _ ih =>
      have hx : x.toNat < 0xD800 ∨ 0xDFFF < x.toNat := x.valid.imp id And.left
      simp only [List.cons_append]
      rw [textOctets_number (hex4?_eq h) hx, ih, encodeCode_toNat]
      simp
  | @pair _ _ _ _ _ _ _ _ high low x _ _ hhigh hlow hhigh' hlow' hx _ ih =>
      simp only [List.cons_append]
      rw [textOctets_high (hex4?_eq hhigh) hhigh' (hex4?_eq hlow), if_pos hlow', ih,
        encodeCode_pairCode hx]
      simp only [List.reverse_cons, List.flatten_append, List.flatten_singleton, List.flatMap_cons,
        List.append_assoc]

/-- A text may be spelled as it is. -/
theorem spells_ofString (h : ∀ x ∈ t.toList, 0x20 ≤ x.toNat ∧ x ≠ '"' ∧ x ≠ '\\') :
    Spells (Bytes.ofString t) t.toList := by
  rw [Bytes.ofString_eq]
  generalize t.toList = xs at h
  induction xs with
  | nil => exact .nil
  | cons x xs ih =>
      obtain ⟨⟨hx, hquote, hslash⟩, hxs⟩ := List.forall_mem_cons.mp h
      exact .plain hx hquote hslash (ih hxs)

/-- A text is read however it is spelled. -/
theorem text_of_spells (h : Spells s t.toList) (rest : Bytes) :
    text (s ++ 0x22 :: rest) = .ok (t, rest) := by
  rw [text, textOctets_of_spells h, List.reverse_nil, List.flatten_nil, List.nil_append,
    ← Bytes.ofString_eq]
  simp only [Text.Utf8.decode?_ofString]

theorem IsContent.append_plain {bs : Bytes} (hbs : ∀ b ∈ bs, IsPlain b) (hs : IsContent s) :
    IsContent (bs ++ s) := by
  induction bs with
  | nil => exact hs
  | cons b bs ih =>
      obtain ⟨hb, hbs⟩ := List.forall_mem_cons.mp hbs
      exact .plain hb (ih hbs)

theorem Spells.isContent (h : Spells s xs) : IsContent s := by
  induction h with
  | nil => exact .nil
  | plain hx hquote hslash _ ih =>
      exact ih.append_plain (isPlain_utf8EncodeChar (Nat.not_lt.mpr hx) hquote hslash)
  | short he _ ih => exact .short he ih
  | code h _ ih => exact .code h ih
  | pair hhigh hlow _ _ _ _ ih => exact .code hhigh (.code hlow ih)

theorem IsText.isValue (h : IsText t w) : IsValue w := by
  obtain ⟨s, rfl, hs⟩ := h
  exact .text hs.isContent

theorem Field.IsMember.isWritten {f : Field} {n : String} (h : f.IsMember n) :
    f.IsWritten := ⟨h.label.isContent, h.gap, h.lead⟩

theorem IsObject.fields {ms : List (String × Field)} (h : IsObject ms w) : ∃ s, w = braced s ∧
    (∀ f ∈ ms.map Prod.snd, f.IsWritten) ∧ (∀ f ∈ ms.map Prod.snd, IsValue f.value) ∧
    Elements true ((ms.map Prod.snd).map Field.text) s := by
  obtain ⟨hms, s, rfl, hs⟩ := h
  refine ⟨s, rfl, List.forall_mem_map.mpr fun x hx => (hms x hx).isWritten,
    List.forall_mem_map.mpr fun x hx => (hms x hx).value, ?_⟩
  rwa [List.map_map]

theorem IsObject.isValue {ms : List (String × Field)} (h : IsObject ms w) : IsValue w := by
  obtain ⟨s, rfl, hfs, hvs, hs⟩ := h.fields
  exact .object hfs hvs hs

/-! ## Whatever stands between quotes -/

/-- What stands between quotes is read to the closing quote with one result, or it is refused. -/
theorem textOctets_settles (hs : IsContent s) (acc : List Bytes) :
    (∃ octets, ∀ rest, textOctets acc (s ++ 0x22 :: rest) = .ok (octets, rest)) ∨
      ∀ rest, ∃ e, textOctets acc (s ++ 0x22 :: rest) = .error e := by
  -- Two escapes may make one character, so the induction is on the length.
  induction hn : s.length using Nat.strong_induction_on generalizing s acc with
  | _ n ih =>
    subst hn
    cases hs with
    | nil => exact Or.inl ⟨_, fun _ => rfl⟩
    | plain hb hs =>
        simp only [List.cons_append, textOctets_plain hb]
        exact ih _ (by simp) hs _ rfl
    | short he hs =>
        obtain ⟨hne, b, hb, -⟩ := shortEscape he
        simp only [List.cons_append, textOctets_escape hne hb]
        exact ih _ (by simp only [List.length_cons]; omega) hs _ rfl
    | @code _ _ _ _ n _ h hs =>
        have hcode := hex4?_eq h
        by_cases hlow : 0xDC00 ≤ n ∧ n ≤ 0xDFFF
        · exact Or.inr fun rest => ⟨_, textOctets_low hcode hlow⟩
        by_cases hhigh : 0xD800 ≤ n ∧ n ≤ 0xDBFF
        · cases hs with
          | nil => exact Or.inr fun rest => textOctets_high_alone hcode hhigh (by simp)
          | plain hb =>
              refine Or.inr fun rest => textOctets_high_alone hcode hhigh fun r hr => ?_
              exact hb.2.2 (List.cons.inj hr).1
          | short he =>
              refine Or.inr fun rest => textOctets_high_alone hcode hhigh fun r hr => ?_
              exact (shortEscape he).1 (List.cons.inj (List.cons.inj hr).2).1
          | @code _ _ _ _ m _ h' hs =>
              simp only [List.cons_append, textOctets_high hcode hhigh (hex4?_eq h')]
              split
              · exact ih _ (by simp only [List.length_cons]; omega) hs _ rfl
              · exact Or.inr fun rest => ⟨_, rfl⟩
        · simp only [List.cons_append, textOctets_number hcode (show n < 0xD800 ∨ 0xDFFF < n by omega)]
          exact ih _ (by simp only [List.length_cons]; omega) hs _ rfl

theorem text_settles (hs : IsContent s) :
    (∃ t, ∀ rest, text (s ++ 0x22 :: rest) = .ok (t, rest)) ∨
      ∀ rest, ∃ e, text (s ++ 0x22 :: rest) = .error e := by
  rcases textOctets_settles hs [] with ⟨octets, hread⟩ | hfail
  · cases hdecode : Text.Utf8.decode? octets with
    | some t => exact Or.inl ⟨t, fun rest => by simp only [text, hread, hdecode]⟩
    | none => exact Or.inr fun rest => ⟨.notUnicode, by simp only [text, hread, hdecode]⟩
  · refine Or.inr fun rest => ?_
    obtain ⟨e, he⟩ := hfail rest
    exact ⟨e, by simp only [text, he]⟩

end

end Intake.Json
