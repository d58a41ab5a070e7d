import Intake.Json.Record
import Intake.Json.Writer
import Intake.Proofs.Text.Utf8

/-!
# Texts written and read

What is written of a text is read back as that text, whatever characters it has.
-/

namespace Intake.Json

open Bytes (ofString)

variable {acc : List Bytes} {s : Bytes}

/-! ## One step of the reader -/

theorem textOctets_escape {e b : UInt8} (he : e ≠ 0x75) (hb : simpleEscape? e = some b) :
    textOctets acc (0x5C :: e :: s) = textOctets ([b] :: acc) s := by
  rw [textOctets.eq_5 acc e s he, hb]

theorem textOctets_code {a b c d : UInt8} {n : Nat} (h : hex4? a b c d = some n)
    (hn : n < 0xD800) : textOctets acc (0x5C :: 0x75 :: a :: b :: c :: d :: s) =
      textOctets (encodeCode n :: acc) s := by
  rw [textOctets.eq_def]
  simp only [h]
  rw [if_neg (by omega), if_pos (Or.inl hn)]

/-- An octet that stands for itself. -/
def IsPlain (b : UInt8) : Prop := 0x20 ≤ b ∧ b ≠ 0x22 ∧ b ≠ 0x5C

theorem textOctets_plain {b : UInt8} (h : IsPlain b) :
    textOctets acc (b :: s) = textOctets ([b] :: acc) s := by
  obtain ⟨hb, hquote, hslash⟩ := h
  rw [textOctets.eq_def]
  split <;> simp_all

theorem textOctets_append_of_plain {bs : Bytes} (h : ∀ b ∈ bs, IsPlain b) :
    textOctets acc (bs ++ s) = textOctets ((bs.map ([·])).reverse ++ acc) s := by
  induction bs generalizing acc with
  | nil => rfl
  | cons b bs ih =>
      obtain ⟨hb, hbs⟩ := List.forall_mem_cons.mp h
      rw [List.cons_append, textOctets_plain hb, ih hbs]
      simp

/-! ## What is written of a character -/

theorem isPlain_of_le {b : UInt8} (h : 0x80 ≤ b) : IsPlain b := by
  rw [UInt8.le_iff_toNat_le] at h
  refine ⟨?_, ?_, ?_⟩
  · rw [UInt8.le_iff_toNat_le]
    exact Nat.le_trans (by decide) h
  · rintro rfl
    exact absurd h (by decide)
  · rintro rfl
    exact absurd h (by decide)

theorem isPlain_utf8EncodeChar {c : Char} (hc : ¬ c.toNat < 0x20) (hquote : c ≠ '"')
    (hslash : c ≠ '\\') : ∀ b ∈ String.utf8EncodeChar c, IsPlain b := by
  have hchar : Char.ofNat c.toNat = c := Char.ofNat_toNat c
  rcases Text.Utf8.utf8EncodeChar_cases c with ⟨hascii, hone⟩ | ⟨-, hbeyond⟩
  · rw [hone, List.forall_mem_singleton]
    have hn : (UInt8.ofNat c.toNat).toNat = c.toNat := by
      rw [UInt8.toNat_ofNat']
      omega
    refine ⟨?_, fun h => hquote ?_, fun h => hslash ?_⟩
    · rw [UInt8.le_iff_toNat_le, hn]
      exact Nat.le_of_not_lt hc
    · rw [← hchar, ← hn, h]
      rfl
    · rw [← hchar, ← hn, h]
      rfl
  · intro b hb
    exact isPlain_of_le (hbeyond b hb)

theorem fourDigits_eq {n : Nat} (h : n < 0x20) :
    ∃ a b c d, ofString ("\\u" ++ fourDigits n) = [0x5C, 0x75, a, b, c, d] ∧
      hex4? a b c d = some n := by
  interval_cases n <;> exact ⟨_, _, _, _, by rw [Bytes.ofString_eq]; rfl, rfl⟩

/-- A character is escaped by a letter, or by its number, or it stands for itself. -/
theorem writeChar_cases (c : Char) :
    (∃ e b, e ≠ 0x75 ∧ simpleEscape? e = some b ∧ String.utf8EncodeChar c = [b] ∧
      ofString (writeChar c) = [0x5C, e]) ∨
    (c.toNat < 0x20 ∧ writeChar c = "\\u" ++ fourDigits c.toNat) ∨
    (writeChar c = String.singleton c ∧ ∀ b ∈ String.utf8EncodeChar c, IsPlain b) := by
  unfold writeChar
  split_ifs with hquote hslash hn hr ht hb hf hc
  · subst hquote
    exact Or.inl ⟨0x22, 0x22, by decide, rfl, rfl, by rw [Bytes.ofString_eq]; rfl⟩
  · subst hslash
    exact Or.inl ⟨0x5C, 0x5C, by decide, rfl, rfl, by rw [Bytes.ofString_eq]; rfl⟩
  · subst hn
    exact Or.inl ⟨0x6E, 0x0A, by decide, rfl, rfl, by rw [Bytes.ofString_eq]; rfl⟩
  · subst hr
    exact Or.inl ⟨0x72, 0x0D, by decide, rfl, rfl, by rw [Bytes.ofString_eq]; rfl⟩
  · subst ht
    exact Or.inl ⟨0x74, 0x09, by decide, rfl, rfl, by rw [Bytes.ofString_eq]; rfl⟩
  · subst hb
    exact Or.inl ⟨0x62, 0x08, by decide, rfl, rfl, by rw [Bytes.ofString_eq]; rfl⟩
  · subst hf
    exact Or.inl ⟨0x66, 0x0C, by decide, rfl, rfl, by rw [Bytes.ofString_eq]; rfl⟩
  · exact Or.inr (Or.inl ⟨hc, rfl⟩)
  · exact Or.inr (Or.inr ⟨rfl, isPlain_utf8EncodeChar hc hquote hslash⟩)

/-- What is written of a character is read back as its octets. -/
theorem textOctets_writeChar (acc : List Bytes) (c : Char) (s : Bytes) :
    ∃ acc', acc'.reverse.flatten = acc.reverse.flatten ++ String.utf8EncodeChar c ∧
      textOctets acc (ofString (writeChar c) ++ s) = textOctets acc' s := by
  rcases writeChar_cases c with ⟨e, b, he, hb, hc, hw⟩ | ⟨hc, hw⟩ | ⟨hw, hplain⟩
  · refine ⟨[b] :: acc, ?_, ?_⟩
    · rw [List.reverse_cons, List.flatten_append, List.flatten_singleton, hc]
    · rw [hw]
      exact textOctets_escape he hb
  · obtain ⟨w, x, y, z, hdigits, hhex⟩ := fourDigits_eq hc
    refine ⟨encodeCode c.toNat :: acc, ?_, ?_⟩
    · rw [List.reverse_cons, List.flatten_append, List.flatten_singleton, encodeCode,
        Char.ofNat_toNat, Bytes.ofString_singleton]
    · rw [hw, hdigits]
      exact textOctets_code hhex (by omega)
  · refine ⟨((String.utf8EncodeChar c).map ([·])).reverse ++ acc, ?_, ?_⟩
    · rw [List.reverse_append, List.reverse_reverse, List.flatten_append, ← List.flatMap_def,
        List.flatMap_singleton']
    · rw [hw, Bytes.ofString_singleton]
      exact textOctets_append_of_plain hplain

/-! ## Whole texts -/

/-- What is written of a text after its opening quote. -/
def textTail (s : String) : Bytes := ofString (String.join (s.toList.map writeChar) ++ "\"")

theorem ofString_writeText (t : String) : ofString (writeText t) = 0x22 :: textTail t := by
  rw [writeText, String.append_assoc, Bytes.ofString_append, textTail, Bytes.ofString_eq "\""]
  rfl

theorem textOctets_join (cs : List Char) (acc : List Bytes) (s : Bytes) :
    textOctets acc (ofString (String.join (cs.map writeChar)) ++ 0x22 :: s) =
      .ok (acc.reverse.flatten ++ cs.flatMap String.utf8EncodeChar, s) := by
  induction cs generalizing acc with
  | nil =>
      rw [List.map_nil, Bytes.ofString_eq, List.flatMap_nil, List.append_nil]
      rfl
  | cons c cs ih =>
      obtain ⟨acc', hacc, hread⟩ := textOctets_writeChar acc c
        (ofString (String.join (cs.map writeChar)) ++ 0x22 :: s)
      rw [List.map_cons, String.join_cons, Bytes.ofString_append, List.append_assoc, hread, ih,
        hacc, List.flatMap_cons, List.append_assoc]

/-- A text is read back as it was written. -/
theorem text_textTail (t : String) (s : Bytes) : text (textTail t ++ s) = .ok (t, s) := by
  have hquote : ofString "\"" ++ s = 0x22 :: s := by
    rw [Bytes.ofString_eq]
    rfl
  rw [text, textTail, Bytes.ofString_append, List.append_assoc, hquote, textOctets_join,
    List.reverse_nil, List.flatten_nil, List.nil_append, ← Bytes.ofString_eq]
  simp only [Text.Utf8.decode?_ofString]

/-! ## Members and their values -/

variable {n t : String}

theorem memberName_first : memberName true (0x22 :: (textTail n ++ s)) = .ok (some n, s) := by
  rw [memberName, show separator true 0x7D _ _ (0x22 :: (textTail n ++ s)) =
    .ok (true, 0x22 :: (textTail n ++ s)) from rfl]
  simp only [text_textTail]

theorem memberName_next :
    memberName false (0x2C :: 0x22 :: (textTail n ++ s)) = .ok (some n, s) := by
  rw [memberName, show separator false 0x7D _ _ (0x2C :: 0x22 :: (textTail n ++ s)) =
    .ok (true, 0x22 :: (textTail n ++ s)) from rfl]
  simp only [text_textTail]

theorem memberName_end : memberName false (0x7D :: s) = .ok (none, s) := rfl

theorem colon_bind {α : Type} (read : Read α) : (colon (0x3A :: s) >>= read) = read s := rfl

theorem textValue_textTail : textValue (0x22 :: (textTail t ++ s)) = .ok (t, s) :=
  text_textTail t s

theorem value_writeText (depth : Nat) :
    value depth (ofString (writeText t) ++ s) = .ok (.text t, s) := by
  have hscalar : scalar 0x22 (textTail t ++ s) = .ok (.text t, s) := by
    simp [scalar, text_textTail]
  rw [ofString_writeText, value, readValue]
  exact hscalar

theorem value_optional (depth : Nat) (o : Option String) :
    value depth (ofString (write (.optional o)) ++ s) = .ok (.optional o, s) := by
  cases o with
  | none =>
      rw [Value.optional, write, Bytes.ofString_eq]
      rfl
  | some t =>
      rw [Value.optional, write]
      exact value_writeText depth

end Intake.Json
