import Intake.Text.Utf8
import Mathlib.Tactic.IntervalCases

/-!
# Texts and their octets

The octets of a text are read back as that text.
-/

namespace Intake

/-! ## The octets of a text -/

namespace Bytes

theorem toList_loop (bs : ByteArray) {n i : Nat} (h : i + n = bs.size) (r : List UInt8) :
    ByteArray.toList.loop bs i r = r.reverse ++ bs.data.toList.drop i := by
  have hsize : bs.data.toList.length = bs.size := Array.length_toList
  induction n generalizing i r with
  | zero =>
      rw [ByteArray.toList.loop, if_neg (by omega), List.drop_eq_nil_of_le (by omega),
        List.append_nil]
  | succ n ih =>
      have hi : i < bs.size := by omega
      have hget : bs.get! i = bs.data.toList[i] := by
        rw [Array.getElem_toList]
        exact getElem!_pos bs.data i hi
      rw [ByteArray.toList.loop, if_pos hi, ih (by omega), List.reverse_cons, hget,
        List.append_assoc, List.singleton_append, List.getElem_cons_drop]

theorem ofString_eq (s : String) : ofString s = s.toList.flatMap String.utf8EncodeChar := by
  conv_lhs => rw [← String.ofList_toList (s := s)]
  rw [ofString, String.toUTF8, String.toByteArray_ofList, List.utf8Encode, ByteArray.toList,
    toList_loop _ (Nat.zero_add _), List.toList_data_toByteArray, List.drop_zero]
  rfl

theorem ofString_append (s t : String) : ofString (s ++ t) = ofString s ++ ofString t := by
  simp only [ofString_eq, String.toList_append, List.flatMap_append]

theorem ofString_singleton (c : Char) :
    ofString (String.singleton c) = String.utf8EncodeChar c := by
  rw [ofString_eq, String.toList_singleton, List.flatMap_cons, List.flatMap_nil, List.append_nil]

end Bytes

namespace Text.Utf8

/-! ## Octet by octet -/

section

variable {p : Partial} {b : UInt8} {bs : Bytes}

theorem marks_of_char {c : Char} (h : lead b = .char c) :
    marks none (b :: bs) = some c :: marks none bs := by
  simp [marks, feed, begin, h]

theorem marks_of_more (h : lead b = .more p) : marks none (b :: bs) = marks (some p) bs := by
  simp [marks, feed, begin, h]

theorem marks_last (hneed : p.need = 1) (hleast : p.least ≤ b) (hgreatest : b ≤ p.greatest) :
    marks (some p) (b :: bs) =
      some (Char.ofNat (p.bits * 64 + (b.toNat - 0x80))) :: marks none bs := by
  simp [marks, feed, hneed, hleast, hgreatest]

theorem marks_next (hneed : 1 < p.need) (hleast : p.least ≤ b) (hgreatest : b ≤ p.greatest) :
    marks (some p) (b :: bs) =
      marks (some ⟨p.need - 1, p.bits * 64 + (b.toNat - 0x80), 0x80, 0xBF⟩) bs := by
  simp [marks, feed, Nat.not_le.mpr hneed, hleast, hgreatest]

theorem lead_one {n : Nat} (h : n ≤ 127) : lead (UInt8.ofNat n) = .char (Char.ofNat n) := by
  interval_cases n <;> rfl

theorem lead_two {n : Nat} (h : 2 ≤ n) (h' : n < 32) :
    lead (UInt8.ofNat (n + 192)) = .more ⟨1, n, 0x80, 0xBF⟩ := by
  interval_cases n <;> rfl

theorem lead_three {n : Nat} (h : n < 16) : lead (UInt8.ofNat (n + 224)) =
    .more ⟨2, n, if n = 0 then 0xA0 else 0x80, if n = 13 then 0x9F else 0xBF⟩ := by
  interval_cases n <;> rfl

theorem lead_four {n : Nat} (h : n < 5) : lead (UInt8.ofNat (n + 240)) =
    .more ⟨3, n, if n = 0 then 0x90 else 0x80, if n = 4 then 0x8F else 0xBF⟩ := by
  interval_cases n <;> rfl

end

theorem toNat_octet {n : Nat} (h : n < 128) : (UInt8.ofNat (n + 128)).toNat = n + 128 := by
  rw [UInt8.toNat_ofNat']
  omega

theorem octet_le_octet {m n : Nat} (h : m ≤ n) (hn : n < 128) :
    UInt8.ofNat (m + 128) ≤ UInt8.ofNat (n + 128) := by
  rw [UInt8.le_iff_toNat_le, toNat_octet hn, toNat_octet (by omega)]
  exact Nat.add_le_add_right h 128

theorem least_le_octet {n : Nat} (h : n < 64) : 0x80 ≤ UInt8.ofNat (n + 128) :=
  octet_le_octet (Nat.zero_le n) (by omega)

theorem octet_le_greatest {n : Nat} (h : n < 64) : UInt8.ofNat (n + 128) ≤ 0xBF :=
  octet_le_octet (n := 63) (by omega) (by omega)

/-! ## Character by character -/

/-- A character of ASCII is one octet; any other is written with octets beyond ASCII. -/
theorem utf8EncodeChar_cases (c : Char) :
    (c.toNat < 0x80 ∧ String.utf8EncodeChar c = [UInt8.ofNat c.toNat]) ∨
    (0x80 ≤ c.toNat ∧ ∀ b ∈ String.utf8EncodeChar c, 0x80 ≤ b) := by
  have hbeyond {m : Nat} (hm : 128 ≤ m % 256) : 0x80 ≤ UInt8.ofNat m := by
    rw [UInt8.le_iff_toNat_le, UInt8.toNat_ofNat']
    exact hm
  rw [String.utf8EncodeChar, Char.toNat]
  generalize c.val.toNat = n
  by_cases h₁ : n ≤ 127
  · rw [if_pos h₁]
    exact Or.inl ⟨by omega, rfl⟩
  · rw [if_neg h₁]
    refine Or.inr ⟨by omega, ?_⟩
    split
    · simp only [List.forall_mem_cons]
      exact ⟨hbeyond (by omega), hbeyond (by omega), by simp⟩
    · split
      · simp only [List.forall_mem_cons]
        exact ⟨hbeyond (by omega), hbeyond (by omega), hbeyond (by omega), by simp⟩
      · simp only [List.forall_mem_cons]
        exact ⟨hbeyond (by omega), hbeyond (by omega), hbeyond (by omega), hbeyond (by omega), by simp⟩
theorem marks_utf8EncodeChar (c : Char) (bs : Bytes) :
    marks none (String.utf8EncodeChar c ++ bs) = some c :: marks none bs := by
  have hchar : Char.ofNat c.val.toNat = c := Char.ofNat_toNat c
  have hvalid : c.val.toNat < 0xD800 ∨ 0xDFFF < c.val.toNat ∧ c.val.toNat < 0x110000 := c.valid
  rw [String.utf8EncodeChar]
  generalize c.val.toNat = n at hchar hvalid
  -- The rows of the table of UTF-8, by the number of octets.
  by_cases h₁ : n ≤ 127
  · rw [if_pos h₁, List.singleton_append, marks_of_char (lead_one h₁), hchar]
  by_cases h₂ : n ≤ 2047
  · have hdigit : n / 64 % 32 = n / 64 := by omega
    rw [if_neg h₁, if_pos h₂, hdigit, List.cons_append, List.singleton_append,
      marks_of_more (lead_two (by omega) (by omega)),
      marks_last rfl (least_le_octet (by omega)) (octet_le_greatest (by omega)),
      toNat_octet (by omega), show n / 64 * 64 + (n % 64 + 128 - 0x80) = n by omega, hchar]
  by_cases h₃ : n ≤ 65535
  · have hdigit : n / 4096 % 16 = n / 4096 := by omega
    have hleast : (if n / 4096 = 0 then 0xA0 else 0x80) ≤ UInt8.ofNat (n / 64 % 64 + 128) := by
      split
      · exact octet_le_octet (m := 32) (by omega) (by omega)
      · exact least_le_octet (by omega)
    have hgreatest : UInt8.ofNat (n / 64 % 64 + 128) ≤ if n / 4096 = 13 then 0x9F else 0xBF := by
      split
      · exact octet_le_octet (n := 31) (by omega) (by omega)
      · exact octet_le_greatest (by omega)
    rw [if_neg h₁, if_neg h₂, if_pos h₃, hdigit]
    simp only [List.cons_append, List.nil_append]
    rw [marks_of_more (lead_three (by omega)), marks_next (by simp) hleast hgreatest,
      marks_last rfl (least_le_octet (by omega)) (octet_le_greatest (by omega)),
      toNat_octet (by omega), toNat_octet (by omega)]
    rw [show (n / 4096 * 64 + (n / 64 % 64 + 128 - 0x80)) * 64 + (n % 64 + 128 - 0x80) = n by omega,
      hchar]
  · have hdigit : n / 262144 % 8 = n / 262144 := by omega
    have hleast : (if n / 262144 = 0 then 0x90 else 0x80) ≤ UInt8.ofNat (n / 4096 % 64 + 128) := by
      split
      · exact octet_le_octet (m := 16) (by omega) (by omega)
      · exact least_le_octet (by omega)
    have hgreatest : UInt8.ofNat (n / 4096 % 64 + 128) ≤
        if n / 262144 = 4 then 0x8F else 0xBF := by
      split
      · exact octet_le_octet (n := 15) (by omega) (by omega)
      · exact octet_le_greatest (by omega)
    rw [if_neg h₁, if_neg h₂, if_neg h₃, hdigit]
    simp only [List.cons_append, List.nil_append]
    rw [marks_of_more (lead_four (by omega)), marks_next (by simp) hleast hgreatest,
      marks_next (by simp) (least_le_octet (by omega)) (octet_le_greatest (by omega)),
      marks_last rfl (least_le_octet (by omega)) (octet_le_greatest (by omega)),
      toNat_octet (by omega), toNat_octet (by omega), toNat_octet (by omega)]
    rw [show ((n / 262144 * 64 + (n / 4096 % 64 + 128 - 0x80)) * 64 + (n / 64 % 64 + 128 - 0x80)) *
      64 + (n % 64 + 128 - 0x80) = n by omega, hchar]

theorem marks_flatMap_utf8EncodeChar (cs : List Char) :
    marks none (cs.flatMap String.utf8EncodeChar) = cs.map some := by
  induction cs with
  | nil => rfl
  | cons c cs ih => rw [List.flatMap_cons, marks_utf8EncodeChar, ih, List.map_cons]

/-- The octets of a text are read back as that text. -/
theorem decode?_ofString (s : String) : decode? (Bytes.ofString s) = some s := by
  have hall : (s.toList.map some).mapM id = some s.toList := by
    induction s.toList with
    | nil => rfl
    | cons c cs ih => rw [List.map_cons, List.mapM_cons, ih]; rfl
  rw [decode?, Bytes.ofString_eq, marks_flatMap_utf8EncodeChar, hall, Option.map_some,
    String.ofList_toList]

end Text.Utf8
end Intake
