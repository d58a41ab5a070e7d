import Intake.Proofs.Json.Text

/-!
# What is JSON

The notation of JSON, octet by octet and apart from any reader: texts with their escapes, numbers, and
containers with blanks wherever they may stand.
-/

namespace Intake.Json

/-! ## Blanks -/

def IsBlanks (w : Bytes) : Prop := ∀ b ∈ w, b = 0x20 ∨ b = 0x09 ∨ b = 0x0A ∨ b = 0x0D

/-- What may stand after a value. -/
def IsBounded (rest : Bytes) : Prop :=
  ∀ b ∈ rest.head?, (b = 0x20 ∨ b = 0x09 ∨ b = 0x0A ∨ b = 0x0D) ∨ b = 0x2C ∨ b = 0x5D ∨ b = 0x7D

/-! ## Texts -/

/-- A hexadecimal digit and its value. -/
inductive IsHexDigit : UInt8 → Nat → Prop
  | decimal {n : Nat} (hn : n < 10) : IsHexDigit (UInt8.ofNat (0x30 + n)) n
  | upper {n : Nat} (hn : n < 6) : IsHexDigit (UInt8.ofNat (0x41 + n)) (10 + n)
  | lower {n : Nat} (hn : n < 6) : IsHexDigit (UInt8.ofNat (0x61 + n)) (10 + n)

/-- Four hexadecimal digits and their value. -/
inductive IsCode : UInt8 → UInt8 → UInt8 → UInt8 → Nat → Prop
  | mk {a b c d : UInt8} {i j k l : Nat} (ha : IsHexDigit a i) (hb : IsHexDigit b j)
      (hc : IsHexDigit c k) (hd : IsHexDigit d l) :
      IsCode a b c d (i * 0x1000 + j * 0x100 + k * 0x10 + l)

/-- The letters of the short escapes, with the characters that they stand for. -/
def shortEscapes : List (UInt8 × Char) :=
  [(0x22, '"'), (0x5C, '\\'), (0x2F, '/'), (0x62, '\x08'), (0x66, '\x0C'), (0x6E, '\n'), (0x72, '\r'),
    (0x74, '\t')]

/-- What may stand between two quotes. An escape need not denote a character. -/
inductive IsContent : Bytes → Prop
  | nil : IsContent []
  | plain {b : UInt8} {s : Bytes} (hb : IsPlain b) (hs : IsContent s) : IsContent (b :: s)
  | short {e : UInt8} {x : Char} {s : Bytes} (he : (e, x) ∈ shortEscapes) (hs : IsContent s) :
      IsContent (0x5C :: e :: s)
  | code {a b c d : UInt8} {n : Nat} {s : Bytes} (h : IsCode a b c d n) (hs : IsContent s) :
      IsContent (0x5C :: 0x75 :: a :: b :: c :: d :: s)

/-- What stands between two quotes for these characters: each as it is, by a short escape, by its number,
or by the numbers of two surrogates. -/
inductive Spells : Bytes → List Char → Prop
  | nil : Spells [] []
  | plain {x : Char} {s : Bytes} {xs : List Char} (hx : 0x20 ≤ x.toNat) (hquote : x ≠ '"')
      (hslash : x ≠ '\\') (hs : Spells s xs) : Spells (String.utf8EncodeChar x ++ s) (x :: xs)
  | short {e : UInt8} {x : Char} {s : Bytes} {xs : List Char} (he : (e, x) ∈ shortEscapes)
      (hs : Spells s xs) : Spells (0x5C :: e :: s) (x :: xs)
  | code {a b c d : UInt8} {x : Char} {s : Bytes} {xs : List Char} (h : IsCode a b c d x.toNat)
      (hs : Spells s xs) : Spells (0x5C :: 0x75 :: a :: b :: c :: d :: s) (x :: xs)
  | pair {a b c d a' b' c' d' : UInt8} {high low : Nat} {x : Char} {s : Bytes} {xs : List Char}
      (hhigh : IsCode a b c d high) (hlow : IsCode a' b' c' d' low)
      (hhigh' : 0xD800 ≤ high ∧ high ≤ 0xDBFF) (hlow' : 0xDC00 ≤ low ∧ low ≤ 0xDFFF)
      (hx : x.toNat = 0x10000 + (high - 0xD800) * 0x400 + (low - 0xDC00)) (hs : Spells s xs) :
      Spells (0x5C :: 0x75 :: a :: b :: c :: d :: 0x5C :: 0x75 :: a' :: b' :: c' :: d' :: s) (x :: xs)

def quoted (s : Bytes) : Bytes := 0x22 :: (s ++ [0x22])

/-! ## Numbers -/

def IsDigits (s : Bytes) : Prop := ∀ b ∈ s, 0x30 ≤ b ∧ b ≤ 0x39

/-- The digits in front of a decimal point. -/
inductive IsWhole : Bytes → Prop
  | zero : IsWhole [0x30]
  | digits {b : UInt8} {s : Bytes} (hb : 0x31 ≤ b ∧ b ≤ 0x39) (hs : IsDigits s) : IsWhole (b :: s)

inductive IsFraction : Bytes → Prop
  | none : IsFraction []
  | some {b : UInt8} {s : Bytes} (h : IsDigits (b :: s)) : IsFraction (0x2E :: b :: s)

inductive IsExponent : Bytes → Prop
  | none : IsExponent []
  | some {mark b : UInt8} {sign s : Bytes} (hmark : mark = 0x65 ∨ mark = 0x45)
      (hsign : sign = [] ∨ sign = [0x2B] ∨ sign = [0x2D]) (h : IsDigits (b :: s)) :
      IsExponent (mark :: (sign ++ b :: s))

inductive IsNumber : Bytes → Prop
  | mk {sign w f e : Bytes} (hsign : sign = [] ∨ sign = [0x2D]) (hw : IsWhole w) (hf : IsFraction f)
      (he : IsExponent e) : IsNumber (sign ++ (w ++ (f ++ e)))

/-! ## Containers -/

/-- What stands between the brackets of a container with these elements; where none of them is the first,
what stands between the element before them and the closing bracket. -/
inductive Elements : Bool → List Bytes → Bytes → Prop
  | none {isFirst : Bool} {w : Bytes} (hw : IsBlanks w) : Elements isFirst [] w
  | first {w e t : Bytes} {es : List Bytes} (hw : IsBlanks w) (ht : Elements false es t) :
      Elements true (e :: es) (w ++ (e ++ t))
  | next {w w' e t : Bytes} {es : List Bytes} (hw : IsBlanks w) (hw' : IsBlanks w')
      (ht : Elements false es t) : Elements false (e :: es) (w ++ 0x2C :: (w' ++ (e ++ t)))

/-- A member of an object: what stands between the quotes of its name, the blanks around its colon, and
its value. -/
structure Field where
  label : Bytes
  gap : Bytes
  lead : Bytes
  value : Bytes

namespace Field

def text (f : Field) : Bytes := 0x22 :: (f.label ++ 0x22 :: (f.gap ++ 0x3A :: (f.lead ++ f.value)))

/-- A field whose name may be any text. -/
structure IsWritten (f : Field) : Prop where
  label : IsContent f.label
  gap : IsBlanks f.gap
  lead : IsBlanks f.lead

end Field

def listed (s : Bytes) : Bytes := 0x5B :: (s ++ [0x5D])

def braced (s : Bytes) : Bytes := 0x7B :: (s ++ [0x7D])

def words : List Bytes :=
  [[0x6E, 0x75, 0x6C, 0x6C], [0x74, 0x72, 0x75, 0x65], [0x66, 0x61, 0x6C, 0x73, 0x65]]

/-- A value of any depth. -/
inductive IsValue : Bytes → Prop
  | word {w : Bytes} (hw : w ∈ words) : IsValue w
  | number {w : Bytes} (hw : IsNumber w) : IsValue w
  | text {s : Bytes} (hs : IsContent s) : IsValue (quoted s)
  | list {es : List Bytes} {s : Bytes} (hes : ∀ e ∈ es, IsValue e) (hs : Elements true es s) :
      IsValue (listed s)
  | object {fs : List Field} {s : Bytes} (hfs : ∀ f ∈ fs, f.IsWritten)
      (hvs : ∀ f ∈ fs, IsValue f.value) (hs : Elements true (fs.map Field.text) s) :
      IsValue (braced s)

/-! ## Values and their parts -/

def IsText (t : String) (w : Bytes) : Prop := ∃ s, w = quoted s ∧ Spells s t.toList

def IsList (es : List Bytes) (w : Bytes) : Prop :=
  (∀ e ∈ es, IsValue e) ∧ ∃ s, w = listed s ∧ Elements true es s

structure Field.IsMember (f : Field) (n : String) : Prop where
  label : Spells f.label n.toList
  gap : IsBlanks f.gap
  lead : IsBlanks f.lead
  value : IsValue f.value

/-- An object with these members, each with its name. -/
def IsObject (ms : List (String × Field)) (w : Bytes) : Prop :=
  (∀ m ∈ ms, m.2.IsMember m.1) ∧ ∃ s, w = braced s ∧ Elements true (ms.map (·.2.text)) s

/-- A value as `P` says, alone but for blanks. -/
def IsDocument (P : Bytes → Prop) (s : Bytes) : Prop :=
  ∃ lead w rest, IsBlanks lead ∧ P w ∧ IsBlanks rest ∧ s = lead ++ (w ++ rest)

theorem IsList.isValue {es : List Bytes} {w : Bytes} (h : IsList es w) : IsValue w := by
  obtain ⟨hes, s, rfl, hs⟩ := h
  exact .list hes hs

/-! ## First octets -/

/-- What begins with neither a blank nor the end of a container. -/
def Begins (e : Bytes) : Prop := ∃ b r, e = b :: r ∧ isBlank b = false ∧ b ≠ 0x5D ∧ b ≠ 0x7D

section

variable {w w' e s t rest : Bytes} {es : List Bytes} {b closer : UInt8} {isFirst : Bool}
  {atEnd comma : Fault}

theorem isBlank_iff : isBlank b = true ↔ b = 0x20 ∨ b = 0x09 ∨ b = 0x0A ∨ b = 0x0D := by
  simp [isBlank, or_assoc]

theorem Field.begins_text (f : Field) : Begins f.text := ⟨0x22, _, rfl, rfl, by decide, by decide⟩

theorem IsDigits.begins (h : IsDigits (b :: s)) (r : Bytes) : Begins (b :: r) := by
  obtain ⟨hle, hge⟩ := h b (List.mem_cons_self ..)
  rw [UInt8.le_iff_toNat_le] at hle hge
  have hne {c : UInt8} (hc : c.toNat < 0x30 ∨ 0x39 < c.toNat) : b ≠ c := by
    rintro rfl
    change 0x30 ≤ _ at hle
    change _ ≤ 0x39 at hge
    omega
  refine ⟨b, r, rfl, ?_, hne (by decide), hne (by decide)⟩
  simp [isBlank, hne (c := 0x20) (by decide), hne (c := 0x09) (by decide), hne (c := 0x0A) (by decide),
    hne (c := 0x0D) (by decide)]

theorem IsWhole.isDigits (h : IsWhole w) : IsDigits w ∧ w ≠ [] := by
  cases h with
  | zero => exact ⟨by simp [IsDigits], by simp⟩
  | digits hb hs =>
      refine ⟨List.forall_mem_cons.mpr ⟨⟨?_, hb.2⟩, hs⟩, by simp⟩
      exact UInt8.le_trans (by decide) hb.1

theorem IsNumber.begins (h : IsNumber w) : Begins w := by
  obtain @⟨sign, w, f, e, hsign, hw, -, -⟩ := h
  rcases hsign with rfl | rfl
  · obtain ⟨hdigits, hne⟩ := hw.isDigits
    obtain ⟨b, s, rfl⟩ := List.exists_cons_of_ne_nil hne
    exact hdigits.begins _
  · exact ⟨0x2D, _, rfl, rfl, by decide, by decide⟩

theorem IsValue.begins (h : IsValue w) : Begins w := by
  cases h with
  | word hw =>
      simp only [words, List.mem_cons, List.not_mem_nil, or_false] at hw
      rcases hw with rfl | rfl | rfl <;> exact ⟨_, _, rfl, rfl, by decide, by decide⟩
  | number hw => exact hw.begins
  | text => exact ⟨0x22, _, rfl, rfl, by decide, by decide⟩
  | list => exact ⟨0x5B, _, rfl, rfl, by decide, by decide⟩
  | object => exact ⟨0x7B, _, rfl, rfl, by decide, by decide⟩

/-! ## Passing over blanks -/

theorem skipBlanks_append (hw : IsBlanks w) (s : Bytes) : skipBlanks (w ++ s) = skipBlanks s := by
  induction w with
  | nil => rfl
  | cons b w ih =>
      obtain ⟨hb, hw⟩ := List.forall_mem_cons.mp hw
      rw [List.cons_append, skipBlanks, if_pos (isBlank_iff.mpr hb), ih hw]

theorem Begins.skipBlanks (he : Begins e) (s : Bytes) : skipBlanks (e ++ s) = e ++ s := by
  obtain ⟨b, r, rfl, hb, -, -⟩ := he
  rw [List.cons_append, Json.skipBlanks, if_neg (by simp [hb])]

theorem IsBlanks.skipBlanks_eq (hw : IsBlanks w) (he : Begins e) (s : Bytes) :
    skipBlanks (w ++ (e ++ s)) = e ++ s := by
  rw [skipBlanks_append hw, he.skipBlanks]

theorem IsBlanks.isBounded (hw : IsBlanks w) : IsBounded w := fun b hb =>
  Or.inl (hw b (List.mem_of_head? hb))

theorem IsBlanks.isBounded_append (hw : IsBlanks w) (hs : IsBounded s) : IsBounded (w ++ s) := by
  cases w with
  | nil => exact hs
  | cons b w =>
      intro c hc
      obtain rfl := Option.some.inj hc
      exact Or.inl (hw b (List.mem_cons_self ..))

theorem Elements.isBounded (h : Elements false es t) (hcloser : closer = 0x5D ∨ closer = 0x7D)
    (rest : Bytes) : IsBounded (t ++ closer :: rest) := by
  cases h with
  | none hw =>
      refine hw.isBounded_append fun b hb => ?_
      obtain rfl := Option.some.inj hb
      exact Or.inr (Or.inr hcloser)
  | next hw =>
      rw [List.append_assoc]
      refine hw.isBounded_append fun b hb => ?_
      obtain rfl := Option.some.inj hb
      exact Or.inr (Or.inl rfl)

theorem Elements.length_le (h : Elements isFirst es s) (hes : ∀ e ∈ es, Begins e) :
    es.length ≤ s.length := by
  induction h with
  | none => simp
  | first _ _ ih | next _ _ _ ih =>
      obtain ⟨⟨b, r, rfl, -⟩, hrest⟩ := List.forall_mem_cons.mp hes
      have := ih hrest
      simp
      omega

/-! ## What stands between elements -/

theorem separator_none (hw : IsBlanks w) (hcloser : closer = 0x5D ∨ closer = 0x7D) (rest : Bytes) :
    separator isFirst closer atEnd comma (w ++ closer :: rest) = .ok (false, rest) := by
  rw [separator, skipBlanks_append hw]
  rcases hcloser with rfl | rfl <;> rfl

theorem separator_cons (h : Elements isFirst (e :: es) s) (he : Begins e)
    (hcloser : closer = 0x5D ∨ closer = 0x7D) :
    ∃ t, Elements false es t ∧ ∀ rest,
      separator isFirst closer atEnd comma (s ++ rest) = .ok (true, e ++ (t ++ rest)) := by
  obtain ⟨b, r, rfl, hb, hlist, hobject⟩ := he
  have hne : b ≠ closer := by rcases hcloser with rfl | rfl <;> assumption
  have hskip (u : Bytes) : skipBlanks (b :: u) = b :: u := by
    rw [skipBlanks, if_neg (by simp [hb])]
  cases h with
  | @first w _ t _ hw ht =>
      refine ⟨t, ht, fun rest => ?_⟩
      rw [separator, List.append_assoc, skipBlanks_append hw]
      simp [hskip, hne]
  | @next w w' _ t _ hw hw' ht =>
      refine ⟨t, ht, fun rest => ?_⟩
      have hcomma : (0x2C : UInt8) ≠ closer := by rcases hcloser with rfl | rfl <;> decide
      rw [separator, List.append_assoc, skipBlanks_append hw, List.cons_append,
        show skipBlanks (0x2C :: _) = 0x2C :: _ from rfl]
      simp only [if_neg hcomma, List.append_assoc, skipBlanks_append hw', List.cons_append, hskip,
        if_neg hne]
      rfl

end

end Intake.Json
