import Intake.Api.Upload

/-!
# What a form hands in

A form whose parts have come in whole hands in a dataset if it has a file and a metacard, if every size
in it is a number, and if the last sizes are those of the last file and the last metacard. The upload
that is put together part by part comes to the same.
-/

namespace Intake.Api

open Http (Part)

/-- A part that has come in whole. -/
structure Piece where
  name : Option String
  fileName : Option String
  mediaType : Option Http.MediaType
  content : Bytes
  deriving Repr, DecidableEq

namespace Piece

def part (p : Piece) : Part := ⟨p.name, p.fileName, p.mediaType, some p.content⟩

/-- The number in a piece, if it is one of at most 64 bits; blanks around it do not count. -/
def number? (p : Piece) : Option Nat :=
  p.part.text?.bind fun text => (Text.readNat UInt64.size (Text.trim text)).toOption

def isSize (p : Piece) : Bool := p.name = some "fileSize" || p.name = some "metacardSize"

/-- Whether it is a size that is no number. -/
def isFaulty (p : Piece) : Bool := p.isSize && p.number?.isNone

end Piece

/-- The last piece of a name. -/
def lastOf (name : String) (ps : List Piece) : Option Piece :=
  (ps.filter fun p => p.name = some name).getLast?

/-- The pieces hand in the file `f` with the metacard `m`. -/
structure HandsIn (ps : List Piece) (f m : Piece) : Prop where
  file : lastOf "file" ps = some f
  metacard : lastOf "metacard" ps = some m
  numbers : ∀ p ∈ ps, p.isSize → ∃ n, p.number? = some n
  fileSize : ∀ p, lastOf "fileSize" ps = some p → p.number? = some f.content.length
  metacardSize : ∀ p, lastOf "metacardSize" ps = some p → p.number? = some m.content.length

def wrongSize? (declared actual : Nat) : Option Refusal :=
  if declared = actual then none else some (.service (.storage (.sizeMismatch declared actual)))

/-- What is wrong with the size that is declared for `p`, if one is. -/
def mismatch? (name : String) (ps : List Piece) (p : Piece) : Option Refusal :=
  ((lastOf name ps).bind Piece.number?).bind (wrongSize? · p.content.length)

/-- What is found fault with first: the first size that is no number, then what is missing, then a size
that is wrong. -/
def complaint? (ps : List Piece) : Option Refusal :=
  match ps.find? Piece.isFaulty with
  | some p => some (.invalidSize (p.name.getD ""))
  | none =>
    match lastOf "file" ps, lastOf "metacard" ps with
    | none, _ => some (.missingPart "file")
    | some _, none => some (.missingPart "metacard")
    | some f, some m => (mismatch? "fileSize" ps f).or (mismatch? "metacardSize" ps m)

section

variable {ps : List Piece} {p f m : Piece} {name : String}

theorem lastOf_cons (name : String) (p : Piece) (ps : List Piece) :
    lastOf name (p :: ps) = (lastOf name ps).or (if p.name = some name then some p else none) := by
  by_cases hp : p.name = some name
  · rw [lastOf, List.filter_cons_of_pos (by simp [hp]), List.getLast?_cons, if_pos hp]
    cases h : (ps.filter fun p => p.name = some name).getLast? <;> simp [lastOf, h]
  · rw [lastOf, List.filter_cons_of_neg (by simp [hp]), if_neg hp, Option.or_none]
    rfl

theorem mem_of_lastOf (h : lastOf name ps = some p) : p ∈ ps ∧ p.name = some name := by
  have hm := List.mem_filter.mp (List.mem_of_getLast? h)
  exact ⟨hm.1, of_decide_eq_true hm.2⟩

/-! ## A form is accepted or complained about -/

theorem mismatch?_eq_none_iff (hn : ∀ q, lastOf name ps = some q → ∃ n, q.number? = some n) :
    mismatch? name ps p = none ↔
      ∀ q, lastOf name ps = some q → q.number? = some p.content.length := by
  rw [mismatch?]
  cases hq : lastOf name ps with
  | none => simp
  | some q =>
      obtain ⟨n, hn⟩ := hn q hq
      simp [hn, wrongSize?]

theorem find?_isFaulty_eq_none_iff :
    ps.find? Piece.isFaulty = none ↔ ∀ p ∈ ps, p.isSize → ∃ n, p.number? = some n := by
  simp only [List.find?_eq_none, Piece.isFaulty, Bool.and_eq_true, Option.isNone_iff_eq_none, not_and,
    Option.ne_none_iff_exists', ← ne_eq]

theorem number_of_lastOf (h : ps.find? Piece.isFaulty = none)
    (hname : name = "fileSize" ∨ name = "metacardSize") (hp : lastOf name ps = some p) :
    ∃ n, p.number? = some n := by
  obtain ⟨hmem, hp⟩ := mem_of_lastOf hp
  refine find?_isFaulty_eq_none_iff.mp h p hmem ?_
  rcases hname with rfl | rfl <;> simp [Piece.isSize, hp]

/-- A form that is not complained about hands something in, and only such a form does. -/
theorem complaint?_eq_none_iff : complaint? ps = none ↔ ∃ f m, HandsIn ps f m := by
  rw [complaint?]
  cases hfault : ps.find? Piece.isFaulty with
  | some p =>
      refine iff_of_false nofun ?_
      rintro ⟨f, m, h⟩
      cases hfault.symm.trans (find?_isFaulty_eq_none_iff.mpr h.numbers)
  | none =>
      have hnumbers := find?_isFaulty_eq_none_iff.mp hfault
      have hfile := fun q => number_of_lastOf (p := q) hfault (.inl rfl)
      have hmetacard := fun q => number_of_lastOf (p := q) hfault (.inr rfl)
      cases hf : lastOf "file" ps with
      | none =>
          refine iff_of_false nofun ?_
          rintro ⟨f, m, h⟩
          cases hf.symm.trans h.file
      | some f =>
          cases hm : lastOf "metacard" ps with
          | none =>
              refine iff_of_false nofun ?_
              rintro ⟨f', m, h⟩
              cases hm.symm.trans h.metacard
          | some m =>
              simp only [Option.or_eq_none_iff, mismatch?_eq_none_iff hfile,
                mismatch?_eq_none_iff hmetacard]
              constructor
              · rintro ⟨hfs, hms⟩
                exact ⟨f, m, hf, hm, hnumbers, hfs, hms⟩
              · rintro ⟨f', m', h⟩
                obtain rfl := Option.some.inj (hf.symm.trans h.file)
                obtain rfl := Option.some.inj (hm.symm.trans h.metacard)
                exact ⟨h.fileSize, h.metacardSize⟩

/-! ## Part by part -/

namespace Piece

def received (p : Piece) : Received := ⟨p.content, p.mediaType.map (·.text), p.fileName⟩

/-- The number in a piece that has one. -/
def number (p : Piece) : Nat := p.number?.getD 0

end Piece

/-- The upload to which the pieces of a form are added. -/
def Upload.addAll (u : Upload) (ps : List Piece) : Upload where
  file := ((lastOf "file" ps).map Piece.received).or u.file
  metacard := ((lastOf "metacard" ps).map Piece.received).or u.metacard
  fileSize := ((lastOf "fileSize" ps).map Piece.number).or u.fileSize
  metacardSize := ((lastOf "metacardSize" ps).map Piece.number).or u.metacardSize

theorem Upload.addAll_cons (u : Upload) (p : Piece) (ps : List Piece) :
    u.addAll (p :: ps) = (u.addAll [p]).addAll ps := by
  have hlast : ∀ name, lastOf name (p :: ps) = (lastOf name ps).or (lastOf name [p]) := by
    intro name
    rw [lastOf_cons, lastOf_cons name p []]
    rfl
  simp only [Upload.addAll, hlast, Option.map_or, Option.or_assoc]

theorem readSize_part (name : String) (p : Piece) : Upload.readSize name p.part =
    if p.number?.isNone then .error (.invalidSize name) else .ok p.number := by
  obtain ⟨text, htext⟩ : ∃ text, p.part.text? = some text := ⟨_, rfl⟩
  have hnumber : p.number? = (Text.readNat UInt64.size (Text.trim text)).toOption := by
    rw [Piece.number?, htext]
    rfl
  simp only [Upload.readSize, Piece.number, hnumber, htext, Upload.sizeBound]
  cases Text.readNat UInt64.size (Text.trim text) <;> rfl

theorem receive_part (p : Piece) : Upload.receive p.part = .ok p.received := rfl

/-- One part more; which of the five kinds it is shows in its name. -/
theorem Upload.add_part (u : Upload) (p : Piece) : u.add p.part =
    if p.isFaulty then .error (.invalidSize (p.name.getD "")) else .ok (u.addAll [p]) := by
  have hname : p.part.name = p.name := rfl
  have hlast : ∀ name, lastOf name [p] = if p.name = some name then some p else none := fun name => by
    rw [lastOf_cons]
    rfl
  rw [Upload.add, hname]
  simp only [Upload.addAll, hlast, Piece.isFaulty, Piece.isSize]
  split
  · rename_i h
    simp [h, receive_part]
    rfl
  · rename_i h
    simp [h, receive_part]
    rfl
  · rename_i h
    rw [readSize_part]
    cases hn : p.number?.isNone <;> simp [h] <;> rfl
  · rename_i h
    rw [readSize_part]
    cases hn : p.number?.isNone <;> simp [h] <;> rfl
  · rename_i hfile hmetacard hfileSize hmetacardSize
    simp only [imp_false] at hfile hmetacard hfileSize hmetacardSize
    simp [hfile, hmetacard, hfileSize, hmetacardSize]

theorem Upload.foldlM_add (u : Upload) (ps : List Piece) : (ps.map Piece.part).foldlM Upload.add u =
    match ps.find? Piece.isFaulty with
    | some p => .error (.invalidSize (p.name.getD ""))
    | none => .ok (u.addAll ps) := by
  induction ps generalizing u with
  | nil => rfl
  | cons p ps ih =>
      rw [List.map_cons, List.foldlM_cons, Upload.add_part]
      cases hp : p.isFaulty with
      | true =>
          rw [List.find?_cons_of_pos hp]
          rfl
      | false =>
          rw [List.find?_cons_of_neg (by simp [hp]), u.addAll_cons p ps]
          exact ih _

/-- What is handed in with the file `f` and the metacard `m`; a size that is not declared is right. -/
def submission (ps : List Piece) (f m : Piece) : Service.Submission where
  fileSize := ((lastOf "fileSize" ps).map Piece.number).getD f.content.length
  mediaType := (f.mediaType.map (·.text)).getD Upload.standardMediaType
  file := f.content
  fileName := f.fileName
  metacardSize := ((lastOf "metacardSize" ps).map Piece.number).getD m.content.length
  metacard := m.content

theorem ofForm_pieces (ps : List Piece) : Upload.ofForm ⟨ps.map Piece.part, true⟩ =
    match ps.find? Piece.isFaulty with
    | some p => .error (.invalidSize (p.name.getD ""))
    | none =>
      match lastOf "file" ps, lastOf "metacard" ps with
      | none, _ => .error (.missingPart "file")
      | some _, none => .error (.missingPart "metacard")
      | some f, some m => .ok (submission ps f m) := by
  simp only [Upload.ofForm, Upload.foldlM_add]
  cases ps.find? Piece.isFaulty with
  | some p => rfl
  | none =>
      show (({} : Upload).addAll ps).finish = _
      simp only [Upload.finish, Upload.addAll, Option.or_none]
      cases lastOf "file" ps with
      | none => rfl
      | some f => cases lastOf "metacard" ps <;> rfl

/-- What is wrong with the declared sizes. -/
def sizeComplaint? (s : Service.Submission) : Option Refusal :=
  (wrongSize? s.fileSize s.file.length).or (wrongSize? s.metacardSize s.metacard.length)

theorem mismatch?_eq (hn : ∀ q, lastOf name ps = some q → ∃ n, q.number? = some n) :
    mismatch? name ps p =
      wrongSize? (((lastOf name ps).map Piece.number).getD p.content.length) p.content.length := by
  rw [mismatch?]
  cases hq : lastOf name ps with
  | none => exact (if_pos rfl).symm
  | some q =>
      obtain ⟨n, hn⟩ := hn q hq
      simp [Piece.number, hn]

theorem ofForm_cases (ps : List Piece) :
    (∃ r, complaint? ps = some r ∧ r.status = ⟨400⟩ ∧
      Upload.ofForm ⟨ps.map Piece.part, true⟩ = .error r) ∨
    ∃ f m, lastOf "file" ps = some f ∧ lastOf "metacard" ps = some m ∧
      Upload.ofForm ⟨ps.map Piece.part, true⟩ = .ok (submission ps f m) ∧
      complaint? ps = sizeComplaint? (submission ps f m) := by
  rw [complaint?, ofForm_pieces]
  cases hfault : ps.find? Piece.isFaulty with
  | some p => exact .inl ⟨_, rfl, rfl, rfl⟩
  | none =>
      cases hf : lastOf "file" ps with
      | none => exact .inl ⟨_, rfl, rfl, rfl⟩
      | some f =>
          cases hm : lastOf "metacard" ps with
          | none => exact .inl ⟨_, rfl, rfl, rfl⟩
          | some m =>
              refine .inr ⟨f, m, rfl, rfl, rfl, ?_⟩
              show (mismatch? "fileSize" ps f).or (mismatch? "metacardSize" ps m) = _
              rw [mismatch?_eq fun q => number_of_lastOf hfault (.inl rfl),
                mismatch?_eq fun q => number_of_lastOf hfault (.inr rfl)]
              rfl

end

end Intake.Api
