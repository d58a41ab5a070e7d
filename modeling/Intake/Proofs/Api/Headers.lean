import Intake.Api.Answer
import Intake.Proofs.Text.Utf8

/-!
# The headers of what is handed out

A file name reaches the disposition without the characters that could end it or the header. So the
disposition can always stand in a header, and what is read between its quotes is what was put there.
-/

namespace Intake.Api

open Artifact (Kind)

/-! ## What may stand where -/

/-- The octets that may stand in the value of a header. -/
def IsHeaderOctet (b : UInt8) : Prop := b = 0x09 ∨ (0x20 ≤ b ∧ b ≠ 0x7F)

/-- The text may be the value of a header. -/
def IsHeaderText (s : String) : Prop := ∀ b ∈ Bytes.ofString s, IsHeaderOctet b

/-- A quote, a backslash, a control character, or one that is not ASCII. -/
def IsStruck (c : Char) : Prop :=
  c = '"' ∨ c = '\\' ∨ (c.toNat < 0x20 ∨ c.toNat = 0x7F) ∨ 0x80 ≤ c.toNat

instance : DecidablePred IsStruck := fun _ => inferInstanceAs (Decidable (_ ∨ _))

/-- Reads a quoted text after its opening quote; a backslash makes the character behind it a plain one.
Answers with the text and what follows the closing quote. -/
def unquote (isEscaped : Bool) : List Char → Option (List Char × List Char)
  | [] => none
  | c :: cs =>
    if isEscaped then (unquote false cs).map fun (s, rest) => (c :: s, rest)
    else if c = '"' then some ([], cs)
    else if c = '\\' then unquote true cs
    else (unquote false cs).map fun (s, rest) => (c :: s, rest)

variable {c : Char} {s n : String} {cs : List Char}

theorem isPlain_iff : isPlain c = true ↔ ¬ IsStruck c := by
  have hvisible : 0x20 ≤ c.toNat ∧ c.toNat < 0x7F ↔
      ¬ (c.toNat < 0x20 ∨ c.toNat = 0x7F) ∧ ¬ 0x80 ≤ c.toNat := by omega
  simp only [isPlain, IsStruck, Bool.and_eq_true, decide_eq_true_eq, hvisible, not_or, ne_eq]
  tauto

theorem isHeaderChar_of_isPlain (h : isPlain c = true) : isHeaderChar c = true := by
  simp only [isPlain, Bool.and_eq_true, decide_eq_true_eq] at h
  simp only [isHeaderChar, Bool.or_eq_true, Bool.and_eq_true, decide_eq_true_eq]
  omega

theorem isHeaderOctet_ofNat_iff {n : Nat} (h : n < 0x80) :
    IsHeaderOctet (UInt8.ofNat n) ↔ n = 0x09 ∨ (0x20 ≤ n ∧ n ≠ 0x7F) := by
  have hn : (UInt8.ofNat n).toNat = n := by
    rw [UInt8.toNat_ofNat']
    omega
  rw [IsHeaderOctet, ← UInt8.toNat_inj, UInt8.le_iff_toNat_le, ne_eq, ← UInt8.toNat_inj, hn]
  rfl

/-- A character may stand in a header exactly if its octets may. -/
theorem isHeaderChar_iff : isHeaderChar c = true ↔ ∀ b ∈ String.utf8EncodeChar c, IsHeaderOctet b := by
  have hchar : isHeaderChar c = true ↔ c.toNat = 0x09 ∨ (0x20 ≤ c.toNat ∧ c.toNat ≠ 0x7F) := by
    simp only [isHeaderChar, Bool.or_eq_true, Bool.and_eq_true, decide_eq_true_eq]
    rw [← Char.toNat_inj]
    rfl
  rw [hchar]
  rcases Text.Utf8.utf8EncodeChar_cases c with ⟨hascii, hone⟩ | ⟨hbeyond, hoctets⟩
  · rw [hone, List.forall_mem_singleton, isHeaderOctet_ofNat_iff hascii]
  · constructor
    · intro _ b hb
      have h := hoctets b hb
      refine Or.inr ⟨UInt8.le_trans (by decide) h, ?_⟩
      rintro rfl
      exact absurd h (by decide)
    · intro _
      omega

theorem isHeaderText_iff : s.toList.all isHeaderChar = true ↔ IsHeaderText s := by
  rw [List.all_eq_true, IsHeaderText, Bytes.ofString_eq]
  constructor
  · intro h b hb
    obtain ⟨c, hc, hb⟩ := List.mem_flatMap.mp hb
    exact isHeaderChar_iff.mp (h c hc) b hb
  · intro h c hc
    apply isHeaderChar_iff.mpr
    intro b hb
    exact h b (List.mem_flatMap.mpr ⟨c, hc, hb⟩)

theorem headerValue?_of_isHeaderText (h : IsHeaderText s) : headerValue? s = some s :=
  if_pos (isHeaderText_iff.mpr h)

/-! ## The disposition -/

/-- The file name as it stands between the quotes. -/
def struckName (n : String) : String := String.ofList (n.toList.filter isPlain)

theorem disposition_eq (n : String) : disposition n = "attachment; filename=\"" ++ struckName n ++ "\"" := rfl

theorem toList_struckName (n : String) : (struckName n).toList = n.toList.filter isPlain :=
  String.toList_ofList

theorem not_isStruck_of_mem (hc : c ∈ (struckName n).toList) : ¬ IsStruck c := by
  rw [toList_struckName] at hc
  exact isPlain_iff.mp ((List.mem_filter.mp hc).2)

theorem struckName_eq_self (h : ∀ c ∈ n.toList, ¬ IsStruck c) : struckName n = n := by
  have hfilter : n.toList.filter isPlain = n.toList :=
    List.filter_eq_self.mpr fun c hc => isPlain_iff.mpr (h c hc)
  rw [struckName, hfilter, String.ofList_toList]

theorem isHeaderText_disposition (n : String) : IsHeaderText (disposition n) := by
  rw [← isHeaderText_iff, disposition_eq, String.toList_append, String.toList_append, List.all_append,
    List.all_append, Bool.and_eq_true, Bool.and_eq_true]
  refine ⟨⟨by decide, ?_⟩, by decide⟩
  rw [List.all_eq_true]
  intro c hc
  rw [toList_struckName] at hc
  exact isHeaderChar_of_isPlain ((List.mem_filter.mp hc).2)

theorem unquote_append (h : ∀ c ∈ cs, ¬ IsStruck c) (rest : List Char) :
    unquote false (cs ++ '"' :: rest) = some (cs, rest) := by
  induction cs with
  | nil => rfl
  | cons c cs ih =>
      obtain ⟨hc, hcs⟩ := List.forall_mem_cons.mp h
      have hquote : c ≠ '"' := fun hc' => hc (Or.inl hc')
      have hslash : c ≠ '\\' := fun hc' => hc (Or.inr (Or.inl hc'))
      rw [List.cons_append, unquote, if_neg (by decide), if_neg hquote, if_neg hslash, ih hcs]
      rfl

theorem beforeQuote?_append (h : ∀ c ∈ cs, ¬ IsStruck c) {before : Option Char}
    (hbefore : before ≠ some '\\') (rest : List Char) :
    Http.Disposition.beforeQuote? before (cs ++ '"' :: rest) = some cs := by
  induction cs generalizing before with
  | nil => simp [Http.Disposition.beforeQuote?, hbefore]
  | cons c cs ih =>
      obtain ⟨hc, hcs⟩ := List.forall_mem_cons.mp h
      have hquote : c ≠ '"' := fun hc' => hc (Or.inl hc')
      have hslash : some c ≠ some '\\' := fun hc' => hc (Or.inr (Or.inl (Option.some.inj hc')))
      rw [List.cons_append, Http.Disposition.beforeQuote?, if_neg (by simp [hquote]), ih hcs hslash]
      rfl

/-- Whoever reads the disposition of a form's part finds the name in it. -/
theorem parameter?_disposition (n : String) :
    Http.Disposition.parameter? "filename" (disposition n) = some (struckName n) := by
  have hafter (cs : List Char) : Http.Disposition.after? ("filename".toList ++ ['=']) 0 none
      ("attachment; filename=\"".toList ++ cs) = some ('"' :: cs) := rfl
  have hread : Http.Disposition.beforeQuote? none ((struckName n).toList ++ ['"']) =
      some (struckName n).toList :=
    beforeQuote?_append (fun _ => not_isStruck_of_mem) (by simp) []
  rw [Http.Disposition.parameter?, disposition_eq, String.toList_append, String.toList_append,
    List.append_assoc, hafter]
  change (Http.Disposition.beforeQuote? none ((struckName n).toList ++ ['"'])).map String.ofList = _
  rw [hread, Option.map_some, String.ofList_toList]

/-! ## What is handed out -/

theorem offer_eq (d : Service.Download) : offer d =
    ⟨⟨200⟩, ("content-type", offeredMediaType d.mediaType) ::
      d.fileName.toList.map fun n => ("content-disposition", disposition n), d.content⟩ := by
  rw [offer]
  cases d.fileName with
  | none => rfl
  | some n =>
      rw [Option.bind_some, headerValue?_of_isHeaderText (isHeaderText_disposition n)]
      rfl

/-- The value is a disposition with the name `s` between quotes, which is the file name `n` without its
struck characters. -/
structure NamesFile (n s value : String) : Prop where
  legal : IsHeaderText value
  form : value = "attachment; filename=\"" ++ s ++ "\""
  clean : ∀ c ∈ s.toList, ¬ IsStruck c
  kept : s.toList = n.toList.filter fun c => ¬ IsStruck c
  unchanged : (∀ c ∈ n.toList, ¬ IsStruck c) → s = n
  unquoted : unquote false (value.toList.drop "attachment; filename=\"".length) = some (s.toList, [])
  read : Http.Disposition.parameter? "filename" value = some s

theorem namesFile_disposition (n : String) : NamesFile n (struckName n) (disposition n) where
  legal := isHeaderText_disposition n
  form := disposition_eq n
  clean _ := not_isStruck_of_mem
  kept := by
    rw [toList_struckName]
    apply List.filter_congr
    intro c _
    rw [Bool.eq_iff_iff, isPlain_iff, decide_eq_true_eq]
  unchanged := struckName_eq_self
  unquoted := by
    have hdrop : (disposition n).toList.drop "attachment; filename=\"".length =
        (struckName n).toList ++ '"' :: [] := by
      rw [disposition_eq, String.toList_append, String.toList_append, List.append_assoc]
      rfl
    rw [hdrop]
    exact unquote_append (fun _ => not_isStruck_of_mem) []
  read := parameter?_disposition n

example : disposition "a\"\\\r\nx: é.txt" = "attachment; filename=\"ax: .txt\"" := by decide

/-- The values of all headers of a name. -/
def valuesOf (headers : List (String × String)) (name : String) : List String :=
  (headers.filter (·.1 = name)).map Prod.snd

/-- The headers say what the artifact is, once, and what its file is called, once if it has a name. -/
structure Labels (a : Artifact) (headers : List (String × String)) : Prop where
  type : ∃ value, valuesOf headers "content-type" = [value] ∧ IsHeaderText value ∧
    (IsHeaderText a.mediaType → value = a.mediaType)
  unnamed : a.metadata.fileName = none → valuesOf headers "content-disposition" = []
  named : ∀ n, a.metadata.fileName = some n → ∃ s value,
    valuesOf headers "content-disposition" = [value] ∧ NamesFile n s value

theorem isHeaderText_offeredMediaType (t : String) : IsHeaderText (offeredMediaType t) := by
  rw [offeredMediaType, headerValue?]
  split
  · next h => exact isHeaderText_iff.mp h
  · exact isHeaderText_iff.mp (by decide)

theorem labels_offer (a : Artifact) :
    Labels a (offer ⟨a.mediaType, a.content, a.metadata.fileName⟩).headers := by
  rw [offer_eq]
  constructor
  · refine ⟨offeredMediaType a.mediaType, ?_, isHeaderText_offeredMediaType _, ?_⟩
    · cases a.metadata.fileName <;> rfl
    · intro h
      rw [offeredMediaType, headerValue?_of_isHeaderText h]
      rfl
  · intro hnone
    rw [hnone]
    rfl
  · intro n hn
    rw [hn]
    exact ⟨struckName n, disposition n, rfl, namesFile_disposition n⟩

theorem download_of_isRetrievable (dataset : String) (kind : Kind) {a : Artifact}
    (ha : a.metadata.status.isRetrievable = true) :
    ∃ next, Service.download dataset kind = .ask (.retrieve ⟨dataset, kind⟩) next ∧
      next (.ok a) = .done (.ok ⟨a.mediaType, a.content, a.metadata.fileName⟩) :=
  ⟨_, rfl, if_pos ha⟩

/-- A retrievable artifact is handed out under headers that say what it is and what it is called. -/
theorem fetch_labels {dataset text : String} {kind : Kind} {a : Artifact}
    (hkind : Kind.ofText? text = some kind) (ha : a.metadata.status.isRetrievable = true) :
    ∃ next answer, fetch dataset text = .ask (.retrieve ⟨dataset, kind⟩) next ∧
      next (.ok a) = .done answer ∧ answer.status.code = 200 ∧ answer.body = a.content ∧
      Labels a answer.headers := by
  obtain ⟨next, hdownload, hnext⟩ := download_of_isRetrievable dataset kind ha
  unfold fetch
  rw [hkind]
  simp only [hdownload]
  refine ⟨_, offer ⟨a.mediaType, a.content, a.metadata.fileName⟩, rfl, ?_, rfl, rfl, labels_offer a⟩
  change next (.ok a) >>= _ = _
  rw [hnext]
  rfl

/-- A name that tries to end its quotes and the header. -/
def slyArtifact : Artifact := ⟨"text/plain", [0x61], ⟨some "a\"\\\r\nx: é.txt", .staged⟩⟩

theorem fetch_slyArtifact : ∃ next answer, fetch "d" "file" = .ask (.retrieve ⟨"d", .file⟩) next ∧
    next (.ok slyArtifact) = .done answer ∧ answer.status.code = 200 ∧ answer.body = [0x61] ∧
    Labels slyArtifact answer.headers :=
  fetch_labels (by decide) (by decide)

end Intake.Api
