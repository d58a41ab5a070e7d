import Intake.Proofs.Except
import Intake.Proofs.Json.Record
import Intake.Proofs.Json.Sequel

/-!
# Readers that know where they end

A value that ends with a quote or a bracket is read to its end whatever comes after it. So a text that is
such a value and nothing else is no longer one when something is added to it.
-/

namespace Intake.Json

section

variable {α : Type} {s r : Bytes} {b closer : UInt8} {atEnd comma : Fault} {isFirst more : Bool}

/-- There is something to read, and what follows it does not matter. -/
structure IsSelfDelimiting (read : Read α) : Prop where
  nil : ∀ x, read [] ≠ .ok x
  more : ∀ {s a r}, read s = .ok (a, r) → ∀ t, read (s ++ t) = .ok (a, r ++ t)

theorem mismatch_ne_ok {wanted : String} {x : α} : mismatch wanted s ≠ .ok x := by
  obtain ⟨e, he⟩ := mismatch_eq_error (α := α) wanted s
  rw [he]
  nofun

/-! ## Texts and optional values -/

theorem isSelfDelimiting_textAs (wanted : String) : IsSelfDelimiting (textAs wanted) := by
  constructor
  · intro x
    change mismatch wanted [] ≠ _
    exact mismatch_ne_ok
  · intro s x r h t
    unfold textAs at h ⊢
    split at h
    · next u hblank =>
      rw [skipBlanks_more hblank]
      exact text_more h t
    · exact absurd h mismatch_ne_ok

theorem IsSelfDelimiting.nullable {read : Read α} (hread : IsSelfDelimiting read) :
    IsSelfDelimiting (nullable read) := by
  constructor
  · intro x h
    simp only [Json.nullable, skipBlanks] at h
    split at h
    · cases h
    · next heq => exact hread.nil _ heq
  · intro s x r h t
    unfold Json.nullable at h ⊢
    split at h
    · next u hblank =>
      rw [skipBlanks_more hblank]
      simp only
      split at h
      · cases h
      · next r' hword =>
        cases h
        rw [word_more hword]
    · next hnull =>
      cases hblank : skipBlanks s with
      | nil =>
          rw [hblank] at h
          split at h
          · cases h
          · next heq => exact absurd heq (hread.nil _)
      | cons b u =>
          rw [hblank] at h
          split at h
          · cases h
          · next a r' heq =>
            cases h
            rw [skipBlanks_more hblank]
            -- The first octet is there already, so no `null` can come of what is added.
            split
            · next hb =>
              obtain ⟨rfl, -⟩ := List.cons.inj hb
              exact absurd hblank (hnull u)
            · rw [← List.cons_append, hread.more heq]

/-! ## Containers -/

theorem separator_more (h : separator isFirst closer atEnd comma s = .ok (more, r)) (t : Bytes) :
    separator isFirst closer atEnd comma (s ++ t) = .ok (more, r ++ t) := by
  unfold separator at h ⊢
  split at h
  · cases h
  · next b u hblank =>
    rw [skipBlanks_more hblank]
    simp only
    split_ifs at h ⊢ with hcloser hfirst hcomma
    · cases h
      rfl
    · cases h
      rfl
    · split at h
      · cases h
      · next c v hgap =>
        rw [skipBlanks_more hgap]
        simp only
        split_ifs at h ⊢
        cases h
        rfl

theorem listItems_more {read : Read α} (hread : IsSelfDelimiting read) {fuel : Nat} {items as : List α}
    (h : listItems read fuel items s = .ok (as, r)) (t : Bytes) (k : Nat) :
    listItems read (fuel + k) items (s ++ t) = .ok (as, r ++ t) := by
  fun_induction listItems read fuel items s with
  | case1 => cases h
  | case2 => cases h
  | case3 _ _ _ _ hsep =>
      cases h
      rw [Nat.succ_add, listItems, listSeparator, separator_more hsep]
  | case4 => cases h
  | case5 _ _ _ _ hsep _ _ hitem ih =>
      rw [Nat.succ_add, listItems, listSeparator, separator_more hsep]
      simp only [hread.more hitem t]
      exact ih h

theorem IsSelfDelimiting.listOf {read : Read α} (hread : IsSelfDelimiting read) :
    IsSelfDelimiting (listOf read) := by
  constructor
  · intro x
    change mismatch "a sequence" [] ≠ _
    exact mismatch_ne_ok
  · intro s x r h t
    unfold Json.listOf at h ⊢
    split at h
    · next u hblank =>
      have hfuel : (u ++ t).length + 1 = u.length + 1 + t.length := by
        rw [List.length_append]
        omega
      rw [skipBlanks_more hblank]
      simp only [hfuel]
      exact listItems_more hread h t _
    · exact absurd h mismatch_ne_ok

theorem memberName_more {name : Option String} (h : memberName isFirst s = .ok (name, r)) (t : Bytes) :
    memberName isFirst (s ++ t) = .ok (name, r ++ t) := by
  unfold memberName at h ⊢
  split at h
  · cases h
  · next u hsep =>
    cases h
    rw [separator_more hsep]
  · next u hsep =>
    rw [separator_more hsep]
    simp only
    split at h
    · next v =>
      split at h
      · cases h
      · next name' r' htext =>
        cases h
        simp only [List.cons_append]
        rw [text_more htext]
    · cases h

theorem colon_more (h : colon s = .ok r) (t : Bytes) : colon (s ++ t) = .ok (r ++ t) := by
  unfold colon at h ⊢
  split at h
  · cases h
  · next b u hblank =>
    rw [skipBlanks_more hblank]
    simp only
    split_ifs at h ⊢
    cases h
    rfl

end

/-! ## Records -/

section

variable {σ α : Type} {rec : Record σ α} {s r : Bytes} {isFirst : Bool}

theorem Member.IsSlot.isSelfDelimiting {β : Type} {m : Member σ} {read : Read β} {put : σ → β → σ}
    (h : m.IsSlot read put) (hread : IsSelfDelimiting read) (st : σ) : IsSelfDelimiting (m.read st) := by
  constructor
  · intro x hx
    rw [h] at hx
    cases hnil : read [] with
    | error e =>
        rw [hnil] at hx
        cases hx
    | ok y => exact hread.nil y hnil
  · intro s x r hx t
    rw [h] at hx
    cases hs : read s with
    | error e =>
        rw [hs] at hx
        cases hx
    | ok y =>
        rw [hs] at hx
        cases hx
        rw [h, hread.more hs]
        rfl

theorem readMembers_nil {fuel : Nat} {st : σ} {x : σ × Bytes} :
    rec.readMembers fuel isFirst st [] ≠ .ok x := by
  intro h
  cases fuel <;> cases h

theorem readMembers_more (hmembers : ∀ m ∈ rec.members, ∀ st, IsSelfDelimiting (m.read st)) {fuel : Nat}
    {st st' : σ} (h : rec.readMembers fuel isFirst st s = .ok (st', r)) (t : Bytes) (k : Nat) :
    rec.readMembers (fuel + k) isFirst st (s ++ t) = .ok (st', r ++ t) := by
  fun_induction Record.readMembers rec fuel isFirst st s with
  | case1 => cases h
  | case2 => cases h
  | case3 _ _ _ _ _ hname =>
      cases h
      rw [Nat.succ_add, Record.readMembers, memberName_more hname]
  | case4 => cases h
  | case5 _ _ _ _ name r' hname hnone rest hskip ih =>
      obtain ⟨u, hcolon, hskip⟩ := exists_of_bind_eq_ok hskip
      cases rest with
      | nil => exact absurd h readMembers_nil
      | cons b rest =>
          have hvalue : (colon (r' ++ t) >>= skip) = .ok (b :: (rest ++ t)) := by
            rw [colon_more hcolon]
            exact skip_more hskip t
          rw [Nat.succ_add, Record.readMembers, memberName_more hname]
          simp only [hnone, hvalue]
          exact ih h
  | case6 => cases h
  | case7 => cases h
  | case8 _ _ st _ name r' hname m hsome hset st₁ rest hread ih =>
      obtain ⟨u, hcolon, hread⟩ := exists_of_bind_eq_ok hread
      have hm := hmembers m (Record.mem_of_member? hsome)
      have hvalue : (colon (r' ++ t) >>= m.read st) = .ok (st₁, rest ++ t) := by
        rw [colon_more hcolon]
        exact (hm st).more hread t
      rw [Nat.succ_add, Record.readMembers, memberName_more hname]
      simp only [hsome, hset, hvalue]
      exact ih h

theorem readPlaces_more {ms : List (Member σ)} (hms : ∀ m ∈ ms, ∀ st, IsSelfDelimiting (m.read st))
    {n : Nat} {st st' : σ} (h : rec.readPlaces ms n st s = .ok (st', r)) (t : Bytes) :
    rec.readPlaces ms n st (s ++ t) = .ok (st', r ++ t) := by
  induction ms generalizing n st s with
  | nil =>
      cases h
      rfl
  | cons m ms ih =>
      obtain ⟨hm, hms⟩ := List.forall_mem_cons.mp hms
      unfold Record.readPlaces at h ⊢
      split at h
      · cases h
      · next hsep =>
        rw [listSeparator, separator_more hsep]
        simp only
        split_ifs at h ⊢
        exact ih hms h
      · next u hsep =>
        rw [listSeparator, separator_more hsep]
        simp only
        split at h
        · cases h
        · next st₁ u' hread =>
          simp only [(hm st).more hread t]
          exact ih hms h

theorem endList_more (h : Record.endList s = .ok r) (t : Bytes) :
    Record.endList (s ++ t) = .ok (r ++ t) := by
  unfold Record.endList at h ⊢
  split at h
  · cases h
  · next u hblank =>
    cases h
    rw [skipBlanks_more hblank]
    rfl
  · split at h <;> cases h
  · cases h

/-- A record ends with its closing bracket, if each of its members knows its end. -/
theorem isSelfDelimiting_read (hmembers : ∀ m ∈ rec.members, ∀ st, IsSelfDelimiting (m.read st)) :
    IsSelfDelimiting rec.read := by
  constructor
  · intro x
    change mismatch rec.title [] ≠ _
    exact mismatch_ne_ok
  · intro s x r h t
    unfold Record.read at h ⊢
    split at h
    · next u hblank =>
      obtain ⟨⟨st, r'⟩, hread, h⟩ := exists_of_bind_eq_ok h
      obtain ⟨a, hfinish, h⟩ := exists_of_bind_eq_ok h
      cases h
      have hmore := readMembers_more hmembers hread t t.length
      have hfuel : u.length + 1 + t.length = (u ++ t).length + 1 := by
        rw [List.length_append]
        omega
      rw [hfuel] at hmore
      rw [skipBlanks_more hblank]
      simp only [hmore]
      change (rec.finish st >>= fun a => pure (a, r ++ t)) = _
      rw [hfinish]
      rfl
    · next u hblank =>
      obtain ⟨⟨st, r'⟩, hread, h⟩ := exists_of_bind_eq_ok h
      obtain ⟨a, hfinish, h⟩ := exists_of_bind_eq_ok h
      obtain ⟨v, hend, h⟩ := exists_of_bind_eq_ok h
      cases h
      rw [skipBlanks_more hblank]
      simp only [readPlaces_more hmembers hread t]
      change (rec.finish st >>= fun a => Record.endList (r' ++ t) >>= fun v => pure (a, v)) = _
      rw [hfinish]
      change (Record.endList (r' ++ t) >>= fun v => pure (x, v)) = _
      rw [endList_more hend]
      rfl
    · exact absurd h mismatch_ne_ok

end

/-! ## Whole texts -/

section

variable {α : Type} {read : Read α} {s t : Bytes} {a : α}

theorem isBlanks_of_skipBlanks (h : skipBlanks s = []) : IsBlanks s := by
  induction s with
  | nil => exact isBlanks_nil
  | cons b s ih =>
      rw [skipBlanks] at h
      split at h
      · next hb =>
        refine List.forall_mem_cons.mpr ⟨?_, ih h⟩
        simpa [isBlank, or_assoc] using hb
      · cases h

/-- Whatever is added to a whole text spoils it, unless it is blank. -/
theorem decode_append (hread : IsSelfDelimiting read) (h : decode read s = .ok a) (ht : ¬ IsBlanks t) :
    decode read (s ++ t) = .error .trailingText := by
  unfold decode at h ⊢
  split at h
  · cases h
  · next a' rest heq =>
    split at h
    · next hend =>
      have hblanks := isBlanks_of_skipBlanks (List.isEmpty_iff.mp hend)
      have hmore : skipBlanks (rest ++ t) ≠ [] := by
        rw [skipBlanks_append hblanks]
        intro hskip
        exact ht (isBlanks_of_skipBlanks hskip)
      rw [hread.more heq]
      simp [hmore]
    · cases h

end

end Intake.Json
