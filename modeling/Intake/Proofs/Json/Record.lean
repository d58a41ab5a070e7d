import Intake.Proofs.Json.Shape

/-!
# Records in any order

The members of an object are read one by one, each at most once; those that are not declared are passed
over. What comes of them does not depend on their order.
-/

namespace Intake.Json

/-! ## One member -/

/-- The field's name is read as `n`. -/
def Field.Names (f : Field) (n : String) : Prop :=
  ∀ rest, Json.text (f.label ++ 0x22 :: rest) = .ok (n, rest)

section

variable {f : Field} {n n' : String} {s gap : Bytes} {es : List Bytes} {isFirst : Bool}

theorem Field.names_of_spells (h : Spells f.label n.toList) : f.Names n := text_of_spells h

theorem Field.IsMember.names (h : f.IsMember n) : f.Names n := Field.names_of_spells h.label

theorem Field.Names.unique (h : f.Names n) (h' : f.Names n') : n = n' := by
  have := (h []).symm.trans (h' [])
  simpa using this

theorem memberName_none (hs : Elements isFirst [] s) (rest : Bytes) :
    memberName isFirst (s ++ 0x7D :: rest) = .ok (none, rest) := by
  rw [memberName, separator_none hs.isBlanks (Or.inr rfl)]

/-- The name in front is read as the field's; its colon and its value come next. -/
theorem memberName_field (hs : Elements isFirst (f.text :: es) s) :
    ∃ t, Elements false es t ∧ ∀ rest, memberName isFirst (s ++ rest) =
      match text (f.label ++ 0x22 :: (f.gap ++ 0x3A :: (f.lead ++ (f.value ++ (t ++ rest))))) with
      | .error e => .error e
      | .ok (n, r) => .ok (some n, r) := by
  obtain ⟨t, ht, hsep⟩ := separator_cons hs f.begins_text (Or.inr rfl)
  refine ⟨t, ht, fun rest => ?_⟩
  have htext : f.text ++ (t ++ rest) =
      0x22 :: (f.label ++ 0x22 :: (f.gap ++ 0x3A :: (f.lead ++ (f.value ++ (t ++ rest))))) := by
    simp [Field.text]
  rw [memberName, hsep, htext]
  rfl

theorem colon_of_gap (hgap : IsBlanks gap) (r : Bytes) : colon (gap ++ 0x3A :: r) = .ok r := by
  rw [colon, skipBlanks_ahead hgap rfl]
  rfl

end

/-! ## Lawful records -/

section

variable {σ β : Type}

/-- What the value does to all that has been read so far. -/
def Member.Puts (m : Member σ) (w : Bytes) (put : σ → σ) : Prop := ∀ st, Accepts (m.read st) w (put st)

/-- The member is read apart from what has been read before, and then put to it. -/
def Member.IsSlot (m : Member σ) (read : Read β) (put : σ → β → σ) : Prop :=
  ∀ st s, m.read st s = (read s).map fun (b, rest) => (put st b, rest)

variable {m : Member σ} {read : Read β} {put : σ → β → σ} {p : σ → σ} {w : Bytes} {b : β}

theorem Member.IsSlot.puts (h : m.IsSlot read put) (hb : Accepts read w b) : m.Puts w (put · b) := by
  intro st lead rest hlead hrest
  rw [h, hb lead rest hlead hrest]
  rfl

theorem Member.IsSlot.refuses (h : m.IsSlot read put) (hw : Refuses read w) (st : σ) :
    Refuses (m.read st) w := by
  intro lead rest hlead hrest
  obtain ⟨e, he⟩ := hw lead rest hlead hrest
  exact ⟨e, by rw [h, he]; rfl⟩

theorem Member.IsSlot.accepts (h : m.IsSlot read put) (hw : Settles read w) (hp : m.Puts w p) (st : σ) :
    ∃ b, Accepts read w b :=
  hw.elim id fun hw => absurd (h.refuses hw st) (hp st).not_refuses

theorem Member.IsSlot.settles (h : m.IsSlot read put) (hw : Settles read w) :
    (∃ p, m.Puts w p) ∨ ∀ st, Refuses (m.read st) w :=
  hw.imp (fun ⟨_, hb⟩ => ⟨_, h.puts hb⟩) h.refuses

theorem Member.IsSlot.eq_put (h : m.IsSlot read put) (hp : m.Puts w p) (st : σ) :
    ∃ b, p = (put · b) := by
  have hread (st : σ) := (h st (w ++ [])).symm.trans ((hp st).read_eq isBounded_nil)
  cases hb : read (w ++ []) with
  | error e =>
      rw [hb] at hread
      cases hread st
  | ok x =>
      rw [hb] at hread
      exact ⟨x.1, funext fun st => (Prod.mk.inj (Except.ok.inj (hread st))).1.symm⟩

end

namespace Record

variable {σ α : Type}

/-- The members of a record do not disturb one another. -/
structure Lawful (r : Record σ α) : Prop where
  named {m : Member σ} {n : String} : m ∈ r.members → n ∈ m.names → r.member? n = some m
  settles {m : Member σ} {w : Bytes} : m ∈ r.members → IsValue w →
    (∃ p, m.Puts w p) ∨ ∀ st, Refuses (m.read st) w
  isSet {m : Member σ} {w : Bytes} {p : σ → σ} {st : σ} : m ∈ r.members → m.Puts w p →
    m.isSet (p st) = true
  frame {m m' : Member σ} {w : Bytes} {p : σ → σ} {st : σ} : m ∈ r.members → m' ∈ r.members →
    m' ≠ m → m.Puts w p → m'.isSet (p st) = m'.isSet st
  comm {m m' : Member σ} {w w' : Bytes} {p p' : σ → σ} {st : σ} : m ∈ r.members → m' ∈ r.members →
    m' ≠ m → m.Puts w p → m'.Puts w' p' → p' (p st) = p (p' st)

variable {r : Record σ α} {m m' : Member σ} {p p' : σ → σ} {w w' s : Bytes} {st st' : σ} {f g : Field}
  {fs gs : List Field} {n n' : String}

theorem mem_of_member? (h : r.member? n = some m) : m ∈ r.members := List.mem_of_find?_eq_some h

theorem member?_eq_none (h : ∀ m ∈ r.members, n ∉ m.names) : r.member? n = none :=
  List.find?_eq_none.mpr fun m hm => by simpa using h m hm

theorem Lawful.contains_iff (hr : r.Lawful) (hm : m ∈ r.members) :
    m.names.contains n = true ↔ r.member? n = some m := by
  refine ⟨fun h => hr.named hm (by simpa using h), fun h => ?_⟩
  rw [member?] at h
  exact List.find?_some (p := fun m : Member σ => m.names.contains n) h

/-- What comes of an object's fields after those that have been read. -/
inductive Reads (r : Record σ α) : σ → List Field → σ → Prop
  | nil {st : σ} : Reads r st [] st
  | unknown {st st' : σ} {f : Field} {fs : List Field} {n : String} (hname : f.Names n)
      (hnone : r.member? n = none) (hvalue : IsValue f.value) (hfs : Reads r st fs st') :
      Reads r st (f :: fs) st'
  | known {st st' : σ} {f : Field} {fs : List Field} {n : String} {m : Member σ} {p : σ → σ}
      (hname : f.Names n) (hm : r.member? n = some m) (hunset : m.isSet st = false)
      (hp : m.Puts f.value p) (hfs : Reads r (p st) fs st') : Reads r st (f :: fs) st'

/-! ## Reading an object -/

variable {isFirst : Bool} {fuel k : Nat} {lead rest rest' : Bytes} {a : α} {es : List Bytes}
  {ms : List (Member σ)}

theorem readMembers_none (hs : Elements isFirst [] s) (fuel : Nat) (st : σ) (rest : Bytes) :
    r.readMembers (fuel + 1) isFirst st (s ++ 0x7D :: rest) = .ok (st, rest) := by
  rw [readMembers, memberName_none hs]

theorem readMembers_field (hs : Elements isFirst (f.text :: es) s) (hf : f.IsWritten)
    (hname : f.Names n) : ∃ t, Elements false es t ∧ ∀ fuel st rest,
      r.readMembers (fuel + 1) isFirst st (s ++ rest) =
      match r.member? n with
      | none =>
        match skip (f.lead ++ (f.value ++ (t ++ rest))) with
        | .error e => .error e
        | .ok rest => r.readMembers fuel false st rest
      | some m =>
        if m.isSet st then .error (.repeated m.name)
        else
          match m.read st (f.lead ++ (f.value ++ (t ++ rest))) with
          | .error e => .error e
          | .ok (st, rest) => r.readMembers fuel false st rest := by
  obtain ⟨t, ht, hmember⟩ := memberName_field hs
  refine ⟨t, ht, fun fuel st rest => ?_⟩
  rw [readMembers, hmember, hname]
  simp only [colon_of_gap hf.gap]
  rfl

theorem readMembers_unnamed (hs : Elements isFirst (f.text :: es) s)
    (hlabel : ∀ rest, ∃ e, text (f.label ++ 0x22 :: rest) = .error e) (fuel : Nat) (st : σ)
    (rest : Bytes) : ∃ e, r.readMembers (fuel + 1) isFirst st (s ++ rest) = .error e := by
  obtain ⟨t, -, hmember⟩ := memberName_field hs
  obtain ⟨e, he⟩ := hlabel (f.gap ++ 0x3A :: (f.lead ++ (f.value ++ (t ++ rest))))
  exact ⟨e, by rw [readMembers, hmember, he]⟩

theorem Reads.readMembers_eq (h : r.Reads st fs st') (hfs : ∀ f ∈ fs, f.IsWritten)
    (hs : Elements isFirst (fs.map Field.text) s) (hfuel : fs.length ≤ fuel) (rest : Bytes) :
    r.readMembers (fuel + 1) isFirst st (s ++ 0x7D :: rest) = .ok (st', rest) := by
  induction h generalizing isFirst s fuel with
  | nil => exact readMembers_none hs fuel _ rest
  | unknown hname hnone hvalue _ ih =>
      obtain ⟨hf, hfs⟩ := List.forall_mem_cons.mp hfs
      obtain ⟨t, ht, hfield⟩ := readMembers_field hs hf hname
      rw [hfield, hnone]
      simp only [skip_of_value hvalue hf.lead (ht.isBounded (Or.inr rfl) rest)]
      cases fuel with
      | zero => exact absurd hfuel (by simp)
      | succ fuel => exact ih hfs ht (Nat.le_of_succ_le_succ hfuel)
  | known hname hm hunset hp _ ih =>
      obtain ⟨hf, hfs⟩ := List.forall_mem_cons.mp hfs
      obtain ⟨t, ht, hfield⟩ := readMembers_field hs hf hname
      rw [hfield, hm]
      simp only [hunset, Bool.false_eq_true, if_false]
      rw [hp _ _ _ hf.lead (ht.isBounded (Or.inr rfl) rest)]
      cases fuel with
      | zero => exact absurd hfuel (by simp)
      | succ fuel => exact ih hfs ht (Nat.le_of_succ_le_succ hfuel)

/-- Where an object is read, its field in front is, and then the others. -/
theorem readMembers_cons (hr : r.Lawful) (hf : f.IsWritten) (hvalue : IsValue f.value)
    (hs : Elements isFirst (f.text :: es) s) {x : σ × Bytes}
    (h : r.readMembers (fuel + 1) isFirst st (s ++ 0x7D :: rest) = .ok x) :
    ∃ t st₁, Elements false es t ∧ r.readMembers fuel false st₁ (t ++ 0x7D :: rest) = .ok x ∧
      ∀ fs st', r.Reads st₁ fs st' → r.Reads st (f :: fs) st' := by
  rcases text_settles hf.label with ⟨n, hname⟩ | hlabel
  · obtain ⟨t, ht, hfield⟩ := readMembers_field (r := r) hs hf hname
    have hbounded := ht.isBounded (Or.inr rfl) rest
    rw [hfield] at h
    cases hm : r.member? n with
    | none =>
        simp only [hm, skip_of_value hvalue hf.lead hbounded] at h
        exact ⟨t, st, ht, h, fun _ _ hfs => .unknown hname hm hvalue hfs⟩
    | some m =>
        simp only [hm] at h
        split at h
        · cases h
        · rename_i hset
          rcases hr.settles (mem_of_member? hm) hvalue with ⟨p, hp⟩ | hrefuses
          · rw [hp st _ _ hf.lead hbounded] at h
            exact ⟨t, p st, ht, h, fun _ _ hfs => .known hname hm (by simpa using hset) hp hfs⟩
          · obtain ⟨e, he⟩ := hrefuses st _ _ hf.lead hbounded
            rw [he] at h
            cases h
  · obtain ⟨e, he⟩ := readMembers_unnamed (r := r) hs hlabel fuel st (0x7D :: rest)
    rw [he] at h
    cases h

/-- Where an object is read, each of its fields is. -/
theorem reads_of_readMembers (hr : r.Lawful) (hfs : ∀ f ∈ fs, f.IsWritten)
    (hvs : ∀ f ∈ fs, IsValue f.value) (hs : Elements isFirst (fs.map Field.text) s)
    (h : r.readMembers fuel isFirst st (s ++ 0x7D :: rest) = .ok (st', rest')) : r.Reads st fs st' := by
  induction fs generalizing isFirst s fuel st with
  | nil =>
      cases fuel with
      | zero => cases h
      | succ fuel =>
          rw [readMembers_none hs] at h
          obtain ⟨rfl, rfl⟩ := Prod.mk.inj (Except.ok.inj h)
          exact .nil
  | cons f fs ih =>
      obtain ⟨hf, hfs⟩ := List.forall_mem_cons.mp hfs
      obtain ⟨hvalue, hvs⟩ := List.forall_mem_cons.mp hvs
      cases fuel with
      | zero => cases h
      | succ fuel =>
          obtain ⟨t, st₁, ht, hrest, hcons⟩ := readMembers_cons hr hf hvalue hs h
          exact hcons fs st' (ih hfs hvs ht hrest)

theorem read_braced (hlead : IsBlanks lead) (s rest : Bytes) : r.read (lead ++ (braced s ++ rest)) = (do
    let (st, rest) ← r.readMembers ((s ++ 0x7D :: rest).length + 1) true r.start (s ++ 0x7D :: rest)
    return (← r.finish st, rest)) := by
  have hbraced : braced s ++ rest = 0x7B :: (s ++ 0x7D :: rest) := by simp [braced]
  rw [read, hbraced, skipBlanks_ahead hlead rfl]
  rfl

theorem Reads.accepts (h : r.Reads r.start fs st) (hfinish : r.finish st = .ok a)
    (hfs : ∀ f ∈ fs, f.IsWritten) (hs : Elements true (fs.map Field.text) s) :
    Accepts r.read (braced s) a := by
  intro lead rest hlead _
  have hlength := hs.length_le (List.forall_mem_map.mpr fun f _ => f.begins_text)
  rw [List.length_map] at hlength
  rw [read_braced hlead, h.readMembers_eq hfs hs]
  · change (r.finish st >>= fun a => pure (a, rest)) = _
    rw [hfinish]
    rfl
  · rw [List.length_append]
    omega

/-- An object is refused, or read to a whole record. -/
theorem braced_settles (hr : r.Lawful) (hfs : ∀ f ∈ fs, f.IsWritten) (hvs : ∀ f ∈ fs, IsValue f.value)
    (hs : Elements true (fs.map Field.text) s) :
    (∃ st a, r.Reads r.start fs st ∧ r.finish st = .ok a) ∨ Refuses r.read (braced s) := by
  by_cases hread : ∃ st a, r.Reads r.start fs st ∧ r.finish st = .ok a
  · exact Or.inl hread
  · refine Or.inr (refuses_of_ne fun lead rest x hlead _ hx => hread ?_)
    rw [read_braced hlead] at hx
    cases hmembers : r.readMembers ((s ++ 0x7D :: rest).length + 1) true r.start (s ++ 0x7D :: rest) with
    | error e =>
        rw [hmembers] at hx
        cases hx
    | ok y =>
        rw [hmembers] at hx
        refine ⟨y.1, ?_⟩
        have hreads := reads_of_readMembers hr hfs hvs hs hmembers
        cases hfinish : r.finish y.1 with
        | error e =>
            change (r.finish y.1 >>= _) = _ at hx
            rw [hfinish] at hx
            cases hx
        | ok a => exact ⟨a, hreads, rfl⟩

/-! ## Reading a list of values -/

theorem readPlaces_settles (hr : r.Lawful) (hms : ∀ m ∈ ms, m ∈ r.members) (hes : ∀ e ∈ es, IsValue e)
    (hs : Elements isFirst es s) (hk : decide (k = 0) = isFirst) (st : σ) :
    (∃ st' isFirst' es' s', Elements isFirst' es' s' ∧ (∀ e ∈ es', IsValue e) ∧
      ∀ rest, r.readPlaces ms k st (s ++ 0x5D :: rest) = .ok (st', s' ++ 0x5D :: rest)) ∨
    ∀ rest, ∃ e, r.readPlaces ms k st (s ++ 0x5D :: rest) = .error e := by
  induction ms generalizing k es s st isFirst with
  | nil => exact Or.inl ⟨st, isFirst, es, s, hs, hes, fun _ => rfl⟩
  | cons m ms ih =>
      obtain ⟨hm, hms⟩ := List.forall_mem_cons.mp hms
      cases es with
      | nil =>
          have hend (rest : Bytes) : r.readPlaces (m :: ms) k st (s ++ 0x5D :: rest) =
              if m.mayLack then r.readPlaces ms k st (s ++ 0x5D :: rest)
              else .error (.tooShort k r.asList) := by
            rw [readPlaces, hk, listSeparator, separator_none hs.isBlanks (Or.inl rfl)]
          simp only [hend]
          split
          · exact ih hms hes hs hk st
          · exact Or.inr fun _ => ⟨_, rfl⟩
      | cons e es =>
          obtain ⟨he, hes⟩ := List.forall_mem_cons.mp hes
          obtain ⟨t, ht, hsep⟩ := separator_cons hs he.begins (Or.inl rfl)
          rcases hr.settles hm he with ⟨p, hp⟩ | hrefuses
          · have hnext (rest : Bytes) : r.readPlaces (m :: ms) k st (s ++ 0x5D :: rest) =
                r.readPlaces ms (k + 1) (p st) (t ++ 0x5D :: rest) := by
              rw [readPlaces, hk, listSeparator, hsep]
              simp only [(hp st).read_eq (ht.isBounded (Or.inl rfl) rest)]
            simp only [hnext]
            exact ih hms hes ht (by simp) (p st)
          · refine Or.inr fun rest => ?_
            obtain ⟨f, hf⟩ := hrefuses st [] _ isBlanks_nil (ht.isBounded (Or.inl rfl) rest)
            rw [List.nil_append] at hf
            refine ⟨f, ?_⟩
            rw [readPlaces, hk, listSeparator, hsep]
            simp only [hf]

theorem endList_settles (hs : Elements isFirst es s) (hes : ∀ e ∈ es, IsValue e) :
    (∀ rest, endList (s ++ 0x5D :: rest) = .ok rest) ∨
      ∀ rest, ∃ e, endList (s ++ 0x5D :: rest) = .error e := by
  cases hs with
  | none hw =>
      refine Or.inl fun rest => ?_
      rw [endList, skipBlanks_ahead hw rfl]
      rfl
  | first hw ht =>
      refine Or.inr fun rest => ?_
      obtain ⟨b, r, rfl, hb, hne, -⟩ := (hes _ (List.mem_cons_self ..)).begins
      rw [List.append_assoc, endList, List.cons_append, List.cons_append, skipBlanks_ahead hw hb]
      split
      · exact ⟨_, rfl⟩
      · next heq => exact absurd (List.cons.inj heq).1 hne
      · split <;> exact ⟨_, rfl⟩
      · exact ⟨_, rfl⟩
  | next hw =>
      refine Or.inr fun rest => ?_
      rw [List.append_assoc, endList, List.cons_append, skipBlanks_ahead hw rfl]
      simp only
      split <;> exact ⟨_, rfl⟩

theorem read_listed (hlead : IsBlanks lead) (s rest : Bytes) : r.read (lead ++ (listed s ++ rest)) = (do
    let (st, rest) ← r.readPlaces r.members 0 r.start (s ++ 0x5D :: rest)
    let a ← r.finish st
    return (a, ← endList rest)) := by
  have hlisted : listed s ++ rest = 0x5B :: (s ++ 0x5D :: rest) := by simp [listed]
  rw [read, hlisted, skipBlanks_ahead hlead rfl]
  rfl

theorem listed_settles (hr : r.Lawful) (hes : ∀ e ∈ es, IsValue e) (hs : Elements true es s) :
    Settles r.read (listed s) := by
  rcases readPlaces_settles (k := 0) hr (fun _ => id) hes hs rfl r.start with
    ⟨st, isFirst, es', s', hs', hes', hplaces⟩ | hplaces
  · cases hfinish : r.finish st with
    | error e =>
        refine Or.inr fun lead rest hlead _ => ⟨e, ?_⟩
        rw [read_listed hlead, hplaces]
        change (r.finish st >>= _) = _
        rw [hfinish]
        rfl
    | ok a =>
        have hread {lead : Bytes} (hlead : IsBlanks lead) (rest : Bytes) :
            r.read (lead ++ (listed s ++ rest)) = (endList (s' ++ 0x5D :: rest)).map (a, ·) := by
          rw [read_listed hlead, hplaces]
          change (r.finish st >>= _) = _
          rw [hfinish]
          change (endList (s' ++ 0x5D :: rest) >>= _) = _
          cases endList (s' ++ 0x5D :: rest) <;> rfl
        rcases endList_settles hs' hes' with hend | hend
        · refine Or.inl ⟨a, fun lead rest hlead _ => ?_⟩
          rw [hread hlead, hend]
          rfl
        · refine Or.inr fun lead rest hlead _ => ?_
          obtain ⟨e, he⟩ := hend rest
          exact ⟨e, by rw [hread hlead, he]; rfl⟩
  · refine Or.inr fun lead rest hlead _ => ?_
    obtain ⟨e, he⟩ := hplaces rest
    refine ⟨e, ?_⟩
    rw [read_listed hlead, he]
    rfl

/-- A record is read or refused, whatever the value is. -/
theorem Lawful.decides (hr : r.Lawful) : Decides r.read := by
  intro w hw
  obtain ⟨b, s, rfl, hb⟩ := hw.dispatch
  by_cases hobject : b = 0x7B
  · obtain ⟨fs, s, rfl, hfs, hvs, hs⟩ := hb.object hobject
    obtain rfl := hobject
    refine (braced_settles hr hfs hvs hs).imp (fun ⟨st, a, hreads, hfinish⟩ => ⟨a, ?_⟩) id
    exact hreads.accepts hfinish hfs hs
  by_cases hlist : b = 0x5B
  · obtain ⟨es, s, rfl, hes, hs⟩ := hb.list hlist
    obtain rfl := hlist
    exact listed_settles hr hes hs
  · refine Or.inr fun lead rest hlead _ => ?_
    rw [read, List.cons_append, skipBlanks_ahead hlead hb.notBlank]
    split
    · next heq => exact absurd (List.cons.inj heq).1 hobject
    · next heq => exact absurd (List.cons.inj heq).1 hlist
    · exact mismatch_eq_error _ _

/-! ## The order of the fields -/

/-- The fields may come in any order. -/
theorem Reads.perm (hr : r.Lawful) (h : r.Reads st fs st') (hperm : fs.Perm gs) : r.Reads st gs st' := by
  induction hperm generalizing st with
  | nil => exact h
  | cons f _ ih =>
      cases h with
      | unknown hname hnone hvalue hfs => exact .unknown hname hnone hvalue (ih hfs)
      | known hname hm hunset hp hfs => exact .known hname hm hunset hp (ih hfs)
  | trans _ _ ih ih' => exact ih' (ih h)
  | swap f g =>
      cases h with
      | unknown hname hnone hvalue hfs =>
          cases hfs with
          | unknown hname' hnone' hvalue' hfs =>
              exact .unknown hname' hnone' hvalue' (.unknown hname hnone hvalue hfs)
          | known hname' hm' hunset' hp' hfs =>
              exact .known hname' hm' hunset' hp' (.unknown hname hnone hvalue hfs)
      | @known _ _ _ _ _ m p hname hm hunset hp hfs =>
          cases hfs with
          | unknown hname' hnone' hvalue' hfs =>
              exact .unknown hname' hnone' hvalue' (.known hname hm hunset hp hfs)
          | @known _ _ _ _ _ m' p' hname' hm' hunset' hp' hfs =>
              -- The second is not set once the first has been read, so they are two.
              have hmem := mem_of_member? hm
              have hmem' := mem_of_member? hm'
              have hne : m' ≠ m := by
                rintro rfl
                rw [hr.isSet hmem hp] at hunset'
                cases hunset'
              rw [hr.frame hmem hmem' hne hp] at hunset'
              rw [hr.comm hmem hmem' hne hp hp'] at hfs
              refine .known hname' hm' hunset' hp' (.known hname hm ?_ hp hfs)
              rw [hr.frame hmem' hmem hne.symm hp', hunset]

/-! ## What the fields tell -/

theorem reads_unknown (hfs : ∀ f ∈ fs, ∃ n, f.Names n ∧ r.member? n = none ∧ IsValue f.value) (st : σ) :
    r.Reads st fs st := by
  induction fs with
  | nil => exact .nil
  | cons f fs ih =>
      obtain ⟨⟨n, hname, hnone, hvalue⟩, hfs⟩ := List.forall_mem_cons.mp hfs
      exact .unknown hname hnone hvalue (ih hfs)

theorem Reads.append {st₁ : σ} (h : r.Reads st fs st₁) (h' : r.Reads st₁ gs st') :
    r.Reads st (fs ++ gs) st' := by
  induction h with
  | nil => exact h'
  | unknown hname hnone hvalue _ ih => exact .unknown hname hnone hvalue (ih h')
  | known hname hm hunset hp _ ih => exact .known hname hm hunset hp (ih h')

/-- Of all fields, one has the member where it gets set, and none where it does not. -/
theorem Reads.countP_names (hr : r.Lawful) (h : r.Reads st fs st') {ns : List String}
    (hns : List.Forall₂ Field.Names fs ns) (hm : m ∈ r.members) :
    ns.countP (m.names.contains ·) + (m.isSet st).toNat = (m.isSet st').toNat := by
  induction h generalizing ns with
  | nil =>
      cases hns
      simp
  | @unknown _ _ _ _ n hname hnone _ _ ih =>
      cases hns with
      | cons hf hns =>
          obtain rfl := hname.unique hf
          have hn : ¬ m.names.contains n = true := fun h => by
            rw [(hr.contains_iff hm).mp h] at hnone
            cases hnone
          rw [List.countP_cons_of_neg hn, ih hns]
  | @known st _ _ _ n m' p hname hm' hunset hp _ ih =>
      cases hns with
      | cons hf hns =>
          obtain rfl := hname.unique hf
          have hsum := ih hns
          by_cases hne : m = m'
          · subst hne
            rw [hr.isSet hm hp] at hsum
            rw [List.countP_cons_of_pos ((hr.contains_iff hm).mpr hm'), hunset, ← hsum]
            rfl
          · have hn : ¬ m.names.contains n = true := fun h =>
              hne (Option.some.inj (((hr.contains_iff hm).mp h).symm.trans hm'))
            rw [hr.frame (mem_of_member? hm') hm hne hp] at hsum
            rw [List.countP_cons_of_neg hn, hsum]

/-- The value of a field that is read is one that its member takes. -/
theorem Reads.exists_puts (h : r.Reads st fs st') (hf : f ∈ fs) (hname : f.Names n)
    (hm : r.member? n = some m) : ∃ p, m.Puts f.value p := by
  induction h with
  | nil => cases hf
  | unknown hname' hnone _ _ ih =>
      rcases List.mem_cons.mp hf with rfl | hf
      · rw [hname.unique hname', hnone] at hm
        cases hm
      · exact ih hf
  | known hname' hm' _ hp _ ih =>
      rcases List.mem_cons.mp hf with rfl | hf
      · rw [hname.unique hname', hm'] at hm
        obtain rfl := Option.some.inj hm
        exact ⟨_, hp⟩
      · exact ih hf

/-! ## Objects with named members -/

variable {ms : List (String × Field)}

theorem forall₂_names (hms : ∀ m ∈ ms, m.2.IsMember m.1) :
    List.Forall₂ Field.Names (ms.map Prod.snd) (ms.map Prod.fst) := by
  induction ms with
  | nil => exact .nil
  | cons m ms ih =>
      obtain ⟨hm, hms⟩ := List.forall_mem_cons.mp hms
      exact .cons hm.names (ih hms)

/-- An object is read as its known members say, whatever others there are and whatever the order. -/
theorem Reads.accepts_object (hr : r.Lawful) {known extras : List (String × Field)}
    (h : r.Reads r.start (known.map Prod.snd) st) (hfinish : r.finish st = .ok a) (hw : IsObject ms w)
    (hperm : ms.Perm (known ++ extras)) (hextras : ∀ x ∈ extras, ∀ m ∈ r.members, x.1 ∉ m.names) :
    Accepts r.read w a := by
  have hms := hw.1
  obtain ⟨s, rfl, hfs, -, hs⟩ := hw.fields
  have hunknown : r.Reads st (extras.map Prod.snd) st := by
    refine reads_unknown (List.forall_mem_map.mpr fun x hx => ?_) st
    have hmember := hms x (hperm.mem_iff.mpr (List.mem_append_right _ hx))
    exact ⟨x.1, hmember.names, member?_eq_none (hextras x hx), hmember.value⟩
  have hreads := h.append hunknown
  rw [← List.map_append] at hreads
  have hall : r.Reads r.start (ms.map Prod.snd) st := hreads.perm hr (hperm.map Prod.snd).symm
  exact hall.accepts hfinish hfs hs

/-- Where an object is read, each declared member is there once if it gets set, and else not at all. -/
theorem object_settles (hr : r.Lawful) (hw : IsObject ms w) :
    (∃ st a, r.Reads r.start (ms.map Prod.snd) st ∧ r.finish st = .ok a ∧
      ∀ m ∈ r.members, (ms.map Prod.fst).countP (m.names.contains ·) + (m.isSet r.start).toNat =
        (m.isSet st).toNat) ∨ Refuses r.read w := by
  have hnames := forall₂_names hw.1
  obtain ⟨s, rfl, hfs, hvs, hs⟩ := hw.fields
  rcases braced_settles hr hfs hvs hs with ⟨st, a, hreads, hfinish⟩ | hrefuses
  · exact Or.inl ⟨st, a, hreads, hfinish, fun m hm => hreads.countP_names hr hnames hm⟩
  · exact Or.inr hrefuses

/-! ## Records with two members -/

/-- Two members with places of their own make a lawful record. -/
theorem lawful_pair {β β' : Type} {read : Read β} {read' : Read β'} {put : σ → β → σ}
    {put' : σ → β' → σ} (hmembers : r.members = [m, m']) (hnames : ∀ n ∈ m'.names, n ∉ m.names)
    (hm : m.IsSlot read put) (hm' : m'.IsSlot read' put') (hread : Decides read) (hread' : Decides read')
    (hset : ∀ st b, m.isSet (put st b) = true) (hset' : ∀ st b, m'.isSet (put' st b) = true)
    (hframe : ∀ st b, m'.isSet (put st b) = m'.isSet st)
    (hframe' : ∀ st b, m.isSet (put' st b) = m.isSet st)
    (hcomm : ∀ st b b', put' (put st b) b' = put (put' st b') b) : r.Lawful := by
  have hcases {x : Member σ} (hx : x ∈ r.members) : x = m ∨ x = m' := by simpa [hmembers] using hx
  refine ⟨fun {x n} hx hn => ?_, fun hx hw => ?_, fun {_ _ _ st} hx hp => ?_,
    fun {_ _ _ _ st} hx hy hne hp => ?_, fun {_ _ _ _ _ _ st} hx hy hne hp hp' => ?_⟩
  · rw [member?, hmembers]
    rcases hcases hx with rfl | rfl
    · exact List.find?_cons_of_pos (by simpa using hn)
    · rw [List.find?_cons_of_neg (by simpa using hnames n hn)]
      exact List.find?_cons_of_pos (by simpa using hn)
  · rcases hcases hx with rfl | rfl
    · exact hm.settles (hread _ hw)
    · exact hm'.settles (hread' _ hw)
  · rcases hcases hx with rfl | rfl
    · obtain ⟨b, rfl⟩ := hm.eq_put hp st
      exact hset st b
    · obtain ⟨b, rfl⟩ := hm'.eq_put hp st
      exact hset' st b
  · rcases hcases hx with rfl | rfl <;> rcases hcases hy with rfl | rfl
    · exact absurd rfl hne
    · obtain ⟨b, rfl⟩ := hm.eq_put hp st
      exact hframe st b
    · obtain ⟨b, rfl⟩ := hm'.eq_put hp st
      exact hframe' st b
    · exact absurd rfl hne
  · rcases hcases hx with rfl | rfl <;> rcases hcases hy with rfl | rfl
    · exact absurd rfl hne
    · obtain ⟨b, rfl⟩ := hm.eq_put hp st
      obtain ⟨b', rfl⟩ := hm'.eq_put hp' st
      exact hcomm st b b'
    · obtain ⟨b, rfl⟩ := hm'.eq_put hp st
      obtain ⟨b', rfl⟩ := hm.eq_put hp' st
      exact (hcomm st b' b).symm
    · exact absurd rfl hne

end Record
end Intake.Json
