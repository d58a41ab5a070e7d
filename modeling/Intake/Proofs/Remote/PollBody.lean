import Intake.Proofs.Json.Record
import Intake.Remote.PollBody
import Mathlib.Data.List.Forall2

/-!
# What a poll body says

However a body is written, it is read as what it says. A body that repeats a member, or that has a product
without exactly one kind and one place, says nothing.
-/

namespace Intake.Remote

open Json

theorem countP_singleton (n : String) (names : List String) :
    names.countP ([n].contains ·) = names.count n := by
  rw [List.count]
  exact List.countP_congr fun x _ => by simp

/-! ## Products -/

namespace Product

def kindNames : List String := ["metadataType", "type"]

/-- The value says what was made, and where. -/
inductive Renders (p : Product) (w : Bytes) : Prop
  | mk {ms extras : List (String × Field)} {n : String} {kind place : Field} (hw : IsObject ms w)
      (hms : ms.Perm ((n, kind) :: ("location", place) :: extras)) (hn : n ∈ kindNames)
      (hkind : IsText p.kind kind.value) (hplace : IsText p.location place.value)
      (hextras : ∀ x ∈ extras, x.1 ∉ "location" :: kindNames)

/-- Members with these names do not name a kind and a place once each. -/
def IsSpoilt (names : List String) : Prop :=
  names.countP (kindNames.contains ·) ≠ 1 ∨ names.count "location" ≠ 1

def kindMember : Member Draft := record.members.get ⟨0, by decide⟩

def placeMember : Member Draft := record.members.get ⟨1, by decide⟩

theorem kindMember_isSlot : kindMember.IsSlot textValue fun d t => { d with kind := some t } :=
  fun _ _ => rfl

theorem placeMember_isSlot : placeMember.IsSlot textValue fun d t => { d with location := some t } :=
  fun _ _ => rfl

theorem record_lawful : record.Lawful :=
  Record.lawful_pair rfl (by decide) kindMember_isSlot placeMember_isSlot decides_textValue
    decides_textValue (fun _ _ => rfl) (fun _ _ => rfl) (fun _ _ => rfl) (fun _ _ => rfl)
    fun _ _ _ => rfl

section

variable {p : Product} {w : Bytes} {ms : List (String × Field)}

theorem kindMember_mem : kindMember ∈ record.members := List.get_mem ..

theorem placeMember_mem : placeMember ∈ record.members := List.get_mem ..

theorem names_of_mem {m : Member Draft} (h : m ∈ record.members) :
    m.names = kindNames ∨ m.names = ["location"] := by
  rcases List.mem_cons.mp h with rfl | h
  · exact Or.inl rfl
  · obtain rfl := List.mem_singleton.mp h
    exact Or.inr rfl

theorem Renders.accepts (h : p.Renders w) : Accepts record.read w p := by
  obtain @⟨ms, extras, n, kind, place, hw, hms, hn, ⟨s, hvalue, hs⟩, ⟨s', hvalue', hs'⟩, hextras⟩ := h
  have hkind : kind.Names n := (hw.1 (n, kind) (hms.mem_iff.mpr (by simp))).names
  have hplace : place.Names "location" :=
    (hw.1 ("location", place) (hms.mem_iff.mpr (by simp))).names
  have hp := kindMember_isSlot.puts (accepts_textValue hs)
  have hp' := placeMember_isSlot.puts (accepts_textValue hs')
  rw [← hvalue] at hp
  rw [← hvalue'] at hp'
  have hreads : record.Reads {} ([(n, kind), ("location", place)].map Prod.snd)
      ⟨some p.kind, some p.location⟩ :=
    .known hkind (record_lawful.named kindMember_mem hn) rfl hp
      (.known hplace (record_lawful.named placeMember_mem (by decide)) rfl hp' .nil)
  refine hreads.accepts_object record_lawful rfl hw hms fun x hx m hm => ?_
  have := hextras x hx
  rcases names_of_mem hm with h | h <;> simp_all

theorem IsSpoilt.refuses (h : IsSpoilt (ms.map Prod.fst)) (hw : IsObject ms w) :
    Refuses record.read w := by
  refine (Record.object_settles record_lawful hw).resolve_left ?_
  rintro ⟨d, p, -, hfinish, hcount⟩
  have hkinds := hcount kindMember kindMember_mem
  have hplaces := hcount placeMember placeMember_mem
  obtain ⟨kind, place⟩ := d
  cases kind with
  | none => cases hfinish
  | some k =>
      cases place with
      | none => cases hfinish
      | some l =>
          -- Both members are set in the end and neither was at the start.
          change _ + 0 = 1 at hkinds
          change (ms.map Prod.fst).countP (["location"].contains ·) + 0 = 1 at hplaces
          rw [countP_singleton] at hplaces
          exact h.elim (fun h => h hkinds) fun h => h hplaces

end

end Product

/-! ## Bodies -/

namespace PollBody

def stateName : String := "transformationStatus"

/-- The value says in which state a job is, and what it has made; where it has made nothing, that need
not be said. -/
inductive Renders (state : String) (ps : List Product) (w : Bytes) : Prop
  | bare {ms extras : List (String × Field)} {status : Field} (hw : IsObject ms w) (hps : ps = [])
      (hms : ms.Perm ((stateName, status) :: extras)) (hstatus : IsText state status.value)
      (hextras : ∀ x ∈ extras, x.1 ∉ [stateName, "metadata"])
  | full {ms extras : List (String × Field)} {status metadata : Field} {es : List Bytes}
      (hw : IsObject ms w)
      (hms : ms.Perm ((stateName, status) :: ("metadata", metadata) :: extras))
      (hstatus : IsText state status.value) (hmetadata : IsList es metadata.value)
      (hes : List.Forall₂ Product.Renders ps es)
      (hextras : ∀ x ∈ extras, x.1 ∉ [stateName, "metadata"])

/-- An object that repeats a member, or that has a spoilt product. -/
inductive IsSpoilt (w : Bytes) : Prop
  | twice {ms : List (String × Field)} {n : String} (hw : IsObject ms w)
      (hn : n ∈ [stateName, "metadata"]) (hcount : 2 ≤ (ms.map Prod.fst).count n)
  | product {ms ms' : List (String × Field)} {metadata : Field} {es : List Bytes} {e : Bytes}
      (hw : IsObject ms w) (hm : ("metadata", metadata) ∈ ms) (hes : IsList es metadata.value)
      (he : e ∈ es) (hobject : IsObject ms' e) (hspoilt : Product.IsSpoilt (ms'.map Prod.fst))

/-- The words for the state of a job, with what they come to. -/
def reports (ps : List Product) : List (String × Progress) :=
  [("DONE", .done ps), ("FAILED", .failed ps), ("IN_PROGRESS", .inProgress)]

def stateMember : Member Draft := record.members.get ⟨0, by decide⟩

def productsMember : Member Draft := record.members.get ⟨1, by decide⟩

theorem stateMember_isSlot :
    stateMember.IsSlot (nullable textValue) fun d t => { d with state := some t } := fun _ _ => rfl

theorem productsMember_isSlot :
    productsMember.IsSlot (listOf Product.record.read) fun d ps => { d with products := some ps } :=
  fun _ _ => rfl

theorem decides_products : Decides (listOf Product.record.read) := Product.record_lawful.decides.listOf

theorem record_lawful : record.Lawful :=
  Record.lawful_pair rfl (by decide) stateMember_isSlot productsMember_isSlot decides_textValue.nullable
    decides_products (fun _ _ => rfl) (fun _ _ => rfl) (fun _ _ => rfl) (fun _ _ => rfl)
    fun _ _ _ => rfl

section

variable {state : String} {ps : List Product} {progress : Progress} {w : Bytes}

theorem stateMember_mem : stateMember ∈ record.members := List.get_mem ..

theorem productsMember_mem : productsMember ∈ record.members := List.get_mem ..

theorem names_of_mem {m : Member Draft} (h : m ∈ record.members) :
    m.names = [stateName] ∨ m.names = ["metadata"] := by
  rcases List.mem_cons.mp h with rfl | h
  · exact Or.inl rfl
  · obtain rfl := List.mem_singleton.mp h
    exact Or.inr rfl

theorem stateMember_puts (h : IsText state w) :
    stateMember.Puts w fun d => { d with state := some (some state) } := by
  obtain ⟨s, rfl, hs⟩ := h
  exact stateMember_isSlot.puts (accepts_nullable rfl (by decide) (accepts_textValue hs))

theorem productsMember_puts {es : List Bytes} (h : IsList es w)
    (hes : List.Forall₂ Product.Renders ps es) :
    productsMember.Puts w fun d => { d with products := some ps } := by
  obtain ⟨hvalues, s, rfl, hs⟩ := h
  refine productsMember_isSlot.puts (accepts_listOf ?_ (fun e he => (hvalues e he).begins) hs)
  exact (hes.imp fun _ _ => Product.Renders.accepts).flip

theorem Renders.accepts (h : Renders state ps w) : Accepts record.read w ⟨some state, ps⟩ := by
  have hunknown {extras : List (String × Field)}
      (hextras : ∀ x ∈ extras, x.1 ∉ [stateName, "metadata"]) :
      ∀ x ∈ extras, ∀ m ∈ record.members, x.1 ∉ m.names := by
    intro x hx m hm
    have := hextras x hx
    rcases names_of_mem hm with h | h <;> simp_all
  cases h with
  | @bare ms extras status hw hps hms hstatus hextras =>
      subst hps
      have hname : status.Names stateName :=
        (hw.1 (stateName, status) (hms.mem_iff.mpr (by simp))).names
      have hreads : record.Reads {} ([(stateName, status)].map Prod.snd) ⟨some (some state), none⟩ :=
        .known hname (record_lawful.named stateMember_mem (by decide)) rfl (stateMember_puts hstatus) .nil
      exact hreads.accepts_object record_lawful rfl hw hms (hunknown hextras)
  | @full ms extras status metadata es hw hms hstatus hmetadata hes hextras =>
      have hname : status.Names stateName :=
        (hw.1 (stateName, status) (hms.mem_iff.mpr (by simp))).names
      have hname' : metadata.Names "metadata" :=
        (hw.1 ("metadata", metadata) (hms.mem_iff.mpr (by simp))).names
      have hreads : record.Reads {} ([(stateName, status), ("metadata", metadata)].map Prod.snd)
          ⟨some (some state), some ps⟩ :=
        .known hname (record_lawful.named stateMember_mem (by decide)) rfl (stateMember_puts hstatus)
          (.known hname' (record_lawful.named productsMember_mem (by decide)) rfl
            (productsMember_puts hmetadata hes) .nil)
      exact hreads.accepts_object record_lawful rfl hw hms (hunknown hextras)

theorem Renders.exists_isObject (h : Renders state ps w) : ∃ ms, IsObject ms w := by
  cases h with
  | bare hw => exact ⟨_, hw⟩
  | full hw => exact ⟨_, hw⟩

theorem progress_of_reports (h : (state, progress) ∈ reports ps) :
    PollBody.progress ⟨some state, ps⟩ = progress := by
  simp only [reports, List.mem_cons, Prod.mk.injEq, List.not_mem_nil, or_false] at h
  rcases h with ⟨rfl, rfl⟩ | ⟨rfl, rfl⟩ | ⟨rfl, rfl⟩ <;> rfl

theorem IsSpoilt.refuses (h : IsSpoilt w) : Refuses record.read w := by
  cases h with
  | @twice ms n hw hn hcount =>
      refine (Record.object_settles record_lawful hw).resolve_left ?_
      rintro ⟨d, b, -, -, hcounts⟩
      have hone {m : Member Draft} (hm : m ∈ record.members) :
          (ms.map Prod.fst).countP (m.names.contains ·) ≤ 1 := by
        have := hcounts m hm
        have := Bool.toNat_le (m.isSet d)
        omega
      have hstate := hone stateMember_mem
      have hproducts := hone productsMember_mem
      change (ms.map Prod.fst).countP ([stateName].contains ·) ≤ 1 at hstate
      change (ms.map Prod.fst).countP (["metadata"].contains ·) ≤ 1 at hproducts
      rw [countP_singleton] at hstate hproducts
      rcases List.mem_cons.mp hn with rfl | hn
      · exact absurd hcount (Nat.not_le.mpr (Nat.lt_succ_of_le hstate))
      · obtain rfl := List.mem_singleton.mp hn
        exact absurd hcount (Nat.not_le.mpr (Nat.lt_succ_of_le hproducts))
  | @product ms ms' metadata es e hw hm hes he hobject hspoilt =>
      refine (Record.object_settles record_lawful hw).resolve_left ?_
      rintro ⟨d, b, hreads, -, -⟩
      have hmember := hw.1 _ hm
      obtain ⟨p, hp⟩ := hreads.exists_puts (List.mem_map_of_mem hm) hmember.names
        (record_lawful.named (n := "metadata") productsMember_mem (by decide))
      obtain ⟨ps, hps⟩ := productsMember_isSlot.accepts (decides_products _ hmember.value) hp {}
      obtain ⟨hvalues, s, hs, hes⟩ := hes
      rw [hs] at hps
      obtain ⟨qs, hqs⟩ := (listOf_settles Product.record_lawful.decides hvalues hes).resolve_right
        hps.not_refuses
      obtain ⟨q, hq⟩ := accepts_of_mem hqs he
      exact hq.not_refuses (hspoilt.refuses hobject)

end

end PollBody

/-! ## The whole text -/

section

variable {body : String} {lead s rest : Bytes}

/-- A text that has a brace is not blank. -/
theorem isAllBlank_of_braced (h : Bytes.ofString body = lead ++ (braced s ++ rest))
    (hlead : IsBlanks lead) : Text.isAllBlank body = false := by
  have hbrace : some '\x7b' ∈ Text.Utf8.marks none (lead ++ (braced s ++ rest)) := by
    clear h
    induction lead with
    | nil =>
        rw [List.nil_append, braced, List.cons_append,
          Text.Utf8.marks_of_char (show Text.Utf8.lead 0x7B = .char '\x7b' from rfl)]
        exact List.mem_cons_self ..
    | cons b lead ih =>
        obtain ⟨hb, hlead⟩ := List.forall_mem_cons.mp hlead
        rw [List.cons_append, Text.Utf8.marks_of_char (c := Char.ofNat b.toNat)]
        · exact List.mem_cons_of_mem _ (ih hlead)
        · rcases hb with rfl | rfl | rfl | rfl <;> rfl
  rw [← h, Bytes.ofString_eq, Text.Utf8.marks_flatMap_utf8EncodeChar] at hbrace
  obtain ⟨c, hc, hbrace⟩ := List.mem_map.mp hbrace
  obtain rfl := Option.some.inj hbrace
  exact List.all_eq_false.mpr ⟨_, hc, by decide⟩

end

/-- A body is read as what it says, and one that is spoilt is a reason to ask again. -/
theorem interpret_written (body : String) :
    (∀ ps state progress, (state, progress) ∈ PollBody.reports ps →
      IsDocument (PollBody.Renders state ps) (Bytes.ofString body) → interpret body = progress) ∧
    (IsDocument PollBody.IsSpoilt (Bytes.ofString body) →
      ∃ reason, interpret body = .transient reason) := by
  constructor
  · rintro ps state progress hstate ⟨lead, w, rest, hlead, hw, hrest, hbody⟩
    obtain ⟨ms, -, s, rfl, -⟩ := hw.exists_isObject
    rw [interpret, isAllBlank_of_braced hbody hlead, hbody, decode_of_accepts hw.accepts hlead hrest]
    exact PollBody.progress_of_reports hstate
  · rintro ⟨lead, w, rest, hlead, hw, hrest, hbody⟩
    obtain ⟨e, he⟩ := decode_of_refuses hw.refuses hlead hrest
    rw [interpret, hbody, he]
    split
    · exact ⟨_, rfl⟩
    · exact ⟨_, rfl⟩

/-! ## A body and a spoilt one -/

/-- A member written without escapes or blanks. -/
def plainField (n : String) (value : Bytes) : Field := ⟨Bytes.ofString n, [], [], value⟩

/-- The rest of an object, with a blank after each comma and one at the end. -/
def spaced : List Field → Bytes
  | [] => [0x20]
  | f :: fs => 0x2C :: 0x20 :: (f.text ++ spaced fs)

def objectOf (f : Field) (fs : List Field) : Bytes := braced (f.text ++ spaced fs)

section

variable {n : String} {e value : Bytes} {f : Field} {ms : List (String × Field)}

theorem plainField_isMember (hn : ∀ x ∈ n.toList, 0x20 ≤ x.toNat ∧ x ≠ '"' ∧ x ≠ '\\')
    (hvalue : IsValue value) : (plainField n value).IsMember n :=
  ⟨spells_ofString hn, isBlanks_nil, isBlanks_nil, hvalue⟩

theorem isObject_objectOf (hms : ∀ m ∈ (n, f) :: ms, m.2.IsMember m.1) :
    IsObject ((n, f) :: ms) (objectOf f (ms.map Prod.snd)) := by
  have hblank : IsBlanks [0x20] := by simp [IsBlanks]
  have hrest (ms : List (String × Field)) :
      Elements false (ms.map (·.2.text)) (spaced (ms.map Prod.snd)) := by
    induction ms with
    | nil => exact .none hblank
    | cons m ms ih => exact .next isBlanks_nil hblank ih
  exact ⟨hms, _, rfl, .first isBlanks_nil (hrest ms)⟩

theorem isList_listed (he : IsValue e) : IsList [e] (listed e) := by
  refine ⟨by simpa using he, e, rfl, ?_⟩
  have := Elements.first (e := e) isBlanks_nil (.none isBlanks_nil)
  simpa using this

end

/-- The place é/ with both its characters escaped. -/
def somePlace : Field := plainField "location" (quoted [0x5C, 0x75, 0x30, 0x30, 0x65, 0x39, 0x5C, 0x2F])

def someKind : Field := plainField "type" (quoted (Bytes.ofString "ddms"))

def otherKind : Field := plainField "metadataType" (quoted (Bytes.ofString "ddms"))

def someStatus : Field := plainField "transformationStatus" (quoted (Bytes.ofString "DONE"))

/-- A member with a name that nobody knows. -/
def someNote : Field :=
  plainField "x" (listed (objectOf (plainField "y" [0x2D, 0x31, 0x2E, 0x35, 0x65, 0x33]) []))

/-- One product at some place, with these names of its kind. -/
def someMetadata (kinds : List Field) : Field := plainField "metadata" (listed (objectOf somePlace kinds))

theorem somePlace_isText : IsText "é/" somePlace.value :=
  ⟨_, rfl, .code (.mk (.decimal (n := 0) (by decide)) (.decimal (n := 0) (by decide))
    (.lower (n := 4) (by decide)) (.decimal (n := 9) (by decide))) (.short (by decide) .nil)⟩

theorem ddms_isText : IsText "ddms" (quoted (Bytes.ofString "ddms")) :=
  ⟨_, rfl, spells_ofString (by simp)⟩

theorem done_isText : IsText "DONE" someStatus.value := ⟨_, rfl, spells_ofString (by simp)⟩

theorem someNote_isMember : someNote.IsMember "x" := by
  have hnumber : IsNumber ([0x2D] ++ ([0x31] ++ ([0x2E, 0x35] ++ [0x65, 0x33]))) :=
    .mk (Or.inr rfl) (.digits (by decide) (by simp [IsDigits])) (.some (by simp [IsDigits]))
      (.some (Or.inl rfl) (Or.inl rfl) (by simp [IsDigits]))
  have hobject := isObject_objectOf (n := "y") (List.forall_mem_singleton.mpr
    (plainField_isMember (n := "y") (by simp) (.number hnumber)))
  have hlist := isList_listed hobject.isValue
  exact plainField_isMember (by simp) hlist.isValue

theorem someKind_isMember : someKind.IsMember "type" :=
  plainField_isMember (by simp) ddms_isText.isValue

theorem otherKind_isMember : otherKind.IsMember "metadataType" :=
  plainField_isMember (by simp) ddms_isText.isValue

theorem someStatus_isMember : someStatus.IsMember PollBody.stateName :=
  plainField_isMember (by simp) done_isText.isValue

theorem someProduct_isObject {ms : List (String × Field)} (hms : ∀ m ∈ ms, m.2.IsMember m.1) :
    IsObject (("location", somePlace) :: ms) (objectOf somePlace (ms.map Prod.snd)) :=
  isObject_objectOf (List.forall_mem_cons.mpr
    ⟨plainField_isMember (by simp) somePlace_isText.isValue, hms⟩)

theorem someMetadata_isList {ms : List (String × Field)} (hms : ∀ m ∈ ms, m.2.IsMember m.1) :
    IsList [objectOf somePlace (ms.map Prod.snd)] (someMetadata (ms.map Prod.snd)).value :=
  isList_listed (someProduct_isObject hms).isValue

theorem someBody_isObject {ms : List (String × Field)} (hms : ∀ m ∈ ms, m.2.IsMember m.1) :
    IsObject [("x", someNote), ("metadata", someMetadata (ms.map Prod.snd)),
        (PollBody.stateName, someStatus)]
      (objectOf someNote [someMetadata (ms.map Prod.snd), someStatus]) := by
  have hmetadata : (someMetadata (ms.map Prod.snd)).IsMember "metadata" :=
    plainField_isMember (by simp) (someMetadata_isList hms).isValue
  have hmembers : ∀ m ∈ [("x", someNote), ("metadata", someMetadata (ms.map Prod.snd)),
      (PollBody.stateName, someStatus)], m.2.IsMember m.1 := by
    simp only [List.forall_mem_cons]
    exact ⟨someNote_isMember, hmetadata, someStatus_isMember, by simp⟩
  exact isObject_objectOf hmembers

def someBody : String :=
  "\n\x7b\"x\":[\x7b\"y\":-1.5e3 \x7d], \"metadata\":[\x7b\"location\":\"\\u00e9\\/\", " ++
    "\"type\":\"ddms\" \x7d], \"transformationStatus\":\"DONE\" \x7d"

/-- The only product names its kind under both names. -/
def spoiltBody : String :=
  "\x7b\"x\":[\x7b\"y\":-1.5e3 \x7d], \"metadata\":[\x7b\"location\":\"\\u00e9\\/\", " ++
    "\"type\":\"ddms\", \"metadataType\":\"ddms\" \x7d], \"transformationStatus\":\"DONE\" \x7d"

/-- The place may stand in front of the kind. -/
theorem renders_placeFirst {p : Product} {w : Bytes} {n : String} {kind place : Field}
    (hw : IsObject [("location", place), (n, kind)] w) (hn : n ∈ Product.kindNames)
    (hkind : IsText p.kind kind.value) (hplace : IsText p.location place.value) : p.Renders w :=
  .mk hw (.swap ..) hn hkind hplace (by simp)

theorem renders_stateLast {ps : List Product} {w : Bytes} {state : String} {note metadata status : Field}
    {es : List Bytes} (hw : IsObject [("x", note), ("metadata", metadata), (PollBody.stateName, status)] w)
    (hstatus : IsText state status.value) (hmetadata : IsList es metadata.value)
    (hes : List.Forall₂ Product.Renders ps es) : PollBody.Renders state ps w :=
  .full hw (List.reverse_perm [("x", note), ("metadata", metadata), (PollBody.stateName, status)]).symm
    hstatus hmetadata hes
    (List.forall_mem_singleton.mpr (show "x" ∉ [PollBody.stateName, "metadata"] by decide))

theorem someBody_eq : Bytes.ofString someBody =
    [0x0A] ++ (objectOf someNote [someMetadata [someKind], someStatus] ++ []) := by
  rw [Bytes.ofString_eq, objectOf, someNote, someStatus, someMetadata, somePlace, someKind]
  simp only [plainField, objectOf, spaced, Bytes.ofString_eq]
  decide +kernel

theorem spoiltBody_eq : Bytes.ofString spoiltBody =
    [] ++ (objectOf someNote [someMetadata [someKind, otherKind], someStatus] ++ []) := by
  rw [Bytes.ofString_eq, objectOf, someNote, someStatus, someMetadata, somePlace, someKind, otherKind]
  simp only [plainField, objectOf, spaced, Bytes.ofString_eq]
  decide +kernel

theorem someBody_isDocument :
    IsDocument (PollBody.Renders "DONE" [⟨"ddms", "é/"⟩]) (Bytes.ofString someBody) := by
  have hms : ∀ m ∈ [("type", someKind)], m.2.IsMember m.1 :=
    List.forall_mem_singleton.mpr someKind_isMember
  have hobject := someProduct_isObject hms
  have hproduct : Product.Renders ⟨"ddms", "é/"⟩ (objectOf somePlace [someKind]) :=
    renders_placeFirst hobject (by decide) ddms_isText somePlace_isText
  have hlist := someMetadata_isList hms
  have hbody := someBody_isObject hms
  exact ⟨_, _, _, by simp [IsBlanks], renders_stateLast hbody done_isText hlist (.cons hproduct .nil),
    isBlanks_nil, someBody_eq⟩

theorem spoiltBody_isDocument : IsDocument PollBody.IsSpoilt (Bytes.ofString spoiltBody) := by
  have hms : ∀ m ∈ [("type", someKind), ("metadataType", otherKind)], m.2.IsMember m.1 :=
    List.forall_mem_cons.mpr ⟨someKind_isMember, List.forall_mem_singleton.mpr otherKind_isMember⟩
  have hobject := someProduct_isObject hms
  have hlist := someMetadata_isList hms
  have hbody := someBody_isObject hms
  have hspoilt : Product.IsSpoilt ["location", "type", "metadataType"] := Or.inl (by decide)
  refine ⟨_, _, _, isBlanks_nil, ?_, isBlanks_nil, spoiltBody_eq⟩
  exact .product hbody (List.mem_cons_of_mem _ (List.mem_cons_self ..)) hlist (List.mem_cons_self ..)
    hobject hspoilt

theorem interpret_written_someBody :
    interpret someBody = .done [⟨"ddms", "é/"⟩] ∧ ∃ reason, interpret spoiltBody = .transient reason :=
  ⟨(interpret_written someBody).1 _ _ _ (List.mem_cons_self ..) someBody_isDocument,
    (interpret_written spoiltBody).2 spoiltBody_isDocument⟩

end Intake.Remote
