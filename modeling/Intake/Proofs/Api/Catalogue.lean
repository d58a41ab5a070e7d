import Intake.Proofs.Api.Depot
import Intake.Proofs.Api.Headers
import Intake.Proofs.Json.Text
import Mathlib.Data.List.Forall2
import Mathlib.Logic.Function.Basic

/-!
# Datasets as a catalogue

Seen from outside the datasets are a catalogue: who hands one in is told a name that is new, under that
name the file and the metacard are read back as they came, and when the dataset has been removed there is
nothing there.
-/

namespace Intake.Api

open Service (Call Work)
open Artifact (Key Kind)
open Store (Memory)

/-! ## The catalogue -/

structure Entry where
  file : Bytes
  /-- The media type of the file, if it came with one. -/
  mediaType : Option String
  fileName : Option String
  metacard : Bytes
  deriving Repr, DecidableEq

namespace Entry

def ofPieces (f m : Piece) : Entry := ⟨f.content, f.mediaType.map (·.text), f.fileName, m.content⟩

/-- The media type under which the file is handed out: its own, if that can stand in a header. -/
def fileType (e : Entry) : String :=
  match e.mediaType with
  | some t => if t.toList.all isHeaderChar then t else "application/octet-stream"
  | none => "application/octet-stream"

end Entry

structure Catalogue where
  entry : String → Option Entry
  /-- The names that have been told. -/
  names : List String

namespace Catalogue

def empty : Catalogue := ⟨fun _ => none, []⟩

def add (c : Catalogue) (name : String) (e : Entry) : Catalogue :=
  ⟨fun n => if n = name then some e else c.entry n, name :: c.names⟩

def remove (c : Catalogue) (name : String) : Catalogue :=
  { c with entry := fun n => if n = name then none else c.entry n }

end Catalogue

/-- What is asked of a catalogue. -/
inductive Wish
  | post (pieces : List Piece)
  | get (name kind : String)
  | delete (name : String)

/-- The name that a wish is about, if it is about one. -/
def Wish.dataset? : Wish → Option String
  | post _ => none
  | get name _ | delete name => some name

def Wish.isPost : Wish → Bool
  | post _ => true
  | _ => false

/-- The request `r` puts the wish: its path, however it is written, stands for the names in the wish, and
its body, if it is a form, consists of the pieces. -/
inductive Wish.PutBy (uploadLimit : Nat) : Wish → Request → Prop
  | post {target boundary : String} {headers : Http.Headers} {body : Bytes} {ps : List Piece}
      (hroute : Route.ofTarget? target = some .datasets)
      (hboundary : Http.Form.boundary? headers = some boundary) (hsize : body.length ≤ uploadLimit)
      (hform : Http.Form.read boundary body = ⟨ps.map Piece.part, true⟩) :
      PutBy uploadLimit (.post ps) ⟨"POST", target, headers, body⟩
  | get {target rawName rawKind name kind : String} {headers : Http.Headers} {body : Bytes}
      (hroute : Route.ofTarget? target = some (.artifact rawName rawKind))
      (hname : name? rawName = some name) (hkind : name? rawKind = some kind) :
      PutBy uploadLimit (.get name kind) ⟨"GET", target, headers, body⟩
  | delete {target rawName name : String} {headers : Http.Headers} {body : Bytes}
      (hroute : Route.ofTarget? target = some (.dataset rawName))
      (hname : name? rawName = some name) :
      PutBy uploadLimit (.delete name) ⟨"DELETE", target, headers, body⟩

/-- The answer to who has handed in a dataset. -/
def told (name : String) : Answer := .json ⟨201⟩ (.object [("id", .text name)])

def failure (status : Nat) (message : String) : Answer :=
  .json ⟨status⟩ (.object [("error", .text message)])

/-- The answer of a catalogue to a wish, and the catalogue after it. -/
inductive Catalogue.Answers (c : Catalogue) : Wish → Answer → Catalogue → Prop
  | accepted {ps : List Piece} {f m : Piece} {name : String} (h : HandsIn ps f m)
      (hnew : name ∉ c.names) : Answers c (.post ps) (told name) (c.add name (.ofPieces f m))
  | refused {ps : List Piece} {r : Refusal} (h : ∀ f m, ¬ HandsIn ps f m)
      (hr : complaint? ps = some r) : Answers c (.post ps) (failure 400 r.message) c
  | file {name kind : String} {e : Entry} (hkind : Kind.ofText? kind = some .file)
      (he : c.entry name = some e) :
      Answers c (.get name kind) ⟨⟨200⟩, ("content-type", e.fileType) ::
        e.fileName.toList.map fun n => ("content-disposition", disposition n), e.file⟩ c
  | metacard {name kind : String} {e : Entry} (hkind : Kind.ofText? kind = some .metacard)
      (he : c.entry name = some e) :
      Answers c (.get name kind) ⟨⟨200⟩, [("content-type", "application/xml")], e.metacard⟩ c
  | irm {name kind : String} (hkind : Kind.ofText? kind = some .irm) :
      Answers c (.get name kind) (failure 404 (Service.Fault.notFound name .irm).message) c
  | absent {name kind : String} {k : Kind} (hkind : Kind.ofText? kind = some k)
      (he : c.entry name = none) :
      Answers c (.get name kind) (failure 404 (Service.Fault.notFound name k).message) c
  | unknown {name kind : String} (hkind : Kind.ofText? kind = none) :
      Answers c (.get name kind) (failure 400 (Refusal.unknownKind kind).message) c
  | removed {name : String} : Answers c (.delete name) (.bare 204) (c.remove name)

/-- The answers of a catalogue to wishes, one after the other. -/
inductive Catalogue.AnswersAll : Catalogue → List Wish → List Answer → Prop
  | nil {c : Catalogue} : AnswersAll c [] []
  | cons {c c' : Catalogue} {w : Wish} {a : Answer} {ws : List Wish} {as : List Answer}
      (h : c.Answers w a c') (hrest : AnswersAll c' ws as) : AnswersAll c (w :: ws) (a :: as)

/-! ## Requests -/

theorem refuse_eq {r : Refusal} (h : r.status.code < 500) :
    refuse r = .done (failure r.status.code r.message) := by
  rw [refuse, if_neg (Nat.not_le.mpr h)]
  rfl

namespace Depot

variable {o : Outside} {d d' : Depot} {e : Entrance} {r : Request} {w : Wish}

/-- What is answered to who reads under a name. -/
def reading (d : Depot) (name kind : String) : Answer :=
  match Kind.ofText? kind with
  | none => failure 400 (Refusal.unknownKind kind).message
  | some k =>
    match d.read name k with
    | .ok found => offer found
    | .error fault => failure 404 fault.message

/-- What a request that puts a wish comes to. -/
inductive Ends (o : Outside) (d : Depot) : Wish → Answer → Depot → Prop
  | refused {ps : List Piece} {r : Refusal} {d' : Depot} (hr : complaint? ps = some r)
      (hd : d.Leaves o d') : Ends o d (.post ps) (failure 400 r.message) d'
  | accepted {ps : List Piece} {f m : Piece} {line : Poll.Line Unit (String × String)}
      (h : HandsIn ps f m) :
      Ends o d (.post ps) (told (d.next o)) { d.staged o (submission ps f m) with line := line }
  | got {name kind : String} : Ends o d (.get name kind) (d.reading name kind) d
  | cleared {name : String} : Ends o d (.delete name) (.bare 204) (d.clear name)

/-- A form that has come in whole is answered, whatever it hands in. -/
theorem finish_accept {boundary target : String} {headers : Http.Headers} {body : Bytes}
    {ps : List Piece} {k : Nat} (hboundary : Http.Form.boundary? headers = some boundary)
    (hsize : body.length ≤ e.uploadLimit)
    (hform : Http.Form.read boundary body = ⟨ps.map Piece.part, true⟩) (hroom : d.HasRoom (k + 1)) :
    ∃ a d', d.finish o (accept e ⟨"POST", target, headers, body⟩) = some (a, d') ∧
      Ends o d (.post ps) a d' ∧ d'.HasRoom k := by
  have hless : d.HasRoom k := ⟨hroom.1, Nat.le_trans (Nat.le_succ _) hroom.2⟩
  simp only [accept, hboundary, readForm, if_neg (Nat.not_lt.mpr hsize), hform]
  rcases ofForm_cases ps with ⟨r, hr, hstatus, h⟩ | ⟨f, m, hf, hm, h, hsizes⟩
  · simp only [h]
    rw [refuse_eq (by rw [hstatus]; decide), hstatus]
    exact ⟨_, _, rfl, .refused hr .untouched, hless⟩
  · simp only [h]
    cases hr : sizeComplaint? (submission ps f m) with
    | some r =>
        obtain ⟨fault, d', rfl, hstatus, hingest, hleaves⟩ :=
          finish_ingest_of_complaint (d := d) (o := o) e.site hr
        rw [finish_bind hingest]
        simp only
        rw [refuse_eq (by rw [hstatus]; decide), hstatus]
        exact ⟨_, _, rfl, .refused (hsizes.trans hr) hleaves, hleaves.hasRoom hless⟩
    | none =>
        obtain ⟨hfs, hms⟩ := sizes_of_no_complaint hr
        obtain ⟨line, hingest, hroom⟩ := finish_ingest (o := o) e.site hfs hms hroom
        obtain ⟨f', m', h⟩ := complaint?_eq_none_iff.mp (hsizes.trans hr)
        obtain rfl := Option.some.inj (hf.symm.trans h.file)
        obtain rfl := Option.some.inj (hm.symm.trans h.metacard)
        rw [finish_bind hingest]
        exact ⟨_, _, rfl, .accepted h, hroom⟩

theorem answer_of_route {target : String} {route : Route} {headers : Http.Headers} {body : Bytes}
    (hroute : Route.ofTarget? target = some route) :
    answer e ⟨route.method.name, target, headers, body⟩ =
      serve e ⟨route.method.name, target, headers, body⟩ route := by
  simp only [answer, hroute, if_true]

theorem answer_get {target rawName rawKind name kind : String} {headers : Http.Headers} {body : Bytes}
    (hroute : Route.ofTarget? target = some (.artifact rawName rawKind))
    (hname : name? rawName = some name) (hkind : name? rawKind = some kind) :
    answer e ⟨"GET", target, headers, body⟩ = fetch name kind := by
  refine (answer_of_route hroute).trans ?_
  simp only [serve, withName, hname, hkind]

theorem answer_delete {target rawName name : String} {headers : Http.Headers} {body : Bytes}
    (hroute : Route.ofTarget? target = some (.dataset rawName))
    (hname : name? rawName = some name) :
    answer e ⟨"DELETE", target, headers, body⟩ = remove name := by
  refine (answer_of_route hroute).trans ?_
  simp only [serve, withName, hname]

theorem finish_fetch (name kind : String) :
    d.finish o (fetch name kind) = some (d.reading name kind, d) := by
  rw [fetch, reading]
  cases Kind.ofText? kind with
  | none => rfl
  | some k =>
      have hfault : ∀ fault, d.read name k = .error fault → fault = .notFound name k := by
        intro fault h
        unfold read at h
        split at h
        · split at h <;> cases h
          rfl
        · cases h
          rfl
      simp only
      rw [finish_bind (finish_download name k)]
      cases h : d.read name k with
      | ok found => rfl
      | error fault =>
          obtain rfl := hfault fault h
          rfl

/-- Every wish is answered, as long as there is room for the tasks of those that hand something in. -/
theorem finish_answer {k : Nat} (hput : w.PutBy e.uploadLimit r)
    (hroom : d.HasRoom ((if w.isPost then 1 else 0) + k)) :
    ∃ a d', d.finish o (answer e r) = some (a, d') ∧ d.Ends o w a d' ∧ d'.HasRoom k := by
  cases hput with
  | post hroute hboundary hsize hform =>
      rw [Nat.add_comm] at hroom
      obtain ⟨a, d', h, hends, hroom⟩ := finish_accept hboundary hsize hform hroom
      exact ⟨a, d', (congrArg _ (answer_of_route hroute)).trans h, hends, hroom⟩
  | get hroute hname hkind =>
      rw [answer_get hroute hname hkind, finish_fetch]
      exact ⟨_, d, rfl, .got, Nat.zero_add k ▸ hroom⟩
  | @delete _ _ name _ _ hroute hname =>
      rw [answer_delete hroute hname, remove, finish_bind (finish_quarantine name)]
      exact ⟨_, d.clear name, rfl, .cleared, Nat.zero_add k ▸ hroom⟩

end Depot

/-! ## What a depot holds -/

namespace Entry

def fileArtifact (e : Entry) : Artifact :=
  ⟨e.mediaType.getD Upload.standardMediaType, e.file, ⟨e.fileName, .staged⟩⟩

def metacardArtifact (e : Entry) : Artifact := ⟨"application/xml", e.metacard, ⟨none, .staged⟩⟩

def artifact? (e : Entry) : Kind → Option Artifact
  | .file => some e.fileArtifact
  | .irm => none
  | .metacard => some e.metacardArtifact

theorem offeredMediaType_fileArtifact (e : Entry) :
    offeredMediaType e.fileArtifact.mediaType = e.fileType := by
  cases h : e.mediaType with
  | none =>
      simp only [fileArtifact, fileType, h, Option.getD_none]
      decide
  | some t =>
      simp only [fileArtifact, fileType, h, Option.getD_some, offeredMediaType, headerValue?]
      split <;> rfl

theorem offeredMediaType_xml : offeredMediaType "application/xml" = "application/xml" := by
  decide

end Entry

/-- Whether a name has been told by the catalogue, or will never be given. -/
def Outside.IsProper (o : Outside) (c : Catalogue) (name : String) : Prop :=
  name ∈ c.names ∨ ∀ n, o.fresh n ≠ name

/-- The depot holds what the catalogue says, under every name that it has told or will never give. Under
a name that was given to a refused upload there may be anything. -/
structure Agrees (o : Outside) (d : Depot) (c : Catalogue) : Prop where
  held : ∀ name, o.IsProper c name → ∀ kind,
    d.store.get? ⟨name, kind⟩ = (c.entry name).bind fun e => e.artifact? kind
  irm : ∀ name, d.store.get? ⟨name, .irm⟩ = none
  given : ∀ name ∈ c.names, ∃ n < d.given, o.fresh n = name

namespace Agrees

variable {o : Outside} {d d' : Depot} {c : Catalogue} {w : Wish} {a : Answer}

theorem new (o : Outside) (capacity : Nat) : Agrees o (Depot.new capacity) .empty :=
  ⟨fun _ _ _ => rfl, fun _ => rfl, nofun⟩

/-- The next name has not been told, and is one of those that are given. -/
theorem not_isProper_next (h : Agrees o d c) (hfresh : Function.Injective o.fresh) :
    ¬ o.IsProper c (d.next o) := by
  rintro (hm | hnever)
  · obtain ⟨n, hn, he⟩ := h.given _ hm
    exact absurd (hfresh he) (Nat.ne_of_lt hn)
  · exact hnever d.given rfl

theorem leaves (h : Agrees o d c) (hfresh : Function.Injective o.fresh) (hl : d.Leaves o d') :
    Agrees o d' c := by
  have hgiven : ∀ name ∈ c.names, ∃ n < d.given + 1, o.fresh n = name := by
    intro name hm
    obtain ⟨n, hn, he⟩ := h.given name hm
    exact ⟨n, Nat.lt_succ_of_lt hn, he⟩
  cases hl with
  | untouched => exact h
  | named => exact ⟨h.held, h.irm, hgiven⟩
  | halfway =>
      refine ⟨fun name hname kind => ?_, fun name => ?_, hgiven⟩
      · have hne : name ≠ d.next o := fun he => h.not_isProper_next hfresh (he ▸ hname)
        exact (Memory.get?_insert_of_ne (by simp [hne])).trans (h.held name hname kind)
      · exact (Memory.get?_insert_of_ne (by simp)).trans (h.irm name)

theorem accepted (h : Agrees o d c) (ps : List Piece) (f m : Piece)
    (line : Poll.Line Unit (String × String)) :
    Agrees o { d.staged o (submission ps f m) with line := line }
      (c.add (d.next o) (.ofPieces f m)) := by
  have hother : ∀ {name kind}, name ≠ d.next o ∨ kind = .irm →
      (d.staged o (submission ps f m)).store.get? ⟨name, kind⟩ = d.store.get? ⟨name, kind⟩ := by
    intro name kind hne
    have hfile : (⟨name, kind⟩ : Key) ≠ ⟨d.next o, .file⟩ := by
      rcases hne with hne | rfl <;> simp [*]
    have hmetacard : (⟨name, kind⟩ : Key) ≠ ⟨d.next o, .metacard⟩ := by
      rcases hne with hne | rfl <;> simp [*]
    exact (Memory.get?_insert_of_ne hmetacard).trans (Memory.get?_insert_of_ne hfile)
  refine ⟨fun name hname kind => ?_, fun name => (hother (.inr rfl)).trans (h.irm name),
    fun name hname => ?_⟩
  · by_cases hself : name = d.next o
    · subst hself
      simp only [Catalogue.add, if_true, Option.bind_some]
      cases kind with
      | file => exact (Memory.get?_insert_of_ne (by simp)).trans Memory.get?_insert_self
      | irm => exact (hother (.inr rfl)).trans (h.irm _)
      | metacard => exact Memory.get?_insert_self
    · have hproper : o.IsProper c name := hname.imp_left fun hm =>
        (List.mem_cons.mp hm).resolve_left hself
      simp only [Catalogue.add, if_neg hself]
      exact (hother (.inl hself)).trans (h.held name hproper kind)
  · rcases List.mem_cons.mp hname with rfl | hm
    · exact ⟨d.given, Nat.lt_succ_self _, rfl⟩
    · obtain ⟨n, hn, he⟩ := h.given name hm
      exact ⟨n, Nat.lt_succ_of_lt hn, he⟩

theorem cleared (h : Agrees o d c) (name : String) : Agrees o (d.clear name) (c.remove name) := by
  have hother : ∀ {n kind}, n ≠ name →
      (d.clear name).store.get? ⟨n, kind⟩ = d.store.get? ⟨n, kind⟩ := fun hne =>
    (Memory.get?_erase_of_ne (by simp [hne])).trans <|
      (Memory.get?_erase_of_ne (by simp [hne])).trans (Memory.get?_erase_of_ne (by simp [hne]))
  have hself : ∀ kind, (d.clear name).store.get? ⟨name, kind⟩ = none := by
    intro kind
    cases kind with
    | file =>
        exact (Memory.get?_erase_of_ne (by simp)).trans <|
          (Memory.get?_erase_of_ne (by simp)).trans Memory.get?_erase_self
    | irm => exact (Memory.get?_erase_of_ne (by simp)).trans Memory.get?_erase_self
    | metacard => exact Memory.get?_erase_self
  refine ⟨fun n hn kind => ?_, fun n => ?_, h.given⟩
  · by_cases hn' : n = name
    · subst hn'
      simp only [Catalogue.remove, if_true, Option.bind_none]
      exact hself kind
    · simp only [Catalogue.remove, if_neg hn']
      exact (hother hn').trans (h.held n hn kind)
  · by_cases hn' : n = name
    · exact hn' ▸ hself .irm
    · exact (hother hn').trans (h.irm n)

/-- What is read under a proper name is what the catalogue says. -/
theorem answers_reading (h : Agrees o d c) {name : String} (hname : o.IsProper c name)
    (kind : String) : c.Answers (.get name kind) (d.reading name kind) c := by
  rw [Depot.reading]
  cases hkind : Kind.ofText? kind with
  | none => exact .unknown hkind
  | some k =>
      have hheld := h.held name hname k
      simp only [Depot.read, hheld]
      cases he : c.entry name with
      | none => exact .absent hkind he
      | some e =>
          cases k with
          | irm => exact .irm hkind
          | file =>
              change c.Answers _ (offer ⟨e.fileArtifact.mediaType, _, _⟩) c
              rw [offer_eq, e.offeredMediaType_fileArtifact]
              exact .file hkind he
          | metacard =>
              change c.Answers _ (offer ⟨"application/xml", _, _⟩) c
              rw [offer_eq, Entry.offeredMediaType_xml]
              exact .metacard hkind he

/-- What is answered to a wish that names only what it may is what the catalogue answers. -/
theorem ends (h : Agrees o d c) (hfresh : Function.Injective o.fresh)
    (hw : ∀ name, w.dataset? = some name → o.IsProper c name) (he : d.Ends o w a d') :
    ∃ c', c.Answers w a c' ∧ Agrees o d' c' := by
  cases he with
  | refused hr hl =>
      have hnot : ∀ f m, ¬ HandsIn _ f m := fun f m hin => by
        cases (complaint?_eq_none_iff.mpr ⟨f, m, hin⟩).symm.trans hr
      exact ⟨c, .refused hnot hr, h.leaves hfresh hl⟩
  | accepted hin =>
      have hnew : d.next o ∉ c.names := fun hm => h.not_isProper_next hfresh (.inl hm)
      exact ⟨_, .accepted hin hnew, h.accepted _ _ _ _⟩
  | got => exact ⟨c, h.answers_reading (hw _ rfl) _, h⟩
  | cleared => exact ⟨_, .removed, h.cleared _⟩

end Agrees

/-! ## Request after request -/

theorem body_told (name : String) : (told name).body =
    Bytes.ofString ("\x7b" ++ Json.writeText "id" ++ ":") ++
      (Bytes.ofString (Json.writeText name) ++ Bytes.ofString "\x7d") := by
  show Bytes.ofString (Json.write (.object [("id", .text name)])) = _
  simp only [Json.write, Json.writeMembers, ← Bytes.ofString_append, String.append_assoc]

theorem told_injective : Function.Injective told := by
  intro m n h
  have hbody := congrArg Answer.body h
  rw [body_told, body_told, List.append_cancel_left_eq, List.append_cancel_right_eq] at hbody
  have hread := Json.value_writeText (t := m) (s := []) 0
  rw [hbody, Json.value_writeText] at hread
  cases hread
  rfl

theorem Catalogue.Answers.names {c c' : Catalogue} {w : Wish} {a : Answer} (h : c.Answers w a c')
    {name : String} (hname : name ∈ c.names ∨ a = told name) : name ∈ c'.names := by
  have hstatus : a.status.code ≠ 201 → a ≠ told name := by
    rintro hne rfl
    exact hne rfl
  cases h with
  | accepted =>
      rcases hname with hm | ha
      · exact List.mem_cons_of_mem _ hm
      · exact told_injective ha ▸ List.mem_cons_self ..
  | _ => exact hname.resolve_right (hstatus (by simp [failure, Answer.json, Answer.bare]))

/-- Each name that a wish is about has been told before, or is never given. -/
def Outside.Fair (o : Outside) (past : List Answer) : List Wish → List Answer → Prop
  | w :: ws, a :: as =>
    (∀ name, w.dataset? = some name → told name ∈ past ∨ ∀ n, o.fresh n ≠ name) ∧
      o.Fair (past ++ [a]) ws as
  | _, _ => True

namespace Depot

variable {o : Outside} {d d' : Depot} {e : Entrance} {c : Catalogue} {ws : List Wish}
  {rs : List Request} {as : List Answer}

theorem answerAll_cons {r : Request} :
    d.answerAll o e (r :: rs) = some (as, d') ↔ ∃ a d₁ as', d.finish o (answer e r) = some (a, d₁) ∧
      d₁.answerAll o e rs = some (as', d') ∧ as = a :: as' := by
  simp only [answerAll, bind, pure, Option.bind_eq_some_iff, Prod.exists, Option.some.injEq,
    Prod.mk.injEq]
  constructor
  · rintro ⟨a, d₁, ha, as', d₂, has, rfl, rfl⟩
    exact ⟨a, d₁, as', ha, has, rfl⟩
  · rintro ⟨a, d₁, as', ha, has, rfl⟩
    exact ⟨a, d₁, ha, as', d', has, rfl, rfl⟩

/-- However the wishes go, all are answered, and if they are fair, as a catalogue answers them. -/
theorem answerAll_spec (hfresh : Function.Injective o.fresh)
    (hput : List.Forall₂ (Wish.PutBy e.uploadLimit) ws rs) (hroom : d.HasRoom (ws.countP Wish.isPost)) :
    ∃ as d', d.answerAll o e rs = some (as, d') ∧ ∀ past c, Agrees o d c →
      (∀ name, told name ∈ past → name ∈ c.names) → o.Fair past ws as → c.AnswersAll ws as := by
  induction hput generalizing d with
  | nil => exact ⟨[], d, rfl, fun _ _ _ _ _ => .nil⟩
  | @cons w r ws rs hw hrest ih =>
      rw [List.countP_cons, Nat.add_comm] at hroom
      obtain ⟨a, d₁, ha, hends, hroom⟩ := finish_answer (o := o) hw hroom
      obtain ⟨as, d', has, hcatalogue⟩ := ih hroom
      refine ⟨a :: as, d', answerAll_cons.mpr ⟨a, d₁, as, ha, has, rfl⟩, fun past c h hpast hfair => ?_⟩
      obtain ⟨hproper, hfair⟩ := hfair
      obtain ⟨c', hc', hagrees⟩ := h.ends hfresh (fun name hname => (hproper name hname).imp_left
        (hpast name)) hends
      refine .cons hc' (hcatalogue _ c' hagrees (fun name hm => ?_) hfair)
      rcases List.mem_append.mp hm with hm | hm
      · exact hc'.names (.inl (hpast name hm))
      · exact hc'.names (.inr (List.mem_singleton.mp hm).symm)

end Depot

variable {o : Outside} {e : Entrance} {ws : List Wish} {rs : List Request}

/-- Whatever requests are made, in whatever order, they are answered as by a catalogue: if there is room in
the line for those that hand something in, and if the others are about names that were told before or will
never be given. -/
theorem answers_as_catalogue (hfresh : Function.Injective o.fresh) {capacity : Nat}
    (hput : List.Forall₂ (Wish.PutBy e.uploadLimit) ws rs) (hroom : ws.countP Wish.isPost ≤ capacity) :
    ∃ as d, (Depot.new capacity).answerAll o e rs = some (as, d) ∧
      (o.Fair [] ws as → Catalogue.empty.AnswersAll ws as) := by
  have hnew : (Depot.new capacity).HasRoom (ws.countP Wish.isPost) :=
    ⟨rfl, Nat.zero_add _ ▸ Nat.le_trans hroom (Nat.le_max_left _ _)⟩
  obtain ⟨as, d, has, hcatalogue⟩ := Depot.answerAll_spec hfresh hput hnew
  exact ⟨as, d, has, hcatalogue [] .empty (.new o capacity) nofun⟩

/-! ## Some requests -/

/-- Names in unary, and a transform service that gives every job one address. -/
def unary : Outside := ⟨fun n => String.ofList (List.replicate (n + 1) 'a'), fun _ => "/job"⟩

theorem fresh_unary : Function.Injective unary.fresh := by
  intro m n h
  have hlength := congrArg (fun s : String => s.toList.length) h
  simpa [unary] using hlength

/-- A form that hands in a dataset, as it is sent, and its pieces. -/
def wholeForm : Bytes × List Piece :=
  (Bytes.ofString ("--X\r\nContent-Disposition: form-data; name=metacard\r\n\r\nm\r\n" ++
      "--X\r\nContent-Disposition: form-data; name=file; filename=a.txt\r\n\r\nf\r\n--X--"),
    [⟨some "metacard", none, none, Bytes.ofString "m"⟩,
      ⟨some "file", some "a.txt", none, Bytes.ofString "f"⟩])

/-- A form without a file. -/
def partForm : Bytes × List Piece :=
  (Bytes.ofString "--X\r\nContent-Disposition: form-data; name=metacard\r\n\r\nm\r\n--X--",
    [⟨some "metacard", none, none, Bytes.ofString "m"⟩])

def someHeaders : Http.Headers := [("content-type", Bytes.ofString "multipart/form-data; boundary=X")]

def someWishes : List Wish :=
  [.post wholeForm.2, .get "a" "file", .post partForm.2, .delete "a", .get "a" "metacard"]

def someRequests : List Request :=
  [⟨"POST", "/datasets", someHeaders, wholeForm.1⟩, ⟨"GET", "/datasets/a/file", [], []⟩,
    ⟨"POST", "/datasets", someHeaders, partForm.1⟩, ⟨"DELETE", "/datasets/a", [], []⟩,
    ⟨"GET", "/datasets/%61/metacard?now", [], []⟩]

def someAnswers : List Answer :=
  [told "a",
    ⟨⟨200⟩, [("content-type", "application/octet-stream"),
      ("content-disposition", "attachment; filename=\"a.txt\"")],
      Bytes.ofString "f"⟩,
    failure 400 "missing `file` part", .bare 204,
    failure 404 "dataset a has no retrievable metacard artifact"]

theorem answers_someRequests :
    ∃ d, (Depot.new 2).answerAll unary ⟨⟨"http://host"⟩, 1000⟩ someRequests = some (someAnswers, d) ∧
      Catalogue.empty.AnswersAll someWishes someAnswers := by
  have hrun : ((Depot.new 2).answerAll unary ⟨⟨"http://host"⟩, 1000⟩ someRequests).map Prod.fst =
      some someAnswers := by decide +kernel
  have hboundary : Http.Form.boundary? someHeaders = some "X" := by decide +kernel
  have hpost : ∀ form : Bytes × List Piece, form.1.length ≤ 1000 →
      Http.Form.read "X" form.1 = ⟨form.2.map Piece.part, true⟩ →
      (Wish.post form.2).PutBy 1000 ⟨"POST", "/datasets", someHeaders, form.1⟩ :=
    fun form hsize hform => .post (by decide +kernel) hboundary hsize hform
  have hget : (Wish.get "a" "file").PutBy 1000 ⟨"GET", "/datasets/a/file", [], []⟩ :=
    @Wish.PutBy.get 1000 _ "a" "file" _ _ _ _ (by decide +kernel) (by decide +kernel) (by decide +kernel)
  have hdelete : (Wish.delete "a").PutBy 1000 ⟨"DELETE", "/datasets/a", [], []⟩ :=
    @Wish.PutBy.delete 1000 _ "a" _ _ _ (by decide +kernel) (by decide +kernel)
  have hgone : (Wish.get "a" "metacard").PutBy 1000 ⟨"GET", "/datasets/%61/metacard?now", [], []⟩ :=
    @Wish.PutBy.get 1000 _ "%61" "metacard" _ _ _ _ (by decide +kernel) (by decide +kernel)
      (by decide +kernel)
  have hput : List.Forall₂ (Wish.PutBy 1000) someWishes someRequests :=
    .cons (hpost wholeForm (by decide +kernel) (by decide +kernel)) <| .cons hget <|
      .cons (hpost partForm (by decide +kernel) (by decide +kernel)) <| .cons hdelete (.cons hgone .nil)
  have hroom : someWishes.countP Wish.isPost ≤ 2 := by decide
  obtain ⟨as, d, has, hcatalogue⟩ :=
    answers_as_catalogue (e := ⟨⟨"http://host"⟩, 1000⟩) fresh_unary hput hroom
  rw [has] at hrun
  obtain rfl := Option.some.inj hrun
  refine ⟨d, has, hcatalogue ?_⟩
  refine ⟨nofun, ?_, nofun, ?_, ?_, trivial⟩
  all_goals
    rintro _ ⟨⟩
    exact .inl (by simp)

end Intake.Api
