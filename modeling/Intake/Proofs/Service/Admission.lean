import Intake.Proofs.Poll.Logbook
import Intake.Proofs.Service.Settlement

/-!
# Taking a dataset in

A dataset is staged before its job is submitted, and its poll task is brought to the line after that. An
ingest that fails leaves what it has staged by then and nothing else. Others use the line all the while,
so the ingest may have to wait there.
-/

namespace Intake.Service

open Store (Memory)
open Artifact (Key)
open Poll (Logbook Task)
open Relation (ReflTransGen)

/-- Who an ingest deals with: the name that is given next, and the transform service. -/
structure Partners where
  name : String
  submit : Remote.Job → Except Remote.Fault String

def Partners.job (p : Partners) (site : Site) : Remote.Job :=
  ⟨p.name, site.artifactUrl p.name .file, site.artifactUrl p.name .metacard⟩

/-- An ingest at a line that others use as well. -/
structure Desk where
  work : Work (Except Fault String)
  store : Memory
  book : Logbook Task
  /-- The number of its own call to the line. -/
  ticket? : Option Nat
  /-- The calls of all others to the line. -/
  others : List (Poll.Line.Call Task)
  /-- The jobs that it has submitted, each with the store at that moment. -/
  submitted : List (Remote.Job × Memory)

namespace Desk

def start (site : Site) (s : Submission) (m : Memory) (capacity : Nat)
    (calls : List (Poll.Line.Call Task)) : Desk :=
  ⟨ingest site s, m, .ofCalls capacity calls, none, calls, []⟩

/-- The task has been let into the line. -/
def IsIn (d : Desk) : Prop := ∃ n, d.ticket? = some n ∧ n ∈ d.book.entered

/-- What is answered to a call, and the store after it. -/
inductive Answered (p : Partners) (d : Desk) : (c : Call) → c.Reply → Memory → Prop
  | named : Answered p d .freshName p.name d.store
  | stored {key u} : Answered p d (.store key u) (d.store.store key u).1 (d.store.store key u).2
  | submitted {job} : Answered p d (.submit job) (p.submit job) d.store
  | admitted {dataset url} (hin : d.IsIn) : Answered p d (.enqueue dataset url) (.ok ()) d.store
  | reported {e} : Answered p d (.report e) () d.store
  | counted {c} : Answered p d (.count c) () d.store

/-- Writes down a job that is submitted. -/
def jot (d : Desk) : Call → List (Remote.Job × Memory)
  | .submit job => d.submitted ++ [(job, d.store)]
  | _ => d.submitted

inductive Step (p : Partners) (d : Desk) : Desk → Prop
  | own {c next r m} (hw : d.work = .ask c next) (h : d.Answered p c r m) :
      Step p d { d with work := next r, store := m, submitted := d.jot c }
  /-- It comes to the line with its task. -/
  | bring {dataset url next} (now : Poll.Millis) (hw : d.work = .ask (.enqueue dataset url) next)
      (hticket : d.ticket? = none) :
      Step p d { d with
        ticket? := some d.book.calls.length
        book := d.book.call (.put (.new dataset url now)) }
  | other (q : Poll.Line.Call Task) :
      Step p d { d with book := d.book.call q, others := d.others ++ [q] }

end Desk

/-- Both artifacts of a dataset can be downloaded as they were handed in, and neither is approved. -/
structure IsStaged (dataset : String) (s : Submission) (m : Memory) : Prop where
  file : ((download dataset .file).run (willing .inProgress) m).1 =
    .ok ⟨s.mediaType, s.file, s.fileName⟩
  metacard : ((download dataset .metacard).run (willing .inProgress) m).1 =
    .ok ⟨metacardMediaType, s.metacard, none⟩
  fileStatus : m.statusOf? ⟨dataset, .file⟩ = some .staged
  metacardStatus : m.statusOf? ⟨dataset, .metacard⟩ = some .staged

namespace Submission

def withFile (s : Submission) (dataset : String) (m : Memory) : Memory :=
  m.insert ⟨dataset, .file⟩ s.fileUpload.toArtifact

def withBoth (s : Submission) (dataset : String) (m : Memory) : Memory :=
  (s.withFile dataset m).insert ⟨dataset, .metacard⟩ s.metacardUpload.toArtifact

theorem isStaged_withBoth (s : Submission) (dataset : String) (m : Memory) :
    IsStaged dataset s (s.withBoth dataset m) := by
  have hfile : (s.withBoth dataset m).get? ⟨dataset, .file⟩ = some s.fileUpload.toArtifact := by
    rw [withBoth, Memory.get?_insert_of_ne (by simp), withFile, Memory.get?_insert_self]
  have hcard : (s.withBoth dataset m).get? ⟨dataset, .metacard⟩ = some s.metacardUpload.toArtifact :=
    Memory.get?_insert_self
  refine ⟨?_, ?_, ?_, ?_⟩
  · rw [run_download, hfile]
    rfl
  · rw [run_download, hcard]
    rfl
  · rw [Memory.statusOf?, hfile]
    rfl
  · rw [Memory.statusOf?, hcard]
    rfl

end Submission

/-! ## What is left of an ingest -/

section

variable (p : Partners) (site : Site) (s : Submission) (m : Memory)

/-- How an ingest that begins on the store `m` may end: its result, the store, what it has submitted, and
the status URL of the task that it has put into the line. -/
inductive Ends : Except Fault String → Memory → List (Remote.Job × Memory) → Option String → Prop
  | fileRefused (hfile : s.fileSize ≠ s.file.length) :
      Ends (.error (.storage (.sizeMismatch s.fileSize s.file.length))) m [] none
  | metacardRefused (hfile : s.fileSize = s.file.length)
      (hcard : s.metacardSize ≠ s.metacard.length) :
      Ends (.error (.storage (.sizeMismatch s.metacardSize s.metacard.length)))
        (s.withFile p.name m) [] none
  | notSubmitted {e : Remote.Fault} (hfile : s.fileSize = s.file.length)
      (hcard : s.metacardSize = s.metacard.length) (he : p.submit (p.job site) = .error e) :
      Ends (.error (.submission e)) (s.withBoth p.name m)
        [(p.job site, s.withBoth p.name m)] none
  | admitted {url : String} (hfile : s.fileSize = s.file.length)
      (hcard : s.metacardSize = s.metacard.length) (hurl : p.submit (p.job site) = .ok url) :
      Ends (.ok p.name) (s.withBoth p.name m) [(p.job site, s.withBoth p.name m)] (some url)

/-- What is left of an ingest leads to one of its ends, and submits only what is staged. -/
def OnItsWay : Work (Except Fault String) → Memory → List (Remote.Job × Memory) → Option String → Prop
  | .done r, m', jobs, url? => Ends p site s m r m' jobs url?
  | .ask .freshName next, m', jobs, url? => OnItsWay (next p.name) m' jobs url?
  | .ask (.store key u) next, m', jobs, url? =>
    key.dataset = p.name ∧ OnItsWay (next (m'.store key u).1) (m'.store key u).2 jobs url?
  | .ask (.submit job) next, m', jobs, url? =>
    (job = p.job site ∧ IsStaged p.name s m') ∧
      OnItsWay (next (p.submit job)) m' (jobs ++ [(job, m')]) url?
  | .ask (.enqueue dataset url) next, m', jobs, url? =>
    (dataset = p.name ∧ p.submit (p.job site) = .ok url ∧ url? = none) ∧
      OnItsWay (next (.ok ())) m' jobs (some url)
  | .ask (.report _) next, m', jobs, url? => OnItsWay (next ()) m' jobs url?
  | .ask (.count _) next, m', jobs, url? => OnItsWay (next ()) m' jobs url?
  | _, _, _, _ => False

theorem onItsWay_ingest : OnItsWay p site s m (ingest site s) m [] none := by
  simp only [ingest, stage, call, Script.request, Script.bind_ask, Script.bind_done, OnItsWay,
    true_and]
  by_cases hfile : s.fileSize = s.file.length
  · have hstore : m.store ⟨p.name, .file⟩ s.fileUpload = (.ok (), s.withFile p.name m) :=
      Memory.store_of_size hfile
    rw [hstore]
    simp only [Script.bind_ask, OnItsWay, true_and]
    by_cases hcard : s.metacardSize = s.metacard.length
    · have hstore : (s.withFile p.name m).store ⟨p.name, .metacard⟩ s.metacardUpload =
          (.ok (), s.withBoth p.name m) := Memory.store_of_size hcard
      rw [hstore]
      refine ⟨⟨rfl, s.isStaged_withBoth p.name m⟩, ?_⟩
      rw [← Partners.job]
      cases hsubmit : p.submit (p.job site) with
      | error e => exact .notSubmitted hfile hcard hsubmit
      | ok url => exact ⟨⟨rfl, hsubmit, rfl⟩, .admitted hfile hcard hsubmit⟩
    · have hstore : (s.withFile p.name m).store ⟨p.name, .metacard⟩ s.metacardUpload =
          (.error (.sizeMismatch s.metacardSize s.metacard.length), s.withFile p.name m) :=
        Memory.store_of_size_ne hcard
      rw [hstore]
      exact .metacardRefused hfile hcard
  · have hstore : m.store ⟨p.name, .file⟩ s.fileUpload =
        (.error (.sizeMismatch s.fileSize s.file.length), m) := Memory.store_of_size_ne hfile
    rw [hstore]
    exact .fileRefused hfile

end

/-! ## At the line -/

namespace Desk

variable {p : Partners} {site : Site} {s : Submission} {m : Memory} {capacity : Nat} {d d' : Desk}
  {calls : List (Poll.Line.Call Task)} {url? : Option String}

/-- The task has been brought to the line between these calls of the others, and after the first of
them. -/
structure Brought (capacity : Nat) (calls : List (Poll.Line.Call Task)) (d : Desk)
    (before after : List (Poll.Line.Call Task)) (t : Task) : Prop where
  first : calls <+: before
  ticket : d.ticket? = some before.length
  others : d.others = before ++ after
  book : d.book = .ofCalls capacity (before ++ .put t :: after)

/-- How far the ingest has come at the line; its task bears the status URL that it has been let in with. -/
inductive AtLine (p : Partners) (capacity : Nat) (calls : List (Poll.Line.Call Task)) (d : Desk) :
    Option String → Prop
  | away (hcalls : calls <+: d.others) (hticket : d.ticket? = none)
      (hbook : d.book = .ofCalls capacity d.others) : AtLine p capacity calls d none
  | brings {url next before after now} (hwork : d.work = .ask (.enqueue p.name url) next)
      (h : d.Brought capacity calls before after (.new p.name url now)) :
      AtLine p capacity calls d none
  | done {url before after now} (h : d.Brought capacity calls before after (.new p.name url now))
      (hin : before.length ∈ d.book.entered) : AtLine p capacity calls d (some url)

theorem Brought.other {before after : List (Poll.Line.Call Task)} {t : Task}
    (h : d.Brought capacity calls before after t) (q : Poll.Line.Call Task) :
    ({ d with book := d.book.call q, others := d.others ++ [q] } : Desk).Brought capacity calls before
      (after ++ [q]) t where
  first := h.first
  ticket := h.ticket
  others := by rw [h.others, List.append_assoc]
  book := by
    rw [h.book, ← Logbook.ofCalls_concat]
    simp

theorem AtLine.book_isFair (h : d.AtLine p capacity calls url?) : d.book.IsFair capacity := by
  cases h with
  | away _ _ hbook => exact hbook ▸ .ofCalls ..
  | brings _ h | done h => exact h.book ▸ .ofCalls ..

theorem AtLine.other (h : d.AtLine p capacity calls url?) (q : Poll.Line.Call Task) :
    ({ d with book := d.book.call q, others := d.others ++ [q] } : Desk).AtLine p capacity calls url? := by
  have hfair := h.book_isFair
  cases h with
  | away hcalls hticket hbook =>
      exact .away (hcalls.trans (List.prefix_append ..)) hticket
        (by rw [hbook, ← Logbook.ofCalls_concat])
  | brings hwork h => exact .brings hwork (h.other q)
  | done h hin => exact .done (h.other q) ((Logbook.deals hfair.calm q).mem_entered hin)

theorem AtLine.bring {url : String} {next : Except Poll.LineFault Unit → Work (Except Fault String)}
    (h : d.AtLine p capacity calls url?) (hw : d.work = .ask (.enqueue p.name url) next)
    (hticket : d.ticket? = none) (now : Poll.Millis) :
    ({ d with
      ticket? := some d.book.calls.length
      book := d.book.call (.put (.new p.name url now)) } : Desk).AtLine p capacity calls none := by
  cases h with
  | brings _ h | done h => cases hticket.symm.trans h.ticket
  | away hcalls _ hbook =>
      have hbrought : ({ d with
          ticket? := some d.book.calls.length
          book := d.book.call (.put (.new p.name url now)) } : Desk).Brought capacity calls d.others []
            (.new p.name url now) := by
        refine ⟨hcalls, ?_, (List.append_nil _).symm, ?_⟩
        · rw [hbook, Logbook.calls_ofCalls]
        · rw [hbook, Logbook.ofCalls_concat]
      exact .brings hw hbrought

theorem AtLine.own {w : Work (Except Fault String)} {m' : Memory}
    {jobs : List (Remote.Job × Memory)} (h : d.AtLine p capacity calls url?)
    (hwork : ∀ url next, d.work ≠ .ask (.enqueue p.name url) next) :
    ({ d with work := w, store := m', submitted := jobs } : Desk).AtLine p capacity calls url? := by
  cases h with
  | away hcalls hticket hbook => exact .away hcalls hticket hbook
  | brings hw h => exact (hwork _ _ hw).elim
  | done h hin => exact .done { h with } hin

/-- What holds of a desk at any moment. -/
structure Stands (p : Partners) (site : Site) (s : Submission) (m : Memory) (capacity : Nat)
    (calls : List (Poll.Line.Call Task)) (d : Desk) : Prop where
  rest : ∃ url?, OnItsWay p site s m d.work d.store d.submitted url? ∧ d.AtLine p capacity calls url?
  submitted : ∀ x ∈ d.submitted, x.1 = p.job site ∧ IsStaged p.name s x.2
  kept : ∀ key, key.dataset ≠ p.name → d.store.get? key = m.get? key

variable (p site s m capacity calls) in
theorem Stands.start :
    (start site s m capacity calls).Stands p site s m capacity calls :=
  ⟨⟨none, onItsWay_ingest p site s m, .away List.prefix_rfl rfl rfl⟩, nofun, fun _ _ => rfl⟩

theorem Stands.step (h : d.Stands p site s m capacity calls) (hstep : Step p d d') :
    d'.Stands p site s m capacity calls := by
  obtain ⟨⟨url?, hpending, hline⟩, hsubmitted, hkept⟩ := h
  cases hstep with
  | other q => exact ⟨⟨url?, hpending, hline.other q⟩, hsubmitted, hkept⟩
  | bring now hw hticket =>
      have hasked := hpending
      rw [hw] at hasked
      obtain ⟨⟨rfl, -, rfl⟩, -⟩ := hasked
      exact ⟨⟨none, hpending, hline.bring hw hticket now⟩, hsubmitted, hkept⟩
  | own hw hc =>
      rw [hw] at hpending
      cases hc with
      | named | reported | counted =>
          exact ⟨⟨url?, hpending, hline.own (by simp [hw])⟩, hsubmitted, hkept⟩
      | @stored own u =>
          refine ⟨⟨url?, hpending.2, hline.own (by simp [hw])⟩, hsubmitted, fun key hkey => ?_⟩
          have hanswers : Answers d.store (d.store.store own u).2 (.store own u)
              (d.store.store own u).1 := Or.inl rfl
          refine (hanswers.get?_of_ne fun htarget => hkey ?_).trans (hkept key hkey)
          rw [← Option.some.inj htarget]
          exact hpending.1
      | submitted =>
          refine ⟨⟨url?, hpending.2, hline.own (by simp [hw])⟩, ?_, hkept⟩
          exact List.forall_mem_append.mpr ⟨hsubmitted, List.forall_mem_singleton.mpr hpending.1⟩
      | admitted hin =>
          obtain ⟨⟨rfl, -, rfl⟩, hpending⟩ := hpending
          obtain ⟨n, hticket, hn⟩ := hin
          cases hline with
          | away _ hnone => cases hnone.symm.trans hticket
          | brings hwork h =>
              cases hw.symm.trans hwork
              obtain rfl := Option.some.inj (hticket.symm.trans h.ticket)
              exact ⟨⟨_, hpending, .done { h with } hn⟩, hsubmitted, hkept⟩

theorem Stands.reaches (h : d.Stands p site s m capacity calls) (hreach : ReflTransGen (Step p) d d') :
    d'.Stands p site s m capacity calls := by
  induction hreach with
  | refl => exact h
  | tail _ hstep ih => exact ih.step hstep

/-! ## It comes to an end -/

/-- The task waits for room in a line that is full. -/
def Waits (d : Desk) : Prop :=
  ∃ n t, d.ticket? = some n ∧ (n, t) ∈ d.book.line.senders ∧
    d.book.line.length = d.book.line.capacity

theorem reaches_others (d : Desk) (calls : List (Poll.Line.Call Task)) :
    ReflTransGen (Step p) d
      { d with book := calls.foldl Logbook.call d.book, others := d.others ++ calls } := by
  induction calls generalizing d with
  | nil =>
      rw [List.append_nil]
      exact .refl
  | cons q calls ih =>
      have hrest := ih { d with book := d.book.call q, others := d.others ++ [q] }
      rw [List.append_assoc] at hrest
      exact .head (.other q) hrest

theorem Brought.isIn_or_waits {before after : List (Poll.Line.Call Task)} {t : Task}
    (h : d.Brought capacity calls before after t) :
    d.IsIn ∨ (before.length, t) ∈ d.book.line.senders ∧ d.Waits := by
  have hfair : d.book.IsFair capacity := h.book ▸ .ofCalls ..
  have hcall : d.book.calls[before.length]? = some (.put t) := by
    rw [h.book, Logbook.calls_ofCalls]
    simp
  refine (hfair.entered_or_waits hcall).imp (fun hin => ⟨_, h.ticket, hin⟩) fun hwaits => ?_
  exact ⟨hwaits, _, t, h.ticket, hwaits, hfair.calm.full (List.ne_nil_of_mem hwaits)⟩

/-- What is asked for is answered at once, but for a call to the line. -/
theorem answered_of_onItsWay {c : Call} {next : c.Reply → Work (Except Fault String)} {m' : Memory}
    {jobs : List (Remote.Job × Memory)} (h : OnItsWay p site s m (.ask c next) m' jobs url?)
    (hin : (∃ url, c = .enqueue p.name url) → d.IsIn) : ∃ r m₁, d.Answered p c r m₁ := by
  cases c with
  | store => exact ⟨_, _, .stored⟩
  | submit => exact ⟨_, _, .submitted⟩
  | enqueue dataset url =>
      obtain ⟨⟨rfl, -⟩, -⟩ := h
      exact ⟨_, _, .admitted (hin ⟨url, rfl⟩)⟩
  | freshName => exact ⟨_, _, .named⟩
  | report => exact ⟨_, _, .reported⟩
  | count => exact ⟨_, _, .counted⟩
  | _ => exact h.elim

theorem AtLine.brought (h : d.AtLine p capacity calls url?) (hticket : d.ticket? ≠ none) :
    ∃ before after t, d.Brought capacity calls before after t := by
  cases h with
  | away _ hnone => exact absurd hnone hticket
  | brings _ h | done h => exact ⟨_, _, _, h⟩

/-- As long as it is not done it can go on by itself, unless its task waits. -/
theorem Stands.goes_on (h : d.Stands p site s m capacity calls) :
    (∃ r, d.work = .done r) ∨ (∃ d', Step p d d' ∧ d'.others = d.others) ∨ d.Waits := by
  obtain ⟨⟨url?, hpending, hline⟩, -, -⟩ := h
  cases hw : d.work with
  | done r => exact Or.inl ⟨r, rfl⟩
  | ask c next =>
      refine Or.inr ?_
      rw [hw] at hpending
      have hown (hin : (∃ url, c = .enqueue p.name url) → d.IsIn) :
          ∃ d', Step p d d' ∧ d'.others = d.others := by
        obtain ⟨r, m₁, hanswered⟩ := answered_of_onItsWay hpending hin
        exact ⟨_, .own hw hanswered, rfl⟩
      by_cases hqueue : ∃ url, c = .enqueue p.name url
      · obtain ⟨url, rfl⟩ := hqueue
        by_cases hticket : d.ticket? = none
        · exact Or.inl ⟨_, .bring 0 hw hticket, rfl⟩
        · obtain ⟨before, after, t, hbrought⟩ := hline.brought hticket
          exact hbrought.isIn_or_waits.imp (fun hin => hown fun _ => hin) And.right
      · exact Or.inl (hown fun hin => absurd hin hqueue)

/-- A task that is brought is let in if others keep taking tasks from the line. -/
theorem Stands.comes_in (h : d.Stands p site s m capacity calls) {dataset url : String}
    {next : Except Poll.LineFault Unit → Work (Except Fault String)}
    (hw : d.work = .ask (.enqueue dataset url) next) :
    ∃ d' k, ReflTransGen (Step p) d d' ∧ d'.work = d.work ∧ d'.IsIn ∧
      d'.others = d.others ++ List.replicate k .take := by
  -- First the task is brought, unless that has been done.
  obtain ⟨d₁, hreach, hwork, hothers, hticket⟩ : ∃ d₁, ReflTransGen (Step p) d d₁ ∧
      d₁.work = d.work ∧ d₁.others = d.others ∧ d₁.ticket? ≠ none := by
    by_cases hticket : d.ticket? = none
    · exact ⟨_, .single (.bring 0 hw hticket), rfl, rfl, by simp⟩
    · exact ⟨d, .refl, rfl, rfl, hticket⟩
  obtain ⟨url?, -, hline⟩ := (h.reaches hreach).rest
  obtain ⟨before, after, t, hbrought⟩ := hline.brought hticket
  rcases hbrought.isIn_or_waits with hin | ⟨hwaits, -⟩
  · exact ⟨d₁, 0, hreach, hwork, hin, by simp [hothers]⟩
  · obtain ⟨front, back, hsplit⟩ := List.append_of_mem hwaits
    obtain ⟨k, hk⟩ := hline.book_isFair.enters hsplit
    exact ⟨_, k, hreach.trans (reaches_others d₁ (List.replicate k .take)), hwork,
      ⟨_, hbrought.ticket, hk⟩, by rw [hothers]⟩

/-- If others keep taking tasks from the line, it comes to its end. -/
theorem Stands.ends (h : d.Stands p site s m capacity calls) :
    ∃ d' r k, ReflTransGen (Step p) d d' ∧ d'.work = .done r ∧
      d'.others = d.others ++ List.replicate k .take := by
  -- Along what is left of the work, with any store and any line.
  induction hw : d.work generalizing d with
  | done r => exact ⟨d, r, 0, .refl, hw, by simp⟩
  | ask c next ih =>
      obtain ⟨d₁, k, hreach, hwork, hin, hothers⟩ : ∃ d₁ k, ReflTransGen (Step p) d d₁ ∧
          d₁.work = .ask c next ∧ ((∃ url, c = .enqueue p.name url) → d₁.IsIn) ∧
          d₁.others = d.others ++ List.replicate k .take := by
        by_cases hqueue : ∃ url, c = .enqueue p.name url
        · obtain ⟨url, rfl⟩ := hqueue
          obtain ⟨d₁, k, hreach, hwork, hin, hothers⟩ := h.comes_in hw
          exact ⟨d₁, k, hreach, hwork.trans hw, fun _ => hin, hothers⟩
        · exact ⟨d, 0, .refl, hw, fun hin => absurd hin hqueue, by simp⟩
      have h₁ := h.reaches hreach
      obtain ⟨url?, hpending, -⟩ := h₁.rest
      rw [hwork] at hpending
      obtain ⟨r, m₁, hanswered⟩ := answered_of_onItsWay hpending hin
      have hstep : Step p d₁ _ := .own hwork hanswered
      obtain ⟨d', r', j, hreach', hdone, hothers'⟩ := ih r (h₁.step hstep) rfl
      refine ⟨d', r', k + j, (hreach.tail hstep).trans hreach', hdone, ?_⟩
      rw [hothers', hothers, List.append_assoc, List.replicate_append_replicate]

/-! ## What an ingest comes to -/

/-- The store `m'` has what `m` has, and these artifacts in addition. -/
def Adds (added : List (Key × Artifact)) (m m' : Memory) : Prop :=
  ∀ key, m'.get? key = (added.lookup key).or (m.get? key)

theorem Adds.insert {added : List (Key × Artifact)} {m' : Memory} (h : Adds added m m') (key : Key)
    (a : Artifact) : Adds ((key, a) :: added) m (m'.insert key a) := by
  intro k
  by_cases hk : k = key
  · simp [hk]
  · rw [Memory.get?_insert_of_ne hk, h k, List.lookup_cons, beq_eq_false_iff_ne.mpr hk]

theorem adds_nil (m : Memory) : Adds [] m m := fun _ => rfl

variable (p s m) in
theorem adds_withFile : Adds [(⟨p.name, .file⟩, s.fileUpload.toArtifact)] m (s.withFile p.name m) :=
  (adds_nil m).insert _ _

variable (p s m) in
theorem adds_withBoth : Adds [(⟨p.name, .metacard⟩, s.metacardUpload.toArtifact),
    (⟨p.name, .file⟩, s.fileUpload.toArtifact)] m (s.withBoth p.name m) :=
  (adds_withFile p s m).insert _ _

/-- A run of an ingest under a name that nothing bears yet. Whatever it submits is staged by then. It
always comes to its end if others keep taking tasks from the line, and until then it can go on by itself
unless its task waits for room. It succeeds exactly if both sizes are right and its job is taken; its
task is then the only one that it has brought, and in the line. Else it has brought none, and what it has
added to the store depends on how far it came. -/
theorem ingest_settles (hfresh : ∀ kind, m.get? ⟨p.name, kind⟩ = none)
    (h : ReflTransGen (Step p) (start site s m capacity calls) d) :
    (∀ x ∈ d.submitted, x.1 = p.job site ∧ IsStaged p.name s x.2) ∧
    (∀ key a, m.get? key = some a → d.store.get? key = some a) ∧
    ((∃ r, d.work = .done r) ∨ (∃ d', Step p d d' ∧ d'.others = d.others) ∨ d.Waits) ∧
    (∃ d' r k, ReflTransGen (Step p) d d' ∧ d'.work = .done r ∧
      d'.others = d.others ++ List.replicate k .take) ∧
    ∀ r, d.work = .done r →
      ((∃ id, r = .ok id) ↔ s.fileSize = s.file.length ∧ s.metacardSize = s.metacard.length ∧
        ∃ url, p.submit (p.job site) = .ok url) ∧
      (∀ id, r = .ok id → id = p.name ∧ d.submitted.map Prod.fst = [p.job site] ∧
        ∃ url now before after, p.submit (p.job site) = .ok url ∧
          d.Brought capacity calls before after (.new p.name url now) ∧
          before.length ∈ d.book.entered) ∧
      ∀ e, r = .error e → d.book = .ofCalls capacity d.others ∧
        if s.fileSize ≠ s.file.length then
          e = .storage (.sizeMismatch s.fileSize s.file.length) ∧ d.submitted = [] ∧
            Adds [] m d.store
        else if s.metacardSize ≠ s.metacard.length then
          e = .storage (.sizeMismatch s.metacardSize s.metacard.length) ∧ d.submitted = [] ∧
            Adds [(⟨p.name, .file⟩, s.fileUpload.toArtifact)] m d.store
        else
          (∃ f, p.submit (p.job site) = .error f ∧ e = .submission f) ∧
            d.submitted.map Prod.fst = [p.job site] ∧
            Adds [(⟨p.name, .metacard⟩, s.metacardUpload.toArtifact),
              (⟨p.name, .file⟩, s.fileUpload.toArtifact)] m d.store := by
  have hstands := (Stands.start p site s m capacity calls).reaches h
  refine ⟨hstands.submitted, fun key a ha => ?_, hstands.goes_on, hstands.ends, fun r hr => ?_⟩
  · rw [hstands.kept key, ha]
    intro hkey
    obtain ⟨dataset, kind⟩ := key
    obtain rfl : dataset = p.name := hkey
    rw [hfresh] at ha
    cases ha
  · obtain ⟨url?, hends, hline⟩ := hstands.rest
    rw [hr] at hends
    have hbook (hnone : url? = none) : d.book = .ofCalls capacity d.others := by
      subst hnone
      cases hline with
      | away _ _ hbook => exact hbook
      | brings hwork => cases hr.symm.trans hwork
    generalize hstore : d.store = m' at hends ⊢
    generalize hjobs : d.submitted = jobs at hends ⊢
    cases hends with
    | fileRefused hfile =>
        refine ⟨by simp [hfile], nofun, fun e he => ?_⟩
        cases he
        exact ⟨hbook rfl, by simpa [hfile] using adds_nil m⟩
    | metacardRefused hfile hcard =>
        refine ⟨by simp [hcard], nofun, fun e he => ?_⟩
        cases he
        exact ⟨hbook rfl, by simpa [hfile, hcard] using adds_withFile p s m⟩
    | notSubmitted hfile hcard he =>
        refine ⟨by simp [he], nofun, fun e he' => ?_⟩
        cases he'
        exact ⟨hbook rfl, by simpa [hfile, hcard, he] using adds_withBoth p s m⟩
    | admitted hfile hcard hurl =>
        refine ⟨by simp [hfile, hcard, hurl], fun id hid => ?_, nofun⟩
        cases hid
        cases hline with
        | done hbrought hin => exact ⟨rfl, rfl, _, _, _, _, hurl, hbrought, hin⟩

/-- A dataset is taken in at a line that is full when its task is brought. -/
theorem ingest_settles_fullLine :
    let p : Partners := ⟨"b", fun _ => .ok "/jobs/1"⟩
    let calls : List (Poll.Line.Call Task) := [.put (.new "a" "/jobs/0" 0)]
    (∀ kind, stagedDataset.get? ⟨p.name, kind⟩ = none) ∧
    ∃ d, ReflTransGen (Step p)
        (start ⟨"http://s"⟩ ⟨1, "image/tiff", [1], none, 1, [2]⟩ stagedDataset 1 calls) d ∧
      d.work = .done (.ok "b") ∧
      (∀ key a, stagedDataset.get? key = some a → d.store.get? key = some a) ∧
      ∃ now before after, d.Brought 1 calls before after (.new "b" "/jobs/1" now) ∧
        before.length ∈ d.book.entered := by
  intro p calls
  have hfresh : ∀ kind, stagedDataset.get? ⟨p.name, kind⟩ = none := fun kind => by cases kind <;> rfl
  obtain ⟨d, r, _, hreach, hdone, _⟩ := (Stands.start p ⟨"http://s"⟩
    ⟨1, "image/tiff", [1], none, 1, [2]⟩ stagedDataset 1 calls).ends
  obtain ⟨-, hkept, -, -, hsettled⟩ := ingest_settles hfresh hreach
  obtain ⟨hok, hadmitted, -⟩ := hsettled r hdone
  obtain ⟨id, rfl⟩ := hok.mpr ⟨rfl, rfl, "/jobs/1", rfl⟩
  obtain ⟨rfl, -, url, now, before, after, hurl, hbrought, hin⟩ := hadmitted id rfl
  cases hurl
  exact ⟨hfresh, d, hreach, hdone, hkept, now, before, after, hbrought, hin⟩

end Desk
end Intake.Service
