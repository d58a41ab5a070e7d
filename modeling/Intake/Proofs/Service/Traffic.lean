import Intake.Proofs.Script
import Intake.Proofs.Service.Settlement

/-!
# Many pieces of work at once

Any number of jobs run on one store, call by call in any order. The name that an ingest is given is
new, and nobody else knows it until the ingest has handed it to the transform service or has failed:
until then no other job is started on that dataset.
-/

namespace Intake

namespace Service

open Store (Memory)
open Artifact (Key Kind)
open Remote (Product)
open Relation (ReflTransGen)

/-! ## Jobs -/

inductive Job
  | ingest (site : Site) (s : Submission)
  | promote (site : Site) (dataset : String) (ps : List Product)
  | quarantine (dataset : String)
  | reject (dataset : String)
  /-- One poll of a task and what follows from it. -/
  | attempt (site : Site) (t : Poll.Task)
  | download (dataset : String) (kind : Kind)

namespace Job

def work : Job → Work Unit
  | ingest site s => do let _ ← Service.ingest site s
  | promote site dataset ps => do let _ ← Service.promote site dataset ps
  | quarantine dataset => do let _ ← Service.quarantine dataset
  | reject dataset => do let _ ← Service.reject dataset
  | attempt site t => do let _ ← Poll.attempt ⟨Service.promote site, Service.reject⟩ t
  | download dataset kind => do let _ ← Service.download dataset kind

/-- The dataset that a job is about; an ingest is given its own. -/
def dataset? : Job → Option String
  | ingest .. => none
  | promote _ dataset _ | quarantine dataset | reject dataset | download dataset _ => some dataset
  | attempt _ t => some t.dataset

end Job

/-! ## Traffic -/

/-- A job under way. -/
structure Thread where
  /-- The name that it has been given and has not handed on. -/
  secret? : Option String
  work : Work Unit

def Thread.Hides (th : Thread) (dataset : String) : Prop :=
  th.secret? = some dataset ∧ th.work.result? = none

structure Traffic where
  store : Memory
  /-- The names that have been given, or that a job has been started with. -/
  known : List String
  threads : List Thread

namespace Exchange

def name? : Exchange → Option String
  | ⟨.freshName, dataset⟩ => some dataset
  | _ => none

/-- The secret of a thread after an exchange. A submission hands it on, and an upload that is not stored
puts an end to the ingest. -/
def secretAfter (secret? : Option String) : Exchange → Option String
  | ⟨.freshName, dataset⟩ => some dataset
  | ⟨.submit _, _⟩ | ⟨.store _ _, .error _⟩ => none
  | _ => secret?

end Exchange

/-- As `Answers`, but for a fetch, which may be answered by anything. -/
def Serves (m m' : Memory) : (c : Call) → c.Reply → Prop
  | .fetch _, _ => m' = m
  | c, r => Answers m m' c r

section

variable {m m' : Memory} {c : Call} {r : c.Reply}

theorem Serves.answers (h : Serves m m' c r) (hc : c.isFetch = false) : Answers m m' c r := by
  cases c with
  | fetch => cases hc
  | _ => exact h

theorem Answers.serves (h : Answers m m' c r) : Serves m m' c r := by
  cases c with
  | fetch => exact h.1
  | _ => exact h

end

namespace Traffic

/-- Before the first job. -/
def atRest : Traffic := ⟨.empty, [], []⟩

inductive Step : Traffic → Traffic → Prop
  | start {t : Traffic} (job : Job)
      (hopen : ∀ dataset, job.dataset? = some dataset → ∀ th ∈ t.threads, ¬ th.Hides dataset) :
      Step t { t with
        known := job.dataset?.toList ++ t.known
        threads := t.threads ++ [⟨none, job.work⟩] }
  | call {t : Traffic} {i : Nat} {secret? : Option String} {c : Call} {next : c.Reply → Work Unit}
      {r : c.Reply} {m : Memory} (hthread : t.threads[i]? = some ⟨secret?, .ask c next⟩)
      (hserves : Serves t.store m c r)
      (hnew : ∀ dataset, Exchange.name? ⟨c, r⟩ = some dataset → dataset ∉ t.known) :
      Step t {
        store := m
        known := (Exchange.name? ⟨c, r⟩).toList ++ t.known
        threads := t.threads.set i ⟨Exchange.secretAfter secret? ⟨c, r⟩, next r⟩ }

abbrev Leads : Traffic → Traffic → Prop := ReflTransGen Step

end Traffic

/-! ## What a job may do -/

theorem always_call {P : Call → Prop} {α : Type} {c : Call} {f : c.Reply → Work α} (hc : P c)
    (hf : ∀ r, (f r).Always P) : (call c >>= f).Always P :=
  ⟨hc, hf⟩

/-- What is done to a dataset once its name is known: all that is stored is approved, and the file is
not stored again. -/
def Call.Tends (dataset : String) : Call → Prop
  | .store key u => key.dataset = dataset ∧ key.kind ≠ .file ∧ u.metadata.status = .stored
  | .delete key => key.dataset = dataset
  | .setStatus key s => key.dataset = dataset ∧ s = .stored
  | .freshName => False
  | _ => True

/-- A call that neither changes the store nor asks for a name. -/
def Call.Quiet (c : Call) : Prop := c.target? = none ∧ c ≠ .freshName

namespace Call

/-- The calls of a quarantine. -/
inductive Removes (dataset : String) : Call → Prop
  | delete (kind : Kind) : Removes dataset (.delete ⟨dataset, kind⟩)
  | report (e : Log.Event) : Removes dataset (.report e)
  | count : Removes dataset (.count .datasetsQuarantined)

/-- The calls by which the products of a transformation are taken over. -/
inductive Adopts (dataset : String) : Call → Prop
  | fetch (location : String) : Adopts dataset (.fetch location)
  | delete (kind : Kind) : Adopts dataset (.delete ⟨dataset, kind⟩)
  | store {kind : Kind} (hkind : kind ≠ .file) (f : Remote.Fetched) :
      Adopts dataset (.store ⟨dataset, kind⟩ (fetchedUpload f))
  | report (e : Log.Event) : Adopts dataset (.report e)

/-- The calls of a poll that has begun, but for those that reconcile the dataset. -/
inductive Inquires : Call → Prop
  | poll (statusUrl : String) : Inquires (.poll statusUrl)
  | discard (statusUrl : String) : Inquires (.discard statusUrl)
  | report (e : Log.Event) : Inquires (.report e)
  | count : Inquires (.count .cleanupFailures)

/-- The calls of a poll that has begun, and of what follows from it. -/
inductive Reconciles (dataset : String) : Call → Prop
  | status (kind : Kind) : Reconciles dataset (.status ⟨dataset, kind⟩)
  | approve (kind : Kind) : Reconciles dataset (.setStatus ⟨dataset, kind⟩ .stored)
  | index (req : Remote.IndexRequest) : Reconciles dataset (.index dataset req)
  | count : Reconciles dataset (.count .datasetsPromoted)
  | removes {c : Call} (h : Removes dataset c) : Reconciles dataset c
  | adopts {c : Call} (h : Adopts dataset c) : Reconciles dataset c
  | inquires {c : Call} (h : Inquires c) : Reconciles dataset c

/-- All that is asked for on behalf of a dataset whose name is known. -/
inductive Tending (dataset : String) : Call → Prop
  | retrieve (kind : Kind) : Tending dataset (.retrieve ⟨dataset, kind⟩)
  | count : Tending dataset (.count .polls)
  | reconciles {c : Call} (h : Reconciles dataset c) : Tending dataset c

variable {dataset : String} {c : Call}

theorem Quiet.tends (h : c.Quiet) (dataset : String) : c.Tends dataset := by
  cases c with
  | store => cases h.1
  | delete => cases h.1
  | setStatus => cases h.1
  | freshName => exact h.2 rfl
  | _ => trivial

theorem Inquires.quiet (h : c.Inquires) : c.Quiet := by
  cases h <;> exact ⟨rfl, by simp⟩

theorem Reconciles.tends (h : c.Reconciles dataset) : c.Tends dataset := by
  cases h with
  | status => trivial
  | approve => exact ⟨rfl, rfl⟩
  | index => trivial
  | count => trivial
  | removes h => cases h <;> trivial
  | adopts h =>
      cases h with
      | store hkind => exact ⟨rfl, hkind, rfl⟩
      | delete => rfl
      | _ => trivial
  | inquires h => exact h.quiet.tends dataset

theorem Tending.tends (h : c.Tending dataset) : c.Tends dataset := by
  cases h with
  | reconciles h => exact h.tends
  | _ => trivial

end Call

section

variable {dataset : String} {site : Site}

theorem removes_deleteAll (kinds : List Kind) :
    (deleteAll dataset kinds).Always (Call.Removes dataset) := by
  induction kinds with
  | nil => trivial
  | cons kind kinds ih =>
      refine ⟨.delete kind, fun r => ?_⟩
      cases r with
      | error e => trivial
      | ok => exact ih

theorem removes_quarantine : (quarantine dataset).Always (Call.Removes dataset) := by
  refine (removes_deleteAll _).bind fun r => ?_
  cases r with
  | error e => trivial
  | ok => exact ⟨.report _, fun _ => ⟨.count, fun _ => trivial⟩⟩

theorem removes_reject : (reject dataset).Always (Call.Removes dataset) := by
  refine removes_quarantine.bind fun r => ?_
  cases r with
  | error e => cases e <;> trivial
  | ok => trivial

theorem always_download {P : Call → Prop} {kind : Kind} (hP : P (.retrieve ⟨dataset, kind⟩)) :
    (download dataset kind).Always P := by
  refine always_call hP fun r => ?_
  cases r with
  | error e => cases e <;> trivial
  | ok a =>
      simp only
      split <;> trivial

theorem adopts_storeFetched {kind : Kind} (hkind : kind ≠ .file) (f : Remote.Fetched) :
    (do
      match ← call (.store ⟨dataset, kind⟩ (fetchedUpload f)) with
      | .error e => return .error (outcomeOf e)
      | .ok () => return .ok () : Work (Except Remote.Outcome Unit)).Always
      (Call.Adopts dataset) := by
  refine always_call (.store hkind f) fun r => ?_
  cases r <;> trivial

theorem adopts_adopt {kind : Kind} (hkind : kind ≠ .file) (location : String) :
    (adopt dataset kind location).Always (Call.Adopts dataset) := by
  refine always_call (.fetch location) fun r => ?_
  cases r with
  | error e => trivial
  | ok f =>
      simp only
      split
      · refine always_call (.delete kind) fun r => ?_
        cases r with
        | error e => trivial
        | ok => exact adopts_storeFetched hkind f
      · exact adopts_storeFetched hkind f

theorem adopts_adoptAll (ps : List Product) (b : Bool) :
    (adoptAll dataset ps b).Always (Call.Adopts dataset) := by
  induction ps generalizing b with
  | nil => trivial
  | cons p ps ih =>
      rw [adoptAll]
      cases hp : replaceable? p with
      | none => exact ⟨.report _, fun _ => ih b⟩
      | some kind =>
          refine (adopts_adopt (replaceable?_ne_file hp) _).bind fun r => ?_
          cases r with
          | error o => trivial
          | ok => exact ih _

theorem always_approveMetacard {P : Call → Prop} (hP : P (.setStatus ⟨dataset, .metacard⟩ .stored)) :
    (approveMetacard dataset).Always P := by
  refine ⟨hP, fun r => ?_⟩
  cases r with
  | ok => trivial
  | error e => cases e <;> trivial

theorem reconciles_announce : (announce site dataset).Always (Call.Reconciles dataset) := by
  refine always_call (.index _) fun r => ?_
  simp only
  split
  · exact ⟨.inquires (.report _), fun _ => ⟨.count, fun _ => trivial⟩⟩
  · trivial

theorem reconciles_approveFile :
    (do
      match ← call (.setStatus ⟨dataset, .file⟩ .stored) with
      | .error e => return outcomeOf e
      | .ok () => announce site dataset : Work Remote.Outcome).Always (Call.Reconciles dataset) := by
  refine always_call (.approve .file) fun r => ?_
  cases r with
  | error e => trivial
  | ok => exact reconciles_announce

theorem reconciles_promote (ps : List Product) :
    (promote site dataset ps).Always (Call.Reconciles dataset) := by
  refine always_call (.status .file) fun r => ?_
  cases r with
  | error e => trivial
  | ok s =>
      refine ((adopts_adoptAll ps false).mono fun _ => .adopts).bind fun r => ?_
      cases r with
      | error o => trivial
      | ok replaced =>
          simp only
          split
          · exact reconciles_approveFile
          · refine (always_approveMetacard (.approve .metacard)).bind fun approved => ?_
            cases approved with
            | error o => trivial
            | ok => exact reconciles_approveFile

theorem inquires_discardRecord (t : Poll.Task) : (Poll.discardRecord t).Always Call.Inquires := by
  refine ⟨.discard _, fun r => ?_⟩
  cases r with
  | ok => trivial
  | error e => exact ⟨.report _, fun _ => ⟨.count, fun _ => trivial⟩⟩

theorem inquires_settle (t : Poll.Task) (v : Poll.Verdict) (o : Remote.Outcome) :
    (Poll.settle t v o).Always Call.Inquires := by
  cases o with
  | success => exact (inquires_discardRecord t).bind fun _ => trivial
  | notFound => exact ⟨.report _, fun _ => (inquires_discardRecord t).bind fun _ => trivial⟩
  | badRequest reason => trivial
  | transient reason => trivial

theorem inquires_inquire (t : Poll.Task) :
    ∃ next, Poll.inquire t = .ask (.count .polls) next ∧ (next ()).Always Call.Inquires := by
  refine ⟨_, rfl, .poll _, fun p => ?_⟩
  cases p with
  | notFound => exact ⟨.report _, fun _ => trivial⟩
  | _ => trivial

/-- A poll is counted first of all, and not again. -/
theorem reconciles_attempt (t : Poll.Task) :
    ∃ next, Poll.attempt ⟨promote site, reject⟩ t = .ask (.count .polls) next ∧
      (next ()).Always (Call.Reconciles t.dataset) := by
  obtain ⟨next, hinquire, hnext⟩ := inquires_inquire t
  rw [Poll.attempt, hinquire]
  refine ⟨_, rfl, (hnext.mono fun _ => .inquires).bind fun f => ?_⟩
  rcases f with o | ps | _
  · trivial
  · exact (reconciles_promote ps).bind fun o => (inquires_settle t _ o).mono fun _ => .inquires
  · exact (removes_reject.mono fun _ => .removes).bind fun o =>
      (inquires_settle t _ o).mono fun _ => .inquires

theorem tending_attempt (t : Poll.Task) :
    (Poll.attempt ⟨promote site, reject⟩ t).Always (Call.Tending t.dataset) := by
  obtain ⟨next, hattempt, hnext⟩ := @reconciles_attempt site t
  rw [hattempt]
  exact ⟨.count, fun _ => hnext.mono fun _ => .reconciles⟩

theorem Job.tending_work {job : Job} (h : job.dataset? = some dataset) :
    job.work.Always (Call.Tending dataset) := by
  cases job with
  | ingest => cases h
  | promote site d ps =>
      obtain rfl := Option.some.inj h
      exact ((reconciles_promote ps).mono fun _ => .reconciles).bind fun _ => trivial
  | quarantine d =>
      obtain rfl := Option.some.inj h
      exact (removes_quarantine.mono fun _ h => .reconciles (.removes h)).bind fun _ => trivial
  | reject d =>
      obtain rfl := Option.some.inj h
      exact (removes_reject.mono fun _ h => .reconciles (.removes h)).bind fun _ => trivial
  | attempt site t =>
      obtain rfl := Option.some.inj h
      exact (tending_attempt t).bind fun _ => trivial
  | download d kind =>
      obtain rfl := Option.some.inj h
      exact (always_download (.retrieve kind)).bind fun _ => trivial

/-- A job that is started on a dataset tends that dataset only. -/
theorem Job.tends_work {job : Job} (h : job.dataset? = some dataset) :
    job.work.Always (Call.Tends dataset) :=
  (Job.tending_work h).mono fun _ => Call.Tending.tends

end

/-! ## An ingest, step by step -/

/-- How far the staging of a dataset has come. -/
inductive Phase
  /-- Nobody knows the name. -/
  | unnamed
  /-- The name has been given, and the file is to be stored. -/
  | named
  /-- The file is stored, and the metacard is to be. -/
  | filed
  /-- Both are stored, and the dataset is to be submitted. -/
  | staged
  /-- The name has been handed on, or staging has failed. -/
  | released
  deriving DecidableEq

/-- What is left of an ingest in a phase of its dataset. -/
inductive Staging (dataset : String) : Phase → Work Unit → Prop
  | named {u : Artifact.Upload} {next : Except Store.Fault Unit → Work Unit}
      (hu : u.metadata.status = .staged) (hfailed : ∀ e, (next (.error e)).Always Call.Quiet)
      (hstored : Staging dataset .filed (next (.ok ()))) :
      Staging dataset .named (.ask (.store ⟨dataset, .file⟩ u) next)
  | filed {u : Artifact.Upload} {next : Except Store.Fault Unit → Work Unit}
      (hu : u.metadata.status = .staged) (hfailed : ∀ e, (next (.error e)).Always Call.Quiet)
      (hstored : Staging dataset .staged (next (.ok ()))) :
      Staging dataset .filed (.ask (.store ⟨dataset, .metacard⟩ u) next)
  | staged {job : Remote.Job} {next : Except Remote.Fault String → Work Unit}
      (hafter : ∀ r, (next r).Always Call.Quiet) : Staging dataset .staged (.ask (.submit job) next)

/-- An ingest that has not been given a name. -/
def IsArriving (w : Work Unit) : Prop := ∃ site s, w = (Job.ingest site s).work

section

variable {dataset : String}

/-- What an ingest does once it has its name. -/
def afterName (site : Site) (s : Submission) (dataset : String) : Work Unit := do
  let _ ← show Work (Except Fault String) from do
    match ← stage site dataset s with
    | .ok () =>
      call (.count .datasetsIngested)
      return .ok dataset
    | .error e =>
      call (.report (.ingestFailed dataset e.message))
      call (.count .datasetsFailed)
      return .error e

theorem work_ingest (site : Site) (s : Submission) :
    (Job.ingest site s).work = .ask .freshName (afterName site s) := rfl

theorem staging_afterName (site : Site) (s : Submission) (dataset : String) :
    Staging dataset .named (afterName site s dataset) := by
  have hreport : ∀ (e : Log.Event) (c : Metrics.Counter), (do
      call (.report e)
      call (.count c) : Work Unit).Always Call.Quiet := fun e c =>
    ⟨⟨rfl, by simp⟩, fun _ => ⟨⟨rfl, by simp⟩, fun _ => trivial⟩⟩
  -- Whatever fails, it is reported and counted, and nothing else is done.
  refine .named rfl (fun e => hreport _ _) (.filed rfl (fun e => hreport _ _) (.staged fun r => ?_))
  cases r with
  | error e => exact hreport _ _
  | ok url =>
      refine ⟨⟨rfl, by simp⟩, fun r => ?_⟩
      cases r with
      | error e => exact hreport _ _
      | ok => exact ⟨⟨rfl, by simp⟩, fun _ => ⟨⟨rfl, by simp⟩, fun _ => trivial⟩⟩

/-- All that an ingest does with its name is to store its uploads and hand it on. -/
theorem Staging.always {P : Call → Prop} {p : Phase} {w : Work Unit} (h : Staging dataset p w)
    (hstore : ∀ kind u, P (.store ⟨dataset, kind⟩ u)) (hquiet : ∀ c : Call, c.Quiet → P c) :
    w.Always P := by
  induction h with
  | named _ hfailed _ ih =>
      refine ⟨hstore .file _, fun r => ?_⟩
      cases r with
      | error e => exact (hfailed e).mono hquiet
      | ok => exact ih
  | filed _ hfailed _ ih =>
      refine ⟨hstore .metacard _, fun r => ?_⟩
      cases r with
      | error e => exact (hfailed e).mono hquiet
      | ok => exact ih
  | staged hafter => exact ⟨hquiet _ ⟨rfl, by simp⟩, fun r => (hafter r).mono hquiet⟩

end

/-! ## One job after the other -/

theorem Exchange.name?_of_ne {x : Exchange} (h : x.call ≠ .freshName) : x.name? = none := by
  obtain ⟨c, r⟩ := x
  cases c with
  | freshName => exact absurd rfl h
  | _ => rfl

namespace Traffic

/-- No job is under way. -/
def IsAtRest (t : Traffic) : Prop := ∀ th ∈ t.threads, th.work.result? ≠ none

variable {m : Memory} {known : List String} {ths : List Thread} {t : Traffic}

theorem step_last {secret? : Option String} {c : Call} {next : c.Reply → Work Unit} {r : c.Reply}
    {m' : Memory} (hanswers : Answers m m' c r)
    (hnew : ∀ d, Exchange.name? ⟨c, r⟩ = some d → d ∉ known) :
    Step ⟨m, known, ths ++ [⟨secret?, .ask c next⟩]⟩
      ⟨m', (Exchange.name? ⟨c, r⟩).toList ++ known,
        ths ++ [⟨Exchange.secretAfter secret? ⟨c, r⟩, next r⟩]⟩ := by
  have hlast : (ths ++ [⟨secret?, .ask c next⟩])[ths.length]? = some ⟨secret?, .ask c next⟩ := by
    simp
  have hstep := Step.call (t := ⟨m, known, _⟩) hlast hanswers.serves hnew
  rwa [List.set_append_right (h := Nat.le_refl _), Nat.sub_self] at hstep

/-- Work that needs no name can be done to its end while all others wait. -/
theorem leads_finish (m : Memory) (known : List String) (ths : List Thread)
    (secret? : Option String) {w : Work Unit} (p : Remote.Progress)
    (hw : w.Always (· ≠ .freshName)) :
    ∃ secret?', Leads ⟨m, known, ths ++ [⟨secret?, w⟩]⟩
      ⟨(w.run (willing p) m).2, known, ths ++ [⟨secret?', .done ()⟩]⟩ := by
  induction w generalizing m secret? with
  | done u => exact ⟨secret?, .refl⟩
  | ask c next ih =>
      have hname : Exchange.name? ⟨c, (willing p c m).1⟩ = none := Exchange.name?_of_ne hw.1
      have hstep : Step ⟨m, known, ths ++ [⟨secret?, .ask c next⟩]⟩ ⟨(willing p c m).2, _, _⟩ :=
        step_last (answers_willing p c m) (by simp [hname])
      rw [hname] at hstep
      obtain ⟨secret?', hrest⟩ := ih (willing p c m).1 (willing p c m).2
        (Exchange.secretAfter secret? ⟨c, (willing p c m).1⟩) (hw.2 _)
      exact ⟨secret?', .head hstep hrest⟩

theorem isAtRest_atRest : atRest.IsAtRest := by simp [IsAtRest, atRest]

theorem IsAtRest.append (h : t.IsAtRest) (secret? : Option String) :
    IsAtRest ⟨m, known, t.threads ++ [⟨secret?, .done ()⟩]⟩ := by
  intro th hth
  rcases List.mem_append.mp hth with hth | hth
  · exact h th hth
  · rw [List.mem_singleton.mp hth]
    simp [Script.result?]

theorem IsAtRest.leads_job (h : t.IsAtRest) (p : Remote.Progress) (job : Job) {dataset : String}
    (hjob : job.dataset? = some dataset) :
    ∃ t', t.Leads t' ∧ t'.IsAtRest ∧ t'.store = (job.work.run (willing p) t.store).2 := by
  have hstep := Step.start job fun d _ th hth hhides => h th hth hhides.2
  have hnames : job.work.Always (· ≠ .freshName) := by
    refine (Job.tends_work hjob).mono fun c hc hname => ?_
    rw [hname] at hc
    exact hc
  obtain ⟨secret?, hrest⟩ := leads_finish t.store (job.dataset?.toList ++ t.known) t.threads none p
    hnames
  exact ⟨_, .head hstep hrest, h.append secret?, rfl⟩

theorem IsAtRest.leads_ingest (h : t.IsAtRest) (dataset : String) (p : Remote.Progress)
    (site : Site) (s : Submission) (hnew : dataset ∉ t.known) :
    ∃ t', t.Leads t' ∧ t'.IsAtRest ∧
      t'.store = ((afterName site s dataset).run (willing p) t.store).2 := by
  have hstart := Step.start (t := t) (.ingest site s) (by simp [Job.dataset?])
  have hname : Step ⟨t.store, t.known, t.threads ++ [⟨none, (Job.ingest site s).work⟩]⟩
      ⟨t.store, dataset :: t.known, t.threads ++ [⟨some dataset, afterName site s dataset⟩]⟩ := by
    refine step_last (c := .freshName) (r := dataset) rfl ?_
    rintro _ ⟨⟩
    exact hnew
  have hnames : (afterName site s dataset).Always (· ≠ .freshName) :=
    (staging_afterName site s dataset).always (by simp) fun c hc => hc.2
  obtain ⟨secret?, hrest⟩ := leads_finish t.store (dataset :: t.known) t.threads (some dataset) p
    hnames
  exact ⟨_, .head hstart (.head hname hrest), h.append secret?, rfl⟩

end Traffic

end Service
end Intake
