import Intake.Service.Call

/-!
# The life of a dataset

A dataset is staged and handed to the transform service, promoted with what that service made of it,
read back, and removed. Nothing here is retried: a later step that fails leaves behind what earlier
steps have done.
-/

namespace Intake.Service

open Artifact (Key Kind Metadata Status Upload)
open Remote (Outcome Product)

/-- The address under which the service is reached, as given. -/
structure Site where
  base : String
  deriving Repr, DecidableEq

/-- A site from its address, of which blanks around and slashes at the end do not count. -/
def Site.ofAddress (raw : String) : Site := ⟨Text.trimEndOf '/' (Text.trim raw)⟩

/-- The address under which others read an artifact. -/
def Site.artifactUrl (s : Site) (dataset : String) (kind : Kind) : String :=
  s.base ++ "/datasets/" ++ dataset ++ "/" ++ kind.name

/-- A dataset as it is handed in; the sizes are what the sender declares. -/
structure Submission where
  fileSize : Nat
  mediaType : String
  file : Bytes
  fileName : Option String
  metacardSize : Nat
  metacard : Bytes
  deriving Repr, DecidableEq

/-- The media type of a metacard that is handed in. -/
def metacardMediaType : String := "application/xml"

namespace Submission

def fileUpload (s : Submission) : Upload where
  mediaType := s.mediaType
  content := s.file
  metadata := ⟨s.fileName, .staged⟩
  size := s.fileSize

def metacardUpload (s : Submission) : Upload where
  mediaType := metacardMediaType
  content := s.metacard
  metadata := ⟨none, .staged⟩
  size := s.metacardSize

end Submission

/-- Stages a dataset, submits it and puts its poll task into the line. -/
def stage (site : Site) (dataset : String) (s : Submission) : Work (Except Fault Unit) := do
  match ← call (.store ⟨dataset, .file⟩ s.fileUpload) with
  | .error e => return .error (.storage e)
  | .ok () =>
    match ← call (.store ⟨dataset, .metacard⟩ s.metacardUpload) with
    | .error e => return .error (.storage e)
    | .ok () =>
      let job := ⟨dataset, site.artifactUrl dataset .file, site.artifactUrl dataset .metacard⟩
      match ← call (.submit job) with
      | .error e => return .error (.submission e)
      | .ok statusUrl =>
        match ← call (.enqueue dataset statusUrl) with
        | .error e => return .error (.queue e)
        | .ok () =>
          call (.report (.datasetStaged dataset statusUrl))
          return .ok ()

/-- Takes a dataset in and answers with its name. -/
def ingest (site : Site) (s : Submission) : Work (Except Fault String) := do
  let dataset ← call .freshName
  match ← stage site dataset s with
  | .ok () =>
    call (.count .datasetsIngested)
    return .ok dataset
  | .error e =>
    call (.report (.ingestFailed dataset e.message))
    call (.count .datasetsFailed)
    return .error e

/-- Deletes artifacts until one cannot be deleted. -/
def deleteAll (dataset : String) : List Kind → Work (Except Store.Fault Unit)
  | [] => return .ok ()
  | kind :: kinds => do
    match ← call (.delete ⟨dataset, kind⟩) with
    | .error e => return .error e
    | .ok () => deleteAll dataset kinds

def quarantine (dataset : String) : Work (Except Fault Unit) := do
  match ← deleteAll dataset Kind.all with
  | .error e => return .error (.storage e)
  | .ok () =>
    call (.report (.datasetQuarantined dataset))
    call (.count .datasetsQuarantined)
    return .ok ()

structure Download where
  mediaType : String
  content : Bytes
  fileName : Option String
  deriving Repr, DecidableEq

/-- Reads an artifact that may be handed out. -/
def download (dataset : String) (kind : Kind) : Work (Except Fault Download) := do
  match ← call (.retrieve ⟨dataset, kind⟩) with
  | .error (.notFound _) => return .error (.notFound dataset kind)
  | .error e => return .error (.storage e)
  | .ok a =>
    if a.metadata.status.isRetrievable then
      return .ok ⟨a.mediaType, a.content, a.metadata.fileName⟩
    else return .error (.notFound dataset kind)

/-! ## Promotion -/

/-- The kind under which a product is kept; the file is never replaced. -/
def replaceable? (p : Product) : Option Kind :=
  match Kind.ofText? p.kind with
  | some .irm => some .irm
  | some .metacard => some .metacard
  | some .file | none => none

/-- What a fetched description is stored as. -/
def fetchedUpload (f : Remote.Fetched) : Upload where
  mediaType := f.mediaType
  content := f.content
  metadata := ⟨none, .stored⟩
  size := f.content.length

/-- Fetches one product and stores it; the metacard it replaces is deleted first. -/
def adopt (dataset : String) (kind : Kind) (location : String) : Work (Except Outcome Unit) := do
  match ← call (.fetch location) with
  | .error e => return .error (outcomeOfFetch e)
  | .ok f =>
    let cleared : Except Store.Fault Unit ←
      if kind = .metacard then call (.delete ⟨dataset, kind⟩) else pure (.ok ())
    match cleared with
    | .error e => return .error (outcomeOf e)
    | .ok () =>
      match ← call (.store ⟨dataset, kind⟩ (fetchedUpload f)) with
      | .error e => return .error (outcomeOf e)
      | .ok () => return .ok ()

/-- Takes over the products in turn; says whether a metacard was among them. -/
def adoptAll (dataset : String) : List Product → Bool → Work (Except Outcome Bool)
  | [], replaced => return .ok replaced
  | p :: ps, replaced => do
    match replaceable? p with
    | none =>
      call (.report (.metadataSkipped dataset p.kind))
      adoptAll dataset ps replaced
    | some kind =>
      match ← adopt dataset kind p.location with
      | .error o => return .error o
      | .ok () => adoptAll dataset ps (replaced || kind = .metacard)

/-- Approves the metacard that was handed in, if it is still there. -/
def approveMetacard (dataset : String) : Work (Except Outcome Unit) := do
  match ← call (.setStatus ⟨dataset, .metacard⟩ .stored) with
  | .ok () => return .ok ()
  | .error (.notFound _) => return .ok ()
  | .error e => return .error (outcomeOf e)

def announce (site : Site) (dataset : String) : Work Outcome := do
  let outcome ← call (.index dataset ⟨site.artifactUrl dataset .file,
    site.artifactUrl dataset .irm, site.artifactUrl dataset .metacard⟩)
  if outcome = .success then
    call (.report (.datasetPromoted dataset))
    call (.count .datasetsPromoted)
  return outcome

/-- Stores the products of a transformation, approves the file and has the dataset indexed. -/
def promote (site : Site) (dataset : String) (products : List Product) : Work Outcome := do
  match ← call (.status ⟨dataset, .file⟩) with
  | .error e => return outcomeOf e
  | .ok _ =>
    match ← adoptAll dataset products false with
    | .error o => return o
    | .ok replaced =>
      let approved : Except Outcome Unit ←
        if replaced then pure (.ok ()) else approveMetacard dataset
      match approved with
      | .error o => return o
      | .ok () =>
        match ← call (.setStatus ⟨dataset, .file⟩ .stored) with
        | .error e => return outcomeOf e
        | .ok () => announce site dataset

/-- Removes a dataset whose transformation failed. -/
def reject (dataset : String) : Work Outcome := do
  match ← quarantine dataset with
  | .ok () => return .success
  | .error (.storage e) => return outcomeOf e
  | .error e => return .transient e.message

end Intake.Service
