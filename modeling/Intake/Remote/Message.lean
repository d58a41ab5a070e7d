import Intake.Bytes
import Intake.Json.Value

/-!
# What is said to the services called

Requests to the transform and the index service, and what the transform service answers.
-/

namespace Intake.Remote

structure Job where
  dataset : String
  product : String
  metacard : String
  deriving Repr, DecidableEq

def Job.toJson (j : Job) : Json.Value :=
  .object [("id", .text j.dataset), ("productLocation", .text j.product),
    ("metacardLocation", .text j.metacard)]

/-- A request to index a dataset: where its three artifacts are. -/
structure IndexRequest where
  file : String
  irm : String
  metacard : String
  deriving Repr, DecidableEq

def IndexRequest.toJson (r : IndexRequest) : Json.Value :=
  .object [("fileLocation", .text r.file), ("irmLocation", .text r.irm),
    ("metacardLocation", .text r.metacard)]

/-- A description that a job has made: what it is, and where. -/
structure Product where
  kind : String
  location : String
  deriving Repr, DecidableEq

/-- What the transform service says of a job. -/
inductive Progress
  | inProgress
  | done (products : List Product)
  | failed (products : List Product)
  /-- The job is unknown. -/
  | notFound
  | transient (reason : String)
  deriving Repr, DecidableEq

structure Fetched where
  mediaType : String
  content : Bytes
  deriving Repr, DecidableEq

end Intake.Remote
