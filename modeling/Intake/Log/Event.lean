import Intake.Poll.DeadLetter
import Intake.Net.SocketAddress

/-!
# Log events

What the service reports of itself, each event with its level, its name and its fields.
-/

namespace Intake.Log

inductive Level
  | info
  | warn
  | error
  deriving Repr, DecidableEq

namespace Level

def name : Level → String
  | info => "INFO"
  | warn => "WARN"
  | error => "ERROR"

end Level

inductive Field
  | text (s : String)
  | number (n : Nat)
  deriving Repr, DecidableEq

def Field.plain : Field → String
  | text s => s
  | number n => Text.decimal n

def Field.toJson : Field → Json.Value
  | text s => .text s
  | number n => .nat n

/-- Who a process is, as it introduces itself. -/
structure Identity where
  service : String
  mode : String
  environment : String
  runId : String
  buildVersion : String
  buildCommit : String
  format : String
  deriving Repr, DecidableEq

inductive Event
  | loggingInitialized (who : Identity)
  | configInvalid (report : String)
  | serviceFailed (report : String)
  | storeSelected (directory : Option String)
  | serverListening (address : Net.SocketAddress)
  | schedulerStarted (poolSize queueCapacity : Nat)
  | schedulerStopped (queued : Nat)
  | shutdownSignal (signal : String)
  | shutdownComplete (dropped : Nat)
  | datasetAccepted (dataset : String)
  | datasetStaged (dataset statusUrl : String)
  | ingestFailed (dataset error : String)
  | datasetPromoted (dataset : String)
  | datasetQuarantined (dataset : String)
  | metadataSkipped (dataset metadataType : String)
  | requestFailed (status : Nat) (error : String)
  | taskCompleted (dataset verdict : String) (attempts : Nat)
  | taskGivenUp (letter : Poll.DeadLetter)
  | jobVanished (dataset statusUrl : String)
  | targetMissing (dataset verdict : String)
  | cleanupFailed (dataset statusUrl error : String)
  deriving Repr, DecidableEq

namespace Event

def level : Event → Level
  | storeSelected none | ingestFailed .. | metadataSkipped .. | cleanupFailed .. => .warn
  | configInvalid _ | serviceFailed _ | requestFailed .. | taskGivenUp _ => .error
  | _ => .info

def name : Event → String
  | loggingInitialized _ => "logging_initialized"
  | configInvalid _ => "config_invalid"
  | serviceFailed _ => "service_failed"
  | storeSelected _ => "artifact_store_selected"
  | serverListening _ => "http_server_listening"
  | schedulerStarted .. => "status_service_started"
  | schedulerStopped _ => "status_service_stopped"
  | shutdownSignal _ => "shutdown_signal"
  | shutdownComplete _ => "shutdown_complete"
  | datasetAccepted _ => "dataset_accepted"
  | datasetStaged .. => "dataset_staged"
  | ingestFailed .. => "dataset_ingest_failed"
  | datasetPromoted _ => "dataset_promoted"
  | datasetQuarantined _ => "dataset_quarantined"
  | metadataSkipped .. => "metadata_artifact_skipped"
  | requestFailed .. => "api_request_failed"
  | taskCompleted .. => "transform_task_completed"
  | taskGivenUp _ => "transform_task_dead_lettered"
  | jobVanished .. => "transform_job_vanished"
  | targetMissing .. => "reconciliation_target_missing"
  | cleanupFailed .. => "transform_record_cleanup_failed"

/-- The target under which an event is filtered: the program as a whole, or the service it runs. -/
def target : Event → String
  | configInvalid _ | serviceFailed _ | storeSelected _ | shutdownSignal _ | shutdownComplete _ =>
    "dataset_ingest"
  | _ => "dataset_ingest_lib"

def fields : Event → List (String × Field)
  | loggingInitialized who =>
    [("service", .text who.service), ("environment", .text who.environment),
      ("mode", .text who.mode), ("run_id", .text who.runId),
      ("build_version", .text who.buildVersion), ("build_commit", .text who.buildCommit),
      ("log_format", .text who.format)]
  | configInvalid report | serviceFailed report => [("report", .text report)]
  | storeSelected none => [("backend", .text "memory")]
  | storeSelected (some dir) => [("backend", .text "filesystem"), ("root", .text dir)]
  | serverListening a => [("addr", .text a.text)]
  | schedulerStarted poolSize queueCapacity =>
    [("pool_size", .number poolSize), ("queue_capacity", .number queueCapacity)]
  | schedulerStopped queued => [("queued_tasks", .number queued)]
  | shutdownSignal signal => [("signal", .text signal)]
  | shutdownComplete dropped => [("dropped_tasks", .number dropped)]
  | datasetAccepted d | datasetPromoted d | datasetQuarantined d => [("dataset_id", .text d)]
  | datasetStaged d url | jobVanished d url =>
    [("dataset_id", .text d), ("transform_status_url", .text url)]
  | ingestFailed d e => [("dataset_id", .text d), ("error", .text e)]
  | metadataSkipped d t => [("dataset_id", .text d), ("metadata_type", .text t)]
  | requestFailed status e => [("status", .number status), ("error", .text e)]
  | taskCompleted d verdict attempts =>
    [("dataset_id", .text d), ("verdict", .text verdict), ("attempts", .number attempts)]
  | taskGivenUp l =>
    [("dataset_id", .text l.dataset), ("transform_status_url", .text l.statusUrl),
      ("attempts", .number l.attempts), ("reason", .text l.reason.name)]
  | targetMissing d verdict => [("dataset_id", .text d), ("verdict", .text verdict)]
  | cleanupFailed d url e =>
    [("dataset_id", .text d), ("transform_status_url", .text url), ("error", .text e)]

/-- An event as a JSON object, its fields written by `field`. -/
def toJson (field : Field → Json.Value) (e : Event) : Json.Value :=
  .object (("level", .text e.level.name) :: ("event", .text e.name)
    :: e.fields.map fun (n, v) => (n, field v))

end Event
end Intake.Log
