import Intake.Metrics.Counter
import Intake.Build

/-!
# The text of metrics

Registered families in the order of their registration, each metric with a line of help, a line
with its type and a line with its value.
-/

namespace Intake.Metrics

inductive Group
  | ingest
  | polling
  | build
  deriving Repr, DecidableEq

/-- A registered family: its name stands before the names of its metrics. -/
structure Family where
  name : String
  group : Group
  deriving Repr, DecidableEq

def heading (name help type : String) : List String :=
  ["# HELP " ++ name ++ " " ++ help ++ ".", "# TYPE " ++ name ++ " " ++ type]

def counterLines (family : String) (t : Tally) (c : Counter) : List String :=
  let name := family ++ "_" ++ c.name
  heading name c.help "counter" ++ [name ++ "_total " ++ toString (t c)]

def gaugeLines (family : String) (g : Gauge → Int) (k : Gauge) : List String :=
  let name := family ++ "_" ++ k.name
  heading name k.help "gauge" ++ [name ++ " " ++ toString (g k)]

def buildLines (family : String) : List String :=
  let name := family ++ "_build_info"
  heading name "Build identity labels for this process" "gauge" ++
    [name ++ "\x7bservice=\"dataset_ingest\",version=\"" ++ Build.version ++ "\",commit=\""
      ++ Build.shortCommit ++ "\"\x7d 1"]

def Family.lines (t : Tally) (g : Gauge → Int) (f : Family) : List String :=
  match f.group with
  | .ingest => Counter.ofIngest.flatMap (counterLines f.name t)
  | .polling =>
    Counter.ofPolling.flatMap (counterLines f.name t) ++ Gauge.all.flatMap (gaugeLines f.name g)
  | .build => buildLines f.name

/-- All lines, closed by a mark. -/
def exposition (families : List Family) (t : Tally) (g : Gauge → Int) : List String :=
  families.flatMap (Family.lines t g) ++ ["# EOF"]

/-- The whole text; every line ends with a line feed. -/
def document (lines : List String) : String := String.join (lines.map (· ++ "\n"))

end Intake.Metrics
