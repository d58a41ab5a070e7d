/-!
# The identity of this build
-/

namespace Intake.Build

def version : String := "0.1.0"

def commit : String := "0123456789abcdef0123456789abcdef01234567"

def versionWithCommit : String := version ++ "+" ++ commit

/-- The first twelve characters of a commit; a build that does not know its commit says so. -/
def abbreviate (commit : String) : String :=
  if commit = "unknown" then commit else String.ofList (commit.toList.take 12)

def shortCommit : String := abbreviate commit

end Intake.Build
