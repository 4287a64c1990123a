import SimResults.Failure
import SimResults.Text.Utf8

/-! The extraction tool: something that takes arguments and leaves output and an exit code. -/

namespace SimResults

open Text

/-- The outcome of one run. A tool that was killed has no exit code. -/
structure Output where
  exitCode : Option Int := some 0
  stdout : Bytes := []
  stderr : Bytes := []
deriving DecidableEq, Repr

/-- The standard output of a successful run. Only exit code 0 is success; otherwise the text of
the error output explains the failure. -/
def Output.intoStdout (output : Output) : Except Failure Bytes :=
  if output.exitCode == some 0 then .ok output.stdout
  else .error (.toolFailed output.exitCode (trim (decodeLossy output.stderr)))

/-- A tool with a state of its own. Only a run that could not be made is a failure. -/
abbrev Tool (σ : Type) := List String → StateM σ (Except Failure Output)

end SimResults
