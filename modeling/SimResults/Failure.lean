import SimResults.Config.InputPatterns
import SimResults.Delimited.Framing
import SimResults.Json.Fault
import SimResults.Number.Decimal
import SimResults.Text.Quoted

/-! Why a call gives no table. A failure is a cause; its wording is derived from the cause, and
so is its severity. -/

namespace SimResults

/-- Why a raw cell has no value of the type of its column. -/
inductive CellFault
  | integer (fault : Number.IntegerFault)
  | number (fault : Number.FloatFault)
  /-- The first word of an array cell that is not a number. -/
  | element (word : String) (fault : Number.FloatFault)
  | arrayAsNumber
  /-- A metadata row with more cells than its layout has columns. -/
  | surplusCells (expected found : Nat)
  | other (text : String)
deriving DecidableEq, Repr

def CellFault.message : CellFault → String
  | .integer fault => fault.message
  | .number fault => fault.message
  | .element word fault => s!"invalid array element '{word}': {fault.message}"
  | .arrayAsNumber => "array is not a number"
  | .surplusCells expected found =>
    s!"expected at most {expected} tab-separated fields, found {found}"
  | .other text => text

/-- How a table falls short of what an operation needs. -/
inductive SchemaFault
  | missingColumn (name : String) (columns : List String)
  /-- Metadata is attached by run, and the table has no runs. -/
  | noRunsToExtend (suffix : String)
  | noTypesToFilter
  | noTypesForItems
  | unknownType (row : Nat) (tag : String)
  | noType (row : Nat)
  | missingCell (row : Nat) (column : String)
  | notNumeric (row : Nat) (column : String)
  | noRunsForMetadata
  | other (text : String)
deriving DecidableEq, Repr

def SchemaFault.message : SchemaFault → String
  | .missingColumn name columns =>
    s!"missing required column '{name}'. columns={Text.quotedList columns}"
  | .noRunsToExtend suffix => s!"cannot append '{suffix}' columns: primary table has no 'runID' column"
  | .noTypesToFilter => "cannot restrict row types: table has no 'type' column"
  | .noTypesForItems =>
    "table has no 'type' column; use items_of_kind for type-filtered exports"
  | .unknownType row tag => s!"row {row} has unknown result type '{tag}'"
  | .noType row => s!"row {row} has no result type"
  | .missingCell row column => s!"row {row} has no '{column}'"
  | .notNumeric row column => s!"row {row} column '{column}' is not numeric"
  | .noRunsForMetadata => "metadata table has no 'runID' column"
  | .other text => text

/-- Why an argument cannot be used. -/
inductive ArgumentFault
  | emptyFilter
  | inputs (fault : InputPatterns.MatchFault)
  | other (text : String)
deriving DecidableEq, Repr

def ArgumentFault.message : ArgumentFault → String
  | .emptyFilter => "empty filter expression"
  | .inputs fault => fault.message
  | .other text => text

inductive Failure
  | io (fault : FileFault)
  | framing (fault : Delimited.FramingFault)
  | config (fault : Json.Fault)
  | invalidArgument (fault : ArgumentFault)
  /-- The tool ran and was not successful; a killed tool has no exit code. -/
  | toolFailed (exitCode : Option Int) (errors : String)
  | schemaMismatch (fault : SchemaFault)
  /-- Rows are numbered as a reader of the source counts them. -/
  | parse (row : Nat) (column raw : String) (fault : CellFault)
deriving DecidableEq, Repr

def exitCodeText : Option Int → String
  | some code => toString code
  | none => "none"

def Failure.message : Failure → String
  | .io fault => s!"io error: {fault.message}"
  | .framing fault => s!"csv error: {fault.message}"
  | .config fault => s!"config error: {fault.message}"
  | .invalidArgument fault => s!"invalid argument: {fault.message}"
  | .toolFailed exitCode errors => s!"{Text.trim errors} (exit code {exitCodeText exitCode})"
  | .schemaMismatch fault => s!"schema mismatch: {fault.message}"
  | .parse row column raw fault =>
    s!"failed to parse value at row {row} column '{column}': {fault.message} (raw='{raw}')"

inductive Severity
  | info
  /-- The call was rejected before any work was done. -/
  | warning
  /-- The output of the tool was malformed. -/
  | error
  /-- The tool failed or could not be run. -/
  | critical
deriving DecidableEq, Repr, Inhabited

namespace Severity

def rank : Severity → Nat
  | .info => 0
  | .warning => 1
  | .error => 2
  | .critical => 3

/-- Whether `severity` is at or above `threshold`. -/
def reaches (severity threshold : Severity) : Bool := threshold.rank ≤ severity.rank

def describe : Severity → String
  | .info => "Info"
  | .warning => "Warning"
  | .error => "Error"
  | .critical => "Critical"

end Severity

def Failure.severity : Failure → Severity
  | .io _ | .toolFailed _ _ | .framing (.unreadable _) => .critical
  | .framing _ | .parse _ _ _ _ | .schemaMismatch _ => .error
  | .invalidArgument _ | .config _ => .warning

end SimResults
