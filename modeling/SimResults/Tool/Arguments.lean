import SimResults.Failure
import SimResults.Kind
import SimResults.Metadata
import SimResults.Number.Layout

/-! The command lines of the extraction tool. -/

namespace SimResults

/-- What can be asked about runs. -/
inductive MetadataQuery
  | runs
  | runAttributes
  | iterationVariables
  | configEntries
  | parameterAssignments
deriving DecidableEq, Repr

namespace MetadataQuery

def name : MetadataQuery → String
  | .runs => "runs"
  | .runAttributes => "runattrs"
  | .iterationVariables => "itervars"
  | .configEntries => "config_entries"
  | .parameterAssignments => "param_assignments"

def flag : MetadataQuery → String
  | .runs => "-r"
  | .runAttributes => "-a"
  | .iterationVariables => "-i"
  | .configEntries => "-j"
  | .parameterAssignments => "-t"

/-- Ends the names of the columns that this metadata adds to another table. -/
def suffix : MetadataQuery → String
  | .runs => "_run"
  | .runAttributes => "_runattr"
  | .iterationVariables => "_itervar"
  | .configEntries => "_config"
  | .parameterAssignments => "_param"

def layout : MetadataQuery → Metadata.Layout
  | .runs => .runs
  | _ => .nameValue

end MetadataQuery

/-- What an export can be asked for besides its rows. -/
structure ExportExtras where
  /-- The fields of statistics appear as scalars too. -/
  fieldsAsScalars : Bool := false
  startTime : Option Float := none
  endTime : Option Float := none
deriving DecidableEq

/-- No filter at all is different from an empty one, which selects nothing by mistake. -/
def checkFilter (filter : Option String) : Except Failure Unit :=
  if filter == some "" then .error (.invalidArgument .emptyFilter) else .ok ()

namespace Arguments

/-- An option and its value, if there is one. -/
def option (name : String) (value : Option String) : List String :=
  value.elim [] fun value => [name, value]

/-- A bound that is not a number is no bound. -/
def timeBound (name : String) (bound : Option Float) : List String :=
  option name ((bound.filter fun time => !time.isNaN).map Number.Layout.plain.write)

def extras (extras : ExportExtras) : List String :=
  (if extras.fieldsAsScalars then ["--add-fields-as-scalars"] else []) ++
    timeBound "--start-time" extras.startTime ++ timeBound "--end-time" extras.endTime

/-- The command and the inputs that it reads. -/
def command (letter : String) (inputs : List String) (allowNonmatching : Bool) : List String :=
  letter :: (if allowNonmatching then ["--allow-nonmatching"] else []) ++ inputs

def ofExport (inputs : List String) (allowNonmatching : Bool) (typeLetter filter : Option String)
    (wanted : ExportExtras) : List String :=
  command "x" inputs allowNonmatching ++ option "-T" typeLetter ++ option "-f" filter ++
    ["-F", "CSV-R", "-o", "-"] ++ extras wanted

def ofQuery (inputs : List String) (allowNonmatching : Bool) (filter : String)
    (query : MetadataQuery) : List String :=
  command "q" inputs allowNonmatching ++ ["-f", filter, query.flag, "-g", "--tabs"]

end Arguments

end SimResults
