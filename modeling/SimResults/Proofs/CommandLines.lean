import SimResults.Session.Query

/-! The command lines that a session gives to the tool. A query passes on the extras that matter to its
results and no others: fields as scalars if these are scalars, a time window if they are vectors. -/

namespace SimResults.Proofs.CommandLines

def inputWords (config : Config) : List String :=
  (if config.allowNonmatching then ["--allow-nonmatching"] else []) ++ config.inputs.toList

def filterWords : Option String → List String
  | none => []
  | some filter => ["-f", filter]

def fieldWords (extras : ExportExtras) : List String :=
  if extras.fieldsAsScalars then ["--add-fields-as-scalars"] else []

/-- A bound that is not a number is left out. -/
def boundWords (option : String) : Option Float → List String
  | none => []
  | some time => if time.isNaN then [] else [option, Number.Layout.plain.write time]

def windowWords (extras : ExportExtras) : List String :=
  boundWords "--start-time" extras.startTime ++ boundWords "--end-time" extras.endTime

def exportLine (config : Config) (kind : List String) (filter : Option String) (extra : List String) :
    List String :=
  "x" :: inputWords config ++ kind ++ filterWords filter ++ ["-F", "CSV-R", "-o", "-"] ++ extra

/-- Rows of all kinds, with all extras. -/
def resultsLine (config : Config) (filter : Option String) (extras : ExportExtras) : List String :=
  exportLine config [] filter (fieldWords extras ++ windowWords extras)

/-- Rows of one kind, with the extras that matter to it. -/
def kindLine (config : Config) (filter : Option String) (extras : ExportExtras) : ResultKind → List String
  | .scalar => exportLine config ["-T", "s"] filter (fieldWords extras)
  | .vector => exportLine config ["-T", "v"] filter (windowWords extras)
  | .statistic => exportLine config ["-T", "t"] filter []
  | .histogram => exportLine config ["-T", "h"] filter []
  | .parameter => exportLine config ["-T", "p"] filter []

def queryWord : MetadataQuery → String
  | .runs => "-r"
  | .runAttributes => "-a"
  | .iterationVariables => "-i"
  | .configEntries => "-j"
  | .parameterAssignments => "-t"

def metadataLine (config : Config) (query : MetadataQuery) (filter : String) : List String :=
  "q" :: inputWords config ++ ["-f", filter, queryWord query, "-g", "--tabs"]

variable (config : Config) (filter : Option String) (extras : ExportExtras)

private theorem timeBound_eq (option : String) (bound : Option Float) :
    Arguments.timeBound option bound = boundWords option bound := by
  cases bound with
  | none => rfl
  | some time =>
    rw [Arguments.timeBound, boundWords, Option.filter_some]
    cases time.isNaN <;> rfl

private theorem extras_eq : Arguments.extras extras = fieldWords extras ++ windowWords extras := by
  rw [Arguments.extras, timeBound_eq, timeBound_eq, List.append_assoc, fieldWords, windowWords]

private theorem ofExport_eq (letter : Option String) :
    Arguments.ofExport config.inputs.toList config.allowNonmatching letter filter extras =
      exportLine config (Arguments.option "-T" letter) filter (Arguments.extras extras) := by
  have filtered : Arguments.option "-f" filter = filterWords filter := by cases filter <;> rfl
  rw [Arguments.ofExport, filtered]
  rfl

theorem ofExport_results :
    Arguments.ofExport config.inputs.toList config.allowNonmatching none filter extras =
      resultsLine config filter extras := by
  rw [ofExport_eq, extras_eq]
  rfl

theorem ofExport_kind (kind : ResultKind) :
    Arguments.ofExport config.inputs.toList config.allowNonmatching kind.kind.exportLetter? filter
        (extras.restricted kind) = kindLine config filter extras kind := by
  rw [ofExport_eq, extras_eq]
  cases kind with
  | scalar => exact congrArg (exportLine config ["-T", "s"] filter) (List.append_nil (fieldWords extras))
  | _ => rfl

theorem ofQuery_metadata (query : MetadataQuery) (filter : String) :
    Arguments.ofQuery config.inputs.toList config.allowNonmatching filter query =
      metadataLine config query filter := by
  cases query <;> rfl

end SimResults.Proofs.CommandLines
