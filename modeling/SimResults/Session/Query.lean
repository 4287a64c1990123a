import SimResults.Export
import SimResults.Session.Basic
import SimResults.Table.Columns
import SimResults.Table.Join
import SimResults.Table.Kinds

/-! The queries of a session. Each runs the tool once for every table it needs. -/

namespace SimResults

/-- Which metadata a query merges into its table. -/
structure Inclusion where
  /-- Attributes of results; only queries for results have them. -/
  attributes : Bool := false
  runAttributes : Bool := false
  iterationVariables : Bool := false
  parameterAssignments : Bool := false
  configEntries : Bool := false
deriving DecidableEq, Repr, Inhabited

namespace Inclusion

def none : Inclusion := {}

def all : Inclusion := ⟨true, true, true, true, true⟩

/-- The queries for metadata of runs, in the order of merging. Config entries contain the
parameter assignments. -/
def queries (inclusion : Inclusion) : List MetadataQuery :=
  (if inclusion.iterationVariables then [.iterationVariables] else []) ++
  (if inclusion.runAttributes then [.runAttributes] else []) ++
  if inclusion.configEntries then [.configEntries]
  else if inclusion.parameterAssignments then [.parameterAssignments]
  else []

end Inclusion

structure ResultsOptions where
  /-- The kinds of rows to keep; all of them if none are named. -/
  rowKinds : Option (List Kind) := .none
  omitUnused : Bool := false
  extras : ExportExtras := {}

structure QueryOptions where
  inclusion : Inclusion := {}
  omitUnused : Bool := false
  extras : ExportExtras := {}

/-- Fields as scalars matter to scalars, and the time window to vectors. -/
def ExportExtras.restricted (extras : ExportExtras) : ResultKind → ExportExtras
  | .scalar => { fieldsAsScalars := extras.fieldsAsScalars }
  | .vector => { startTime := extras.startTime, endTime := extras.endTime }
  | _ => {}

/-- The rows of one kind in an export and the rows of attributes. Without a type column all rows
are of that kind, and there is no telling attributes apart. -/
def Table.splitAttributes (table : Table) (kind : Kind) : Table × Option Table :=
  match table.position? Column.type with
  | some position => (table.keepKinds position [kind], some (table.keepKinds position [.attribute]))
  | none => (table, none)

/-- Results lose the columns that only tell rows apart, and have those that identify them. -/
def Table.identified (table : Table) : Table :=
  (table.dropColumns fun field _ =>
    [Column.type, Column.attrname, Column.attrvalue].contains field.name).ensureColumns
      [Column.runID, Column.module, Column.name]

namespace Session

variable {σ ρ : Type}

/-- An export of the configured inputs. -/
def exportTable (session : Session σ ρ) (kind : Option Kind) (filter : Option String)
    (extras : ExportExtras) : Work σ ρ Table := do
  session.check filter
  let config := session.config
  let letter := kind.bind Kind.exportLetter?
  let stdout ← runTool session.tool <|
    Arguments.ofExport config.inputs.toList config.allowNonmatching letter filter extras
  Export.read stdout

/-- Metadata of the configured inputs. That there is none is reported under the given name. -/
def metadataTable (session : Session σ ρ) (name : String) (query : MetadataQuery) (filter : String) :
    Work σ ρ Table := do
  session.check (some filter)
  let config := session.config
  let stdout ← runTool session.tool <|
    Arguments.ofQuery config.inputs.toList config.allowNonmatching filter query
  let table ← Metadata.read query.layout stdout
  if table.isEmpty then session.report ⟨name, filter⟩ (.emptyResult emptyResultHint)
  return table

/-- Extends a table by metadata of its runs, one query after the other. -/
def mergeMetadata (session : Session σ ρ) : List MetadataQuery → Table → Work σ ρ Table
  | [], table => return table
  | query :: queries, table => do
    let metadata ← session.metadataTable "auxiliary" query "*"
    session.mergeMetadata queries (← table.appendMetadata metadata query.suffix)

/-- Attaches to results what is to be included. -/
def attach (session : Session σ ρ) (table : Table) (kind : Kind) (inclusion : Inclusion) :
    Work σ ρ Table := do
  let (results, attributes?) := table.splitAttributes kind
  let results := results.identified
  let results ← match attributes? with
    | some attributes =>
      if inclusion.attributes && !attributes.isEmpty then results.appendAttributes attributes
      else pure results
    | none => pure results
  session.mergeMetadata inclusion.queries results

/-- All rows, of all kinds or of some. -/
def results (session : Session σ ρ) (filter : Option String) (options : ResultsOptions) :
    Work σ ρ Table :=
  session.observe ⟨"results", filter⟩ do
    let table ← session.exportTable none filter options.extras
    let table ← match options.rowKinds with
      | some kinds => table.filterByKinds kinds
      | none => pure table
    return if options.omitUnused then table.prune else table

/-- The results of one kind, one row each, with all columns of that kind. The values of scalars
are numbers. -/
def resultsOfKind (session : Session σ ρ) (kind : ResultKind) (filter : Option String)
    (options : QueryOptions) : Work σ ρ Table :=
  session.observe ⟨kind.queryName, filter⟩ do
    let table ← session.exportTable kind.kind filter (options.extras.restricted kind)
    let table ← session.attach table kind.kind options.inclusion
    let table := table.finalize kind.kind.mandatoryColumns options.omitUnused
    match kind with
    | .scalar => (table.toNumeric Column.value).result
    | _ => return table

/-- Metadata of runs. -/
def metadata (session : Session σ ρ) (query : MetadataQuery) (filter : String)
    (inclusion : Inclusion) : Work σ ρ Table :=
  session.observe ⟨query.name, filter⟩ do
    let table ← session.metadataTable query.name query filter
    session.mergeMetadata inclusion.queries table

end Session

/-- An export of some files, whatever the inputs of a session. -/
def readFiles {σ ρ : Type} (tool : Tool σ) (files : List String) (filter : Option String)
    (extras : ExportExtras) : Work σ ρ Table := do
  checkFilter filter
  let stdout ← runTool tool (Arguments.ofExport files true none filter extras)
  Export.read stdout

end SimResults
