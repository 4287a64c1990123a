import SimResults.Item
import SimResults.Proofs.CheckedTables

/-! Items and entries with the same care: what a row is asked for by name is looked up in one place.
With this nothing is left that accesses rows, and no access ever goes beyond one. -/

namespace SimResults.Proofs.CheckedItems
open SessionRuns Rectangularity CheckedTables

section Views

/-- All that is read of a row that is seen by names is read here. -/
def namedCell? (view : RowView) (name : String) : Option (Option Cell) :=
  match positionIn? view.fields name with
  | none => some none
  | some position => (cell view.row position).map some

def text? (view : RowView) (name : String) : Option (Option String) := do
  return (← namedCell? view name).bind Cell.key?

def requireText (view : RowView) (name : String) : Checked String := do
  match ← text? view name with
  | some text => return text
  | none => throw (.schemaMismatch (.missingCell view.number name))

def number? (view : RowView) (name : String) : Checked Float := do
  match ← namedCell? view name with
  | none => return Number.notANumber
  | some (.text raw) => atCell view.number name raw (Cell.numberOf raw)
  | some cell =>
    match cell.number? with
    | some value => return value
    | none => throw (.schemaMismatch (.notNumeric view.number name))

def integer? (view : RowView) (name : String) : Option (Option Int64) := do
  return (← namedCell? view name).bind Cell.integer?

def array (view : RowView) (name : String) : Option (List Float) := do
  return ((← namedCell? view name).bind Cell.array?).getD []

def statistics (view : RowView) : Checked Statistics := do
  return {
    count := ← integer? view Column.count
    sumweights := ← number? view Column.sumweights
    mean := ← number? view Column.mean
    stddev := ← number? view Column.stddev
    min := ← number? view Column.min
    max := ← number? view Column.max }

def attributeContent (view : RowView) : Option Attribute := do
  return ⟨← text? view Column.attrname, ← text? view Column.attrvalue⟩

def payload (view : RowView) : Kind → Checked Payload
  | .scalar => return .scalar (← number? view Column.value)
  | .vector => return .vector (← array view Column.vectime) (← array view Column.vecvalue)
  | .statistic => return .statistic (← statistics view)
  | .histogram => do
    let statistics ← statistics view
    let underflows ← number? view Column.underflows
    let overflows ← number? view Column.overflows
    return .histogram statistics underflows overflows
      (← array view Column.binedges) (← array view Column.binvalues)
  | .parameter => return .parameter (← text? view Column.value)
  | .attribute => return .attribute (← attributeContent view)
  | .runAttribute => return .runAttribute (← attributeContent view)
  | .iterationVariable => return .iterationVariable (← attributeContent view)
  | .configEntry => return .configEntry (← attributeContent view)

def item (view : RowView) (kind : Kind) : Checked Item := do
  let payload ← payload view kind
  let run ← requireText view view.runColumn
  return { run, module := ← text? view Column.module, name := ← text? view Column.name, payload }

def kind (view : RowView) (expected : Option Kind) : Checked Kind := do
  match ← namedCell? view Column.type, expected with
  | some (.text tag), _ =>
    match Kind.ofTag? tag with
    | some kind => return kind
    | none => throw (.schemaMismatch (.unknownType view.number tag))
  | some _, _ => throw (.schemaMismatch (.noType view.number))
  | none, some kind => return kind
  | none, none => throw (.schemaMismatch .noTypesForItems)

def item? (view : RowView) (expected : Option Kind) : Checked (Option Item) := do
  let kind ← kind view expected
  if expected.all (· == kind) then return some (← item view kind) else return none

def itemsFrom (fields : List Field) (expected : Option Kind) (number : Nat) :
    List Row → Checked (List Item)
  | [] => return []
  | row :: rest => do
    let item? ← item? ⟨fields, row, number⟩ expected
    let items ← itemsFrom fields expected (number + 1) rest
    return item?.toList ++ items

def items (table : Table) : Checked (List Item) :=
  if table.contains Column.type then itemsFrom table.fields none firstExportRow table.rows
  else throw (.schemaMismatch .noTypesForItems)

def itemsOfKind (table : Table) (kind : Kind) : Checked (List Item) :=
  itemsFrom table.fields (some kind) firstExportRow table.rows

def entriesFrom (fields : List Field) (number : Nat) : List Row → Checked (List Metadata.Entry)
  | [] => return []
  | row :: rest => do
    let view : RowView := ⟨fields, row, number⟩
    let run ← requireText view Column.runID
    let name ← text? view Column.name
    let value ← text? view Column.value
    let entries ← entriesFrom fields (number + 1) rest
    return ⟨run, name, value⟩ :: entries

def metadataEntries (table : Table) : Checked (List Metadata.Entry) :=
  if table.contains Column.runID then entriesFrom table.fields 1 table.rows
  else throw (.schemaMismatch .noRunsForMetadata)

variable {view : RowView} (fits : view.row.length = view.fields.length)
include fits

private theorem namedCell?_eq (name : String) : namedCell? view name = some (view.cell? name) := by
  rw [namedCell?, RowView.cell?]
  cases found : positionIn? view.fields name with
  | none => rfl
  | some position =>
    have inside : position < view.row.length := fits ▸ positionIn?_inside found
    simp [cell_eq inside]

private theorem text?_eq (name : String) : text? view name = some (view.text? name) := by
  rw [text?, namedCell?_eq fits]
  rfl

private theorem requireText_eq (name : String) : requireText view name = checked (view.requireText name) := by
  rw [requireText, text?_eq fits, RowView.requireText]
  cases view.text? name <;> rfl

private theorem number?_eq (name : String) : number? view name = checked (view.number? name) := by
  rw [number?, namedCell?_eq fits, RowView.number?, checked_some, checked_pure_bind]
  cases view.cell? name with
  | none => rfl
  | some cell => cases cell <;> rfl

private theorem integer?_eq (name : String) : integer? view name = some (view.integer? name) := by
  rw [integer?, namedCell?_eq fits]
  rfl

private theorem array_eq (name : String) : array view name = some (view.array name) := by
  rw [array, namedCell?_eq fits]
  rfl

private theorem statistics_eq : statistics view = checked view.statistics := by
  rw [statistics, RowView.statistics]
  simp only [integer?_eq fits, number?_eq fits, checked_some, checked_pure_bind]
  refine checked_bind fun sumweights _ => checked_bind fun mean _ => checked_bind fun stddev _ => ?_
  exact checked_bind fun min _ => checked_bind fun max _ => rfl

private theorem attributeContent_eq : attributeContent view = some view.attributeContent := by
  rw [attributeContent, text?_eq fits, text?_eq fits]
  rfl

private theorem payload_eq (kind : Kind) : payload view kind = checked (view.payload kind) := by
  cases kind with
  | scalar =>
    rw [payload, number?_eq fits]
    exact checked_bind fun value _ => rfl
  | vector =>
    rw [payload, array_eq fits, array_eq fits]
    rfl
  | statistic =>
    rw [payload, statistics_eq fits]
    exact checked_bind fun statistics _ => rfl
  | histogram =>
    simp only [payload, statistics_eq fits, number?_eq fits, array_eq fits]
    exact checked_bind fun statistics _ => checked_bind fun underflows _ => checked_bind fun overflows _ => rfl
  | parameter =>
    rw [payload, text?_eq fits]
    rfl
  | _ =>
    rw [payload, attributeContent_eq fits]
    rfl

private theorem item_eq (kind : Kind) : item view kind = checked (view.item kind) := by
  simp only [item, payload_eq fits, requireText_eq fits, text?_eq fits]
  exact checked_bind fun payload _ => checked_bind fun run _ => rfl

private theorem kind_eq (expected : Option Kind) : kind view expected = checked (view.kind expected) := by
  rw [kind, namedCell?_eq fits, checked_some, checked_pure_bind]
  unfold RowView.kind
  cases view.cell? Column.type with
  | none => cases expected <;> rfl
  | some cell =>
    cases cell with
    | text tag =>
      simp only
      cases Kind.ofTag? tag <;> rfl
    | _ => rfl

private theorem item?_eq (expected : Option Kind) : item? view expected = checked (view.item? expected) := by
  rw [item?, kind_eq fits]
  refine checked_bind fun kind _ => ?_
  split
  · rw [item_eq fits]
    exact checked_bind fun item _ => rfl
  · rfl

end Views

section Items

variable {fields : List Field} {rows : List Row} {table : Table}

private theorem itemsFrom_eq (widths : ∀ row ∈ rows, row.length = fields.length) (expected : Option Kind)
    (number : Nat) :
    itemsFrom fields expected number rows = checked (SimResults.itemsFrom fields expected number rows) := by
  induction rows generalizing number with
  | nil => rfl
  | cons row rest ih =>
    rw [List.forall_mem_cons] at widths
    rw [itemsFrom, item?_eq widths.1, ih widths.2]
    exact checked_bind fun item? _ => checked_bind fun items _ => rfl

private theorem items_eq (rectangular : table.Rectangular) : items table = checked table.items := by
  rw [items, Table.items]
  split
  · exact itemsFrom_eq rectangular none firstExportRow
  · rfl

private theorem entriesFrom_eq (widths : ∀ row ∈ rows, row.length = fields.length) (number : Nat) :
    entriesFrom fields number rows = checked (Metadata.entriesFrom fields number rows) := by
  induction rows generalizing number with
  | nil => rfl
  | cons row rest ih =>
    rw [List.forall_mem_cons] at widths
    have fits : (RowView.mk fields row number).row.length = fields.length := widths.1
    simp only [entriesFrom, requireText_eq fits, text?_eq fits, ih widths.2]
    exact checked_bind fun run _ => checked_bind fun entries _ => rfl

private theorem metadataEntries_eq (rectangular : table.Rectangular) :
    metadataEntries table = checked (Metadata.entries table) := by
  rw [metadataEntries, Metadata.entries]
  split
  · exact entriesFrom_eq rectangular 1
  · rfl

end Items

section Accesses

/-- No operation on a table looks for a cell that is not there. -/
structure ReadsInside (table : Table) : Prop where
  column (name : String) : column? table name = some (table.column? name)
  cell (row : Nat) (name : String) : cell? table row name = some (table.cell? row name)
  kinds (kinds : List Kind) : filterByKinds table kinds = checked (table.filterByKinds kinds)
  split (kind : Kind) : splitAttributes table kind = some (table.splitAttributes kind)
  drop (drop : Field → List Cell → Bool) : dropColumns table drop = some (table.dropColumns drop)
  prune : prune table = some table.prune
  finalize (mandatory : List String) (prunes : Bool) :
    finalize table mandatory prunes = some (table.finalize mandatory prunes)
  select (names : List String) : select table names = some (table.select names)
  normalize : normalize table = some table.normalize
  toNumeric (name : String) : toNumeric table name = some (table.toNumeric name)
  pivot (index : List String) (names values : String) :
    pivot table index names values = checked (table.pivot index names values)
  melt (ids : List String) (nameColumn valueColumn : String) :
    melt table ids nameColumn valueColumn = checked (table.melt ids nameColumn valueColumn)
  join (other : Table) (filled : other.Rectangular) (keys : List String) :
    leftJoin table other keys = checked (table.leftJoin other keys)
  metadata (other : Table) (filled : other.Rectangular) (suffix : String) :
    appendMetadata table other suffix = checked (table.appendMetadata other suffix)
  attributes (other : Table) (filled : other.Rectangular) :
    appendAttributes table other = checked (table.appendAttributes other)
  items : items table = checked table.items
  itemsOfKind (kind : Kind) : itemsOfKind table kind = checked (table.itemsOfKind kind)
  entries : metadataEntries table = checked (Metadata.entries table)

private theorem readsInside {table : Table} (rectangular : table.Rectangular) : ReadsInside table where
  column := column?_eq rectangular
  cell := cell?_eq rectangular
  kinds := filterByKinds_eq rectangular
  split := splitAttributes_eq rectangular
  drop := dropColumns_eq rectangular
  prune := prune_eq rectangular
  finalize := finalize_eq rectangular
  select := select_eq rectangular
  normalize := normalize_eq rectangular
  toNumeric := toNumeric_eq rectangular
  pivot := pivot_eq rectangular
  melt := melt_eq rectangular
  join _ filled := leftJoin_eq rectangular filled
  metadata _ filled := appendMetadata_eq rectangular filled
  attributes _ filled := appendAttributes_eq rectangular filled
  items := items_eq rectangular
  itemsOfKind _ := itemsFrom_eq rectangular _ _
  entries := metadataEntries_eq rectangular

/-- All tables that can be read or made are rectangular, those of queries are among them, and
neither reading an export nor an operation on such tables looks beyond a row. -/
theorem obtained_reads_inside :
    (∀ table, Obtained table → table.Rectangular ∧ ReadsInside table) ∧
    (∀ (σ ρ : Type) (session : Session σ ρ) (work : Work σ ρ Table), IsQuery session work →
      ∀ before table after, Gives work before table after → Obtained table) ∧
    ∀ stream dialect, readStream stream dialect = checked (Export.readStream stream dialect) := by
  refine ⟨?_, ?_, readStream_eq⟩
  · intro table obtained
    exact ⟨obtained.rectangular, readsInside obtained.rectangular⟩
  · intro σ ρ session work query before table after given
    exact query_obtained query given

/-- The second value is no number, which the first conversion does not know yet. -/
def halfway : Table where
  fields := [⟨Column.value, .generic⟩, ⟨Column.name, .text⟩]
  rows := [[.null, .text "a"], [.text "fast", .text "b"], [.text "1", .null]]

def sampleStart : Journal (List Rule) Unit :=
  scripted "run,type,module,name,mean,attrname,attrvalue\nr0,statistic,m,s,2,,\nr0,attr,m,s,,unit,ms\n" "r0\tN\t3\n"

def sampleOptions : QueryOptions := { inclusion := { attributes := true, iterationVariables := true } }

def missing : Cell := .number Number.notANumber

def sampleStatistics : Table where
  fields := [⟨Column.runID, .text⟩, ⟨Column.module, .text⟩, ⟨Column.name, .text⟩, ⟨Column.mean, .number⟩,
    ⟨"unit", .text⟩, ⟨"N_itervar", .text⟩, ⟨Column.count, .integer⟩, ⟨Column.sumweights, .number⟩,
    ⟨Column.stddev, .number⟩, ⟨Column.min, .number⟩, ⟨Column.max, .number⟩]
  rows := [[.text "r0", .text "m", .text "s", .number 2, .text "ms", .text "3", missing, missing, missing,
    missing, missing]]

theorem obtained_reads_inside_halfway :
    ((halfway.toNumeric Column.value).failure? ≠ none ∧
      (halfway.toNumeric Column.value).table.Rectangular) ∧
    ∃ after, Gives (scriptedSession.resultsOfKind .statistic none sampleOptions) sampleStart
        sampleStatistics after ∧ sampleStatistics.Rectangular ∧
      itemsOfKind sampleStatistics .statistic = checked (sampleStatistics.itemsOfKind .statistic) := by
  refine ⟨⟨by decide +kernel, ?_⟩, ?_⟩
  · exact (obtained_reads_inside.1 _ ((Obtained.given (by decide)).toNumeric _)).1
  · have given : Gives (scriptedSession.resultsOfKind .statistic none sampleOptions) sampleStart
        sampleStatistics _ := gives_of_outcome (by decide +kernel)
    have obtained := obtained_reads_inside.2.1 _ _ _ _ (.resultsOfKind _ _ _) _ _ _ given
    obtain ⟨rectangular, inside⟩ := obtained_reads_inside.1 _ obtained
    exact ⟨_, given, rectangular, inside.itemsOfKind .statistic⟩

end Accesses

end SimResults.Proofs.CheckedItems
