import SimResults.Item
import SimResults.Proofs.ResultTables

/-! Items from the tables of queries. A row of results gives an item of its kind unless an attribute
has put a column of a fixed meaning into the table: nothing else that a query adds can be mistaken
for a type or for a number. -/

namespace SimResults.Proofs.ItemProjection
open Outcomes TableColumns Joining NumericColumns ParsedExports SessionRuns ResultTables

section Rows

variable {view : RowView} {kind : Kind}

/-- The columns from which items of a kind take numbers. -/
def numberColumns : Kind → List String
  | .scalar => [Column.value]
  | .statistic => [Column.sumweights, Column.mean, Column.stddev, Column.min, Column.max]
  | .histogram =>
    [Column.sumweights, Column.mean, Column.stddev, Column.min, Column.max,
      Column.underflows, Column.overflows]
  | _ => []

/-- A cell that can be taken for a number. Other than in conversions, text is never missing. -/
def Numeric : Cell → Prop
  | .text raw => ∃ value, Cell.numberOf raw = .ok value
  | .array _ => False
  | _ => True

private theorem number?_succeeds {name : String} :
    (∃ value, view.number? name = .ok value) ↔ ∀ cell, view.cell? name = some cell → Numeric cell := by
  cases found : view.cell? name with
  | none => exact iff_of_true ⟨_, by rw [RowView.number?, found]⟩ (by simp)
  | some cell =>
    have only : (∀ other, some cell = some other → Numeric other) ↔ Numeric cell :=
      ⟨fun each => each cell rfl, fun numeric _ same => Option.some.inj same ▸ numeric⟩
    rw [only, RowView.number?, found]
    cases cell with
    | text raw => simp only [atCell_eq_ok, Numeric]
    | array values => exact iff_of_false (fun ⟨_, impossible⟩ => by cases impossible) id
    | _ => exact iff_of_true ⟨_, rfl⟩ trivial

private theorem statistics_succeed :
    (∃ statistics, view.statistics = .ok statistics) ↔
      ∀ name ∈ numberColumns .statistic, ∃ value, view.number? name = .ok value := by
  simp only [RowView.statistics, numberColumns, bind_eq_ok, pure_eq_ok, List.forall_mem_cons]
  constructor
  · intro ⟨_, sumweights, first, mean, second, stddev, third, min, fourth, max, fifth, _⟩
    exact ⟨⟨sumweights, first⟩, ⟨mean, second⟩, ⟨stddev, third⟩, ⟨min, fourth⟩, ⟨max, fifth⟩, by simp⟩
  · intro ⟨⟨sumweights, first⟩, ⟨mean, second⟩, ⟨stddev, third⟩, ⟨min, fourth⟩, ⟨max, fifth⟩, _⟩
    exact ⟨_, sumweights, first, mean, second, stddev, third, min, fourth, max, fifth, rfl⟩

private theorem payload_succeeds :
    (∃ payload, view.payload kind = .ok payload) ↔
      ∀ name ∈ numberColumns kind, ∃ value, view.number? name = .ok value := by
  cases kind with
  | scalar =>
    simp only [RowView.payload, numberColumns, bind_eq_ok, pure_eq_ok, List.forall_mem_singleton]
    constructor
    · intro ⟨_, value, read, _⟩
      exact ⟨value, read⟩
    · intro ⟨value, read⟩
      exact ⟨_, value, read, rfl⟩
  | statistic =>
    rw [← statistics_succeed]
    simp only [RowView.payload, bind_eq_ok, pure_eq_ok]
    constructor
    · intro ⟨_, statistics, read, _⟩
      exact ⟨statistics, read⟩
    · intro ⟨statistics, read⟩
      exact ⟨_, statistics, read, rfl⟩
  | histogram =>
    have split : numberColumns .histogram =
        numberColumns .statistic ++ [Column.underflows, Column.overflows] := rfl
    rw [split, List.forall_mem_append, ← statistics_succeed]
    simp only [RowView.payload, bind_eq_ok, pure_eq_ok, List.forall_mem_cons]
    constructor
    · intro ⟨_, statistics, read, underflows, below, overflows, above, _⟩
      exact ⟨⟨statistics, read⟩, ⟨underflows, below⟩, ⟨overflows, above⟩, by simp⟩
    · intro ⟨⟨statistics, read⟩, ⟨underflows, below⟩, ⟨overflows, above⟩, _⟩
      exact ⟨_, statistics, read, underflows, below, overflows, above, rfl⟩
  | _ => exact iff_of_true ⟨_, rfl⟩ (by simp [numberColumns])

theorem payload_kind {payload : Payload} (read : view.payload kind = .ok payload) :
    payload.kind = kind := by
  cases kind <;> simp only [RowView.payload, bind_eq_ok, pure_eq_ok] at read
  case scalar => obtain ⟨_, _, rfl⟩ := read; rfl
  case statistic => obtain ⟨_, _, rfl⟩ := read; rfl
  case histogram => obtain ⟨_, _, _, _, _, _, rfl⟩ := read; rfl
  all_goals subst read; rfl

private theorem kind_eq_ok :
    view.kind (some kind) = .ok kind ↔
      ∀ cell, view.cell? Column.type = some cell → Kind.ofCell? cell = some kind := by
  cases found : view.cell? Column.type with
  | none => simp [RowView.kind, found]
  | some cell =>
    cases cell with
    | text tag => cases known : Kind.ofTag? tag <;> simp [RowView.kind, found, Kind.ofCell?, known]
    | _ => simp [RowView.kind, found, Kind.ofCell?]

private theorem item?_eq_some {item : Item} :
    view.item? (some kind) = .ok (some item) ↔
      view.kind (some kind) = .ok kind ∧ view.item kind = .ok item := by
  rw [RowView.item?, bind_eq_ok]
  constructor
  · intro ⟨found, known, rest⟩
    split at rest
    next same =>
      have same : kind = found := by simpa using same
      subst same
      obtain ⟨read, given, returned⟩ := bind_eq_ok.mp rest
      cases pure_eq_ok.mp returned
      exact ⟨known, given⟩
    next => cases rest
  · intro ⟨known, given⟩
    refine ⟨kind, known, ?_⟩
    rw [if_pos (by simp), given]
    rfl

private theorem key?_of_filled {cell : Cell} (filled : cell.isMissing = false) :
    ∃ text, cell.key? = some text := by
  cases cell with
  | null => cases filled
  | number value =>
    have number : value.isNaN = false := filled
    exact ⟨_, by rw [Cell.key?, number]; rfl⟩
  | _ => exact ⟨_, rfl⟩

def HasRun (table : Table) (row : Row) : Prop :=
  ∃ position, table.position? Column.runID = some position ∧ (row.cell position).isMissing = false

private theorem item_succeeds {table : Table} {row : Row} (run : HasRun table row) (number : Nat) :
    (∃ item, RowView.item ⟨table.fields, row, number⟩ kind = .ok item) ↔
      ∀ name ∈ numberColumns kind, ∀ cell,
        RowView.cell? ⟨table.fields, row, number⟩ name = some cell → Numeric cell := by
  simp only [← number?_succeeds, ← payload_succeeds]
  obtain ⟨position, there, filled⟩ := run
  change positionIn? table.fields Column.runID = some position at there
  obtain ⟨text, key⟩ := key?_of_filled filled
  have required : RowView.requireText ⟨table.fields, row, number⟩
      (RowView.runColumn ⟨table.fields, row, number⟩) = .ok text := by
    rw [RowView.runColumn, there, Option.isSome_some, if_pos rfl, RowView.requireText, RowView.text?,
      RowView.cell?, there]
    simp only [Option.map_some, Option.bind_some, key]
  simp only [RowView.item, bind_eq_ok, pure_eq_ok]
  constructor
  · intro ⟨_, payload, read, _⟩
    exact ⟨payload, read⟩
  · intro ⟨payload, read⟩
    exact ⟨_, payload, read, text, required, rfl⟩

theorem item_kind {item : Item} (given : view.item kind = .ok item) : item.payload.kind = kind := by
  obtain ⟨payload, read, rest⟩ := bind_eq_ok.mp given
  obtain ⟨_, _, returned⟩ := bind_eq_ok.mp rest
  cases pure_eq_ok.mp returned
  exact payload_kind read

end Rows

section Tables

variable {table : Table} {kind : Kind}

/-- Every row gives one item, in order, and every item is of one kind. -/
def OneItemEach (table : Table) (kind : Kind) : Prop :=
  ∃ items, table.itemsOfKind kind = .ok items ∧ items.length = table.rows.length ∧
    ∀ index row, table.rows[index]? = some row → ∃ item, items[index]? = some item ∧
      RowView.item ⟨table.fields, row, index + firstExportRow⟩ kind = .ok item ∧
      item.payload.kind = kind

private theorem itemsFrom_eq_traverse (fields : List Field) (expected : Option Kind) (number : Nat)
    (rows : List Row) :
    itemsFrom fields expected number rows =
      (traverseFrom (fun number row => RowView.item? ⟨fields, row, number⟩ expected) number rows).map
        (·.filterMap id) := by
  induction rows generalizing number with
  | nil => rfl
  | cons row rest ih =>
    rw [itemsFrom, traverseFrom, ih]
    cases RowView.item? ⟨fields, row, number⟩ expected with
    | error failure => rfl
    | ok first =>
      cases traverseFrom (fun number row => RowView.item? ⟨fields, row, number⟩ expected) (number + 1) rest with
      | error failure => rfl
      | ok others => cases first <;> rfl

private theorem filterMap_full {values : List (Option Item)} (full : ∀ value ∈ values, value.isSome) :
    values = (values.filterMap id).map some := by
  induction values with
  | nil => rfl
  | cons value values ih =>
    rw [List.forall_mem_cons] at full
    obtain ⟨item, rfl⟩ := Option.isSome_iff_exists.mp full.1
    exact congrArg (some item :: ·) (ih full.2)

private theorem oneItemEach_iff :
    OneItemEach table kind ↔ ∀ index row, table.rows[index]? = some row →
      ∃ item, RowView.item? ⟨table.fields, row, firstExportRow + index⟩ (some kind) = .ok (some item) := by
  have traversed : table.itemsOfKind kind = _ :=
    itemsFrom_eq_traverse table.fields (some kind) firstExportRow table.rows
  constructor
  · intro ⟨items, projected, length, _⟩ index row found
    rw [traversed, map_eq_ok] at projected
    obtain ⟨values, went, rfl⟩ := projected
    obtain ⟨height, each⟩ := traverseFrom_eq_ok.mp went
    rw [← height, List.filterMap_length_eq_length] at length
    obtain ⟨value, member, stepped⟩ := each index row found
    obtain ⟨item, same⟩ := Option.isSome_iff_exists.mp (length value (List.mem_of_getElem? member))
    cases same
    exact ⟨item, stepped⟩
  · intro each
    obtain ⟨values, went⟩ : ∃ values, traverseFrom
        (fun number row => RowView.item? ⟨table.fields, row, number⟩ (some kind)) firstExportRow
        table.rows = .ok values := by
      apply traverseFrom_succeeds.mpr
      intro index row found
      obtain ⟨item, given⟩ := each index row found
      exact ⟨some item, given⟩
    obtain ⟨height, steps⟩ := traverseFrom_eq_ok.mp went
    have full : ∀ value ∈ values, value.isSome := by
      intro value member
      obtain ⟨index, found⟩ := List.getElem?_of_mem member
      have inside : index < table.rows.length := height ▸ (List.getElem?_eq_some_iff.mp found).1
      obtain ⟨other, there, stepped⟩ := steps index _ (List.getElem?_eq_getElem inside)
      obtain ⟨item, given⟩ := each index _ (List.getElem?_eq_getElem inside)
      cases found.symm.trans there
      cases stepped.symm.trans given
      rfl
    have same := filterMap_full full
    refine ⟨values.filterMap id, by rw [traversed, went]; rfl, ?_, ?_⟩
    · rw [← height, List.filterMap_length_eq_length]
      exact full
    · intro index row found
      obtain ⟨value, there, stepped⟩ := steps index row found
      obtain ⟨item, given⟩ := each index row found
      cases stepped.symm.trans given
      rw [same, List.getElem?_map, Option.map_eq_some_iff] at there
      obtain ⟨_, present, unwrapped⟩ := there
      cases Option.some.inj unwrapped
      have own := (item?_eq_some.mp given).2
      rw [Nat.add_comm] at own
      exact ⟨_, present, own, item_kind own⟩

/-- The columns by which items of a kind stand or fall. -/
def decisive (kind : Kind) : List String := Column.type :: numberColumns kind

def Suits (kind : Kind) (name : String) (cell : Cell) : Prop :=
  if name = Column.type then Kind.ofCell? cell = some kind else Numeric cell

def ColumnSuits (table : Table) (kind : Kind) (name : String) : Prop :=
  ∀ cells, table.column? name = some cells → ∀ cell ∈ cells, Suits kind name cell

private theorem type_not_number (kind : Kind) : Column.type ∉ numberColumns kind := by
  cases kind <;> decide

private theorem row_suits {row : Row} (run : HasRun table row) (number : Nat) :
    (∃ item, RowView.item? ⟨table.fields, row, number⟩ (some kind) = .ok (some item)) ↔
      ∀ name ∈ decisive kind, ∀ cell,
        RowView.cell? ⟨table.fields, row, number⟩ name = some cell → Suits kind name cell := by
  simp only [item?_eq_some, kind_eq_ok, exists_and_left]
  rw [item_succeeds run number, decisive, List.forall_mem_cons]
  have numbers : ∀ name ∈ numberColumns kind, ∀ cell, Suits kind name cell ↔ Numeric cell := by
    intro name member cell
    rw [Suits, if_neg]
    intro same
    exact type_not_number kind (same ▸ member)
  refine and_congr (by simp [Suits]) ?_
  constructor
  · intro each name member cell found
    exact (numbers name member cell).mpr (each name member cell found)
  · intro each name member cell found
    exact (numbers name member cell).mp (each name member cell found)

private theorem oneItemEach_columns (runs : ∀ row ∈ table.rows, HasRun table row) :
    OneItemEach table kind ↔ ∀ name ∈ decisive kind, ColumnSuits table kind name := by
  rw [oneItemEach_iff]
  constructor
  · intro each name member cells found cell inside
    obtain ⟨position, there, rfl⟩ := Option.map_eq_some_iff.mp found
    obtain ⟨row, present, rfl⟩ := List.mem_map.mp inside
    obtain ⟨index, known⟩ := List.getElem?_of_mem present
    apply (row_suits (runs row present) _).mp (each index row known) name member
    rw [RowView.cell?]
    exact congrArg (Option.map row.cell) there
  · intro each index row known
    have present := List.mem_of_getElem? known
    apply (row_suits (runs row present) _).mpr
    intro name member cell found
    obtain ⟨position, there, rfl⟩ := Option.map_eq_some_iff.mp found
    apply each name member (table.cellsAt position)
    · exact congrArg (Option.map table.cellsAt) there
    · exact List.mem_map_of_mem present

end Tables

section Queries

variable {raw table : Table} {kind : ResultKind} {options : QueryOptions} {whole : List (Field × List Cell)}

/-- An attribute gives a name to a column that the results would not have otherwise. -/
def Supplied (raw : Table) (kind : Kind) (inclusion : Inclusion) (name : String) : Prop :=
  name ∉ namesOf (leading (resultRows raw kind)) ∧
    ∃ attributes, attributeRows? raw inclusion = some attributes ∧ name ∈ textsOf attributes Column.attrname

private theorem leading_numbers (parsed : Parsed raw) {kind : Kind} {column : Field × List Cell}
    (member : column ∈ leading (resultRows raw kind)) (number : ColumnType.ofName column.1.name = .number) :
    ∀ cell ∈ column.2, ∃ value, cell = .number value := by
  obtain ⟨position, found⟩ := List.getElem?_of_mem (List.mem_filter.mp member).1
  rw [getElem?_columns, resultRows_fields, Option.map_eq_some_iff] at found
  obtain ⟨field, there, rfl⟩ := found
  have declared := parsed.declared field (List.mem_of_getElem? there)
  have own : (field, raw.cellsAt position) ∈ raw.columns := by
    apply List.mem_of_getElem? (i := position)
    rw [getElem?_columns, there]
    rfl
  intro cell among
  obtain ⟨row, present, rfl⟩ := List.mem_map.mp among
  apply parsed.numbers _ own
  · change field.type = .number
    rw [declared]
    exact number
  · exact List.mem_map_of_mem (resultRows_subset raw kind row present)

private theorem mem_whole {columns : List (Field × List Cell)} {prunes : Bool} {column : Field × List Cell}
    (member : column ∈ numericIf kind (kept prunes columns))
    (other : ¬ (kind = .scalar ∧ column.1.name = Column.value)) : column ∈ columns := by
  have unchanged : column ∈ kept prunes columns := by
    cases kind with
    | scalar =>
      rcases mem_atFirst member with same | ⟨before, _, named, rfl⟩
      · exact same
      · exact absurd ⟨rfl, named⟩ other
    | _ => exact member
  exact mem_kept unchanged

/-- A decisive column is about types or holds numbers by its name, unless it holds the values of
scalars, which are converted. -/
private theorem decisive_typed (kind : ResultKind) : ∀ name ∈ decisive kind.kind,
    (name = Column.type ∨ name ≠ Column.type ∧ ColumnType.ofName name = .number) ∨
      kind = .scalar ∧ name = Column.value := by
  cases kind <;> decide

private theorem decisive_unmarked (kind : Kind) : ∀ name ∈ decisive kind, ¬ Marked name := by
  cases kind <;> decide

private theorem type_not_blank (kind : Kind) : Column.type ∉ resultKeys ++ kind.mandatoryColumns := by
  cases kind <;> decide

private theorem suits_of_number {kind : Kind} {name : String} (other : name ≠ Column.type) {cell : Cell}
    (number : ∃ value, cell = .number value) : Suits kind name cell := by
  obtain ⟨value, rfl⟩ := number
  rw [Suits, if_neg other]
  trivial

/-- What no attribute supplies comes from the export, has been converted or holds nothing at all. -/
theorem suits_unless_supplied (made : MadeFrom kind options raw table whole) {name : String}
    (member : name ∈ decisive kind.kind)
    (own : ¬ Supplied raw kind.kind options.inclusion name) : ColumnSuits table kind.kind name := by
  intro cells found cell inside
  by_cases value : kind = .scalar ∧ name = Column.value
  · obtain ⟨scalar, rfl⟩ := value
    exact suits_of_number (by decide) (made.values scalar cells found cell inside)
  · rw [made.shape.column?, Option.map_eq_some_iff] at found
    obtain ⟨column, first, rfl⟩ := found
    have named : column.1.name = name := by simpa using List.find?_some first
    subst named
    have typed := (decisive_typed kind _ member).resolve_right value
    have among := mem_whole (List.mem_of_find?_eq_some first) value
    rcases made.behind.member among with front | ⟨fresh, vacant | marked | provided⟩
    · rcases typed with type | ⟨other, number⟩
      · -- The type column of the export is not among the columns in front.
        have dropped := (List.mem_filter.mp front).2
        rw [type] at dropped
        cases dropped
      · exact suits_of_number other (leading_numbers made.parsed front number cell inside)
    · obtain ⟨name, expected, rfl⟩ := vacant
      rcases typed with type | ⟨other, number⟩
      · exact absurd (type ▸ expected) (type_not_blank kind.kind)
      · have same : cell = (ColumnType.ofName name).missing := List.eq_of_mem_replicate inside
        change ColumnType.ofName name = .number at number
        rw [number] at same
        exact suits_of_number other ⟨_, same⟩
    · exact absurd marked (decisive_unmarked kind.kind _ member)
    · exact absurd ⟨fresh, provided⟩ own

end Queries

/-- For every table of a query in which each row says its run, there is one item of the kind for each
row, in order, exactly if whatever attributes supply suits: a type column names the kind in every
row, and columns of numbers hold no text that does not spell one. -/
theorem query_items_iff {σ ρ : Type} (session : Session σ ρ) (before after : Journal σ ρ)
    (table : Table) (kind : ResultKind) (filter : Option String) (options : QueryOptions)
    (given : Gives (session.resultsOfKind kind filter options) before table after)
    (runs : ∀ row ∈ table.rows, HasRun table row) :
    ∃ raw next, Exports session kind.kind filter (options.extras.restricted kind) before.tool raw next ∧
      (OneItemEach table kind.kind ↔ ∀ name ∈ decisive kind.kind,
        Supplied raw kind.kind options.inclusion name → ColumnSuits table kind.kind name) := by
  obtain ⟨raw, next, whole, exports, made⟩ := resultsOfKind_made given
  refine ⟨raw, next, exports, ?_⟩
  rw [oneItemEach_columns runs]
  constructor
  · intro each name member _
    exact each name member
  · intro each name member
    by_cases supplied : Supplied raw kind.kind options.inclusion name
    · exact each name member supplied
    · exact suits_unless_supplied made member supplied

def typedScalar (type : String) : Journal (List Rule) Unit :=
  scripted ("run,type,module,name,attrname,attrvalue,value\nr0,scalar,m,s,,,1\nr0,attr,m,s,type," ++
    type ++ ",\n") ""

def typedTable (type : String) : Table where
  fields := [⟨Column.runID, .text⟩, ⟨Column.module, .text⟩, ⟨Column.name, .text⟩, ⟨Column.value, .number⟩,
    ⟨Column.type, .text⟩]
  rows := [[.text "r0", .text "m", .text "s", .number 1, .text type]]

private theorem typedTable_runs (type : String) : ∀ row ∈ (typedTable type).rows, HasRun (typedTable type) row := by
  intro row member
  cases List.mem_singleton.mp member
  exact ⟨0, rfl, rfl⟩

/-- The attribute happens to name the kind of its result. -/
theorem query_items_iff_same_type :
    ∃ after, Gives (scriptedSession.resultsOfKind .scalar none { inclusion := { attributes := true } })
        (typedScalar "scalar") (typedTable "scalar") after ∧
      (∀ row ∈ (typedTable "scalar").rows, HasRun (typedTable "scalar") row) ∧ ∃ raw next,
        Exports scriptedSession (some Kind.scalar) none {} (typedScalar "scalar").tool raw next ∧
        (OneItemEach (typedTable "scalar") .scalar ↔ ∀ name ∈ decisive .scalar,
          Supplied raw .scalar { attributes := true } name →
            ColumnSuits (typedTable "scalar") .scalar name) := by
  have given : Gives (scriptedSession.resultsOfKind .scalar none { inclusion := { attributes := true } })
      (typedScalar "scalar") (typedTable "scalar") _ := gives_of_outcome (by decide +kernel)
  exact ⟨_, given, typedTable_runs _, query_items_iff _ _ _ _ .scalar _ _ given (typedTable_runs _)⟩

/-- An attribute called type hides that its result is a scalar, so that there is no item for it. -/
theorem attribute_type_hides_item :
    ∃ after, Gives (scriptedSession.resultsOfKind .scalar none { inclusion := { attributes := true } })
        (typedScalar "gauge") (typedTable "gauge") after ∧
      (∀ row ∈ (typedTable "gauge").rows, HasRun (typedTable "gauge") row) ∧
      ¬ OneItemEach (typedTable "gauge") .scalar := by
  refine ⟨_, gives_of_outcome (by decide +kernel), typedTable_runs _, ?_⟩
  intro ⟨items, projected, _⟩
  have failed : (typedTable "gauge").itemsOfKind .scalar =
      .error (.schemaMismatch (.unknownType 2 "gauge")) := by decide +kernel
  rw [failed] at projected
  cases projected

end SimResults.Proofs.ItemProjection
