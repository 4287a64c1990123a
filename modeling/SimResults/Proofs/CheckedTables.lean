import SimResults.Proofs.Rectangularity

/-! Tables whose rows are accessed with care. Here a cell beyond its row ends everything, where the
operations of tables take it for an absent one. There is no difference on rectangular tables, so
no operation ever looks beyond a row. -/

namespace SimResults.Proofs.CheckedTables
open Outcomes TableColumns Pivoting SessionRuns Rectangularity

section Checking

/-- Work on cells that may fail, and that has no outcome at all if a cell is not there. -/
abbrev Checked := ExceptT Failure Option

variable {α β : Type}

/-- All cells were there. -/
def checked (outcome : Except Failure α) : Checked α := some outcome

/-- The next step knows what the first one found, which is what bounds the positions it uses. -/
theorem checked_bind {first : Except Failure α} {care : α → Checked β} {next : α → Except Failure β}
    (each : ∀ value, first = .ok value → care value = checked (next value)) :
    (checked first >>= care) = checked (first >>= next) := by
  cases first with
  | error failure => rfl
  | ok value => exact each value rfl

theorem checked_pure_bind (value : α) (next : α → Checked β) :
    (checked (pure value) >>= next) = next value := rfl

theorem checked_some (value : α) : (liftM (some value) : Checked α) = checked (pure value) := rfl

private theorem mapM_eq_some {items : List α} {step : α → Option β} {f : α → β}
    (each : ∀ item ∈ items, step item = some (f item)) : items.mapM step = some (items.map f) := by
  induction items with
  | nil => rfl
  | cons item items ih =>
    rw [List.forall_mem_cons] at each
    rw [List.mapM_cons, each.1, ih each.2]
    rfl

end Checking

section Cells

variable {table : Table} {row : Row}

/-- The cell at a position, which has to be there. -/
def cell (row : Row) (position : Nat) : Option Cell := row[position]?

theorem cell_eq {position : Nat} (inside : position < row.length) :
    cell row position = some (row.cell position) := by
  rw [cell, Row.cell, List.getD_eq_getElem?_getD, List.getElem?_eq_getElem inside]
  rfl

def cells (row : Row) (positions : List Nat) : Option (List Cell) := positions.mapM (cell row)

private theorem cells_eq {positions : List Nat} (inside : ∀ position ∈ positions, position < row.length) :
    cells row positions = some (row.cells positions) :=
  mapM_eq_some fun position member => cell_eq (inside position member)

/-- No cell is looked at behind the first that is missing. -/
def key? (row : Row) : List Nat → Option (Option (List String))
  | [] => some (some [])
  | position :: positions => do
    match (← cell row position).key? with
    | none => return none
    | some text => return (← key? row positions).map (text :: ·)

private theorem key?_eq {positions : List Nat} (inside : ∀ position ∈ positions, position < row.length) :
    key? row positions = some (row.key? positions) := by
  induction positions with
  | nil => rfl
  | cons position positions ih =>
    rw [List.forall_mem_cons] at inside
    rw [key?, cell_eq inside.1, ih inside.2, Row.key?, Row.key?, List.mapM_cons]
    simp only [Option.bind_eq_bind, Option.bind_some]
    cases (row.cell position).key? with
    | none => rfl
    | some text => exact congrArg some Option.map_eq_bind

theorem positionIn?_inside {fields : List Field} {name : String} {position : Nat}
    (found : positionIn? fields name = some position) : position < fields.length :=
  (List.findIdx?_eq_some_iff_getElem.mp found).1

theorem position?_inside {name : String} {position : Nat} (found : table.position? name = some position) :
    position < table.fields.length := positionIn?_inside found

private theorem requireAll_inside {names : List String} {positions : List Nat}
    (located : table.requireAll names = .ok positions) :
    ∀ position ∈ positions, position < table.fields.length := by
  intro position member
  have known : some position ∈ positions.map some := List.mem_map_of_mem member
  rw [← requireAll_eq_ok.mp located] at known
  obtain ⟨name, _, found⟩ := List.mem_map.mp known
  exact position?_inside found

end Cells

section Columns

def cellsAt (table : Table) (position : Nat) : Option (List Cell) :=
  table.rows.mapM fun row => cell row position

def column? (table : Table) (name : String) : Option (Option (List Cell)) :=
  match table.position? name with
  | none => some none
  | some position => (cellsAt table position).map some

def cell? (table : Table) (row : Nat) (name : String) : Option (Option Cell) :=
  match table.position? name, table.rows[row]? with
  | some position, some row => (cell row position).map some
  | _, _ => some none

def keepKinds (table : Table) (position : Nat) (kinds : List Kind) : Option Table := do
  let keeps ← table.rows.mapM fun row => do
    return ((Kind.ofCell? (← cell row position)).map kinds.contains).getD false
  return { table with rows := flagged keeps table.rows }

def filterByKinds (table : Table) (kinds : List Kind) : Checked Table := do
  match table.position? Column.type with
  | some position => keepKinds table position kinds
  | none => if table.isEmpty then return table else throw (.schemaMismatch .noTypesToFilter)

def splitAttributes (table : Table) (kind : Kind) : Option (Table × Option Table) := do
  match table.position? Column.type with
  | some position =>
    return (← keepKinds table position [kind], some (← keepKinds table position [.attribute]))
  | none => return (table, none)

def dropColumns (table : Table) (drop : Field → List Cell → Bool) : Option Table := do
  let kept ← table.fields.zipIdx.mapM fun (field, position) => do
    return !drop field (← cellsAt table position)
  return { fields := flagged kept table.fields, rows := table.rows.map (flagged kept) }

def prune (table : Table) : Option Table :=
  dropColumns table fun _ cells => cells.all (·.isMissing)

def finalize (table : Table) (mandatory : List String) (prunes : Bool) : Option Table :=
  let complete := table.ensureColumns mandatory
  if prunes then prune complete else some complete

def select (table : Table) (names : List String) : Option Table := do
  let positions := names.filterMap table.position?
  return { fields := table.fieldsAt positions, rows := ← table.rows.mapM (cells · positions) }

variable {table : Table} (rectangular : table.Rectangular)
include rectangular

private theorem cellsAt_eq {position : Nat} (inside : position < table.fields.length) :
    cellsAt table position = some (table.cellsAt position) := by
  apply mapM_eq_some
  intro row member
  exact cell_eq (rectangular row member ▸ inside)

theorem column?_eq (name : String) : column? table name = some (table.column? name) := by
  rw [column?, Table.column?]
  cases found : table.position? name with
  | none => rfl
  | some position => simp [cellsAt_eq rectangular (position?_inside found)]

theorem cell?_eq (row : Nat) (name : String) : cell? table row name = some (table.cell? row name) := by
  rw [cell?, Table.cell?]
  cases found : table.position? name with
  | none => rfl
  | some position =>
    cases there : table.rows[row]? with
    | none => rfl
    | some row =>
      have width := rectangular row (List.mem_of_getElem? there)
      simp [cell_eq (width ▸ position?_inside found : position < row.length)]

private theorem keepKinds_eq {position : Nat} (inside : position < table.fields.length) (kinds : List Kind) :
    keepKinds table position kinds = some (table.keepKinds position kinds) := by
  rw [keepKinds, mapM_eq_some (f := fun row =>
    ((Kind.ofCell? (row.cell position)).map kinds.contains).getD false)]
  · simp [Table.keepKinds, Table.keepRows, flagged_map]
  · intro row member
    rw [cell_eq (rectangular row member ▸ inside)]
    rfl

theorem filterByKinds_eq (kinds : List Kind) :
    filterByKinds table kinds = checked (table.filterByKinds kinds) := by
  rw [filterByKinds, Table.filterByKinds]
  cases found : table.position? Column.type with
  | none =>
    cases table.isEmpty <;> rfl
  | some position =>
    simp only [keepKinds_eq rectangular (position?_inside found)]
    rfl

theorem splitAttributes_eq (kind : Kind) :
    splitAttributes table kind = some (table.splitAttributes kind) := by
  rw [splitAttributes, Table.splitAttributes]
  cases found : table.position? Column.type with
  | none => rfl
  | some position =>
    simp only [keepKinds_eq rectangular (position?_inside found)]
    rfl

theorem dropColumns_eq (drop : Field → List Cell → Bool) :
    dropColumns table drop = some (table.dropColumns drop) := by
  rw [dropColumns, mapM_eq_some (f := fun column => !drop column.1 (table.cellsAt column.2))]
  · simp only [Table.dropColumns, Table.columns, List.map_map]
    rfl
  · intro column member
    have inside := (List.mem_zipIdx member).2.1
    simp only [cellsAt_eq rectangular (by simpa using inside)]
    rfl

theorem prune_eq : prune table = some table.prune := dropColumns_eq rectangular _

theorem finalize_eq (mandatory : List String) (prunes : Bool) :
    finalize table mandatory prunes = some (table.finalize mandatory prunes) := by
  have complete := (Columnar.of_rectangular rectangular).ensureColumns mandatory
  rw [finalize, Table.finalize]
  cases prunes with
  | false => rfl
  | true => exact prune_eq complete.rectangular

theorem select_eq (names : List String) : select table names = some (table.select names) := by
  rw [select, mapM_eq_some (f := fun row => row.cells (names.filterMap table.position?))]
  · rfl
  · intro row member
    apply cells_eq
    intro position located
    obtain ⟨name, _, found⟩ := List.mem_filterMap.mp located
    rw [rectangular row member]
    exact position?_inside found

end Columns

section Conversions

def convertRows (convert : Nat → Row → Checked Row) (number : Nat) :
    List Row → Option (List Row × Option Failure)
  | [] => some ([], none)
  | row :: rest => do
    match ← (convert number row).run with
    | .error failure => return (row :: rest, some failure)
    | .ok converted =>
      let (rows, failure?) ← convertRows convert (number + 1) rest
      return (converted :: rows, failure?)

/-- A cell is only written where it was read. -/
def numericRow (name : String) (position number : Nat) (row : Row) : Checked Row := do
  let cell ← cell row position
  (numericCell number name cell).map (row.set position)

def toNumeric (table : Table) (name : String) : Option Conversion := do
  match table.position? name with
  | none => return ⟨table, none⟩
  | some position =>
    match ← convertRows (numericRow name position) firstExportRow table.rows with
    | (rows, some failure) => return ⟨{ table with rows }, some failure⟩
    | (rows, none) =>
      let fields := table.fields.modify position fun field => { field with type := .number }
      return ⟨⟨fields, rows⟩, none⟩

def fillArray (fields : List Field) (row : Row) (name : String) : Option Row := do
  match positionIn? fields name with
  | none => return row
  | some position => return row.set position (filledArray (← cell row position))

def fillArrays (fields : List Field) (row : Row) (names : List String) : Option Row :=
  names.foldlM (fillArray fields) row

def normalizeRow (fields : List Field) (typePosition : Nat) (number : Nat) (row : Row) : Checked Row := do
  match Kind.ofCell? (← cell row typePosition) with
  | some .scalar =>
    match positionIn? fields Column.value with
    | none => return row
    | some position =>
      let cell ← cell row position
      (scalarCell number cell).map (row.set position)
  | some .vector => fillArrays fields row [Column.vectime, Column.vecvalue]
  | some .histogram => fillArrays fields row [Column.binedges, Column.binvalues]
  | _ => return row

def normalize (table : Table) : Option Conversion := do
  match table.position? Column.type with
  | none => return ⟨table, none⟩
  | some position =>
    let (rows, failure?) ← convertRows (normalizeRow table.fields position) firstExportRow table.rows
    return ⟨{ table with rows }, failure?⟩

def readStream (stream : Delimited.Stream) (dialect : Delimited.Dialect) : Checked Table := do
  let (names, framed) ← (stream.frameWithHeader dialect).mapError Failure.framing
  let fields := names.map Field.declared
  let rows ← Export.coerceRecords fields firstExportRow framed.records
  if let some fault := framed.fault? then throw (.framing fault)
  let conversion ← normalize ⟨fields, rows⟩
  let table ← conversion.result
  return table.rename Column.run Column.runID

variable {table : Table} {fields : List Field} {row : Row}

private theorem convertRows_eq {care : Nat → Row → Checked Row} {convert : Nat → Row → Except Failure Row}
    {rows : List Row} (number : Nat)
    (each : ∀ row ∈ rows, ∀ number, care number row = checked (convert number row)) :
    convertRows care number rows = some (SimResults.convertRows convert number rows) := by
  induction rows generalizing number with
  | nil => rfl
  | cons row rest ih =>
    rw [List.forall_mem_cons] at each
    rw [convertRows, SimResults.convertRows, each.1 number]
    cases convert number row with
    | error failure => rfl
    | ok converted =>
      simp only [ih (number + 1) each.2]
      rfl

private theorem numericRow_eq {position : Nat} (inside : position < row.length) (name : String) (number : Nat) :
    numericRow name position number row =
      checked ((numericCell number name (row.cell position)).map (row.set position)) := by
  rw [numericRow, cell_eq inside]
  rfl

theorem toNumeric_eq (rectangular : table.Rectangular) (name : String) :
    toNumeric table name = some (table.toNumeric name) := by
  rw [toNumeric, Table.toNumeric]
  cases found : table.position? name with
  | none => rfl
  | some position =>
    have inside := position?_inside found
    simp only
    rw [convertRows_eq firstExportRow fun row member number =>
      numericRow_eq (rectangular row member ▸ inside) name number]
    rcases SimResults.convertRows _ firstExportRow table.rows with ⟨rows, _ | failure⟩
    · rfl
    · rfl

example : toNumeric ⟨[⟨Column.value, .generic⟩], [[]]⟩ Column.value = none := rfl

private theorem fillArray_eq (width : row.length = fields.length) (name : String) :
    fillArray fields row name = some (SimResults.fillArray fields row name) := by
  rw [fillArray, SimResults.fillArray]
  cases found : positionIn? fields name with
  | none => rfl
  | some position =>
    have inside : position < row.length := width ▸ positionIn?_inside found
    simp only [cell_eq inside]
    rfl

private theorem fillArrays_eq (width : row.length = fields.length) (names : List String) :
    fillArrays fields row names = some (names.foldl (SimResults.fillArray fields) row) := by
  induction names generalizing row with
  | nil => rfl
  | cons name names ih =>
    have same := (Conversions.fillArray_length fields row name).trans width
    rw [fillArrays, List.foldlM_cons, fillArray_eq width, List.foldl_cons, ← ih same]
    rfl

private theorem normalizeRow_eq (width : row.length = fields.length) {typePosition : Nat}
    (inside : typePosition < fields.length) (number : Nat) :
    normalizeRow fields typePosition number row =
      checked (SimResults.normalizeRow fields typePosition number row) := by
  rw [normalizeRow, SimResults.normalizeRow, cell_eq (width ▸ inside)]
  simp only [checked_some, checked_pure_bind, fillArrays_eq width]
  cases Kind.ofCell? (row.cell typePosition) with
  | none => rfl
  | some kind =>
    cases kind with
    | scalar =>
      cases found : positionIn? fields Column.value with
      | none => rfl
      | some position =>
        have inside : position < row.length := width ▸ positionIn?_inside found
        simp only [cell_eq inside]
        rfl
    | _ => rfl

theorem normalize_eq (rectangular : table.Rectangular) : normalize table = some table.normalize := by
  rw [normalize, Table.normalize]
  cases found : table.position? Column.type with
  | none => rfl
  | some position =>
    simp only
    rw [convertRows_eq firstExportRow fun row member number =>
      normalizeRow_eq (rectangular row member) (position?_inside found) number]
    rfl

/-- The rows of an export are filled before they are normalized. -/
theorem readStream_eq (stream : Delimited.Stream) (dialect : Delimited.Dialect) :
    readStream stream dialect = checked (Export.readStream stream dialect) := by
  rw [readStream, Export.readStream]
  refine checked_bind fun header _ => ?_
  obtain ⟨names, framed⟩ := header
  refine checked_bind fun rows coerced => ?_
  have filled : Table.Rectangular ⟨names.map Field.declared, rows⟩ := by
    intro row member
    rw [ExportCells.coerceRecords_width coerced row member, List.length_map]
  cases framed.fault? with
  | some fault => rfl
  | none =>
    change (liftM (normalize ⟨names.map Field.declared, rows⟩) >>= fun conversion => _ : Checked Table) = _
    rw [normalize_eq filled]
    exact checked_bind fun _ _ => rfl

end Conversions

section Pivots

def read? (positions : Pivot.Positions) (row : Row) : Option (Option Pivot.Entry) := do
  match ← key? row positions.index with
  | none => return none
  | some key =>
    match (← cell row positions.name).key? with
    | none => return none
    | some name =>
      return some { key, index := ← cells row positions.index, name, value := ← cell row positions.value }

def entries (table : Table) (positions : Pivot.Positions) : Option (List Pivot.Entry) := do
  return (← table.rows.mapM (read? positions)).filterMap id

def pivot (table : Table) (index : List String) (names values : String) : Checked Table := do
  let indexPositions ← table.requireAll index
  let namePosition ← table.require names
  let valuePosition ← table.require values
  let valueType := (table.field valuePosition).type
  let entries ← entries table ⟨indexPositions, namePosition, valuePosition⟩
  let pivot := entries.foldl Pivot.add {}
  let wideFields := pivot.names.map fun name => ⟨wideName index values name, valueType⟩
  return ⟨table.fieldsAt indexPositions ++ wideFields, pivot.rows valueType.missing⟩

def meltRow (ids : List Nat) (values : List (Field × Nat)) (row : Row) : Option (List Row) :=
  values.mapM fun (field, position) => do
    return (← cells row ids) ++ [.text field.name, ← cell row position]

def meltRows (table : Table) (ids : List Nat) (values : List (Field × Nat)) : Option (List Row) := do
  return (← table.rows.mapM (meltRow ids values)).flatten

def melt (table : Table) (ids : List String) (nameColumn valueColumn : String) : Checked Table := do
  let positions ← table.requireAll ids
  let values := table.fields.zipIdx.filter fun (_, position) => !positions.contains position
  let valueType := sharedType (values.map (·.1.type))
  let longFields := [⟨nameColumn, .text⟩, ⟨valueColumn, valueType⟩]
  return ⟨table.fieldsAt positions ++ longFields, ← meltRows table positions values⟩

variable {table : Table}

private theorem require_inside {name : String} {position : Nat} (located : table.require name = .ok position) :
    position < table.fields.length := position?_inside (require_eq_ok.mp located)

private theorem read?_eq {positions : Pivot.Positions} {row : Row}
    (index : ∀ position ∈ positions.index, position < row.length) (name : positions.name < row.length)
    (value : positions.value < row.length) : read? positions row = some (positions.entry? row) := by
  rw [read?, Pivot.Positions.entry?, key?_eq index, cell_eq name, cells_eq index, cell_eq value]
  cases row.key? positions.index with
  | none => rfl
  | some key =>
    simp only [Option.bind_eq_bind, Option.bind_some]
    cases (row.cell positions.name).key? with
    | none => rfl
    | some name => rfl

private theorem entries_eq (rectangular : table.Rectangular) {positions : Pivot.Positions}
    (index : ∀ position ∈ positions.index, position < table.fields.length)
    (name : positions.name < table.fields.length) (value : positions.value < table.fields.length) :
    entries table positions = some (table.rows.filterMap positions.entry?) := by
  rw [entries, mapM_eq_some (f := positions.entry?)]
  · simp [List.filterMap_map]
  · intro row member
    rw [← rectangular row member] at index name value
    exact read?_eq index name value

theorem pivot_eq (rectangular : table.Rectangular) (index : List String) (names values : String) :
    pivot table index names values = checked (table.pivot index names values) := by
  rw [pivot, Table.pivot]
  refine checked_bind fun indexPositions indexed => ?_
  refine checked_bind fun namePosition named => ?_
  refine checked_bind fun valuePosition valued => ?_
  simp only
  rw [entries_eq rectangular (requireAll_inside indexed) (require_inside named) (require_inside valued)]
  rfl

private theorem meltRow_eq {ids : List Nat} {values : List (Field × Nat)} {row : Row}
    (staying : ∀ position ∈ ids, position < row.length) (turning : ∀ value ∈ values, value.2 < row.length) :
    meltRow ids values row = some (SimResults.meltRow ids values row) := by
  apply mapM_eq_some
  intro (field, position) member
  simp only [cells_eq staying, cell_eq (turning _ member)]
  rfl

private theorem meltRows_eq (rectangular : table.Rectangular) {ids : List Nat} {values : List (Field × Nat)}
    (staying : ∀ position ∈ ids, position < table.fields.length)
    (turning : ∀ value ∈ values, value.2 < table.fields.length) :
    meltRows table ids values = some (table.rows.flatMap (SimResults.meltRow ids values)) := by
  rw [meltRows, mapM_eq_some (f := SimResults.meltRow ids values)]
  · rfl
  · intro row member
    rw [← rectangular row member] at staying turning
    exact meltRow_eq staying turning

theorem melt_eq (rectangular : table.Rectangular) (ids : List String) (nameColumn valueColumn : String) :
    melt table ids nameColumn valueColumn = checked (table.melt ids nameColumn valueColumn) := by
  rw [melt, Table.melt]
  refine checked_bind fun positions located => ?_
  simp only
  rw [meltRows_eq rectangular (requireAll_inside located)]
  · rfl
  · intro value member
    simpa using (List.mem_zipIdx (List.mem_filter.mp member).1).2.1

end Pivots

section Joins

def keyed (table : Table) (positions : List Nat) : Option (List (List String × Row)) := do
  let keys ← table.rows.mapM fun row => do return (← key? row positions).map fun key => (key, row)
  return keys.filterMap id

def matching (table : Table) (positions : List Nat) (lookup : List (List String × Row)) :
    Option (List (Option Row)) :=
  table.rows.mapM fun row => do return (← key? row positions).bind fun key => lookup.lookup key

def matched (missing : Cell) (position : Nat) : Option Row → Option Cell
  | none => some missing
  | some row => cell row position

def joinColumns (matching : List (Option Row)) (added : List (Field × Nat)) (table : Table) : Option Table :=
  added.foldlM (fun joined (field, position) => do
    let cells ← matching.mapM (matched field.type.missing position)
    return joined.append ⟨freshName joined.names field.name, field.type⟩ cells) table

def leftJoin (table other : Table) (keys : List String) : Checked Table := do
  let keyPositions ← table.requireAll keys
  let otherPositions ← other.requireAll keys
  let lookup ← keyed other otherPositions
  let matching ← matching table keyPositions lookup
  let added := other.fields.zipIdx.filter fun (_, position) => !otherPositions.contains position
  joinColumns matching added table

def appendMetadata (table metadata : Table) (suffix : String) : Checked Table := do
  if !table.contains Column.runID then throw (.schemaMismatch (.noRunsToExtend suffix))
  let long := (metadata.rename Column.name Column.attrname).rename Column.value Column.attrvalue
  let wide ← pivot long [Column.runID] Column.attrname Column.attrvalue
  leftJoin table (wide.suffixed suffix) [Column.runID]

def appendAttributes (table attributes : Table) : Checked Table := do
  let keys := [Column.runID, Column.module, Column.name]
  let wide ← pivot attributes keys Column.attrname Column.attrvalue
  leftJoin table wide keys

variable {table other : Table}

private theorem keyed_eq (rectangular : table.Rectangular) {positions : List Nat}
    (inside : ∀ position ∈ positions, position < table.fields.length) :
    keyed table positions = some (table.keyed positions) := by
  rw [keyed, mapM_eq_some (f := fun row => (row.key? positions).map fun key => (key, row))]
  · simp [Table.keyed, List.filterMap_map]
  · intro row member
    rw [← rectangular row member] at inside
    rw [key?_eq inside]
    rfl

private theorem matching_eq (rectangular : table.Rectangular) {positions : List Nat}
    (inside : ∀ position ∈ positions, position < table.fields.length)
    (lookup : List (List String × Row)) :
    matching table positions lookup =
      some (table.rows.map fun row => (row.key? positions).bind fun key => lookup.lookup key) := by
  apply mapM_eq_some
  intro row member
  rw [← rectangular row member] at inside
  rw [key?_eq inside]
  rfl

/-- The rows that are found are rows of the other table. -/
private theorem keyed_member {positions : List Nat} {key : List String} {row : Row}
    (found : (other.keyed positions).lookup key = some row) : row ∈ other.rows := by
  have member : (key, row) ∈ other.keyed positions := by
    obtain ⟨_, _, same, _⟩ := List.lookup_eq_some_iff.mp found
    rw [same]
    exact List.mem_append_right _ List.mem_cons_self
  obtain ⟨source, inside, made⟩ := List.mem_filterMap.mp member
  obtain ⟨_, _, same⟩ := Option.map_eq_some_iff.mp made
  cases same
  exact inside

private theorem joinColumns_eq {matching : List (Option Row)} {added : List (Field × Nat)}
    (inside : ∀ row, some row ∈ matching → ∀ column ∈ added, column.2 < row.length) (table : Table) :
    joinColumns matching added table =
      some (added.foldl (fun joined (field, position) =>
        joined.append ⟨freshName joined.names field.name, field.type⟩ <|
          matching.map fun row? => row?.elim field.type.missing (·.cell position)) table) := by
  induction added generalizing table with
  | nil => rfl
  | cons first added ih =>
    have later := ih fun row found column member => inside row found column (List.mem_cons_of_mem _ member)
    have cells : matching.mapM (matched first.1.type.missing first.2) =
        some (matching.map fun row? => row?.elim first.1.type.missing (·.cell first.2)) := by
      apply mapM_eq_some
      intro row? found
      cases row? with
      | none => rfl
      | some row => exact cell_eq (inside row found first List.mem_cons_self)
    rw [joinColumns, List.foldlM_cons, List.foldl_cons, ← later]
    simp only [cells]
    rfl

theorem leftJoin_eq (rectangular : table.Rectangular) (filled : other.Rectangular) (keys : List String) :
    leftJoin table other keys = checked (table.leftJoin other keys) := by
  rw [leftJoin, Table.leftJoin]
  refine checked_bind fun keyPositions here => ?_
  refine checked_bind fun otherPositions there => ?_
  simp only
  rw [keyed_eq filled (requireAll_inside there), checked_some, checked_pure_bind,
    matching_eq rectangular (requireAll_inside here), checked_some, checked_pure_bind, joinColumns_eq]
  · rfl
  · intro row found column member
    obtain ⟨source, _, looked⟩ := List.mem_map.mp found
    obtain ⟨key, _, located⟩ := Option.bind_eq_some_iff.mp looked
    rw [filled row (keyed_member located)]
    simpa using (List.mem_zipIdx (List.mem_filter.mp member).1).2.1

theorem appendMetadata_eq (rectangular : table.Rectangular) (filled : other.Rectangular) (suffix : String) :
    appendMetadata table other suffix = checked (table.appendMetadata other suffix) := by
  have renamed := rename_rectangular (rename_rectangular filled Column.name Column.attrname)
    Column.value Column.attrvalue
  rw [appendMetadata, Table.appendMetadata]
  cases table.contains Column.runID with
  | false => rfl
  | true =>
    simp only [pivot_eq renamed]
    refine checked_bind fun wide pivoted => ?_
    exact leftJoin_eq rectangular (suffixed_rectangular (pivot_rectangular pivoted) suffix) _

theorem appendAttributes_eq (rectangular : table.Rectangular) (filled : other.Rectangular) :
    appendAttributes table other = checked (table.appendAttributes other) := by
  rw [appendAttributes, Table.appendAttributes]
  simp only [pivot_eq filled]
  refine checked_bind fun wide pivoted => ?_
  exact leftJoin_eq rectangular (pivot_rectangular pivoted) _

end Joins

end SimResults.Proofs.CheckedTables
