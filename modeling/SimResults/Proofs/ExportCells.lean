import Mathlib.Data.List.Forall2
import SimResults.Export
import SimResults.Proofs.Conversions

/-! What reading an export amounts to, cell by cell. The reader makes two passes, by the types of
the columns and by the kinds of the rows; each cell depends on its own text and on the type cell
of its record alone. A stream fails at its first bad cell in reading order, and only if there is
none at its first scalar whose value is not a number. -/

namespace SimResults.Proofs.ExportCells
open Outcomes TableColumns Conversions

def textIn? (names record : List String) (name : String) : Option String :=
  (names.findIdx? (· == name)).map fun column => record.getD column ""

def kindOf? (names record : List String) : Option Kind :=
  (textIn? names record Column.type).bind Kind.ofTag?

def leads (names : List String) (column : Nat) (name : String) : Bool :=
  names.findIdx? (· == name) == some column

def arrayColumns : Kind → List String
  | .vector => [Column.vectime, Column.vecvalue]
  | .histogram => [Column.binedges, Column.binvalues]
  | _ => []

/-- A raw cell by the type of its column, whatever the kind of its record. -/
def plainCell (names record : List String) (column : Nat) : Except CellFault Cell :=
  Cell.read (.ofName (names.getD column "")) (record.getD column "")

/-- The cell of a record in a column of the table. -/
def cellOf (names record : List String) (column : Nat) : Except CellFault Cell :=
  if kindOf? names record = some .scalar ∧ leads names column Column.value then
    Cell.readNumber (record.getD column "")
  else if (record.getD column "").isEmpty ∧
      ((kindOf? names record).elim [] arrayColumns).any (leads names column) then
    .ok (.array [])
  else plainCell names record column

/-- The names of the table: the first run column gets its long name. -/
def tableNames : List String → List String
  | [] => []
  | name :: rest => if name = Column.run then Column.runID :: rest else name :: tableNames rest

structure DescribesRow (names record : List String) (row : Row) : Prop where
  width : row.length = names.length
  cells : ∀ column < names.length, cellOf names record column = .ok (row.cell column)

/-- A table with one column per name and one row per record, in order. -/
structure Describes (names : List String) (records : List (List String)) (table : Table) : Prop where
  fields : table.fields = (tableNames names).map Field.declared
  rows : List.Forall₂ (DescribesRow names) records table.rows

def Coerces (names : List String) (records : List (List String)) : Prop :=
  ∀ record ∈ records, ∀ column < names.length, ∃ cell, plainCell names record column = .ok cell

/-- Every scalar has a value that is empty or spells a number. -/
def ScalarsAreNumbers (names : List String) (records : List (List String)) : Prop :=
  ∀ record ∈ records, textIn? names record Column.type = some "scalar" →
    ∀ raw, textIn? names record Column.value = some raw →
      raw = "" ∨ ∃ value, Cell.numberOf raw = .ok value

def BadCell (names : List String) (records : List (List String)) (row column : Nat)
    (failure : Failure) : Prop :=
  ∃ record name fault, records[row]? = some record ∧ names[column]? = some name ∧
    Cell.read (.ofName name) (record.getD column "") = .error fault ∧
    failure = .parse (row + 2) name (record.getD column "") fault

/-- A scalar whose value is not a number, and the failure that names it. -/
def BadScalar (names : List String) (records : List (List String)) (row : Nat)
    (failure : Failure) : Prop :=
  ∃ record raw fault, records[row]? = some record ∧
    textIn? names record Column.type = some "scalar" ∧
    textIn? names record Column.value = some raw ∧ raw ≠ "" ∧ Cell.numberOf raw = .error fault ∧
    failure = .parse (row + 2) Column.value raw fault

/-- The first bad cell row by row, or the first bad scalar if all cells have their types. -/
inductive FirstFault (names : List String) (records : List (List String)) (failure : Failure) : Prop
  | cell (row column : Nat) (bad : BadCell names records row column failure)
      (rows : ∀ earlier < row, ∀ other fault, ¬ BadCell names records earlier other fault)
      (columns : ∀ earlier < column, ∀ fault, ¬ BadCell names records row earlier fault)
  | scalar (coerces : Coerces names records) (row : Nat) (bad : BadScalar names records row failure)
      (rows : ∀ earlier < row, ∀ fault, ¬ BadScalar names records earlier fault)

section Records

private def cellStep (number : Nat) (record : List String) (column : Nat) (field : Field) :
    Except Failure Cell :=
  coerceCell number field.name field.type (record.getD column "")

/-- Reading a record from some column on; the induction is on the columns that are left. -/
private theorem coerceRecord_drop (number : Nat) (fields : List Field) (record : List String)
    (column : Nat) :
    Export.coerceRecord number fields (record.drop column) =
      traverseFrom (cellStep number record) column fields := by
  induction fields generalizing column with
  | nil => rfl
  | cons field fields ih =>
    have first : (record.drop column).headD "" = record.getD column "" := by
      simp [List.headD_eq_head?_getD, List.head?_drop, List.getD_eq_getElem?_getD]
    rw [Export.coerceRecord, traverseFrom, first, List.tail_drop, ih]
    rfl

private theorem coerceRecord_eq_traverse (number : Nat) (fields : List Field) (record : List String) :
    Export.coerceRecord number fields record = traverseFrom (cellStep number record) 0 fields :=
  coerceRecord_drop number fields record 0

private theorem coerceRecords_eq_traverse (number : Nat) (fields : List Field)
    (records : List (List String)) :
    Export.coerceRecords fields number records =
      traverseFrom (fun number record => Export.coerceRecord number fields record) number records := by
  induction records generalizing number with
  | nil => rfl
  | cons record rest ih => rw [Export.coerceRecords, traverseFrom, ih]

private theorem declared_getElem? (names : List String) (column : Nat) :
    (names.map Field.declared)[column]? = names[column]?.map Field.declared := by
  simp

private theorem cellStep_eq_ok {names record : List String} {number column : Nat} {name : String}
    (found : names[column]? = some name) {cell : Cell} :
    cellStep number record column (.declared name) = .ok cell ↔
      plainCell names record column = .ok cell := by
  have named : names.getD column "" = name := by simp [List.getD_eq_getElem?_getD, found]
  rw [cellStep, coerceCell, atCell_eq_ok, plainCell, named]
  rfl

/-- The row of a record before it takes the form of its kind. -/
structure PlainRow (names record : List String) (row : Row) : Prop where
  width : row.length = names.length
  cells : ∀ column < names.length, plainCell names record column = .ok (row.cell column)

private theorem coerceRecord_eq_ok {names record : List String} {number : Nat} {row : Row} :
    Export.coerceRecord number (names.map Field.declared) record = .ok row ↔
      PlainRow names record row := by
  rw [coerceRecord_eq_traverse, traverseFrom_eq_ok]
  constructor
  · intro given
    obtain ⟨length, each⟩ := given
    refine ⟨by simpa using length, ?_⟩
    intro column inside
    obtain ⟨name, found⟩ : ∃ name, names[column]? = some name := ⟨_, List.getElem?_eq_getElem inside⟩
    obtain ⟨cell, member, stepped⟩ := each column (.declared name) (by simp [found])
    rw [Nat.zero_add, cellStep_eq_ok found] at stepped
    rw [stepped, Row.cell, List.getD_eq_getElem?_getD, member, Option.getD_some]
  · intro given
    obtain ⟨width, cells⟩ := given
    refine ⟨by simpa using width, ?_⟩
    intro column field found
    rw [declared_getElem?, Option.map_eq_some_iff] at found
    obtain ⟨name, found, rfl⟩ := found
    have inside : column < names.length := (List.getElem?_eq_some_iff.mp found).1
    refine ⟨row.cell column, ?_, ?_⟩
    · simp [Row.cell, List.getElem?_eq_getElem (width ▸ inside : column < row.length)]
    · rw [Nat.zero_add, cellStep_eq_ok found]
      exact cells column inside

private theorem coerceRecord_succeeds {names record : List String} {number : Nat} :
    (∃ row, Export.coerceRecord number (names.map Field.declared) record = .ok row) ↔
      ∀ column < names.length, ∃ cell, plainCell names record column = .ok cell := by
  rw [coerceRecord_eq_traverse, traverseFrom_succeeds]
  constructor
  · intro each column inside
    obtain ⟨name, found⟩ : ∃ name, names[column]? = some name := ⟨_, List.getElem?_eq_getElem inside⟩
    obtain ⟨cell, stepped⟩ := each column (.declared name) (by simp [found])
    exact ⟨cell, (cellStep_eq_ok found).mp (Nat.zero_add column ▸ stepped)⟩
  · intro each column field found
    rw [declared_getElem?, Option.map_eq_some_iff] at found
    obtain ⟨name, found, rfl⟩ := found
    obtain ⟨cell, read⟩ := each column (List.getElem?_eq_some_iff.mp found).1
    exact ⟨cell, by rw [Nat.zero_add]; exact (cellStep_eq_ok found).mpr read⟩

private theorem coerceRecords_eq_ok {names : List String} {number : Nat} {records : List (List String)}
    {rows : List Row} :
    Export.coerceRecords (names.map Field.declared) number records = .ok rows ↔
      List.Forall₂ (PlainRow names) records rows := by
  induction records generalizing number rows with
  | nil => simp [Export.coerceRecords, eq_comm]
  | cons record rest ih =>
    rw [coerceRecords_eq_traverse, traverseFrom_cons_eq_ok, List.forall₂_cons_left_iff]
    simp only [coerceRecord_eq_ok, ← coerceRecords_eq_traverse, ih]

private theorem coerceRecords_succeeds {names : List String} {number : Nat} {records : List (List String)} :
    (∃ rows, Export.coerceRecords (names.map Field.declared) number records = .ok rows) ↔
      Coerces names records := by
  rw [coerceRecords_eq_traverse, traverseFrom_succeeds]
  constructor
  · intro each record member
    obtain ⟨index, found⟩ := List.getElem?_of_mem member
    exact coerceRecord_succeeds.mp (each index record found)
  · intro each index record found
    exact coerceRecord_succeeds.mpr (each record (List.mem_of_getElem? found))

end Records

section Forms

variable {names record : List String} {row : Row}

theorem positionIn?_declared (names : List String) (name : String) :
    positionIn? (names.map Field.declared) name = names.findIdx? (· == name) := by
  rw [positionIn?, List.findIdx?_map]
  rfl

theorem leads_iff {column : Nat} {name : String} :
    leads names column name = true ↔ names.findIdx? (· == name) = some column := by
  simp [leads]

theorem first_column {position : Nat} {name : String}
    (first : names.findIdx? (· == name) = some position) :
    position < names.length ∧ names.getD position "" = name := by
  obtain ⟨inside, named, _⟩ := List.findIdx?_eq_some_iff_getElem.mp first
  refine ⟨inside, ?_⟩
  simpa [List.getD_eq_getElem?_getD, inside] using named

theorem plainCell_first {position : Nat} {name : String}
    (first : names.findIdx? (· == name) = some position) :
    plainCell names record position = Cell.read (.ofName name) (record.getD position "") := by
  rw [plainCell, (first_column first).2]

private theorem ofCell?_plain (plain : PlainRow names record row) {position : Nat}
    (typed : names.findIdx? (· == Column.type) = some position) :
    Kind.ofCell? (row.cell position) = kindOf? names record := by
  have read := plain.cells position (first_column typed).1
  rw [plainCell_first typed] at read
  have text : row.cell position = Cell.ofText (record.getD position "") := (Except.ok.inj read).symm
  rw [text, kindOf?, textIn?, typed, Cell.ofText]
  simp only [Option.map_some, Option.bind_some]
  split
  next empty => rw [String.isEmpty_iff.mp empty]; rfl
  next => rfl

private theorem cell_filled (arrays : List String) (row : Row) {column : Nat}
    (inside : column < row.length) :
    (arrays.foldl (fillArray (names.map Field.declared)) row).cell column =
      if arrays.any (leads names column) then filledArray (row.cell column) else row.cell column := by
  have same : leads names column = fun name => positionIn? (names.map Field.declared) name == some column := by
    funext name
    rw [leads, positionIn?_declared]
  rw [same, cell_fillArrays _ _ _ inside]

private theorem filledArray_read {name : String} (array : ColumnType.ofName name = .array)
    {raw : String} {cell : Cell} (read : Cell.read (.ofName name) raw = .ok cell) :
    filledArray cell = if raw.isEmpty then .array [] else cell := by
  rw [array] at read
  change Cell.readArray raw = .ok cell at read
  rw [Cell.readArray] at read
  split at read
  next empty => cases read; simp [empty, filledArray]
  next filled =>
    obtain ⟨values, _, rfl⟩ := map_eq_ok.mp read
    simp [filled, filledArray]

theorem ofName_arrayColumns {kind : Kind} {name : String} (member : name ∈ arrayColumns kind) :
    ColumnType.ofName name = .array := by
  cases kind <;> simp only [arrayColumns, List.mem_cons, List.not_mem_nil, or_false] at member
  all_goals rcases member with rfl | rfl <;> rfl

private theorem cellOf_of_kind {kind : Kind} (known : kindOf? names record = some kind)
    (other : kind ≠ .scalar) (plain : PlainRow names record row) {column : Nat}
    (inside : column < names.length) :
    cellOf names record column =
      .ok (if (arrayColumns kind).any (leads names column) then filledArray (row.cell column)
        else row.cell column) := by
  have read := plain.cells column inside
  rw [cellOf, known, if_neg (by simp [other]), Option.elim_some]
  by_cases array : (arrayColumns kind).any (leads names column) = true
  · obtain ⟨name, member, first⟩ := List.any_eq_true.mp array
    rw [plainCell_first (leads_iff.mp first)] at read
    rw [if_pos array, filledArray_read (ofName_arrayColumns member) read]
    by_cases empty : (record.getD column "").isEmpty
    · rw [if_pos ⟨empty, array⟩, if_pos empty]
    · rw [if_neg fun both => empty both.1, if_neg empty, plainCell_first (leads_iff.mp first), read]
  · rw [if_neg array, if_neg fun both => array both.2, read]

private theorem scalarCell_ofText (number : Nat) (raw : String) :
    scalarCell number (Cell.ofText raw) = atCell number Column.value raw (Cell.readNumber raw) := by
  rw [Cell.ofText, Cell.readNumber]
  by_cases empty : raw.isEmpty
  · simp [empty, scalarCell, atCell, ColumnType.missing]
  · simp [empty, scalarCell, Cell.readNumber]

variable {position number : Nat}

private theorem normalizeRow_scalar (plain : PlainRow names record row)
    (typed : names.findIdx? (· == Column.type) = some position)
    (scalar : kindOf? names record = some .scalar) :
    normalizeRow (names.map Field.declared) position number row =
      match names.findIdx? (· == Column.value) with
      | none => .ok row
      | some place =>
        (atCell number Column.value (record.getD place "") (Cell.readNumber (record.getD place ""))).map
          (row.set place) := by
  rw [normalizeRow, ofCell?_plain plain typed, scalar]
  simp only [positionIn?_declared]
  cases valued : names.findIdx? (· == Column.value) with
  | none => rfl
  | some place =>
    have read := plain.cells place (first_column valued).1
    rw [plainCell_first valued] at read
    have text : row.cell place = Cell.ofText (record.getD place "") := (Except.ok.inj read).symm
    simp only [text, scalarCell_ofText]

private theorem normalizeRow_other (plain : PlainRow names record row)
    (typed : names.findIdx? (· == Column.type) = some position)
    (other : kindOf? names record ≠ some .scalar) :
    normalizeRow (names.map Field.declared) position number row =
      .ok (((kindOf? names record).elim [] arrayColumns).foldl
        (fillArray (names.map Field.declared)) row) := by
  rw [normalizeRow, ofCell?_plain plain typed]
  cases known : kindOf? names record with
  | none => rfl
  | some kind =>
    cases kind <;> first | rfl | exact absurd known other

private theorem normalizeRow_describes (plain : PlainRow names record row)
    (typed : names.findIdx? (· == Column.type) = some position) {result : Row}
    (normalized : normalizeRow (names.map Field.declared) position number row = .ok result) :
    DescribesRow names record result := by
  by_cases scalar : kindOf? names record = some .scalar
  · rw [normalizeRow_scalar plain typed scalar] at normalized
    cases valued : names.findIdx? (· == Column.value) with
    | none =>
      rw [valued] at normalized
      cases normalized
      refine ⟨plain.width, ?_⟩
      intro column inside
      rw [cellOf, scalar, if_neg (by simp [leads, valued]), if_neg (by simp [arrayColumns])]
      exact plain.cells column inside
    | some place =>
      rw [valued] at normalized
      obtain ⟨cell, read, rfl⟩ := map_eq_ok.mp normalized
      rw [atCell_eq_ok] at read
      refine ⟨by rw [List.length_set, plain.width], ?_⟩
      intro column inside
      rw [cell_set, cellOf, scalar]
      by_cases same : place = column
      · subst same
        rw [if_pos ⟨rfl, leads_iff.mpr valued⟩, if_pos ⟨rfl, plain.width ▸ inside⟩, read]
      · rw [if_neg (by simp [leads, valued, same]), if_neg (by simp [arrayColumns]),
          if_neg fun both => same both.1]
        exact plain.cells column inside
  · rw [normalizeRow_other plain typed scalar] at normalized
    cases normalized
    refine ⟨by rw [foldl_fillArray_length, plain.width], ?_⟩
    intro column inside
    rw [cell_filled _ _ (plain.width ▸ inside)]
    cases known : kindOf? names record with
    | none =>
      rw [cellOf, known, if_neg (by simp), if_neg (by simp)]
      exact plain.cells column inside
    | some kind =>
      exact cellOf_of_kind known (fun same => scalar (known.trans (congrArg some same))) plain inside

private theorem ofTag?_scalar {tag : String} : Kind.ofTag? tag = some .scalar ↔ tag = "scalar" := by
  constructor
  · intro known
    unfold Kind.ofTag? at known
    split at known <;> first | rfl | cases known
  · rintro rfl
    rfl

private theorem kindOf?_scalar :
    kindOf? names record = some .scalar ↔ textIn? names record Column.type = some "scalar" := by
  rw [kindOf?, Option.bind_eq_some_iff]
  simp only [ofTag?_scalar, exists_eq_right]

private theorem readNumber_eq_error {raw : String} {fault : CellFault} :
    Cell.readNumber raw = .error fault ↔ raw ≠ "" ∧ Cell.numberOf raw = .error fault := by
  rw [Cell.readNumber, ← map_eq_error (f := Cell.number)]
  by_cases empty : raw.isEmpty
  · simp [String.isEmpty_iff.mp empty]
  · have filled : raw ≠ "" := fun same => empty (String.isEmpty_iff.mpr same)
    simp [empty, filled]

/-- A row cannot take the form of its kind exactly if it is a scalar with a value that is not a
number. -/
private theorem normalizeRow_eq_error (plain : PlainRow names record row)
    (typed : names.findIdx? (· == Column.type) = some position) {failure : Failure} :
    normalizeRow (names.map Field.declared) position number row = .error failure ↔
      textIn? names record Column.type = some "scalar" ∧ ∃ raw fault,
        textIn? names record Column.value = some raw ∧ raw ≠ "" ∧ Cell.numberOf raw = .error fault ∧
        failure = .parse number Column.value raw fault := by
  rw [← kindOf?_scalar]
  by_cases scalar : kindOf? names record = some .scalar
  · rw [normalizeRow_scalar plain typed scalar, textIn?]
    cases names.findIdx? (· == Column.value) with
    | none => simp
    | some place =>
      simp only [map_eq_error, atCell_eq_error, readNumber_eq_error, Option.map_some,
        Option.some.injEq]
      constructor
      · intro given
        obtain ⟨fault, ⟨filled, failed⟩, rfl⟩ := given
        exact ⟨scalar, _, fault, rfl, filled, failed, rfl⟩
      · intro given
        obtain ⟨_, raw, fault, rfl, filled, failed, rfl⟩ := given
        exact ⟨fault, ⟨filled, failed⟩, rfl⟩
  · rw [normalizeRow_other plain typed scalar]
    simp [scalar]

end Forms

section Tables

variable {names : List String} {records : List (List String)}

private theorem modify_first_run (names : List String) :
    (match (names.map Field.declared).findIdx? fun field => field.name == Column.run with
      | none => names.map Field.declared
      | some position => (names.map Field.declared).modify position
          fun field => { field with name := Column.runID }) =
      (tableNames names).map Field.declared := by
  induction names with
  | nil => rfl
  | cons name rest ih =>
    rw [List.map_cons, List.findIdx?_cons, tableNames]
    by_cases first : name = Column.run
    · subst first; rfl
    · have other : ((Field.declared name).name == Column.run) = false := by simpa [Field.declared] using first
      rw [other, if_neg first, List.map_cons, ← ih]
      cases (rest.map Field.declared).findIdx? fun field => field.name == Column.run <;> rfl

/-- Renaming the run column concerns its name alone, as both names declare text. -/
private theorem rename_run (names : List String) (rows : List Row) :
    Table.rename ⟨names.map Field.declared, rows⟩ Column.run Column.runID =
      ⟨(tableNames names).map Field.declared, rows⟩ := by
  rw [← modify_first_run, Table.rename, Table.position?, positionIn?]
  cases (names.map Field.declared).findIdx? fun field => field.name == Column.run <;> rfl

/-- Both passes over plain rows, by the outcome of the second. -/
private theorem normalize_declared (names : List String) (rows : List Row) :
    (Table.normalize ⟨names.map Field.declared, rows⟩).result =
      match names.findIdx? (· == Column.type) with
      | none => .ok ⟨names.map Field.declared, rows⟩
      | some position =>
        (traverseFrom (normalizeRow (names.map Field.declared) position) firstExportRow rows).map
          fun rows => ⟨names.map Field.declared, rows⟩ := by
  have same := positionIn?_declared names Column.type
  cases typed : names.findIdx? (· == Column.type) with
  | none => exact normalize_untyped _ (same.trans typed)
  | some position => exact normalize_result _ (same.trans typed)

private theorem describesRow_untyped (untyped : names.findIdx? (· == Column.type) = none)
    {record : List String} {row : Row} (plain : PlainRow names record row) :
    DescribesRow names record row := by
  refine ⟨plain.width, ?_⟩
  intro column inside
  have unknown : kindOf? names record = none := by simp [kindOf?, textIn?, untyped]
  rw [cellOf, unknown, if_neg (by simp), if_neg (by simp)]
  exact plain.cells column inside

private theorem normalized_describes {position number : Nat}
    (typed : names.findIdx? (· == Column.type) = some position) {rows results : List Row}
    (plain : List.Forall₂ (PlainRow names) records rows)
    (normalized : traverseFrom (normalizeRow (names.map Field.declared) position) number rows = .ok results) :
    List.Forall₂ (DescribesRow names) records results := by
  induction plain generalizing number results with
  | nil => cases normalized; exact .nil
  | cons first rest ih =>
    obtain ⟨result, others, stepped, later, rfl⟩ := traverseFrom_cons_eq_ok.mp normalized
    exact .cons (normalizeRow_describes first typed stepped) (ih later)

private theorem record_of_row {rows : List Row} (plain : List.Forall₂ (PlainRow names) records rows)
    {index : Nat} {row : Row} (found : rows[index]? = some row) :
    ∃ record, records[index]? = some record ∧ PlainRow names record row := by
  obtain ⟨length, each⟩ := List.forall₂_iff_get.mp plain
  obtain ⟨inside, rfl⟩ := List.getElem?_eq_some_iff.mp found
  exact ⟨records[index], List.getElem?_eq_getElem (length ▸ inside), each index (length ▸ inside) inside⟩

theorem coerceRecords_width {number : Nat} {rows : List Row}
    (coerced : Export.coerceRecords (names.map Field.declared) number records = .ok rows) :
    ∀ row ∈ rows, row.length = names.length := by
  intro row member
  obtain ⟨index, found⟩ := List.getElem?_of_mem member
  obtain ⟨_, _, plain⟩ := record_of_row (coerceRecords_eq_ok.mp coerced) found
  exact plain.width

private theorem row_of_record {rows : List Row} (plain : List.Forall₂ (PlainRow names) records rows)
    {index : Nat} {record : List String} (found : records[index]? = some record) :
    ∃ row, rows[index]? = some row ∧ PlainRow names record row := by
  obtain ⟨length, each⟩ := List.forall₂_iff_get.mp plain
  obtain ⟨inside, rfl⟩ := List.getElem?_eq_some_iff.mp found
  exact ⟨rows[index], List.getElem?_eq_getElem (length ▸ inside), each index inside (length ▸ inside)⟩

private theorem normalized_succeeds {position number : Nat}
    (typed : names.findIdx? (· == Column.type) = some position) {rows : List Row}
    (plain : List.Forall₂ (PlainRow names) records rows) :
    (∃ results, traverseFrom (normalizeRow (names.map Field.declared) position) number rows = .ok results) ↔
      ScalarsAreNumbers names records := by
  rw [traverseFrom_succeeds]
  constructor
  · intro each record member scalar raw valued
    by_contra neither
    rw [not_or] at neither
    obtain ⟨fault, failed⟩ := error_of_not_ok neither.2
    obtain ⟨index, found⟩ := List.getElem?_of_mem member
    obtain ⟨row, present, plainRow⟩ := row_of_record plain found
    obtain ⟨result, normalized⟩ := each index row present
    rw [(normalizeRow_eq_error plainRow typed).mpr
      ⟨scalar, raw, fault, valued, neither.1, failed, rfl⟩] at normalized
    cases normalized
  · intro numbers index row present
    obtain ⟨record, found, plainRow⟩ := record_of_row plain present
    by_contra fails
    obtain ⟨failure, failed⟩ := error_of_not_ok fails
    obtain ⟨scalar, raw, fault, valued, filled, bad, _⟩ := (normalizeRow_eq_error plainRow typed).mp failed
    rcases numbers record (List.mem_of_getElem? found) scalar raw valued with empty | ⟨value, good⟩
    · exact filled empty
    · rw [good] at bad
      cases bad

private theorem normalized_fails {position : Nat}
    (typed : names.findIdx? (· == Column.type) = some position) {rows : List Row}
    (plain : List.Forall₂ (PlainRow names) records rows) {failure : Failure}
    (failed : traverseFrom (normalizeRow (names.map Field.declared) position) firstExportRow rows =
      .error failure) :
    ∃ row, BadScalar names records row failure ∧
      ∀ earlier < row, ∀ fault, ¬ BadScalar names records earlier fault := by
  obtain ⟨index, row, present, stepped, before⟩ := traverseFrom_eq_error.mp failed
  obtain ⟨record, found, plainRow⟩ := record_of_row plain present
  obtain ⟨scalar, raw, fault, valued, filled, bad, rfl⟩ := (normalizeRow_eq_error plainRow typed).mp stepped
  refine ⟨index, ⟨record, raw, fault, found, scalar, valued, filled, bad, ?_⟩, ?_⟩
  · rw [firstExportRow, Nat.add_comm]
  · rintro earlier smaller other ⟨otherRecord, otherRaw, otherFault, known, isScalar, has, nonempty, wrong, _⟩
    obtain ⟨otherRow, there, otherPlain⟩ := row_of_record plain known
    obtain ⟨value, went⟩ := before earlier smaller otherRow there
    rw [(normalizeRow_eq_error otherPlain typed).mpr
      ⟨isScalar, otherRaw, otherFault, has, nonempty, wrong, rfl⟩] at went
    cases went

private theorem badCell_of_step {row column : Nat} {record : List String} {field : Field}
    {failure : Failure} (found : records[row]? = some record)
    (known : (names.map Field.declared)[column]? = some field)
    (failed : cellStep (row + 2) record column field = .error failure) :
    BadCell names records row column failure := by
  rw [declared_getElem?, Option.map_eq_some_iff] at known
  obtain ⟨name, named, rfl⟩ := known
  rw [cellStep, coerceCell, atCell_eq_error] at failed
  obtain ⟨fault, bad, rfl⟩ := failed
  exact ⟨record, name, fault, found, named, bad, rfl⟩

private theorem step_of_badCell {row column : Nat} {record : List String} {failure : Failure}
    (found : records[row]? = some record) (bad : BadCell names records row column failure) :
    ∃ field, (names.map Field.declared)[column]? = some field ∧
      cellStep (row + 2) record column field = .error failure := by
  obtain ⟨other, name, fault, same, named, failed, rfl⟩ := bad
  cases found.symm.trans same
  refine ⟨.declared name, by simp [named], ?_⟩
  rw [cellStep, coerceCell, atCell_eq_error]
  exact ⟨fault, failed, rfl⟩

/-- Coercion stops at the first bad cell, row by row and from left to right. -/
private theorem coerceRecords_fails {failure : Failure}
    (failed : Export.coerceRecords (names.map Field.declared) firstExportRow records = .error failure) :
    FirstFault names records failure := by
  rw [coerceRecords_eq_traverse] at failed
  obtain ⟨row, record, found, stepped, rowsBefore⟩ := traverseFrom_eq_error.mp failed
  rw [firstExportRow, Nat.add_comm, coerceRecord_eq_traverse] at stepped
  obtain ⟨column, field, known, bad, columnsBefore⟩ := traverseFrom_eq_error.mp stepped
  rw [Nat.zero_add] at bad
  refine .cell row column (badCell_of_step found known bad) ?_ ?_
  · intro earlier smaller other fault wrong
    have ⟨otherRecord, _, _, there, _⟩ := wrong
    obtain ⟨field, present, fails⟩ := step_of_badCell there wrong
    obtain ⟨result, went⟩ := rowsBefore earlier smaller otherRecord there
    rw [firstExportRow, Nat.add_comm, coerceRecord_eq_traverse] at went
    obtain ⟨cell, _, read⟩ := (traverseFrom_eq_ok.mp went).2 other field present
    rw [Nat.zero_add, fails] at read
    cases read
  · intro earlier smaller fault wrong
    obtain ⟨field, present, fails⟩ := step_of_badCell found wrong
    obtain ⟨cell, read⟩ := columnsBefore earlier smaller field present
    rw [Nat.zero_add, fails] at read
    cases read

end Tables

section Streams

open Delimited

variable {stream : Stream} {dialect : Dialect} {names : List String} {records : List (List String)}

/-- Reading a stream that is framed without a fault: both passes, and the long name of runs. -/
theorem readStream_framed
    (framed : stream.frameWithHeader dialect = .ok (names, ⟨records, none⟩)) :
    Export.readStream stream dialect = (do
      let rows ← Export.coerceRecords (names.map Field.declared) firstExportRow records
      let table ← (Table.normalize ⟨names.map Field.declared, rows⟩).result
      return table.rename Column.run Column.runID) := by
  rw [Export.readStream, framed]
  rfl

theorem readStream_sound {table : Table} (read : Export.readStream stream dialect = .ok table) :
    ∃ names records, stream.frameWithHeader dialect = .ok (names, ⟨records, none⟩) := by
  rw [Export.readStream, bind_eq_ok] at read
  obtain ⟨⟨names, framed⟩, header, read⟩ := read
  rw [mapError_eq_ok] at header
  obtain ⟨rows, _, read⟩ := bind_eq_ok.mp read
  obtain ⟨records, _ | fault⟩ := framed
  · exact ⟨names, records, header⟩
  · cases read

theorem readStream_describes
    (framed : stream.frameWithHeader dialect = .ok (names, ⟨records, none⟩)) {table : Table}
    (read : Export.readStream stream dialect = .ok table) : Describes names records table := by
  rw [readStream_framed framed, bind_eq_ok] at read
  obtain ⟨rows, coerced, read⟩ := read
  have plain := coerceRecords_eq_ok.mp coerced
  obtain ⟨normal, normalized, renamed⟩ := bind_eq_ok.mp read
  cases pure_eq_ok.mp renamed
  rw [normalize_declared] at normalized
  cases typed : names.findIdx? (· == Column.type) with
  | none =>
    rw [typed] at normalized
    cases normalized
    rw [rename_run]
    exact ⟨rfl, plain.imp fun _ _ row => describesRow_untyped typed row⟩
  | some position =>
    rw [typed] at normalized
    obtain ⟨results, traversed, rfl⟩ := map_eq_ok.mp normalized
    rw [rename_run]
    exact ⟨rfl, normalized_describes typed plain traversed⟩

private theorem normalize_succeeds {rows : List Row}
    (plain : List.Forall₂ (PlainRow names) records rows) :
    (∃ table, (Table.normalize ⟨names.map Field.declared, rows⟩).result = .ok table) ↔
      ScalarsAreNumbers names records := by
  rw [normalize_declared]
  cases typed : names.findIdx? (· == Column.type) with
  | none =>
    refine iff_of_true ⟨_, rfl⟩ ?_
    intro record _ scalar
    simp [textIn?, typed] at scalar
  | some position =>
    simp only [map_eq_ok]
    rw [← normalized_succeeds typed plain]
    constructor
    · intro given
      obtain ⟨_, results, traversed, _⟩ := given
      exact ⟨results, traversed⟩
    · intro given
      obtain ⟨results, traversed⟩ := given
      exact ⟨_, results, traversed, rfl⟩

private theorem readStream_succeeds
    (framed : stream.frameWithHeader dialect = .ok (names, ⟨records, none⟩)) :
    (∃ table, Export.readStream stream dialect = .ok table) ↔
      Coerces names records ∧ ScalarsAreNumbers names records := by
  simp only [readStream_framed framed, bind_eq_ok, pure_eq_ok]
  constructor
  · intro given
    obtain ⟨_, rows, coerced, table, normalized, _⟩ := given
    exact ⟨coerceRecords_succeeds.mp ⟨rows, coerced⟩,
      (normalize_succeeds (coerceRecords_eq_ok.mp coerced)).mp ⟨table, normalized⟩⟩
  · intro given
    obtain ⟨coerces, numbers⟩ := given
    obtain ⟨rows, coerced⟩ := coerceRecords_succeeds.mpr coerces
    obtain ⟨table, normalized⟩ := (normalize_succeeds (coerceRecords_eq_ok.mp coerced)).mpr numbers
    exact ⟨_, rows, coerced, table, normalized, rfl⟩

private theorem readStream_fails
    (framed : stream.frameWithHeader dialect = .ok (names, ⟨records, none⟩)) {failure : Failure}
    (failed : Export.readStream stream dialect = .error failure) : FirstFault names records failure := by
  rw [readStream_framed framed, bind_eq_error] at failed
  rcases failed with failed | ⟨rows, coerced, failed⟩
  · exact coerceRecords_fails failed
  · have plain := coerceRecords_eq_ok.mp coerced
    rcases bind_eq_error.mp failed with failed | ⟨table, _, impossible⟩
    · rw [normalize_declared] at failed
      cases typed : names.findIdx? (· == Column.type) with
      | none => rw [typed] at failed; cases failed
      | some position =>
        rw [typed, map_eq_error] at failed
        obtain ⟨row, bad, before⟩ := normalized_fails typed plain failed
        exact .scalar (coerceRecords_succeeds.mp ⟨rows, coerced⟩) row bad before
    · cases impossible

/-- Reading follows the cell-by-cell description. For any names and records it goes through
exactly if every cell has a value of the type of its column and every scalar a value that is a
number; then the table is the one described, and otherwise the first fault is reported. -/
theorem readStream_cell_by_cell (stream : Stream) (dialect : Dialect) (names : List String)
    (records : List (List String))
    (framed : stream.frameWithHeader dialect = .ok (names, ⟨records, none⟩)) :
    ((∃ table, Export.readStream stream dialect = .ok table) ↔
      Coerces names records ∧ ScalarsAreNumbers names records) ∧
    (∀ table, Export.readStream stream dialect = .ok table → Describes names records table) ∧
    (∀ failure, Export.readStream stream dialect = .error failure → FirstFault names records failure) :=
  ⟨readStream_succeeds framed, fun _ => readStream_describes framed, fun _ => readStream_fails framed⟩

/-- Two columns of one name, a short record and a vector without samples. -/
theorem readStream_cell_by_cell_short_record :
    ∃ table, Export.readStream
      ⟨Text.encode "run,type,value,value,vectime\nr0,scalar,1,x\nr1,vector\n", none⟩
      { flexible := true } = .ok table ∧
    Describes ["run", "type", "value", "value", "vectime"] [["r0", "scalar", "1", "x"], ["r1", "vector"]]
      table := by
  have framed : Stream.frameWithHeader
      ⟨Text.encode "run,type,value,value,vectime\nr0,scalar,1,x\nr1,vector\n", none⟩
      { flexible := true } =
      .ok (["run", "type", "value", "value", "vectime"],
        ⟨[["r0", "scalar", "1", "x"], ["r1", "vector"]], none⟩) := by
    decide +kernel
  have described := (readStream_cell_by_cell _ _ _ _ framed).2.1
  exact ⟨_, rfl, described _ rfl⟩

end Streams

end SimResults.Proofs.ExportCells
