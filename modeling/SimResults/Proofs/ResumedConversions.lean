import Mathlib.Data.List.Forall2
import SimResults.Proofs.ColumnNames
import SimResults.Proofs.Normalization
import SimResults.Proofs.NumericColumns

/-! Conversions that stop and are resumed. A conversion that stops has converted the rows before the one that it
reports, and what is converted is converted to itself. So once the reported row is mended, going on with the
table that was left is as good as starting anew. -/

namespace SimResults.Proofs.ResumedConversions
open Outcomes TableColumns Conversions NumericColumns Normalization

section Rows

variable {convert : Nat → Row → Except Failure Row} {number index : Nat} {rows left front done : List Row}
  {failure : Failure}

/-- Where a conversion of rows has stopped, and what it has left. -/
structure Stops (convert : Nat → Row → Except Failure Row) (number : Nat) (rows left : List Row)
    (failure : Failure) (index : Nat) : Prop where
  earlier : convertRows convert number (rows.take index) = (left.take index, none)
  refused : ∃ row, rows[index]? = some row ∧ convert (number + index) row = .error failure
  later : left.drop index = rows.drop index

/-- What is converted is converted to itself, whatever its number. -/
def Again (convert : Nat → Row → Except Failure Row) (rows : List Row) : Prop :=
  ∀ row ∈ rows, ∀ number result, convert number row = .ok result → ∀ other, convert other result = .ok result

private theorem convertRows_stops (stopped : convertRows convert number rows = (left, some failure)) :
    ∃ index, Stops convert number rows left failure index := by
  induction rows generalizing number left with
  | nil => cases stopped
  | cons row rest ih =>
    rw [convertRows] at stopped
    cases went : convert number row with
    | error found =>
      rw [went] at stopped
      cases stopped
      exact ⟨0, rfl, ⟨row, rfl, went⟩, rfl⟩
    | ok converted =>
      rcases attempt : convertRows convert (number + 1) rest with ⟨others, failure?⟩
      rw [went, attempt] at stopped
      cases stopped
      obtain ⟨index, earlier, ⟨found, present, refused⟩, later⟩ := ih attempt
      refine ⟨index + 1, ?_, ⟨found, present, ?_⟩, later⟩
      · rw [List.take_succ_cons, List.take_succ_cons, convertRows, went, earlier]
      · rwa [Nat.add_right_comm] at refused

private theorem convertRows_append (went : convertRows convert number front = (done, none)) (rest : List Row) :
    convertRows convert number (front ++ rest) =
      (done ++ (convertRows convert (number + front.length) rest).1,
        (convertRows convert (number + front.length) rest).2) := by
  induction front generalizing number done with
  | nil =>
    cases went
    rfl
  | cons row front ih =>
    obtain ⟨converted, others, stepped, traversed, rfl⟩ := traverseFrom_cons_eq_ok.mp (convertRows_eq_ok.mp went)
    rw [List.cons_append, convertRows, stepped]
    simp only [ih (convertRows_of_ok traversed), List.length_cons, List.cons_append, Nat.add_assoc, Nat.add_comm 1]

private theorem convertRows_again (again : Again convert rows)
    (went : convertRows convert number rows = (done, none)) : convertRows convert number done = (done, none) := by
  rw [convertRows_eq_ok] at went ⊢
  induction rows generalizing number done with
  | nil =>
    cases went
    rfl
  | cons row rest ih =>
    obtain ⟨converted, others, stepped, traversed, rfl⟩ := traverseFrom_cons_eq_ok.mp went
    obtain ⟨first, others⟩ := List.forall_mem_cons.mp again
    exact traverseFrom_cons_eq_ok.mpr ⟨converted, _, first number _ stepped number, ih others traversed, rfl⟩

/-- Whatever becomes of the reported row, the rows that were left are converted as all the rows would be. -/
theorem Stops.resumes (stops : Stops convert number rows left failure index) (again : Again convert rows)
    (change : Row → Row) :
    convertRows convert number (left.modify index change) = convertRows convert number (rows.modify index change) := by
  have taken : Again convert (rows.take index) := fun row member => again row (List.mem_of_mem_take member)
  have twice := convertRows_again taken stops.earlier
  have height : (left.take index).length = (rows.take index).length :=
    (traverseFrom_eq_ok.mp (convertRows_eq_ok.mp stops.earlier)).1
  rw [List.modify_eq_take_drop, List.modify_eq_take_drop, stops.later, convertRows_append twice,
    convertRows_append stops.earlier, height]

end Rows

def replaced (table : Table) (index position : Nat) (cell : Cell) : Table :=
  { table with rows := table.rows.modify index fun row => row.set position cell }

section Numbers

variable {table left result : Table} {name : String} {position index number : Nat} {row : Row} {failure : Failure}

/-- A row and the same row with the number of its cell at `position`. -/
def Numbered (position : Nat) (row result : Row) : Prop :=
  position < row.length ∧
    ∃ value, floatOf? (row.cell position) = some value ∧ result = row.set position (.number value)

structure NumbersDone (table result : Table) (position : Nat) : Prop where
  fields : result.fields = table.fields.modify position fun field => { field with type := .number }
  others : ∀ column, column ≠ position → result.cellsAt column = table.cellsAt column
  converted : List.Forall₂ (Numbered position) table.rows result.rows
  numbers : ∀ cell ∈ result.cellsAt position, ∃ value, cell = .number value

structure NumbersStop (table left : Table) (name : String) (position index : Nat) (failure : Failure) : Prop where
  located : table.position? name = some position
  refused : ∃ row, table.rows[index]? = some row ∧ floatOf? (row.cell position) = none
  reported : ∃ raw fault, failure = .parse (index + 2) name raw fault
  fields : left.fields = table.fields
  others : ∀ column, column ≠ position → left.cellsAt column = table.cellsAt column
  earlier : List.Forall₂ (Numbered position) (table.rows.take index) (left.rows.take index)
  later : left.rows.drop index = table.rows.drop index

private theorem numericCell_eq_error {cell : Cell} (refused : numericCell number name cell = .error failure) :
    floatOf? cell = none ∧ ∃ raw fault, failure = .parse number name raw fault := by
  have unread : ¬ (floatOf? cell).isSome := by
    intro spelled
    cases (numericCell_eq_ok.mpr ⟨spelled, rfl⟩).symm.trans refused
  refine ⟨by simpa using unread, ?_⟩
  cases cell with
  | text raw =>
    obtain ⟨fault, _, rfl⟩ := atCell_eq_error.mp refused
    exact ⟨raw, fault, rfl⟩
  | array values =>
    cases refused
    exact ⟨_, _, rfl⟩
  | _ => cases refused

private theorem numericRow_numbered {result : Row} (inside : position < row.length)
    (went : numericRow name position number row = .ok result) : Numbered position row result := by
  obtain ⟨spelled, rfl⟩ := (numericRow_eq_ok name position number row result).mp went
  obtain ⟨value, given⟩ := Option.isSome_iff_exists.mp spelled
  exact ⟨inside, value, given, by rw [converted, given]; rfl⟩

private theorem numericRow_again {rows : List Row} (inside : ∀ row ∈ rows, position < row.length) :
    Again (numericRow name position) rows := by
  intro row member number result went other
  obtain ⟨within, value, _, rfl⟩ := numericRow_numbered (inside row member) went
  rw [numericRow, cell_set, if_pos ⟨rfl, within⟩]
  exact congrArg Except.ok (List.set_set _)

private theorem numericRows_numbered {rows done : List Row} (inside : ∀ row ∈ rows, position < row.length)
    (went : convertRows (numericRow name position) number rows = (done, none)) :
    List.Forall₂ (Numbered position) rows done := by
  rw [convertRows_eq_ok] at went
  induction rows generalizing number done with
  | nil =>
    cases went
    exact .nil
  | cons row rest ih =>
    obtain ⟨converted, others, stepped, traversed, rfl⟩ := traverseFrom_cons_eq_ok.mp went
    obtain ⟨first, others⟩ := List.forall_mem_cons.mp inside
    exact .cons (numericRow_numbered first stepped) (ih others traversed)

private theorem numbered_others {rows done : List Row} (numbered : List.Forall₂ (Numbered position) rows done)
    {column : Nat}
    (other : column ≠ position) : done.map (Row.cell · column) = rows.map (Row.cell · column) := by
  induction numbered with
  | nil => rfl
  | cons first _ ih =>
    obtain ⟨_, value, _, rfl⟩ := first
    rw [List.map_cons, List.map_cons, ih, cell_set, if_neg fun both => other both.1.symm]

private theorem numbered_numbers {rows done : List Row} (numbered : List.Forall₂ (Numbered position) rows done) :
    ∀ cell ∈ done.map (Row.cell · position), ∃ value, cell = .number value := by
  induction numbered with
  | nil => exact fun cell member => nomatch member
  | @cons row _ _ _ first _ ih =>
    obtain ⟨inside, value, _, rfl⟩ := first
    have held : Row.cell (row.set position (.number value)) position = .number value := by
      rw [cell_set, if_pos ⟨rfl, inside⟩]
    exact List.forall_mem_cons.mpr ⟨⟨value, held⟩, ih⟩

private theorem toNumeric_stopped (stopped : table.toNumeric name = ⟨left, some failure⟩) :
    ∃ position, table.position? name = some position ∧ left.fields = table.fields ∧
      convertRows (numericRow name position) firstExportRow table.rows = (left.rows, some failure) := by
  cases located : table.position? name with
  | none =>
    rw [Table.toNumeric, located] at stopped
    cases stopped
  | some position =>
    refine ⟨position, rfl, ?_⟩
    rw [toNumeric_located table located] at stopped
    split at stopped
    next rows found attempt =>
      cases stopped
      exact ⟨rfl, attempt⟩
    next => cases stopped

private theorem toNumeric_went (located : table.position? name = some position)
    (went : table.toNumeric name = ⟨result, none⟩) :
    result.fields = table.fields.modify position (fun field => { field with type := .number }) ∧
      convertRows (numericRow name position) firstExportRow table.rows = (result.rows, none) := by
  rw [toNumeric_located table located] at went
  split at went
  next => cases went
  next rows attempt =>
    cases went
    exact ⟨rfl, attempt⟩

private theorem numeric_inside (rectangular : table.Rectangular) (located : table.position? name = some position) :
    ∀ row ∈ table.rows, position < row.length := by
  intro row member
  rw [rectangular row member]
  exact CheckedTables.position?_inside located

private theorem toNumeric_congr {other : Table} (located : table.position? name = some position)
    (fields : other.fields = table.fields)
    (same : convertRows (numericRow name position) firstExportRow other.rows =
      convertRows (numericRow name position) firstExportRow table.rows) :
    other.toNumeric name = table.toNumeric name := by
  have likewise : other.position? name = some position := by rwa [Table.position?, fields]
  rw [toNumeric_located table located, toNumeric_located other likewise, same, fields]

private theorem toNumeric_stops (rectangular : table.Rectangular)
    (stopped : table.toNumeric name = ⟨left, some failure⟩) :
    ∃ position index, NumbersStop table left name position index failure ∧
      ∀ cell, (replaced left index position cell).toNumeric name =
        (replaced table index position cell).toNumeric name := by
  obtain ⟨position, located, fields, attempt⟩ := toNumeric_stopped stopped
  obtain ⟨index, stops⟩ := convertRows_stops attempt
  obtain ⟨row, present, refused⟩ := stops.refused
  rw [numericRow, map_eq_error] at refused
  obtain ⟨unread, raw, fault, reported⟩ := numericCell_eq_error refused
  have inside := numeric_inside rectangular located
  have earlier := numericRows_numbered (fun row member => inside row (List.mem_of_mem_take member)) stops.earlier
  have others (column : Nat) (other : column ≠ position) : left.cellsAt column = table.cellsAt column := by
    rw [Table.cellsAt, Table.cellsAt, ← List.take_append_drop index left.rows,
      ← List.take_append_drop index table.rows, List.map_append, List.map_append, stops.later,
      numbered_others earlier other]
  refine ⟨position, index, ⟨located, ⟨row, present, unread⟩, ⟨raw, fault, ?_⟩, fields, others, earlier, stops.later⟩, ?_⟩
  · rwa [firstExportRow, Nat.add_comm] at reported
  · intro cell
    have resumed := stops.resumes (numericRow_again inside) (·.set position cell)
    exact toNumeric_congr located fields resumed

private theorem toNumeric_done (rectangular : table.Rectangular) (located : table.position? name = some position)
    (went : table.toNumeric name = ⟨result, none⟩) :
    NumbersDone table result position ∧ result.toNumeric name = ⟨result, none⟩ := by
  obtain ⟨fields, attempt⟩ := toNumeric_went located went
  have inside := numeric_inside rectangular located
  have numbered := numericRows_numbered inside attempt
  refine ⟨⟨fields, fun column => numbered_others numbered, numbered, numbered_numbers numbered⟩, ?_⟩
  have again := convertRows_again (numericRow_again inside) attempt
  have names := ColumnNames.toNumeric_names table name
  rw [went] at names
  have likewise : result.position? name = some position := by
    rw [position?_eq_names, names, ← position?_eq_names, located]
  have same : result.fields.modify position (fun field => { field with type := .number }) = result.fields := by
    rw [fields, List.modify_modify_eq]
    rfl
  rw [toNumeric_located result likewise, again]
  simp only [same]

end Numbers

section Forms

variable {table left : Table} {fields : List Field} {position index number : Nat} {row : Row} {failure : Failure}

/-- What is left of a table whose rows were not all brought into the form of their kind. -/
structure FormsStop (table left : Table) (position index : Nat) (failure : Failure) : Prop where
  located : table.position? Column.value = some position
  refused : ∃ row raw fault, table.rows[index]? = some row ∧ rowKind? table row = some .scalar ∧
    row.cell position = .text raw ∧ failure = .parse (index + 2) Column.value raw fault
  fields : left.fields = table.fields
  earlier : ({ table with rows := table.rows.take index } : Table).normalize =
    ⟨{ table with rows := left.rows.take index }, none⟩
  later : left.rows.drop index = table.rows.drop index

private theorem scalarCell_eq_error {cell : Cell} (refused : scalarCell number cell = .error failure) :
    ∃ raw fault, cell = .text raw ∧ failure = .parse number Column.value raw fault := by
  cases cell with
  | text raw =>
    obtain ⟨fault, _, rfl⟩ := atCell_eq_error.mp refused
    exact ⟨raw, fault, rfl, rfl⟩
  | _ => cases refused

/-- Only the value of a scalar can be refused. -/
private theorem normalizeRow_refused {typePosition : Nat}
    (refused : normalizeRow fields typePosition number row = .error failure) :
    Kind.ofCell? (row.cell typePosition) = some .scalar ∧ ∃ position raw fault,
      positionIn? fields Column.value = some position ∧ row.cell position = .text raw ∧
        failure = .parse number Column.value raw fault := by
  rw [normalizeRow] at refused
  split at refused
  next scalar =>
    refine ⟨scalar, ?_⟩
    split at refused
    next => cases refused
    next position located =>
      rw [map_eq_error] at refused
      obtain ⟨raw, fault, held, reported⟩ := scalarCell_eq_error refused
      exact ⟨position, raw, fault, located, held, reported⟩
  all_goals cases refused

private theorem normalizeRow_again {typePosition : Nat} (typed : positionIn? fields Column.type = some typePosition)
    {rows : List Row} (fits : ∀ row ∈ rows, row.length = fields.length) :
    Again (normalizeRow fields typePosition) rows := by
  intro row member number result went other
  cases known : Kind.ofCell? (row.cell typePosition) with
  | none =>
    cases (normalizeRow_unknown known).symm.trans went
    exact normalizeRow_unknown known
  | some kind =>
    have forms := (normalizeRow_eq_ok (fits row member) known).mp went
    have width : result.length = fields.length := forms.width.trans (fits row member)
    have likewise : Kind.ofCell? (result.cell typePosition) = some kind := by rw [forms.type typed, known]
    exact (normalizeRow_eq_ok width likewise).mpr (forms.again other)

private theorem normalize_congr {other : Table} {typePosition : Nat}
    (typed : table.position? Column.type = some typePosition) (fields : other.fields = table.fields)
    (same : convertRows (normalizeRow table.fields typePosition) firstExportRow other.rows =
      convertRows (normalizeRow table.fields typePosition) firstExportRow table.rows) :
    other.normalize = table.normalize := by
  have likewise : other.position? Column.type = some typePosition := by rwa [Table.position?, fields]
  rw [normalize_located table typed, normalize_located other likewise, fields, same]

private theorem normalize_stops (rectangular : table.Rectangular)
    (stopped : table.normalize = ⟨left, some failure⟩) :
    ∃ position index, FormsStop table left position index failure ∧
      ∀ cell, (replaced left index position cell).normalize = (replaced table index position cell).normalize := by
  cases typed : table.position? Column.type with
  | none =>
    rw [Table.normalize, typed] at stopped
    cases stopped
  | some typePosition =>
    rw [normalize_located table typed] at stopped
    rcases attempt : convertRows (normalizeRow table.fields typePosition) firstExportRow table.rows with ⟨rows, failed⟩
    rw [attempt] at stopped
    cases stopped
    obtain ⟨index, stops⟩ := convertRows_stops attempt
    obtain ⟨row, present, refused⟩ := stops.refused
    obtain ⟨scalar, position, raw, fault, located, held, reported⟩ := normalizeRow_refused refused
    have kind : rowKind? table row = some .scalar := (rowKind?_typed typed row).trans scalar
    rw [firstExportRow, Nat.add_comm] at reported
    refine ⟨position, index, ⟨located, ⟨row, raw, fault, present, kind, held, reported⟩, rfl, ?_, stops.later⟩, ?_⟩
    · have likewise : Table.position? { table with rows := table.rows.take index } Column.type = some typePosition :=
        typed
      rw [normalize_located _ likewise, stops.earlier]
    · intro cell
      have resumed := stops.resumes (normalizeRow_again typed rectangular) (·.set position cell)
      exact normalize_congr typed rfl resumed

end Forms

/-- Conversions that stop can be resumed, and those that go through are done. -/
theorem conversions_resume (table : Table) (rectangular : table.Rectangular) :
    (∀ name left failure, table.toNumeric name = ⟨left, some failure⟩ →
      ∃ position index, NumbersStop table left name position index failure ∧
        ∀ cell, (replaced left index position cell).toNumeric name =
          (replaced table index position cell).toNumeric name) ∧
    (∀ left failure, table.normalize = ⟨left, some failure⟩ →
      ∃ position index, FormsStop table left position index failure ∧
        ∀ cell, (replaced left index position cell).normalize = (replaced table index position cell).normalize) ∧
    (∀ name position result, table.position? name = some position → table.toNumeric name = ⟨result, none⟩ →
      NumbersDone table result position ∧ result.toNumeric name = ⟨result, none⟩) :=
  ⟨fun _ _ _ => toNumeric_stops rectangular, fun _ _ => normalize_stops rectangular,
    fun _ _ _ => toNumeric_done rectangular⟩

def loads : Table where
  fields := [⟨"type", .text⟩, ⟨"value", .text⟩, ⟨"vecvalue", .array⟩]
  rows := [[.text "scalar", .text "3", .null], [.text "vector", .null, .null],
    [.text "scalar", .text "high", .null], [.text "scalar", .text "5", .null]]

theorem conversions_resume_loads :
    let refused := Failure.parse 4 "value" "high" (.number .invalidLiteral)
    let numeric (last : List Row) : Table :=
      { loads with
        rows := [[.text "scalar", .number 3, .null], [.text "vector", .number Number.notANumber, .null]] ++ last }
    let formed : Table :=
      { loads with
        rows := [[.text "scalar", .number 3, .null], [.text "vector", .null, .array []]] ++ loads.rows.drop 2 }
    let mended := replaced loads 2 1 (.text "4")
    let done : Table :=
      { numeric [[.text "scalar", .number 4, .null], [.text "scalar", .number 5, .null]] with
        fields := [⟨"type", .text⟩, ⟨"value", .number⟩, ⟨"vecvalue", .array⟩] }
    loads.Rectangular ∧ mended.Rectangular ∧
    loads.toNumeric "value" = ⟨numeric (loads.rows.drop 2), some refused⟩ ∧
    (replaced (numeric (loads.rows.drop 2)) 2 1 (.text "4")).toNumeric "value" = ⟨done, none⟩ ∧
    loads.normalize = ⟨formed, some refused⟩ ∧
    (∀ cell, (replaced formed 2 1 cell).normalize = (replaced loads 2 1 cell).normalize) ∧
    mended.position? "value" = some 1 ∧ mended.toNumeric "value" = ⟨done, none⟩ ∧
    done.toNumeric "value" = ⟨done, none⟩ := by
  intro refused numeric formed mended done
  have whole : loads.Rectangular := by decide
  have likewise : mended.Rectangular := by decide
  have stopped : loads.toNumeric "value" = ⟨numeric (loads.rows.drop 2), some refused⟩ := by decide +kernel
  have halted : loads.normalize = ⟨formed, some refused⟩ := by decide +kernel
  have located : mended.position? "value" = some 1 := by decide
  have went : mended.toNumeric "value" = ⟨done, none⟩ := by decide +kernel
  obtain ⟨numbers, forms, -⟩ := conversions_resume loads whole
  obtain ⟨-, -, finished⟩ := conversions_resume mended likewise
  refine ⟨whole, likewise, stopped, ?_, halted, ?_, located, went, (finished _ _ _ located went).2⟩
  · obtain ⟨position, index, stop, resumed⟩ := numbers _ _ _ stopped
    obtain ⟨_, _, reported⟩ := stop.reported
    obtain ⟨same, -⟩ := Failure.parse.inj reported
    obtain rfl : index = 2 := by omega
    cases stop.located
    rw [resumed, went]
  · obtain ⟨position, index, stop, resumed⟩ := forms _ _ halted
    obtain ⟨_, _, _, _, _, _, reported⟩ := stop.refused
    obtain ⟨same, -⟩ := Failure.parse.inj reported
    obtain rfl : index = 2 := by omega
    cases stop.located
    exact resumed

end SimResults.Proofs.ResumedConversions
