import SimResults.Proofs.Conversions

/-! Making a column numeric. Only the first column of the name changes; it goes through exactly if
each of its cells has a number, and then every cell holds that number. -/

namespace SimResults.Proofs.NumericColumns
open Outcomes TableColumns Conversions

/-- The number that a cell is converted to. A missing cell is converted to no number, text has to
spell one, and an array has none. -/
def floatOf? : Cell → Option Float
  | .null => some Number.notANumber
  | .integer value => some (Float.ofInt value.toInt)
  | .number value => some value
  | .text raw => if raw.isEmpty then some Number.notANumber else (Cell.numberOf raw).toOption
  | .array _ => none

/-- The cell after conversion; without a number it stays as it is. -/
def converted (cell : Cell) : Cell := (floatOf? cell).elim cell .number

def numericColumn (column : Field × List Cell) : Field × List Cell :=
  ({ column.1 with type := .number }, column.2.map converted)

def atFirst (name : String) (change : Field × List Cell → Field × List Cell) :
    List (Field × List Cell) → List (Field × List Cell)
  | [] => []
  | column :: rest =>
    if column.1.name = name then change column :: rest else column :: atFirst name change rest

private theorem atFirst_append {name : String} (change : Field × List Cell → Field × List Cell)
    {columns : List (Field × List Cell)} (present : name ∈ namesOf columns)
    (more : List (Field × List Cell)) :
    atFirst name change (columns ++ more) = atFirst name change columns ++ more := by
  induction columns with
  | nil => cases present
  | cons column columns ih =>
    rw [List.cons_append, atFirst, atFirst]
    by_cases first : column.1.name = name
    · rw [if_pos first, if_pos first, List.cons_append]
    · rw [if_neg first, if_neg first, List.cons_append, ih]
      exact (List.mem_cons.mp present).resolve_left (Ne.symm first)

private theorem atFirst_absent {name : String} (change : Field × List Cell → Field × List Cell)
    {columns : List (Field × List Cell)} (absent : name ∉ namesOf columns)
    (more : List (Field × List Cell)) :
    atFirst name change (columns ++ more) = columns ++ atFirst name change more := by
  induction columns with
  | nil => rfl
  | cons column columns ih =>
    obtain ⟨other, rest⟩ := not_or.mp (mt List.mem_cons.mpr absent)
    rw [List.cons_append, atFirst, if_neg (Ne.symm other), ih rest]
    rfl

theorem atFirst_within {columns more : List (Field × List Cell)} (within : columns <+: more)
    (name : String) (change : Field × List Cell → Field × List Cell) :
    atFirst name change columns <+: atFirst name change more := by
  obtain ⟨rest, rfl⟩ := within
  by_cases present : name ∈ namesOf columns
  · rw [atFirst_append change present]
    exact List.prefix_append _ _
  · rw [atFirst_absent change present]
    have same := atFirst_absent change present []
    rw [List.append_nil, atFirst, List.append_nil] at same
    rw [same]
    exact List.prefix_append _ _

theorem find?_atFirst {name : String} (change : Field × List Cell → Field × List Cell)
    (keeps : ∀ column, (change column).1.name = column.1.name) (columns : List (Field × List Cell)) :
    (atFirst name change columns).find? (fun column => column.1.name == name) =
      (columns.find? fun column => column.1.name == name).map change := by
  induction columns with
  | nil => rfl
  | cons column columns ih =>
    rw [atFirst, List.find?_cons]
    by_cases first : column.1.name = name
    · rw [if_pos first, List.find?_cons, keeps, first]
      simp
    · have other : (column.1.name == name) = false := by simpa using first
      rw [if_neg first, List.find?_cons, other, ih]

theorem mem_atFirst {name : String} {change : Field × List Cell → Field × List Cell}
    {columns : List (Field × List Cell)} {column : Field × List Cell}
    (member : column ∈ atFirst name change columns) :
    column ∈ columns ∨ ∃ before ∈ columns, before.1.name = name ∧ column = change before := by
  induction columns with
  | nil => cases member
  | cons first columns ih =>
    rw [atFirst] at member
    split at member
    next named =>
      rcases List.mem_cons.mp member with rfl | later
      · exact .inr ⟨first, List.mem_cons_self, named, rfl⟩
      · exact .inl (List.mem_cons_of_mem _ later)
    next =>
      rcases List.mem_cons.mp member with rfl | later
      · exact .inl List.mem_cons_self
      · rcases ih later with same | ⟨before, inside, changed⟩
        · exact .inl (List.mem_cons_of_mem _ same)
        · exact .inr ⟨before, List.mem_cons_of_mem _ inside, changed⟩

private theorem atFirst_eq_modify (name : String) (change : Field × List Cell → Field × List Cell)
    (columns : List (Field × List Cell)) :
    atFirst name change columns =
      match (namesOf columns).findIdx? (· == name) with
      | none => columns
      | some position => columns.modify position change := by
  induction columns with
  | nil => rfl
  | cons column columns ih =>
    rw [atFirst, namesOf, List.map_cons, List.findIdx?_cons]
    by_cases first : column.1.name = name
    · rw [if_pos first, first]
      simp
    · rw [if_neg first, ih]
      have other : (column.1.name == name) = false := by simpa using first
      rw [other, namesOf]
      cases (columns.map (·.1.name)).findIdx? (· == name) <;> rfl

theorem numericCell_eq_ok {number : Nat} {column : String} {cell result : Cell} :
    numericCell number column cell = .ok result ↔ (floatOf? cell).isSome ∧ result = converted cell := by
  cases cell with
  | null => simp [numericCell, floatOf?, converted, eq_comm]
  | integer value => simp [numericCell, floatOf?, converted, eq_comm]
  | number value => simp [numericCell, floatOf?, converted, eq_comm]
  | array values => simp [numericCell, floatOf?]
  | text raw =>
    rw [numericCell, atCell_eq_ok, Cell.readNumber]
    by_cases empty : raw.isEmpty
    · simp [empty, floatOf?, converted, ColumnType.missing, eq_comm]
    · rw [if_neg empty, map_eq_ok]
      cases spelled : Cell.numberOf raw <;> simp [empty, spelled, floatOf?, converted, Except.toOption, eq_comm]

section Tables

variable {table result : Table} {columns : List (Field × List Cell)} {height : Nat}

private theorem columnar_modify (shape : Columnar table columns height) (position : Nat)
    (declare : Field → Field) (change : Cell → Cell) :
    Columnar
      ⟨table.fields.modify position declare,
        table.rows.map fun row => row.set position (change (row.cell position))⟩
      (columns.modify position fun column => (declare column.1, column.2.map change)) height := by
  refine ⟨?_, ?_, by simp [shape.height]⟩
  · intro row member
    obtain ⟨whole, inside, rfl⟩ := List.mem_map.mp member
    simpa using shape.rectangular whole inside
  · apply List.ext_getElem?
    intro column
    rw [getElem?_columns, List.getElem?_modify, List.getElem?_modify, ← shape.columns, getElem?_columns]
    cases found : table.fields[column]? with
    | none => rfl
    | some field =>
      have inside : column < table.fields.length := (List.getElem?_eq_some_iff.mp found).1
      have cells : ∀ row ∈ table.rows, (Row.cell (row.set position (change (row.cell position))) column) =
          if position = column then change (row.cell column) else row.cell column := by
        intro row member
        rw [cell_set, shape.rectangular row member]
        by_cases same : position = column
        · subst same
          rw [if_pos ⟨rfl, inside⟩, if_pos rfl]
        · rw [if_neg fun both => same both.1, if_neg same]
      simp only [Table.cellsAt, List.map_map, Function.comp_def, Option.map_some]
      rw [List.map_congr_left cells]
      by_cases same : position = column
      · simp [same, Function.comp_def]
      · simp [same]

/-- The row with its cell at `position` converted. -/
def numericRow (name : String) (position number : Nat) (row : Row) : Except Failure Row :=
  (numericCell number name (row.cell position)).map (row.set position)

theorem toNumeric_located (table : Table) {name : String} {position : Nat}
    (found : table.position? name = some position) :
    table.toNumeric name =
      match convertRows (numericRow name position) firstExportRow table.rows with
      | (rows, some failure) => ⟨{ table with rows }, some failure⟩
      | (rows, none) =>
        ⟨⟨table.fields.modify position fun field => { field with type := .number }, rows⟩, none⟩ := by
  rw [Table.toNumeric, found]
  rfl

private theorem toNumeric_result (table : Table) {name : String} {position : Nat}
    (found : table.position? name = some position) :
    (table.toNumeric name).result =
      (traverseFrom (numericRow name position) firstExportRow table.rows).map fun rows =>
        ⟨table.fields.modify position fun field => { field with type := .number }, rows⟩ := by
  rw [toNumeric_located table found]
  cases traversed : traverseFrom (numericRow name position) firstExportRow table.rows with
  | ok rows =>
    rw [convertRows_of_ok traversed]
    rfl
  | error failure =>
    have failed := convertRows_of_error traversed
    rcases attempt : convertRows (numericRow name position) firstExportRow table.rows with ⟨rows, failure?⟩
    rw [attempt] at failed
    cases failed
    rfl

theorem numericRow_eq_ok (name : String) (position number : Nat) (row extended : Row) :
    numericRow name position number row = .ok extended ↔
      (floatOf? (row.cell position)).isSome ∧ extended = row.set position (converted (row.cell position)) := by
  simp only [numericRow, map_eq_ok, numericCell_eq_ok]
  constructor
  · intro given
    obtain ⟨_, ⟨spelled, rfl⟩, rfl⟩ := given
    exact ⟨spelled, rfl⟩
  · intro given
    obtain ⟨spelled, rfl⟩ := given
    exact ⟨_, ⟨spelled, rfl⟩, rfl⟩

theorem toNumeric_columns (shape : Columnar table columns height) {name : String}
    (went : (table.toNumeric name).result = .ok result) :
    Columnar result (atFirst name numericColumn columns) height := by
  rw [atFirst_eq_modify, ← shape.position?]
  cases found : table.position? name with
  | none =>
    rw [Table.toNumeric, found] at went
    cases went
    exact shape
  | some position =>
    rw [toNumeric_result table found, map_eq_ok] at went
    obtain ⟨rows, traversed, rfl⟩ := went
    obtain ⟨_, rfl⟩ := (traverseFrom_eq_map (numericRow_eq_ok name position)).mp traversed
    exact columnar_modify shape position _ converted

theorem toNumeric_succeeds {name : String} :
    (∃ result, (table.toNumeric name).result = .ok result) ↔
      ∀ cells, table.column? name = some cells → ∀ cell ∈ cells, (floatOf? cell).isSome := by
  rw [Table.column?]
  cases found : table.position? name with
  | none =>
    rw [Table.toNumeric, found]
    exact iff_of_true ⟨table, rfl⟩ (by simp)
  | some position =>
    simp only [toNumeric_result table found, map_eq_ok, traverseFrom_eq_map (numericRow_eq_ok name position)]
    constructor
    · intro given
      obtain ⟨_, _, ⟨each, _⟩, _⟩ := given
      simpa [Table.cellsAt] using each
    · intro each
      exact ⟨_, _, ⟨by simpa [Table.cellsAt] using each, rfl⟩, rfl⟩

theorem toNumeric_numbers (shape : Columnar table columns height) {name : String}
    (went : (table.toNumeric name).result = .ok result) {cells : List Cell}
    (found : result.column? name = some cells) : ∀ cell ∈ cells, ∃ value, cell = .number value := by
  have readable := toNumeric_succeeds.mp ⟨result, went⟩
  rw [shape.column? name] at readable
  rw [(toNumeric_columns shape went).column? name, find?_atFirst numericColumn fun _ => rfl] at found
  cases first : columns.find? fun column => column.1.name == name with
  | none =>
    rw [first] at found
    cases found
  | some column =>
    rw [first] at found
    cases found
    intro cell member
    obtain ⟨source, inside, rfl⟩ := List.mem_map.mp member
    have spelled := readable column.2 (by rw [first]; rfl) source inside
    obtain ⟨value, given⟩ := Option.isSome_iff_exists.mp spelled
    exact ⟨value, by rw [converted, given]; rfl⟩

end Tables

end SimResults.Proofs.NumericColumns
