import SimResults.Proofs.Outcomes
import SimResults.Proofs.TableColumns
import SimResults.Table.Normalized

/-! Conversions of tables as traversals of their rows: the outcome of a conversion is the table of
the converted rows, or the failure of the first row that cannot be converted. -/

namespace SimResults.Proofs.Conversions
open Outcomes TableColumns

variable {convert : Nat → Row → Except Failure Row} {number : Nat}

theorem convertRows_of_ok {rows converted : List Row}
    (traversed : traverseFrom convert number rows = .ok converted) :
    convertRows convert number rows = (converted, none) := by
  induction rows generalizing number converted with
  | nil => cases traversed; rfl
  | cons row rest ih =>
    obtain ⟨first, others, stepped, later, rfl⟩ := traverseFrom_cons_eq_ok.mp traversed
    rw [convertRows, stepped]
    simp only [ih later]

theorem convertRows_of_error {rows : List Row} {failure : Failure}
    (traversed : traverseFrom convert number rows = .error failure) :
    (convertRows convert number rows).2 = some failure := by
  induction rows generalizing number with
  | nil => cases traversed
  | cons row rest ih =>
    rw [convertRows]
    rcases traverseFrom_cons_eq_error.mp traversed with failed | ⟨first, stepped, failed⟩
    · rw [failed]
    · rw [stepped]
      exact ih failed

theorem convertRows_eq_ok {rows done : List Row} :
    convertRows convert number rows = (done, none) ↔ traverseFrom convert number rows = .ok done := by
  constructor
  · intro went
    cases traversed : traverseFrom convert number rows with
    | ok converted =>
      cases (convertRows_of_ok traversed).symm.trans went
      rfl
    | error failure =>
      have failed := convertRows_of_error traversed
      rw [went] at failed
      cases failed
  · exact convertRows_of_ok

section Arrays

variable (fields : List Field)

theorem filledArray_idem (cell : Cell) : filledArray (filledArray cell) = filledArray cell := by
  cases cell <;> rfl

theorem fillArray_length (row : Row) (name : String) : (fillArray fields row name).length = row.length := by
  rw [fillArray]
  split
  · rfl
  · exact List.length_set

private theorem cell_fillArray (row : Row) (name : String) {column : Nat} (inside : column < row.length) :
    (fillArray fields row name).cell column =
      if positionIn? fields name == some column then filledArray (row.cell column) else row.cell column := by
  rw [fillArray]
  cases positionIn? fields name with
  | none => simp
  | some position =>
    simp only [cell_set]
    by_cases same : position = column
    · subst same; simp [inside]
    · simp [same]

theorem foldl_fillArray_length (arrays : List String) (row : Row) :
    (arrays.foldl (fillArray fields) row).length = row.length := by
  induction arrays generalizing row with
  | nil => rfl
  | cons name arrays ih => rw [List.foldl_cons, ih, fillArray_length]

theorem cell_fillArrays (arrays : List String) (row : Row) {column : Nat} (inside : column < row.length) :
    (arrays.foldl (fillArray fields) row).cell column =
      if arrays.any (fun name => positionIn? fields name == some column) then filledArray (row.cell column)
      else row.cell column := by
  induction arrays generalizing row with
  | nil => simp
  | cons name arrays ih =>
    rw [List.foldl_cons, ih _ (by rwa [fillArray_length]), cell_fillArray fields row name inside, List.any_cons]
    generalize (positionIn? fields name == some column) = here
    generalize arrays.any (fun name => positionIn? fields name == some column) = later
    cases here <;> cases later <;> simp [filledArray_idem]

end Arrays

theorem result_eq_ok {conversion : Conversion} {table : Table} :
    conversion.result = .ok table ↔ conversion = ⟨table, none⟩ := by
  obtain ⟨converted, _ | failure⟩ := conversion
  · simp [Conversion.result]
  · simp [Conversion.result]

theorem normalize_located (table : Table) {position : Nat} (typed : table.position? Column.type = some position) :
    table.normalize =
      ⟨{ table with rows := (convertRows (normalizeRow table.fields position) firstExportRow table.rows).1 },
        (convertRows (normalizeRow table.fields position) firstExportRow table.rows).2⟩ := by
  rw [Table.normalize, typed]

/-- Normalizing is a traversal of the rows, which leaves the fields alone. -/
theorem normalize_result (table : Table) {position : Nat}
    (typed : table.position? Column.type = some position) :
    table.normalize.result =
      (traverseFrom (normalizeRow table.fields position) firstExportRow table.rows).map
        fun rows => { table with rows } := by
  rw [normalize_located table typed]
  cases traversed : traverseFrom (normalizeRow table.fields position) firstExportRow table.rows with
  | ok rows => simp only [convertRows_of_ok traversed]; rfl
  | error failure =>
    have failed := convertRows_of_error traversed
    simp only [Conversion.result, failed]
    rfl

theorem normalize_untyped (table : Table) (untyped : table.position? Column.type = none) :
    table.normalize.result = .ok table := by
  rw [Table.normalize, untyped]
  rfl

end SimResults.Proofs.Conversions
