import SimResults.Coercion
import SimResults.Table.Basic

/-! One row of a table seen by column names. -/

namespace SimResults

structure RowView where
  fields : List Field
  row : Row
  /-- How messages count this row. -/
  number : Nat

namespace RowView

/-- The cell in the first column of a name, if there is such a column. -/
def cell? (view : RowView) (name : String) : Option Cell :=
  (positionIn? view.fields name).map view.row.cell

/-- A missing cell has no text, and neither has an absent column. -/
def text? (view : RowView) (name : String) : Option String := (view.cell? name).bind Cell.key?

def requireText (view : RowView) (name : String) : Except Failure String :=
  match view.text? name with
  | some text => .ok text
  | none => .error (.schemaMismatch (.missingCell view.number name))

/-- A column that is absent has no number; text has to spell one. -/
def number? (view : RowView) (name : String) : Except Failure Float :=
  match view.cell? name with
  | none => .ok Number.notANumber
  | some (.text raw) => atCell view.number name raw (Cell.numberOf raw)
  | some cell =>
    match cell.number? with
    | some value => .ok value
    | none => .error (.schemaMismatch (.notNumeric view.number name))

def integer? (view : RowView) (name : String) : Option Int64 := (view.cell? name).bind Cell.integer?

/-- What is no array counts as an empty one. -/
def array (view : RowView) (name : String) : List Float :=
  ((view.cell? name).bind Cell.array?).getD []

end RowView

end SimResults
