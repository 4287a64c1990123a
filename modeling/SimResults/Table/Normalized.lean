import SimResults.Kind
import SimResults.Table.Conversion

/-! Cells whose meaning depends on the kind of their row. The value of a scalar is a number, and
the arrays of vectors and histograms are there even when they are empty. -/

namespace SimResults

/-- The value of a scalar: text must spell a number, and what is no text is one already or stays
as it is. -/
def scalarCell (number : Nat) : Cell → Except Failure Cell
  | .null => .ok (.number Number.notANumber)
  | .text raw => atCell number Column.value raw (Cell.readNumber raw)
  | .integer value => .ok (.number (Float.ofInt value.toInt))
  | other => .ok other

def filledArray : Cell → Cell
  | .null => .array []
  | other => other

/-- Fills the cell of a named column with an empty array if it is absent. -/
def fillArray (fields : List Field) (row : Row) (name : String) : Row :=
  match positionIn? fields name with
  | none => row
  | some position => row.set position (filledArray (row.cell position))

def normalizeRow (fields : List Field) (typePosition : Nat) (number : Nat) (row : Row) :
    Except Failure Row :=
  match Kind.ofCell? (row.cell typePosition) with
  | some .scalar =>
    match positionIn? fields Column.value with
    | none => .ok row
    | some position => (scalarCell number (row.cell position)).map (row.set position)
  | some .vector => .ok ([Column.vectime, Column.vecvalue].foldl (fillArray fields) row)
  | some .histogram => .ok ([Column.binedges, Column.binvalues].foldl (fillArray fields) row)
  | _ => .ok row

/-- Brings every row into the form of its kind; rows without a kind have no form. -/
def Table.normalize (table : Table) : Conversion :=
  match table.position? Column.type with
  | none => ⟨table, none⟩
  | some position =>
    let (rows, failure?) := convertRows (normalizeRow table.fields position) firstExportRow table.rows
    ⟨{ table with rows }, failure?⟩

end SimResults
