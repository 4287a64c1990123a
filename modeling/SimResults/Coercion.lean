import SimResults.Failure
import SimResults.Column

/-! Cells from raw text. Only the empty text is missing; any other text, white space included,
gives a value of the column's type or a fault. -/

namespace SimResults

open Text Number

namespace Cell

def readInteger (raw : String) : Except CellFault Cell :=
  if raw.isEmpty then .ok ColumnType.integer.missing
  else
    match Number.readInteger (trimmed raw.toList) with
    | .ok value => .ok (.integer value)
    | .error fault => .error (.integer fault)

/-- The number that a text spells, white space around it aside. -/
def numberOf (raw : String) : Except CellFault Float :=
  match readFloat (trimmed raw.toList) with
  | .ok value => .ok value
  | .error fault => .error (.number fault)

def readNumber (raw : String) : Except CellFault Cell :=
  if raw.isEmpty then .ok ColumnType.number.missing else (numberOf raw).map .number

/-- The numbers that words spell, up to the first word that spells none. -/
def readElements : List (List Char) → Except CellFault (List Float)
  | [] => .ok []
  | word :: rest =>
    match readFloat word with
    | .error fault => .error (.element (String.ofList word) fault)
    | .ok value => (readElements rest).map (value :: ·)

/-- An empty array cell is absent, not an array without elements; what the absence means
depends on the kind of the row. -/
def readArray (raw : String) : Except CellFault Cell :=
  if raw.isEmpty then .ok .null else (readElements (words raw.toList)).map .array

def ofText (raw : String) : Cell := if raw.isEmpty then .null else .text raw

/-- The cell of a column of a given type. -/
def read (type : ColumnType) (raw : String) : Except CellFault Cell :=
  match type with
  | .integer => readInteger raw
  | .number => readNumber raw
  | .array => readArray raw
  | .text | .generic => .ok (ofText raw)

end Cell

/-- Says where a cell fault occurred. -/
def atCell {α : Type} (row : Nat) (column raw : String) : Except CellFault α → Except Failure α
  | .ok value => .ok value
  | .error fault => .error (.parse row column raw fault)

/-- Reads a raw cell; a failure names its row and column. -/
def coerceCell (row : Nat) (column : String) (type : ColumnType) (raw : String) : Except Failure Cell :=
  atCell row column raw (Cell.read type raw)

end SimResults
