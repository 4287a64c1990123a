import SimResults.Number.Decimal
import SimResults.Number.Layout
import SimResults.Text.Quoted

/-! Cells and their types. A cell that has nothing to hold carries the missing marker of its
column's type; an empty array is a value. -/

namespace SimResults

inductive ColumnType
  | integer
  | number
  | text
  | array
  /-- The meaning of a cell depends on the kind of its row. -/
  | generic
deriving DecidableEq, Repr, Inhabited

inductive Cell
  | null
  | integer (value : Int64)
  | number (value : Float)
  | text (value : String)
  | array (values : List Float)
deriving DecidableEq, Inhabited

/-- What a cell holds when no source row filled it. -/
def ColumnType.missing : ColumnType → Cell
  | .integer | .number => .number Number.notANumber
  | .array => .array []
  | .text | .generic => .null

namespace Cell

def isMissing : Cell → Bool
  | .null => true
  | .number value => value.isNaN
  | _ => false

def text? : Cell → Option String
  | .text value => some value
  | _ => none

/-- Whole numbers widen to the nearest float, and an absent cell is no number. -/
def number? : Cell → Option Float
  | .integer value => some (Float.ofInt value.toInt)
  | .number value => some value
  | .null => some Number.notANumber
  | _ => none

def integer? : Cell → Option Int64
  | .integer value => some value
  | _ => none

def array? : Cell → Option (List Float)
  | .array values => some values
  | _ => none

/-- The text by which rows are grouped and joined. Missing cells have none, so that they never
match each other. -/
def key? : Cell → Option String
  | .null => none
  | .text value => some value
  | .integer value => some (toString value.toInt)
  | .number value => if value.isNaN then none else some (Number.Layout.plain.write value)
  | .array values => some (Text.bracketed (values.map Number.Layout.member.write))

/-- Equality as numbers compare: the two zeros are equal, and no number equals nothing. -/
def equals : Cell → Cell → Bool
  | .null, .null => true
  | .integer left, .integer right => left == right
  | .number left, .number right => left == right
  | .text left, .text right => left == right
  | .array left, .array right => left == right
  | _, _ => false

end Cell

end SimResults
