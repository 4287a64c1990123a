import SimResults.Column
import SimResults.Failure

/-! Tables: named and typed columns, and rows of cells in the order of the columns. Names may
repeat, and a lookup by name finds the first column of that name. -/

namespace SimResults

structure Field where
  name : String
  type : ColumnType
deriving DecidableEq, Repr, Inhabited

/-- A column with the type that its name declares. -/
def Field.declared (name : String) : Field := ⟨name, .ofName name⟩

abbrev Row := List Cell

/-- The cell at a position, absent beyond the end of the row. -/
def Row.cell (row : Row) (position : Nat) : Cell := row.getD position .null

/-- The cells at several positions, in their order. -/
def Row.cells (row : Row) (positions : List Nat) : List Cell := positions.map row.cell

/-- The texts by which a row is grouped and joined, unless one of its key cells is missing. -/
def Row.key? (row : Row) (positions : List Nat) : Option (List String) :=
  positions.mapM fun position => (row.cell position).key?

structure Table where
  fields : List Field := []
  rows : List Row := []
deriving DecidableEq, Inhabited

/-- A column given more or fewer cells than the table has rows. -/
structure LengthFault where
  column : String
  cells : Nat
  rows : Nat
deriving DecidableEq, Repr

def LengthFault.message (fault : LengthFault) : String :=
  s!"column '{fault.column}' has {fault.cells} values but table has {fault.rows} rows"

def positionIn? (fields : List Field) (name : String) : Option Nat :=
  fields.findIdx? fun field => field.name == name

namespace Table

/-- Every row has one cell per column. -/
def Rectangular (table : Table) : Prop := ∀ row ∈ table.rows, row.length = table.fields.length

instance (table : Table) : Decidable table.Rectangular :=
  inferInstanceAs (Decidable (∀ row ∈ table.rows, row.length = table.fields.length))

def names (table : Table) : List String := table.fields.map (·.name)

def position? (table : Table) (name : String) : Option Nat := positionIn? table.fields name

def contains (table : Table) (name : String) : Bool := (table.position? name).isSome

def isEmpty (table : Table) : Bool := table.rows.isEmpty

/-- The position of a column that must be there. -/
def require (table : Table) (name : String) : Except Failure Nat :=
  match table.position? name with
  | some position => .ok position
  | none => .error (.schemaMismatch (.missingColumn name table.names))

/-- The positions of several columns; the first that is absent is reported. -/
def requireAll (table : Table) (names : List String) : Except Failure (List Nat) :=
  names.mapM table.require

def field (table : Table) (position : Nat) : Field := table.fields.getD position default

def fieldsAt (table : Table) (positions : List Nat) : List Field := positions.map table.field

/-- The cells at one position, from top to bottom. -/
def cellsAt (table : Table) (position : Nat) : List Cell := table.rows.map (·.cell position)

def column? (table : Table) (name : String) : Option (List Cell) :=
  (table.position? name).map table.cellsAt

def cell? (table : Table) (row : Nat) (name : String) : Option Cell := do
  let position ← table.position? name
  return (← table.rows[row]?).cell position

def keepRows (table : Table) (keep : Row → Bool) : Table :=
  { table with rows := table.rows.filter keep }

/-- The same columns without rows. -/
def cleared (table : Table) : Table := { table with rows := [] }

/-- Gives the first column of one name another name. -/
def rename (table : Table) (before after : String) : Table :=
  match table.position? before with
  | none => table
  | some position =>
    { table with fields := table.fields.modify position fun field => { field with name := after } }

/-- Appends a column, cell by cell. -/
def append (table : Table) (field : Field) (cells : List Cell) : Table :=
  { fields := table.fields ++ [field]
    rows := table.rows.zipWith (fun row cell => row ++ [cell]) cells }

def addColumn (table : Table) (field : Field) (cells : List Cell) : Except LengthFault Table :=
  if cells.length == table.rows.length then .ok (table.append field cells)
  else .error ⟨field.name, cells.length, table.rows.length⟩

/-- Appends a column of missing cells unless there is a column of that name. -/
def ensureColumn (table : Table) (name : String) (type : ColumnType) : Table :=
  if table.contains name then table
  else table.append ⟨name, type⟩ (List.replicate table.rows.length type.missing)

/-- The named columns in the given order; unknown names are skipped. -/
def select (table : Table) (names : List String) : Table :=
  let positions := names.filterMap table.position?
  { fields := table.fieldsAt positions, rows := table.rows.map (·.cells positions) }

end Table

end SimResults
