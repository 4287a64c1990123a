import SimResults.FirstSeen
import SimResults.Table.Basic

/-! From long to wide: rows that name a column and give its value become one row per group, with
one column per name. One pass over the rows collects groups and names as they are first seen. -/

namespace SimResults

/-- A row of the wide table while it fills up. -/
structure Group where
  /-- The texts of the index cells, which tell groups apart. -/
  key : List String
  /-- The index cells of the first row of the group. -/
  index : List Cell
  /-- Values by column name. -/
  cells : List (String × Cell)

/-- The first value given for a name stays. -/
def Group.fill (group : Group) (name : String) (cell : Cell) : Group :=
  if (group.cells.lookup name).isSome then group
  else { group with cells := group.cells ++ [(name, cell)] }

/-- Groups and column names in the order in which they were first seen. -/
structure Pivot where
  names : List String := []
  groups : List Group := []

namespace Pivot

/-- The part of a long row that pivoting looks at; a row whose index or name is missing has none. -/
structure Entry where
  key : List String
  index : List Cell
  name : String
  value : Cell

/-- Where the index, the names and the values of a long table stand. -/
structure Positions where
  index : List Nat
  name : Nat
  value : Nat

def Positions.entry? (positions : Positions) (row : Row) : Option Entry := do
  let key ← row.key? positions.index
  let name ← (row.cell positions.name).key?
  return { key, index := row.cells positions.index, name, value := row.cell positions.value }

def fillGroups (entry : Entry) : List Group → List Group
  | [] => [⟨entry.key, entry.index, [(entry.name, entry.value)]⟩]
  | group :: rest =>
    if group.key == entry.key then group.fill entry.name entry.value :: rest
    else group :: fillGroups entry rest

def add (pivot : Pivot) (entry : Entry) : Pivot :=
  { names := appendNew pivot.names entry.name
    groups := fillGroups entry pivot.groups }

def ofRows (positions : Positions) (rows : List Row) : Pivot :=
  (rows.filterMap positions.entry?).foldl add {}

/-- The wide rows; what no long row filled is `missing`. -/
def rows (pivot : Pivot) (missing : Cell) : List Row :=
  pivot.groups.map fun group =>
    group.index ++ pivot.names.map fun name => (group.cells.lookup name).getD missing

end Pivot

/-- The name of a wide column; one that is taken by the index is told apart by the name of the
column that the values come from. -/
def wideName (index : List String) (values name : String) : String :=
  if index.contains name then s!"{name}_{values}" else name

namespace Table

/-- Makes each distinct text of the column `names` a column with cells from the column `values`,
and one row of each group of rows that agree in the columns `index`. -/
def pivot (table : Table) (index : List String) (names values : String) : Except Failure Table := do
  let indexPositions ← table.requireAll index
  let namePosition ← table.require names
  let valuePosition ← table.require values
  let valueType := (table.field valuePosition).type
  let pivot := Pivot.ofRows ⟨indexPositions, namePosition, valuePosition⟩ table.rows
  let wideFields := pivot.names.map fun name => ⟨wideName index values name, valueType⟩
  return ⟨table.fieldsAt indexPositions ++ wideFields, pivot.rows valueType.missing⟩

/-- One row per module of a run, one column per scalar. -/
def pivotScalars (table : Table) : Except Failure Table :=
  table.pivot [Column.runID, Column.module] Column.name Column.value

end Table

end SimResults
