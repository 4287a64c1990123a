import SimResults.Table.Pivot

/-! Joining columns of one table to the rows of another, and what is joined to results: metadata
of their run and attributes of their own. -/

namespace SimResults

/-- Appends `_y` to a name that is taken, `fuel` times at most. -/
def freshFrom (taken : List String) (name : String) : (fuel : Nat) → String
  | 0 => name
  | fuel + 1 => if taken.contains name then freshFrom taken (name ++ "_y") fuel else name

/-- A name that is not taken. Longer and longer names cannot all be taken, so as many steps as
there are names suffice. -/
def freshName (taken : List String) (name : String) : String := freshFrom taken name taken.length

namespace Table

/-- The rows that have a key, by their key. -/
def keyed (table : Table) (positions : List Nat) : List (List String × Row) :=
  table.rows.filterMap fun row => (row.key? positions).map fun key => (key, row)

/-- Extends every row by the columns of the first row of `other` with the same key. Rows without
a key or without such a row get missing cells. -/
def leftJoin (table other : Table) (keys : List String) : Except Failure Table := do
  let keyPositions ← table.requireAll keys
  let otherPositions ← other.requireAll keys
  let lookup := other.keyed otherPositions
  let matching := table.rows.map fun row =>
    (row.key? keyPositions).bind fun key => lookup.lookup key
  let added := other.fields.zipIdx.filter fun (_, position) => !otherPositions.contains position
  return added.foldl (fun joined (field, position) =>
    joined.append ⟨freshName joined.names field.name, field.type⟩ <|
      matching.map fun row? => row?.elim field.type.missing (·.cell position)) table

/-- Appends a suffix to every name but the first. -/
def suffixed (table : Table) (suffix : String) : Table :=
  let suffix (field : Field) : Field := { field with name := field.name ++ suffix }
  { table with fields := table.fields.take 1 ++ (table.fields.drop 1).map suffix }

/-- Adds a column for every name in a table of runs, names and values. -/
def appendMetadata (table metadata : Table) (suffix : String) : Except Failure Table := do
  if !table.contains Column.runID then throw (.schemaMismatch (.noRunsToExtend suffix))
  let long := (metadata.rename Column.name Column.attrname).rename Column.value Column.attrvalue
  let wide ← long.pivot [Column.runID] Column.attrname Column.attrvalue
  table.leftJoin (wide.suffixed suffix) [Column.runID]

/-- Adds a column for every attribute of the results in a table. -/
def appendAttributes (table attributes : Table) : Except Failure Table := do
  let keys := [Column.runID, Column.module, Column.name]
  let wide ← attributes.pivot keys Column.attrname Column.attrvalue
  table.leftJoin wide keys

end Table

end SimResults
