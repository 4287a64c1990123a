import SimResults.Table.Basic

/-! Dropping columns, and the guarantee that a table has the columns its readers expect. -/

namespace SimResults

/-- The items whose flag is set and those without a flag, in order. -/
def flagged {α : Type} : List Bool → List α → List α
  | flag :: flags, item :: items => if flag then item :: flagged flags items else flagged flags items
  | _, items => items

namespace Table

/-- The columns of a table: each field with its cells from top to bottom. -/
def columns (table : Table) : List (Field × List Cell) :=
  table.fields.zipIdx.map fun (field, position) => (field, table.cellsAt position)

/-- Removes every column that `drop` accepts. Cells behind the last column, which a rectangular table does
not have, belong to no column and stay. -/
def dropColumns (table : Table) (drop : Field → List Cell → Bool) : Table :=
  let kept := table.columns.map fun (field, cells) => !drop field cells
  { fields := flagged kept table.fields, rows := table.rows.map (flagged kept) }

/-- Columns that are absent are appended with their declared type. -/
def ensureColumns (table : Table) (names : List String) : Table :=
  names.foldl (fun table name => table.ensureColumn name (.ofName name)) table

/-- Removes the columns without any value; a table without rows has no value at all. -/
def prune (table : Table) : Table :=
  table.dropColumns fun _ cells => cells.all (·.isMissing)

/-- Pruning comes last, so it also removes an expected column that nothing fills. -/
def finalize (table : Table) (mandatory : List String) (prunes : Bool) : Table :=
  let complete := table.ensureColumns mandatory
  if prunes then complete.prune else complete

end Table

end SimResults
