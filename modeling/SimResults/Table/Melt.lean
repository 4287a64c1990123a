import SimResults.Table.Basic

/-! From wide to long: every cell outside the identifying columns becomes a row of its own, next
to the name of its column. -/

namespace SimResults

/-- The type that all columns have, if there is one. -/
def sharedType : List ColumnType → ColumnType
  | [] => .generic
  | first :: rest => if rest.all (· == first) then first else .generic

/-- The rows that one wide row turns into. -/
def meltRow (ids : List Nat) (values : List (Field × Nat)) (row : Row) : List Row :=
  values.map fun (field, position) => row.cells ids ++ [.text field.name, row.cell position]

def Table.melt (table : Table) (ids : List String) (nameColumn valueColumn : String) :
    Except Failure Table := do
  let positions ← table.requireAll ids
  let values := table.fields.zipIdx.filter fun (_, position) => !positions.contains position
  let valueType := sharedType (values.map (·.1.type))
  let longFields := [⟨nameColumn, .text⟩, ⟨valueColumn, valueType⟩]
  return ⟨table.fieldsAt positions ++ longFields, table.rows.flatMap (meltRow positions values)⟩

end SimResults
