import SimResults.Kind
import SimResults.Table.Basic

/-! Rows by kind. The kind of a row is what its type cell names. -/

namespace SimResults.Table

/-- The rows whose cell at `position` names one of `kinds`. -/
def keepKinds (table : Table) (position : Nat) (kinds : List Kind) : Table :=
  table.keepRows fun row => ((Kind.ofCell? (row.cell position)).map kinds.contains).getD false

/-- Restricts a table to rows of some kinds. Without rows there is nothing to restrict, so no
type column is needed. -/
def filterByKinds (table : Table) (kinds : List Kind) : Except Failure Table :=
  match table.position? Column.type with
  | some position => .ok (table.keepKinds position kinds)
  | none => if table.isEmpty then .ok table else .error (.schemaMismatch .noTypesToFilter)

end SimResults.Table
