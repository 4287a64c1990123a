import SimResults.Coercion
import SimResults.Delimited.Framing
import SimResults.Table.View

/-! Metadata: records without a header, one per line and with tabs between the cells. All cells
are text. -/

namespace SimResults.Metadata

open Delimited

/-- The columns of a metadata stream. -/
inductive Layout
  | runs
  | nameValue
deriving DecidableEq, Repr

def Layout.columns : Layout → List String
  | .runs => [Column.runID]
  | .nameValue => [Column.runID, Column.name, Column.value]

def Layout.fields (layout : Layout) : List Field := layout.columns.map fun name => ⟨name, .text⟩

/-- Tabs delimit the cells, and a record may be short. -/
def dialect : Dialect := { delimiter := 0x9, hasHeader := false, flexible := true }

/-- One cell per column; cells at the end may be left out, but there is no room for more. -/
def readRecord (columns : List String) (number : Nat) (record : List String) : Except Failure Row :=
  let width := columns.length
  if width < record.length then
    .error (.parse number (columns.getLastD "") ("\t".intercalate record)
      (.surplusCells width record.length))
  else .ok ((List.range width).map fun index => Cell.ofText (record.getD index ""))

def readRecords (columns : List String) (number : Nat) : List (List String) → Except Failure (List Row)
  | [] => .ok []
  | record :: rest => do
    let row ← readRecord columns number record
    let rows ← readRecords columns (number + 1) rest
    return row :: rows

/-- Blanks around the whole stream do not count. -/
def read (layout : Layout) (bytes : Text.Bytes) : Except Failure Table := do
  let framed := Stream.frame ⟨Text.trimmedBytes bytes, none⟩ dialect
  let rows ← readRecords layout.columns 1 framed.records
  if let some fault := framed.fault? then throw (.framing fault)
  return ⟨layout.fields, rows⟩

/-- A row of metadata; a list of runs has neither names nor values. -/
structure Entry where
  run : String
  name : Option String
  value : Option String
deriving DecidableEq, Repr

def entriesFrom (fields : List Field) (number : Nat) : List Row → Except Failure (List Entry)
  | [] => .ok []
  | row :: rest => do
    let view : RowView := ⟨fields, row, number⟩
    let run ← view.requireText Column.runID
    let entries ← entriesFrom fields (number + 1) rest
    return ⟨run, view.text? Column.name, view.text? Column.value⟩ :: entries

/-- The entries of a metadata table. -/
def entries (table : Table) : Except Failure (List Entry) :=
  if table.contains Column.runID then entriesFrom table.fields 1 table.rows
  else .error (.schemaMismatch .noRunsForMetadata)

end SimResults.Metadata
