import SimResults.Table.Normalized

/-! Reading an export in the format CSV-R: a header and one record per row, with the columns of
all kinds side by side and empty cells where a column does not apply. -/

namespace SimResults.Export

open Delimited

/-- The cells of one record. What the record lacks is read as empty, and what exceeds the columns
is left out. -/
def coerceRecord (number : Nat) : List Field → List String → Except Failure Row
  | [], _ => .ok []
  | field :: fields, record => do
    let cell ← coerceCell number field.name field.type (record.headD "")
    let row ← coerceRecord number fields record.tail
    return cell :: row

/-- The rows of records, the first of which has the given number. -/
def coerceRecords (fields : List Field) (number : Nat) : List (List String) → Except Failure (List Row)
  | [] => .ok []
  | record :: rest => do
    let row ← coerceRecord number fields record
    let rows ← coerceRecords fields (number + 1) rest
    return row :: rows

/-- Records are read one by one, so a bad cell is found before a fault of a later record. -/
def readStream (stream : Stream) (dialect : Dialect := {}) : Except Failure Table := do
  let (names, framed) ← (stream.frameWithHeader dialect).mapError .framing
  let fields := names.map Field.declared
  let rows ← coerceRecords fields firstExportRow framed.records
  if let some fault := framed.fault? then throw (.framing fault)
  let table ← (Table.normalize ⟨fields, rows⟩).result
  return table.rename Column.run Column.runID

def read (bytes : Text.Bytes) : Except Failure Table := readStream ⟨bytes, none⟩

/-- Reads the export in a file. A file that cannot be opened or read breaks the stream at once. -/
def readAt (files : FileTree) (path : String) : Except Failure Table :=
  match files.read path with
  | .ok bytes => read bytes
  | .error fault => readStream ⟨[], some fault⟩

end SimResults.Export
