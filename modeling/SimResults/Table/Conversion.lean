import SimResults.Coercion
import SimResults.Table.Basic

/-! Conversions that change a table row by row. A conversion that fails leaves a table behind:
the rows before the failing one are converted, that row and those after it are as before. -/

namespace SimResults

structure Conversion where
  table : Table
  failure? : Option Failure := none
deriving DecidableEq

/-- The table of a conversion that went through. -/
def Conversion.result (conversion : Conversion) : Except Failure Table :=
  match conversion.failure? with
  | none => .ok conversion.table
  | some failure => .error failure

/-- Converts rows in order, the first of which has the given number. -/
def convertRows (convert : Nat → Row → Except Failure Row) (number : Nat) :
    List Row → List Row × Option Failure
  | [] => ([], none)
  | row :: rest =>
    match convert number row with
    | .error failure => (row :: rest, some failure)
    | .ok converted =>
      let (rows, failure?) := convertRows convert (number + 1) rest
      (converted :: rows, failure?)

/-- The number of the first row of an export; its header is row 1. -/
def firstExportRow : Nat := 2

/-- The cell as a number cell, if it spells a number or is missing. -/
def numericCell (number : Nat) (column : String) : Cell → Except Failure Cell
  | .null => .ok (.number Number.notANumber)
  | .integer value => .ok (.number (Float.ofInt value.toInt))
  | .number value => .ok (.number value)
  | .text raw => atCell number column raw (Cell.readNumber raw)
  | .array _ => .error (.parse number column "<array>" .arrayAsNumber)

/-- Makes a column numeric. An absent column needs no conversion. -/
def Table.toNumeric (table : Table) (name : String) : Conversion :=
  match table.position? name with
  | none => ⟨table, none⟩
  | some position =>
    let convert (number : Nat) (row : Row) : Except Failure Row :=
      (numericCell number name (row.cell position)).map (row.set position)
    match convertRows convert firstExportRow table.rows with
    | (rows, some failure) => ⟨{ table with rows }, some failure⟩
    | (rows, none) =>
      let fields := table.fields.modify position fun field => { field with type := .number }
      ⟨⟨fields, rows⟩, none⟩

end SimResults
