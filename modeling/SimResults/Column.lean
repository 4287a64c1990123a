import SimResults.Cell

/-! The columns with a fixed meaning, by name, and the declared types of columns. -/

namespace SimResults

namespace Column

def run := "run"
def runID := "runID"
def type := "type"
def module := "module"
def name := "name"
def value := "value"
def attrname := "attrname"
def attrvalue := "attrvalue"
def count := "count"
def sumweights := "sumweights"
def mean := "mean"
def stddev := "stddev"
def min := "min"
def max := "max"
def underflows := "underflows"
def overflows := "overflows"
def binedges := "binedges"
def binvalues := "binvalues"
def vectime := "vectime"
def vecvalue := "vecvalue"

end Column

/-- The declared type of a known column; any other column is generic. -/
def ColumnType.ofName (name : String) : ColumnType :=
  match name with
  | "count" => .integer
  | "sumweights" | "mean" | "stddev" | "min" | "max" | "underflows" | "overflows" => .number
  | "binedges" | "binvalues" | "vectime" | "vecvalue" => .array
  | "run" | "runID" | "type" | "module" | "name" | "attrname" | "attrvalue" => .text
  | _ => .generic

end SimResults
