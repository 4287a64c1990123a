import SimResults.Kind
import SimResults.Table.Conversion
import SimResults.Table.View

/-! Rows of an export as typed items. -/

namespace SimResults

structure Statistics where
  count : Option Int64
  sumweights : Float
  mean : Float
  stddev : Float
  min : Float
  max : Float
deriving DecidableEq

structure Attribute where
  name : Option String
  value : Option String
deriving DecidableEq, Repr

/-- What an item holds, by its kind. -/
inductive Payload
  | scalar (value : Float)
  | vector (times values : List Float)
  | statistic (statistics : Statistics)
  | histogram (statistics : Statistics) (underflows overflows : Float) (edges values : List Float)
  | parameter (value : Option String)
  | attribute (content : Attribute)
  | runAttribute (content : Attribute)
  | iterationVariable (content : Attribute)
  | configEntry (content : Attribute)
deriving DecidableEq

def Payload.kind : Payload → Kind
  | .scalar _ => .scalar
  | .vector _ _ => .vector
  | .statistic _ => .statistic
  | .histogram _ _ _ _ _ => .histogram
  | .parameter _ => .parameter
  | .attribute _ => .attribute
  | .runAttribute _ => .runAttribute
  | .iterationVariable _ => .iterationVariable
  | .configEntry _ => .configEntry

structure Item where
  run : String
  module : Option String
  name : Option String
  payload : Payload
deriving DecidableEq

namespace RowView

def statistics (view : RowView) : Except Failure Statistics := do
  return {
    count := view.integer? Column.count
    sumweights := ← view.number? Column.sumweights
    mean := ← view.number? Column.mean
    stddev := ← view.number? Column.stddev
    min := ← view.number? Column.min
    max := ← view.number? Column.max }

def attributeContent (view : RowView) : Attribute :=
  ⟨view.text? Column.attrname, view.text? Column.attrvalue⟩

def payload (view : RowView) : Kind → Except Failure Payload
  | .scalar => return .scalar (← view.number? Column.value)
  | .vector => return .vector (view.array Column.vectime) (view.array Column.vecvalue)
  | .statistic => return .statistic (← view.statistics)
  | .histogram => do
    let statistics ← view.statistics
    let underflows ← view.number? Column.underflows
    let overflows ← view.number? Column.overflows
    return .histogram statistics underflows overflows
      (view.array Column.binedges) (view.array Column.binvalues)
  | .parameter => return .parameter (view.text? Column.value)
  | .attribute => return .attribute view.attributeContent
  | .runAttribute => return .runAttribute view.attributeContent
  | .iterationVariable => return .iterationVariable view.attributeContent
  | .configEntry => return .configEntry view.attributeContent

/-- The run column keeps its short name where nothing renamed it. -/
def runColumn (view : RowView) : String :=
  if (positionIn? view.fields Column.runID).isSome then Column.runID else Column.run

/-- The payload is read before the run. -/
def item (view : RowView) (kind : Kind) : Except Failure Item := do
  let payload ← view.payload kind
  let run ← view.requireText view.runColumn
  return { run, module := view.text? Column.module, name := view.text? Column.name, payload }

/-- The kind that the type cell names. Where there is no type column, every row is of the kind
that the caller expects. -/
def kind (view : RowView) (expected : Option Kind) : Except Failure Kind :=
  match view.cell? Column.type, expected with
  | some (.text tag), _ =>
    match Kind.ofTag? tag with
    | some kind => .ok kind
    | none => .error (.schemaMismatch (.unknownType view.number tag))
  | some _, _ => .error (.schemaMismatch (.noType view.number))
  | none, some kind => .ok kind
  | none, none => .error (.schemaMismatch .noTypesForItems)

/-- Rows of another kind than the expected one give no item. -/
def item? (view : RowView) (expected : Option Kind) : Except Failure (Option Item) := do
  let kind ← view.kind expected
  if expected.all (· == kind) then return some (← view.item kind) else return none

end RowView

/-- The items of rows, the first of which has the given number. -/
def itemsFrom (fields : List Field) (expected : Option Kind) (number : Nat) :
    List Row → Except Failure (List Item)
  | [] => .ok []
  | row :: rest => do
    let item? ← RowView.item? ⟨fields, row, number⟩ expected
    let items ← itemsFrom fields expected (number + 1) rest
    return item?.toList ++ items

namespace Table

/-- Every row as an item. -/
def items (table : Table) : Except Failure (List Item) :=
  if table.contains Column.type then itemsFrom table.fields none firstExportRow table.rows
  else .error (.schemaMismatch .noTypesForItems)

/-- The rows of one kind as items. -/
def itemsOfKind (table : Table) (kind : Kind) : Except Failure (List Item) :=
  itemsFrom table.fields (some kind) firstExportRow table.rows

end Table

end SimResults
