import SimResults.Column

/-! Kinds of rows and the columns that matter to them. -/

namespace SimResults

/-- What a row of a result export describes. -/
inductive Kind
  | scalar
  | vector
  | statistic
  | histogram
  | parameter
  /-- An attribute of one result item. -/
  | attribute
  | runAttribute
  | iterationVariable
  | configEntry
deriving DecidableEq, Repr, Inhabited

namespace Kind

def ofTag? : String → Option Kind
  | "scalar" => some .scalar
  | "vector" => some .vector
  | "statistic" => some .statistic
  | "histogram" => some .histogram
  | "param" | "parameter" => some .parameter
  | "attr" => some .attribute
  | "runattr" => some .runAttribute
  | "itervar" => some .iterationVariable
  | "config" => some .configEntry
  | _ => none

def tag : Kind → String
  | .scalar => "scalar"
  | .vector => "vector"
  | .statistic => "statistic"
  | .histogram => "histogram"
  | .parameter => "param"
  | .attribute => "attr"
  | .runAttribute => "runattr"
  | .iterationVariable => "itervar"
  | .configEntry => "config"

/-- The letter that restricts an export to this kind; only results have one. -/
def exportLetter? : Kind → Option String
  | .scalar => some "s"
  | .vector => some "v"
  | .statistic => some "t"
  | .histogram => some "h"
  | .parameter => some "p"
  | _ => none

def summaryColumns : List String :=
  [Column.count, Column.sumweights, Column.mean, Column.stddev, Column.min, Column.max]

/-- Columns that every table of this kind must have. -/
def mandatoryColumns : Kind → List String
  | .scalar | .parameter => [Column.value]
  | .vector => [Column.vectime, Column.vecvalue]
  | .statistic => summaryColumns
  | .histogram =>
    summaryColumns ++ [Column.underflows, Column.overflows, Column.binedges, Column.binvalues]
  | _ => []

/-- The kind that a row's type cell names. -/
def ofCell? : Cell → Option Kind
  | .text tag => ofTag? tag
  | _ => none

end Kind

/-- The kinds that carry a result, as opposed to metadata. -/
inductive ResultKind
  | scalar
  | vector
  | statistic
  | histogram
  | parameter
deriving DecidableEq, Repr

namespace ResultKind

def kind : ResultKind → Kind
  | .scalar => .scalar
  | .vector => .vector
  | .statistic => .statistic
  | .histogram => .histogram
  | .parameter => .parameter

def all : List ResultKind := [.scalar, .vector, .statistic, .histogram, .parameter]

/-- The query for results of this kind. -/
def queryName : ResultKind → String
  | .scalar => "scalars"
  | .vector => "vectors"
  | .statistic => "statistics"
  | .histogram => "histograms"
  | .parameter => "parameters"

end ResultKind

def Kind.isResult (kind : Kind) : Bool := (ResultKind.all.map (·.kind)).contains kind

end SimResults
