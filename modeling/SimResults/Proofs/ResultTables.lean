import SimResults.Proofs.MetadataMerging
import SimResults.Proofs.NumericColumns
import SimResults.Proofs.ParsedExports

/-! How the table of a query for results is made. The columns that the export provides stand in
front and keep their cells. Whatever a later step needs behind them is there, under its own name. -/

namespace SimResults.Proofs.ResultTables
open Outcomes TableColumns Joining NumericColumns ParsedExports SessionRuns MetadataMerging

section Steps

/-- The rows of one kind in an export; all rows if it does not tell kinds apart. -/
def resultRows (raw : Table) (kind : Kind) : Table := (raw.splitAttributes kind).1

/-- The attributes in an export that are to be attached, unless there are none. -/
def attributeRows? (raw : Table) (inclusion : Inclusion) : Option Table :=
  ((raw.position? Column.type).map fun position => raw.keepKinds position [.attribute]).filter
    fun attributes => inclusion.attributes && !attributes.isEmpty

def withAttributes (raw : Table) (kind : Kind) (inclusion : Inclusion) : Except Failure Table :=
  match attributeRows? raw inclusion with
  | some attributes => (resultRows raw kind).identified.appendAttributes attributes
  | none => .ok (resultRows raw kind).identified

/-- The last steps, which no longer depend on the tool. -/
def finished (kind : ResultKind) (prunes : Bool) (table : Table) : Except Failure Table :=
  match kind with
  | .scalar => ((table.finalize kind.kind.mandatoryColumns prunes).toNumeric Column.value).result
  | _ => .ok (table.finalize kind.kind.mandatoryColumns prunes)

variable {σ ρ : Type} {session : Session σ ρ} {before after : Journal σ ρ} {raw table : Table}

theorem attach_steps (session : Session σ ρ) (raw : Table) (kind : Kind) (inclusion : Inclusion) :
    session.attach raw kind inclusion = (do
      let extended ← (liftM (withAttributes raw kind inclusion) : Work σ ρ Table)
      session.mergeMetadata inclusion.queries extended) := by
  rw [Session.attach, withAttributes, attributeRows?, resultRows, Table.splitAttributes]
  cases raw.position? Column.type with
  | none => rfl
  | some position =>
    simp only [Option.map_some, Option.filter_some]
    split
    · rfl
    · rfl

private theorem gives_attach {kind : Kind} {inclusion : Inclusion} :
    Gives (session.attach raw kind inclusion) before table after ↔
      ∃ extended, withAttributes raw kind inclusion = .ok extended ∧
        Gives (session.mergeMetadata inclusion.queries extended) before table after := by
  rw [attach_steps, gives_bind]
  simp only [gives_lift]
  constructor
  · intro given
    obtain ⟨extended, _, ⟨attached, rfl⟩, rest⟩ := given
    exact ⟨extended, attached, rest⟩
  · intro ⟨extended, attached, rest⟩
    exact ⟨extended, before, ⟨attached, rfl⟩, rest⟩

def exported (session : Session σ ρ) (kind : Kind) (filter : Option String) (extras : ExportExtras)
    (next : σ) (before : Journal σ ρ) : Journal σ ρ :=
  { before with
    tool := next, runs := before.runs ++ [exportArguments session (some kind) filter extras] }

theorem resultsOfKind_steps (session : Session σ ρ) (kind : ResultKind) (filter : Option String)
    (options : QueryOptions) :
    session.resultsOfKind kind filter options = session.observe ⟨kind.queryName, filter⟩ (do
      let raw ← session.exportTable kind.kind filter (options.extras.restricted kind)
      let merged ← session.attach raw kind.kind options.inclusion
      liftM (finished kind options.omitUnused merged)) := by
  cases kind <;> rfl

theorem gives_resultsOfKind {kind : ResultKind} {filter : Option String} {options : QueryOptions} :
    (∃ after, Gives (session.resultsOfKind kind filter options) before table after) ↔
      Accepts session filter ∧ ∃ raw next,
        Exports session kind.kind filter (options.extras.restricted kind) before.tool raw next ∧
        ∃ extended, withAttributes raw kind.kind options.inclusion = .ok extended ∧
        ∃ merged middle, Gives (session.mergeMetadata options.inclusion.queries extended)
          (exported session kind.kind filter (options.extras.restricted kind) next before) merged middle ∧
        finished kind options.omitUnused merged = .ok table := by
  rw [resultsOfKind_steps]
  simp only [gives_observe, gives_bind, gives_exportTable, gives_attach, gives_lift]
  constructor
  · intro given
    obtain ⟨_, _, ⟨raw, _, ⟨accepted, next, exports, rfl⟩, merged, middle,
      ⟨extended, attached, merging⟩, finishes, _⟩, _⟩ := given
    exact ⟨accepted, raw, next, exports, extended, attached, merged, middle, merging, finishes⟩
  · intro ⟨accepted, raw, next, exports, extended, attached, merged, middle, merging, finishes⟩
    exact ⟨_, middle, ⟨raw, _, ⟨accepted, next, exports, rfl⟩, merged, middle,
      ⟨extended, attached, merging⟩, finishes, rfl⟩, rfl⟩

/-- The rows of the kinds that were named, or all of them. -/
def rowsOfKinds (raw : Table) : Option (List Kind) → Except Failure Table
  | some kinds => raw.filterByKinds kinds
  | none => .ok raw

theorem results_steps (session : Session σ ρ) (filter : Option String) (options : ResultsOptions) :
    session.results filter options = session.observe ⟨"results", filter⟩ (do
      let raw ← session.exportTable none filter options.extras
      let rows ← (liftM (rowsOfKinds raw options.rowKinds) : Work σ ρ Table)
      return if options.omitUnused then rows.prune else rows) := by
  rw [Session.results]
  cases options.rowKinds <;> rfl

theorem gives_results {filter : Option String} {options : ResultsOptions} :
    (∃ after, Gives (session.results filter options) before table after) ↔
      Accepts session filter ∧ ∃ raw next,
        Exports session none filter options.extras before.tool raw next ∧
        ∃ rows, rowsOfKinds raw options.rowKinds = .ok rows ∧
          table = if options.omitUnused then rows.prune else rows := by
  rw [results_steps]
  simp only [gives_observe, gives_bind, gives_exportTable, gives_lift, gives_pure]
  constructor
  · intro given
    obtain ⟨_, _, ⟨raw, _, ⟨accepted, next, exports, rfl⟩, rows, _, ⟨kept, rfl⟩, rfl, rfl⟩, _⟩ := given
    exact ⟨accepted, raw, next, exports, rows, kept, rfl⟩
  · intro ⟨accepted, raw, next, exports, rows, kept, result⟩
    exact ⟨_, _, ⟨raw, _, ⟨accepted, next, exports, rfl⟩, rows, _, ⟨kept, rfl⟩, result.symm, rfl⟩, rfl⟩

end Steps

section Columns

def droppedColumns : List String := [Column.type, Column.attrname, Column.attrvalue]

/-- The columns of results that are more than that. -/
def leading (results : Table) : List (Field × List Cell) :=
  results.columns.filter fun column => !droppedColumns.contains column.1.name

def kept (prunes : Bool) (columns : List (Field × List Cell)) : List (Field × List Cell) :=
  if prunes then columns.filter fun column => !column.2.all (·.isMissing) else columns

/-- What a query puts behind the columns of the export. -/
def Added (raw : Table) (kind : Kind) (inclusion : Inclusion) (column : Field × List Cell) : Prop :=
  Vacant (resultRows raw kind).rows.length (resultKeys ++ kind.mandatoryColumns) column ∨
    Marked column.1.name ∨
    ∃ attributes, attributeRows? raw inclusion = some attributes ∧
      column.1.name ∈ textsOf attributes Column.attrname

variable {raw table : Table} {kind : Kind} {inclusion : Inclusion}

theorem resultRows_fields (raw : Table) (kind : Kind) : (resultRows raw kind).fields = raw.fields := by
  rw [resultRows, Table.splitAttributes]
  split <;> rfl

theorem resultRows_subset (raw : Table) (kind : Kind) :
    ∀ row ∈ (resultRows raw kind).rows, row ∈ raw.rows := by
  rw [resultRows, Table.splitAttributes]
  split
  · exact fun row member => (List.mem_filter.mp member).1
  · exact fun row member => member

theorem resultRows_rectangular (rectangular : raw.Rectangular) (kind : Kind) :
    (resultRows raw kind).Rectangular := by
  intro row member
  rw [resultRows_fields]
  exact rectangular row (resultRows_subset raw kind row member)

private theorem vacant_mono {height : Nat} {names more : List String} (within : ∀ name ∈ names, name ∈ more)
    {column : Field × List Cell} (vacant : Vacant height names column) : Vacant height more column := by
  obtain ⟨name, member, same⟩ := vacant
  exact ⟨name, within name member, same⟩

section Finding

variable {columns : List (Field × List Cell)} {column : Field × List Cell} {name : String} {prunes : Bool}

/-- The first column of a name is in front if the export has that name at all. -/
theorem find?_leading (results : Table) (stays : name ∉ droppedColumns) :
    ((leading results).find? fun column => column.1.name == name) =
      results.columns.find? fun column => column.1.name == name := by
  rw [leading, List.find?_filter]
  congr 1
  funext column
  by_cases named : column.1.name = name
  · simpa [named] using stays
  · simp [named]

theorem mem_kept (member : column ∈ kept prunes columns) : column ∈ columns := by
  rw [kept] at member
  split at member
  · exact (List.mem_filter.mp member).1
  · exact member

theorem find?_kept (first : (columns.find? fun column => column.1.name == name) = some column)
    (used : ¬ column.2.all (·.isMissing)) :
    ((kept prunes columns).find? fun column => column.1.name == name) = some column := by
  rw [kept]
  split
  · obtain ⟨named, before, later, rfl, others⟩ := List.find?_eq_some_iff_append.mp first
    rw [List.find?_filter, List.find?_eq_some_iff_append]
    refine ⟨by simpa [named] using used, before, later, rfl, ?_⟩
    intro other member
    have differs : (other.1.name == name) = false := by simpa using others other member
    simp [differs]
  · exact first

end Finding

private theorem identified_extends (rectangular : raw.Rectangular) (kind : Kind) (inclusion : Inclusion) :
    ∃ more, Columnar (resultRows raw kind).identified more (resultRows raw kind).rows.length ∧
      Extends (Added raw kind inclusion) (leading (resultRows raw kind)) more ∧
      ∀ key ∈ resultKeys, key ∈ namesOf more := by
  have shape := Columnar.of_rectangular (resultRows_rectangular rectangular kind)
  refine ⟨_, (shape.dropColumns _).ensureColumns resultKeys, ?_, ?_⟩
  · apply (foldl_ensured_extends _ resultKeys _).mono
    intro column vacant
    exact .inl (vacant_mono (fun _ => List.mem_append_left _) vacant)
  · intro key member
    exact mem_namesOf_foldl_ensured _ member _

theorem withAttributes_extends (rectangular : raw.Rectangular) {extended : Table}
    (went : withAttributes raw kind inclusion = .ok extended) :
    ∃ more, Columnar extended more (resultRows raw kind).rows.length ∧
      Extends (Added raw kind inclusion) (leading (resultRows raw kind)) more ∧
      ∀ key ∈ resultKeys, key ∈ namesOf more := by
  obtain ⟨more, shape, first, keyed⟩ := identified_extends rectangular kind inclusion
  rw [withAttributes] at went
  split at went
  next attributes found =>
    have complete := (appendAttributes_succeeds shape keyed).mp ⟨extended, went⟩
    obtain ⟨joined, wider, joins, result, later⟩ := appendAttributes_extends shape keyed complete
    cases joins.symm.trans went
    refine ⟨wider, result, first.trans (later.mono ?_), fun key member => later.mem_names (keyed key member)⟩
    intro column origin
    exact .inr (origin.symm.imp_right fun named => ⟨attributes, found, named⟩)
  next =>
    cases went
    exact ⟨more, shape, first, keyed⟩

/-- Attributes can be attached exactly if their rows have the columns that say what they belong to. -/
theorem withAttributes_succeeds (rectangular : raw.Rectangular) :
    (∃ extended, withAttributes raw kind inclusion = .ok extended) ↔
      ∀ attributes, attributeRows? raw inclusion = some attributes →
        ∀ name ∈ attributeColumns, raw.contains name := by
  obtain ⟨more, shape, _, keyed⟩ := identified_extends rectangular kind inclusion
  rw [withAttributes]
  split
  next attributes found =>
    rw [appendAttributes_succeeds shape keyed, found]
    have same : ∀ name, attributes.contains name = raw.contains name := by
      intro name
      obtain ⟨given, _⟩ := Option.filter_eq_some_iff.mp found
      obtain ⟨position, _, rfl⟩ := Option.map_eq_some_iff.mp given
      rfl
    simp [same]
  next absent => simp [absent]

end Columns

section Queries

variable {σ ρ : Type} {session : Session σ ρ} {before after : Journal σ ρ} {raw table : Table}
  {kind : ResultKind} {options : QueryOptions}

def numericIf : ResultKind → List (Field × List Cell) → List (Field × List Cell)
  | .scalar, columns => atFirst Column.value numericColumn columns
  | _, columns => columns

theorem merged_extends (rectangular : raw.Rectangular) {kind : Kind} {inclusion : Inclusion}
    {extended merged : Table} (attached : withAttributes raw kind inclusion = .ok extended)
    (merging : Gives (session.mergeMetadata inclusion.queries extended) before merged after) :
    ∃ more, Columnar merged more (resultRows raw kind).rows.length ∧
      Extends (Added raw kind inclusion) (leading (resultRows raw kind)) more := by
  obtain ⟨more, shape, first, keyed⟩ := withAttributes_extends rectangular attached
  obtain ⟨whole, result, later⟩ :=
    merge_extends shape (keyed Column.runID (by decide)) (fun _ => queries_layout) merging
  exact ⟨whole, result, first.trans (later.mono fun _ marked => .inr (.inl marked))⟩

theorem finalize_extends {kind : Kind} {inclusion : Inclusion} {more : List (Field × List Cell)}
    (shape : Columnar table more (resultRows raw kind).rows.length)
    (extended : Extends (Added raw kind inclusion) (leading (resultRows raw kind)) more) (prunes : Bool) :
    ∃ whole, Columnar (table.finalize kind.mandatoryColumns prunes) (kept prunes whole)
        (resultRows raw kind).rows.length ∧
      Extends (Added raw kind inclusion) (leading (resultRows raw kind)) whole := by
  have complete := shape.ensureColumns kind.mandatoryColumns
  have behind := foldl_ensured_extends (resultRows raw kind).rows.length kind.mandatoryColumns more
  refine ⟨_, ?_, extended.trans (behind.mono ?_)⟩
  · rw [Table.finalize, kept]
    split
    · exact complete.prune
    · exact complete
  · intro column vacant
    exact .inl (vacant_mono (fun _ => List.mem_append_right _) vacant)

private theorem finished_columns {prunes : Bool} {merged : Table} {whole : List (Field × List Cell)} {height : Nat}
    (shape : Columnar (merged.finalize kind.kind.mandatoryColumns prunes) whole height)
    (finishes : finished kind prunes merged = .ok table) : Columnar table (numericIf kind whole) height := by
  cases kind with
  | scalar => exact toNumeric_columns shape finishes
  | _ =>
    cases finishes
    exact shape

private theorem finished_numbers {prunes : Bool} {merged : Table} {whole : List (Field × List Cell)} {height : Nat}
    (shape : Columnar (merged.finalize Kind.scalar.mandatoryColumns prunes) whole height)
    (finishes : finished .scalar prunes merged = .ok table) {cells : List Cell}
    (found : table.column? Column.value = some cells) : ∀ cell ∈ cells, ∃ value, cell = .number value :=
  toNumeric_numbers shape finishes found

/-- How the table of a query comes from an export: `whole` are its columns before pruning. -/
structure MadeFrom (kind : ResultKind) (options : QueryOptions) (raw table : Table)
    (whole : List (Field × List Cell)) : Prop where
  parsed : Parsed raw
  behind : Extends (Added raw kind.kind options.inclusion) (leading (resultRows raw kind.kind)) whole
  shape : Columnar table (numericIf kind (kept options.omitUnused whole))
    (resultRows raw kind.kind).rows.length
  values : kind = .scalar → ∀ cells, table.column? Column.value = some cells →
    ∀ cell ∈ cells, ∃ value, cell = .number value

theorem resultsOfKind_made {filter : Option String}
    (given : Gives (session.resultsOfKind kind filter options) before table after) :
    ∃ raw next whole,
      Exports session kind.kind filter (options.extras.restricted kind) before.tool raw next ∧
      MadeFrom kind options raw table whole := by
  obtain ⟨_, raw, next, exports, extended, attached, merged, _, merging, finishes⟩ :=
    gives_resultsOfKind.mp ⟨after, given⟩
  have ⟨_, _, read⟩ := exports
  have parsed := read_parsed read
  obtain ⟨more, shape, first⟩ := merged_extends parsed.rectangular attached merging
  obtain ⟨whole, complete, behind⟩ := finalize_extends shape first options.omitUnused
  refine ⟨raw, next, whole, exports, parsed, behind, finished_columns complete finishes, ?_⟩
  intro scalar cells found
  subst scalar
  exact finished_numbers complete finishes found

end Queries

end SimResults.Proofs.ResultTables
