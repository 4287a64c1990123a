import SimResults.Proofs.ResultTables
import SimResults.Table.Melt

/-! Every table has one cell per column in each of its rows. The readers fill whole rows, and every
operation that adds, drops or changes cells does the same to the columns. -/

namespace SimResults.Proofs.Rectangularity
open Outcomes TableColumns Pivoting Joining SessionRuns MetadataMerging ResultTables

section Operations

variable {table result : Table}

theorem pivot_rectangular {index : List String} {names values : String}
    (pivoted : table.pivot index names values = .ok result) : result.Rectangular := by
  obtain ⟨positions, _, rfl⟩ := pivot_eq_ok.mp pivoted
  exact wideTable_rectangular table index values positions

private theorem melt_rectangular {ids : List String} {nameColumn valueColumn : String}
    (melted : table.melt ids nameColumn valueColumn = .ok result) : result.Rectangular := by
  obtain ⟨positions, _, made⟩ := bind_eq_ok.mp melted
  cases pure_eq_ok.mp made
  intro row member
  obtain ⟨wide, _, turned⟩ := List.mem_flatMap.mp member
  obtain ⟨column, _, rfl⟩ := List.mem_map.mp turned
  simp [Row.cells, Table.fieldsAt]

private theorem select_rectangular (table : Table) (names : List String) : (table.select names).Rectangular := by
  intro row member
  obtain ⟨whole, _, rfl⟩ := List.mem_map.mp member
  simp [Table.select, Row.cells, Table.fieldsAt]

variable (rectangular : table.Rectangular)
include rectangular

private theorem keepRows_rectangular (keep : Row → Bool) : (table.keepRows keep).Rectangular :=
  fun row member => rectangular row (List.mem_filter.mp member).1

theorem filterByKinds_rectangular {kinds : List Kind} (filtered : table.filterByKinds kinds = .ok result) :
    result.Rectangular := by
  rw [Table.filterByKinds] at filtered
  split at filtered
  · cases filtered
    exact keepRows_rectangular rectangular _
  · split at filtered
    · cases filtered
      exact rectangular
    · cases filtered

theorem rename_rectangular (before after : String) : (table.rename before after).Rectangular := by
  rw [Table.rename]
  split
  · exact rectangular
  · intro row member
    rw [rectangular row member, List.length_modify]

theorem suffixed_rectangular (suffix : String) :
    (table.suffixed suffix).Rectangular := by
  intro row member
  rw [rectangular row member, Table.suffixed, List.length_append, List.length_map,
    ← List.length_append, List.take_append_drop]

private theorem append_rectangular (field : Field) {cells : List Cell} (fits : cells.length = table.rows.length) :
    (table.append field cells).Rectangular :=
  ((Columnar.of_rectangular rectangular).append field fits).rectangular

private theorem addColumn_rectangular {field : Field} {cells : List Cell}
    (added : table.addColumn field cells = .ok result) : result.Rectangular := by
  rw [Table.addColumn] at added
  split at added
  next fits =>
    cases added
    exact append_rectangular rectangular field (by simpa using fits)
  next => cases added

private theorem ensureColumn_rectangular (name : String) (type : ColumnType) :
    (table.ensureColumn name type).Rectangular := by
  rw [Table.ensureColumn]
  split
  · exact rectangular
  · exact append_rectangular rectangular _ List.length_replicate

private theorem ensureColumns_rectangular (names : List String) : (table.ensureColumns names).Rectangular :=
  ((Columnar.of_rectangular rectangular).ensureColumns names).rectangular

private theorem dropColumns_rectangular (drop : Field → List Cell → Bool) : (table.dropColumns drop).Rectangular :=
  ((Columnar.of_rectangular rectangular).dropColumns drop).rectangular

private theorem finalize_rectangular (mandatory : List String) (prunes : Bool) :
    (table.finalize mandatory prunes).Rectangular := by
  rw [Table.finalize]
  split
  · exact dropColumns_rectangular (ensureColumns_rectangular rectangular mandatory) _
  · exact ensureColumns_rectangular rectangular mandatory

private theorem leftJoin_rectangular {other : Table} {keys : List String}
    (joined : table.leftJoin other keys = .ok result) : result.Rectangular := by
  have ⟨positions, here, rest⟩ := bind_eq_ok.mp joined
  have ⟨others, there, _⟩ := bind_eq_ok.mp rest
  obtain ⟨found, went, shape⟩ := leftJoin_columnar (Columnar.of_rectangular rectangular) here there
  cases went.symm.trans joined
  exact shape.rectangular

private theorem appendMetadata_rectangular {metadata : Table} {suffix : String}
    (appended : table.appendMetadata metadata suffix = .ok result) : result.Rectangular := by
  rw [Table.appendMetadata] at appended
  split at appended
  · cases appended
  · obtain ⟨wide, _, joined⟩ := bind_eq_ok.mp appended
    exact leftJoin_rectangular rectangular joined

private theorem appendAttributes_rectangular {attributes : Table}
    (appended : table.appendAttributes attributes = .ok result) : result.Rectangular := by
  obtain ⟨wide, _, joined⟩ := bind_eq_ok.mp appended
  exact leftJoin_rectangular rectangular joined

end Operations

section Conversions

variable {table : Table} {fields : List Field}

/-- A conversion that stops leaves the rows before as wide as those that it did not get to. -/
theorem convertRows_width {convert : Nat → Row → Except Failure Row} {width : Nat}
    (keeps : ∀ number row converted, convert number row = .ok converted → converted.length = row.length)
    {rows : List Row} (widths : ∀ row ∈ rows, row.length = width) (number : Nat) :
    ∀ row ∈ (convertRows convert number rows).1, row.length = width := by
  induction rows generalizing number with
  | nil => exact fun _ member => nomatch member
  | cons row rest ih =>
    rw [convertRows]
    cases went : convert number row with
    | error failure => exact widths
    | ok converted =>
      rw [List.forall_mem_cons] at widths
      rw [List.forall_mem_cons]
      exact ⟨(keeps number row converted went).trans widths.1, ih widths.2 (number + 1)⟩

private theorem normalizeRow_width (typePosition number : Nat) (row converted : Row)
    (went : normalizeRow fields typePosition number row = .ok converted) : converted.length = row.length := by
  rw [normalizeRow] at went
  split at went
  · split at went
    · cases went
      rfl
    · obtain ⟨cell, _, rfl⟩ := map_eq_ok.mp went
      exact List.length_set
  · cases went
    exact Conversions.foldl_fillArray_length fields _ row
  · cases went
    exact Conversions.foldl_fillArray_length fields _ row
  · cases went
    rfl

variable (rectangular : table.Rectangular)
include rectangular

private theorem normalize_rectangular : table.normalize.table.Rectangular := by
  rw [Table.normalize]
  split
  · exact rectangular
  · exact convertRows_width (normalizeRow_width _) rectangular firstExportRow

private theorem toNumeric_rectangular (name : String) : (table.toNumeric name).table.Rectangular := by
  rw [Table.toNumeric]
  split
  · exact rectangular
  next position _ =>
    have keeps : ∀ number (row converted : Row),
        (numericCell number name (row.cell position)).map (row.set position) = .ok converted →
          converted.length = row.length := by
      intro number row converted went
      obtain ⟨cell, _, rfl⟩ := map_eq_ok.mp went
      exact List.length_set
    have widths := convertRows_width keeps rectangular firstExportRow
    dsimp only
    generalize convertRows _ firstExportRow table.rows = came at widths
    obtain ⟨rows, _ | failure⟩ := came
    · intro row member
      rw [widths row member, List.length_modify]
    · exact widths

end Conversions

section Obtaining

/-- The tables that can be read or made of others, where tables are given that are rectangular. A
conversion leaves a table behind even if it fails. -/
inductive Obtained : Table → Prop
  | given {table : Table} (rectangular : table.Rectangular) : Obtained table
  | exported {stream : Delimited.Stream} {dialect : Delimited.Dialect} {table : Table}
      (read : Export.readStream stream dialect = .ok table) : Obtained table
  | metadata {layout : Metadata.Layout} {bytes : Text.Bytes} {table : Table}
      (read : Metadata.read layout bytes = .ok table) : Obtained table
  | keepRows {table : Table} (before : Obtained table) (keep : Row → Bool) : Obtained (table.keepRows keep)
  | filterByKinds {table result : Table} (before : Obtained table) {kinds : List Kind}
      (filtered : table.filterByKinds kinds = .ok result) : Obtained result
  | rename {table : Table} (before : Obtained table) (old new : String) : Obtained (table.rename old new)
  | addColumn {table result : Table} (before : Obtained table) {field : Field} {cells : List Cell}
      (added : table.addColumn field cells = .ok result) : Obtained result
  | ensureColumn {table : Table} (before : Obtained table) (name : String) (type : ColumnType) :
      Obtained (table.ensureColumn name type)
  | dropColumns {table : Table} (before : Obtained table) (drop : Field → List Cell → Bool) :
      Obtained (table.dropColumns drop)
  | select {table : Table} (before : Obtained table) (names : List String) : Obtained (table.select names)
  | normalize {table : Table} (before : Obtained table) : Obtained table.normalize.table
  | toNumeric {table : Table} (before : Obtained table) (name : String) : Obtained (table.toNumeric name).table
  | pivot {table result : Table} (before : Obtained table) {index : List String} {names values : String}
      (pivoted : table.pivot index names values = .ok result) : Obtained result
  | melt {table result : Table} (before : Obtained table) {ids : List String}
      {nameColumn valueColumn : String} (melted : table.melt ids nameColumn valueColumn = .ok result) :
      Obtained result
  | leftJoin {table other result : Table} (before : Obtained table) (beside : Obtained other)
      {keys : List String} (joined : table.leftJoin other keys = .ok result) : Obtained result
  | appendMetadata {table metadata result : Table} (before : Obtained table) (beside : Obtained metadata)
      {suffix : String} (appended : table.appendMetadata metadata suffix = .ok result) : Obtained result
  | appendAttributes {table attributes result : Table} (before : Obtained table)
      (beside : Obtained attributes) (appended : table.appendAttributes attributes = .ok result) :
      Obtained result
  | ensureColumns {table : Table} (before : Obtained table) (names : List String) :
      Obtained (table.ensureColumns names)
  | prune {table : Table} (before : Obtained table) : Obtained table.prune
  | finalize {table : Table} (before : Obtained table) (mandatory : List String) (prunes : Bool) :
      Obtained (table.finalize mandatory prunes)

theorem Obtained.rectangular {table : Table} (obtained : Obtained table) : table.Rectangular := by
  induction obtained with
  | given rectangular => exact rectangular
  | exported read =>
    obtain ⟨names, records, framed⟩ := ExportCells.readStream_sound read
    exact (ParsedExports.describes_parsed (ExportCells.readStream_describes framed read)).rectangular
  | metadata read => exact (read_layout read).2
  | keepRows _ keep ih => exact keepRows_rectangular ih keep
  | filterByKinds _ filtered ih => exact filterByKinds_rectangular ih filtered
  | rename _ old new ih => exact rename_rectangular ih old new
  | addColumn _ added ih => exact addColumn_rectangular ih added
  | ensureColumn _ name type ih => exact ensureColumn_rectangular ih name type
  | dropColumns _ drop ih => exact dropColumns_rectangular ih drop
  | select _ names _ => exact select_rectangular _ names
  | normalize _ ih => exact normalize_rectangular ih
  | toNumeric _ name ih => exact toNumeric_rectangular ih name
  | pivot _ pivoted _ => exact pivot_rectangular pivoted
  | melt _ melted _ => exact melt_rectangular melted
  | leftJoin _ _ joined ih _ => exact leftJoin_rectangular ih joined
  | appendMetadata _ _ appended ih _ => exact appendMetadata_rectangular ih appended
  | appendAttributes _ _ appended ih _ => exact appendAttributes_rectangular ih appended
  | ensureColumns _ names ih => exact ensureColumns_rectangular ih names
  | prune _ ih => exact dropColumns_rectangular ih _
  | finalize _ mandatory prunes ih => exact finalize_rectangular ih mandatory prunes

end Obtaining

section Queries

variable {σ ρ : Type} {session : Session σ ρ} {before after : Journal σ ρ} {raw table result : Table}

/-- The queries of a session, and the export of files whatever its inputs. -/
inductive IsQuery (session : Session σ ρ) : Work σ ρ Table → Prop
  | results (filter : Option String) (options : ResultsOptions) : IsQuery session (session.results filter options)
  | resultsOfKind (kind : ResultKind) (filter : Option String) (options : QueryOptions) :
      IsQuery session (session.resultsOfKind kind filter options)
  | metadata (query : MetadataQuery) (filter : String) (inclusion : Inclusion) :
      IsQuery session (session.metadata query filter inclusion)
  | readFiles (files : List String) (filter : Option String) (extras : ExportExtras) :
      IsQuery session (readFiles session.tool files filter extras)

private theorem Obtained.keepKinds (obtained : Obtained raw) (position : Nat) (kinds : List Kind) :
    Obtained (raw.keepKinds position kinds) := obtained.keepRows _

private theorem withAttributes_obtained (obtained : Obtained raw) {kind : Kind} {inclusion : Inclusion}
    (attached : withAttributes raw kind inclusion = .ok result) : Obtained result := by
  have results : Obtained (resultRows raw kind) := by
    rw [resultRows, Table.splitAttributes]
    split
    · exact obtained.keepKinds _ _
    · exact obtained
  have identified : Obtained (resultRows raw kind).identified := (results.dropColumns _).ensureColumns _
  rw [withAttributes] at attached
  split at attached
  next attributes found =>
    obtain ⟨given, _⟩ := Option.filter_eq_some_iff.mp found
    obtain ⟨position, _, rfl⟩ := Option.map_eq_some_iff.mp given
    exact identified.appendAttributes (obtained.keepKinds position _) attached
  next =>
    cases attached
    exact identified

private theorem mergeMetadata_obtained {queries : List MetadataQuery} (obtained : Obtained table)
    (merged : Gives (session.mergeMetadata queries table) before result after) : Obtained result := by
  induction queries generalizing table before with
  | nil =>
    obtain ⟨rfl, _⟩ := gives_pure.mp merged
    exact obtained
  | cons query queries ih =>
    obtain ⟨_, metadata, _, extended, ⟨_, _, read⟩, appended, rest⟩ := gives_mergeMetadata_cons.mp merged
    exact ih (obtained.appendMetadata (.metadata read) appended) rest

private theorem finished_obtained (obtained : Obtained table) {kind : ResultKind} {prunes : Bool}
    (finishes : finished kind prunes table = .ok result) : Obtained result := by
  have complete := obtained.finalize kind.kind.mandatoryColumns prunes
  cases kind with
  | scalar =>
    rw [finished, Conversion.result] at finishes
    split at finishes
    · cases finishes
      exact complete.toNumeric Column.value
    · cases finishes
  | _ =>
    cases finishes
    exact complete

/-- Whatever the tool answers, a query that goes through has a table that was made step by step. -/
theorem query_obtained {work : Work σ ρ Table} (query : IsQuery session work)
    (given : Gives work before table after) : Obtained table := by
  cases query with
  | results filter options =>
    obtain ⟨_, raw, _, ⟨_, _, read⟩, rows, kept, rfl⟩ := gives_results.mp ⟨after, given⟩
    have obtained : Obtained rows := by
      cases kinds : options.rowKinds with
      | none =>
        rw [kinds] at kept
        cases kept
        exact .exported read
      | some named =>
        rw [kinds] at kept
        exact (Obtained.exported read).filterByKinds kept
    split
    · exact obtained.prune
    · exact obtained
  | resultsOfKind kind filter options =>
    obtain ⟨_, raw, _, ⟨_, _, read⟩, extended, attached, merged, _, merging, finishes⟩ :=
      gives_resultsOfKind.mp ⟨after, given⟩
    have attachedTable := withAttributes_obtained (.exported read) attached
    exact finished_obtained (mergeMetadata_obtained attachedTable merging) finishes
  | metadata query filter inclusion =>
    obtain ⟨_, main, _, ⟨_, _, read⟩, _, merging⟩ := gives_metadata.mp ⟨after, given⟩
    exact mergeMetadata_obtained (.metadata read) merging
  | readFiles files filter extras =>
    rw [readFiles] at given
    obtain ⟨_, _, _, rest⟩ := gives_bind.mp given
    obtain ⟨stdout, _, _, last⟩ := gives_bind.mp rest
    exact .exported (gives_lift.mp last).1

end Queries

end SimResults.Proofs.Rectangularity
