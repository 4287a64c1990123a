import SimResults.Proofs.ItemProjection

/-! Arrays in the tables of queries. An array of the kind that was asked for is empty rather than
absent if the export tells kinds apart, and so is one that only the guarantee of columns provides.
Without kinds nothing says what an empty cell means, and it stays absent. -/

namespace SimResults.Proofs.ArrayColumns
open Outcomes TableColumns Joining NumericColumns ParsedExports SessionRuns ResultTables ExportCells
  ItemProjection

def Arrays (cells : List Cell) : Prop := ∀ cell ∈ cells, ∃ values, cell = .array values

/-- A column as the export has it, in the rows of one kind. Over all rows its cells are arrays, or
absent where the record has no text. -/
def AsExported (records : List (List String)) (raw : Table) (kind : Kind) (column : Field × List Cell) :
    Prop :=
  ∃ position, column = ((resultRows raw kind).field position, (resultRows raw kind).cellsAt position) ∧
    List.Forall₂ (fun record row => (∃ values, Row.cell row position = .array values) ∨
      row.cell position = .null ∧ record.getD position "" = "") records raw.rows

private theorem arrays_of_missing {cells : List Cell} (arrays : Arrays cells) (missing : cells.all (·.isMissing)) :
    cells = [] := by
  cases cells with
  | nil => rfl
  | cons cell cells =>
    obtain ⟨values, rfl⟩ := arrays cell List.mem_cons_self
    cases missing

section Exports

variable {names : List String} {records : List (List String)} {raw : Table} {kind : Kind} {name : String}

private theorem front_asExported (described : Describes names records raw) (array : ColumnType.ofName name = .array)
    {column : Field × List Cell} (member : column ∈ (resultRows raw kind).columns)
    (named : column.1.name = name) : AsExported records raw kind column := by
  obtain ⟨position, found⟩ := List.getElem?_of_mem member
  rw [getElem?_columns, Option.map_eq_some_iff] at found
  obtain ⟨field, there, rfl⟩ := found
  have own : (resultRows raw kind).field position = field := by
    rw [Table.field, List.getD_eq_getElem?_getD, there, Option.getD_some]
  rw [resultRows_fields, described.fields, List.getElem?_map, Option.map_eq_some_iff] at there
  obtain ⟨given, known, rfl⟩ := there
  cases named
  obtain ⟨inside, type⟩ := ofName_tableNames known
  refine ⟨position, by rw [own], described.rows.imp ?_⟩
  intro record row same
  exact describesRow_array same inside (type.trans array)

private theorem array_named (member : name ∈ arrayColumns kind) :
    name ≠ Column.run ∧ name ≠ Column.runID ∧ name ∉ droppedColumns ∧ ¬ Marked name := by
  have each : ∀ kind, ∀ name ∈ arrayColumns kind,
      name ≠ Column.run ∧ name ≠ Column.runID ∧ name ∉ droppedColumns ∧ ¬ Marked name := by
    intro kind
    cases kind <;> decide
  exact each kind name member

private theorem front_filled (described : Describes names records raw) (typed : raw.contains Column.type = true)
    (member : name ∈ arrayColumns kind) {column : Field × List Cell}
    (first : ((resultRows raw kind).columns.find? fun column => column.1.name == name) = some column) :
    Arrays column.2 := by
  obtain ⟨short, long, _⟩ := array_named member
  obtain ⟨typePosition, there⟩ := Option.isSome_iff_exists.mp typed
  rw [find?_columns, Option.map_eq_some_iff] at first
  obtain ⟨position, found, rfl⟩ := first
  rw [Table.position?, resultRows_fields] at found
  change raw.position? name = _ at found
  intro cell among
  obtain ⟨row, kept, rfl⟩ := List.mem_map.mp among
  rw [resultRows, Table.splitAttributes, there] at kept
  obtain ⟨inside, own⟩ := List.mem_filter.mp kept
  obtain ⟨record, _, same⟩ := record_of_member described.rows inside
  rw [describes_position? described short long] at found
  rw [describes_position? described (by decide) (by decide)] at there
  rw [describesRow_kind same there] at own
  have known : kindOf? names record = some kind := by
    cases known : kindOf? names record with
    | none => simp [known] at own
    | some other => simpa [known] using own
  obtain ⟨values, filled, _⟩ := describesRow_filled same known member found
  exact ⟨values, filled⟩

end Exports

section Queries

variable {σ ρ : Type} {session : Session σ ρ} {before after : Journal σ ρ} {raw table : Table}
  {kind : ResultKind} {options : QueryOptions} {whole : List (Field × List Cell)} {name : String}

private theorem added_arrays (array : name ∈ arrayColumns kind.kind)
    (own : ¬ Supplied raw kind.kind options.inclusion name) {column : Field × List Cell}
    (named : column.1.name = name) (fresh : column.1.name ∉ namesOf (leading (resultRows raw kind.kind)))
    (added : Added raw kind.kind options.inclusion column) :
    Arrays column.2 ∧ column.2.length = (resultRows raw kind.kind).rows.length := by
  subst named
  obtain ⟨_, _, _, unmarked⟩ := array_named array
  rcases added with ⟨other, _, rfl⟩ | marked | supplied
  · refine ⟨?_, List.length_replicate⟩
    intro cell member
    have same : cell = (ColumnType.ofName other).missing := List.eq_of_mem_replicate member
    have type : ColumnType.ofName other = .array := ofName_arrayColumns array
    exact ⟨[], by rw [same, type]; rfl⟩
  · exact absurd marked unmarked
  · exact absurd ⟨fresh, supplied⟩ own

private theorem numericIf_arrays (array : name ∈ arrayColumns kind.kind) (columns : List (Field × List Cell)) :
    numericIf kind columns = columns := by
  cases kind with
  | scalar => cases array
  | _ => rfl

/-- The first column of a name is all arrays if it is filled by the export or not in it. -/
private theorem first_arrays {header : List String} {records : List (List String)}
    (described : Describes header records raw) (made : MadeFrom kind options raw table whole)
    (array : name ∈ arrayColumns kind.kind) (own : ¬ Supplied raw kind.kind options.inclusion name)
    (filled : raw.contains Column.type = true ∨ raw.contains name = false) {column : Field × List Cell}
    (first : (whole.find? fun column => column.1.name == name) = some column) :
    Arrays column.2 ∧ column.2.length = (resultRows raw kind.kind).rows.length := by
  obtain ⟨added, rfl, fresh⟩ := made.behind
  obtain ⟨_, _, stays, _⟩ := array_named array
  rw [List.find?_append, find?_leading _ stays] at first
  cases front : (resultRows raw kind.kind).columns.find? fun column => column.1.name == name with
  | some found =>
    rw [front] at first
    cases first
    refine ⟨?_, columns_height (List.mem_of_find?_eq_some front)⟩
    rcases filled with typed | absent
    · exact front_filled described typed array front
    · rw [find?_columns, Option.map_eq_some_iff] at front
      obtain ⟨position, there, _⟩ := front
      rw [Table.position?, resultRows_fields] at there
      rw [Table.contains, Table.position?, there] at absent
      cases absent
  | none =>
    rw [front, Option.none_or] at first
    have named : column.1.name = name := by simpa using List.find?_some first
    have member := fresh column (List.mem_of_find?_eq_some first)
    exact added_arrays array own named member.1 member.2

/-- Pruning takes the first column of arrays from a table without rows only, where it has no cells. -/
private theorem column_arrays {header : List String} {records : List (List String)}
    (described : Describes header records raw) (made : MadeFrom kind options raw table whole)
    (array : name ∈ arrayColumns kind.kind) (own : ¬ Supplied raw kind.kind options.inclusion name)
    (filled : raw.contains Column.type = true ∨ raw.contains name = false) {cells : List Cell}
    (found : table.column? name = some cells) : Arrays cells := by
  have shape := made.shape.columns
  rw [made.shape.column?, Option.map_eq_some_iff] at found
  rw [numericIf_arrays array] at found shape
  obtain ⟨column, firstKept, rfl⟩ := found
  have member := List.mem_of_find?_eq_some firstKept
  have named : column.1.name = name := by simpa using List.find?_some firstKept
  obtain ⟨first, among⟩ : ∃ first, (whole.find? fun column => column.1.name == name) = some first := by
    apply Option.isSome_iff_exists.mp
    rw [List.find?_isSome]
    exact ⟨column, mem_kept member, by simpa using named⟩
  obtain ⟨arrays, height⟩ := first_arrays described made array own filled among
  by_cases used : first.2.all (·.isMissing)
  · rw [arrays_of_missing arrays used, ← made.shape.height] at height
    have empty : column.2 = [] :=
      List.length_eq_zero_iff.mp ((columns_height (shape ▸ member)).trans height.symm)
    rw [empty]
    exact nofun
  · rw [find?_kept among used] at firstKept
    cases firstKept
    exact arrays

end Queries

/-- In the first column of an array of its kind, a query holds arrays only, if the export tells kinds
apart or has no such column. In other columns of that name it holds what the export has. -/
theorem query_arrays {σ ρ : Type} (session : Session σ ρ) (before after : Journal σ ρ) (table : Table)
    (kind : ResultKind) (filter : Option String) (options : QueryOptions)
    (given : Gives (session.resultsOfKind kind filter options) before table after) :
    ∃ stdout next header records raw,
      Answers session.tool (exportArguments session kind.kind filter (options.extras.restricted kind))
        before.tool stdout next ∧
      Delimited.Stream.frameWithHeader ⟨stdout, none⟩ {} = .ok (header, ⟨records, none⟩) ∧
      Export.read stdout = .ok raw ∧
      ∀ name ∈ arrayColumns kind.kind, ¬ Supplied raw kind.kind options.inclusion name →
        (Column.type ∈ header ∨ name ∉ header →
          ∀ cells, table.column? name = some cells → Arrays cells) ∧
        ∀ column ∈ table.columns, column.1.name = name →
          Arrays column.2 ∨ AsExported records raw kind.kind column := by
  obtain ⟨raw, next, whole, ⟨stdout, answered, read⟩, made⟩ := resultsOfKind_made given
  obtain ⟨header, records, framed⟩ := readStream_sound read
  have described := readStream_describes framed read
  refine ⟨stdout, next, header, records, raw, answered, framed, read, ?_⟩
  intro name array own
  obtain ⟨short, long, _⟩ := array_named array
  refine ⟨?_, ?_⟩
  · intro filled cells found
    rw [← describes_contains described (by decide) (by decide), ← describes_contains described short long] at filled
    exact column_arrays described made array own (by simpa using filled) found
  · intro column member named
    rw [made.shape.columns, numericIf_arrays array] at member
    rcases made.behind.member (mem_kept member) with front | ⟨fresh, added⟩
    · exact .inr (front_asExported described (ofName_arrayColumns array) (List.mem_filter.mp front).1 named)
    · exact .inl (added_arrays array own named fresh added).1

def sampleExport : String :=
  "run,type,module,name,attrname,attrvalue,vectime,vecvalue\nr0,vector,m,v,,,,1 2\nr0,attr,m,v,unit,ms,,\n"

def sampleRaw : Table where
  fields := ["runID", "type", "module", "name", "attrname", "attrvalue", "vectime", "vecvalue"].map .declared
  rows := [[.text "r0", .text "vector", .text "m", .text "v", .null, .null, .array [], .array [1, 2]],
    [.text "r0", .text "attr", .text "m", .text "v", .text "unit", .text "ms", .null, .null]]

def sampleVectors : Table where
  fields := ["runID", "module", "name", "vectime", "vecvalue"].map .declared ++ [⟨"unit", .text⟩]
  rows := [[.text "r0", .text "m", .text "v", .array [], .array [1, 2], .text "ms"]]

theorem query_arrays_without_times :
    ∃ after, Gives (scriptedSession.resultsOfKind .vector none { inclusion := { attributes := true } })
        (scripted sampleExport "") sampleVectors after ∧
      Column.vectime ∈ arrayColumns .vector ∧
      ¬ Supplied sampleRaw .vector { attributes := true } Column.vectime ∧
      ∀ cells, sampleVectors.column? Column.vectime = some cells → Arrays cells := by
  have given : Gives (scriptedSession.resultsOfKind .vector none { inclusion := { attributes := true } })
      (scripted sampleExport "") sampleVectors _ := gives_of_outcome (by decide +kernel)
  obtain ⟨stdout, next, header, records, raw, ⟨output, ran, _, same⟩, framed, read, arrays⟩ :=
    query_arrays _ _ _ _ .vector _ _ given
  cases ran
  cases same
  have known : Export.read (Text.encode sampleExport) = .ok sampleRaw := by decide +kernel
  cases known.symm.trans read
  have names : (Delimited.Stream.frameWithHeader ⟨Text.encode sampleExport, none⟩ {}).map (·.1) =
      .ok ["run", "type", "module", "name", "attrname", "attrvalue", "vectime", "vecvalue"] := by
    decide +kernel
  rw [framed] at names
  cases Except.ok.inj names
  have own : ¬ Supplied sampleRaw .vector { attributes := true } Column.vectime :=
    fun supplied => supplied.1 (by decide)
  exact ⟨_, given, by decide, own, (arrays Column.vectime (by decide) own).1 (.inl (by decide))⟩

def untypedVectors : Table where
  fields := ["runID", "module", "name", "vectime", "vecvalue"].map .declared
  rows := [[.text "r0", .text "m", .text "v", .null, .array [1, 2]]]

/-- Without a type column the times that the export leaves empty stay absent. -/
theorem untyped_times_absent :
    ∃ after, Gives (scriptedSession.resultsOfKind .vector none {})
        (scripted "run,module,name,vectime,vecvalue\nr0,m,v,,1 2\n" "") untypedVectors after ∧
      ∃ cells, untypedVectors.column? Column.vectime = some cells ∧ ¬ Arrays cells := by
  refine ⟨_, gives_of_outcome (by decide +kernel), [.null], by decide, ?_⟩
  intro arrays
  obtain ⟨_, same⟩ := arrays .null List.mem_cons_self
  cases same

end SimResults.Proofs.ArrayColumns
