import SimResults.Proofs.Joining
import SimResults.Proofs.SessionRuns

/-! Merging metadata, one run of the tool after the other. Whatever the tool reports, a table that
has runs can be extended by it, so only the tool and its output can fail. -/

namespace SimResults.Proofs.MetadataMerging
open Outcomes TableColumns Joining SessionRuns

private theorem readRecord_width {columns record : List String} {number : Nat} {row : Row}
    (read : Metadata.readRecord columns number record = .ok row) : row.length = columns.length := by
  rw [Metadata.readRecord] at read
  split at read
  · cases read
  · cases read
    simp

private theorem readRecords_width {columns : List String} {number : Nat} {records : List (List String)}
    {rows : List Row} (read : Metadata.readRecords columns number records = .ok rows) :
    ∀ row ∈ rows, row.length = columns.length := by
  induction records generalizing number rows with
  | nil => cases read; simp
  | cons record rest ih =>
    rw [Metadata.readRecords] at read
    obtain ⟨row, first, rows, later, rfl⟩ : ∃ row, Metadata.readRecord columns number record = .ok row ∧
        ∃ others, Metadata.readRecords columns (number + 1) rest = .ok others ∧ row :: others = rows := by
      simpa only [bind_eq_ok, pure_eq_ok] using read
    rw [List.forall_mem_cons]
    exact ⟨readRecord_width first, ih later⟩

theorem read_layout {layout : Metadata.Layout} {bytes : Text.Bytes} {table : Table}
    (read : Metadata.read layout bytes = .ok table) :
    table.fields = layout.fields ∧ table.Rectangular := by
  rw [Metadata.read] at read
  obtain ⟨rows, recorded, rest⟩ := bind_eq_ok.mp read
  split at rest
  · cases rest
  · cases pure_eq_ok.mp rest
    refine ⟨rfl, ?_⟩
    intro row member
    rw [readRecords_width recorded row member, Metadata.Layout.fields, List.length_map]

private theorem suffix_marked (query : MetadataQuery) : Marked query.suffix := by
  cases query <;> decide

/-- The metadata that is wanted, in the order in which it is merged. Config entries make parameter
assignments superfluous. -/
def wanted (inclusion : Inclusion) : List MetadataQuery :=
  [.iterationVariables, .runAttributes, .configEntries, .parameterAssignments].filter fun
    | .iterationVariables => inclusion.iterationVariables
    | .runAttributes => inclusion.runAttributes
    | .configEntries => inclusion.configEntries
    | .parameterAssignments => inclusion.parameterAssignments && !inclusion.configEntries
    | .runs => false

theorem queries_eq (inclusion : Inclusion) : inclusion.queries = wanted inclusion := by
  obtain ⟨_, runs, iterations, assignments, entries⟩ := inclusion
  cases runs <;> cases iterations <;> cases assignments <;> cases entries <;> rfl

theorem queries_layout {inclusion : Inclusion} {query : MetadataQuery}
    (selected : query ∈ inclusion.queries) : query.layout = .nameValue := by
  rw [queries_eq, wanted, List.mem_filter] at selected
  cases query with
  | runs => exact nomatch selected.2
  | _ => rfl

variable {σ ρ : Type} {session : Session σ ρ}

/-- The tool delivers the metadata for several queries, one after the other. -/
def Delivers (session : Session σ ρ) : List MetadataQuery → σ → Prop
  | [], _ => True
  | query :: queries, state => ∃ metadata next,
    Lists session query "*" state metadata next ∧ Delivers session queries next

variable {before after : Journal σ ρ} {table result : Table} {columns : List (Field × List Cell)}
  {height : Nat} {query : MetadataQuery} {queries : List MetadataQuery}

theorem gives_mergeMetadata_cons :
    Gives (session.mergeMetadata (query :: queries) table) before result after ↔
      Accepts session (some "*") ∧ ∃ metadata next extended,
        Lists session query "*" before.tool metadata next ∧
        table.appendMetadata metadata query.suffix = .ok extended ∧
        Gives (session.mergeMetadata queries extended)
          (listed session "auxiliary" query "*" metadata next before) result after := by
  rw [Session.mergeMetadata]
  simp only [gives_bind, gives_lift, gives_metadataTable]
  constructor
  · intro given
    obtain ⟨metadata, _, ⟨accepted, next, lists, rfl⟩, extended, _, ⟨appended, rfl⟩, rest⟩ := given
    exact ⟨accepted, metadata, next, extended, lists, appended, rest⟩
  · intro given
    obtain ⟨accepted, metadata, next, extended, lists, appended, rest⟩ := given
    exact ⟨metadata, _, ⟨accepted, next, lists, rfl⟩, extended, _, ⟨appended, rfl⟩, rest⟩

theorem read_extends (shape : Columnar table columns height) (keyed : Column.runID ∈ namesOf columns)
    (layout : query.layout = .nameValue) {stdout : Text.Bytes} {metadata : Table}
    (read : Metadata.read query.layout stdout = .ok metadata) :
    ∃ joined more, table.appendMetadata metadata query.suffix = .ok joined ∧
      Columnar joined more height ∧ Extends (fun column => Marked column.1.name) columns more := by
  rw [layout] at read
  exact appendMetadata_extends shape keyed (read_layout read).1 (suffix_marked query)

/-- Merging puts columns behind the others, under new names that show where they come from. -/
theorem merge_extends (shape : Columnar table columns height) (keyed : Column.runID ∈ namesOf columns)
    (layouts : ∀ query ∈ queries, query.layout = .nameValue)
    (merged : Gives (session.mergeMetadata queries table) before result after) :
    ∃ more, Columnar result more height ∧
      Extends (fun column => Marked column.1.name) columns more := by
  induction queries generalizing table columns before with
  | nil =>
    obtain ⟨rfl, _⟩ := gives_pure.mp merged
    exact ⟨columns, shape, .refl columns⟩
  | cons query queries ih =>
    obtain ⟨_, metadata, _, extended, ⟨_, _, read⟩, appended, rest⟩ := gives_mergeMetadata_cons.mp merged
    rw [List.forall_mem_cons] at layouts
    obtain ⟨joined, wider, went, joinedShape, first⟩ := read_extends shape keyed layouts.1 read
    cases went.symm.trans appended
    obtain ⟨more, result, later⟩ := ih joinedShape (first.mem_names keyed) layouts.2 rest
    exact ⟨more, result, first.trans later⟩

/-- Merging goes through exactly if the tool delivers the metadata. -/
theorem merge_succeeds (shape : Columnar table columns height) (keyed : Column.runID ∈ namesOf columns)
    (layouts : ∀ query ∈ queries, query.layout = .nameValue) (accepted : Accepts session (some "*")) :
    (∃ result after, Gives (session.mergeMetadata queries table) before result after) ↔
      Delivers session queries before.tool := by
  induction queries generalizing table columns before with
  | nil => exact iff_of_true ⟨table, before, gives_pure.mpr ⟨rfl, rfl⟩⟩ trivial
  | cons query queries ih =>
    rw [List.forall_mem_cons] at layouts
    constructor
    · intro given
      obtain ⟨result, after, merged⟩ := given
      obtain ⟨_, metadata, next, extended, lists, appended, rest⟩ := gives_mergeMetadata_cons.mp merged
      have ⟨_, _, read⟩ := lists
      obtain ⟨joined, _, went, wider, first⟩ := read_extends shape keyed layouts.1 read
      cases went.symm.trans appended
      have later := (ih wider (first.mem_names keyed) layouts.2).mp ⟨result, after, rest⟩
      rw [listed_tool] at later
      exact ⟨metadata, next, lists, later⟩
    · intro given
      obtain ⟨metadata, next, lists, later⟩ := given
      have ⟨_, _, read⟩ := lists
      obtain ⟨joined, _, went, wider, first⟩ := read_extends shape keyed layouts.1 read
      rw [← listed_tool "auxiliary" query "*" metadata next before] at later
      obtain ⟨result, after, rest⟩ := (ih wider (first.mem_names keyed) layouts.2).mpr later
      exact ⟨result, after,
        gives_mergeMetadata_cons.mpr ⟨accepted, metadata, next, joined, lists, went, rest⟩⟩

theorem gives_metadata {filter : String} {inclusion : Inclusion} :
    (∃ after, Gives (session.metadata query filter inclusion) before table after) ↔
      Accepts session (some filter) ∧ ∃ main next, Lists session query filter before.tool main next ∧
        ∃ after, Gives (session.mergeMetadata inclusion.queries main)
          (listed session query.name query filter main next before) table after := by
  rw [Session.metadata]
  simp only [gives_observe, gives_bind, gives_metadataTable]
  constructor
  · intro given
    obtain ⟨_, _, ⟨main, _, ⟨accepted, next, lists, rfl⟩, merging⟩, _⟩ := given
    exact ⟨accepted, main, next, lists, _, merging⟩
  · intro ⟨accepted, main, next, lists, _, merging⟩
    exact ⟨_, _, ⟨main, _, ⟨accepted, next, lists, rfl⟩, merging⟩, rfl⟩

theorem read_keyed {stdout : Text.Bytes} {main : Table}
    (read : Metadata.read query.layout stdout = .ok main) :
    Columnar main main.columns main.rows.length ∧ Column.runID ∈ namesOf main.columns := by
  obtain ⟨fields, rectangular⟩ := read_layout read
  have shape := Columnar.of_rectangular rectangular
  refine ⟨shape, ?_⟩
  rw [← shape.contains_iff, Table.contains, Table.position?, fields]
  cases query.layout <;> rfl

theorem lists_keyed {filter : String} {state next : σ} {main : Table}
    (lists : Lists session query filter state main next) :
    Columnar main main.columns main.rows.length ∧ Column.runID ∈ namesOf main.columns := by
  obtain ⟨_, _, read⟩ := lists
  exact read_keyed read

end SimResults.Proofs.MetadataMerging
