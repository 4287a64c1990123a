import Mathlib.Data.List.Nodup
import SimResults.Proofs.ResultTables

/-! Names of columns. Whatever is put behind the columns of a table gets a name of its own, so names
that were distinct stay distinct. Only an export can bring a name twice. -/

namespace SimResults.Proofs.ColumnNames
open Outcomes TableColumns Joining SessionRuns MetadataMerging ParsedExports ResultTables ExportCells

section Growing

/-- Names behind others. Where these are distinct, all of them are. -/
structure Grows (before after : List String) : Prop where
  within : before <+: after
  distinct : before.Nodup → after.Nodup

variable {before middle after : List String}

private theorem Grows.refl (names : List String) : Grows names names := ⟨List.prefix_refl names, id⟩

private theorem Grows.trans (first : Grows before middle) (second : Grows middle after) : Grows before after :=
  ⟨first.within.trans second.within, fun distinct => second.distinct (first.distinct distinct)⟩

private theorem Grows.mem (grown : Grows before after) {name : String} (member : name ∈ before) : name ∈ after :=
  grown.within.subset member

private theorem Grows.concat {name : String} (new : name ∉ before) : Grows before (before ++ [name]) := by
  refine ⟨List.prefix_append _ _, ?_⟩
  intro distinct
  rw [← List.concat_eq_append]
  exact distinct.concat new

private theorem foldl_grows {α : Type} {step : Table → α → Table}
    (each : ∀ table item, Grows table.names (step table item).names) (items : List α) (table : Table) :
    Grows table.names (items.foldl step table).names := by
  induction items generalizing table with
  | nil => exact .refl _
  | cons item items ih => exact (each table item).trans (ih (step table item))

end Growing

section Operations

variable {table result : Table}

private theorem append_names (table : Table) (field : Field) (cells : List Cell) :
    (table.append field cells).names = table.names ++ [field.name] := by
  simp [Table.append, Table.names]

private theorem ensureColumn_grows (table : Table) (name : String) (type : ColumnType) :
    Grows table.names (table.ensureColumn name type).names := by
  rw [Table.ensureColumn]
  split
  next => exact .refl _
  next absent =>
    rw [append_names]
    exact .concat (mt contains_iff.mpr absent)

private theorem mem_ensureColumn (table : Table) (name : String) (type : ColumnType) :
    name ∈ (table.ensureColumn name type).names := by
  rw [Table.ensureColumn]
  split
  next present => exact contains_iff.mp present
  next => simp [append_names]

private theorem ensureColumns_grows (table : Table) (names : List String) :
    Grows table.names (table.ensureColumns names).names :=
  foldl_grows (fun table name => ensureColumn_grows table name _) names table

private theorem mem_ensureColumns (table : Table) {names : List String} {name : String} (member : name ∈ names) :
    name ∈ (table.ensureColumns names).names := by
  induction names generalizing table with
  | nil => cases member
  | cons first names ih =>
    rcases List.mem_cons.mp member with rfl | later
    · exact (ensureColumns_grows _ names).mem (mem_ensureColumn table name _)
    · exact ih _ later

private theorem flagged_sublist {α : Type} (flags : List Bool) (items : List α) :
    List.Sublist (flagged flags items) items := by
  induction flags generalizing items with
  | nil => cases items <;> exact List.Sublist.refl _
  | cons flag flags ih =>
    cases items with
    | nil => exact List.nil_sublist _
    | cons item items =>
      rw [flagged]
      split
      · exact (ih items).cons_cons item
      · exact (ih items).cons item

private theorem dropColumns_names (table : Table) (drop : Field → List Cell → Bool) :
    List.Sublist (table.dropColumns drop).names table.names := (flagged_sublist _ _).map _

theorem toNumeric_names (table : Table) (name : String) : (table.toNumeric name).table.names = table.names := by
  rw [Table.toNumeric]
  split
  · rfl
  next position _ =>
    dsimp only
    generalize convertRows _ firstExportRow table.rows = came
    obtain ⟨rows, _ | failure⟩ := came
    · apply List.ext_getElem?
      intro index
      rw [Table.names, Table.names, List.getElem?_map, List.getElem?_map, List.getElem?_modify,
        Option.map_eq_map, Option.map_map]
      congr 1
      funext field
      rw [Function.comp_apply]
      split <;> rfl
    · rfl

private theorem leftJoin_grows {other : Table} {keys : List String}
    (joined : table.leftJoin other keys = .ok result) : Grows table.names result.names := by
  obtain ⟨_, _, rest⟩ := bind_eq_ok.mp joined
  obtain ⟨_, _, made⟩ := bind_eq_ok.mp rest
  cases pure_eq_ok.mp made
  apply foldl_grows
  intro joined (field, position)
  rw [append_names]
  exact .concat (freshName_free _ _)

private theorem appendMetadata_grows {metadata : Table} {suffix : String}
    (appended : table.appendMetadata metadata suffix = .ok result) : Grows table.names result.names := by
  rw [Table.appendMetadata] at appended
  split at appended
  · cases appended
  · obtain ⟨_, _, joined⟩ := bind_eq_ok.mp appended
    exact leftJoin_grows joined

private theorem appendAttributes_grows {attributes : Table}
    (appended : table.appendAttributes attributes = .ok result) : Grows table.names result.names := by
  obtain ⟨_, _, joined⟩ := bind_eq_ok.mp appended
  exact leftJoin_grows joined

end Operations

section Exports

private theorem mem_tableNames {names : List String} {name : String} (member : name ∈ tableNames names) :
    name ∈ names ∨ Column.run ∈ names ∧ name = Column.runID := by
  induction names with
  | nil => cases member
  | cons first names ih =>
    rw [tableNames] at member
    split at member
    next same =>
      rcases List.mem_cons.mp member with rfl | later
      · exact .inr ⟨same ▸ List.mem_cons_self, rfl⟩
      · exact .inl (List.mem_cons_of_mem _ later)
    next =>
      rcases List.mem_cons.mp member with rfl | later
      · exact .inl List.mem_cons_self
      · rcases ih later with known | ⟨short, long⟩
        · exact .inl (List.mem_cons_of_mem _ known)
        · exact .inr ⟨List.mem_cons_of_mem _ short, long⟩

/-- Giving runs their long name repeats a name only where there is a column of that name already. -/
theorem tableNames_nodup {names : List String} (distinct : names.Nodup)
    (single : ¬ (Column.run ∈ names ∧ Column.runID ∈ names)) : (tableNames names).Nodup := by
  induction names with
  | nil => exact List.nodup_nil
  | cons first names ih =>
    obtain ⟨apart, distinct⟩ := List.nodup_cons.mp distinct
    rw [tableNames]
    split
    next same =>
      refine List.nodup_cons.mpr ⟨?_, distinct⟩
      intro long
      exact single ⟨same ▸ List.mem_cons_self, List.mem_cons_of_mem _ long⟩
    next other =>
      refine List.nodup_cons.mpr ⟨?_, ih distinct ?_⟩
      · intro again
        rcases mem_tableNames again with known | ⟨short, long⟩
        · exact apart known
        · exact single ⟨List.mem_cons_of_mem _ short, long ▸ List.mem_cons_self⟩
      · intro both
        exact single (both.imp (List.mem_cons_of_mem _) (List.mem_cons_of_mem _))

end Exports

section Queries

variable {σ ρ : Type} {session : Session σ ρ} {before after : Journal σ ρ} {raw table result : Table}

private theorem identified_names (raw : Table) (kind : Kind) :
    (∀ key ∈ resultKeys, key ∈ (resultRows raw kind).identified.names) ∧
      (raw.names.Nodup → (resultRows raw kind).identified.names.Nodup) := by
  have same : (resultRows raw kind).names = raw.names := by
    rw [Table.names, resultRows_fields, Table.names]
  refine ⟨fun key member => mem_ensureColumns _ member, ?_⟩
  intro distinct
  rw [← same] at distinct
  exact (ensureColumns_grows _ _).distinct (distinct.sublist (dropColumns_names _ _))

private theorem withAttributes_grows {kind : Kind} {inclusion : Inclusion}
    (attached : withAttributes raw kind inclusion = .ok result) :
    Grows (resultRows raw kind).identified.names result.names := by
  rw [withAttributes] at attached
  split at attached
  · exact appendAttributes_grows attached
  · cases attached
    exact .refl _

private theorem mergeMetadata_grows {queries : List MetadataQuery}
    (merged : Gives (session.mergeMetadata queries table) before result after) :
    Grows table.names result.names := by
  induction queries generalizing table before with
  | nil =>
    obtain ⟨rfl, _⟩ := gives_pure.mp merged
    exact .refl _
  | cons query queries ih =>
    obtain ⟨_, _, _, _, _, appended, rest⟩ := gives_mergeMetadata_cons.mp merged
    exact (appendMetadata_grows appended).trans (ih rest)

private theorem finished_names {kind : ResultKind} {prunes : Bool}
    (finishes : finished kind prunes table = .ok result) :
    result.names = (table.finalize kind.kind.mandatoryColumns prunes).names := by
  cases kind with
  | scalar =>
    rw [finished, Conversion.result] at finishes
    split at finishes
    · cases finishes
      exact toNumeric_names _ _
    · cases finishes
  | _ =>
    cases finishes
    rfl

private theorem finalize_names (table : Table) (mandatory : List String) (prunes : Bool) :
    (table.names.Nodup → (table.finalize mandatory prunes).names.Nodup) ∧
      (prunes = false → Grows table.names (table.finalize mandatory prunes).names ∧
        ∀ name ∈ mandatory, name ∈ (table.finalize mandatory prunes).names) := by
  have complete := ensureColumns_grows table mandatory
  rw [Table.finalize]
  cases prunes with
  | false => exact ⟨complete.distinct, fun _ => ⟨complete, fun name member => mem_ensureColumns table member⟩⟩
  | true =>
    rw [if_pos rfl, Table.prune]
    exact ⟨fun distinct => (complete.distinct distinct).sublist (dropColumns_names _ _), by simp⟩

private theorem lists_nodup {query : MetadataQuery} {filter : String} {state next : σ}
    (lists : Lists session query filter state table next) : table.names.Nodup := by
  obtain ⟨_, _, read⟩ := lists
  have names : table.names = query.layout.columns := by
    rw [Table.names, (read_layout read).1, Metadata.Layout.fields, List.map_map]
    exact List.map_id _
  rw [names]
  cases query.layout with
  | runs => decide
  | nameValue => decide

/-- Without pruning, results have the columns that identify them and those of their kind. No name
comes twice in the columns of a query, unless the export itself has one twice or both names of runs. -/
theorem query_columns (session : Session σ ρ) (before after : Journal σ ρ) (table : Table) :
    (∀ kind filter options, Gives (session.resultsOfKind kind filter options) before table after →
      (options.omitUnused = false →
        ∀ name ∈ resultKeys ++ kind.kind.mandatoryColumns, name ∈ table.names) ∧
      ∃ stdout next header records,
        Answers session.tool (exportArguments session kind.kind filter (options.extras.restricted kind))
          before.tool stdout next ∧
        Delimited.Stream.frameWithHeader ⟨stdout, none⟩ {} = .ok (header, ⟨records, none⟩) ∧
        (header.Nodup → ¬ (Column.run ∈ header ∧ Column.runID ∈ header) → table.names.Nodup)) ∧
    ∀ query filter inclusion, Gives (session.metadata query filter inclusion) before table after →
      table.names.Nodup := by
  refine ⟨?_, ?_⟩
  · intro kind filter options given
    obtain ⟨_, raw, next, ⟨stdout, answered, read⟩, extended, attached, merged, _, merging, finishes⟩ :=
      gives_resultsOfKind.mp ⟨after, given⟩
    obtain ⟨keyed, identified⟩ := identified_names raw kind.kind
    have grown := (withAttributes_grows attached).trans (mergeMetadata_grows merging)
    obtain ⟨distinct, complete⟩ := finalize_names merged kind.kind.mandatoryColumns options.omitUnused
    rw [finished_names finishes]
    refine ⟨?_, ?_⟩
    · intro whole
      obtain ⟨behind, mandatory⟩ := complete whole
      rw [List.forall_mem_append]
      exact ⟨fun key member => behind.mem (grown.mem (keyed key member)), mandatory⟩
    · obtain ⟨header, records, framed⟩ := readStream_sound read
      refine ⟨stdout, next, header, records, answered, framed, ?_⟩
      intro once single
      have exported : raw.names.Nodup := by
        rw [describes_names (readStream_describes framed read)]
        exact tableNames_nodup once single
      exact distinct (grown.distinct (identified exported))
  · intro query filter inclusion given
    obtain ⟨_, main, _, lists, _, merging⟩ := gives_metadata.mp ⟨after, given⟩
    exact (mergeMetadata_grows merging).distinct (lists_nodup lists)

/-- Attributes and metadata are called like columns of the export and like each other. -/
def takenExport : String :=
  "run,type,module,name,attrname,attrvalue,value,N_itervar\nr0,scalar,m,s,,,1.5,\n" ++
    "r0,attr,m,s,value,x,,\nr0,attr,m,s,value_y,z,,\n"

def takenStart : Journal (List Rule) Unit := scripted takenExport "r0\tN\t3\n"

def takenOptions : QueryOptions := { inclusion := { attributes := true, iterationVariables := true } }

def takenScalars : Table where
  fields := [⟨Column.runID, .text⟩, ⟨Column.module, .text⟩, ⟨Column.name, .text⟩, ⟨Column.value, .number⟩,
    ⟨"N_itervar", .generic⟩, ⟨"value_y", .text⟩, ⟨"value_y_y", .text⟩, ⟨"N_itervar_y", .text⟩]
  rows := [[.text "r0", .text "m", .text "s", .number 1.5, .null, .text "x", .text "z", .text "3"]]

def takenMetadata : Table where
  fields := [⟨Column.runID, .text⟩, ⟨Column.name, .text⟩, ⟨Column.value, .text⟩, ⟨"N_itervar", .text⟩]
  rows := [[.text "r0", .text "N", .text "3", .text "3"]]

theorem query_columns_taken :
    (∃ after, Gives (scriptedSession.resultsOfKind .scalar none takenOptions) takenStart takenScalars after ∧
      takenScalars.names.Nodup ∧ ∀ name ∈ resultKeys ++ [Column.value], name ∈ takenScalars.names) ∧
    ∃ after, Gives (scriptedSession.metadata .iterationVariables "*" takenOptions.inclusion) takenStart
      takenMetadata after ∧ takenMetadata.names.Nodup := by
  refine ⟨?_, ?_⟩
  · have given : Gives (scriptedSession.resultsOfKind .scalar none takenOptions) takenStart takenScalars _ :=
      gives_of_outcome (by decide +kernel)
    obtain ⟨complete, stdout, next, header, records, ⟨output, ran, _, same⟩, framed, distinct⟩ :=
      (query_columns _ _ _ _).1 .scalar _ _ given
    cases ran
    cases same
    have known : (Delimited.Stream.frameWithHeader ⟨Text.encode takenExport, none⟩ {}).map (·.1) =
        .ok ["run", "type", "module", "name", "attrname", "attrvalue", "value", "N_itervar"] := by
      decide +kernel
    rw [framed] at known
    cases Except.ok.inj known
    exact ⟨_, given, distinct (by decide) (by decide), complete rfl⟩
  · have given : Gives (scriptedSession.metadata .iterationVariables "*" takenOptions.inclusion) takenStart
        takenMetadata _ := gives_of_outcome (by decide +kernel)
    exact ⟨_, given, (query_columns _ _ _ _).2 _ _ _ given⟩

end Queries

end SimResults.Proofs.ColumnNames
