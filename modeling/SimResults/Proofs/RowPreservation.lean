import SimResults.Proofs.ResultTables

/-! Rows survive queries. However much is merged into a table, each row of the main source of a
query is a row of its result, in the same place and with the same cells in front. -/

namespace SimResults.Proofs.RowPreservation
open TableColumns NumericColumns SessionRuns MetadataMerging ResultTables

private theorem kept_within {columns more : List (Field × List Cell)} (within : columns <+: more)
    (prunes : Bool) : kept prunes columns <+: kept prunes more := by
  rw [kept, kept]
  split
  · exact within.filter _
  · exact within

private theorem numericIf_within {columns more : List (Field × List Cell)} (within : columns <+: more)
    (kind : ResultKind) : numericIf kind columns <+: numericIf kind more := by
  cases kind with
  | scalar => exact atFirst_within within _ _
  | _ => exact within

private theorem resultRows_filtered (raw : Table) (kind : Kind) :
    if raw.contains Column.type then raw.filterByKinds [kind] = .ok (resultRows raw kind)
    else resultRows raw kind = raw := by
  rw [Table.contains, Table.filterByKinds, resultRows, Table.splitAttributes]
  cases raw.position? Column.type with
  | none => rfl
  | some position => rfl

/-- Results and metadata keep their rows, in order, behind the columns that they came with. With
pruning, only those of these columns are kept that have a value; the values of scalars are numbers. -/
theorem queries_preserve_rows {σ ρ : Type} (session : Session σ ρ) (before after : Journal σ ρ)
    (table : Table) :
    (∀ kind filter options, Gives (session.resultsOfKind kind filter options) before table after →
      ∃ raw next results,
        Exports session kind.kind filter (options.extras.restricted kind) before.tool raw next ∧
        (if raw.contains Column.type then raw.filterByKinds [kind.kind] = .ok results
          else results = raw) ∧
        results.Rectangular ∧ table.Rectangular ∧ table.rows.length = results.rows.length ∧
        numericIf kind (kept options.omitUnused (leading results)) <+: table.columns ∧
        (kind = .scalar → ∀ cells, table.column? Column.value = some cells →
          ∀ cell ∈ cells, ∃ value, cell = .number value)) ∧
    (∀ query filter inclusion, Gives (session.metadata query filter inclusion) before table after →
      ∃ main next, Lists session query filter before.tool main next ∧
        main.Rectangular ∧ table.Rectangular ∧ table.rows.length = main.rows.length ∧
        main.columns <+: table.columns) := by
  refine ⟨?_, ?_⟩
  · intro kind filter options given
    obtain ⟨raw, next, whole, exports, made⟩ := resultsOfKind_made given
    have front : numericIf kind (kept options.omitUnused (leading (resultRows raw kind.kind))) <+:
        table.columns := by
      rw [made.shape.columns]
      exact numericIf_within (kept_within made.behind.within _) kind
    exact ⟨raw, next, resultRows raw kind.kind, exports, resultRows_filtered raw kind.kind,
      resultRows_rectangular made.parsed.rectangular _, made.shape.rectangular, made.shape.height,
      front, made.values⟩
  · intro query filter inclusion given
    obtain ⟨_, main, next, lists, _, merging⟩ := gives_metadata.mp ⟨after, given⟩
    obtain ⟨shape, keyed⟩ := lists_keyed lists
    obtain ⟨more, result, behind⟩ := merge_extends shape keyed (fun _ => queries_layout) merging
    refine ⟨main, next, lists, shape.rectangular, result.rectangular, result.height, ?_⟩
    rw [result.columns]
    exact behind.within

/-- Two of four rows are scalars, the second of them without a value. -/
def sample : Journal (List Rule) Unit :=
  scripted ("run,type,module,name,attrname,attrvalue,value,mean\nr0,scalar,m,s,,,1.5,\n" ++
    "r0,attr,m,s,unit,ms,,\nr1,param,,p,,,x,\nr1,scalar,m,s,,,,\n") "r0\tN\t3\n"

def sampleOptions : QueryOptions :=
  { inclusion := { attributes := true, runAttributes := true }, omitUnused := true }

def sampleScalars : Table where
  fields := [⟨Column.runID, .text⟩, ⟨Column.module, .text⟩, ⟨Column.name, .text⟩, ⟨Column.value, .number⟩,
    ⟨"unit", .text⟩, ⟨"N_runattr", .text⟩]
  rows := [[.text "r0", .text "m", .text "s", .number 1.5, .text "ms", .text "3"],
    [.text "r1", .text "m", .text "s", .number Number.notANumber, .null, .null]]

def sampleMetadata : Table where
  fields := [⟨Column.runID, .text⟩, ⟨Column.name, .text⟩, ⟨Column.value, .text⟩, ⟨"N_runattr", .text⟩]
  rows := [[.text "r0", .text "N", .text "3", .text "3"]]

theorem queries_preserve_rows_pruned :
    (∃ after, Gives (scriptedSession.resultsOfKind .scalar none sampleOptions) sample sampleScalars after ∧
      ∃ raw next results, Exports scriptedSession (some Kind.scalar) none {} sample.tool raw next ∧
        (if raw.contains Column.type then raw.filterByKinds [.scalar] = .ok results else results = raw) ∧
        sampleScalars.rows.length = results.rows.length ∧
        numericIf .scalar (kept true (leading results)) <+: sampleScalars.columns) ∧
    ∃ after, Gives (scriptedSession.metadata .iterationVariables "*" sampleOptions.inclusion) sample
        sampleMetadata after ∧
      ∃ main next, Lists scriptedSession .iterationVariables "*" sample.tool main next ∧
        sampleMetadata.rows.length = main.rows.length ∧ main.columns <+: sampleMetadata.columns := by
  refine ⟨?_, ?_⟩
  · have given : Gives (scriptedSession.resultsOfKind .scalar none sampleOptions) sample sampleScalars _ :=
      gives_of_outcome (by decide +kernel)
    obtain ⟨raw, next, results, exports, filtered, _, _, height, front, _⟩ :=
      (queries_preserve_rows _ _ _ _).1 .scalar _ _ given
    exact ⟨_, given, raw, next, results, exports, filtered, height, front⟩
  · have given : Gives (scriptedSession.metadata .iterationVariables "*" sampleOptions.inclusion) sample
        sampleMetadata _ := gives_of_outcome (by decide +kernel)
    obtain ⟨main, next, lists, _, _, height, front⟩ := (queries_preserve_rows _ _ _ _).2 _ _ _ given
    exact ⟨_, given, main, next, lists, height, front⟩

end SimResults.Proofs.RowPreservation
