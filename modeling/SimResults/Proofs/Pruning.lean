import SimResults.Proofs.ItemProjection
import SimResults.Proofs.QueryAcceptance
import SimResults.Proofs.Rectangularity

/-! Columns after pruning. Each of them has a value, with one exception: the values of scalars are
converted after pruning, and what is written may be nan. Where scalars are told to be scalars, their
values are numbers before, and the exception does not occur. -/

namespace SimResults.Proofs.Pruning
open TableColumns Joining NumericColumns ParsedExports SessionRuns ResultTables QueryAcceptance ItemProjection
  Rectangularity

def Used (cells : List Cell) : Prop := ∃ cell ∈ cells, cell.isMissing = false

def AllUsed (table : Table) : Prop := ∀ column ∈ table.columns, Used column.2

section Columns

variable {columns : List (Field × List Cell)} {name : String}

private theorem used_iff {cells : List Cell} : Used cells ↔ cells.all (·.isMissing) = false := by
  simp [Used]

private theorem kept_used {column : Field × List Cell} (member : column ∈ kept true columns) : Used column.2 := by
  rw [kept, if_pos rfl, List.mem_filter] at member
  exact used_iff.mpr (by simpa using member.2)

private theorem prune_used {table : Table} (rectangular : table.Rectangular) : AllUsed table.prune := by
  intro column member
  rw [(Columnar.of_rectangular rectangular).prune.columns] at member
  exact kept_used (by rwa [kept, if_pos rfl])

/-- A change to the first column of a name can leave only that column unused. -/
private theorem atFirst_used {change : Field × List Cell → Field × List Cell}
    (used : ∀ column ∈ columns, Used column.2) :
    (∀ column ∈ atFirst name change columns, Used column.2) ↔
      ∀ column, (columns.find? fun column => column.1.name == name) = some column →
        Used (change column).2 := by
  induction columns with
  | nil => simp [atFirst]
  | cons first columns ih =>
    rw [List.forall_mem_cons] at used
    rw [atFirst, List.find?_cons]
    by_cases named : first.1.name = name
    · rw [if_pos named, List.forall_mem_cons, named, beq_self_eq_true]
      constructor
      · intro changed column found
        cases found
        exact changed.1
      · intro each
        exact ⟨each first rfl, used.2⟩
    · have other : (first.1.name == name) = false := by simpa using named
      rw [if_neg named, List.forall_mem_cons, other]
      exact (and_iff_right used.1).trans (ih used.2)

end Columns

section Queries

variable {σ ρ : Type} {session : Session σ ρ} {before after : Journal σ ρ} {raw table : Table}
  {kind : ResultKind} {options : QueryOptions} {whole : List (Field × List Cell)}

private theorem results_used {filter : Option String} {options : ResultsOptions}
    (prunes : options.omitUnused = true)
    (given : Gives (session.results filter options) before table after) : AllUsed table := by
  obtain ⟨_, raw, _, ⟨_, _, read⟩, rows, kept, rfl⟩ := gives_results.mp ⟨after, given⟩
  have rectangular := (read_parsed read).rectangular
  rw [if_pos prunes]
  cases kinds : options.rowKinds with
  | none =>
    rw [kinds] at kept
    cases kept
    exact prune_used rectangular
  | some named =>
    rw [kinds] at kept
    exact prune_used (filterByKinds_rectangular rectangular kept)

/-- The column that the values of scalars are converted from: the first of that name with a value
in their rows. -/
def valueColumn? (raw : Table) : Option (Field × List Cell) :=
  (kept true (leading (resultRows raw .scalar))).find? fun column => column.1.name == Column.value

private theorem kept_append (prunes : Bool) (columns more : List (Field × List Cell)) :
    kept prunes (columns ++ more) = kept prunes columns ++ kept prunes more := by
  rw [kept, kept, kept]
  split
  · exact List.filter_append columns more
  · rfl

/-- The guarantee of columns gives values that are all missing, and metadata has other names. -/
private theorem valueColumn?_eq (behind : Extends (Added raw .scalar options.inclusion)
      (leading (resultRows raw .scalar)) whole)
    (own : ¬ Supplied raw .scalar options.inclusion Column.value) :
    ((kept true whole).find? fun column => column.1.name == Column.value) = valueColumn? raw := by
  obtain ⟨added, rfl, fresh⟩ := behind
  have none : ((kept true added).find? fun column => column.1.name == Column.value) = none := by
    rw [List.find?_eq_none]
    intro column member named
    have named : column.1.name = Column.value := by simpa using named
    obtain ⟨free, ⟨name, _, rfl⟩ | marked | supplied⟩ := fresh column (mem_kept member)
    · obtain ⟨cell, inside, filled⟩ := kept_used member
      cases List.eq_of_mem_replicate inside
      cases named
      cases filled
    · rw [named] at marked
      exact absurd marked (by decide)
    · rw [named] at free supplied
      exact own ⟨free, supplied⟩
  rw [kept_append, List.find?_append, none, Option.or_none, valueColumn?]

private theorem numbers_converted {cell : Cell} (number : ∃ value, cell = .number value) :
    converted cell = cell := by
  obtain ⟨value, rfl⟩ := number
  rfl

private theorem typed_valueColumn (parsed : Parsed raw) (typed : raw.contains Column.type = true)
    (once : raw.names.count Column.value ≤ 1) {column : Field × List Cell}
    (found : valueColumn? raw = some column) : ∃ cell ∈ column.2, (converted cell).isMissing = false := by
  have member := List.mem_of_find?_eq_some found
  have named : column.1.name = Column.value := by simpa using List.find?_some found
  have inside : column ∈ (resultRows raw .scalar).columns := (List.mem_filter.mp (mem_kept member)).1
  have shape := Columnar.of_rectangular (resultRows_rectangular parsed.rectangular .scalar)
  have names : raw.names = namesOf (resultRows raw .scalar).columns := by
    rw [← shape.names, Table.names, Table.names, resultRows_fields]
  have single : (namesOf (resultRows raw .scalar).columns).count Column.value = 1 := by
    have some := List.count_pos_iff.mpr (named ▸ List.mem_map_of_mem inside :
      Column.value ∈ namesOf (resultRows raw .scalar).columns)
    rw [names] at once
    omega
  obtain ⟨only, _, _, each⟩ := column_once single
  have source : (resultRows raw .scalar).column? Column.value = some column.2 := by
    rw [shape.column?]
    cases first : (resultRows raw .scalar).columns.find? fun column => column.1.name == Column.value with
    | none => exact absurd named (by simpa using List.find?_eq_none.mp first column inside)
    | some other =>
      have same : other.1.name = Column.value := by simpa using List.find?_some first
      rw [each other (List.mem_of_find?_eq_some first) same, ← each column inside named]
      rfl
  obtain ⟨cell, among, filled⟩ := kept_used member
  exact ⟨cell, among, by rw [numbers_converted (typed_values parsed typed source cell among), filled]⟩

private theorem values_used (made : MadeFrom .scalar options raw table whole) (prunes : options.omitUnused = true) :
    (∀ cells, table.column? Column.value = some cells → Used cells) ↔ ∀ column,
      ((kept true whole).find? fun column => column.1.name == Column.value) = some column →
        ∃ cell ∈ column.2, (converted cell).isMissing = false := by
  rw [made.shape.column?, prunes, numericIf, find?_atFirst numericColumn fun _ => rfl]
  cases (kept true whole).find? fun column => column.1.name == Column.value with
  | none => simp
  | some column => simp [numericColumn, Used]

/-- After pruning, a query for results of a kind has an unused column only where the values of
scalars were converted. -/
theorem made_used (made : MadeFrom kind options raw table whole) (prunes : options.omitUnused = true) :
    AllUsed table ↔ (kind = .scalar → ∀ column,
      ((kept true whole).find? fun column => column.1.name == Column.value) = some column →
        ∃ cell ∈ column.2, (converted cell).isMissing = false) := by
  have used : ∀ column ∈ kept true whole, Used column.2 := fun _ => kept_used
  rw [AllUsed, made.shape.columns, prunes]
  by_cases scalar : kind = .scalar
  · subst scalar
    rw [numericIf, atFirst_used used]
    simp [numericColumn, Used]
  · refine iff_of_true ?_ (fun same => absurd same scalar)
    cases kind with
    | scalar => exact absurd rfl scalar
    | _ => exact used

end Queries

/-- After pruning, every column of a query has a value, unless it is the column of the values of
scalars. That one has a value exactly if one of its cells was converted to a number, as always where
the export has a type column and its values in one column. -/
theorem pruned_queries {σ ρ : Type} (session : Session σ ρ) (before after : Journal σ ρ) (table : Table) :
    (∀ filter options, options.omitUnused = true →
      Gives (session.results filter options) before table after → AllUsed table) ∧
    ∀ kind filter options, options.omitUnused = true →
      Gives (session.resultsOfKind kind filter options) before table after →
        ∃ raw next, Exports session kind.kind filter (options.extras.restricted kind) before.tool raw next ∧
          (AllUsed table ↔ (kind = .scalar →
            ∀ cells, table.column? Column.value = some cells → Used cells)) ∧
          (¬ Supplied raw .scalar options.inclusion Column.value →
            (AllUsed table ↔ (kind = .scalar → ∀ column, valueColumn? raw = some column →
              ∃ cell ∈ column.2, (converted cell).isMissing = false)) ∧
            (raw.contains Column.type = true → raw.names.count Column.value ≤ 1 → AllUsed table)) := by
  refine ⟨fun _ _ prunes given => results_used prunes given, ?_⟩
  intro kind filter options prunes given
  obtain ⟨raw, next, whole, exports, made⟩ := resultsOfKind_made given
  have used := made_used made prunes
  refine ⟨raw, next, exports, ?_, ?_⟩
  · rw [used]
    apply imp_congr_right
    intro scalar
    subst scalar
    exact (values_used made prunes).symm
  · intro own
    have exact : AllUsed table ↔ (kind = .scalar → ∀ column, valueColumn? raw = some column →
        ∃ cell ∈ column.2, (converted cell).isMissing = false) := by
      rw [used]
      apply imp_congr_right
      intro scalar
      subst scalar
      rw [valueColumn?_eq made.behind own]
    refine ⟨exact, ?_⟩
    intro typed once
    exact exact.mpr fun _ column found => typed_valueColumn made.parsed typed once found

def sampleExport : String := "run,type,module,name,value,mean\nr0,scalar,m,s,nan,\nr0,scalar,m,t,2,\n"

def sampleRaw : Table where
  fields := ["runID", "type", "module", "name", "value", "mean"].map .declared
  rows := [[.text "r0", .text "scalar", .text "m", .text "s", .number Number.notANumber,
      .number Number.notANumber],
    [.text "r0", .text "scalar", .text "m", .text "t", .number 2, .number Number.notANumber]]

def sampleScalars : Table where
  fields := ["runID", "module", "name"].map .declared ++ [⟨Column.value, .number⟩]
  rows := [[.text "r0", .text "m", .text "s", .number Number.notANumber],
    [.text "r0", .text "m", .text "t", .number 2]]

def sampleResults : Table where
  fields := ["runID", "type", "module", "name", "value"].map .declared
  rows := [[.text "r0", .text "scalar", .text "m", .text "s", .number Number.notANumber],
    [.text "r0", .text "scalar", .text "m", .text "t", .number 2]]

theorem pruned_queries_scalars :
    (∃ after, Gives (scriptedSession.results none { omitUnused := true }) (scripted sampleExport "")
      sampleResults after ∧ AllUsed sampleResults) ∧
    ∃ after, Gives (scriptedSession.resultsOfKind .scalar none { omitUnused := true })
        (scripted sampleExport "") sampleScalars after ∧
      ¬ Supplied sampleRaw .scalar {} Column.value ∧ sampleRaw.contains Column.type = true ∧
      sampleRaw.names.count Column.value ≤ 1 ∧ AllUsed sampleScalars := by
  refine ⟨?_, ?_⟩
  · have given : Gives (scriptedSession.results none { omitUnused := true }) (scripted sampleExport "")
        sampleResults _ := gives_of_outcome (by decide +kernel)
    exact ⟨_, given, (pruned_queries _ _ _ _).1 _ _ rfl given⟩
  · have given : Gives (scriptedSession.resultsOfKind .scalar none { omitUnused := true })
        (scripted sampleExport "") sampleScalars _ := gives_of_outcome (by decide +kernel)
    obtain ⟨raw, next, ⟨stdout, ⟨output, ran, _, same⟩, read⟩, _, unlessSupplied⟩ :=
      (pruned_queries _ _ _ _).2 .scalar _ _ rfl given
    cases ran
    cases same
    have known : Export.read (Text.encode sampleExport) = .ok sampleRaw := by decide +kernel
    cases known.symm.trans read
    have own : ¬ Supplied sampleRaw .scalar {} Column.value := fun supplied => supplied.1 (by decide)
    have typed : sampleRaw.contains Column.type = true := by decide
    have once : sampleRaw.names.count Column.value ≤ 1 := by decide
    exact ⟨_, given, own, typed, once, (unlessSupplied own).2 typed once⟩

def untypedScalars : Table where
  fields := ["runID", "module", "name"].map .declared ++ [⟨Column.value, .number⟩]
  rows := [[.text "r0", .text "m", .text "s", .number Number.notANumber]]

/-- Without a type column a value that is written as nan becomes missing only after pruning. -/
theorem untyped_values_unused :
    ∃ after, Gives (scriptedSession.resultsOfKind .scalar none { omitUnused := true })
        (scripted "run,module,name,value\nr0,m,s,nan\n" "") untypedScalars after ∧
      ¬ AllUsed untypedScalars := by
  refine ⟨_, gives_of_outcome (by decide +kernel), ?_⟩
  intro used
  obtain ⟨cell, member, filled⟩ := used (⟨Column.value, .number⟩, [.number Number.notANumber]) (by decide)
  cases List.mem_singleton.mp member
  exact absurd filled (by decide +kernel)

end SimResults.Proofs.Pruning
