import SimResults.Proofs.ResultTables

/-! When queries succeed. Beyond the arguments, the runs of the tool and the form of its output,
two things can stand in the way: attributes that do not say what they belong to, and values that
are no numbers where no row is told to be a scalar. -/

namespace SimResults.Proofs.QueryAcceptance
open TableColumns NumericColumns ParsedExports Joining SessionRuns MetadataMerging ResultTables

/-- If attributes are wanted and there are any, they say which results they belong to. -/
def AttributesAttach (raw : Table) (inclusion : Inclusion) : Prop :=
  inclusion.attributes = true → ∀ position, raw.position? Column.type = some position →
    (∃ row ∈ raw.rows, Kind.ofCell? (row.cell position) = some .attribute) →
      ∀ name ∈ attributeColumns, raw.contains name

/-- Without kinds of rows, the values of scalars are empty or spell numbers. -/
def ValuesSpell (raw : Table) (kind : ResultKind) : Prop :=
  kind = .scalar → raw.contains Column.type = false →
    ∀ cells, raw.column? Column.value = some cells → ∀ cell ∈ cells,
      cell = .null ∨ ∃ text value, cell = .text text ∧ Cell.numberOf text = .ok value

variable {raw : Table}

private theorem attributeRows?_eq_some {inclusion : Inclusion} :
    (∃ attributes, attributeRows? raw inclusion = some attributes) ↔
      inclusion.attributes = true ∧ ∃ position, raw.position? Column.type = some position ∧
        ∃ row ∈ raw.rows, Kind.ofCell? (row.cell position) = some .attribute := by
  have some_row : ∀ position, (raw.keepKinds position [.attribute]).isEmpty = false ↔
      ∃ row ∈ raw.rows, Kind.ofCell? (row.cell position) = some .attribute := by
    intro position
    rw [Table.isEmpty, Table.keepKinds, Table.keepRows, List.isEmpty_eq_false_iff_exists_mem]
    simp only [List.mem_filter]
    constructor
    · intro given
      obtain ⟨row, member, known⟩ := given
      refine ⟨row, member, ?_⟩
      cases kind : Kind.ofCell? (row.cell position) with
      | none => simp [kind] at known
      | some kind => simpa [kind] using known
    · intro given
      obtain ⟨row, member, known⟩ := given
      exact ⟨row, member, by simp [known]⟩
  rw [attributeRows?]
  simp only [Option.filter_eq_some_iff, Option.map_eq_some_iff, Bool.and_eq_true, Bool.not_eq_true',
    ← some_row]
  constructor
  · intro given
    obtain ⟨_, ⟨position, typed, rfl⟩, wanted, filled⟩ := given
    exact ⟨wanted, position, typed, filled⟩
  · intro given
    obtain ⟨wanted, position, typed, filled⟩ := given
    exact ⟨_, ⟨position, typed, rfl⟩, wanted, filled⟩

theorem attach_iff {inclusion : Inclusion} (rectangular : raw.Rectangular) (kind : Kind) :
    (∃ extended, withAttributes raw kind inclusion = .ok extended) ↔ AttributesAttach raw inclusion := by
  rw [withAttributes_succeeds rectangular]
  constructor
  · intro complete wanted position typed present
    obtain ⟨attributes, found⟩ := attributeRows?_eq_some.mpr ⟨wanted, position, typed, present⟩
    exact complete attributes found
  · intro complete attributes found
    obtain ⟨wanted, position, typed, present⟩ := attributeRows?_eq_some.mp ⟨attributes, found⟩
    exact complete wanted position typed present

section Values

variable {cells : List Cell}

private theorem resultRows_untyped (kind : Kind) (untyped : raw.contains Column.type = false) :
    resultRows raw kind = raw := by
  have absent : raw.position? Column.type = none := by simpa [Table.contains] using untyped
  rw [resultRows, Table.splitAttributes, absent]

/-- The values of scalars stay in the only column of that name, unless pruning has removed it. -/
private theorem value_column (parsed : Parsed raw) (once : raw.names.count Column.value = 1) {kind : Kind}
    {inclusion : Inclusion} {whole : List (Field × List Cell)}
    (behind : Extends (Added raw kind inclusion) (leading (resultRows raw kind)) whole) (prunes : Bool) :
    ∃ column, (resultRows raw kind).column? Column.value = some column.2 ∧
      ((kept prunes whole).find? (fun column => column.1.name == Column.value) = some column ∨
        (kept prunes whole).find? (fun column => column.1.name == Column.value) = none ∧
          ∀ cell ∈ column.2, cell.isMissing = true) := by
  have shape := Columnar.of_rectangular (resultRows_rectangular parsed.rectangular kind)
  have names : raw.names = namesOf (resultRows raw kind).columns := by
    rw [← shape.names, Table.names, Table.names, resultRows_fields]
  rw [names] at once
  obtain ⟨column, member, named, only⟩ := column_once once
  have first : column ∈ leading (resultRows raw kind) :=
    List.mem_filter.mpr ⟨member, by rw [named]; decide⟩
  have known : Column.value ∈ namesOf (leading (resultRows raw kind)) :=
    named ▸ List.mem_map_of_mem first
  have unique : ∀ other ∈ whole, other.1.name = Column.value → other = column := by
    intro other inside same
    rcases behind.member inside with front | ⟨fresh, _⟩
    · exact only other (List.mem_filter.mp front).1 same
    · exact absurd (same ▸ known) fresh
  refine ⟨column, ?_, ?_⟩
  · rw [shape.column? Column.value]
    cases found : (resultRows raw kind).columns.find? fun column => column.1.name == Column.value with
    | none => exact absurd named (by simpa using List.find?_eq_none.mp found column member)
    | some other =>
      have same : other.1.name = Column.value := by simpa using List.find?_some found
      rw [only other (List.mem_of_find?_eq_some found) same]
      rfl
  · cases found : (kept prunes whole).find? fun column => column.1.name == Column.value with
    | some other =>
      have same : other.1.name = Column.value := by simpa using List.find?_some found
      have inside := mem_kept (List.mem_of_find?_eq_some found)
      exact .inl (by rw [unique other inside same])
    | none =>
      refine .inr ⟨rfl, ?_⟩
      by_contra filled
      have stays : column ∈ kept prunes whole := by
        rw [kept]
        split
        · exact List.mem_filter.mpr ⟨behind.within.subset first, by simpa using filled⟩
        · exact behind.within.subset first
      exact absurd named (by simpa using List.find?_eq_none.mp found column stays)

theorem typed_values (parsed : Parsed raw) (typed : raw.contains Column.type = true)
    (found : (resultRows raw .scalar).column? Column.value = some cells) :
    ∀ cell ∈ cells, ∃ value, cell = .number value := by
  obtain ⟨position, there⟩ := Option.isSome_iff_exists.mp typed
  rw [resultRows, Table.splitAttributes, there] at found
  obtain ⟨column, valued, rfl⟩ := Option.map_eq_some_iff.mp found
  intro cell member
  obtain ⟨row, filtered, rfl⟩ := List.mem_map.mp member
  obtain ⟨inside, scalar⟩ := List.mem_filter.mp filtered
  apply parsed.scalars position there column valued row inside
  cases known : Kind.ofCell? (row.cell position) with
  | none => simp [known] at scalar
  | some kind => simpa [known] using scalar

private theorem untyped_values (parsed : Parsed raw) (untyped : raw.contains Column.type = false)
    (found : raw.column? Column.value = some cells) :
    ∀ cell ∈ cells, cell = .null ∨ ∃ text, text ≠ "" ∧ cell = .text text := by
  obtain ⟨column, valued, rfl⟩ := Option.map_eq_some_iff.mp found
  intro cell member
  obtain ⟨row, inside, rfl⟩ := List.mem_map.mp member
  exact parsed.untyped (by simpa [Table.contains] using untyped) column valued row inside

private theorem floatOf?_written {cell : Cell} (written : cell = .null ∨ ∃ text, text ≠ "" ∧ cell = .text text) :
    (floatOf? cell).isSome ↔
      cell = .null ∨ ∃ text value, cell = .text text ∧ Cell.numberOf text = .ok value := by
  rcases written with rfl | ⟨text, filled, rfl⟩
  · simp [floatOf?]
  · have nonempty : text.isEmpty = false := by simpa using filled
    rw [floatOf?, nonempty]
    cases spelled : Cell.numberOf text <;> simp [spelled, Except.toOption]

/-- The last steps fail for no other reason than values that cannot be converted. -/
theorem finished_iff (parsed : Parsed raw) {kind : ResultKind}
    (once : kind = .scalar → raw.names.count Column.value = 1) {inclusion : Inclusion}
    {whole : List (Field × List Cell)} {height : Nat} {merged : Table} (prunes : Bool)
    (behind : Extends (Added raw kind.kind inclusion) (leading (resultRows raw kind.kind)) whole)
    (shape : Columnar (merged.finalize kind.kind.mandatoryColumns prunes) (kept prunes whole) height) :
    (∃ table, finished kind prunes merged = .ok table) ↔ ValuesSpell raw kind := by
  by_cases scalar : kind = .scalar
  · subst scalar
    obtain ⟨column, source, result⟩ := value_column parsed (once rfl) behind prunes
    rw [finished, toNumeric_succeeds, shape.column? Column.value]
    by_cases typed : raw.contains Column.type = true
    · -- The rows are scalars, whose values were read as numbers.
      refine iff_of_true ?_ (fun _ untyped => by simp [typed] at untyped)
      intro cells found cell member
      rcases result with first | ⟨absent, _⟩
      · rw [first] at found
        cases found
        obtain ⟨value, rfl⟩ := typed_values parsed typed source cell member
        rfl
      · rw [absent] at found
        cases found
    · have untyped : raw.contains Column.type = false := by simpa using typed
      have all := resultRows_untyped Kind.scalar untyped
      change (resultRows raw .scalar).column? Column.value = _ at source
      rw [all] at source
      have written := untyped_values parsed untyped source
      rcases result with first | ⟨absent, missing⟩
      · rw [first]
        constructor
        · intro readable _ _ cells found cell member
          cases source.symm.trans found
          exact (floatOf?_written (written cell member)).mp (readable _ rfl cell member)
        · intro spells cells found cell member
          cases found
          exact (floatOf?_written (written cell member)).mpr (spells rfl untyped _ source cell member)
      · rw [absent]
        refine iff_of_true (by simp) ?_
        intro _ _ cells found cell member
        cases source.symm.trans found
        rcases written cell member with empty | ⟨text, _, rfl⟩
        · exact .inl empty
        · cases missing _ member
  · refine iff_of_true ?_ (fun same => absurd same scalar)
    cases kind with
    | scalar => exact absurd rfl scalar
    | _ => exact ⟨_, rfl⟩

end Values

section Queries

variable {σ ρ : Type} {session : Session σ ρ} {before : Journal σ ρ}

private theorem metadata_succeeds {query : MetadataQuery} {filter : String} {inclusion : Inclusion} :
    (∃ table after, Gives (session.metadata query filter inclusion) before table after) ↔
      Accepts session (some filter) ∧ ∃ main next, Lists session query filter before.tool main next ∧
        Delivers session (wanted inclusion) next := by
  simp only [gives_metadata, ← queries_eq]
  constructor
  · intro ⟨table, accepted, main, next, lists, after, merging⟩
    obtain ⟨shape, keyed⟩ := lists_keyed lists
    have delivers := (merge_succeeds shape keyed (fun _ => queries_layout) accepted.auxiliary).mp
      ⟨table, after, merging⟩
    rw [listed_tool] at delivers
    exact ⟨accepted, main, next, lists, delivers⟩
  · intro ⟨accepted, main, next, lists, delivers⟩
    obtain ⟨shape, keyed⟩ := lists_keyed lists
    rw [← listed_tool query.name query filter main next before] at delivers
    obtain ⟨table, after, merging⟩ :=
      (merge_succeeds shape keyed (fun _ => queries_layout) accepted.auxiliary).mpr delivers
    exact ⟨table, accepted, main, next, lists, after, merging⟩

variable {kind : ResultKind} {filter : Option String} {options : QueryOptions}

private theorem results_succeed
    (once : kind = .scalar → ∀ raw next,
      Exports session kind.kind filter (options.extras.restricted kind) before.tool raw next →
        raw.names.count Column.value = 1) :
    (∃ table after, Gives (session.resultsOfKind kind filter options) before table after) ↔
      Accepts session filter ∧ ∃ raw next,
        Exports session kind.kind filter (options.extras.restricted kind) before.tool raw next ∧
        AttributesAttach raw options.inclusion ∧ ValuesSpell raw kind ∧
        Delivers session (wanted options.inclusion) next := by
  simp only [gives_resultsOfKind, ← queries_eq]
  constructor
  · intro given
    obtain ⟨table, accepted, raw, next, exports, extended, attached, merged, middle, merging,
      finishes⟩ := given
    have ⟨_, _, read⟩ := exports
    have parsed := read_parsed read
    obtain ⟨_, shape, _, keyed⟩ := withAttributes_extends parsed.rectangular attached
    obtain ⟨_, whole, first⟩ := merged_extends parsed.rectangular attached merging
    obtain ⟨_, complete, behind⟩ := finalize_extends whole first options.omitUnused
    have delivers := (merge_succeeds shape (keyed Column.runID (by decide)) (fun _ => queries_layout)
      accepted.auxiliary).mp ⟨merged, middle, merging⟩
    have spells := (finished_iff parsed (fun scalar => once scalar raw next exports) _ behind complete).mp
      ⟨table, finishes⟩
    have attach := (attach_iff parsed.rectangular kind.kind).mp ⟨extended, attached⟩
    exact ⟨accepted, raw, next, exports, attach, spells, delivers⟩
  · intro ⟨accepted, raw, next, exports, attach, spells, delivers⟩
    have ⟨_, _, read⟩ := exports
    have parsed := read_parsed read
    obtain ⟨extended, attached⟩ := (attach_iff parsed.rectangular kind.kind).mpr attach
    obtain ⟨_, shape, _, keyed⟩ := withAttributes_extends parsed.rectangular attached
    change Delivers session _
      (exported session kind.kind filter (options.extras.restricted kind) next before).tool at delivers
    obtain ⟨merged, middle, merging⟩ := (merge_succeeds shape (keyed Column.runID (by decide))
      (fun _ => queries_layout) accepted.auxiliary).mpr delivers
    obtain ⟨_, whole, first⟩ := merged_extends parsed.rectangular attached merging
    obtain ⟨_, complete, behind⟩ := finalize_extends whole first options.omitUnused
    obtain ⟨table, finishes⟩ :=
      (finished_iff parsed (fun scalar => once scalar raw next exports) _ behind complete).mpr spells
    exact ⟨table, accepted, raw, next, exports, extended, attached, merged, middle, merging, finishes⟩

end Queries

/-- Queries succeed exactly under these conditions, whatever the tool does. -/
theorem queries_succeed_iff {σ ρ : Type} (session : Session σ ρ) (before : Journal σ ρ) :
    (∀ kind filter options,
      (kind = .scalar → ∀ raw next,
        Exports session kind.kind filter (options.extras.restricted kind) before.tool raw next →
          raw.names.count Column.value = 1) →
      ((∃ table after, Gives (session.resultsOfKind kind filter options) before table after) ↔
        Accepts session filter ∧ ∃ raw next,
          Exports session kind.kind filter (options.extras.restricted kind) before.tool raw next ∧
          AttributesAttach raw options.inclusion ∧ ValuesSpell raw kind ∧
          Delivers session (wanted options.inclusion) next)) ∧
    (∀ query filter inclusion,
      (∃ table after, Gives (session.metadata query filter inclusion) before table after) ↔
        Accepts session (some filter) ∧ ∃ main next, Lists session query filter before.tool main next ∧
          Delivers session (wanted inclusion) next) :=
  ⟨fun _ _ _ once => results_succeed once, fun _ _ _ => metadata_succeeds⟩

def sample : Journal (List Rule) Unit :=
  scripted "run,type,module,name,attrname,attrvalue,value\nr0,scalar,m,s,,,1.5\nr0,attr,m,s,unit,ms,\n"
    "r0\tN\t3\n"

def sampleInclusion : Inclusion := { attributes := true, iterationVariables := true }

def sampleScalars : Table where
  fields := [⟨Column.runID, .text⟩, ⟨Column.module, .text⟩, ⟨Column.name, .text⟩, ⟨Column.value, .number⟩,
    ⟨"unit", .text⟩, ⟨"N_itervar", .text⟩]
  rows := [[.text "r0", .text "m", .text "s", .number 1.5, .text "ms", .text "3"]]

private theorem sample_values {raw : Table} {next : List Rule}
    (exports : Exports scriptedSession (some Kind.scalar) none {} sample.tool raw next) :
    raw.names.count Column.value = 1 := by
  obtain ⟨stdout, ⟨output, answered, _, same⟩, read⟩ := exports
  cases answered
  cases same
  have counted : (Export.read (Text.encode
      "run,type,module,name,attrname,attrvalue,value\nr0,scalar,m,s,,,1.5\nr0,attr,m,s,unit,ms,\n")).map
        (fun raw => raw.names.count Column.value) = .ok 1 := by decide +kernel
  rw [read] at counted
  exact Except.ok.inj counted

theorem queries_succeed_iff_attribute :
    (∀ raw next, Exports scriptedSession (some Kind.scalar) none {} sample.tool raw next →
      raw.names.count Column.value = 1) ∧
    Accepts scriptedSession none ∧ ∃ raw next,
      Exports scriptedSession (some Kind.scalar) none {} sample.tool raw next ∧
      AttributesAttach raw sampleInclusion ∧ ValuesSpell raw .scalar ∧
      Delivers scriptedSession (wanted sampleInclusion) next := by
  have once : ∀ raw next, Exports scriptedSession (some Kind.scalar) none {} sample.tool raw next →
      raw.names.count Column.value = 1 := fun _ _ => sample_values
  have given : Gives (scriptedSession.resultsOfKind .scalar none { inclusion := sampleInclusion }) sample
      sampleScalars _ := gives_of_outcome (by decide +kernel)
  have accepted := (queries_succeed_iff scriptedSession sample).1 .scalar none
    { inclusion := sampleInclusion } fun _ => once
  exact ⟨once, accepted.mp ⟨_, _, given⟩⟩

end SimResults.Proofs.QueryAcceptance
