import SimResults.Proofs.ItemProjection

/-! Items of a whole export. The projection looks columns up and reads numbers anew, on cells that
have already been coerced and brought into the form of their kind. Nothing is left for it to find
wrong in them but the kind and the run of a row. -/

namespace SimResults.Proofs.ExportItems
open Outcomes TableColumns ExportCells ParsedExports ItemProjection

def unlessEmpty (raw : String) : Option String := if raw.isEmpty then none else some raw

/-- The text of a record in the first column of a name, unless it is empty. -/
def written? (names record : List String) (name : String) : Option String :=
  (textIn? names record name).bind unlessEmpty

/-- Nothing written is no number. -/
def SpellsNumber (names record : List String) (name : String) (value : Float) : Prop :=
  match written? names record name with
  | none => value = Number.notANumber
  | some raw => Cell.numberOf raw = .ok value

def SpellsInteger (names record : List String) (name : String) (value? : Option Int64) : Prop :=
  match written? names record name with
  | none => value? = none
  | some raw => ∃ value, value? = some value ∧ Number.readInteger (Text.trimmed raw.toList) = .ok value

def SpellsArray (names record : List String) (name : String) (values : List Float) : Prop :=
  match written? names record name with
  | none => values = []
  | some raw => Cell.readElements (Text.words raw.toList) = .ok values

structure SpellsStatistics (names record : List String) (statistics : Statistics) : Prop where
  count : SpellsInteger names record Column.count statistics.count
  sumweights : SpellsNumber names record Column.sumweights statistics.sumweights
  mean : SpellsNumber names record Column.mean statistics.mean
  stddev : SpellsNumber names record Column.stddev statistics.stddev
  min : SpellsNumber names record Column.min statistics.min
  max : SpellsNumber names record Column.max statistics.max

/-- What an item holds is what the raw cells of its record spell. -/
def SpellsPayload (names record : List String) : Payload → Prop
  | .scalar value => SpellsNumber names record Column.value value
  | .vector times values =>
    SpellsArray names record Column.vectime times ∧ SpellsArray names record Column.vecvalue values
  | .statistic statistics => SpellsStatistics names record statistics
  | .histogram statistics underflows overflows edges values =>
    SpellsStatistics names record statistics ∧
      SpellsNumber names record Column.underflows underflows ∧
      SpellsNumber names record Column.overflows overflows ∧
      SpellsArray names record Column.binedges edges ∧ SpellsArray names record Column.binvalues values
  | .parameter value => value = written? names record Column.value
  | .attribute content | .runAttribute content | .iterationVariable content | .configEntry content =>
    content = ⟨written? names record Column.attrname, written? names record Column.attrvalue⟩

/-- Runs are looked up by the name that the table has for them. -/
def writtenRun? (names record : List String) : Option String :=
  written? (tableNames names) record Column.runID

structure SpellsItem (names record : List String) (item : Item) : Prop where
  run : writtenRun? names record = some item.run
  module : item.module = written? names record Column.module
  name : item.name = written? names record Column.name
  kind : kindOf? names record = some item.payload.kind
  payload : SpellsPayload names record item.payload

/-- Why a record gives no item. Only its kind and its run can be the cause. -/
inductive Refusal (names record : List String) (number : Nat) : Failure → Prop
  | noType (empty : written? names record Column.type = none) :
    Refusal names record number (.schemaMismatch (.noType number))
  | unknownType (tag : String) (given : written? names record Column.type = some tag)
    (unknown : Kind.ofTag? tag = none) :
    Refusal names record number (.schemaMismatch (.unknownType number tag))
  | noRun (typed : (kindOf? names record).isSome) (empty : writtenRun? names record = none) :
    Refusal names record number (.schemaMismatch (.missingCell number
      (if Column.runID ∈ tableNames names then Column.runID else Column.run)))

def Projects (names record : List String) : Prop :=
  (kindOf? names record).isSome ∧ (writtenRun? names record).isSome

/-- The failure of the first record that gives no item; the number is that of the first record. -/
inductive FirstRefusal (names : List String) : Nat → List (List String) → Failure → Prop
  | here {number record rest failure} (refusal : Refusal names record number failure) :
    FirstRefusal names number (record :: rest) failure
  | later {number record rest failure} (projects : Projects names record)
    (first : FirstRefusal names (number + 1) rest failure) :
    FirstRefusal names number (record :: rest) failure

private theorem SpellsItem.projects {names record : List String} {item : Item}
    (spells : SpellsItem names record item) : Projects names record :=
  ⟨by rw [spells.kind]; rfl, by rw [spells.run]; rfl⟩

private theorem kindOf?_written (names record : List String) :
    kindOf? names record = (written? names record Column.type).bind Kind.ofTag? := by
  rw [kindOf?, written?]
  cases textIn? names record Column.type with
  | none => rfl
  | some tag =>
    rw [Option.bind_some, Option.bind_some, unlessEmpty]
    split
    next empty => rw [String.isEmpty_iff.mp empty]; rfl
    next => rfl

private theorem Refusal.not_projects {names record : List String} {number : Nat} {failure : Failure}
    (refusal : Refusal names record number failure) : ¬ Projects names record := by
  intro ⟨typed, run⟩
  cases refusal with
  | noType empty => simp [kindOf?_written, empty] at typed
  | unknownType tag given unknown => simp [kindOf?_written, given, unknown] at typed
  | noRun _ empty => simp [empty] at run

section Cells

variable {names record : List String} {row : Row} (number : Nat) {name : String}

def viewOf (names : List String) (row : Row) (number : Nat) : RowView :=
  ⟨(tableNames names).map Field.declared, row, number⟩

/-- Apart from runs, columns are found by the names of the header. -/
private theorem cell?_written (names record : List String) (row : Row) (number : Nat) (name : String)
    (short : name ≠ Column.run) (long : name ≠ Column.runID) :
    ((viewOf names row number).cell? name = none ∧ written? names record name = none) ∨
      ∃ column, names.findIdx? (· == name) = some column ∧
        (viewOf names row number).cell? name = some (row.cell column) ∧
        written? names record name = unlessEmpty (record.getD column "") := by
  rw [RowView.cell?, viewOf, positionIn?_declared, tableNames_findIdx? short long, written?, textIn?]
  cases names.findIdx? (· == name) with
  | none => exact .inl ⟨rfl, rfl⟩
  | some column => exact .inr ⟨column, rfl, rfl, rfl⟩

private theorem run_renamed {names : List String} (member : Column.run ∈ tableNames names) :
    Column.runID ∈ tableNames names := by
  induction names with
  | nil => cases member
  | cons name names ih =>
    rw [tableNames] at member ⊢
    split
    next => exact List.mem_cons_self
    next other =>
      rw [if_neg other] at member
      rcases List.mem_cons.mp member with same | later
      · exact absurd same.symm other
      · exact List.mem_cons_of_mem _ (ih later)

private theorem key?_ofText (raw : String) : (Cell.ofText raw).key? = unlessEmpty raw := by
  rw [Cell.ofText, unlessEmpty]
  split <;> rfl

/-- Outside the values of scalars, text and generic columns hold what was written. -/
private theorem cell_text (described : DescribesRow names record row) {column : Nat}
    (inside : column < names.length) (named : names.getD column "" = name)
    (type : ColumnType.ofName name = .text ∨ ColumnType.ofName name = .generic)
    (scalar : kindOf? names record = some .scalar → name ≠ Column.value) :
    row.cell column = Cell.ofText (record.getD column "") := by
  have read := described.cells column inside
  have array : ColumnType.ofName name ≠ .array := by rcases type with same | same <;> simp [same]
  rw [cellOf_plain named array scalar] at read
  rcases type with same | same <;> rw [same] at read <;> exact (Except.ok.inj read).symm

private theorem text?_written (described : DescribesRow names record row) (short : name ≠ Column.run)
    (long : name ≠ Column.runID)
    (type : ColumnType.ofName name = .text ∨ ColumnType.ofName name = .generic)
    (scalar : kindOf? names record = some .scalar → name ≠ Column.value) :
    (viewOf names row number).text? name = written? names record name := by
  rw [RowView.text?]
  rcases cell?_written names record row number name short long with
    ⟨absent, nothing⟩ | ⟨column, first, found, same⟩
  · rw [absent, nothing]
    rfl
  · obtain ⟨inside, named⟩ := first_column first
    rw [found, same, Option.bind_some, cell_text described inside named type scalar, key?_ofText]

private theorem text?_declared (described : DescribesRow names record row) (short : name ≠ Column.run)
    (long : name ≠ Column.runID) (type : ColumnType.ofName name = .text) :
    (viewOf names row number).text? name = written? names record name := by
  apply text?_written number described short long (.inl type)
  rintro _ rfl
  cases type

/-- The run column may have been renamed; both its names declare text. -/
private theorem text?_run (described : DescribesRow names record row) :
    (viewOf names row number).text? Column.runID = writtenRun? names record := by
  rw [RowView.text?, RowView.cell?, viewOf, positionIn?_declared, writtenRun?, written?, textIn?]
  cases first : (tableNames names).findIdx? (· == Column.runID) with
  | none => rfl
  | some column =>
    obtain ⟨inside, named⟩ := first_column first
    have found : (tableNames names)[column]? = some Column.runID := by
      rw [← named, List.getD_eq_getElem?_getD, List.getElem?_eq_getElem inside, Option.getD_some]
    obtain ⟨inside, type⟩ := ofName_tableNames found
    have other : names.getD column "" ≠ Column.value := by
      intro value
      rw [value] at type
      cases type
    rw [Option.map_some, Option.map_some, Option.bind_some, Option.bind_some,
      cell_text described inside rfl (.inl type) (fun _ => other), key?_ofText]

private theorem number?_spells (described : DescribesRow names record row)
    (type : ColumnType.ofName name = .number ∨
      kindOf? names record = some .scalar ∧ name = Column.value) :
    ∃ value, (viewOf names row number).number? name = .ok value ∧
      SpellsNumber names record name value := by
  have named : name ≠ Column.run ∧ name ≠ Column.runID := by
    rcases type with declared | ⟨_, rfl⟩
    · constructor <;> (rintro rfl; cases declared)
    · decide
  rcases cell?_written names record row number name named.1 named.2 with
    ⟨absent, nothing⟩ | ⟨column, first, found, same⟩
  · exact ⟨_, by rw [RowView.number?, absent], by simp only [SpellsNumber, nothing]⟩
  · have read : Cell.readNumber (record.getD column "") = .ok (row.cell column) := by
      rw [← described.cells column (first_column first).1]
      rcases type with declared | ⟨scalar, rfl⟩
      · have other : name ≠ Column.value := by rintro rfl; cases declared
        rw [cellOf_plain (first_column first).2 (by rw [declared]; decide) (fun _ => other), declared]
        rfl
      · rw [cellOf, if_pos ⟨scalar, leads_iff.mpr first⟩]
    simp only [RowView.number?, found, SpellsNumber, same, unlessEmpty]
    rw [Cell.readNumber] at read
    split at read
    next empty =>
      rw [← Except.ok.inj read]
      exact ⟨_, rfl, by rw [if_pos empty]⟩
    next filled =>
      obtain ⟨value, spelt, cell⟩ := map_eq_ok.mp read
      rw [← cell]
      exact ⟨value, rfl, by rw [if_neg filled]; exact spelt⟩

private theorem integer?_spells (described : DescribesRow names record row) :
    SpellsInteger names record Column.count ((viewOf names row number).integer? Column.count) := by
  rw [RowView.integer?]
  rcases cell?_written names record row number Column.count (by decide) (by decide) with
    ⟨absent, nothing⟩ | ⟨column, first, found, same⟩
  · simp only [absent, SpellsInteger, nothing]
    rfl
  · obtain ⟨inside, named⟩ := first_column first
    have read := described.cells column inside
    rw [cellOf_plain named (by decide) (fun _ => by decide)] at read
    change Cell.readInteger (record.getD column "") = _ at read
    simp only [found, SpellsInteger, same, unlessEmpty, Option.bind_some]
    rw [Cell.readInteger] at read
    split at read
    next empty =>
      rw [← Except.ok.inj read, if_pos empty]
      rfl
    next filled =>
      rw [if_neg filled]
      split at read
      next value spelt =>
        rw [← Except.ok.inj read]
        exact ⟨value, rfl, spelt⟩
      next => cases read

private theorem array_spells (described : DescribesRow names record row) {kind : Kind}
    (known : kindOf? names record = some kind) (member : name ∈ arrayColumns kind) :
    SpellsArray names record name ((viewOf names row number).array name) := by
  have array := ofName_arrayColumns member
  have named : name ≠ Column.run ∧ name ≠ Column.runID := by
    constructor <;> (rintro rfl; cases array)
  rw [RowView.array]
  rcases cell?_written names record row number name named.1 named.2 with
    ⟨absent, nothing⟩ | ⟨column, first, found, same⟩
  · simp only [absent, SpellsArray, nothing]
    rfl
  · obtain ⟨values, cell, spelt⟩ := describesRow_filled described known member first
    simp only [found, SpellsArray, same, unlessEmpty, Option.bind_some, cell]
    split at spelt
    next empty => rw [if_pos empty, spelt]; rfl
    next filled => rw [if_neg filled]; exact spelt

end Cells

section Rows

variable {names record : List String} {row : Row} (number : Nat)

private theorem statistics_spell (described : DescribesRow names record row) :
    ∃ statistics, (viewOf names row number).statistics = .ok statistics ∧
      SpellsStatistics names record statistics := by
  have each : ∀ name, ColumnType.ofName name = .number → ∃ value,
      (viewOf names row number).number? name = .ok value ∧ SpellsNumber names record name value :=
    fun name type => number?_spells number described (.inl type)
  obtain ⟨sumweights, first, sumweightsSpelt⟩ := each Column.sumweights rfl
  obtain ⟨mean, second, meanSpelt⟩ := each Column.mean rfl
  obtain ⟨stddev, third, stddevSpelt⟩ := each Column.stddev rfl
  obtain ⟨min, fourth, minSpelt⟩ := each Column.min rfl
  obtain ⟨max, fifth, maxSpelt⟩ := each Column.max rfl
  refine ⟨⟨_, sumweights, mean, stddev, min, max⟩, ?_,
    integer?_spells number described, sumweightsSpelt, meanSpelt, stddevSpelt, minSpelt, maxSpelt⟩
  rw [RowView.statistics, first, second, third, fourth, fifth]
  rfl

private theorem payload_spells (described : DescribesRow names record row) {kind : Kind}
    (known : kindOf? names record = some kind) :
    ∃ payload, (viewOf names row number).payload kind = .ok payload ∧
      SpellsPayload names record payload := by
  have number? : ∀ name, ColumnType.ofName name = .number → ∃ value,
      (viewOf names row number).number? name = .ok value ∧ SpellsNumber names record name value :=
    fun name type => number?_spells number described (.inl type)
  have array : ∀ name ∈ arrayColumns kind,
      SpellsArray names record name ((viewOf names row number).array name) :=
    fun name member => array_spells number described known member
  have content : (viewOf names row number).attributeContent =
      ⟨written? names record Column.attrname, written? names record Column.attrvalue⟩ := by
    rw [RowView.attributeContent,
      text?_declared number described (by decide) (by decide) rfl,
      text?_declared number described (by decide) (by decide) rfl]
  cases kind with
  | scalar =>
    obtain ⟨value, read, spelt⟩ := number?_spells number described (.inr ⟨known, rfl⟩)
    exact ⟨.scalar value, by rw [RowView.payload, read]; rfl, spelt⟩
  | vector => exact ⟨_, rfl, array _ (by decide), array _ (by decide)⟩
  | statistic =>
    obtain ⟨statistics, read, spelt⟩ := statistics_spell number described
    exact ⟨.statistic statistics, by rw [RowView.payload, read]; rfl, spelt⟩
  | histogram =>
    obtain ⟨statistics, first, statisticsSpelt⟩ := statistics_spell number described
    obtain ⟨underflows, second, underflowsSpelt⟩ := number? Column.underflows rfl
    obtain ⟨overflows, third, overflowsSpelt⟩ := number? Column.overflows rfl
    refine ⟨.histogram statistics underflows overflows _ _, ?_, statisticsSpelt, underflowsSpelt,
      overflowsSpelt, array _ (by decide), array _ (by decide)⟩
    rw [RowView.payload, first, second, third]
    rfl
  | parameter =>
    refine ⟨_, rfl, ?_⟩
    exact text?_written number described (by decide) (by decide) (.inr rfl) (by simp [known])
  | _ => exact ⟨_, rfl, content⟩

private theorem run_required (described : DescribesRow names record row) :
    (viewOf names row number).requireText (viewOf names row number).runColumn =
      match writtenRun? names record with
      | some run => .ok run
      | none => .error (.schemaMismatch (.missingCell number
          (if Column.runID ∈ tableNames names then Column.runID else Column.run))) := by
  have present : (positionIn? (viewOf names row number).fields Column.runID).isSome = true ↔
      Column.runID ∈ tableNames names := by
    rw [viewOf, positionIn?_declared, List.findIdx?_isSome, List.any_eq_true]
    simp
  by_cases long : Column.runID ∈ tableNames names
  · rw [RowView.runColumn, if_pos (present.mpr long), RowView.requireText, text?_run number described, if_pos long]
    rfl
  · have nothing : writtenRun? names record = none := by
      rw [writtenRun?, written?, textIn?, List.findIdx?_eq_none_iff.mpr]
      · rfl
      · intro name member
        exact beq_false_of_ne fun same => long (same ▸ member)
    rw [RowView.runColumn, if_neg fun found => long (present.mp found), nothing, if_neg long,
      RowView.requireText, RowView.text?, RowView.cell?, viewOf, positionIn?_declared,
      List.findIdx?_eq_none_iff.mpr]
    · rfl
    · intro name member
      exact beq_false_of_ne fun same => long (run_renamed (same ▸ member))

private theorem kind_written (typed : Column.type ∈ names) (described : DescribesRow names record row) :
    (viewOf names row number).kind none =
      match written? names record Column.type with
      | none => .error (.schemaMismatch (.noType number))
      | some tag =>
        match Kind.ofTag? tag with
        | some kind => .ok kind
        | none => .error (.schemaMismatch (.unknownType number tag)) := by
  rcases cell?_written names record row number Column.type (by decide) (by decide) with
    ⟨absent, _⟩ | ⟨column, first, found, same⟩
  · rw [RowView.cell?, Option.map_eq_none_iff, viewOf, positionIn?_declared,
      tableNames_findIdx? (by decide) (by decide)] at absent
    have other := List.findIdx?_eq_none_iff.mp absent Column.type typed
    simp at other
  · obtain ⟨inside, named⟩ := first_column first
    have text := cell_text described inside named (.inl rfl) (fun _ => by decide)
    simp only [RowView.kind, found, same, text, Cell.ofText, unlessEmpty]
    by_cases empty : (record.getD column "").isEmpty
    · simp only [if_pos empty]
      rfl
    · simp only [if_neg empty]
      rfl

private theorem item_spells (described : DescribesRow names record row) {kind : Kind}
    (known : kindOf? names record = some kind) :
    (∃ item, (viewOf names row number).item kind = .ok item ∧ SpellsItem names record item) ∨
      ∃ failure, (viewOf names row number).item kind = .error failure ∧
        Refusal names record number failure := by
  obtain ⟨payload, read, spelt⟩ := payload_spells number described known
  have required := run_required number described
  have projected : (viewOf names row number).item kind = (do
      let run ← (viewOf names row number).requireText (viewOf names row number).runColumn
      return {
        run
        module := written? names record Column.module
        name := written? names record Column.name
        payload }) := by
    rw [RowView.item, read,
      text?_declared number described (by decide) (by decide) rfl,
      text?_declared number described (by decide) (by decide) rfl]
    rfl
  rw [required] at projected
  cases run : writtenRun? names record with
  | none =>
    simp only [run] at projected
    exact .inr ⟨_, projected, .noRun (by rw [known]; rfl) run⟩
  | some text =>
    simp only [run] at projected
    exact .inl ⟨_, projected, run, rfl, rfl, by rw [known, payload_kind read], spelt⟩

/-- One row either gives the item that its record spells or is refused. -/
theorem item?_spells (typed : Column.type ∈ names) (described : DescribesRow names record row) :
    (∃ item, (viewOf names row number).item? none = .ok (some item) ∧ SpellsItem names record item) ∨
      ∃ failure, (viewOf names row number).item? none = .error failure ∧
        Refusal names record number failure := by
  have asked := kind_written number typed described
  rw [RowView.item?]
  cases given : written? names record Column.type with
  | none =>
    simp only [given] at asked
    exact .inr ⟨_, by rw [asked]; rfl, .noType given⟩
  | some tag =>
    cases known : Kind.ofTag? tag with
    | none =>
      simp only [given, known] at asked
      exact .inr ⟨_, by rw [asked]; rfl, .unknownType tag given known⟩
    | some kind =>
      simp only [given, known] at asked
      have same : kindOf? names record = some kind := by rw [kindOf?_written, given]; exact known
      rcases item_spells number described same with ⟨item, read, spells⟩ | ⟨failure, failed, refusal⟩
      · refine .inl ⟨item, bind_eq_ok.mpr ⟨kind, asked, ?_⟩, spells⟩
        rw [if_pos (by rfl), read]
        rfl
      · refine .inr ⟨failure, bind_eq_error.mpr (.inr ⟨kind, asked, ?_⟩), refusal⟩
        rw [if_pos (by rfl), failed]
        rfl

end Rows

section Exports

variable {names : List String} {records : List (List String)} {table : Table}

private theorem itemsFrom_spells (typed : Column.type ∈ names) {rows : List Row}
    (described : List.Forall₂ (DescribesRow names) records rows) (number : Nat) :
    (∃ items, itemsFrom ((tableNames names).map Field.declared) none number rows = .ok items ∧
        List.Forall₂ (SpellsItem names) records items) ∨
      ∃ failure, itemsFrom ((tableNames names).map Field.declared) none number rows = .error failure ∧
        FirstRefusal names number records failure := by
  induction described generalizing number with
  | nil => exact .inl ⟨[], rfl, .nil⟩
  | cons first rest ih =>
    rw [itemsFrom]
    rcases item?_spells number typed first with ⟨item, read, spells⟩ | ⟨failure, failed, refusal⟩
    · rw [viewOf] at read
      rw [read]
      rcases ih (number + 1) with ⟨items, others, each⟩ | ⟨failure, failed, refusal⟩
      · exact .inl ⟨item :: items, by rw [others]; rfl, .cons spells each⟩
      · exact .inr ⟨failure, by rw [failed]; rfl, .later spells.projects refusal⟩
    · rw [viewOf] at failed
      exact .inr ⟨failure, by rw [failed]; rfl, .here refusal⟩

private theorem FirstRefusal.not_projects {number : Nat} {failure : Failure}
    (first : FirstRefusal names number records failure) : ∃ record ∈ records, ¬ Projects names record := by
  induction first with
  | here refusal => exact ⟨_, List.mem_cons_self, refusal.not_projects⟩
  | later _ _ ih =>
    obtain ⟨record, member, refused⟩ := ih
    exact ⟨record, List.mem_cons_of_mem _ member, refused⟩

private theorem items_project {items : List Item} (spells : List.Forall₂ (SpellsItem names) records items) :
    ∀ record ∈ records, Projects names record := by
  induction spells with
  | nil => exact nofun
  | cons first _ ih => exact List.forall_mem_cons.mpr ⟨first.projects, ih⟩

/-- Failures of numbers that a projection could report. -/
def NumericFault : Failure → Prop
  | .parse _ _ _ _ | .schemaMismatch (.notNumeric _ _) => True
  | _ => False

private theorem FirstRefusal.not_numeric {number : Nat} {failure : Failure}
    (first : FirstRefusal names number records failure) : ¬ NumericFault failure := by
  induction first with
  | here refusal => cases refusal <;> exact id
  | later _ _ ih => exact ih

def HasKind (table : Table) (row : Row) : Prop :=
  ∃ position, table.position? Column.type = some position ∧ (Kind.ofCell? (row.cell position)).isSome

private theorem hasKind_iff (described : Describes names records table) {record : List String} {row : Row}
    (same : DescribesRow names record row) : HasKind table row ↔ (kindOf? names record).isSome := by
  rw [HasKind, describes_position? described (by decide) (by decide)]
  constructor
  · intro ⟨position, typed, known⟩
    rwa [describesRow_kind same typed] at known
  · intro known
    cases typed : names.findIdx? (· == Column.type) with
    | none => simp [kindOf?, textIn?, typed] at known
    | some position => exact ⟨position, rfl, by rwa [describesRow_kind same typed]⟩

private theorem hasRun_iff (described : Describes names records table) {record : List String} {row : Row}
    (same : DescribesRow names record row) : HasRun table row ↔ (writtenRun? names record).isSome := by
  rw [← text?_run 0 same, RowView.text?, RowView.cell?, viewOf, ← described.fields, HasRun, Table.position?]
  cases positionIn? table.fields Column.runID with
  | none => simp
  | some position => simp [Pivoting.key?_isSome]

private theorem rows_project (described : Describes names records table) :
    (∀ row ∈ table.rows, HasKind table row ∧ HasRun table row) ↔
      ∀ record ∈ records, Projects names record := by
  have each : List.Forall₂ (fun record row => (HasKind table row ∧ HasRun table row) ↔ Projects names record)
      records table.rows :=
    described.rows.imp fun record row same => and_congr (hasKind_iff described same) (hasRun_iff described same)
  clear described
  generalize table.rows = rows at each ⊢
  induction each with
  | nil => simp
  | cons first _ ih =>
    rw [List.forall_mem_cons, List.forall_mem_cons]
    exact and_congr first ih

end Exports

/-- The items of an export that was read and tells kinds apart. There are any exactly if every row
has a known kind and a run, and then there is one for each row, with what the row's record spells;
otherwise the first row without a kind or a run is reported, and never a number. -/
theorem export_items (stream : Delimited.Stream) (dialect : Delimited.Dialect) (table : Table)
    (read : Export.readStream stream dialect = .ok table) :
    ∃ names records, stream.frameWithHeader dialect = .ok (names, ⟨records, none⟩) ∧
      (Column.type ∈ names →
        ((∃ items, table.items = .ok items) ↔ ∀ row ∈ table.rows, HasKind table row ∧ HasRun table row) ∧
        (∀ items, table.items = .ok items →
          items.length = table.rows.length ∧ List.Forall₂ (SpellsItem names) records items) ∧
        ∀ failure, table.items = .error failure →
          FirstRefusal names firstExportRow records failure ∧ ¬ NumericFault failure) := by
  obtain ⟨names, records, framed⟩ := readStream_sound read
  have described := readStream_describes framed read
  refine ⟨names, records, framed, ?_⟩
  intro typed
  have contained := (describes_contains described (by decide) (by decide)).mpr typed
  have projected : table.items =
      itemsFrom ((tableNames names).map Field.declared) none firstExportRow table.rows := by
    rw [Table.items, if_pos contained, described.fields]
  rw [projected, rows_project described]
  rcases itemsFrom_spells typed described.rows firstExportRow with
    ⟨items, given, spells⟩ | ⟨failure, failed, refusal⟩
  · rw [given]
    refine ⟨iff_of_true ⟨items, rfl⟩ (items_project spells), ?_, nofun⟩
    intro other same
    cases same
    exact ⟨spells.length_eq.symm.trans described.rows.length_eq, spells⟩
  · rw [failed]
    obtain ⟨record, member, refused⟩ := refusal.not_projects
    refine ⟨iff_of_false nofun fun all => refused (all record member), nofun, ?_⟩
    intro other same
    cases same
    exact ⟨refusal, refusal.not_numeric⟩

def mixedHeader : List String :=
  ["run", "type", "module", "name", "attrname", "attrvalue", "value", "count", "mean", "vectime", "vecvalue"]

def mixedExport : String :=
  "run,type,module,name,attrname,attrvalue,value,count,mean,vectime,vecvalue\n" ++
  "r0,scalar,m,s,,,,,,,\nr0,attr,m,s,unit,ms,,,,,\nr0,statistic,m,t,,,,3,0.5,,\nr1,vector,m,v,,,,,,,1 2\n" ++
  "r1,param,,p,,,x,,,,\n"

def mixedItems : List Item :=
  [⟨"r0", some "m", some "s", .scalar Number.notANumber⟩,
    ⟨"r0", some "m", some "s", .attribute ⟨some "unit", some "ms"⟩⟩,
    ⟨"r0", some "m", some "t", .statistic ⟨some 3, Number.notANumber, 0.5, Number.notANumber,
      Number.notANumber, Number.notANumber⟩⟩,
    ⟨"r1", some "m", some "v", .vector [] [1, 2]⟩,
    ⟨"r1", none, some "p", .parameter (some "x")⟩]

theorem export_items_mixed :
    ∃ table records, Export.read (Text.encode mixedExport) = .ok table ∧
      Delimited.Stream.frameWithHeader ⟨Text.encode mixedExport, none⟩ {} =
        .ok (mixedHeader, ⟨records, none⟩) ∧
      Column.type ∈ mixedHeader ∧ table.items = .ok mixedItems ∧
      List.Forall₂ (SpellsItem mixedHeader) records mixedItems := by
  have projected : Export.read (Text.encode mixedExport) >>= Table.items = .ok mixedItems := by decide +kernel
  obtain ⟨table, read, given⟩ := bind_eq_ok.mp projected
  obtain ⟨names, records, framed, items⟩ := export_items _ _ table read
  have header : (Delimited.Stream.frameWithHeader ⟨Text.encode mixedExport, none⟩ {}).map (·.1) =
      .ok mixedHeader := by
    decide +kernel
  rw [framed] at header
  cases Except.ok.inj header
  have typed : Column.type ∈ mixedHeader := by decide
  exact ⟨table, records, read, framed, typed, given, ((items typed).2.1 _ given).2⟩

end SimResults.Proofs.ExportItems
