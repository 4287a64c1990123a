import SimResults.Proofs.CheckedTables
import SimResults.Proofs.KindSelection
import SimResults.Proofs.Lookups

/-! Rows in the form of their kind. A row that has the form keeps it, what brings it into the form
touches only the columns that the form is about, and items read out of it what they read before. -/

namespace SimResults.Proofs.Normalization
open Outcomes TableColumns Conversions ExportCells ParsedExports Rectangularity CheckedTables Lookups
  KindSelection

/-- The columns that the form of a kind is about. -/
def shapedColumns : Kind → List String
  | .scalar => [Column.value]
  | kind => arrayColumns kind

/-- The cell that such a column has in the form of a kind. -/
def formCell (number : Nat) (kind : Kind) (cell : Cell) : Except Failure Cell :=
  if kind = .scalar then scalarCell number cell else .ok (filledArray cell)

/-- The column is the first of a name that the form of a kind is about. -/
def Shaped (fields : List Field) (kind : Kind) (column : Nat) : Prop :=
  ∃ name ∈ shapedColumns kind, positionIn? fields name = some column

structure Forms (fields : List Field) (number : Nat) (kind : Kind) (row result : Row) : Prop where
  width : result.length = row.length
  shaped : ∀ column, Shaped fields kind column → formCell number kind (row.cell column) = .ok (result.cell column)
  others : ∀ column, ¬ Shaped fields kind column → result.cell column = row.cell column

section Cells

variable {number : Nat} {cell formed : Cell}

private theorem scalarCell_again (given : scalarCell number cell = .ok formed) (other : Nat) :
    scalarCell other formed = .ok formed := by
  cases cell with
  | null => cases given; rfl
  | text raw =>
    rw [scalarCell, atCell_eq_ok] at given
    obtain ⟨value, rfl⟩ := readNumber_number given
    rfl
  | _ => cases given; rfl

private theorem formCell_again {kind : Kind} (given : formCell number kind cell = .ok formed) (other : Nat) :
    formCell other kind formed = .ok formed := by
  rw [formCell] at given ⊢
  by_cases scalar : kind = .scalar
  · rw [if_pos scalar] at given ⊢
    exact scalarCell_again given other
  · rw [if_neg scalar] at given ⊢
    cases given
    rw [filledArray_idem]

end Cells

section Rows

variable {fields : List Field} {kind : Kind} {position number : Nat} {row result : Row}

private theorem mem_row {column : Nat} {text : String} (held : row.cell column = .text text) :
    Cell.text text ∈ row := by
  rw [Row.cell, List.getD_eq_getElem?_getD] at held
  cases found : row[column]? with
  | none =>
    rw [found] at held
    cases held
  | some cell =>
    rw [found] at held
    exact held ▸ List.mem_of_getElem? found

private theorem positionIn?_injective {name other : String} {column : Nat}
    (found : positionIn? fields name = some column)
    (same : positionIn? fields other = some column) : name = other := by
  obtain ⟨_, named, _⟩ := List.findIdx?_eq_some_iff_getElem.mp found
  obtain ⟨_, likewise, _⟩ := List.findIdx?_eq_some_iff_getElem.mp same
  exact (eq_of_beq named).symm.trans (eq_of_beq likewise)

private theorem not_shaped {name : String} {column : Nat} (found : positionIn? fields name = some column)
    (other : name ∉ shapedColumns kind) : ¬ Shaped fields kind column := by
  rintro ⟨shaped, member, same⟩
  exact other (positionIn?_injective found same ▸ member)

private theorem type_unshaped (kind : Kind) : Column.type ∉ shapedColumns kind := by
  cases kind <;> decide

private theorem Forms.unique (forms : Forms fields number kind row result) {again : Row}
    (same : Forms fields number kind row again) : result = again := by
  apply row_ext (forms.width.trans same.width.symm)
  intro column _
  by_cases shaped : Shaped fields kind column
  · exact Except.ok.inj ((forms.shaped column shaped).symm.trans (same.shaped column shaped))
  · rw [forms.others column shaped, same.others column shaped]

private theorem Forms.eq_iff (forms : Forms fields number kind row result) {other : Row} :
    (Except.ok result : Except Failure Row) = .ok other ↔ Forms fields number kind row other := by
  rw [Except.ok.injEq]
  constructor
  · rintro rfl
    exact forms
  · exact forms.unique

private theorem forms_unshaped (none : ∀ column, ¬ Shaped fields kind column) : Forms fields number kind row row :=
  ⟨rfl, fun column shaped => absurd shaped (none column), fun _ _ => rfl⟩

private theorem shaped_scalar {column : Nat} :
    Shaped fields .scalar column ↔ positionIn? fields Column.value = some column := by
  simp [Shaped, shapedColumns]

private theorem set_forms (fits : row.length = fields.length) {place : Nat}
    (valued : positionIn? fields Column.value = some place) {cell : Cell}
    (formed : scalarCell number (row.cell place) = .ok cell) :
    Forms fields number .scalar row (row.set place cell) := by
  have inside : place < row.length := fits ▸ positionIn?_inside valued
  refine ⟨List.length_set, ?_, ?_⟩
  · intro column shaped
    cases valued.symm.trans (shaped_scalar.mp shaped)
    rw [formCell, if_pos rfl, cell_set, if_pos ⟨rfl, inside⟩, formed]
  · intro column other
    rw [cell_set, if_neg]
    rintro ⟨rfl, _⟩
    exact other (shaped_scalar.mpr valued)

private theorem fill_forms (fits : row.length = fields.length) (other : kind ≠ .scalar) :
    Forms fields number kind row ((arrayColumns kind).foldl (fillArray fields) row) := by
  have arrays : shapedColumns kind = arrayColumns kind := by
    cases kind <;> first | rfl | exact absurd rfl other
  have shaped_iff (column : Nat) : Shaped fields kind column ↔
      (arrayColumns kind).any (fun name => positionIn? fields name == some column) = true := by
    rw [Shaped, arrays, List.any_eq_true]
    simp
  refine ⟨foldl_fillArray_length fields _ row, ?_, ?_⟩
  · intro column shaped
    have array := (shaped_iff column).mp shaped
    obtain ⟨name, _, found⟩ := shaped
    have inside : column < row.length := fits ▸ positionIn?_inside found
    rw [cell_fillArrays fields _ _ inside, if_pos array, formCell, if_neg other]
  · intro column unshaped
    by_cases inside : column < row.length
    · rw [cell_fillArrays fields _ _ inside, if_neg (mt (shaped_iff column).mpr unshaped)]
    · have beyond (row : Row) (outside : ¬ column < row.length) : row.cell column = .null := by
        rw [Row.cell, List.getD_eq_default _ _ (Nat.le_of_not_lt outside)]
      rw [beyond _ inside, beyond]
      rwa [foldl_fillArray_length]

/-- Normalizing gives each row of a kind its form. -/
theorem normalizeRow_eq_ok (fits : row.length = fields.length)
    (known : Kind.ofCell? (row.cell position) = some kind) :
    normalizeRow fields position number row = .ok result ↔ Forms fields number kind row result := by
  by_cases scalar : kind = .scalar
  · subst scalar
    rw [normalizeRow, known]
    simp only
    cases valued : positionIn? fields Column.value with
    | none =>
      have none : ∀ column, ¬ Shaped fields .scalar column := by
        intro column shaped
        cases valued.symm.trans (shaped_scalar.mp shaped)
      exact (forms_unshaped none).eq_iff
    | some place =>
      simp only [map_eq_ok]
      constructor
      · rintro ⟨cell, formed, rfl⟩
        exact set_forms fits valued formed
      · intro forms
        have formed := forms.shaped place (shaped_scalar.mpr valued)
        rw [formCell, if_pos rfl] at formed
        exact ⟨_, formed, (set_forms fits valued formed).unique forms⟩
  · have filled : normalizeRow fields position number row =
        .ok ((arrayColumns kind).foldl (fillArray fields) row) := by
      rw [normalizeRow, known]
      cases kind <;> first | rfl | exact absurd rfl scalar
    rw [filled]
    exact (fill_forms fits scalar).eq_iff

end Rows

section Views

variable {fields : List Field} {kind : Kind} {position number : Nat} {row result : Row}

theorem Forms.again (forms : Forms fields number kind row result) (other : Nat) :
    Forms fields other kind result result :=
  ⟨rfl, fun column shaped => formCell_again (forms.shaped column shaped) other, fun _ _ => rfl⟩

theorem Forms.type (forms : Forms fields number kind row result)
    (typed : positionIn? fields Column.type = some position) : result.cell position = row.cell position :=
  forms.others position (not_shaped typed (type_unshaped kind))

/-- The value of a scalar is read out of text as it is when the row is normalized. -/
private theorem Forms.value (forms : Forms fields number .scalar row result) (count : Nat)
    (filled : Cell.text "" ∉ row) :
    RowView.number? ⟨fields, result, count⟩ Column.value =
      RowView.number? ⟨fields, row, count⟩ Column.value := by
  rw [RowView.number?, RowView.number?, RowView.cell?, RowView.cell?]
  cases found : positionIn? fields Column.value with
  | none => rfl
  | some column =>
    have formed := forms.shaped column (shaped_scalar.mpr found)
    rw [formCell, if_pos rfl] at formed
    simp only [Option.map_some]
    generalize result.cell column = cell at formed ⊢
    cases held : row.cell column with
    | text raw =>
      rw [held, scalarCell, atCell_eq_ok, Cell.readNumber, if_neg, map_eq_ok] at formed
      · obtain ⟨value, spelled, rfl⟩ := formed
        simp only [spelled]
        rfl
      · intro empty
        exact filled (String.isEmpty_iff.mp empty ▸ mem_row held)
    | _ =>
      rw [held] at formed
      cases formed
      rfl

variable (forms : Forms fields number kind row result) (count : Nat)
include forms

private theorem Forms.cell? {name : String} (other : name ∉ shapedColumns kind) :
    RowView.cell? ⟨fields, result, count⟩ name = RowView.cell? ⟨fields, row, count⟩ name := by
  rw [RowView.cell?, RowView.cell?]
  cases found : positionIn? fields name with
  | none => rfl
  | some column => exact congrArg some (forms.others column (not_shaped found other))

private theorem Forms.text? {name : String} (other : name ∉ shapedColumns kind) :
    RowView.text? ⟨fields, result, count⟩ name = RowView.text? ⟨fields, row, count⟩ name := by
  rw [RowView.text?, RowView.text?, forms.cell? count other]

private theorem Forms.requireText {name : String} (other : name ∉ shapedColumns kind) :
    RowView.requireText ⟨fields, result, count⟩ name = RowView.requireText ⟨fields, row, count⟩ name := by
  rw [RowView.requireText, RowView.requireText, forms.text? count other]

private theorem Forms.number? {name : String} (other : name ∉ shapedColumns kind) :
    RowView.number? ⟨fields, result, count⟩ name = RowView.number? ⟨fields, row, count⟩ name := by
  rw [RowView.number?, RowView.number?, forms.cell? count other]

private theorem Forms.statistics (other : ∀ name ∈ Kind.summaryColumns, name ∉ shapedColumns kind) :
    RowView.statistics ⟨fields, result, count⟩ = RowView.statistics ⟨fields, row, count⟩ := by
  simp only [Kind.summaryColumns, List.forall_mem_cons] at other
  obtain ⟨items, sumweights, mean, stddev, min, max, _⟩ := other
  have counted : RowView.integer? ⟨fields, result, count⟩ Column.count =
      RowView.integer? ⟨fields, row, count⟩ Column.count := by
    rw [RowView.integer?, RowView.integer?, forms.cell? count items]
  rw [RowView.statistics, RowView.statistics, counted, forms.number? count sumweights, forms.number? count mean,
    forms.number? count stddev, forms.number? count min, forms.number? count max]

/-- Arrays read the same when they are filled in, as what is no array reads as an empty one. -/
private theorem Forms.array (other : kind ≠ .scalar) (name : String) :
    RowView.array ⟨fields, result, count⟩ name = RowView.array ⟨fields, row, count⟩ name := by
  by_cases shaped : name ∈ shapedColumns kind
  · rw [RowView.array, RowView.array, RowView.cell?, RowView.cell?]
    cases found : positionIn? fields name with
    | none => rfl
    | some column =>
      have formed := forms.shaped column ⟨name, shaped, found⟩
      rw [formCell, if_neg other] at formed
      simp only [Option.map_some, Option.bind_some, ← Except.ok.inj formed]
      cases row.cell column <;> rfl
  · rw [RowView.array, RowView.array, forms.cell? count shaped]

private theorem Forms.payload (filled : Cell.text "" ∉ row) :
    RowView.payload ⟨fields, result, count⟩ kind = RowView.payload ⟨fields, row, count⟩ kind := by
  cases kind with
  | scalar => rw [RowView.payload, RowView.payload, forms.value count filled]
  | vector => rw [RowView.payload, RowView.payload, forms.array count (by decide), forms.array count (by decide)]
  | statistic => rw [RowView.payload, RowView.payload, forms.statistics count (by decide)]
  | histogram =>
    rw [RowView.payload, RowView.payload, forms.statistics count (by decide), forms.number? count (by decide),
      forms.number? count (by decide), forms.array count (by decide), forms.array count (by decide)]
  | parameter => rw [RowView.payload, RowView.payload, forms.text? count (by decide)]
  | _ =>
    rw [RowView.payload, RowView.payload, RowView.attributeContent, RowView.attributeContent,
      forms.text? count (by decide), forms.text? count (by decide)]

/-- A row and its form give the same item, or fail with the same message. -/
theorem Forms.item (filled : Cell.text "" ∉ row) :
    RowView.item ⟨fields, result, count⟩ kind = RowView.item ⟨fields, row, count⟩ kind := by
  have named : ∀ name ∈ [Column.runID, Column.run, Column.module, Column.name], name ∉ shapedColumns kind := by
    cases kind <;> decide
  simp only [List.forall_mem_cons] at named
  obtain ⟨runID, run, module, name, _⟩ := named
  have runs : RowView.runColumn ⟨fields, row, count⟩ ∉ shapedColumns kind := by
    rw [RowView.runColumn]
    split
    · exact runID
    · exact run
  have required : RowView.requireText ⟨fields, result, count⟩ (RowView.runColumn ⟨fields, result, count⟩) =
      RowView.requireText ⟨fields, row, count⟩ (RowView.runColumn ⟨fields, row, count⟩) :=
    forms.requireText count runs
  rw [RowView.item, RowView.item, forms.payload count filled, required, forms.text? count module,
    forms.text? count name]

end Views

section Traversals

variable {fields : List Field} {position number : Nat} {row result : Row} {rows results : List Row}

theorem normalizeRow_unknown (unknown : Kind.ofCell? (row.cell position) = none) :
    normalizeRow fields position number row = .ok row := by
  rw [normalizeRow, unknown]

variable (typed : positionIn? fields Column.type = some position)
include typed

private theorem normalizeRow_item? (fits : row.length = fields.length) (filled : Cell.text "" ∉ row)
    (given : normalizeRow fields position number row = .ok result) (count : Nat) (expected : Option Kind) :
    RowView.item? ⟨fields, result, count⟩ expected = RowView.item? ⟨fields, row, count⟩ expected := by
  cases known : Kind.ofCell? (row.cell position) with
  | none =>
    cases (normalizeRow_unknown known).symm.trans given
    rfl
  | some kind =>
    have forms := (normalizeRow_eq_ok fits known).mp given
    have before : RowView.kind ⟨fields, row, count⟩ expected = .ok kind := (kind_typed typed expected).mpr known
    have after : RowView.kind ⟨fields, result, count⟩ expected = .ok kind := by
      rw [kind_typed typed, forms.type typed]
      exact known
    rw [RowView.item?, RowView.item?, before, after]
    change (if expected.all (· == kind) then _ else _) = if expected.all (· == kind) then _ else _
    rw [forms.item count filled]

private theorem itemsFrom_normalized (fits : ∀ row ∈ rows, row.length = fields.length)
    (filled : ∀ row ∈ rows, Cell.text "" ∉ row)
    (traversed : traverseFrom (normalizeRow fields position) number rows = .ok results)
    (expected : Option Kind) :
    itemsFrom fields expected number results = itemsFrom fields expected number rows := by
  induction rows generalizing number results with
  | nil =>
    cases traversed
    rfl
  | cons row rest ih =>
    obtain ⟨result, others, stepped, later, rfl⟩ := traverseFrom_cons_eq_ok.mp traversed
    rw [List.forall_mem_cons] at fits filled
    rw [itemsFrom, itemsFrom, normalizeRow_item? typed fits.1 filled.1 stepped, ih fits.2 filled.2 later]

end Traversals

section Tables

/-- The kind that the type cell of a row names, if the table has types. -/
def rowKind? (table : Table) (row : Row) : Option Kind :=
  (table.position? Column.type).bind fun position => Kind.ofCell? (row.cell position)

def InForm (table : Table) : Prop :=
  ∀ row ∈ table.rows, ∀ kind, rowKind? table row = some kind → ∀ number, Forms table.fields number kind row row

/-- A table and the table of the forms of its rows. Rows without a kind have none. -/
structure FormOf (table normal : Table) : Prop where
  fields : normal.fields = table.fields
  height : normal.rows.length = table.rows.length
  unknown : ∀ (index : Nat) row, table.rows[index]? = some row → rowKind? table row = none →
    normal.rows[index]? = some row
  formed : ∀ (index : Nat) row kind, table.rows[index]? = some row → rowKind? table row = some kind →
    ∃ result, normal.rows[index]? = some result ∧ Forms table.fields (firstExportRow + index) kind row result

variable {table normal : Table} {position : Nat}

theorem rowKind?_typed (typed : positionIn? table.fields Column.type = some position) (row : Row) :
    rowKind? table row = Kind.ofCell? (row.cell position) := by
  rw [rowKind?, Table.position?, typed, Option.bind_some]

private theorem rowKind?_untyped (untyped : table.position? Column.type = none) (row : Row) :
    rowKind? table row = none := by
  rw [rowKind?, untyped, Option.bind_none]

private theorem normalize_traverses (typed : table.position? Column.type = some position)
    (given : table.normalize = ⟨normal, none⟩) :
    traverseFrom (normalizeRow table.fields position) firstExportRow table.rows = .ok normal.rows ∧
      normal.fields = table.fields := by
  have result := result_eq_ok.mpr given
  rw [normalize_result table typed, map_eq_ok] at result
  obtain ⟨rows, traversed, rfl⟩ := result
  exact ⟨traversed, rfl⟩

private theorem normalize_same (untyped : table.position? Column.type = none)
    (given : table.normalize = ⟨normal, none⟩) : normal = table := by
  rw [Table.normalize, untyped] at given
  cases given
  rfl

variable (rectangular : table.Rectangular)
include rectangular

private theorem normalize_inForm (inForm : InForm table) : table.normalize = ⟨table, none⟩ := by
  cases typed : table.position? Column.type with
  | none => rw [Table.normalize, typed]
  | some position =>
    have stays : traverseFrom (normalizeRow table.fields position) firstExportRow table.rows = .ok table.rows := by
      refine traverseFrom_eq_ok.mpr ⟨rfl, ?_⟩
      intro index row found
      have member := List.mem_of_getElem? found
      refine ⟨row, found, ?_⟩
      cases known : Kind.ofCell? (row.cell position) with
      | none => exact normalizeRow_unknown known
      | some kind =>
        have named := (rowKind?_typed typed row).trans known
        exact (normalizeRow_eq_ok (rectangular row member) known).mpr (inForm row member kind named _)
    rw [normalize_located table typed, convertRows_of_ok stays]

private theorem normalize_forms (given : table.normalize = ⟨normal, none⟩) : FormOf table normal := by
  cases typed : table.position? Column.type with
  | none =>
    cases normalize_same typed given
    refine ⟨rfl, rfl, fun index row found _ => found, ?_⟩
    intro index row kind found known
    rw [rowKind?_untyped typed] at known
    cases known
  | some position =>
    obtain ⟨traversed, fields⟩ := normalize_traverses typed given
    obtain ⟨height, each⟩ := traverseFrom_eq_ok.mp traversed
    refine ⟨fields, height, ?_, ?_⟩
    · intro index row found unknown
      rw [rowKind?_typed typed] at unknown
      obtain ⟨result, there, stepped⟩ := each index row found
      cases (normalizeRow_unknown unknown).symm.trans stepped
      exact there
    · intro index row kind found known
      rw [rowKind?_typed typed] at known
      obtain ⟨result, there, stepped⟩ := each index row found
      exact ⟨result, there, (normalizeRow_eq_ok (rectangular row (List.mem_of_getElem? found)) known).mp stepped⟩

private theorem normalize_items (given : table.normalize = ⟨normal, none⟩)
    (filled : ∀ row ∈ table.rows, Cell.text "" ∉ row) :
    normal.items = table.items ∧ ∀ kind, normal.itemsOfKind kind = table.itemsOfKind kind := by
  cases typed : table.position? Column.type with
  | none =>
    cases normalize_same typed given
    exact ⟨rfl, fun _ => rfl⟩
  | some position =>
    obtain ⟨traversed, fields⟩ := normalize_traverses typed given
    have same := itemsFrom_normalized typed rectangular filled traversed
    constructor
    · rw [Table.items, Table.items, Table.contains, Table.contains, Table.position?, Table.position?, fields,
        same]
    · intro kind
      rw [Table.itemsOfKind, Table.itemsOfKind, fields, same]

end Tables

section Forms

variable {table normal : Table} {kind : Kind} {number : Nat} {row result : Row}

private theorem Forms.rowKind? (forms : Forms table.fields number kind row result) :
    rowKind? table result = rowKind? table row := by
  cases typed : table.position? Column.type with
  | none => rw [rowKind?_untyped typed, rowKind?_untyped typed]
  | some position => rw [rowKind?_typed typed, rowKind?_typed typed, forms.type typed]

private theorem FormOf.behind (form : FormOf table normal) (member : result ∈ normal.rows) :
    ∃ row ∈ table.rows, rowKind? table row = none ∧ result = row ∨
      ∃ kind number, rowKind? table row = some kind ∧ Forms table.fields number kind row result := by
  obtain ⟨index, inside, rfl⟩ := List.mem_iff_getElem.mp member
  obtain ⟨row, found⟩ : ∃ row, table.rows[index]? = some row :=
    ⟨_, List.getElem?_eq_getElem (form.height ▸ inside)⟩
  refine ⟨row, List.mem_of_getElem? found, ?_⟩
  cases known : rowKind? table row with
  | none =>
    have same := form.unknown index row found known
    rw [List.getElem?_eq_getElem inside] at same
    exact .inl ⟨rfl, Option.some.inj same⟩
  | some kind =>
    obtain ⟨result, there, forms⟩ := form.formed index row kind found known
    rw [List.getElem?_eq_getElem inside] at there
    cases there
    exact .inr ⟨kind, _, rfl, forms⟩

private theorem FormOf.rectangular (form : FormOf table normal) (rectangular : table.Rectangular) :
    normal.Rectangular := by
  intro result member
  rw [form.fields]
  obtain ⟨row, present, ⟨_, rfl⟩ | ⟨_, _, _, forms⟩⟩ := form.behind member
  · exact rectangular _ present
  · exact forms.width.trans (rectangular row present)

private theorem FormOf.inForm (form : FormOf table normal) : InForm normal := by
  intro result member kind known number
  have same (row : Row) : rowKind? normal row = rowKind? table row := by
    rw [rowKind?, rowKind?, Table.position?, Table.position?, form.fields]
  rw [same] at known
  rw [form.fields]
  obtain ⟨row, _, ⟨unknown, rfl⟩ | ⟨other, before, named, forms⟩⟩ := form.behind member
  · cases unknown.symm.trans known
  · cases named.symm.trans (forms.rowKind?.symm.trans known)
    exact forms.again number

end Forms

section Exports

variable {table : Table} {before after : String}

private theorem position?_renamed (table : Table) {name : String} (old : name ≠ before) (new : name ≠ after) :
    (table.rename before after).position? name = table.position? name := by
  cases found : table.position? before with
  | none => rw [Table.rename, found]
  | some position => exact rename_position?_other found old new

/-- Only names that no form is about can change without care. -/
private theorem InForm.rename (inForm : InForm table) (kept : ∀ kind, ∀ name ∈ Column.type :: shapedColumns kind,
    name ≠ before ∧ name ≠ after) : InForm (table.rename before after) := by
  intro row member kind known number
  have same (name : String) (among : name ∈ Column.type :: shapedColumns kind) :
      positionIn? (table.rename before after).fields name = positionIn? table.fields name :=
    position?_renamed table (kept kind name among).1 (kept kind name among).2
  have shaped (column : Nat) :
      Shaped (table.rename before after).fields kind column ↔ Shaped table.fields kind column := by
    apply exists_congr
    intro name
    apply and_congr_right
    intro among
    rw [same name (List.mem_cons_of_mem _ among)]
  rw [rename_rows] at member
  rw [rowKind?, Table.position?, same Column.type List.mem_cons_self] at known
  have forms := inForm row member kind known number
  exact ⟨rfl, fun column inside => forms.shaped column ((shaped column).mp inside), fun _ _ => rfl⟩

/-- The long name of runs is given to a table in which every row has its form. -/
theorem readStream_inForm {stream : Delimited.Stream} {dialect : Delimited.Dialect}
    (read : Export.readStream stream dialect = .ok table) : table.Rectangular ∧ InForm table := by
  obtain ⟨names, records, framed⟩ := readStream_sound read
  rw [readStream_framed framed, bind_eq_ok] at read
  obtain ⟨rows, coerced, read⟩ := read
  obtain ⟨normal, normalized, renamed⟩ := bind_eq_ok.mp read
  cases pure_eq_ok.mp renamed
  have rectangular : Table.Rectangular ⟨names.map Field.declared, rows⟩ := by
    intro row member
    rw [coerceRecords_width coerced row member, List.length_map]
  have form := normalize_forms rectangular (result_eq_ok.mp normalized)
  have kept : ∀ kind, ∀ name ∈ Column.type :: shapedColumns kind, name ≠ Column.run ∧ name ≠ Column.runID := by
    intro kind
    cases kind <;> decide
  exact ⟨rename_rectangular (form.rectangular rectangular) _ _, form.inForm.rename kept⟩

private theorem ofText_filled (raw : String) : Cell.ofText raw ≠ .text "" := by
  rw [Cell.ofText]
  split
  next => exact Cell.noConfusion
  next filled =>
    intro same
    cases same
    exact filled rfl

/-- Nothing is read as a text without characters. -/
private theorem read_filled {type : ColumnType} {raw : String} : Cell.read type raw ≠ .ok (.text "") := by
  intro read
  cases type with
  | integer =>
    rw [Cell.read, Cell.readInteger] at read
    split at read
    next => cases read
    next => split at read <;> cases read
  | number =>
    obtain ⟨value, impossible⟩ := readNumber_number read
    cases impossible
  | array =>
    rw [Cell.read, Cell.readArray] at read
    split at read
    next => cases read
    next =>
      obtain ⟨values, _, impossible⟩ := map_eq_ok.mp read
      cases impossible
  | text => exact ofText_filled raw (Except.ok.inj read)
  | generic => exact ofText_filled raw (Except.ok.inj read)

end Exports

/-- Normalizing a rectangular table once is enough. It leaves the names, the number of rows and all cells alone
but for those that the form of a kind is about, and without empty texts nothing changes for those who read items,
failures included. Tables that are read from exports are normalized, and hold no empty texts. -/
theorem normalize_stable :
    (∀ table normal : Table, table.Rectangular → table.normalize = ⟨normal, none⟩ →
      normal.normalize = ⟨normal, none⟩ ∧ FormOf table normal ∧
        ((∀ row ∈ table.rows, Cell.text "" ∉ row) →
          normal.items = table.items ∧ ∀ kind, normal.itemsOfKind kind = table.itemsOfKind kind)) ∧
    (∀ type raw, Cell.read type raw ≠ .ok (.text "")) ∧
    ∀ stream dialect table, Export.readStream stream dialect = .ok table → table.normalize = ⟨table, none⟩ := by
  refine ⟨?_, fun _ _ => read_filled, ?_⟩
  · intro table normal rectangular given
    have form := normalize_forms rectangular given
    exact ⟨normalize_inForm (form.rectangular rectangular) form.inForm, form,
      normalize_items rectangular given⟩
  · intro stream dialect table read
    obtain ⟨rectangular, inForm⟩ := readStream_inForm read
    exact normalize_inForm rectangular inForm

def loads : Table where
  fields := [⟨"runID", .text⟩, ⟨"type", .text⟩, ⟨"name", .text⟩, ⟨"value", .text⟩, ⟨"vectime", .array⟩]
  rows := [[.text "r0", .text "scalar", .text "load", .text "2.5", .null],
    [.text "r0", .text "vector", .text "load", .text "high", .null],
    [.text "r1", .text "param", .text "seed", .text "7", .null],
    [.null, .text "scalar", .text "load", .null, .null]]

def formedLoads : Table where
  fields := loads.fields
  rows := [[.text "r0", .text "scalar", .text "load", .number 2.5, .null],
    [.text "r0", .text "vector", .text "load", .text "high", .array []],
    [.text "r1", .text "param", .text "seed", .text "7", .null],
    [.null, .text "scalar", .text "load", .number Number.notANumber, .null]]

def loadedExport : Table where
  fields := ["runID", "type", "name", "value"].map .declared
  rows := [[.text "r0", .text "scalar", .text "load", .number Number.notANumber],
    [.text "r0", .text "param", .text "seed", .null]]

/-- The items of one kind are there, and for all of them the same run is missed. -/
theorem normalize_stable_loads :
    loads.Rectangular ∧ loads.normalize = ⟨formedLoads, none⟩ ∧ formedLoads.normalize = ⟨formedLoads, none⟩ ∧
      FormOf loads formedLoads ∧ (∀ row ∈ loads.rows, Cell.text "" ∉ row) ∧
      formedLoads.items = .error (.schemaMismatch (.missingCell 5 "runID")) ∧
      formedLoads.itemsOfKind .vector = .ok [⟨"r0", none, some "load", .vector [] []⟩] ∧
      Export.read (Text.encode "run,type,name,value\nr0,scalar,load,\nr0,param,seed,\n") = .ok loadedExport ∧
      loadedExport.normalize = ⟨loadedExport, none⟩ := by
  have rectangular : loads.Rectangular := by decide
  have normalized : loads.normalize = ⟨formedLoads, none⟩ := by decide +kernel
  have filled : ∀ row ∈ loads.rows, Cell.text "" ∉ row := by decide +kernel
  have missed : loads.items = .error (.schemaMismatch (.missingCell 5 "runID")) := by decide +kernel
  have vectors : loads.itemsOfKind .vector = .ok [⟨"r0", none, some "load", .vector [] []⟩] := by decide +kernel
  have read : Export.read (Text.encode "run,type,name,value\nr0,scalar,load,\nr0,param,seed,\n") = .ok loadedExport := by
    decide +kernel
  obtain ⟨again, form, invisible⟩ := normalize_stable.1 loads formedLoads rectangular normalized
  obtain ⟨items, kinds⟩ := invisible filled
  refine ⟨rectangular, normalized, again, form, filled, items.trans missed, (kinds .vector).trans vectors, read,
    normalize_stable.2.2 _ _ _ read⟩

end SimResults.Proofs.Normalization
