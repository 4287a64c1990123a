import Mathlib.Data.List.Basic
import Mathlib.Data.List.GetD
import Mathlib.Data.List.Nodup
import SimResults.Proofs.Pivoting
import SimResults.Table.Melt

/-! Wide and long again. Melting what a pivot gave lists every key with every name once, and
pivoting what was melted gives the wide table back. -/

namespace SimResults.Proofs.Reshaping
open Outcomes TableColumns Pivoting FirstSeen

section Melting

/-- The columns that turn into rows, each with its position. -/
def melted (table : Table) (positions : List Nat) : List (Field × Nat) :=
  table.fields.zipIdx.filter fun (_, position) => !positions.contains position

/-- The long form of a wide table. -/
def longTable (table : Table) (positions : List Nat) (nameColumn valueColumn : String) : Table where
  fields := table.fieldsAt positions ++
    [⟨nameColumn, .text⟩, ⟨valueColumn, sharedType ((melted table positions).map (·.1.type))⟩]
  rows := table.rows.flatMap (meltRow positions (melted table positions))

variable {table long : Table} {ids : List String} {nameColumn valueColumn : String}

private theorem melt_eq_ok :
    table.melt ids nameColumn valueColumn = .ok long ↔
      ∃ positions, ids.map table.position? = positions.map some ∧
        long = longTable table positions nameColumn valueColumn := by
  simp only [Table.melt, bind_eq_ok, pure_eq_ok, requireAll_eq_ok]
  constructor
  · intro given
    obtain ⟨positions, located, rfl⟩ := given
    exact ⟨positions, located, rfl⟩
  · intro given
    obtain ⟨positions, located, rfl⟩ := given
    exact ⟨positions, located, rfl⟩

theorem melted_behind (front back : List Field) (rows : List Row) :
    melted ⟨front ++ back, rows⟩ (List.range front.length) = back.zipIdx front.length := by
  have early : (front.zipIdx.filter fun (_, position) => !(List.range front.length).contains position) = [] := by
    rw [List.filter_eq_nil_iff]
    intro ⟨field, position⟩ member
    have inside := (List.mem_zipIdx member).2.1
    simpa using inside
  have late : ((back.zipIdx front.length).filter fun (_, position) =>
      !(List.range front.length).contains position) = back.zipIdx front.length := by
    rw [List.filter_eq_self]
    intro ⟨field, position⟩ member
    have beyond := (List.mem_zipIdx member).1
    simpa using beyond
  rw [melted, List.zipIdx_append, List.filter_append, early, List.nil_append, Nat.zero_add, late]

private theorem meltRow_behind (cells : List Cell) (fields : List Field) {others : List Cell}
    (fits : others.length = fields.length) :
    meltRow (List.range cells.length) (fields.zipIdx cells.length) (cells ++ others) =
      (fields.zip others).map fun (field, cell) => cells ++ [.text field.name, cell] := by
  rw [meltRow, cells_append_left]
  apply List.ext_getElem
  · simp [fits]
  · intro index inside _
    have known : index < others.length := by simpa [fits] using inside
    simp only [List.getElem_map, List.getElem_zipIdx, List.getElem_zip]
    rw [cell_append_right, Row.cell, List.getD_eq_getElem _ _ known]

/-- Where the columns that stay come first, each row splits into what stays and what turns. -/
private theorem longTable_behind {α : Type} (front back : List Field) (items : List α)
    (cells others : α → List Cell)
    (staying : ∀ item ∈ items, (cells item).length = front.length)
    (turning : ∀ item ∈ items, (others item).length = back.length) (nameColumn valueColumn : String) :
    (longTable ⟨front ++ back, items.map fun item => cells item ++ others item⟩
        (List.range front.length) nameColumn valueColumn).rows =
      items.flatMap fun item => (back.zip (others item)).map fun (field, cell) =>
        cells item ++ [.text field.name, cell] := by
  rw [longTable, melted_behind, List.flatMap_map]
  apply List.flatMap_congr
  intro item member
  rw [← staying item member]
  exact meltRow_behind _ _ (turning item member)

end Melting

section LongAgain

variable {table : Table} {index : List String} {names values : String} {positions : Pivot.Positions}

private theorem wideTable_names (located : Locates table index names values positions)
    (apart : ∀ name ∈ distinctNames positions table.rows, name ∉ index) :
    (wideTable table index values positions).names = index ++ distinctNames positions table.rows := by
  have plain : (distinctNames positions table.rows).map (wideName index values) =
      distinctNames positions table.rows := by
    rw [List.map_congr_left (g := id), List.map_id]
    intro name member
    rw [wideName, if_neg (by simpa using apart name member)]
    rfl
  rw [Table.names, wideTable, List.map_append, fieldsAt_names located.index, List.map_map]
  exact congrArg (index ++ ·) plain

private theorem longTable_wideTable (located : Locates table index names values positions)
    (apart : ∀ name ∈ distinctNames positions table.rows, name ∉ index) (nameColumn valueColumn : String) :
    (longTable (wideTable table index values positions) (List.range index.length) nameColumn
        valueColumn).rows =
      (distinctKeys positions table.rows).flatMap fun key =>
        (distinctNames positions table.rows).map fun name =>
          indexCells positions table.rows key ++ [.text name,
            valueCell positions table.rows (table.field positions.value).type.missing key name] := by
  have width : index.length = (table.fieldsAt positions.index).length := by
    simpa [Table.fieldsAt] using located.width.symm
  rw [width, wideTable, longTable_behind]
  · apply List.flatMap_congr
    intro key _
    rw [List.zip_map', List.map_map]
    apply List.map_congr_left
    intro name member
    simp [wideName, apart name member]
  · intro key known
    rw [indexCells_length known, Table.fieldsAt, List.length_map]
  · simp

/-- Melting a pivoted table lists each key with each name, in the order in which they were first
seen. The value is that of the first row of both, and missing where there is no such row. -/
theorem melt_pivot (table : Table) (index : List String) (names values nameColumn valueColumn : String)
    (positions : Pivot.Positions) (located : Locates table index names values positions)
    (distinct : index.Nodup) (apart : ∀ name ∈ distinctNames positions table.rows, name ∉ index) :
    ∃ wide long, table.pivot index names values = .ok wide ∧
      wide.melt index nameColumn valueColumn = .ok long ∧
      long.rows.length =
        (distinctKeys positions table.rows).length * (distinctNames positions table.rows).length ∧
      long.rows = (distinctKeys positions table.rows).flatMap fun key =>
        (distinctNames positions table.rows).map fun name =>
          indexCells positions table.rows key ++ [.text name,
            valueCell positions table.rows (table.field positions.value).type.missing key name] := by
  have leading := requireAll_leading (wideTable_names located apart) distinct
  have rows := longTable_wideTable located apart nameColumn valueColumn
  refine ⟨_, _, pivot_eq_ok.mpr ⟨positions, located, rfl⟩,
    melt_eq_ok.mpr ⟨_, requireAll_eq_ok.mp leading, rfl⟩, ?_, rows⟩
  simp [rows, List.length_flatMap, List.map_const']

/-- A value is given twice, another one is for no quantity, and one quantity is never given. -/
def readings : Table where
  fields := [⟨"quantity", .text⟩, ⟨"node", .text⟩, ⟨"value", .number⟩, ⟨"run", .integer⟩]
  rows :=
    [[.text "load", .text "b", .number 1.5, .integer 2], [.text "load", .text "a", .number 0.5, .integer 1],
      [.null, .text "a", .number 9, .integer 1], [.text "delay", .text "b", .number 2, .integer 2],
      [.text "load", .text "b", .number 7, .integer 2]]

theorem melt_pivot_readings :
    ∃ wide long, readings.pivot ["run", "node"] "quantity" "value" = .ok wide ∧
      wide.melt ["run", "node"] "quantity" "value" = .ok long ∧
      long.rows =
        [[.integer 2, .text "b", .text "load", .number 1.5],
          [.integer 2, .text "b", .text "delay", .number 2],
          [.integer 1, .text "a", .text "load", .number 0.5],
          [.integer 1, .text "a", .text "delay", .number Number.notANumber]] := by
  have located : Locates readings ["run", "node"] "quantity" "value" ⟨[3, 1], 0, 2⟩ :=
    ⟨by decide, by decide, by decide⟩
  obtain ⟨wide, long, pivoted, went, _, rows⟩ :=
    melt_pivot readings ["run", "node"] "quantity" "value" "quantity" "value" _ located (by decide)
      (by decide +kernel)
  exact ⟨wide, long, pivoted, went, rows⟩

end LongAgain

section WideAgain

variable {table : Table} {ids : List String} {positions : List Nat}

/-- The columns of some names in front, and behind them the others as they stood. -/
def fronted (ids : List String) (columns : List (Field × List Cell)) : List (Field × List Cell) :=
  (ids.filterMap fun id => columns.find? fun column => column.1.name == id) ++
    columns.filter fun column => !ids.contains column.1.name

theorem position?_of_nodup (distinct : table.names.Nodup) {field : Field} {position : Nat}
    (member : (field, position) ∈ table.fields.zipIdx) : table.position? field.name = some position := by
  obtain ⟨inside, rfl⟩ : ∃ inside : position < table.fields.length, field = table.fields[position] := by
    obtain ⟨_, inside, same⟩ := List.mem_zipIdx member
    exact ⟨by simpa using inside, by simpa using same⟩
  refine List.findIdx?_eq_some_iff_getElem.mpr ⟨inside, by simp, ?_⟩
  intro earlier smaller same
  have apart := List.pairwise_iff_getElem.mp distinct earlier position
    (by simpa [Table.names] using Nat.lt_trans smaller inside) (by simpa [Table.names] using inside) smaller
  simp [Table.names] at apart same
  exact apart same

/-- The columns that turn into rows are those of other names than the identifying ones. -/
private theorem melted_eq (distinct : table.names.Nodup) (located : ids.map table.position? = positions.map some) :
    melted table positions = table.fields.zipIdx.filter fun (field, _) => !ids.contains field.name := by
  apply List.filter_congr
  intro ⟨field, position⟩ member
  have found := position?_of_nodup distinct member
  have same : position ∈ positions ↔ field.name ∈ ids := by
    constructor
    · intro inside
      have known : some position ∈ ids.map table.position? := located ▸ List.mem_map_of_mem inside
      obtain ⟨id, identifying, there⟩ := List.mem_map.mp known
      rw [← field_of_position? there] at identifying
      rwa [← field_of_position? found]
    · intro identifying
      have known : some position ∈ positions.map some := located ▸ found ▸ List.mem_map_of_mem identifying
      simpa using known
  simp [same]

/-- Where the columns of a melted table stand. -/
def longPositions (ids : List String) : Pivot.Positions :=
  ⟨List.range ids.length, ids.length, ids.length + 1⟩

variable {nameColumn valueColumn : String}

private theorem longTable_locates (located : ids.map table.position? = positions.map some) (once : ids.Nodup)
    (name : nameColumn ∉ ids) (value : valueColumn ∉ ids) (apart : nameColumn ≠ valueColumn) :
    Locates (longTable table positions nameColumn valueColumn) ids nameColumn valueColumn
      (longPositions ids) := by
  have names : (longTable table positions nameColumn valueColumn).names =
      (ids ++ [nameColumn, valueColumn]) ++ [] := by
    rw [Table.names, longTable, List.map_append, fieldsAt_names located, List.append_nil]
    rfl
  have distinct : (ids ++ [nameColumn, valueColumn]).Nodup := by
    rw [List.nodup_append]
    refine ⟨once, by simpa using apart, ?_⟩
    intro id identifying other last same
    subst same
    rcases List.mem_pair.mp last with rfl | rfl
    · exact name identifying
    · exact value identifying
  have all := requireAll_eq_ok.mp (requireAll_leading names distinct)
  rw [List.length_append, List.length_cons, List.length_singleton, List.range_succ, List.range_succ,
    List.append_assoc, List.map_append, List.map_append] at all
  obtain ⟨index, rest⟩ := List.append_inj all (by simp)
  obtain ⟨named, rest⟩ := List.cons.inj rest
  exact ⟨index, named, (List.cons.inj rest).1⟩

/-- The texts of the identifying cells of a wide row. -/
def idTexts (positions : List Nat) (row : Row) : List String :=
  (row.cells positions).map fun cell => cell.key?.getD ""

/-- The long row for a column of a wide row. -/
def longRow (positions : List Nat) (row : Row) (column : Field × Nat) : Row :=
  row.cells positions ++ [.text column.1.name, row.cell column.2]

section LongRows

variable {row : Row} {column : Field × Nat}

private theorem cells_width (row : Row) (same : positions.length = ids.length) :
    ids.length = (row.cells positions).length := same.symm.trans (List.length_map _).symm

private theorem longRow_cells (same : positions.length = ids.length) :
    Row.cells (longRow positions row column) (longPositions ids).index = row.cells positions := by
  rw [longPositions, longRow, cells_width row same, cells_append_left]

private theorem longRow_name (same : positions.length = ids.length) :
    Row.cell (longRow positions row column) (longPositions ids).name = .text column.1.name := by
  rw [longPositions, longRow, cells_width row same]
  exact cell_append_right _ _ 0

private theorem longRow_value (same : positions.length = ids.length) :
    Row.cell (longRow positions row column) (longPositions ids).value = row.cell column.2 := by
  rw [longPositions, longRow, cells_width row same]
  exact cell_append_right _ _ 1

private theorem longRow_keyOf (same : positions.length = ids.length) :
    keyOf (longPositions ids) (longRow positions row column) = idTexts positions row := by
  rw [keyOf_eq, longRow_cells same, idTexts]

private theorem longRow_nameOf (same : positions.length = ids.length) :
    nameOf (longPositions ids) (longRow positions row column) = column.1.name := by
  rw [nameOf, longRow_name same]
  rfl

private theorem longRow_valid (same : positions.length = ids.length)
    (filled : ∀ position ∈ positions, (row.cell position).isMissing = false) :
    valid (longPositions ids) (longRow positions row column) = true := by
  rw [valid_eq, longRow_cells same, longRow_name same, Row.cells, List.all_map]
  simpa [Cell.isMissing] using filled

end LongRows

/-- Columns that tell the rows of a table apart: none of their cells is missing, and no two rows
have the same key. -/
structure Identifies (table : Table) (ids : List String) (positions : List Nat) : Prop where
  located : ids.map table.position? = positions.map some
  once : ids.Nodup
  filled : ∀ row ∈ table.rows, ∀ position ∈ positions, (row.cell position).isMissing = false
  keyed : (table.rows.map (·.key? positions)).Nodup

private theorem Identifies.apart (identified : Identifies table ids positions) :
    (table.rows.map (idTexts positions)).Nodup := by
  have same : table.rows.map (·.key? positions) = (table.rows.map (idTexts positions)).map some := by
    rw [List.map_map]
    apply List.map_congr_left
    intro row member
    have filled : positions.all fun position => !(row.cell position).isMissing := by
      simpa using identified.filled row member
    rw [row_key?, if_pos filled, Function.comp_apply, idTexts, Row.cells, List.map_map]
    rfl
  have keyed := identified.keyed
  rw [same] at keyed
  exact keyed.of_map some

private theorem mem_melted (distinct : table.names.Nodup)
    (located : ids.map table.position? = positions.map some) {column : Field × Nat}
    (member : column ∈ melted table positions) :
    table.field column.2 = column.1 ∧ table.position? column.1.name = some column.2 ∧
      column.1 ∈ table.fields ∧ column.1.name ∉ ids := by
  rw [melted_eq distinct located, List.mem_filter] at member
  obtain ⟨inside, other⟩ := member
  obtain ⟨_, known, same⟩ := List.mem_zipIdx inside
  have known : column.2 < table.fields.length := by simpa using known
  have same : column.1 = table.fields[column.2] := by simpa using same
  refine ⟨?_, position?_of_nodup distinct inside, same ▸ List.getElem_mem known, by simpa using other⟩
  rw [Table.field, List.getD_eq_getElem _ _ known, same]

private theorem melted_fields (distinct : table.names.Nodup)
    (located : ids.map table.position? = positions.map some) :
    (melted table positions).map (·.1) = table.fields.filter fun field => !ids.contains field.name := by
  rw [melted_eq distinct located]
  conv => rhs; rw [← List.zipIdx_map_fst 0 table.fields, List.filter_map]
  rfl

private theorem melted_names (distinct : table.names.Nodup)
    (located : ids.map table.position? = positions.map some) :
    (melted table positions).map (·.1.name) = table.names.filter fun name => !ids.contains name := by
  have fields := congrArg (List.map (·.name)) (melted_fields distinct located)
  rw [List.map_map] at fields
  rw [Table.names, List.filter_map]
  exact fields

private theorem melted_distinct (distinct : table.names.Nodup)
    (located : ids.map table.position? = positions.map some) :
    ((melted table positions).map (·.1.name)).Nodup := by
  rw [melted_names distinct located]
  exact distinct.filter _

private theorem melted_ne_nil (distinct : table.names.Nodup)
    (located : ids.map table.position? = positions.map some) (more : ∃ name ∈ table.names, name ∉ ids) :
    melted table positions ≠ [] := by
  obtain ⟨name, member, other⟩ := more
  have listed : name ∈ (melted table positions).map (·.1.name) := by
    rw [melted_names distinct located]
    exact List.mem_filter.mpr ⟨member, by simpa using other⟩
  obtain ⟨column, inside, _⟩ := List.mem_map.mp listed
  exact List.ne_nil_of_mem inside

private theorem filterMap_position? (located : ids.map table.position? = positions.map some) :
    ids.filterMap table.position? = positions := by
  have both := congrArg (List.filterMap id) located
  simpa [List.filterMap_map] using both

/-- The identifying columns are selected in front, and behind them those that melting turns into rows. -/
private theorem select_positions (distinct : table.names.Nodup)
    (located : ids.map table.position? = positions.map some) :
    (ids ++ table.names.filter fun name => !ids.contains name).filterMap table.position? =
      positions ++ (melted table positions).map (·.2) := by
  have others : (table.names.filter fun name => !ids.contains name).filterMap table.position? =
      (melted table positions).map (·.2) := by
    rw [← melted_names distinct located, List.filterMap_map, ← List.filterMap_eq_map]
    apply List.filterMap_congr
    intro column member
    exact (mem_melted distinct located member).2.1
  rw [List.filterMap_append, filterMap_position? located, others]

private theorem fronted_columns (distinct : table.names.Nodup)
    (located : ids.map table.position? = positions.map some) :
    fronted ids table.columns =
      (positions ++ (melted table positions).map (·.2)).map fun position =>
        (table.field position, table.cellsAt position) := by
  have others : (table.columns.filter fun column => !ids.contains column.1.name) =
      (melted table positions).map fun column => (table.field column.2, table.cellsAt column.2) := by
    rw [Table.columns, List.filter_map, melted_eq distinct located]
    apply List.map_congr_left
    intro column member
    have turning : column ∈ melted table positions := by
      rw [melted_eq distinct located]
      exact member
    rw [(mem_melted distinct located turning).1]
  simp only [fronted, find?_columns, others]
  rw [← List.map_filterMap, filterMap_position? located, List.map_append, List.map_map]
  rfl

private theorem select_columnar (distinct : table.names.Nodup)
    (located : ids.map table.position? = positions.map some) :
    Columnar (table.select (ids ++ table.names.filter fun name => !ids.contains name))
      (fronted ids table.columns) table.rows.length := by
  rw [Table.select, select_positions distinct located]
  refine ⟨?_, ?_, List.length_map _⟩
  · intro row member
    obtain ⟨_, _, rfl⟩ := List.mem_map.mp member
    simp [Table.fieldsAt, Row.cells]
  · rw [columns_fieldsAt, fronted_columns distinct located]

section Pivoted

variable (identified : Identifies table ids positions)

private theorem longTable_rows (table : Table) (positions : List Nat) (nameColumn valueColumn : String) :
    (longTable table positions nameColumn valueColumn).rows =
      table.rows.flatMap fun row => (melted table positions).map (longRow positions row) := rfl

private theorem mem_longTable {long : Row} :
    long ∈ (longTable table positions nameColumn valueColumn).rows ↔
      ∃ row ∈ table.rows, ∃ column ∈ melted table positions, longRow positions row column = long := by
  rw [longTable_rows, List.mem_flatMap]
  simp only [List.mem_map]

include identified

private theorem located_length : positions.length = ids.length :=
  requireAll_length (requireAll_eq_ok.mpr identified.located)

private theorem longTable_valid (nameColumn valueColumn : String) :
    validRows (longPositions ids) (longTable table positions nameColumn valueColumn).rows =
      (longTable table positions nameColumn valueColumn).rows := by
  rw [validRows, List.filter_eq_self]
  intro long member
  obtain ⟨row, inside, column, _, rfl⟩ := mem_longTable.mp member
  exact longRow_valid (located_length identified) (identified.filled row inside)

private theorem longTable_keys (nonempty : melted table positions ≠ []) (nameColumn valueColumn : String) :
    distinctKeys (longPositions ids) (longTable table positions nameColumn valueColumn).rows =
      table.rows.map (idTexts positions) := by
  rw [distinctKeys, longTable_valid identified, longTable_rows, List.map_flatMap,
    ← eraseDups_flatMap_own identified.apart nonempty]
  congr 2
  funext row
  rw [List.map_map]
  apply List.map_congr_left
  intro column _
  exact longRow_keyOf (located_length identified)

private theorem longTable_names (distinct : table.names.Nodup) (nonempty : table.rows ≠ [])
    (nameColumn valueColumn : String) :
    distinctNames (longPositions ids) (longTable table positions nameColumn valueColumn).rows =
      (melted table positions).map (·.1.name) := by
  rw [distinctNames, longTable_valid identified, longTable_rows, List.map_flatMap,
    ← eraseDups_flatMap_same nonempty (melted_distinct distinct identified.located)]
  congr 2
  funext row
  rw [List.map_map]
  apply List.map_congr_left
  intro column _
  exact longRow_nameOf (located_length identified)

private theorem longTable_indexCells {row : Row} (member : row ∈ table.rows)
    (nonempty : melted table positions ≠ [])
    (nameColumn valueColumn : String) :
    indexCells (longPositions ids) (longTable table positions nameColumn valueColumn).rows
      (idTexts positions row) = row.cells positions := by
  rw [indexCells, longTable_valid identified]
  apply find?_map_getD
  · obtain ⟨column, turning⟩ := List.exists_mem_of_ne_nil _ nonempty
    refine ⟨longRow positions row column, mem_longTable.mpr ⟨row, member, column, turning, rfl⟩, ?_⟩
    rw [longRow_keyOf (located_length identified), beq_self_eq_true]
  · intro long inside same
    obtain ⟨other, known, column, _, rfl⟩ := mem_longTable.mp inside
    rw [longRow_keyOf (located_length identified), beq_iff_eq] at same
    cases List.inj_on_of_nodup_map identified.apart known member same
    exact longRow_cells (located_length identified)

private theorem longTable_valueCell (distinct : table.names.Nodup) {row : Row} (member : row ∈ table.rows)
    {column : Field × Nat} (turning : column ∈ melted table positions) (missing : Cell)
    (nameColumn valueColumn : String) :
    valueCell (longPositions ids) (longTable table positions nameColumn valueColumn).rows missing
      (idTexts positions row) column.1.name = row.cell column.2 := by
  have length := located_length identified
  rw [valueCell, longTable_valid identified]
  apply find?_map_getD
  · refine ⟨longRow positions row column, mem_longTable.mpr ⟨row, member, column, turning, rfl⟩, ?_⟩
    rw [longRow_keyOf length, longRow_nameOf length, beq_self_eq_true, beq_self_eq_true, Bool.and_self]
  · intro long inside both
    obtain ⟨other, known, source, there, rfl⟩ := mem_longTable.mp inside
    rw [longRow_keyOf length, longRow_nameOf length, Bool.and_eq_true, beq_iff_eq, beq_iff_eq] at both
    cases List.inj_on_of_nodup_map identified.apart known member both.1
    cases List.inj_on_of_nodup_map (melted_distinct distinct identified.located) there turning both.2
    exact longRow_value length

private theorem fields_width : ids.length = (table.fieldsAt positions).length :=
  (located_length identified).symm.trans (List.length_map _).symm

private theorem longTable_index (nameColumn valueColumn : String) :
    (longTable table positions nameColumn valueColumn).fieldsAt (longPositions ids).index =
      table.fieldsAt positions := by
  rw [longPositions, fields_width identified]
  exact map_getD_range _ _ default

private theorem longTable_type (nameColumn valueColumn : String) :
    ((longTable table positions nameColumn valueColumn).field (longPositions ids).value).type =
      sharedType ((melted table positions).map (·.1.type)) := by
  simp [longTable, Table.field, longPositions, fields_width identified, List.getD_eq_getElem?_getD]

end Pivoted

private theorem sharedType_eq {types : List ColumnType} {type : ColumnType} (nonempty : types ≠ [])
    (all : ∀ other ∈ types, other = type) : sharedType types = type := by
  obtain ⟨first, rest, rfl⟩ := List.exists_cons_of_ne_nil nonempty
  rw [List.forall_mem_cons] at all
  obtain ⟨rfl, same⟩ := all
  rw [sharedType, if_pos (by simpa using same)]

private theorem wideTable_longTable (distinct : table.names.Nodup) (identified : Identifies table ids positions)
    (nonempty : table.rows ≠ []) (more : ∃ name ∈ table.names, name ∉ ids) {type : ColumnType}
    (typed : ∀ field ∈ table.fields, field.name ∉ ids → field.type = type)
    (nameColumn valueColumn : String) :
    wideTable (longTable table positions nameColumn valueColumn) ids valueColumn (longPositions ids) =
      table.select (ids ++ table.names.filter fun name => !ids.contains name) := by
  have located := identified.located
  have turning := melted_ne_nil distinct located more
  have shared : sharedType ((melted table positions).map (·.1.type)) = type := by
    apply sharedType_eq (by simpa using turning)
    intro other member
    obtain ⟨column, inside, rfl⟩ := List.mem_map.mp member
    obtain ⟨_, _, known, apart⟩ := mem_melted distinct located inside
    exact typed column.1 known apart
  rw [wideTable, Table.select, select_positions distinct located, longTable_keys identified turning,
    longTable_names identified distinct nonempty, longTable_index identified,
    longTable_type identified, shared, List.map_map, List.map_map, Table.fieldsAt, Table.fieldsAt,
    List.map_append, List.map_map]
  congr 1
  · congr 1
    apply List.map_congr_left
    intro column member
    obtain ⟨same, _, known, apart⟩ := mem_melted distinct located member
    rw [Function.comp_apply, Function.comp_apply, same, wideName, if_neg (by simpa using apart),
      ← typed column.1 known apart]
  · apply List.map_congr_left
    intro row member
    rw [Function.comp_apply, longTable_indexCells identified member turning, Row.cells, Row.cells,
      List.map_append, List.map_map, List.map_map]
    congr 1
    apply List.map_congr_left
    intro column inside
    exact longTable_valueCell identified distinct member inside _ _ _

/-- Pivoting what was melted gives the columns of the table back, with the identifying ones in front. -/
theorem pivot_melt (table : Table) (ids : List String) (positions : List Nat)
    (nameColumn valueColumn : String) (type : ColumnType) (distinct : table.names.Nodup)
    (identified : Identifies table ids positions) (nonempty : table.rows ≠ [])
    (more : ∃ name ∈ table.names, name ∉ ids)
    (typed : ∀ field ∈ table.fields, field.name ∉ ids → field.type = type)
    (name : nameColumn ∉ ids) (value : valueColumn ∉ ids) (apart : nameColumn ≠ valueColumn) :
    ∃ long wide, table.melt ids nameColumn valueColumn = .ok long ∧
      long.pivot ids nameColumn valueColumn = .ok wide ∧
      wide = table.select (ids ++ table.names.filter fun name => !ids.contains name) ∧
      Columnar wide (fronted ids table.columns) table.rows.length := by
  have located := identified.located
  refine ⟨_, _, melt_eq_ok.mpr ⟨positions, located, rfl⟩,
    pivot_eq_ok.mpr ⟨_, longTable_locates located identified.once name value apart, rfl⟩, ?_, ?_⟩
  · exact wideTable_longTable distinct identified nonempty more typed nameColumn valueColumn
  · rw [wideTable_longTable distinct identified nonempty more typed nameColumn valueColumn]
    exact select_columnar distinct located

/-- Columns by which rows are told apart stand between others, one of which has no name. -/
def gauges : Table where
  fields := [⟨"", .generic⟩, ⟨"run", .integer⟩, ⟨"load", .generic⟩, ⟨"node", .text⟩]
  rows :=
    [[.text "", .integer 1, .null, .text "a"], [.array [], .integer 1, .number 0.5, .text "b"],
      [.null, .integer 2, .number 0.5, .text "a"]]

theorem pivot_melt_gauges :
    ∃ long wide, gauges.melt ["node", "run"] "quantity" "value" = .ok long ∧
      long.pivot ["node", "run"] "quantity" "value" = .ok wide ∧
      wide.fields = [⟨"node", .text⟩, ⟨"run", .integer⟩, ⟨"", .generic⟩, ⟨"load", .generic⟩] ∧
      wide.rows =
        [[.text "a", .integer 1, .text "", .null], [.text "b", .integer 1, .array [], .number 0.5],
          [.text "a", .integer 2, .null, .number 0.5]] := by
  have identified : Identifies gauges ["node", "run"] [3, 1] :=
    ⟨by decide, by decide, by decide, by decide +kernel⟩
  obtain ⟨long, wide, went, pivoted, rfl, _⟩ :=
    pivot_melt gauges ["node", "run"] [3, 1] "quantity" "value" .generic (by decide) identified (by decide)
      (by decide) (by decide) (by decide) (by decide) (by decide)
  exact ⟨long, _, went, pivoted, rfl, rfl⟩

end WideAgain

end SimResults.Proofs.Reshaping
