import SimResults.Proofs.NestedLoops
import SimResults.Proofs.Reshaping
import SimResults.Proofs.WideTables

/-! What is joined to results, looked up. A table of names and values adds one column for each name, and
the cell of a row is the value of the first entry that has the key of that row and that name. -/

namespace SimResults.Proofs.Lookups
open Outcomes TableColumns FirstSeen Pivoting Joining NestedLoops Reshaping WideTables

section WideRows

variable {positions : Pivot.Positions} {rows : List Row} {key : List String} {missing : Cell}

/-- The row that a wide table has for a key. -/
def wideRow (positions : Pivot.Positions) (rows : List Row) (missing : Cell) (key : List String) : Row :=
  indexCells positions rows key ++ (distinctNames positions rows).map (valueCell positions rows missing key)

private theorem key?_cells (row : Row) (positions : List Nat) :
    row.key? positions = (row.cells positions).mapM Cell.key? := by
  rw [Row.key?, Row.cells, List.mapM_map]
  rfl

theorem key?_singleton (row : Row) (position : Nat) :
    row.key? [position] = (row.cell position).key?.map fun text => [text] := by
  rw [Row.key?, List.mapM_cons, List.mapM_nil]
  exact Option.map_eq_bind.symm

private theorem key?_indexCells (known : key ∈ distinctKeys positions rows) :
    (indexCells positions rows key).mapM Cell.key? = some key := by
  obtain ⟨row, member, rfl, cells⟩ := indexCells_known known
  have valid := (List.mem_filter.mp member).2
  rw [cells, ← key?_cells, row_key?, if_pos (Bool.and_eq_true_iff.mp valid).1]
  rfl

private theorem key?_wideRow (known : key ∈ distinctKeys positions rows) :
    (wideRow positions rows missing key).key? (List.range positions.index.length) = some key := by
  rw [key?_cells, ← indexCells_length known, wideRow, cells_append_left, key?_indexCells known]

theorem cell_wideRow (known : key ∈ distinctKeys positions rows) {index : Nat}
    (inside : index < (distinctNames positions rows).length) :
    (wideRow positions rows missing key).cell (positions.index.length + index) =
      valueCell positions rows missing key (distinctNames positions rows)[index] := by
  rw [← indexCells_length known, wideRow, cell_append_right, Row.cell,
    List.getD_eq_getElem _ _ (by simpa using inside), List.getElem_map]

private theorem valueCell_unknown (unknown : key ∉ distinctKeys positions rows) (name : String) :
    valueCell positions rows missing key name = missing := by
  have absent : ((validRows positions rows).find? fun row =>
      keyOf positions row == key && nameOf positions row == name) = none := by
    rw [List.find?_eq_none]
    intro row member both
    apply unknown
    obtain ⟨inside, counts⟩ := List.mem_filter.mp member
    exact mem_distinctKeys.mpr ⟨row, inside, counts, eq_of_beq (Bool.and_eq_true_iff.mp both).1⟩
  rw [valueCell, absent]
  rfl

private theorem find?_only {α : Type} [BEq α] [LawfulBEq α] {items : List α} {sought : α → Bool} {wanted : α}
    (only : ∀ item ∈ items, sought item = true ↔ item = wanted) :
    items.find? sought = if wanted ∈ items then some wanted else none := by
  induction items with
  | nil => rfl
  | cons item items ih =>
    obtain ⟨first, rest⟩ := List.forall_mem_cons.mp only
    rw [List.find?_cons]
    by_cases same : item = wanted
    · rw [first.mpr same]
      simp [same]
    · rw [Bool.eq_false_iff.mpr (mt first.mp same), ih rest]
      simp [Ne.symm same]

private theorem find?_wideRow {here : List Nat} (same : here.length = positions.index.length) (row : Row) :
    ((distinctKeys positions rows).map (wideRow positions rows missing)).find?
        (agree here (List.range positions.index.length) row) =
      (row.key? here).bind fun key =>
        if key ∈ distinctKeys positions rows then some (wideRow positions rows missing key) else none := by
  have agreed := agree_iff (same.trans List.length_range.symm) row
  rw [List.find?_map]
  cases given : row.key? here with
  | none =>
    have nowhere : (distinctKeys positions rows).find?
        (agree here (List.range positions.index.length) row ∘ wideRow positions rows missing) = none := by
      rw [List.find?_eq_none]
      intro key _ found
      obtain ⟨_, own, _⟩ := (agreed _).mp found
      cases given.symm.trans own
    rw [nowhere]
    rfl
  | some key =>
    rw [find?_only, Option.bind_some, apply_ite (Option.map _)]
    · rfl
    · intro other known
      rw [Function.comp_apply, agreed, given, key?_wideRow known]
      simp [eq_comm]

/-- The cells that a row takes over are those of its key, whatever their columns are called. -/
private theorem cells_found {here : List Nat} (same : here.length = positions.index.length) (rows : List Row)
    (label : String → String) (type : ColumnType) (row : Row) :
    (((distinctNames positions rows).map fun name => (⟨label name, type⟩ : Field)).zipIdx positions.index.length).map
        (fun (field, position) => (((distinctKeys positions rows).map (wideRow positions rows type.missing)).find?
          (agree here (List.range positions.index.length) row)).elim field.type.missing (·.cell position)) =
      (distinctNames positions rows).map fun name =>
        (row.key? here).elim type.missing (valueCell positions rows type.missing · name) := by
  rw [find?_wideRow same]
  generalize row.key? here = given
  apply List.ext_getElem
  · simp
  · intro index within _
    have inside : index < (distinctNames positions rows).length := by simpa using within
    simp only [List.getElem_map, List.getElem_zipIdx]
    cases given with
    | none => rfl
    | some key =>
      rw [Option.bind_some, Option.elim_some]
      split
      next known => exact cell_wideRow known inside
      next unknown => exact (valueCell_unknown unknown _).symm

end WideRows

section Renaming

variable {table : Table} {before after : String} {position : Nat}

private theorem rename_fields (found : table.position? before = some position) (after : String) :
    (table.rename before after).fields = table.fields.set position ⟨after, (table.field position).type⟩ := by
  have inside := (List.findIdx?_eq_some_iff_getElem.mp found).1
  rw [Table.rename, found]
  apply List.ext_getElem
  · simp
  · intro index _ within
    have within : index < table.fields.length := by simpa using within
    simp only [List.getElem_modify, List.getElem_set, Table.field, List.getD_eq_getElem _ _ inside]
    split
    next same =>
      subst same
      rfl
    next => rfl

theorem rename_names (found : table.position? before = some position) (after : String) :
    (table.rename before after).names = table.names.set position after := by
  rw [Table.names, rename_fields found, List.map_set, Table.names]

private theorem rename_type (table : Table) (before after : String) (position : Nat) :
    ((table.rename before after).field position).type = (table.field position).type := by
  cases found : table.position? before with
  | none => rw [Table.rename, found]
  | some renamed =>
    have inside := (List.findIdx?_eq_some_iff_getElem.mp found).1
    rw [Table.field, rename_fields found, List.getD_eq_getElem?_getD, List.getElem?_set]
    by_cases same : renamed = position
    · subst same
      rw [if_pos rfl, if_pos inside]
      rfl
    · rw [if_neg same, ← List.getD_eq_getElem?_getD, Table.field]

theorem rename_rows (table : Table) (before after : String) : (table.rename before after).rows = table.rows := by
  rw [Table.rename]
  split
  · rfl
  · rfl

private theorem rename_position? (found : table.position? before = some position) (new : after ∉ table.names) :
    (table.rename before after).position? after = some position := by
  have inside : position < table.names.length := by
    simpa [Table.names] using (List.findIdx?_eq_some_iff_getElem.mp found).1
  rw [position?_eq_names, rename_names found, List.findIdx?_eq_some_iff_getElem]
  refine ⟨by simpa using inside, by simp, ?_⟩
  intro earlier smaller same
  have member : table.names[earlier] ∈ table.names := List.getElem_mem _
  rw [List.getElem_set_ne (by omega)] at same
  exact new (eq_of_beq same ▸ member)

theorem rename_position?_other (found : table.position? before = some position) {name : String}
    (old : name ≠ before) (new : name ≠ after) :
    (table.rename before after).position? name = table.position? name := by
  have ⟨inside, same, _⟩ := List.findIdx?_eq_some_iff_getElem.mp (position?_eq_names table before ▸ found)
  have unlike : (after == name) = (table.names[position] == name) := by
    rw [eq_of_beq same, beq_false_of_ne new.symm, beq_false_of_ne old.symm]
  have flags : (table.names.set position after).map (· == name) = table.names.map (· == name) := by
    rw [List.map_set, unlike, ← List.map_set, List.set_getElem_self]
  have first (names : List String) : names.findIdx? (· == name) = (names.map (· == name)).findIdx? id := by
    rw [List.findIdx?_map]
    rfl
  rw [position?_eq_names, position?_eq_names, rename_names found, first, flags, ← first]

end Renaming

section Joined

variable {table : Table} {positions : Pivot.Positions} {keys : List String} {here : List Nat}
  {front : List Field} {type : ColumnType}

/-- Whatever its columns are called, a wide table adds what its long table says of the key of a row. -/
theorem leftJoin_wide (left : table.requireAll keys = .ok here) (distinct : keys.Nodup)
    (leading : front.map (·.name) = keys) (width : positions.index.length = keys.length)
    (rows : List Row) (label : String → String) :
    ∃ added, SetApart table.names ((distinctNames positions rows).map fun name => ⟨label name, type⟩) added ∧
      table.leftJoin
          { fields := front ++ (distinctNames positions rows).map fun name => ⟨label name, type⟩
            rows := (distinctKeys positions rows).map (wideRow positions rows type.missing) } keys = .ok
        { fields := table.fields ++ added
          rows := table.rows.map fun row => row ++ (distinctNames positions rows).map fun name =>
            (row.key? here).elim type.missing (valueCell positions rows type.missing · name) } := by
  let wide : Table :=
    { fields := front ++ (distinctNames positions rows).map fun name => ⟨label name, type⟩
      rows := (distinctKeys positions rows).map (wideRow positions rows type.missing) }
  have names : wide.names = keys ++ (distinctNames positions rows).map label := by
    simp [wide, Table.names, leading, Function.comp_def]
  have fits : front.length = positions.index.length := by
    rw [width, ← leading, List.length_map]
  have behind : carried wide (List.range keys.length) =
      ((distinctNames positions rows).map fun name => ⟨label name, type⟩).zipIdx positions.index.length := by
    rw [← width, ← fits]
    exact melted_behind front _ _
  obtain ⟨added, apart, joined⟩ := leftJoin_found left (requireAll_leading names distinct)
  rw [behind, List.zipIdx_map_fst] at apart
  refine ⟨added, apart, joined.trans ?_⟩
  have cells := cells_found ((requireAll_length left).trans width.symm) rows label type
  rw [behind, ← width]
  simp only [wide, cells]

/-- Each attribute is a column of its own, in which a row has the value of the first entry for its own
item. Attributes called like a key, or like a column before them, go under another name. -/
theorem appendAttributes_by_item (table attributes : Table) (keyed : ∀ key ∈ resultKeys, key ∈ table.names)
    (complete : ∀ name ∈ attributeColumns, name ∈ attributes.names) :
    ∃ here positions added,
      resultKeys.map table.position? = here.map some ∧
      Locates attributes resultKeys Column.attrname Column.attrvalue positions ∧
      SetApart table.names
        ((distinctNames positions attributes.rows).map fun name =>
          ⟨if name ∈ resultKeys then name ++ "_attrvalue" else name, (attributes.field positions.value).type⟩)
        added ∧
      table.appendAttributes attributes = .ok
        { fields := table.fields ++ added
          rows := table.rows.map fun row => row ++ (distinctNames positions attributes.rows).map fun name =>
            (row.key? here).elim (attributes.field positions.value).type.missing
              (valueCell positions attributes.rows (attributes.field positions.value).type.missing · name) } := by
  have present : ∀ name ∈ attributeColumns, attributes.contains name := by simpa only [contains_iff] using complete
  rw [attributeColumns, List.forall_mem_append] at present
  obtain ⟨wide, pivoted⟩ := pivot_succeeds.mpr
    ⟨present.1, present.2 Column.attrname (by simp), present.2 Column.attrvalue (by simp)⟩
  obtain ⟨positions, located, rfl⟩ := pivot_eq_ok.mp pivoted
  obtain ⟨here, left⟩ := requireAll_succeeds.mpr fun key member => contains_iff.mpr (keyed key member)
  have named (name : String) : wideName resultKeys Column.attrvalue name =
      if name ∈ resultKeys then name ++ "_attrvalue" else name := by
    rw [wideName_eq, String.append_assoc]
    rfl
  obtain ⟨added, apart, joined⟩ := leftJoin_wide left resultKeys_distinct
    (fieldsAt_names located.index) located.width attributes.rows (wideName resultKeys Column.attrvalue)
  simp only [named] at apart
  refine ⟨here, positions, added, requireAll_eq_ok.mp left, located, apart, ?_⟩
  rw [Table.appendAttributes]
  change (attributes.pivot resultKeys Column.attrname Column.attrvalue >>=
    fun wide => table.leftJoin wide resultKeys) = _
  rw [pivoted]
  exact joined

def delays : Table where
  fields := [⟨"module", .text⟩, ⟨"unit", .generic⟩, ⟨"runID", .text⟩, ⟨"name", .text⟩]
  rows :=
    [[.text "host", .integer 1, .text "r0", .text "delay"], [.null, .null, .text "r0", .text "delay"],
      [.text "host", .null, .text "r1", .text "delay"]]

def remarks : Table where
  fields :=
    [⟨"attrname", .text⟩, ⟨"attrvalue", .number⟩, ⟨"runID", .text⟩, ⟨"module", .text⟩, ⟨"name", .text⟩]
  rows :=
    [[.text "unit", .number 2, .text "r0", .text "host", .text "delay"],
      [.text "unit", .number 4, .text "r0", .text "host", .text "delay"],
      [.text "none", .number 8, .text "r0", .null, .text "delay"],
      [.text "runID_attrvalue", .number 16, .text "r9", .text "host", .text "delay"],
      [.text "runID", .number 32, .text "r1", .text "host", .text "delay"]]

def remarked : Table where
  fields := delays.fields ++
    [⟨"unit_y", .number⟩, ⟨"runID_attrvalue", .number⟩, ⟨"runID_attrvalue_y", .number⟩]
  rows :=
    let none := Cell.number Number.notANumber
    [[.text "host", .integer 1, .text "r0", .text "delay", .number 2, none, none],
      [.null, .null, .text "r0", .text "delay", none, none, none],
      [.text "host", .null, .text "r1", .text "delay", none, none, .number 32]]

theorem appendAttributes_by_item_delays :
    (∀ key ∈ resultKeys, key ∈ delays.names) ∧ (∀ name ∈ attributeColumns, name ∈ remarks.names) ∧
      SetApart delays.names
        [⟨"unit", .number⟩, ⟨"runID_attrvalue", .number⟩, ⟨"runID_attrvalue", .number⟩]
        [⟨"unit_y", .number⟩, ⟨"runID_attrvalue", .number⟩, ⟨"runID_attrvalue_y", .number⟩] ∧
      delays.appendAttributes remarks = .ok remarked := by
  have keyed : ∀ key ∈ resultKeys, key ∈ delays.names := by decide
  have complete : ∀ name ∈ attributeColumns, name ∈ remarks.names := by decide
  obtain ⟨here, ⟨indexed, named, valued⟩, added, left, located, apart, appended⟩ :=
    appendAttributes_by_item delays remarks keyed complete
  have positions : remarks.requireAll resultKeys = .ok [2, 3, 4] := by decide
  have result : delays.appendAttributes remarks = .ok remarked := by decide +kernel
  obtain ⟨fields, _⟩ := Table.mk.inj (Except.ok.inj (appended.symm.trans result))
  cases List.append_cancel_left fields
  cases (requireAll_eq_ok.mpr located.index).symm.trans positions
  cases (show some 0 = some named from located.name)
  cases (show some 1 = some valued from located.value)
  exact ⟨keyed, complete, apart, result⟩

def longMetadata (metadata : Table) : Table :=
  (metadata.rename Column.name Column.attrname).rename Column.value Column.attrvalue

variable {metadata : Table}

/-- Names and values are called like those of attributes on the way, which no column was called before. -/
private theorem longMetadata_locates (plain : Column.attrname ∉ metadata.names ∧ Column.attrvalue ∉ metadata.names)
    (located : Locates metadata [Column.runID] Column.name Column.value positions) :
    Locates (longMetadata metadata) [Column.runID] Column.attrname Column.attrvalue positions := by
  have valued : (metadata.rename Column.name Column.attrname).position? Column.value = some positions.value :=
    (rename_position?_other located.name (by decide) (by decide)).trans located.value
  have unused : Column.attrvalue ∉ (metadata.rename Column.name Column.attrname).names := by
    rw [rename_names located.name]
    intro member
    rcases List.mem_or_eq_of_mem_set member with old | same
    · exact plain.2 old
    · exact absurd same (by decide)
  refine ⟨?_, ?_, rename_position? valued unused⟩
  · rw [← located.index, List.map_singleton, List.map_singleton, longMetadata,
      rename_position?_other valued (by decide) (by decide),
      rename_position?_other located.name (by decide) (by decide)]
  · rw [longMetadata, rename_position?_other valued (by decide) (by decide)]
    exact rename_position? located.name plain.1

private theorem suffixed_wideTable (table : Table) (index : List String) (values suffix : String)
    (single : positions.index.length = 1) :
    (wideTable table index values positions).suffixed suffix =
      { fields := table.fieldsAt positions.index ++ (distinctNames positions table.rows).map fun name =>
          ⟨wideName index values name ++ suffix, (table.field positions.value).type⟩
        rows := (distinctKeys positions table.rows).map
          (wideRow positions table.rows (table.field positions.value).type.missing) } := by
  obtain ⟨first, same⟩ := List.length_eq_one_iff.mp single
  simp [Table.suffixed, wideTable, Table.fieldsAt, same, wideRow, Function.comp_def]

/-- Names of metadata that are free with their suffix are used as they are. -/
private theorem suffixed_kept {rows : List Row} {suffix : String} {added : List Field}
    (apart : ∀ name ∈ distinctNames positions rows, name ≠ Column.runID ∧ name ++ suffix ∉ table.names)
    (named : SetApart table.names ((distinctNames positions rows).map fun name =>
      ⟨wideName [Column.runID] Column.attrvalue name ++ suffix, .text⟩) added) :
    added = (distinctNames positions rows).map fun name => ⟨name ++ suffix, .text⟩ := by
  have plain : ∀ name ∈ distinctNames positions rows,
      (⟨wideName [Column.runID] Column.attrvalue name ++ suffix, .text⟩ : Field) = ⟨name ++ suffix, .text⟩ := by
    intro name member
    rw [wideName_eq, if_neg (by simpa using (apart name member).1)]
  rw [List.map_congr_left plain] at named
  apply named.eq_self
  · intro field member
    obtain ⟨name, inside, rfl⟩ := List.mem_map.mp member
    exact (apart name inside).2
  · rw [List.map_map]
    apply (nodup_eraseDups _).map
    intro first other same
    exact (String.append_left_inj suffix).mp same

/-- Metadata, which has no columns of attributes, adds a column for each name, in which a row has the value
of the first entry for its run. What is known of a run without rows adds columns, but no row. -/
theorem appendMetadata_by_run (table metadata : Table) (suffix : String) (run : Nat)
    (positions : Pivot.Positions) (runs : table.position? Column.runID = some run)
    (located : Locates metadata [Column.runID] Column.name Column.value positions)
    (texts : (metadata.field positions.value).type = .text)
    (plain : Column.attrname ∉ metadata.names ∧ Column.attrvalue ∉ metadata.names)
    (apart : ∀ name ∈ distinctNames positions metadata.rows,
      name ≠ Column.runID ∧ name ++ suffix ∉ table.names) :
    table.appendMetadata metadata suffix = .ok
      { fields := table.fields ++ (distinctNames positions metadata.rows).map fun name => ⟨name ++ suffix, .text⟩
        rows := table.rows.map fun row => row ++ (distinctNames positions metadata.rows).map fun name =>
          (row.cell run).key?.elim .null fun text => valueCell positions metadata.rows .null [text] name } := by
  have keyed : table.requireAll [Column.runID] = .ok [run] := requireAll_eq_ok.mpr (by simp [runs])
  have present : table.contains Column.runID = true := Option.isSome_of_mem runs
  have single : positions.index.length = 1 := located.width
  have long := longMetadata_locates plain located
  have rows : (longMetadata metadata).rows = metadata.rows := by rw [longMetadata, rename_rows, rename_rows]
  have type : ((longMetadata metadata).field positions.value).type = .text := by
    rw [longMetadata, rename_type, rename_type, texts]
  have wide := suffixed_wideTable (longMetadata metadata) [Column.runID] Column.attrvalue suffix single
  rw [rows, type] at wide
  obtain ⟨added, named, joined⟩ := leftJoin_wide keyed (List.nodup_singleton _)
    (fieldsAt_names long.index) single metadata.rows fun name => wideName [Column.runID] Column.attrvalue name ++ suffix
  cases suffixed_kept apart named
  rw [Table.appendMetadata, present]
  change ((longMetadata metadata).pivot [Column.runID] Column.attrname Column.attrvalue >>=
    fun wide => table.leftJoin (wide.suffixed suffix) [Column.runID]) = _
  rw [pivot_eq_ok.mpr ⟨positions, long, rfl⟩]
  change table.leftJoin (Table.suffixed _ suffix) _ = _
  simp only [wide, joined, key?_singleton, Option.elim_map]
  rfl

def notes : Table where
  fields := [⟨"value", .text⟩, ⟨"remark", .generic⟩, ⟨"name", .text⟩, ⟨"runID", .text⟩]
  rows :=
    [[.text "3", .null, .text "N", .text "7"], [.text "4", .null, .text "N", .text "7"],
      [.text "5", .null, .text "M", .null], [.text "6", .null, .text "K", .text "9"],
      [.null, .null, .text "N", .text "8"]]

def stays : Table where
  fields := [⟨"mean", .number⟩, ⟨"runID", .generic⟩, ⟨"runID", .text⟩]
  rows :=
    [[.number 1.5, .integer 7, .text "9"], [.number 2, .null, .text "9"], [.number 4, .text "8", .null],
      [.number 8, .text "7", .null]]

theorem appendMetadata_by_run_stays :
    Locates notes [Column.runID] Column.name Column.value ⟨[3], 2, 0⟩ ∧
      (∀ name ∈ ["N", "K"], name ≠ Column.runID ∧ name ++ "_config" ∉ stays.names) ∧
      stays.appendMetadata notes "_config" = .ok
        { fields := stays.fields ++ [⟨"N_config", .text⟩, ⟨"K_config", .text⟩]
          rows :=
            [[.number 1.5, .integer 7, .text "9", .text "3", .null], [.number 2, .null, .text "9", .null, .null],
              [.number 4, .text "8", .null, .null, .null], [.number 8, .text "7", .null, .text "3", .null]] } := by
  have located : Locates notes [Column.runID] Column.name Column.value ⟨[3], 2, 0⟩ :=
    ⟨by decide, by decide, by decide⟩
  have apart : ∀ name ∈ ["N", "K"], name ≠ Column.runID ∧ name ++ "_config" ∉ stays.names := by decide +kernel
  have appended := appendMetadata_by_run stays notes "_config" 1 ⟨[3], 2, 0⟩ (by decide) located (by decide)
    (by decide) apart
  exact ⟨located, apart, appended.trans (by decide +kernel)⟩

end Joined

end SimResults.Proofs.Lookups
