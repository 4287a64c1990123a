import SimResults.Table.Columns

/-! Tables by their columns. What an operation does is said once, as a change to the list of
columns of a rectangular table, and its rows and positions play no part after that. -/

namespace SimResults.Proofs.TableColumns

theorem row_ext {row other : Row} (width : row.length = other.length)
    (cells : ∀ column < row.length, row.cell column = other.cell column) : row = other := by
  apply List.ext_getElem width
  intro column inside within
  have same := cells column inside
  simpa [Row.cell, List.getD_eq_getElem?_getD, inside, within] using same

theorem cell_set (row : Row) (position column : Nat) (cell : Cell) :
    Row.cell (row.set position cell) column =
      if position = column ∧ column < row.length then cell else row.cell column := by
  simp only [Row.cell, List.getD_eq_getElem?_getD, List.getElem?_set]
  by_cases same : position = column
  · subst same
    by_cases inside : position < row.length
    · simp [inside]
    · simp [inside]
  · simp [same]

private theorem cell_append_left (row : Row) (more : List Cell) {column : Nat} (inside : column < row.length) :
    Row.cell (row ++ more) column = row.cell column := by
  simp [Row.cell, List.getD_eq_getElem?_getD, List.getElem?_append_left inside]

theorem cell_append_right (row more : List Cell) (column : Nat) :
    Row.cell (row ++ more) (row.length + column) = Row.cell more column := by
  rw [Row.cell, Row.cell, List.getD_eq_getElem?_getD, List.getD_eq_getElem?_getD,
    List.getElem?_append_right (Nat.le_add_right _ _), Nat.add_sub_cancel_left]

theorem map_getD_range {α : Type} (front back : List α) (missing : α) :
    ((List.range front.length).map fun position => (front ++ back).getD position missing) = front := by
  apply List.ext_getElem
  · simp
  · intro position _ inside
    simp [List.getD_eq_getElem?_getD, List.getElem?_append_left inside, inside]

theorem cells_append_left (row more : List Cell) : Row.cells (row ++ more) (List.range row.length) = row :=
  map_getD_range row more .null

private theorem cell_append_last {row : Row} {position : Nat} (width : row.length = position) (cell : Cell) :
    Row.cell (row ++ [cell]) position = cell := by
  subst width
  simp [Row.cell, List.getD_eq_getElem?_getD]

private theorem cell_tail (row : Row) (column : Nat) : Row.cell row.tail column = row.cell (column + 1) := by
  simp [Row.cell, List.getD_eq_getElem?_getD]

theorem getElem?_columns (table : Table) (position : Nat) :
    table.columns[position]? =
      table.fields[position]?.map fun field => (field, table.cellsAt position) := by
  rw [Table.columns, List.getElem?_map, List.getElem?_zipIdx, Option.map_map, Nat.zero_add]
  rfl

private theorem columns_length (table : Table) : table.columns.length = table.fields.length := by
  simp [Table.columns]

theorem columns_height {table : Table} {column : Field × List Cell} (member : column ∈ table.columns) :
    column.2.length = table.rows.length := by
  obtain ⟨position, there⟩ := List.getElem?_of_mem member
  rw [getElem?_columns, Option.map_eq_some_iff] at there
  obtain ⟨_, _, rfl⟩ := there
  exact List.length_map _

private theorem columns_fields (table : Table) : table.columns.map (·.1) = table.fields := by
  simp [Table.columns, List.map_map, Function.comp_def, List.zipIdx_map_fst]

theorem find?_columns (table : Table) (name : String) :
    (table.columns.find? fun column => column.1.name == name) =
      (table.position? name).map fun position => (table.field position, table.cellsAt position) := by
  have first : table.position? name = table.columns.findIdx? fun column => column.1.name == name := by
    rw [Table.position?, positionIn?, ← columns_fields table, List.findIdx?_map]
    rfl
  rw [first, List.find?_eq_bind_findIdx?_getElem?]
  cases found : table.columns.findIdx? fun column => column.1.name == name with
  | none => rfl
  | some position =>
    obtain ⟨inside, _⟩ := List.findIdx?_eq_some_iff_getElem.mp found
    rw [columns_length] at inside
    rw [Option.bind_some, getElem?_columns]
    simp [Table.field, List.getD_eq_getElem?_getD, inside]

/-- Rearranging all rows alike rearranges the columns. -/
theorem columns_fieldsAt (table : Table) (positions : List Nat) :
    Table.columns ⟨table.fieldsAt positions, table.rows.map (·.cells positions)⟩ =
      positions.map fun position => (table.field position, table.cellsAt position) := by
  apply List.ext_getElem
  · simp [Table.columns, Table.fieldsAt]
  · intro index _ inside
    have inside : index < positions.length := by simpa using inside
    simp [Table.columns, Table.fieldsAt, Table.cellsAt, Row.cells, Row.cell, List.getD_eq_getElem?_getD, inside]

/-- Splits off the first column; the others are the columns of the shortened rows. -/
private theorem columns_cons (field : Field) (fields : List Field) (rows : List Row) :
    Table.columns ⟨field :: fields, rows⟩ =
      (field, rows.map (Row.cell · 0)) :: Table.columns ⟨fields, rows.map List.tail⟩ := by
  simp only [Table.columns, Table.cellsAt, List.zipIdx_cons, List.map_cons, List.zipIdx_succ,
    List.map_map]
  congr 1
  apply List.map_congr_left
  intro ⟨field, position⟩ _
  simp [Function.comp_def, cell_tail]

def namesOf (columns : List (Field × List Cell)) : List String := columns.map (·.1.name)

theorem namesOf_append (columns more : List (Field × List Cell)) :
    namesOf (columns ++ more) = namesOf columns ++ namesOf more := List.map_append

theorem position?_eq_names (table : Table) (name : String) :
    table.position? name = table.names.findIdx? (· == name) := by
  rw [Table.names, List.findIdx?_map]
  rfl

theorem column_once {columns : List (Field × List Cell)} {name : String}
    (once : (namesOf columns).count name = 1) :
    ∃ column ∈ columns, column.1.name = name ∧
      ∀ other ∈ columns, other.1.name = name → other = column := by
  have single : (columns.filter fun column => column.1.name == name).length = 1 := by
    rw [← once, namesOf, List.count_eq_countP, List.countP_map, List.countP_eq_length_filter]
    rfl
  obtain ⟨column, only⟩ := List.length_eq_one_iff.mp single
  have own : column ∈ columns.filter fun column => column.1.name == name := by simp [only]
  obtain ⟨member, named⟩ := List.mem_filter.mp own
  refine ⟨column, member, by simpa using named, ?_⟩
  intro other inside same
  have found : other ∈ columns.filter fun column => column.1.name == name :=
    List.mem_filter.mpr ⟨inside, by simpa using same⟩
  rw [only] at found
  exact List.mem_singleton.mp found

theorem contains_iff {table : Table} {name : String} : table.contains name = true ↔ name ∈ table.names := by
  rw [Table.contains, Table.position?, positionIn?, List.findIdx?_isSome, List.any_eq_true, Table.names,
    List.mem_map]
  simp

/-- A rectangular table by its columns and its number of rows. -/
structure Columnar (table : Table) (columns : List (Field × List Cell)) (height : Nat) : Prop where
  rectangular : table.Rectangular
  columns : table.columns = columns
  height : table.rows.length = height

namespace Columnar

variable {table : Table} {columns : List (Field × List Cell)} {height : Nat}

theorem of_rectangular (rectangular : table.Rectangular) :
    Columnar table table.columns table.rows.length := ⟨rectangular, rfl, rfl⟩

theorem names (shape : Columnar table columns height) : table.names = namesOf columns := by
  rw [Table.names, ← columns_fields, List.map_map, shape.columns]
  rfl

theorem position? (shape : Columnar table columns height) (name : String) :
    table.position? name = (namesOf columns).findIdx? (· == name) := by
  rw [← shape.names, position?_eq_names]

theorem contains_iff (shape : Columnar table columns height) {name : String} :
    table.contains name = true ↔ name ∈ namesOf columns := by
  rw [← shape.names]
  exact TableColumns.contains_iff

theorem column? (shape : Columnar table columns height) (name : String) :
    table.column? name = (columns.find? fun column => column.1.name == name).map (·.2) := by
  rw [← shape.columns, find?_columns, Option.map_map]
  rfl

/-- Tables that look alike by their columns and rows are the same. -/
theorem unique (shape : Columnar table columns height) {other : Table} (same : Columnar other columns height) :
    table = other := by
  have fields : table.fields = other.fields := by
    rw [← columns_fields, ← columns_fields, shape.columns, same.columns]
  have height : table.rows.length = other.rows.length := shape.height.trans same.height.symm
  have cells (position : Nat) (inside : position < table.fields.length) :
      table.cellsAt position = other.cellsAt position := by
    have here := getElem?_columns table position
    have there := getElem?_columns other position
    rw [shape.columns, ← same.columns, there, ← fields, List.getElem?_eq_getElem inside] at here
    exact (congrArg Prod.snd (Option.some.inj here)).symm
  have rows : table.rows = other.rows := by
    apply List.ext_getElem height
    intro index within _
    have width := shape.rectangular _ (List.getElem_mem within)
    apply row_ext (width.trans (fields ▸ (same.rectangular _ (List.getElem_mem _)).symm))
    intro column inside
    have same := congrArg (·[index]?) (cells column (width ▸ inside))
    simpa [Table.cellsAt, within, height ▸ within] using same
  obtain ⟨_, _⟩ := table
  cases fields
  cases rows
  rfl

private theorem cellsAt_append (table : Table) (field : Field) (cells : List Cell) (position : Nat) :
    Table.cellsAt (table.append field cells) position =
      table.rows.zipWith (fun row cell => Row.cell (row ++ [cell]) position) cells := by
  simp [Table.cellsAt, Table.append, List.map_zipWith]

private theorem cellsAt_append_inside (rectangular : table.Rectangular) (field : Field)
    {cells : List Cell} (fits : cells.length = table.rows.length) {position : Nat}
    (inside : position < table.fields.length) :
    Table.cellsAt (table.append field cells) position = table.cellsAt position := by
  rw [cellsAt_append]
  apply List.ext_getElem
  · simp [Table.cellsAt, fits]
  · intro index _ _
    simp only [List.getElem_zipWith, Table.cellsAt, List.getElem_map]
    exact cell_append_left _ _ (by rwa [rectangular _ (List.getElem_mem _)])

private theorem cellsAt_append_last (rectangular : table.Rectangular) (field : Field)
    {cells : List Cell} (fits : cells.length = table.rows.length) :
    Table.cellsAt (table.append field cells) table.fields.length = cells := by
  rw [cellsAt_append]
  apply List.ext_getElem
  · simp [fits]
  · intro index _ _
    rw [List.getElem_zipWith]
    exact cell_append_last (rectangular _ (List.getElem_mem _)) _

theorem append (shape : Columnar table columns height) (field : Field) {cells : List Cell}
    (fits : cells.length = height) :
    Columnar (table.append field cells) (columns ++ [(field, cells)]) height := by
  have rows : cells.length = table.rows.length := fits.trans shape.height.symm
  refine ⟨?_, ?_, by simp [Table.append, ← rows, fits]⟩
  · intro row member
    obtain ⟨index, inside, rfl⟩ := List.mem_iff_getElem.mp member
    simp only [Table.append, List.getElem_zipWith, List.length_append, List.length_singleton]
    rw [shape.rectangular _ (List.getElem_mem _)]
  · apply List.ext_getElem?
    intro position
    rw [getElem?_columns, ← shape.columns]
    change (table.fields ++ [field])[position]?.map _ = _
    rcases Nat.lt_trichotomy position table.fields.length with inside | rfl | outside
    · rw [List.getElem?_append_left inside, List.getElem?_append_left (by rwa [columns_length]),
        getElem?_columns, cellsAt_append_inside shape.rectangular field rows inside]
    · rw [cellsAt_append_last shape.rectangular field rows, ← columns_length, List.getElem?_concat_length,
        columns_length, List.getElem?_concat_length]
      rfl
    · rw [List.getElem?_eq_none (by simp; omega),
        List.getElem?_eq_none (by simp [columns_length]; omega)]
      rfl

end Columnar

section Dropping

theorem flagged_map {α : Type} (keep : α → Bool) (items : List α) :
    flagged (items.map keep) items = items.filter keep := by
  induction items with
  | nil => rfl
  | cons item items ih =>
    rw [List.map_cons, flagged, ih, List.filter_cons]

private theorem flagged_length {α β : Type} (flags : List Bool) (items : List α) (others : List β)
    (same : items.length = others.length) :
    (flagged flags items).length = (flagged flags others).length := by
  induction flags generalizing items others with
  | nil => simpa [flagged] using same
  | cons flag flags ih =>
    cases items with
    | nil => cases others <;> simp_all [flagged]
    | cons item items =>
      cases others with
      | nil => simp at same
      | cons other others =>
        have rest := ih items others (by simpa using same)
        cases flag <;> simp [flagged, rest]

private theorem flagged_row (flag : Bool) (flags : List Bool) {row : Row} (filled : row ≠ []) :
    flagged (flag :: flags) row =
      if flag then row.cell 0 :: flagged flags row.tail else flagged flags row.tail := by
  cases row with
  | nil => exact absurd rfl filled
  | cons cell row => rfl

/-- Fields and rows that lose what has no flag lose whole columns. The induction is on the
fields, and takes the first cell off every row. -/
private theorem flagged_columns (flags : List Bool) (fields : List Field) (rows : List Row)
    (flagsFit : flags.length = fields.length) (rowsFit : ∀ row ∈ rows, row.length = fields.length) :
    Table.columns ⟨flagged flags fields, rows.map (flagged flags)⟩ =
      flagged flags (Table.columns ⟨fields, rows⟩) := by
  induction fields generalizing flags rows with
  | nil => cases flags <;> simp [flagged, Table.columns]
  | cons field fields ih =>
    obtain _ | ⟨flag, flags⟩ := flags
    · simp at flagsFit
    · have filled : ∀ row ∈ rows, row ≠ [] := by
        intro row member empty
        have := rowsFit row member
        simp [empty] at this
      have rest := ih flags (rows.map List.tail) (by simpa using flagsFit) (by
        intro row member
        obtain ⟨whole, inside, rfl⟩ := List.mem_map.mp member
        simp [rowsFit whole inside])
      rw [List.map_map] at rest
      rw [columns_cons, flagged]
      cases flag with
      | false =>
        rw [flagged, if_neg Bool.false_ne_true, if_neg Bool.false_ne_true, ← rest]
        congr 2
        apply List.map_congr_left
        intro row member
        rw [flagged_row _ _ (filled row member)]
        rfl
      | true =>
        rw [flagged, if_pos rfl, if_pos rfl, columns_cons, ← rest, List.map_map, List.map_map]
        congr 1
        · congr 1
          apply List.map_congr_left
          intro row member
          rw [Function.comp_apply, flagged_row _ _ (filled row member)]
          rfl
        · congr 2
          apply List.map_congr_left
          intro row member
          rw [Function.comp_apply, flagged_row _ _ (filled row member)]
          rfl

theorem Columnar.dropColumns {table : Table} {columns : List (Field × List Cell)} {height : Nat}
    (shape : Columnar table columns height) (drop : Field → List Cell → Bool) :
    Columnar (table.dropColumns drop) (columns.filter fun column => !drop column.1 column.2) height := by
  refine ⟨?_, ?_, by simp [Table.dropColumns, shape.height]⟩
  · intro row member
    obtain ⟨whole, inside, rfl⟩ := List.mem_map.mp member
    exact flagged_length _ _ _ (shape.rectangular whole inside)
  · rw [Table.dropColumns, flagged_columns _ _ _ (by simp [columns_length]) shape.rectangular,
      ← shape.columns]
    exact flagged_map _ table.columns

end Dropping

section Extending

/-- Columns in front of others that have names of their own, all of them of an allowed kind. -/
def Extends (allowed : Field × List Cell → Prop) (columns more : List (Field × List Cell)) : Prop :=
  ∃ added, more = columns ++ added ∧
    ∀ column ∈ added, column.1.name ∉ namesOf columns ∧ allowed column

variable {allowed : Field × List Cell → Prop} {columns more : List (Field × List Cell)}

theorem Extends.refl (columns : List (Field × List Cell)) : Extends allowed columns columns :=
  ⟨[], (List.append_nil columns).symm, by simp⟩

theorem Extends.within (extended : Extends allowed columns more) : columns <+: more := by
  obtain ⟨added, rfl, _⟩ := extended
  exact List.prefix_append _ _

theorem Extends.mem_names (extended : Extends allowed columns more) {name : String}
    (member : name ∈ namesOf columns) : name ∈ namesOf more := (extended.within.map _).subset member

theorem Extends.trans {whole : List (Field × List Cell)} (first : Extends allowed columns more)
    (second : Extends allowed more whole) : Extends allowed columns whole := by
  obtain ⟨later, rfl, fresh⟩ := second
  have known : ∀ name ∈ namesOf columns, name ∈ namesOf more := fun _ => first.mem_names
  obtain ⟨added, rfl, own⟩ := first
  refine ⟨added ++ later, List.append_assoc _ _ _, ?_⟩
  intro column member
  rcases List.mem_append.mp member with early | late
  · exact own column early
  · exact ⟨fun used => (fresh column late).1 (known _ used), (fresh column late).2⟩

theorem Extends.mono {wider : Field × List Cell → Prop} (extended : Extends allowed columns more)
    (weaker : ∀ column, allowed column → wider column) : Extends wider columns more := by
  obtain ⟨added, rfl, own⟩ := extended
  exact ⟨added, rfl, fun column member => (own column member).imp_right (weaker column)⟩

/-- A column is one of the first or has another name than all of them. -/
theorem Extends.member (extended : Extends allowed columns more) {column : Field × List Cell}
    (member : column ∈ more) :
    column ∈ columns ∨ column.1.name ∉ namesOf columns ∧ allowed column := by
  obtain ⟨added, rfl, own⟩ := extended
  exact (List.mem_append.mp member).imp_right (own column)

end Extending

section Ensuring

variable {table : Table} {columns : List (Field × List Cell)} {height : Nat}

/-- The columns with one more at the end, all missing, unless there is one of that name. -/
def ensured (height : Nat) (columns : List (Field × List Cell)) (name : String) :
    List (Field × List Cell) :=
  if name ∈ namesOf columns then columns
  else columns ++ [(.declared name, List.replicate height (ColumnType.ofName name).missing)]

private theorem Columnar.ensureColumn (shape : Columnar table columns height) (name : String) :
    Columnar (table.ensureColumn name (.ofName name)) (ensured height columns name) height := by
  rw [Table.ensureColumn, ensured, shape.height]
  by_cases present : name ∈ namesOf columns
  · rwa [if_pos (shape.contains_iff.mpr present), if_pos present]
  · rw [if_neg (mt shape.contains_iff.mp present), if_neg present]
    exact shape.append _ List.length_replicate

theorem Columnar.ensureColumns (shape : Columnar table columns height) (names : List String) :
    Columnar (table.ensureColumns names) (names.foldl (ensured height) columns) height := by
  induction names generalizing table columns with
  | nil => exact shape
  | cons name names ih => exact ih (shape.ensureColumn name)

/-- A column that nothing has filled, under one of some names. -/
def Vacant (height : Nat) (names : List String) (column : Field × List Cell) : Prop :=
  ∃ name ∈ names, column = (.declared name, List.replicate height (ColumnType.ofName name).missing)

theorem foldl_ensured_extends (height : Nat) (names : List String) (columns : List (Field × List Cell)) :
    Extends (Vacant height names) columns (names.foldl (ensured height) columns) := by
  induction names generalizing columns with
  | nil => exact .refl columns
  | cons name names ih =>
    have first : Extends (Vacant height (name :: names)) columns (ensured height columns name) := by
      rw [ensured]
      split
      next => exact .refl columns
      next absent =>
        refine ⟨_, rfl, ?_⟩
        intro column member
        cases List.mem_singleton.mp member
        exact ⟨absent, name, List.mem_cons_self, rfl⟩
    apply first.trans
    apply (ih _).mono
    intro column ⟨other, member, vacant⟩
    exact ⟨other, List.mem_cons_of_mem _ member, vacant⟩

theorem mem_namesOf_foldl_ensured (height : Nat) {names : List String} {name : String}
    (member : name ∈ names) (columns : List (Field × List Cell)) :
    name ∈ namesOf (names.foldl (ensured height) columns) := by
  induction names generalizing columns with
  | nil => cases member
  | cons first names ih =>
    rcases List.mem_cons.mp member with rfl | later
    · apply (foldl_ensured_extends height names _).mem_names
      rw [ensured]
      split
      next present => exact present
      next => simp [namesOf, Field.declared]
    · exact ih later _

theorem Columnar.prune (shape : Columnar table columns height) :
    Columnar table.prune (columns.filter fun column => !column.2.all (·.isMissing)) height :=
  shape.dropColumns _

end Ensuring

end SimResults.Proofs.TableColumns
