import SimResults.Proofs.ExportCells

/-! What is known of a table that was read from an export, whatever the export was. Queries rely
on this where they look columns up by name and convert their cells. -/

namespace SimResults.Proofs.ParsedExports
open Outcomes TableColumns ExportCells

/-- The shape of every table that was read from an export. -/
structure Parsed (table : Table) : Prop where
  rectangular : table.Rectangular
  /-- Columns have the types that their names declare. -/
  declared : ∀ field ∈ table.fields, field = .declared field.name
  /-- Columns of numbers hold nothing else. -/
  numbers : ∀ column ∈ table.columns, column.1.type = .number →
    ∀ cell ∈ column.2, ∃ value, cell = .number value
  /-- Scalars have numbers as values. -/
  scalars : ∀ typePosition, table.position? Column.type = some typePosition →
    ∀ position, table.position? Column.value = some position →
      ∀ row ∈ table.rows, Kind.ofCell? (row.cell typePosition) = some .scalar →
        ∃ value, row.cell position = .number value
  /-- Where no row has a kind, values are as they were written. -/
  untyped : table.position? Column.type = none →
    ∀ position, table.position? Column.value = some position →
      ∀ row ∈ table.rows, row.cell position = .null ∨
        ∃ raw, raw ≠ "" ∧ row.cell position = .text raw

variable {names record : List String} {records : List (List String)} {table : Table}

private theorem tableNames_types (names : List String) :
    (tableNames names).map ColumnType.ofName = names.map ColumnType.ofName := by
  induction names with
  | nil => rfl
  | cons name names ih =>
    rw [tableNames]
    split
    next same => rw [same]; rfl
    next => rw [List.map_cons, List.map_cons, ih]

/-- Both names of runs declare text, so types can be told from the names that were given. -/
theorem ofName_tableNames {position : Nat} {name : String}
    (named : (tableNames names)[position]? = some name) :
    position < names.length ∧ ColumnType.ofName (names.getD position "") = ColumnType.ofName name := by
  have same := congrArg (·[position]?) (tableNames_types names)
  simp only [List.getElem?_map, named, Option.map_some] at same
  obtain ⟨given, found, type⟩ := Option.map_eq_some_iff.mp same.symm
  refine ⟨(List.getElem?_eq_some_iff.mp found).1, ?_⟩
  rw [List.getD_eq_getElem?_getD, found, Option.getD_some, type]

/-- The long name of runs is found in other places than before, but no other name is. -/
theorem tableNames_findIdx? {name : String} (short : name ≠ Column.run) (long : name ≠ Column.runID)
    (names : List String) :
    (tableNames names).findIdx? (· == name) = names.findIdx? (· == name) := by
  induction names with
  | nil => rfl
  | cons first names ih =>
    rw [tableNames]
    split
    next same =>
      have before : (first == name) = false := by simpa [same] using short.symm
      have after : (Column.runID == name) = false := by simpa using long.symm
      rw [List.findIdx?_cons, List.findIdx?_cons, before, after]
    next => rw [List.findIdx?_cons, List.findIdx?_cons, ih]

theorem record_of_member {rows : List Row}
    (described : List.Forall₂ (DescribesRow names) records rows) {row : Row} (member : row ∈ rows) :
    ∃ record ∈ records, DescribesRow names record row := by
  induction described with
  | nil => cases member
  | cons first _ ih =>
    rcases List.mem_cons.mp member with rfl | later
    · exact ⟨_, List.mem_cons_self, first⟩
    · obtain ⟨record, inside, same⟩ := ih later
      exact ⟨record, List.mem_cons_of_mem _ inside, same⟩

theorem describes_names (described : Describes names records table) :
    table.names = tableNames names := by
  rw [Table.names, described.fields, List.map_map]
  exact List.map_id _

theorem describes_position? (described : Describes names records table) {name : String}
    (short : name ≠ Column.run) (long : name ≠ Column.runID) :
    table.position? name = names.findIdx? (· == name) := by
  rw [← tableNames_findIdx? short long, ← describes_names described, Table.names, List.findIdx?_map]
  rfl

theorem describes_contains (described : Describes names records table) {name : String}
    (short : name ≠ Column.run) (long : name ≠ Column.runID) :
    table.contains name = true ↔ name ∈ names := by
  rw [Table.contains, describes_position? described short long, List.findIdx?_isSome, List.any_eq_true]
  simp

theorem readNumber_number {raw : String} {cell : Cell} (read : Cell.readNumber raw = .ok cell) :
    ∃ value, cell = .number value := by
  rw [Cell.readNumber] at read
  split at read
  · cases read
    exact ⟨_, rfl⟩
  · obtain ⟨value, _, rfl⟩ := map_eq_ok.mp read
    exact ⟨value, rfl⟩

theorem cellOf_plain {column : Nat} {name : String} (named : names.getD column "" = name)
    (array : ColumnType.ofName name ≠ .array)
    (scalar : kindOf? names record = some .scalar → name ≠ Column.value) :
    cellOf names record column = Cell.read (.ofName name) (record.getD column "") := by
  have unfilled : ¬ ((kindOf? names record).elim [] arrayColumns).any (leads names column) := by
    intro filled
    obtain ⟨other, member, first⟩ := List.any_eq_true.mp filled
    cases named.symm.trans (first_column (leads_iff.mp first)).2
    cases known : kindOf? names record with
    | none =>
      rw [known] at member
      cases member
    | some kind =>
      rw [known] at member
      exact array (ofName_arrayColumns member)
  have general : ¬ (kindOf? names record = some .scalar ∧ leads names column Column.value) := by
    intro given
    obtain ⟨known, first⟩ := given
    cases named.symm.trans (first_column (leads_iff.mp first)).2
    exact scalar known rfl
  rw [cellOf, if_neg general, if_neg fun both => unfilled both.2, plainCell, named]

theorem describesRow_kind {row : Row} (described : DescribesRow names record row)
    {position : Nat} (typed : names.findIdx? (· == Column.type) = some position) :
    Kind.ofCell? (row.cell position) = kindOf? names record := by
  obtain ⟨inside, named⟩ := first_column typed
  have read := described.cells position inside
  rw [cellOf_plain named (by decide) (fun _ => by decide)] at read
  have text : row.cell position = Cell.ofText (record.getD position "") := (Except.ok.inj read).symm
  rw [text, kindOf?, textIn?, typed, Cell.ofText]
  simp only [Option.map_some, Option.bind_some]
  split
  next empty => rw [String.isEmpty_iff.mp empty]; rfl
  next => rfl

theorem describesRow_array {row : Row} (described : DescribesRow names record row) {column : Nat}
    (inside : column < names.length) (array : ColumnType.ofName (names.getD column "") = .array) :
    (∃ values, row.cell column = .array values) ∨
      row.cell column = .null ∧ record.getD column "" = "" := by
  have read := described.cells column inside
  rw [cellOf] at read
  split at read
  next scalar =>
    rw [(first_column (leads_iff.mp scalar.2)).2] at array
    cases array
  next =>
    split at read
    next => exact .inl ⟨[], (Except.ok.inj read).symm⟩
    next =>
      rw [plainCell, array] at read
      change Cell.readArray (record.getD column "") = _ at read
      rw [Cell.readArray] at read
      split at read
      next empty => exact .inr ⟨(Except.ok.inj read).symm, String.isEmpty_iff.mp empty⟩
      next =>
        obtain ⟨values, _, same⟩ := map_eq_ok.mp read
        exact .inl ⟨values, same.symm⟩

/-- In the first column of its name an array that belongs to the kind of the row is never absent. -/
theorem describesRow_filled {row : Row} (described : DescribesRow names record row) {kind : Kind}
    (known : kindOf? names record = some kind) {name : String} (member : name ∈ arrayColumns kind)
    {column : Nat} (first : names.findIdx? (· == name) = some column) :
    ∃ values, row.cell column = .array values ∧
      if (record.getD column "").isEmpty then values = []
      else Cell.readElements (Text.words (record.getD column "").toList) = .ok values := by
  have read := described.cells column (first_column first).1
  have other : ¬ (kindOf? names record = some .scalar ∧ leads names column Column.value) := by
    intro ⟨scalar, _⟩
    cases known.symm.trans scalar
    cases member
  have own : ((kindOf? names record).elim [] arrayColumns).any (leads names column) := by
    rw [known]
    exact List.any_eq_true.mpr ⟨name, member, leads_iff.mpr first⟩
  rw [cellOf, if_neg other] at read
  by_cases empty : (record.getD column "").isEmpty
  · rw [if_pos ⟨empty, own⟩] at read
    exact ⟨[], (Except.ok.inj read).symm, by rw [if_pos empty]⟩
  · rw [if_neg fun both => empty both.1, plainCell_first first, ofName_arrayColumns member] at read
    change Cell.readArray (record.getD column "") = _ at read
    rw [Cell.readArray, if_neg empty] at read
    obtain ⟨values, elements, same⟩ := map_eq_ok.mp read
    exact ⟨values, same.symm, by rw [if_neg empty, elements]⟩

theorem describes_parsed (described : Describes names records table) : Parsed table where
  rectangular row member := by
    obtain ⟨record, _, same⟩ := record_of_member described.rows member
    have width := congrArg List.length (tableNames_types names)
    rw [List.length_map, List.length_map] at width
    rw [same.width, described.fields, List.length_map, width]
  declared field member := by
    rw [described.fields] at member
    obtain ⟨name, _, rfl⟩ := List.mem_map.mp member
    rfl
  numbers column member number cell inside := by
    obtain ⟨position, found⟩ := List.getElem?_of_mem member
    rw [getElem?_columns, described.fields, Option.map_eq_some_iff] at found
    obtain ⟨field, there, rfl⟩ := found
    obtain ⟨row, inTable, rfl⟩ := List.mem_map.mp inside
    obtain ⟨record, _, same⟩ := record_of_member described.rows inTable
    have types : (names.map ColumnType.ofName)[position]? = some .number := by
      rw [← tableNames_types, List.getElem?_map]
      rw [List.getElem?_map, Option.map_eq_some_iff] at there
      obtain ⟨name, named, rfl⟩ := there
      rw [named]
      exact congrArg some number
    rw [List.getElem?_map, Option.map_eq_some_iff] at types
    obtain ⟨name, named, type⟩ := types
    have read := same.cells position (List.getElem?_eq_some_iff.mp named).1
    have named : names.getD position "" = name := by simp [List.getD_eq_getElem?_getD, named]
    rw [cellOf_plain named (by rw [type]; decide), type] at read
    · exact readNumber_number read
    · rintro _ rfl
      cases type
  scalars typePosition typed position valued row member scalar := by
    rw [describes_position? described (by decide) (by decide)] at typed valued
    obtain ⟨record, _, same⟩ := record_of_member described.rows member
    have read := same.cells position (first_column valued).1
    rw [describesRow_kind same typed] at scalar
    rw [cellOf, if_pos ⟨scalar, leads_iff.mpr valued⟩] at read
    exact readNumber_number read
  untyped typed position valued row member := by
    rw [describes_position? described (by decide) (by decide)] at typed valued
    obtain ⟨record, _, same⟩ := record_of_member described.rows member
    obtain ⟨inside, named⟩ := first_column valued
    have unknown : kindOf? names record = none := by simp [kindOf?, textIn?, typed]
    have read := same.cells position inside
    rw [cellOf_plain named (by decide) (by simp [unknown])] at read
    have text : row.cell position = Cell.ofText (record.getD position "") := (Except.ok.inj read).symm
    rw [text, Cell.ofText]
    split
    next => exact .inl rfl
    next filled => exact .inr ⟨_, fun empty => filled (String.isEmpty_iff.mpr empty), rfl⟩

theorem read_parsed {bytes : Text.Bytes} (read : Export.read bytes = .ok table) : Parsed table := by
  obtain ⟨names, records, framed⟩ := readStream_sound read
  exact describes_parsed (readStream_describes framed read)

end SimResults.Proofs.ParsedExports
