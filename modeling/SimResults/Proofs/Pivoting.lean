import SimResults.Proofs.FirstSeen
import SimResults.Proofs.Outcomes
import SimResults.Proofs.TableColumns
import SimResults.Table.Pivot

/-! What a pivot gives, without the pass that collects it. Only rows that have an index and a name
count. Among these the first row of a key gives the index cells, and the first row of a key and a
name gives the value. -/

namespace SimResults.Proofs.Pivoting
open Outcomes TableColumns FirstSeen

section Requiring

variable {table : Table}

theorem require_eq_ok {name : String} {position : Nat} :
    table.require name = .ok position ↔ table.position? name = some position := by
  rw [Table.require]
  cases table.position? name <;> simp

theorem requireAll_eq_ok {names : List String} {positions : List Nat} :
    table.requireAll names = .ok positions ↔ names.map table.position? = positions.map some := by
  induction names generalizing positions with
  | nil =>
    rw [Table.requireAll, List.mapM_nil, pure_eq_ok]
    cases positions <;> simp
  | cons name names ih =>
    rw [Table.requireAll] at ih ⊢
    simp only [List.mapM_cons, bind_eq_ok, pure_eq_ok, require_eq_ok]
    constructor
    · intro given
      obtain ⟨first, found, others, rest, rfl⟩ := given
      rw [List.map_cons, List.map_cons, found, ih.mp rest]
    · intro all
      obtain _ | ⟨first, others⟩ := positions
      · cases all
      · obtain ⟨found, rest⟩ := List.cons.inj all
        exact ⟨first, found, others, ih.mpr rest, rfl⟩

theorem requireAll_length {names : List String} {positions : List Nat}
    (located : table.requireAll names = .ok positions) : positions.length = names.length := by
  simpa using (congrArg List.length (requireAll_eq_ok.mp located)).symm

theorem requireAll_succeeds {names : List String} :
    (∃ positions, table.requireAll names = .ok positions) ↔ ∀ name ∈ names, table.contains name := by
  simp only [requireAll_eq_ok, Table.contains, Option.isSome_iff_exists]
  induction names with
  | nil => exact iff_of_true ⟨[], rfl⟩ (by simp)
  | cons name names ih =>
    rw [List.forall_mem_cons, ← ih]
    constructor
    · intro given
      obtain ⟨_ | ⟨first, others⟩, all⟩ := given
      · cases all
      · obtain ⟨found, rest⟩ := List.cons.inj all
        exact ⟨⟨first, found⟩, others, rest⟩
    · intro given
      obtain ⟨⟨first, found⟩, others, rest⟩ := given
      exact ⟨first :: others, by rw [List.map_cons, List.map_cons, found, rest]⟩

/-- The failure that reports the first of some columns that a table does not have. -/
def Lacks (table : Table) (names : List String) (failure : Failure) : Prop :=
  ∃ absent, names.find? (· ∉ table.names) = some absent ∧
    failure = .schemaMismatch (.missingColumn absent table.names)

theorem lacks_iff {names : List String} :
    (∃ failure, Lacks table names failure) ↔ ∃ name ∈ names, name ∉ table.names := by
  have absent : (names.find? (· ∉ table.names)).isSome ↔ ∃ name ∈ names, name ∉ table.names := by
    simp [List.find?_isSome]
  rw [← absent, Option.isSome_iff_exists]
  constructor
  · intro ⟨_, name, found, _⟩
    exact ⟨name, found⟩
  · intro ⟨name, found⟩
    exact ⟨_, name, found, rfl⟩

private theorem require_eq_error {name : String} {failure : Failure} :
    table.require name = .error failure ↔
      name ∉ table.names ∧ failure = .schemaMismatch (.missingColumn name table.names) := by
  have present : (table.position? name).isSome ↔ name ∈ table.names := contains_iff
  rw [← present, Table.require]
  cases table.position? name with
  | none => simp [eq_comm]
  | some position => simp

theorem requireAll_eq_error {names : List String} {failure : Failure} :
    table.requireAll names = .error failure ↔ Lacks table names failure := by
  induction names with
  | nil => exact iff_of_false nofun nofun
  | cons name names ih =>
    rw [Table.requireAll] at ih ⊢
    rw [Lacks, List.mapM_cons, List.find?_cons]
    by_cases present : name ∈ table.names
    · obtain ⟨position, found⟩ := Option.isSome_iff_exists.mp (contains_iff.mpr present)
      simp [present, require_eq_ok.mpr found, bind_eq_error, ih, Lacks, pure, Except.pure]
    · rw [require_eq_error.mpr ⟨present, rfl⟩]
      simp [present, bind, Except.bind, eq_comm]

theorem lacks_append {names more : List String} {failure : Failure} :
    Lacks table (names ++ more) failure ↔
      Lacks table names failure ∨ (∀ name ∈ names, name ∈ table.names) ∧ Lacks table more failure := by
  have complete : names.find? (· ∉ table.names) = none ↔ ∀ name ∈ names, name ∈ table.names := by simp
  rw [← complete, Lacks, Lacks, Lacks, List.find?_append]
  cases names.find? (· ∉ table.names) with
  | none => simp
  | some absent => simp

theorem requireAll_leading {names rest : List String} (leading : table.names = names ++ rest)
    (distinct : names.Nodup) : table.requireAll names = .ok (List.range names.length) := by
  rw [requireAll_eq_ok]
  apply List.ext_getElem
  · simp
  · intro index inside _
    have inside : index < names.length := by simpa using inside
    simp only [List.getElem_map, List.getElem_range, position?_eq_names, leading]
    rw [List.findIdx?_eq_some_iff_getElem]
    refine ⟨by rw [List.length_append]; omega, by simp [List.getElem_append_left inside], ?_⟩
    intro earlier smaller
    rw [List.getElem_append_left (by omega)]
    simpa using List.pairwise_iff_getElem.mp distinct earlier index (by omega) inside smaller

theorem field_of_position? {name : String} {position : Nat}
    (found : table.position? name = some position) : (table.field position).name = name := by
  obtain ⟨inside, same, _⟩ := List.findIdx?_eq_some_iff_getElem.mp found
  simpa [Table.field, List.getD_eq_getElem?_getD, inside] using same

theorem fieldsAt_names {names : List String} {positions : List Nat}
    (located : names.map table.position? = positions.map some) :
    (table.fieldsAt positions).map (·.name) = names := by
  induction names generalizing positions with
  | nil =>
    cases positions with
    | nil => rfl
    | cons => cases located
  | cons name names ih =>
    cases positions with
    | nil => cases located
    | cons position positions =>
      obtain ⟨found, rest⟩ := List.cons.inj located
      rw [Table.fieldsAt, List.map_cons, List.map_cons, field_of_position? found]
      exact congrArg (name :: ·) (ih rest)

end Requiring

section Rows

variable (positions : Pivot.Positions)

/-- Neither the index of a long row nor its name is missing. -/
def valid (row : Row) : Bool :=
  (positions.index.all fun position => !(row.cell position).isMissing) &&
    !(row.cell positions.name).isMissing

def keyOf (row : Row) : List String := positions.index.map fun position => (row.cell position).key?.getD ""

def nameOf (row : Row) : String := (row.cell positions.name).key?.getD ""

variable (rows : List Row)

def validRows : List Row := rows.filter (valid positions)

/-- The distinct keys of the rows that count, as they are first seen. -/
def distinctKeys : List (List String) := ((validRows positions rows).map (keyOf positions)).eraseDups

/-- The distinct names of the rows that count, as they are first seen. -/
def distinctNames : List String := ((validRows positions rows).map (nameOf positions)).eraseDups

def indexCells (key : List String) : List Cell :=
  (((validRows positions rows).find? fun row => keyOf positions row == key).map
    (·.cells positions.index)).getD []

/-- The value of the first row of a key and a name. -/
def valueCell (missing : Cell) (key : List String) (name : String) : Cell :=
  (((validRows positions rows).find? fun row =>
    keyOf positions row == key && nameOf positions row == name).map (·.cell positions.value)).getD missing

end Rows

section Entries

variable {positions : Pivot.Positions}

theorem key?_isSome (cell : Cell) : cell.key?.isSome = !cell.isMissing := by
  cases cell with
  | number value =>
    rw [Cell.key?, Cell.isMissing]
    cases value.isNaN <;> rfl
  | _ => rfl

theorem key?_eq (cell : Cell) : cell.key? = if !cell.isMissing then some (cell.key?.getD "") else none := by
  rw [← key?_isSome]
  cases cell.key? <;> rfl

theorem row_key? (row : Row) (index : List Nat) :
    row.key? index =
      if index.all (fun position => !(row.cell position).isMissing) then
        some (index.map fun position => (row.cell position).key?.getD "")
      else none := by
  induction index with
  | nil => rfl
  | cons position index ih =>
    rw [Row.key?] at ih ⊢
    rw [List.mapM_cons, ih, key?_eq, List.all_cons]
    cases (row.cell position).isMissing with
    | true => rfl
    | false =>
      rw [Bool.not_false, Bool.true_and, if_pos rfl]
      split
      · rfl
      · rfl

def entryOf (positions : Pivot.Positions) (row : Row) : Pivot.Entry where
  key := keyOf positions row
  index := row.cells positions.index
  name := nameOf positions row
  value := row.cell positions.value

private theorem entry?_eq (row : Row) :
    positions.entry? row = if valid positions row then some (entryOf positions row) else none := by
  rw [Pivot.Positions.entry?, row_key?, key?_eq (row.cell positions.name), valid]
  by_cases indexed : positions.index.all fun position => !(row.cell position).isMissing
  · rw [if_pos indexed, indexed, Bool.true_and]
    split
    · rfl
    · rfl
  · simp [indexed]

private theorem entries_eq (rows : List Row) :
    rows.filterMap positions.entry? = (validRows positions rows).map (entryOf positions) := by
  rw [validRows, ← List.filterMap_eq_map, List.filterMap_filter]
  congr 1
  funext row
  exact entry?_eq row

theorem keyOf_eq (positions : Pivot.Positions) (row : Row) :
    keyOf positions row = (row.cells positions.index).map fun cell => cell.key?.getD "" := by
  rw [keyOf, Row.cells, List.map_map]
  rfl

theorem valid_eq (positions : Pivot.Positions) (row : Row) :
    valid positions row = (((row.cells positions.index).all fun cell => !cell.isMissing) &&
      !(row.cell positions.name).isMissing) := by
  rw [valid, Row.cells, List.all_map]
  rfl

/-- What is looked for among rows that agree about it does not depend on which row comes first. -/
theorem find?_map_getD {α β : Type} {items : List α} {sought : α → Bool} {f : α → β} {missing value : β}
    (present : ∃ item ∈ items, sought item = true)
    (agree : ∀ item ∈ items, sought item = true → f item = value) :
    ((items.find? sought).map f).getD missing = value := by
  obtain ⟨first, found⟩ := Option.isSome_iff_exists.mp (List.find?_isSome.mpr present)
  rw [found]
  exact agree first (List.mem_of_find?_eq_some found) (List.find?_some found)

end Entries

section Groups

variable {groups : List Group} {group : Group} {entry : Pivot.Entry}

private theorem lookup_fill (group : Group) (name other : String) (cell : Cell) :
    (group.fill name cell).cells.lookup other =
      (group.cells.lookup other).or (if name == other then some cell else none) := by
  rw [Group.fill]
  split
  next known =>
    by_cases same : name = other
    · subst same
      obtain ⟨found, given⟩ := Option.isSome_iff_exists.mp known
      simp [given]
    · simp [same]
  next =>
    rw [List.lookup_append, List.lookup_cons, List.lookup_nil, Bool.beq_comm]
    cases name == other <;> rfl

private theorem fill_key (group : Group) (name : String) (cell : Cell) :
    (group.fill name cell).key = group.key := by
  rw [Group.fill]
  split <;> rfl

private theorem fill_index (group : Group) (name : String) (cell : Cell) :
    (group.fill name cell).index = group.index := by
  rw [Group.fill]
  split <;> rfl

private theorem fillGroups_keys (entry : Pivot.Entry) (groups : List Group) :
    (Pivot.fillGroups entry groups).map (·.key) = appendNew (groups.map (·.key)) entry.key := by
  induction groups with
  | nil => rfl
  | cons first groups ih =>
    rw [Pivot.fillGroups, List.map_cons, appendNew_cons]
    split
    · rw [List.map_cons, fill_key]
    · rw [List.map_cons, ih]

/-- Only the group of the key of an entry changes, and it is new if there was none. -/
private theorem mem_fillGroups (distinct : (groups.map (·.key)).Nodup)
    (member : group ∈ Pivot.fillGroups entry groups) :
    (group ∈ groups ∧ group.key ≠ entry.key) ∨
    (∃ before ∈ groups, before.key = entry.key ∧ group = before.fill entry.name entry.value) ∨
    entry.key ∉ groups.map (·.key) ∧ group = ⟨entry.key, entry.index, [(entry.name, entry.value)]⟩ := by
  induction groups with
  | nil => exact .inr (.inr ⟨by simp, List.mem_singleton.mp member⟩)
  | cons first groups ih =>
    obtain ⟨apart, distinct⟩ := List.nodup_cons.mp distinct
    rw [Pivot.fillGroups] at member
    by_cases same : first.key = entry.key
    · rw [if_pos (by simpa using same)] at member
      rcases List.mem_cons.mp member with rfl | later
      · exact .inr (.inl ⟨first, List.mem_cons_self, same, rfl⟩)
      · refine .inl ⟨List.mem_cons_of_mem _ later, ?_⟩
        intro other
        exact apart (List.mem_map.mpr ⟨group, later, other.trans same.symm⟩)
    · rw [if_neg (by simpa using same)] at member
      rcases List.mem_cons.mp member with rfl | later
      · exact .inl ⟨List.mem_cons_self, same⟩
      · rcases ih distinct later with ⟨inside, other⟩ | ⟨before, inside, found⟩ | ⟨absent, created⟩
        · exact .inl ⟨List.mem_cons_of_mem _ inside, other⟩
        · exact .inr (.inl ⟨before, List.mem_cons_of_mem _ inside, found⟩)
        · refine .inr (.inr ⟨?_, created⟩)
          rw [List.map_cons, List.mem_cons, not_or]
          exact ⟨Ne.symm same, absent⟩

/-- The groups that some entries fill: one of each key, with what the first entries gave. -/
structure Collects (entries : List Pivot.Entry) (groups : List Group) : Prop where
  keys : groups.map (·.key) = (entries.map (·.key)).eraseDups
  index : ∀ group ∈ groups,
    (entries.find? fun entry => entry.key == group.key).map (·.index) = some group.index
  cells : ∀ group ∈ groups, ∀ name, group.cells.lookup name =
    (entries.find? fun entry => entry.key == group.key && entry.name == name).map (·.value)

variable {entries : List Pivot.Entry}

private theorem Collects.add (collected : Collects entries groups) (entry : Pivot.Entry) :
    Collects (entries ++ [entry]) (Pivot.fillGroups entry groups) := by
  have distinct : (groups.map (·.key)).Nodup := collected.keys ▸ nodup_eraseDups _
  refine ⟨?_, ?_, ?_⟩
  · rw [fillGroups_keys, collected.keys, List.map_append, List.map_singleton, eraseDups_concat]
  · intro group member
    rw [List.find?_append]
    rcases mem_fillGroups distinct member with ⟨inside, _⟩ | ⟨before, inside, _, rfl⟩ | ⟨absent, rfl⟩
    · obtain ⟨first, found, same⟩ := Option.map_eq_some_iff.mp (collected.index group inside)
      rw [found, ← same]
      rfl
    · rw [fill_key, fill_index]
      obtain ⟨first, found, same⟩ := Option.map_eq_some_iff.mp (collected.index before inside)
      rw [found, ← same]
      rfl
    · rw [collected.keys, List.mem_eraseDups] at absent
      have none : entries.find? (fun other => other.key == entry.key) = none := by
        rw [List.find?_eq_none]
        intro other inside same
        exact absent (eq_of_beq same ▸ List.mem_map_of_mem inside)
      simp [none]
  · intro group member name
    rw [List.find?_append, Option.map_or]
    rcases mem_fillGroups distinct member with ⟨inside, other⟩ | ⟨before, inside, same, rfl⟩ | ⟨absent, rfl⟩
    · have apart : (entry.key == group.key) = false := by simpa using Ne.symm other
      rw [collected.cells group inside, List.find?_singleton, apart, Bool.false_and]
      simp
    · rw [lookup_fill, collected.cells before inside, fill_key, List.find?_singleton, same]
      cases entry.name == name <;> simp
    · rw [collected.keys, List.mem_eraseDups] at absent
      have none : entries.find? (fun other => other.key == entry.key && other.name == name) = none := by
        rw [List.find?_eq_none]
        intro other inside both
        exact absent (eq_of_beq (Bool.and_eq_true_iff.mp both).1 ▸ List.mem_map_of_mem inside)
      rw [none, List.find?_singleton, List.lookup_cons, List.lookup_nil, Bool.beq_comm]
      cases entry.name == name <;> simp

private theorem collects_foldl (entries : List Pivot.Entry) :
    (entries.foldl Pivot.add {}).names = (entries.map (·.name)).eraseDups ∧
      Collects entries (entries.foldl Pivot.add {}).groups := by
  induction entries using List.reverseRecOn with
  | nil => exact ⟨rfl, rfl, nofun, nofun⟩
  | append_singleton entries entry ih =>
    rw [List.foldl_append, List.map_append, List.map_singleton, eraseDups_concat, ← ih.1]
    exact ⟨rfl, ih.2.add entry⟩

end Groups

section Tables

variable (positions : Pivot.Positions) (rows : List Row)

private theorem ofRows_names : (Pivot.ofRows positions rows).names = distinctNames positions rows := by
  rw [Pivot.ofRows, (collects_foldl _).1, entries_eq, List.map_map]
  rfl

private theorem group_row (missing : Cell) {group : Group}
    (member : group ∈ (Pivot.ofRows positions rows).groups) :
    (group.index ++ (distinctNames positions rows).map fun name => (group.cells.lookup name).getD missing) =
      indexCells positions rows group.key ++
        (distinctNames positions rows).map (valueCell positions rows missing group.key) := by
  have collected := (collects_foldl (rows.filterMap positions.entry?)).2
  rw [Pivot.ofRows] at member
  rw [entries_eq] at member collected
  have index := collected.index group member
  rw [List.find?_map, Option.map_map] at index
  congr 1
  · exact (congrArg (·.getD []) index).symm
  · apply List.map_congr_left
    intro name _
    rw [collected.cells group member, List.find?_map, Option.map_map]
    rfl

/-- A wide row for each key, with a cell for each name. -/
theorem ofRows_rows (missing : Cell) :
    (Pivot.ofRows positions rows).rows missing =
      (distinctKeys positions rows).map fun key =>
        indexCells positions rows key ++
          (distinctNames positions rows).map (valueCell positions rows missing key) := by
  have collected := (collects_foldl (rows.filterMap positions.entry?)).2
  have keys : (Pivot.ofRows positions rows).groups.map (·.key) = distinctKeys positions rows := by
    rw [Pivot.ofRows, collected.keys, entries_eq, List.map_map]
    rfl
  rw [Pivot.rows, ofRows_names, ← keys, List.map_map]
  apply List.map_congr_left
  intro group member
  exact group_row positions rows missing member

variable {positions rows}

theorem mem_distinctKeys {key : List String} :
    key ∈ distinctKeys positions rows ↔ ∃ row ∈ rows, valid positions row = true ∧ keyOf positions row = key := by
  rw [distinctKeys, List.mem_eraseDups, List.mem_map]
  simp only [validRows, List.mem_filter, and_assoc]

theorem mem_distinctNames {name : String} :
    name ∈ distinctNames positions rows ↔
      ∃ row ∈ rows, valid positions row = true ∧ nameOf positions row = name := by
  rw [distinctNames, List.mem_eraseDups, List.mem_map]
  simp only [validRows, List.mem_filter, and_assoc]

/-- The index cells of a key are those of a row that has it. -/
theorem indexCells_known {key : List String} (member : key ∈ distinctKeys positions rows) :
    ∃ row ∈ validRows positions rows, keyOf positions row = key ∧
      indexCells positions rows key = row.cells positions.index := by
  obtain ⟨row, inside, counts, same⟩ := mem_distinctKeys.mp member
  have present : ((validRows positions rows).find? fun row => keyOf positions row == key).isSome := by
    rw [List.find?_isSome]
    exact ⟨row, List.mem_filter.mpr ⟨inside, counts⟩, by simp [same]⟩
  obtain ⟨first, found⟩ := Option.isSome_iff_exists.mp present
  have keyed : keyOf positions first = key := by simpa using List.find?_some found
  refine ⟨first, List.mem_of_find?_eq_some found, keyed, ?_⟩
  rw [indexCells, found]
  rfl

theorem indexCells_length {key : List String} (member : key ∈ distinctKeys positions rows) :
    (indexCells positions rows key).length = positions.index.length := by
  obtain ⟨row, _, _, cells⟩ := indexCells_known member
  rw [cells]
  exact List.length_map _

variable {table wide : Table} {index : List String} {names values : String}

/-- Where the columns stand that a table is pivoted by. -/
structure Locates (table : Table) (index : List String) (names values : String)
    (positions : Pivot.Positions) : Prop where
  index : index.map table.position? = positions.index.map some
  name : table.position? names = some positions.name
  value : table.position? values = some positions.value

theorem Locates.width {positions : Pivot.Positions} (located : Locates table index names values positions) :
    positions.index.length = index.length := requireAll_length (requireAll_eq_ok.mpr located.index)

/-- The wide form of a long table. -/
def wideTable (table : Table) (index : List String) (values : String) (positions : Pivot.Positions) :
    Table where
  fields := table.fieldsAt positions.index ++ (distinctNames positions table.rows).map fun name =>
    ⟨wideName index values name, (table.field positions.value).type⟩
  rows := (distinctKeys positions table.rows).map fun key =>
    indexCells positions table.rows key ++ (distinctNames positions table.rows).map
      (valueCell positions table.rows (table.field positions.value).type.missing key)

theorem pivot_eq_ok :
    table.pivot index names values = .ok wide ↔
      ∃ positions, Locates table index names values positions ∧
        wide = wideTable table index values positions := by
  simp only [Table.pivot, bind_eq_ok, pure_eq_ok, require_eq_ok, requireAll_eq_ok, ofRows_names, ofRows_rows]
  constructor
  · intro given
    obtain ⟨indexed, here, name, named, value, valued, rfl⟩ := given
    exact ⟨⟨indexed, name, value⟩, ⟨here, named, valued⟩, rfl⟩
  · intro given
    obtain ⟨positions, located, rfl⟩ := given
    exact ⟨positions.index, located.index, positions.name, located.name, positions.value, located.value, rfl⟩

theorem pivot_succeeds :
    (∃ wide, table.pivot index names values = .ok wide) ↔
      (∀ name ∈ index, table.contains name) ∧ table.contains names ∧ table.contains values := by
  rw [← requireAll_succeeds]
  simp only [pivot_eq_ok, requireAll_eq_ok, Table.contains, Option.isSome_iff_exists]
  constructor
  · intro given
    obtain ⟨_, positions, located, _⟩ := given
    exact ⟨⟨_, located.index⟩, ⟨_, located.name⟩, _, located.value⟩
  · intro given
    obtain ⟨⟨indexed, here⟩, ⟨name, named⟩, value, valued⟩ := given
    exact ⟨_, ⟨indexed, name, value⟩, ⟨here, named, valued⟩, rfl⟩

theorem wideTable_rectangular (table : Table) (index : List String) (values : String)
    (positions : Pivot.Positions) : (wideTable table index values positions).Rectangular := by
  intro row member
  obtain ⟨key, known, rfl⟩ := List.mem_map.mp member
  simp [wideTable, Table.fieldsAt, indexCells_length known]

end Tables

end SimResults.Proofs.Pivoting
