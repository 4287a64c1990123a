import SimResults.Metadata
import SimResults.Proofs.Pivoting
import SimResults.Table.Join

/-! Pivots and joins by the columns they give. A join leaves the columns and the rows of the first
table as they are; what it adds stands behind them, under names that are not taken. -/

namespace SimResults.Proofs.Joining
open Outcomes TableColumns Pivoting

section Names

/-- Names in order, each made different from the taken names and from those before it. -/
def freshNames (taken : List String) : List String → List String
  | [] => []
  | name :: rest => freshName taken name :: freshNames (taken ++ [freshName taken name]) rest

/-- What is put behind a name to set it apart, `count` times. -/
def marks (count : Nat) : String := String.join (List.replicate count "_y")

/-- A name that no column with a fixed meaning has. -/
def Marked (name : String) : Prop := '_' ∈ name.toList

instance (name : String) : Decidable (Marked name) := inferInstanceAs (Decidable ('_' ∈ name.toList))

private theorem freshFrom_free {taken : List String} {name : String} {fuel : Nat}
    (enough : (taken.filter fun other => name.length ≤ other.length).length ≤ fuel) :
    freshFrom taken name fuel ∉ taken := by
  induction fuel generalizing name with
  | zero =>
    intro member
    have long : name ∈ taken.filter fun other => name.length ≤ other.length :=
      List.mem_filter.mpr ⟨member, by simp⟩
    have := List.length_pos_of_mem long
    omega
  | succ fuel ih =>
    rw [freshFrom]
    split
    next used =>
      apply ih
      have longerBy : (name ++ "_y").length = name.length + 2 := by
        rw [String.length_append]
        rfl
      have long : name ∈ taken.filter fun other => name.length ≤ other.length :=
        List.mem_filter.mpr ⟨by simpa using used, by simp⟩
      have longer : taken.filter (fun other => (name ++ "_y").length ≤ other.length) =
          (taken.filter fun other => name.length ≤ other.length).filter
            fun other => (name ++ "_y").length ≤ other.length := by
        rw [List.filter_filter]
        apply List.filter_congr
        intro other _
        rw [longerBy, Bool.eq_iff_iff]
        simp only [Bool.and_eq_true, decide_eq_true_eq]
        omega
      have fewer : (taken.filter fun other => (name ++ "_y").length ≤ other.length).length <
          (taken.filter fun other => name.length ≤ other.length).length := by
        rw [longer, List.length_filter_lt_length_iff_exists]
        exact ⟨name, long, by rw [longerBy]; simp⟩
      omega
    next free => simpa using free

theorem freshName_free (taken : List String) (name : String) : freshName taken name ∉ taken :=
  freshFrom_free (List.length_filter_le _ _)

private theorem append_marks (name : String) (count : Nat) :
    name ++ "_y" ++ marks count = name ++ marks (count + 1) := by
  simp [marks, List.replicate_succ, String.append_assoc]

theorem append_no_marks (name : String) : name ++ marks 0 = name := String.append_empty

/-- Marks are only added to names that are taken. -/
private theorem freshFrom_marks (taken : List String) (name : String) (fuel : Nat) :
    ∃ count, freshFrom taken name fuel = name ++ marks count ∧
      ∀ fewer < count, name ++ marks fewer ∈ taken := by
  induction fuel generalizing name with
  | zero => exact ⟨0, (append_no_marks name).symm, nofun⟩
  | succ fuel ih =>
    rw [freshFrom]
    split
    next used =>
      obtain ⟨count, same, known⟩ := ih (name ++ "_y")
      refine ⟨count + 1, by rw [same, append_marks], ?_⟩
      intro fewer smaller
      cases fewer with
      | zero => simpa [append_no_marks] using used
      | succ fewer => simpa only [append_marks] using known fewer (by omega)
    next => exact ⟨0, (append_no_marks name).symm, nofun⟩

theorem freshName_marks (taken : List String) (name : String) :
    ∃ count, freshName taken name = name ++ marks count ∧ ∀ fewer < count, name ++ marks fewer ∈ taken :=
  freshFrom_marks taken name taken.length

private theorem freshName_marked (taken : List String) (name : String) :
    freshName taken name = name ∨ Marked (freshName taken name) := by
  obtain ⟨count, same, _⟩ := freshName_marks taken name
  cases count with
  | zero => exact .inl (same.trans (append_no_marks name))
  | succ count => exact .inr (by simp [same, ← append_marks, Marked])

private theorem mem_freshNames {taken names : List String} {name : String}
    (member : name ∈ freshNames taken names) : name ∉ taken ∧ (name ∈ names ∨ Marked name) := by
  induction names generalizing taken with
  | nil => cases member
  | cons first names ih =>
    rcases List.mem_cons.mp member with rfl | later
    · refine ⟨freshName_free taken first, ?_⟩
      rcases freshName_marked taken first with same | marked
      · exact .inl (by rw [same]; exact List.mem_cons_self)
      · exact .inr marked
    · obtain ⟨free, origin⟩ := ih later
      exact ⟨fun used => free (List.mem_append_left _ used), origin.imp_left (List.mem_cons_of_mem _)⟩

end Names

section Joins

variable {table other : Table} {columns : List (Field × List Cell)} {height : Nat}

/-- Columns in order, each under a name apart from the taken names and from those before it. -/
def apart (taken : List String) : List (Field × List Cell) → List (Field × List Cell)
  | [] => []
  | (field, cells) :: rest =>
    (⟨freshName taken field.name, field.type⟩, cells) ::
      apart (taken ++ [freshName taken field.name]) rest

private theorem namesOf_apart (taken : List String) (columns : List (Field × List Cell)) :
    namesOf (apart taken columns) = freshNames taken (namesOf columns) := by
  induction columns generalizing taken with
  | nil => rfl
  | cons column columns ih => exact congrArg (_ :: ·) (ih _)

/-- What a join adds: the columns of the other table that are no keys, and in each row of the
first table the cells of the first row of the other that has the same key. -/
def foundColumns (table other : Table) (keys others : List Nat) : List (Field × List Cell) :=
  (other.fields.zipIdx.filter fun (_, position) => !others.contains position).map
    fun (field, position) => (field, table.rows.map fun row =>
      ((row.key? keys).bind fun key => (other.keyed others).lookup key).elim field.type.missing
        (·.cell position))

private theorem foldl_append (shape : Columnar table columns height) (matching : List (Option Row))
    (fits : matching.length = height) (added : List (Field × Nat)) :
    Columnar
      (added.foldl (fun joined (field, position) =>
        joined.append ⟨freshName joined.names field.name, field.type⟩ <|
          matching.map fun row? => row?.elim field.type.missing (·.cell position)) table)
      (columns ++ apart (namesOf columns) (added.map fun (field, position) =>
        (field, matching.map fun row? => row?.elim field.type.missing (·.cell position)))) height := by
  induction added generalizing table columns with
  | nil => rwa [List.map_nil, apart, List.append_nil]
  | cons first added ih =>
    obtain ⟨field, position⟩ := first
    have filled : (matching.map fun row? => row?.elim field.type.missing (·.cell position)).length = height :=
      (List.length_map _).trans fits
    have extended := shape.append ⟨freshName table.names field.name, field.type⟩ filled
    have rest := ih extended
    rw [shape.names, namesOf_append, List.append_assoc] at rest
    simp only [List.map_cons, apart]
    rw [List.foldl_cons, shape.names]
    exact rest

theorem leftJoin_columnar (shape : Columnar table columns height) {keys : List String}
    {positions others : List Nat} (here : table.requireAll keys = .ok positions)
    (there : other.requireAll keys = .ok others) :
    ∃ joined, table.leftJoin other keys = .ok joined ∧
      Columnar joined
        (columns ++ apart (namesOf columns) (foundColumns table other positions others)) height := by
  let matching := table.rows.map fun row =>
    (row.key? positions).bind fun key => (other.keyed others).lookup key
  let added := other.fields.zipIdx.filter fun (_, position) => !others.contains position
  have folded := foldl_append shape matching ((List.length_map _).trans shape.height) added
  have found : (added.map fun (field, position) =>
      (field, matching.map fun row? => row?.elim field.type.missing (·.cell position))) =
      foundColumns table other positions others := by
    simp only [foundColumns, matching, added, List.map_map]
    rfl
  rw [found] at folded
  refine ⟨_, ?_, folded⟩
  rw [Table.leftJoin, here, there]
  rfl

private theorem zipIdx_beyond {α : Type} (items : List α) (start width : Nat) :
    ((items.zipIdx start).filter fun (_, position) => decide (width ≤ position)).map (·.1) =
      items.drop (width - start) := by
  induction items generalizing start with
  | nil => simp
  | cons item items ih =>
    rw [List.zipIdx_cons, List.filter_cons]
    by_cases beyond : width ≤ start
    · rw [if_pos (by simpa using beyond), List.map_cons, ih]
      rw [Nat.sub_eq_zero_of_le beyond, Nat.sub_eq_zero_of_le (Nat.le_succ_of_le beyond)]
      rfl
    · have shorter : width - start = (width - (start + 1)) + 1 := by omega
      rw [if_neg (by simpa using beyond), ih, shorter, List.drop_succ_cons]

theorem namesOf_foundColumns (table : Table) (positions : List Nat) {keys rest : List String}
    (leading : other.names = keys ++ rest) :
    namesOf (foundColumns table other positions (List.range keys.length)) = rest := by
  have beyond : (fun (_, position) => !(List.range keys.length).contains position : Field × Nat → Bool) =
      fun (_, position) => decide (keys.length ≤ position) := by
    funext ⟨_, position⟩
    rw [Bool.eq_iff_iff]
    simp
  have fields := zipIdx_beyond other.fields 0 keys.length
  calc namesOf (foundColumns table other positions (List.range keys.length))
      = (((other.fields.zipIdx.filter fun (_, position) => decide (keys.length ≤ position)).map
          (·.1)).map (·.name)) := by
        rw [namesOf, foundColumns, beyond, List.map_map, List.map_map]
        rfl
    _ = (other.fields.drop keys.length).map (·.name) := by rw [fields, Nat.sub_zero]
    _ = other.names.drop keys.length := by rw [List.map_drop, Table.names]
    _ = rest := by rw [leading, List.drop_left]

private theorem leftJoin_extends (shape : Columnar table columns height) (keys : List String) {rest : List String}
    (present : ∀ key ∈ keys, key ∈ namesOf columns) (leading : other.names = keys ++ rest)
    (distinct : keys.Nodup) :
    ∃ joined added, table.leftJoin other keys = .ok joined ∧
      Columnar joined (columns ++ added) height ∧
      namesOf added = freshNames (namesOf columns) rest := by
  obtain ⟨positions, here⟩ := requireAll_succeeds.mpr
    fun key member => shape.contains_iff.mpr (present key member)
  obtain ⟨joined, went, result⟩ := leftJoin_columnar shape here (requireAll_leading leading distinct)
  exact ⟨joined, _, went, result, by rw [namesOf_apart, namesOf_foundColumns table _ leading]⟩

end Joins

section Pivots

variable {table : Table}

def textsOf (table : Table) (name : String) : List String :=
  ((table.column? name).getD []).filterMap Cell.key?

/-- The wide table starts with its index; the other columns are named by the long table. -/
theorem pivot_names {index : List String} {names values : String} {wide : Table}
    (pivoted : table.pivot index names values = .ok wide) :
    ∃ texts : List String, wide.names = index ++ texts.map (wideName index values) ∧
      ∀ text ∈ texts, text ∈ textsOf table names := by
  obtain ⟨positions, located, rfl⟩ := pivot_eq_ok.mp pivoted
  refine ⟨distinctNames positions table.rows, ?_, ?_⟩
  · rw [Table.names, wideTable, List.map_append, fieldsAt_names located.index, List.map_map]
    rfl
  · intro text member
    obtain ⟨row, inside, counts, same⟩ := mem_distinctNames.mp member
    have given := key?_eq (row.cell positions.name)
    rw [if_pos (Bool.and_eq_true_iff.mp counts).2] at given
    rw [textsOf, Table.column?, located.name, ← same]
    exact List.mem_filterMap.mpr ⟨_, List.mem_map_of_mem inside, given⟩

private theorem wideName_marked (index : List String) (values name : String) :
    wideName index values name = name ∨ Marked (wideName index values name) := by
  rw [wideName]
  split
  · exact .inr (by simp [Marked, toString])
  · exact .inl rfl

end Pivots

section Extensions

variable {table : Table} {columns : List (Field × List Cell)} {height : Nat}

def resultKeys : List String := [Column.runID, Column.module, Column.name]

def attributeColumns : List String := resultKeys ++ [Column.attrname, Column.attrvalue]

theorem resultKeys_distinct : resultKeys.Nodup := by decide

/-- Attributes stand behind the results they belong to. Each of their columns is named by an
attribute or has a name that was changed. -/
theorem appendAttributes_extends (shape : Columnar table columns height)
    (keyed : ∀ key ∈ resultKeys, key ∈ namesOf columns) {attributes : Table}
    (complete : ∀ name ∈ attributeColumns, attributes.contains name) :
    ∃ joined more, table.appendAttributes attributes = .ok joined ∧ Columnar joined more height ∧
      Extends (fun column =>
        column.1.name ∈ textsOf attributes Column.attrname ∨ Marked column.1.name) columns more := by
  rw [attributeColumns, List.forall_mem_append] at complete
  obtain ⟨wide, pivoted⟩ := pivot_succeeds.mpr
    ⟨complete.1, complete.2 Column.attrname (by simp), complete.2 Column.attrvalue (by simp)⟩
  obtain ⟨texts, leading, origin⟩ := pivot_names pivoted
  obtain ⟨joined, added, went, result, named⟩ :=
    leftJoin_extends shape resultKeys keyed leading resultKeys_distinct
  refine ⟨joined, columns ++ added, ?_, result, added, rfl, ?_⟩
  · rw [Table.appendAttributes]
    change (attributes.pivot resultKeys Column.attrname Column.attrvalue >>=
      fun wide => table.leftJoin wide resultKeys) = _
    rw [pivoted]
    exact went
  · intro column member
    have listed : column.1.name ∈ namesOf added := List.mem_map_of_mem member
    rw [named] at listed
    obtain ⟨free, wideNamed | marked⟩ := mem_freshNames listed
    · obtain ⟨text, given, same⟩ := List.mem_map.mp wideNamed
      rcases wideName_marked resultKeys Column.attrvalue text with plain | marked
      · rw [plain] at same
        exact ⟨free, .inl (same ▸ origin text given)⟩
      · rw [same] at marked
        exact ⟨free, .inr marked⟩
    · exact ⟨free, .inr marked⟩

theorem appendAttributes_succeeds (shape : Columnar table columns height)
    (keyed : ∀ key ∈ resultKeys, key ∈ namesOf columns) {attributes : Table} :
    (∃ joined, table.appendAttributes attributes = .ok joined) ↔
      ∀ name ∈ attributeColumns, attributes.contains name := by
  constructor
  · intro given
    obtain ⟨joined, went⟩ := given
    rw [Table.appendAttributes] at went
    obtain ⟨wide, pivoted, _⟩ := bind_eq_ok.mp went
    obtain ⟨keys, names, values⟩ := pivot_succeeds.mp ⟨wide, pivoted⟩
    rw [attributeColumns, List.forall_mem_append]
    exact ⟨keys, by simp [names, values]⟩
  · intro complete
    obtain ⟨joined, _, went, _⟩ := appendAttributes_extends shape keyed complete
    exact ⟨joined, went⟩

private theorem renamed_metadata (rows : List Row) :
    (Table.rename ⟨Metadata.Layout.nameValue.fields, rows⟩ Column.name Column.attrname).rename
        Column.value Column.attrvalue =
      ⟨[⟨Column.runID, .text⟩, ⟨Column.attrname, .text⟩, ⟨Column.attrvalue, .text⟩], rows⟩ := rfl

theorem suffixed_names {wide : Table} {first : String} {rest : List String}
    (leading : wide.names = [first] ++ rest) (suffix : String) :
    (wide.suffixed suffix).names = [first] ++ rest.map (· ++ suffix) := by
  obtain ⟨fields, rows⟩ := wide
  obtain _ | ⟨field, fields⟩ := fields
  · cases leading
  · obtain ⟨rfl, rfl⟩ := List.cons.inj leading
    simp [Table.suffixed, Table.names, Function.comp_def]

/-- Metadata of runs can always be attached where there are runs. -/
theorem appendMetadata_extends (shape : Columnar table columns height)
    (keyed : Column.runID ∈ namesOf columns) {metadata : Table}
    (layout : metadata.fields = Metadata.Layout.nameValue.fields) {suffix : String}
    (ending : Marked suffix) :
    ∃ joined more, table.appendMetadata metadata suffix = .ok joined ∧
      Columnar joined more height ∧ Extends (fun column => Marked column.1.name) columns more := by
  obtain ⟨fields, rows⟩ := metadata
  change fields = _ at layout
  subst layout
  obtain ⟨wide, pivoted⟩ : ∃ wide, Table.pivot
      ⟨[⟨Column.runID, .text⟩, ⟨Column.attrname, .text⟩, ⟨Column.attrvalue, .text⟩], rows⟩
      [Column.runID] Column.attrname Column.attrvalue = .ok wide :=
    pivot_succeeds.mpr ⟨by simp [Table.contains, Table.position?, positionIn?], rfl, rfl⟩
  obtain ⟨texts, leading, _⟩ := pivot_names pivoted
  obtain ⟨joined, added, went, result, named⟩ :=
    leftJoin_extends shape [Column.runID] (by simpa using keyed)
      (suffixed_names leading suffix) (by simp)
  refine ⟨joined, columns ++ added, ?_, result, added, rfl, ?_⟩
  · rw [Table.appendMetadata, shape.contains_iff.mpr keyed, renamed_metadata]
    change (Table.pivot _ _ _ _ >>= fun wide : Table => table.leftJoin (wide.suffixed suffix) _) = _
    rw [pivoted]
    exact went
  · intro column member
    have listed : column.1.name ∈ namesOf added := List.mem_map_of_mem member
    rw [named] at listed
    obtain ⟨free, suffixed | marked⟩ := mem_freshNames listed
    · obtain ⟨text, _, same⟩ := List.mem_map.mp suffixed
      have kept : Marked (text ++ suffix) := by
        rw [Marked, String.toList_append]
        exact List.mem_append_right _ ending
      rw [same] at kept
      exact ⟨free, kept⟩
    · exact ⟨free, marked⟩

end Extensions

end SimResults.Proofs.Joining
