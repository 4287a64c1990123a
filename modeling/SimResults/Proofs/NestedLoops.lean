import SimResults.Proofs.Joining

/-! Joins without an index. Every row is extended by the first row of the other table that agrees
with it in the keys, as if it were compared with one after the other. What is added keeps its name,
with as few marks behind it as set it apart. -/

namespace SimResults.Proofs.NestedLoops
open Outcomes TableColumns Pivoting Joining

section Names

/-- `fresh` is `name` with the fewest marks behind it that set it apart from the taken names. -/
def Fresh (taken : List String) (name fresh : String) : Prop :=
  ∃ count, fresh = name ++ marks count ∧ fresh ∉ taken ∧ ∀ fewer < count, name ++ marks fewer ∈ taken

/-- Columns in order, each under a name apart from the taken ones and from those before it. -/
inductive SetApart : (taken : List String) → (fields fresh : List Field) → Prop
  | nil {taken : List String} : SetApart taken [] []
  | cons {taken : List String} {field : Field} {name : String} {fields fresh : List Field} :
      Fresh taken field.name name → SetApart (taken ++ [name]) fields fresh →
      SetApart taken (field :: fields) (⟨name, field.type⟩ :: fresh)

private theorem freshName_fresh (taken : List String) (name : String) : Fresh taken name
    (freshName taken name) := by
  obtain ⟨count, same, known⟩ := freshName_marks taken name
  exact ⟨count, same, freshName_free taken name, known⟩

theorem SetApart.eq_self {taken : List String} {fields fresh : List Field} (apart : SetApart taken fields fresh)
    (free : ∀ field ∈ fields, field.name ∉ taken) (distinct : (fields.map (·.name)).Nodup) : fresh = fields := by
  induction apart with
  | nil => rfl
  | cons named _ ih =>
    rw [List.forall_mem_cons] at free
    rw [List.map_cons, List.nodup_cons] at distinct
    obtain ⟨count, rfl, _, known⟩ := named
    cases count with
    | succ count =>
      have used := known 0 (by omega)
      rw [append_no_marks] at used
      exact absurd used free.1
    | zero =>
      rw [append_no_marks] at ih ⊢
      rw [ih _ distinct.2]
      intro field member used
      rcases List.mem_append.mp used with early | last
      · exact free.2 field member early
      · exact distinct.1 (List.mem_singleton.mp last ▸ List.mem_map_of_mem member)

end Names

section Rows

/-- Two rows agree in their keys: no key cell is missing, and each has the text of its counterpart. -/
def agree (here there : List Nat) (row entry : Row) : Bool :=
  (here.zip there).all fun (left, right) =>
    !(row.cell left).isMissing && !(entry.cell right).isMissing &&
      (row.cell left).key? == (entry.cell right).key?

private theorem cells_agree (left right : Cell) :
    (!left.isMissing && !right.isMissing && left.key? == right.key?) = true ↔
      ∃ text, left.key? = some text ∧ right.key? = some text := by
  rw [← key?_isSome, ← key?_isSome]
  cases left.key? with
  | none => simp
  | some text =>
    cases right.key? with
    | none => simp
    | some other => simp [eq_comm (a := text)]

private theorem key?_cons (row : Row) (position : Nat) (positions : List Nat) (key : List String) :
    row.key? (position :: positions) = some key ↔
      ∃ text texts, (row.cell position).key? = some text ∧ row.key? positions = some texts ∧
        key = text :: texts := by
  rw [Row.key?, List.mapM_cons]
  simp [Row.key?, Option.bind_eq_some_iff, eq_comm (a := key)]

theorem agree_iff {here there : List Nat} (same : here.length = there.length) (row entry : Row) :
    agree here there row entry = true ↔ ∃ key, row.key? here = some key ∧ entry.key? there = some key := by
  induction here generalizing there with
  | nil =>
    cases there with
    | nil => exact iff_of_true rfl ⟨[], rfl, rfl⟩
    | cons => cases same
  | cons left here ih =>
    cases there with
    | nil => cases same
    | cons right there =>
      have first := cells_agree (row.cell left) (entry.cell right)
      have rest := ih (Nat.succ.inj same)
      rw [agree] at rest ⊢
      rw [List.zip_cons_cons, List.all_cons, Bool.and_eq_true, first, rest]
      simp only [key?_cons]
      constructor
      · intro ⟨⟨text, own, its⟩, texts, owns, theirs⟩
        exact ⟨text :: texts, ⟨text, texts, own, owns, rfl⟩, text, texts, its, theirs, rfl⟩
      · intro ⟨key, ⟨text, texts, own, owns, made⟩, other, others, its, theirs, again⟩
        obtain ⟨rfl, rfl⟩ := List.cons.inj (made.symm.trans again)
        exact ⟨⟨text, own, its⟩, texts, owns, theirs⟩

private theorem lookup_keyed (other : Table) (there : List Nat) (key : List String) :
    (other.keyed there).lookup key = other.rows.find? fun entry => entry.key? there == some key := by
  rw [Table.keyed]
  induction other.rows with
  | nil => rfl
  | cons entry rows ih =>
    rw [List.filterMap_cons, List.find?_cons]
    cases entry.key? there with
    | none => exact ih
    | some found =>
      rw [Option.map_some, List.lookup_cons, ih, Option.some_beq_some, Bool.beq_comm]

/-- The index finds what a search through all rows finds. -/
theorem found_first (other : Table) {here there : List Nat} (same : here.length = there.length) (row : Row) :
    ((row.key? here).bind fun key => (other.keyed there).lookup key) =
      other.rows.find? (agree here there row) := by
  cases given : row.key? here with
  | none =>
    rw [Option.bind_none, eq_comm, List.find?_eq_none]
    intro entry _ agreed
    obtain ⟨key, found, _⟩ := (agree_iff same row entry).mp agreed
    cases given.symm.trans found
  | some key =>
    rw [Option.bind_some, lookup_keyed]
    congr 1
    funext entry
    rw [Bool.eq_iff_iff, agree_iff same, given]
    simp

end Rows

section Joins

variable {table other : Table} {keys : List String} {here there : List Nat}

def carried (other : Table) (there : List Nat) : List (Field × Nat) :=
  other.fields.zipIdx.filter fun (_, position) => !there.contains position

private theorem foldl_appended {α : Type} (items : List α) (cell : Field × Nat → α → Cell)
    (added : List (Field × Nat)) {base : α → Row} {table : Table} (rows : table.rows = items.map base) :
    ∃ fresh, SetApart table.names (added.map (·.1)) fresh ∧
      added.foldl (fun joined column =>
          joined.append ⟨freshName joined.names column.1.name, column.1.type⟩ (items.map (cell column))) table =
        ⟨table.fields ++ fresh, items.map fun item => base item ++ added.map (cell · item)⟩ := by
  induction added generalizing base table with
  | nil => exact ⟨[], .nil, by simp [← rows]⟩
  | cons column added ih =>
    let name := freshName table.names column.1.name
    let extended := table.append ⟨name, column.1.type⟩ (items.map (cell column))
    have longer : extended.rows = items.map fun item => base item ++ [cell column item] := by
      simp [extended, Table.append, rows, List.zipWith_map, List.zipWith_self]
    have names : extended.names = table.names ++ [name] := by simp [extended, Table.append, Table.names]
    obtain ⟨fresh, apart, made⟩ := ih longer
    rw [names] at apart
    refine ⟨⟨name, column.1.type⟩ :: fresh, .cons (freshName_fresh _ _) apart, ?_⟩
    rw [List.foldl_cons]
    refine made.trans ?_
    simp [extended, Table.append]

theorem leftJoin_found (left : table.requireAll keys = .ok here) (right : other.requireAll keys = .ok there) :
    ∃ added, SetApart table.names ((carried other there).map (·.1)) added ∧
      table.leftJoin other keys = .ok
        { fields := table.fields ++ added
          rows := table.rows.map fun row => row ++ (carried other there).map fun (field, position) =>
            (other.rows.find? (agree here there row)).elim field.type.missing (·.cell position) } := by
  have same : here.length = there.length := (requireAll_length left).trans (requireAll_length right).symm
  obtain ⟨added, apart, made⟩ := foldl_appended table.rows
    (fun (field, position) row =>
      (other.rows.find? (agree here there row)).elim field.type.missing (·.cell position))
    (carried other there) (List.map_id' table.rows).symm
  refine ⟨added, apart, ?_⟩
  have found := List.map_congr_left fun row (_ : row ∈ table.rows) => found_first other same row
  rw [Table.leftJoin, left, right]
  change Except.ok (List.foldl _ table (carried other there)) = _
  simp only [found, List.map_map]
  exact congrArg Except.ok made

private theorem leftJoin_eq_error {failure : Failure} :
    table.leftJoin other keys = .error failure ↔
      Lacks table keys failure ∨ (∀ key ∈ keys, key ∈ table.names) ∧ Lacks other keys failure := by
  have complete : (∀ key ∈ keys, key ∈ table.names) ↔ ∃ here, table.requireAll keys = .ok here := by
    rw [requireAll_succeeds]
    simp only [contains_iff]
  rw [Table.leftJoin, bind_eq_error, requireAll_eq_error, complete]
  simp only [bind_eq_error, requireAll_eq_error]
  simp [pure, Except.pure]

/-- A join fails exactly if a key is no column of both tables. Otherwise all columns and rows stay, and
each row is extended by the first row of the other table that agrees with it. -/
theorem leftJoin_nested_loop (table other : Table) (keys : List String) :
    ((∃ failure, table.leftJoin other keys = .error failure) ↔
      ∃ key ∈ keys, key ∉ table.names ∨ key ∉ other.names) ∧
    (∀ failure, table.leftJoin other keys = .error failure → Lacks table keys failure ∨ Lacks other keys failure) ∧
    ((∀ key ∈ keys, key ∈ table.names ∧ key ∈ other.names) →
      ∃ here there added, keys.map table.position? = here.map some ∧
        keys.map other.position? = there.map some ∧
        SetApart table.names ((carried other there).map (·.1)) added ∧
        table.leftJoin other keys = .ok
          { fields := table.fields ++ added
            rows := table.rows.map fun row => row ++ (carried other there).map fun (field, position) =>
              (other.rows.find? (agree here there row)).elim field.type.missing (·.cell position) }) := by
  refine ⟨?_, ?_, ?_⟩
  · simp only [leftJoin_eq_error, exists_or, exists_and_left, lacks_iff]
    constructor
    · intro fails
      rcases fails with ⟨key, member, absent⟩ | ⟨_, key, member, absent⟩
      · exact ⟨key, member, .inl absent⟩
      · exact ⟨key, member, .inr absent⟩
    · intro ⟨key, member, absent⟩
      by_cases complete : ∀ key ∈ keys, key ∈ table.names
      · exact .inr ⟨complete, key, member, absent.resolve_left (not_not_intro (complete key member))⟩
      · exact .inl (by simpa using complete)
  · intro failure failed
    exact (leftJoin_eq_error.mp failed).imp_right (·.2)
  · intro complete
    obtain ⟨here, left⟩ := requireAll_succeeds.mpr fun key member => contains_iff.mpr (complete key member).1
    obtain ⟨there, right⟩ := requireAll_succeeds.mpr fun key member => contains_iff.mpr (complete key member).2
    obtain ⟨added, apart, joined⟩ := leftJoin_found left right
    exact ⟨here, there, added, requireAll_eq_ok.mp left, requireAll_eq_ok.mp right, apart, joined⟩

def sensors : Table where
  fields := [⟨"node", .text⟩, ⟨"port", .integer⟩, ⟨"mean", .number⟩, ⟨"mean_y", .number⟩]
  rows :=
    [[.text "a", .integer 1, .number 0.5, .number 1], [.text "b", .integer 2, .number 2, .number 4],
      [.text "a", .null, .number 8, .number 16]]

def limits : Table where
  fields := [⟨"mean", .array⟩, ⟨"port", .text⟩, ⟨"node", .text⟩, ⟨"node", .generic⟩, ⟨"mean", .number⟩]
  rows :=
    [[.array [1], .null, .text "a", .text "x", .number 7], [.array [2], .text "1", .text "a", .null, .number 3],
      [.array [3], .text "1", .text "a", .text "z", .number 5]]

def limited : Table where
  fields := sensors.fields ++
    [⟨"mean_y_y", .array⟩, ⟨"node_y", .generic⟩, ⟨"mean_y_y_y", .number⟩]
  rows :=
    [[.text "a", .integer 1, .number 0.5, .number 1, .array [2], .null, .number 3],
      [.text "b", .integer 2, .number 2, .number 4, .array [], .null, .number Number.notANumber],
      [.text "a", .null, .number 8, .number 16, .array [], .null, .number Number.notANumber]]

theorem leftJoin_nested_loop_marked :
    (∀ key ∈ ["port", "node", "port"], key ∈ sensors.names ∧ key ∈ limits.names) ∧
      sensors.leftJoin limits ["port", "node", "port"] = .ok limited ∧
      SetApart sensors.names [⟨"mean", .array⟩, ⟨"node", .generic⟩, ⟨"mean", .number⟩]
        [⟨"mean_y_y", .array⟩, ⟨"node_y", .generic⟩, ⟨"mean_y_y_y", .number⟩] := by
  have complete : ∀ key ∈ ["port", "node", "port"], key ∈ sensors.names ∧ key ∈ limits.names := by decide
  obtain ⟨here, there, added, left, right, apart, joined⟩ :=
    (leftJoin_nested_loop sensors limits ["port", "node", "port"]).2.2 complete
  have result : sensors.leftJoin limits ["port", "node", "port"] = .ok limited := by decide +kernel
  obtain ⟨fields, _⟩ := Table.mk.inj (Except.ok.inj (joined.symm.trans result))
  cases List.append_cancel_left fields
  have positions : limits.requireAll ["port", "node", "port"] = .ok [1, 2, 1] := by decide
  cases (requireAll_eq_ok.mpr right).symm.trans positions
  exact ⟨complete, result, apart⟩

end Joins

end SimResults.Proofs.NestedLoops
