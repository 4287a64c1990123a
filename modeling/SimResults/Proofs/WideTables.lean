import SimResults.Proofs.Pivoting

/-! Wide tables without the pass that fills them. Rows without an index or a name do not matter; among
the others, the first row of a key gives the index cells, and the first row of a key and a name gives
the value. -/

namespace SimResults.Proofs.WideTables
open Outcomes TableColumns Pivoting

variable {table : Table} {index : List String} {names values : String}

private theorem pivot_eq_error {failure : Failure} :
    table.pivot index names values = .error failure ↔ Lacks table (index ++ [names, values]) failure := by
  have complete : (∃ positions, table.requireAll index = .ok positions) ↔ ∀ name ∈ index, name ∈ table.names := by
    rw [requireAll_succeeds]
    simp only [contains_iff]
  have last : Lacks table [names, values] failure ↔
      table.require names = .error failure ∨
        ∃ position, table.require names = .ok position ∧ table.require values = .error failure := by
    rw [← requireAll_eq_error, Table.requireAll]
    simp [bind_eq_error, pure, Except.pure]
  rw [lacks_append, ← requireAll_eq_error, ← complete, last, Table.pivot]
  simp only [bind_eq_error]
  simp [pure, Except.pure]

private theorem wideTable_congr {positions : Pivot.Positions} {rows : List Row}
    (same : validRows positions rows = validRows positions table.rows) :
    wideTable ⟨table.fields, rows⟩ index values positions = wideTable table index values positions := by
  have keys : distinctKeys positions rows = distinctKeys positions table.rows := by
    rw [distinctKeys, same, distinctKeys]
  have named : distinctNames positions rows = distinctNames positions table.rows := by
    rw [distinctNames, same, distinctNames]
  have cells : indexCells positions rows = indexCells positions table.rows := by
    funext key
    rw [indexCells, same, indexCells]
  have filled : valueCell positions rows = valueCell positions table.rows := by
    funext missing key name
    rw [valueCell, same, valueCell]
  simp only [wideTable, keys, named, cells, filled]
  rfl

theorem wideName_eq (index : List String) (values name : String) :
    wideName index values name = if name ∈ index then name ++ "_" ++ values else name := by
  rw [wideName, List.contains_eq_mem]
  by_cases taken : name ∈ index
  · rw [if_pos (decide_eq_true taken), if_pos taken]
    rfl
  · rw [if_neg (by simpa using taken), if_neg taken]

/-- A pivot fails exactly if a column is absent that it is asked for. Otherwise each key has one row,
with the index cells of its first row and, for each name, the value of the first row of both. -/
theorem pivot_by_first_rows (table : Table) (index : List String) (names values : String) :
    ((∃ failure, table.pivot index names values = .error failure) ↔
      ∃ name ∈ index ++ [names, values], name ∉ table.names) ∧
    (∀ failure, table.pivot index names values = .error failure → Lacks table (index ++ [names, values]) failure) ∧
    ((∀ name ∈ index ++ [names, values], name ∈ table.names) →
      ∃ positions, Locates table index names values positions ∧
        table.pivot index names values = .ok
          { fields := table.fieldsAt positions.index ++ (distinctNames positions table.rows).map fun name =>
              ⟨if name ∈ index then name ++ "_" ++ values else name, (table.field positions.value).type⟩
            rows := (distinctKeys positions table.rows).map fun key =>
              indexCells positions table.rows key ++ (distinctNames positions table.rows).map
                (valueCell positions table.rows (table.field positions.value).type.missing key) } ∧
        ∀ rows, validRows positions rows = validRows positions table.rows →
          Table.pivot ⟨table.fields, rows⟩ index names values = table.pivot index names values) := by
  refine ⟨?_, fun failure => pivot_eq_error.mp, ?_⟩
  · simp only [pivot_eq_error]
    exact lacks_iff
  · intro complete
    have present : ∀ name ∈ index ++ [names, values], table.contains name := by simpa only [contains_iff] using complete
    rw [List.forall_mem_append] at present
    obtain ⟨wide, pivoted⟩ := pivot_succeeds.mpr ⟨present.1, present.2 names (by simp), present.2 values (by simp)⟩
    obtain ⟨positions, located, rfl⟩ := pivot_eq_ok.mp pivoted
    refine ⟨positions, located, ?_, ?_⟩
    · simp only [pivoted, wideTable, wideName_eq]
    · intro rows same
      rw [pivoted]
      exact pivot_eq_ok.mpr ⟨positions, ⟨located.index, located.name, located.value⟩, (wideTable_congr same).symm⟩

/-- Index cells differ in type and have the same text, a name is that of an index column, the first value
of a key and a name is missing, and two rows have no key or no name. -/
def calls : Table where
  fields := [⟨"callee", .text⟩, ⟨"run", .generic⟩, ⟨"node", .text⟩, ⟨"time", .number⟩]
  rows :=
    [[.text "open", .integer 7, .text "a", .number Number.notANumber],
      [.text "open", .text "7", .text "a", .number 1], [.null, .integer 7, .text "a", .number 2],
      [.text "node", .text "7", .text "a", .number 3], [.text "close", .null, .text "a", .number 4],
      [.text "node", .integer 8, .text "a", .number 5]]

theorem pivot_by_first_rows_calls :
    (∀ name ∈ ["run", "node"] ++ ["callee", "time"], name ∈ calls.names) ∧
      calls.pivot ["run", "node"] "callee" "time" = .ok
        { fields := [⟨"run", .generic⟩, ⟨"node", .text⟩, ⟨"open", .number⟩, ⟨"node_time", .number⟩]
          rows :=
            [[.integer 7, .text "a", .number Number.notANumber, .number 3],
              [.integer 8, .text "a", .number Number.notANumber, .number 5]] } ∧
      Table.pivot ⟨calls.fields, calls.rows.filter fun row => !row.contains .null⟩ ["run", "node"] "callee" "time" =
        calls.pivot ["run", "node"] "callee" "time" := by
  have complete : ∀ name ∈ ["run", "node"] ++ ["callee", "time"], name ∈ calls.names := by decide
  obtain ⟨⟨indexed, named, valued⟩, located, pivoted, unaffected⟩ :=
    (pivot_by_first_rows calls ["run", "node"] "callee" "time").2.2 complete
  have positions : calls.requireAll ["run", "node"] = .ok [1, 2] := by decide
  cases (requireAll_eq_ok.mpr located.index).symm.trans positions
  cases (show some 0 = some named from located.name)
  cases (show some 3 = some valued from located.value)
  exact ⟨complete, pivoted.trans (by decide +kernel), unaffected _ (by decide +kernel)⟩

end SimResults.Proofs.WideTables
