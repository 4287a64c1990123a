import SimResults.Export
import SimResults.Proofs.Lookups

/-! Names of wide columns. A name that is taken by the index is changed once, and nothing is compared with
the changed name. So the names of a wide table are apart unless a changed name is the name of another column,
and only then is there a value that its column's name does not lead to. -/

namespace SimResults.Proofs.WideNames
open TableColumns FirstSeen Pivoting Reshaping WideTables Lookups

section Names

variable {index texts : List String} {values : String}

/-- The name of no other column is what some taken name is changed to. -/
def Apart (index : List String) (values : String) (texts : List String) : Prop :=
  ∀ name ∈ index, name ∈ texts → name ++ "_" ++ values ∉ index ∧ name ++ "_" ++ values ∉ texts

instance (index : List String) (values : String) (texts : List String) : Decidable (Apart index values texts) :=
  inferInstanceAs (Decidable (∀ name ∈ index, _))

private theorem wideName_taken {name : String} (taken : name ∈ index) :
    wideName index values name = name ++ "_" ++ values := by rw [wideName_eq, if_pos taken]

private theorem wideName_free {name : String} (free : name ∉ index) : wideName index values name = name := by
  rw [wideName_eq, if_neg free]

private theorem Apart.injective (apart : Apart index values texts) :
    ∀ name ∈ texts, ∀ other ∈ texts,
      wideName index values name = wideName index values other → name = other := by
  intro name member other among same
  by_cases taken : name ∈ index
  · by_cases also : other ∈ index
    · rw [wideName_taken taken, wideName_taken also, String.append_assoc, String.append_assoc] at same
      exact (String.append_left_inj _).mp same
    · rw [wideName_taken taken, wideName_free also] at same
      exact absurd (same ▸ among) (apart name taken member).2
  · by_cases also : other ∈ index
    · rw [wideName_free taken, wideName_taken also] at same
      exact absurd (same ▸ member) (apart other also among).2
    · rwa [wideName_free taken, wideName_free also] at same

private theorem Apart.disjoint (apart : Apart index values texts) {name : String} (member : name ∈ texts) :
    wideName index values name ∉ index := by
  by_cases taken : name ∈ index
  · rw [wideName_taken taken]
    exact (apart name taken member).1
  · rwa [wideName_free taken]

private theorem wideNames_nodup (indexed : index.Nodup) (distinct : texts.Nodup) :
    (index ++ texts.map (wideName index values)).Nodup ↔ Apart index values texts := by
  rw [List.nodup_append]
  constructor
  · intro ⟨_, wide, different⟩ name taken member
    have renamed : wideName index values name = name ++ "_" ++ values := wideName_taken taken
    have changed : name ++ "_" ++ values ∈ texts.map (wideName index values) :=
      renamed ▸ List.mem_map_of_mem member
    have free : name ++ "_" ++ values ∉ index := fun used => different _ used _ changed rfl
    refine ⟨free, ?_⟩
    intro among
    have one := List.inj_on_of_nodup_map wide among member
      ((wideName_free free).trans renamed.symm)
    exact free (by rwa [one])
  · intro apart
    refine ⟨indexed, distinct.map_on apart.injective, ?_⟩
    rintro name used _ among rfl
    obtain ⟨text, member, same⟩ := List.mem_map.mp among
    exact apart.disjoint member (same ▸ used)

end Names

section Tables

variable {table wide : Table} {index : List String} {names values : String} {positions : Pivot.Positions}

private theorem names_wideTable (located : Locates table index names values positions) :
    (wideTable table index values positions).names =
      index ++ (distinctNames positions table.rows).map (wideName index values) := by
  rw [Table.names, wideTable, List.map_append, fieldsAt_names located.index, List.map_map]
  rfl

private theorem wideTable_cell? (distinct : (wideTable table index values positions).names.Nodup) {row column : Nat}
    {key : List String} {name : String} (known : (distinctKeys positions table.rows)[row]? = some key)
    (named : (distinctNames positions table.rows)[column]? = some name) :
    (wideTable table index values positions).cell? row (wideName index values name) =
      some (valueCell positions table.rows (table.field positions.value).type.missing key name) := by
  obtain ⟨inside, rfl⟩ := List.getElem?_eq_some_iff.mp named
  have field : (⟨wideName index values (distinctNames positions table.rows)[column],
      (table.field positions.value).type⟩, positions.index.length + column) ∈
        (wideTable table index values positions).fields.zipIdx := by
    rw [List.mk_mem_zipIdx_iff_getElem?, wideTable, List.getElem?_append_right (by simp [Table.fieldsAt])]
    simp [Table.fieldsAt, inside]
  have there := position?_of_nodup distinct field
  have found : (wideTable table index values positions).rows[row]? =
      some (wideRow positions table.rows (table.field positions.value).type.missing key) := by
    rw [wideTable, List.getElem?_map, known]
    rfl
  rw [Table.cell?, there, found]
  exact congrArg some (cell_wideRow (List.mem_of_getElem? known) inside)

private theorem wideTable_nodup (located : Locates table index names values positions) (indexed : index.Nodup) :
    (wideTable table index values positions).names.Nodup ↔
      Apart index values (distinctNames positions table.rows) := by
  rw [names_wideTable located]
  exact wideNames_nodup indexed (nodup_eraseDups _)

/-- The names of runs and modules do not end like a changed name, so that only scalars can be called so. -/
private theorem apart_scalars {texts : List String} :
    Apart [Column.runID, Column.module] Column.value texts ↔
      ∀ name ∈ [Column.runID, Column.module], name ∈ texts → name ++ "_value" ∉ texts := by
  have free : ∀ name ∈ [Column.runID, Column.module], name ++ "_value" ∉ [Column.runID, Column.module] := by decide
  have ending : "_" ++ Column.value = "_value" := rfl
  simp only [Apart, String.append_assoc, ending]
  constructor
  · intro apart name taken member
    exact (apart name taken member).2
  · intro apart name taken member
    exact ⟨free name taken, apart name taken member⟩

/-- Names are apart exactly if no changed name is the name of another column. Then each value of the long
table that is not passed over is found by the name of its column. -/
theorem pivot_names_apart (table wide : Table) (index : List String) (names values : String)
    (indexed : index.Nodup) :
    (table.pivot index names values = .ok wide →
      ∃ positions, Locates table index names values positions ∧
        (wide.names.Nodup ↔ Apart index values (distinctNames positions table.rows)) ∧
        (wide.names.Nodup → ∀ row key, (distinctKeys positions table.rows)[row]? = some key →
          ∀ name ∈ distinctNames positions table.rows,
            wide.cell? row (if name ∈ index then name ++ "_" ++ values else name) =
              some (valueCell positions table.rows (table.field positions.value).type.missing key name))) ∧
    (table.pivotScalars = .ok wide →
      ∃ positions, Locates table [Column.runID, Column.module] Column.name Column.value positions ∧
        (wide.names.Nodup ↔ ∀ name ∈ [Column.runID, Column.module],
          name ∈ distinctNames positions table.rows → name ++ "_value" ∉ distinctNames positions table.rows)) := by
  constructor
  · intro pivoted
    obtain ⟨positions, located, rfl⟩ := pivot_eq_ok.mp pivoted
    refine ⟨positions, located, wideTable_nodup located indexed, ?_⟩
    intro distinct row key known name member
    obtain ⟨column, named⟩ := List.getElem?_of_mem member
    rw [← wideName_eq]
    exact wideTable_cell? distinct known named
  · intro pivoted
    obtain ⟨positions, located, rfl⟩ := pivot_eq_ok.mp pivoted
    refine ⟨positions, located, ?_⟩
    rw [wideTable_nodup located (by decide), apart_scalars]

def readings : Table where
  fields := [⟨"runID", .text⟩, ⟨"module", .text⟩, ⟨"name", .text⟩, ⟨"value", .generic⟩]
  rows :=
    [[.text "r0", .text "m", .text "module", .number 1], [.text "r0", .text "m", .text "runID_value", .number 2],
      [.text "r1", .text "m", .text "name", .number 4]]

theorem pivot_names_apart_readings :
    ["runID", "module"].Nodup ∧
      ∃ wide, readings.pivot ["runID", "module"] "name" "value" = .ok wide ∧
        wide.names = ["runID", "module", "module_value", "runID_value", "name"] ∧ wide.names.Nodup ∧
        wide.cell? 0 "module_value" = some (.number 1) := by
  have indexed : ["runID", "module"].Nodup := by decide
  obtain ⟨⟨own, named, valued⟩, located, distinct, reached⟩ :=
    (pivot_names_apart readings _ ["runID", "module"] "name" "value" indexed).1 rfl
  have positions : readings.requireAll ["runID", "module"] = .ok [0, 1] := by decide
  cases (requireAll_eq_ok.mpr located.index).symm.trans positions
  cases (show some 2 = some named from located.name)
  cases (show some 3 = some valued from located.value)
  have apart := distinct.mpr (by decide +kernel)
  refine ⟨indexed, _, rfl, by decide +kernel, apart, ?_⟩
  exact (reached apart 0 ["r0", "m"] (by decide +kernel) "module" (by decide +kernel)).trans (by decide +kernel)

def shadowed : Table where
  fields := ["runID", "type", "module", "name", "value"].map .declared
  rows := [[.text "r0", .text "scalar", .text "m", .text "module", .number 1],
    [.text "r0", .text "scalar", .text "m", .text "module_value", .number 2]]

def shadowing : Table where
  fields := ["runID", "module", "module_value", "module_value"].map .declared
  rows := [[.text "r0", .text "m", .number 1, .number 2]]

/-- Two columns have one name, and no name leads to the second of them. -/
theorem changed_name_repeats :
    Export.read (Text.encode
        "run,type,module,name,value\nr0,scalar,m,module,1\nr0,scalar,m,module_value,2\n") = .ok shadowed ∧
      shadowed.Rectangular ∧ shadowed.pivotScalars = .ok shadowing ∧ ¬ shadowing.names.Nodup ∧
      ∀ name, shadowing.cell? 0 name ≠ some (.number 2) := by
  refine ⟨by decide +kernel, by decide, by decide +kernel, by decide, ?_⟩
  intro name
  by_cases known : name ∈ shadowing.names
  · have each : ∀ name ∈ shadowing.names, shadowing.cell? 0 name ≠ some (.number 2) := by decide +kernel
    exact each name known
  · have absent : shadowing.position? name = none := by
      simpa [Table.contains] using mt contains_iff.mp known
    rw [Table.cell?, absent]
    intro impossible
    cases impossible

end Tables

end SimResults.Proofs.WideNames
