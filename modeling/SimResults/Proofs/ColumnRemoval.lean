import SimResults.Proofs.TableColumns

/-! Dropping columns. Fields and rows lose the same positions, so every column that stays keeps its cells.
Seen as a list of columns next to a number of rows, a table is filtered and nothing else. -/

namespace SimResults.Proofs.ColumnRemoval
open TableColumns

section Lookups

variable {columns fewer : List (Field × List Cell)} {column : Field × List Cell}

private theorem find?_once (member : column ∈ columns) (once : (namesOf columns).count column.1.name = 1) :
    (columns.find? fun other => other.1.name == column.1.name) = some column := by
  obtain ⟨only, _, _, each⟩ := column_once once
  cases found : columns.find? fun other => other.1.name == column.1.name with
  | none => exact absurd (beq_self_eq_true _) (List.find?_eq_none.mp found column member)
  | some other =>
    have named : other.1.name = column.1.name := by simpa using List.find?_some found
    rw [each other (List.mem_of_find?_eq_some found) named, each column member rfl]

private theorem once_among (within : fewer.Sublist columns) (member : column ∈ fewer)
    (once : (namesOf columns).count column.1.name = 1) : (namesOf fewer).count column.1.name = 1 := by
  have most : (namesOf fewer).count column.1.name ≤ (namesOf columns).count column.1.name :=
    (within.map _).count_le _
  have least : 0 < (namesOf fewer).count column.1.name := List.count_pos_iff.mpr (List.mem_map_of_mem member)
  omega

private theorem cell?_of_column? (table : Table) (row : Nat) (name : String) :
    table.cell? row name = (table.column? name).bind (·[row]?) := by
  rw [Table.cell?, Table.column?]
  cases table.position? name with
  | none => rfl
  | some position =>
    simp only [Option.map_some, Option.bind_some, Table.cellsAt, List.getElem?_map]
    cases table.rows[row]? <;> rfl

end Lookups

/-- Dropping removes the columns that are accepted, keeps the others in order and leaves the number of rows
alone; this says all about the table that is left. So what is dropped in two steps can be dropped in one, and
a name that occurs once still leads to the same cells. -/
theorem dropColumns_aligned (table : Table) (rectangular : table.Rectangular) :
    (∀ drop result, table.dropColumns drop = result ↔
      Columnar result (table.columns.filter fun column => !drop column.1 column.2) table.rows.length) ∧
    (∀ drop also, (table.dropColumns drop).dropColumns also =
      table.dropColumns fun field cells => drop field cells || also field cells) ∧
    ∀ drop, ∀ column ∈ table.columns, drop column.1 column.2 = false →
      table.names.count column.1.name = 1 →
        table.column? column.1.name = some column.2 ∧
        (table.dropColumns drop).column? column.1.name = some column.2 ∧
        ∀ row, (table.dropColumns drop).cell? row column.1.name = table.cell? row column.1.name := by
  have shape := Columnar.of_rectangular rectangular
  refine ⟨?_, ?_, ?_⟩
  · intro drop result
    constructor
    · rintro rfl
      exact shape.dropColumns drop
    · exact (shape.dropColumns drop).unique
  · intro drop also
    have steps := (shape.dropColumns drop).dropColumns also
    rw [List.filter_filter] at steps
    have each (column : Field × List Cell) :
        (!also column.1 column.2 && !drop column.1 column.2) = !(drop column.1 column.2 || also column.1 column.2) := by
      rw [Bool.not_or, Bool.and_comm]
    simp only [each] at steps
    exact steps.unique (shape.dropColumns fun field cells => drop field cells || also field cells)
  · intro drop column member stays once
    rw [shape.names] at once
    have kept : column ∈ table.columns.filter fun column => !drop column.1 column.2 :=
      List.mem_filter.mpr ⟨member, by rw [stays]; rfl⟩
    have before : table.column? column.1.name = some column.2 := by
      rw [shape.column?, find?_once member once]
      rfl
    have after : (table.dropColumns drop).column? column.1.name = some column.2 := by
      rw [(shape.dropColumns drop).column?, find?_once kept (once_among List.filter_sublist kept once)]
      rfl
    refine ⟨before, after, ?_⟩
    intro row
    rw [cell?_of_column?, cell?_of_column?, before, after]

/-- A name that occurs twice, and a column without values. -/
def samples : Table where
  fields := [⟨"runID", .text⟩, ⟨"load", .integer⟩, ⟨"mean", .number⟩, ⟨"load", .generic⟩, ⟨"bins", .array⟩]
  rows := [[.text "r0", .integer 3, .number Number.notANumber, .null, .array []],
    [.text "r1", .null, .number Number.notANumber, .text "high", .array [1, 2]]]

def isLoad (field : Field) (_ : List Cell) : Bool := field.name == "load"

theorem dropColumns_aligned_samples :
    samples.Rectangular ∧
    (samples.dropColumns isLoad).dropColumns (fun _ cells => cells.all (·.isMissing)) =
      { fields := [⟨"runID", .text⟩, ⟨"bins", .array⟩]
        rows := [[.text "r0", .array []], [.text "r1", .array [1, 2]]] } ∧
    ((⟨"bins", .array⟩, [.array [], .array [1, 2]]) : Field × List Cell) ∈ samples.columns ∧
    isLoad ⟨"bins", .array⟩ [.array [], .array [1, 2]] = false ∧ samples.names.count "bins" = 1 ∧
    (samples.dropColumns isLoad).column? "bins" = some [.array [], .array [1, 2]] ∧
    ∀ row, (samples.dropColumns isLoad).cell? row "bins" = samples.cell? row "bins" := by
  have rectangular : samples.Rectangular := by decide
  have member : ((⟨"bins", .array⟩, [.array [], .array [1, 2]]) : Field × List Cell) ∈ samples.columns := by
    decide +kernel
  have stays : isLoad ⟨"bins", .array⟩ [.array [], .array [1, 2]] = false := by decide
  have once : samples.names.count "bins" = 1 := by decide
  obtain ⟨_, together, found⟩ := dropColumns_aligned samples rectangular
  obtain ⟨_, after, cells⟩ := found isLoad _ member stays once
  refine ⟨rectangular, ?_, member, stays, once, after, cells⟩
  rw [together]
  decide +kernel

end SimResults.Proofs.ColumnRemoval
