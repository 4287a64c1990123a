import SimResults.Proofs.Lookups
import SimResults.Tool.Arguments

/-! Metadata merged one after the other. The columns of one merge end in a suffix of their own, marks behind
it aside, so that they take no name from another merge; and they stand behind the runs that it looks for. So
each merge adds what it would add alone. -/

namespace SimResults.Proofs.MetadataOrder
open Outcomes TableColumns Pivoting Joining Lookups

section Names

/-- A name that a merge may give to a column: one with its suffix, and marks that set it apart. -/
def EndsIn (suffix name : String) : Prop := ∃ text count, name = text ++ suffix ++ marks count

private theorem marks_succ (count : Nat) : marks (count + 1) = marks count ++ "_y" := by
  simp [marks, List.replicate_succ']

private theorem comparable {text other suffix ending : String} (same : text ++ suffix = other ++ ending) :
    suffix.toList <:+ ending.toList ∨ ending.toList <:+ suffix.toList := by
  have letters := congrArg String.toList same
  rw [String.toList_append, String.toList_append] at letters
  apply List.suffix_or_suffix_of_suffix (List.suffix_append text.toList _)
  rw [letters]
  exact List.suffix_append _ _

private theorem suffix_unmarked (query : MetadataQuery) {text other : String} :
    text ++ query.suffix ≠ other ++ "_y" := by
  have apart : ¬ query.suffix.toList <:+ "_y".toList ∧ ¬ "_y".toList <:+ query.suffix.toList := by
    cases query <;> decide
  intro same
  rcases comparable same with short | long
  · exact apart.1 short
  · exact apart.2 long

private theorem suffix_unique {query other : MetadataQuery}
    (within : query.suffix.toList <:+ other.suffix.toList) : query = other := by
  revert within
  cases query <;> cases other <;> decide

private theorem EndsIn.unique {query other : MetadataQuery} {name : String} (own : EndsIn query.suffix name)
    (its : EndsIn other.suffix name) : query = other := by
  obtain ⟨text, count, rfl⟩ := own
  obtain ⟨second, times, same⟩ := its
  induction count generalizing times with
  | zero =>
    cases times with
    | zero =>
      rw [append_no_marks, append_no_marks] at same
      rcases comparable same with within | within
      · exact suffix_unique within
      · exact (suffix_unique within).symm
    | succ times =>
      rw [append_no_marks, marks_succ, ← String.append_assoc] at same
      exact absurd same (suffix_unmarked query)
  | succ count ih =>
    rw [marks_succ, ← String.append_assoc] at same
    cases times with
    | zero =>
      rw [append_no_marks] at same
      exact absurd same.symm (suffix_unmarked other)
    | succ times =>
      rw [marks_succ, ← String.append_assoc] at same
      exact ih times ((String.append_left_inj "_y").mp same)

/-- How a name is set apart depends on the marked forms of it that are taken. -/
private theorem freshName_congr {taken others : List String} {name : String}
    (same : ∀ count, name ++ marks count ∈ taken ↔ name ++ marks count ∈ others) :
    freshName taken name = freshName others name := by
  obtain ⟨count, given, known⟩ := freshName_marks taken name
  obtain ⟨times, made, used⟩ := freshName_marks others name
  have free := freshName_free taken name
  have unused := freshName_free others name
  rw [given] at free ⊢
  rw [made] at unused ⊢
  rcases Nat.lt_trichotomy count times with fewer | rfl | more
  · exact absurd ((same count).mpr (used count fewer)) free
  · rfl
  · exact absurd ((same times).mp (known times more)) unused

private theorem apart_congr {taken others : List String} {columns : List (Field × List Cell)}
    (same : ∀ column ∈ columns, ∀ count,
      column.1.name ++ marks count ∈ taken ↔ column.1.name ++ marks count ∈ others) :
    apart taken columns = apart others columns := by
  induction columns generalizing taken others with
  | nil => rfl
  | cons first columns ih =>
    rw [List.forall_mem_cons] at same
    rw [apart, apart, freshName_congr same.1]
    congr 1
    apply ih
    intro column member count
    rw [List.mem_append, List.mem_append, same.2 column member count]

private theorem mem_apart {taken : List String} {columns : List (Field × List Cell)} {column : Field × List Cell}
    (member : column ∈ apart taken columns) :
    ∃ source ∈ columns, ∃ count, column.1.name = source.1.name ++ marks count := by
  induction columns generalizing taken with
  | nil => cases member
  | cons first columns ih =>
    rcases List.mem_cons.mp member with rfl | later
    · obtain ⟨count, given, _⟩ := freshName_marks taken first.1.name
      exact ⟨first, List.mem_cons_self, count, given⟩
    · obtain ⟨source, inside, count, given⟩ := ih later
      exact ⟨source, List.mem_cons_of_mem _ inside, count, given⟩

section Suffixed

variable {columns more added : List (Field × List Cell)} {suffix : String}
  (named : ∀ column ∈ added, ∃ text, column.1.name = text ++ suffix)
include named

private theorem apart_endsIn (taken : List String) : ∀ name ∈ namesOf (apart taken added), EndsIn suffix name := by
  intro name member
  obtain ⟨column, inside, rfl⟩ := List.mem_map.mp member
  obtain ⟨source, among, count, given⟩ := mem_apart inside
  obtain ⟨text, ending⟩ := named source among
  exact ⟨text, count, by rw [given, ending]⟩

private theorem apart_unlike (unlike : ∀ name ∈ namesOf more, ¬ EndsIn suffix name) :
    apart (namesOf (columns ++ more)) added = apart (namesOf columns) added := by
  apply apart_congr
  intro column member count
  obtain ⟨text, ending⟩ := named column member
  have unused : column.1.name ++ marks count ∉ namesOf more := by
    intro used
    exact unlike _ used ⟨text, count, by rw [ending]⟩
  rw [namesOf_append, List.mem_append, or_iff_left unused]

end Suffixed

end Names

section Merges

variable {table grown metadata wide : Table} {columns more : List (Field × List Cell)} {height run : Nat}

private theorem contains_rename {before : String} (present : before ∈ table.names) (after : String) :
    after ∈ (table.rename before after).names := by
  obtain ⟨position, found⟩ := Option.isSome_iff_exists.mp (contains_iff.mpr present)
  have inside := (List.findIdx?_eq_some_iff_getElem.mp (position?_eq_names table before ▸ found)).1
  rw [rename_names found]
  exact List.mem_set inside _

private theorem rename_contains {before after name : String} (present : name ∈ table.names) (old : name ≠ before)
    (new : name ≠ after) : name ∈ (table.rename before after).names := by
  rw [← contains_iff] at present ⊢
  cases found : table.position? before with
  | none => rwa [Table.rename, found]
  | some position => rwa [Table.contains, rename_position?_other found old new]

private theorem longMetadata_contains
    (complete : ∀ name ∈ [Column.runID, Column.name, Column.value], name ∈ metadata.names) :
    ∀ name ∈ [Column.runID, Column.attrname, Column.attrvalue], name ∈ (longMetadata metadata).names := by
  have runs := complete Column.runID (by simp)
  have names := complete Column.name (by simp)
  have values := complete Column.value (by simp)
  rw [List.forall_mem_cons, List.forall_mem_cons, List.forall_mem_singleton]
  refine ⟨?_, ?_, ?_⟩
  · exact rename_contains (rename_contains runs (by decide) (by decide)) (by decide) (by decide)
  · exact rename_contains (contains_rename names _) (by decide) (by decide)
  · exact contains_rename (rename_contains values (by decide) (by decide)) _

/-- What metadata has for a table is one wide table, whatever it is merged into. -/
theorem appendMetadata_wide (complete : ∀ name ∈ [Column.runID, Column.name, Column.value], name ∈ metadata.names)
    (suffix : String) :
    ∃ wide rest, wide.names = [Column.runID] ++ rest ∧ (∀ name ∈ rest, ∃ text, name = text ++ suffix) ∧
      ∀ table : Table, Column.runID ∈ table.names →
        table.appendMetadata metadata suffix = table.leftJoin wide [Column.runID] := by
  have present name member := contains_iff.mpr (longMetadata_contains complete name member)
  obtain ⟨wide, pivoted⟩ : ∃ wide,
      (longMetadata metadata).pivot [Column.runID] Column.attrname Column.attrvalue = .ok wide :=
    pivot_succeeds.mpr ⟨by simpa using present Column.runID, present _ (by simp), present _ (by simp)⟩
  obtain ⟨texts, leading, _⟩ := pivot_names pivoted
  refine ⟨wide.suffixed suffix, _, suffixed_names leading suffix, ?_, ?_⟩
  · intro name member
    obtain ⟨text, _, rfl⟩ := List.mem_map.mp member
    exact ⟨text, rfl⟩
  · intro table keyed
    rw [Table.appendMetadata, contains_iff.mpr keyed]
    change ((longMetadata metadata).pivot [Column.runID] Column.attrname Column.attrvalue >>=
      fun wide : Table => table.leftJoin (wide.suffixed suffix) [Column.runID]) = _
    rw [pivoted]
    rfl

/-- What is found for a row depends on its run alone. -/
private theorem foundColumns_congr (same : table.cellsAt run = grown.cellsAt run) (wide : Table)
    (others : List Nat) :
    foundColumns table wide [run] others = foundColumns grown wide [run] others := by
  have found (rows : Table) (field : Field) (position : Nat) :
      (rows.rows.map fun row => ((row.key? [run]).bind fun key => (wide.keyed others).lookup key).elim
        field.type.missing (·.cell position)) =
      (rows.cellsAt run).map fun cell => ((cell.key?.map fun text => [text]).bind fun key =>
        (wide.keyed others).lookup key).elim field.type.missing (·.cell position) := by
    simp only [key?_singleton, Table.cellsAt, List.map_map]
    rfl
  simp only [foundColumns, found, same]

private theorem cellsAt_grown (shape : Columnar table columns height)
    (wider : Columnar grown (columns ++ more) height)
    (found : table.position? Column.runID = some run) :
    grown.position? Column.runID = some run ∧ table.cellsAt run = grown.cellsAt run := by
  have first : grown.position? Column.runID = some run := by
    rw [wider.position?, namesOf_append, List.findIdx?_append, ← shape.position?, found]
    rfl
  have cells := shape.column? Column.runID
  rw [Table.column?, found, Option.map_some] at cells
  obtain ⟨column, there, own⟩ := Option.map_eq_some_iff.mp cells.symm
  have others := wider.column? Column.runID
  rw [Table.column?, first, List.find?_append, there, Option.map_some, Option.some_or, Option.map_some, own] at others
  exact ⟨first, (Option.some.inj others).symm⟩

/-- What metadata adds to a table it also adds once the table has grown by columns with other endings. -/
theorem appendMetadata_adds (shape : Columnar table columns height) (keyed : Column.runID ∈ namesOf columns)
    (complete : ∀ name ∈ [Column.runID, Column.name, Column.value], name ∈ metadata.names) (suffix : String) :
    ∃ own, (∀ name ∈ namesOf own, EndsIn suffix name) ∧
      ∀ grown more, Columnar grown (columns ++ more) height → (∀ name ∈ namesOf more, ¬ EndsIn suffix name) →
        ∃ joined, grown.appendMetadata metadata suffix = .ok joined ∧
          Columnar joined (columns ++ more ++ own) height := by
  obtain ⟨wide, rest, leading, endings, merge⟩ := appendMetadata_wide complete suffix
  obtain ⟨run, found⟩ := Option.isSome_iff_exists.mp (shape.contains_iff.mpr keyed)
  have there := requireAll_leading leading (List.nodup_singleton _)
  have named : ∀ column ∈ foundColumns table wide [run] (List.range [Column.runID].length),
      ∃ text, column.1.name = text ++ suffix := by
    intro column member
    apply endings
    rw [← namesOf_foundColumns table [run] leading]
    exact List.mem_map_of_mem member
  refine ⟨_, apart_endsIn named (namesOf columns), ?_⟩
  intro grown more wider unlike
  obtain ⟨still, same⟩ := cellsAt_grown shape wider found
  have present : Column.runID ∈ grown.names := contains_iff.mp (Option.isSome_of_mem still)
  have here : grown.requireAll [Column.runID] = .ok [run] := requireAll_eq_ok.mpr (by simp [still])
  obtain ⟨joined, went, result⟩ := leftJoin_columnar wider here there
  rw [← foundColumns_congr same, apart_unlike named unlike] at result
  exact ⟨joined, (merge grown present).trans went, result⟩

/-- Two merges of different metadata add what each adds alone, in the order in which they come, whatever the
columns of the table are called. -/
theorem appendMetadata_independent (table first second : Table) (query other : MetadataQuery)
    (different : query ≠ other) (rectangular : table.Rectangular) (keyed : Column.runID ∈ table.names)
    (complete : ∀ name ∈ [Column.runID, Column.name, Column.value], name ∈ first.names ∧ name ∈ second.names) :
    ∃ left right own others,
      table.appendMetadata first query.suffix = .ok left ∧
      Columnar left (table.columns ++ own) table.rows.length ∧
      table.appendMetadata second other.suffix = .ok right ∧
      Columnar right (table.columns ++ others) table.rows.length ∧
      ∃ both swapped,
        left.appendMetadata second other.suffix = .ok both ∧
        Columnar both (table.columns ++ own ++ others) table.rows.length ∧
        right.appendMetadata first query.suffix = .ok swapped ∧
        Columnar swapped (table.columns ++ others ++ own) table.rows.length := by
  have shape := Columnar.of_rectangular rectangular
  have alone : Columnar table (table.columns ++ []) table.rows.length := by rwa [List.append_nil]
  rw [shape.names] at keyed
  obtain ⟨own, ownEnds, grows⟩ := appendMetadata_adds shape keyed (fun name member => (complete name member).1)
    query.suffix
  obtain ⟨others, otherEnds, growsOther⟩ := appendMetadata_adds shape keyed
    (fun name member => (complete name member).2) other.suffix
  obtain ⟨left, added, leftShape⟩ := grows table [] alone nofun
  obtain ⟨right, brought, rightShape⟩ := growsOther table [] alone nofun
  rw [List.append_nil] at leftShape rightShape
  obtain ⟨both, merged, bothShape⟩ := growsOther left own leftShape
    fun name member its => different ((ownEnds name member).unique its)
  obtain ⟨swapped, exchanged, swappedShape⟩ := grows right others rightShape
    fun name member its => different (its.unique (otherEnds name member))
  exact ⟨left, right, own, others, added, leftShape, brought, rightShape, both, swapped, merged, bothShape,
    exchanged, swappedShape⟩

def loads : Table where
  fields := [⟨"mean", .number⟩, ⟨"runID", .text⟩]
  rows := [[.number 0.5, .text "r0"], [.number 2, .null], [.number 4, .text "r1"]]

def swept : Table where
  fields := [⟨"runID", .text⟩, ⟨"name", .text⟩, ⟨"value", .text⟩]
  rows := [[.text "r0", .text "runID", .text "a"], [.text "r1", .text "runID_attrvalue", .text "b"]]

def settings : Table where
  fields := [⟨"runID", .text⟩, ⟨"name", .text⟩, ⟨"value", .text⟩]
  rows := [[.text "r1", .text "N_itervar", .text "7"], [.text "r9", .text "N", .text "8"]]

def varied : Table where
  fields := loads.fields ++ [⟨"runID_attrvalue_itervar", .text⟩, ⟨"runID_attrvalue_itervar_y", .text⟩]
  rows := [[.number 0.5, .text "r0", .text "a", .null], [.number 2, .null, .null, .null],
    [.number 4, .text "r1", .null, .text "b"]]

def configured : Table where
  fields := loads.fields ++ [⟨"N_itervar_config", .text⟩, ⟨"N_config", .text⟩]
  rows := [[.number 0.5, .text "r0", .null, .null], [.number 2, .null, .null, .null],
    [.number 4, .text "r1", .text "7", .null]]

def variedFirst : Table where
  fields := varied.fields ++ [⟨"N_itervar_config", .text⟩, ⟨"N_config", .text⟩]
  rows := [[.number 0.5, .text "r0", .text "a", .null, .null, .null],
    [.number 2, .null, .null, .null, .null, .null], [.number 4, .text "r1", .null, .text "b", .text "7", .null]]

theorem appendMetadata_independent_loads :
    MetadataQuery.iterationVariables ≠ .configEntries ∧ loads.Rectangular ∧ Column.runID ∈ loads.names ∧
      (∀ name ∈ [Column.runID, Column.name, Column.value], name ∈ swept.names ∧ name ∈ settings.names) ∧
      loads.appendMetadata swept "_itervar" = .ok varied ∧
      loads.appendMetadata settings "_config" = .ok configured ∧
      varied.appendMetadata settings "_config" = .ok variedFirst ∧
      ∃ own others swapped, configured.appendMetadata swept "_itervar" = .ok swapped ∧
        varied.columns = loads.columns ++ own ∧ configured.columns = loads.columns ++ others ∧
        variedFirst.columns = loads.columns ++ own ++ others ∧
        swapped.columns = loads.columns ++ others ++ own := by
  have different : MetadataQuery.iterationVariables ≠ .configEntries := by decide
  have rectangular : loads.Rectangular := by decide
  have keyed : Column.runID ∈ loads.names := by decide
  have complete : ∀ name ∈ [Column.runID, Column.name, Column.value],
      name ∈ swept.names ∧ name ∈ settings.names := by decide
  have first : loads.appendMetadata swept "_itervar" = .ok varied := by decide +kernel
  have second : loads.appendMetadata settings "_config" = .ok configured := by decide +kernel
  have both : varied.appendMetadata settings "_config" = .ok variedFirst := by decide +kernel
  obtain ⟨left, right, own, others, added, leftShape, brought, rightShape, whole, swapped, merged, wholeShape,
    exchanged, swappedShape⟩ :=
    appendMetadata_independent loads swept settings _ _ different rectangular keyed complete
  cases first.symm.trans added
  cases second.symm.trans brought
  cases both.symm.trans merged
  exact ⟨different, rectangular, keyed, complete, first, second, both, own, others, swapped, exchanged,
    leftShape.columns, rightShape.columns, wholeShape.columns, swappedShape.columns⟩

end Merges

end SimResults.Proofs.MetadataOrder
