import SimResults.Proofs.FirstSeen
import SimResults.Proofs.TableColumns

/-! The last step of a table: columns that are expected are put behind the others, and after pruning only those
with a value are left. An array without elements is a value, so that an expected array that is absent is filled
and stays, while one that is there without values is dropped. This is why the step can change its own result. -/

namespace SimResults.Proofs.FinalColumns
open TableColumns FirstSeen

/-- The names that no column has, each where it is first mentioned. -/
def lacking (columns : List (Field × List Cell)) (names : List String) : List String :=
  (names.filter fun name => !(namesOf columns).contains name).eraseDups

/-- A column of its declared type that nothing has filled. -/
def unfilled (height : Nat) (name : String) : Field × List Cell :=
  (.declared name, List.replicate height (ColumnType.ofName name).missing)

def emptyArrays (height : Nat) (name : String) : Field × List Cell :=
  (⟨name, .array⟩, List.replicate height (.array []))

def valued (columns : List (Field × List Cell)) : List (Field × List Cell) :=
  columns.filter fun column => column.2.any fun cell => !cell.isMissing

def namesArray (name : String) : Bool := ColumnType.ofName name == .array

/-- The name of arrays that are there, but none of them with a value. -/
def valueless (columns : List (Field × List Cell)) (name : String) : Bool :=
  namesArray name && (namesOf columns).contains name && !(namesOf (valued columns)).contains name

section Columns

variable {columns : List (Field × List Cell)} {names : List String} {name : String} {height : Nat}

private theorem mem_lacking : name ∈ lacking columns names ↔ name ∈ names ∧ name ∉ namesOf columns := by
  simp [lacking]

private theorem lacking_eq_nil : lacking columns names = [] ↔ ∀ name ∈ names, name ∈ namesOf columns := by
  rw [List.eq_nil_iff_forall_not_mem]
  simp only [mem_lacking, not_and, Classical.not_not]

private theorem lacking_concat (columns : List (Field × List Cell)) (names : List String) (name : String) :
    lacking columns (names ++ [name]) =
      if name ∈ namesOf columns then lacking columns names else appendNew (lacking columns names) name := by
  rw [lacking, List.filter_append]
  by_cases present : name ∈ namesOf columns
  · simp [lacking, present]
  · rw [if_neg present, List.filter_cons_of_pos (by simpa using present), List.filter_nil, eraseDups_concat]
    rfl

private theorem lacking_filter (keep : String → Bool) :
    (lacking columns names).filter keep = lacking columns (names.filter keep) := by
  rw [lacking, filter_eraseDups, List.filter_filter, lacking, List.filter_filter]
  simp only [Bool.and_comm]

private theorem namesOf_map {column : String → Field × List Cell} (named : ∀ name, (column name).1.name = name)
    (names : List String) : namesOf (names.map column) = names := by
  rw [namesOf, List.map_map]
  exact (List.map_congr_left fun name _ => named name).trans (List.map_id names)

/-- Expecting one name after the other puts those that are absent behind the columns. -/
theorem foldl_ensured (height : Nat) (columns : List (Field × List Cell)) (names : List String) :
    names.foldl (ensured height) columns = columns ++ (lacking columns names).map (unfilled height) := by
  induction names using List.reverseRecOn with
  | nil => exact (List.append_nil columns).symm
  | append_singleton names name ih =>
    rw [List.foldl_append, ih, List.foldl_cons, List.foldl_nil, ensured, namesOf_append,
      namesOf_map fun _ => rfl, lacking_concat]
    by_cases present : name ∈ namesOf columns
    · rw [if_pos (List.mem_append_left _ present), if_pos present]
    · rw [if_neg present, appendNew]
      by_cases seen : name ∈ lacking columns names
      · rw [if_pos (List.mem_append_right _ seen), if_pos (by simpa using seen)]
      · have new : name ∉ namesOf columns ++ lacking columns names := by simp [present, seen]
        rw [if_neg new, if_neg (by simpa using seen), List.map_append, List.append_assoc]
        rfl

private theorem mem_valued {column : Field × List Cell} :
    column ∈ valued columns ↔ column ∈ columns ∧ ∃ cell ∈ column.2, cell.isMissing = false := by
  simp [valued]

private theorem valued_append (columns more : List (Field × List Cell)) :
    valued (columns ++ more) = valued columns ++ valued more := List.filter_append columns more

private theorem valued_idem (columns : List (Field × List Cell)) : valued (valued columns) = valued columns := by
  rw [valued, valued, List.filter_filter]
  simp only [Bool.and_self]

/-- Of the columns that nothing has filled, the arrays have values. -/
private theorem valued_unfilled (filled : 0 < height) (names : List String) :
    valued (names.map (unfilled height)) = (names.filter namesArray).map (emptyArrays height) := by
  have same : (fun column : Field × List Cell => column.2.any fun cell => !cell.isMissing) ∘ unfilled height =
      namesArray := by
    funext name
    rw [Function.comp_apply, unfilled, namesArray, List.any_replicate, if_neg (Nat.ne_of_gt filled)]
    cases ColumnType.ofName name <;> rfl
  have array : ∀ name ∈ names.filter namesArray, unfilled height name = emptyArrays height name := by
    intro name member
    have typed : ColumnType.ofName name = .array := by simpa [namesArray] using (List.mem_filter.mp member).2
    rw [unfilled, emptyArrays, Field.declared, typed]
    rfl
  rw [valued, List.filter_map, same]
  exact List.map_congr_left array

private theorem valued_emptyArrays (filled : 0 < height) (names : List String) :
    valued (names.map (emptyArrays height)) = names.map (emptyArrays height) := by
  rw [valued, List.filter_eq_self]
  intro column member
  obtain ⟨name, _, rfl⟩ := List.mem_map.mp member
  rw [emptyArrays, List.any_replicate, if_neg (Nat.ne_of_gt filled)]
  rfl

def pruned (height : Nat) (columns : List (Field × List Cell)) (names : List String) : List (Field × List Cell) :=
  valued columns ++ (lacking columns (names.filter namesArray)).map (emptyArrays height)

private theorem namesOf_pruned (height : Nat) (columns : List (Field × List Cell)) (names : List String) :
    namesOf (pruned height columns names) =
      namesOf (valued columns) ++ lacking columns (names.filter namesArray) := by
  rw [pruned, namesOf_append, namesOf_map fun _ => rfl]

/-- The arrays that are expected once more are those that pruning has dropped. -/
private theorem lacking_pruned (height : Nat) (columns : List (Field × List Cell)) (names : List String) :
    lacking (pruned height columns names) (names.filter namesArray) =
      (names.filter (valueless columns)).eraseDups := by
  rw [lacking, List.filter_filter, namesOf_pruned]
  congr 1
  apply List.filter_congr
  intro name member
  have among : name ∈ lacking columns (names.filter namesArray) ↔ namesArray name = true ∧ name ∉ namesOf columns := by
    rw [mem_lacking, List.mem_filter, and_iff_right member]
  rw [Bool.eq_iff_iff, valueless]
  simp only [Bool.and_eq_true, Bool.not_eq_true', ← Bool.not_eq_true, List.contains_iff_mem, List.mem_append, among]
  tauto

private theorem valued_pruned (filled : 0 < height) (columns : List (Field × List Cell)) (names : List String) :
    valued (pruned height columns names) = pruned height columns names := by
  rw [pruned, valued_append, valued_idem, valued_emptyArrays filled]

end Columns

section Tables

private theorem bare_rectangular : Table.Rectangular {} := List.forall_mem_nil _

variable {table : Table} (rectangular : table.Rectangular) (mandatory : List String)
include rectangular

private theorem finalize_kept :
    Columnar (table.finalize mandatory false)
      (table.columns ++ (lacking table.columns mandatory).map (unfilled table.rows.length)) table.rows.length := by
  have complete := (Columnar.of_rectangular rectangular).ensureColumns mandatory
  rwa [foldl_ensured] at complete

private theorem finalize_filtered :
    Columnar (table.finalize mandatory true)
      (valued (table.columns ++ (lacking table.columns mandatory).map (unfilled table.rows.length)))
      table.rows.length := by
  have left := (finalize_kept rectangular mandatory).prune
  simp only [List.not_all_eq_any_not] at left
  exact left

private theorem finalize_pruned (filled : table.rows ≠ []) :
    Columnar (table.finalize mandatory true) (pruned table.rows.length table.columns mandatory)
      table.rows.length := by
  have left := finalize_filtered rectangular mandatory
  rwa [valued_append, valued_unfilled (List.length_pos_iff.mpr filled), lacking_filter] at left

private theorem finalize_cleared (cleared : table.rows = []) : table.finalize mandatory true = {} := by
  have left := finalize_filtered rectangular mandatory
  have none : (table.finalize mandatory true).columns = [] := by
    rw [List.eq_nil_iff_forall_not_mem]
    intro column member
    have height := columns_height member
    rw [left.columns, mem_valued] at member
    obtain ⟨_, cell, inside, _⟩ := member
    rw [List.eq_nil_of_length_eq_zero (height.trans (by rw [left.height, cleared]; rfl))] at inside
    cases inside
  rw [← left.columns, none, cleared] at left
  exact left.unique ⟨bare_rectangular, rfl, rfl⟩

private theorem finalize_kept_again :
    (table.finalize mandatory false).finalize mandatory false = table.finalize mandatory false := by
  have once := finalize_kept rectangular mandatory
  have twice := finalize_kept once.rectangular mandatory
  have complete : lacking (table.finalize mandatory false).columns mandatory = [] := by
    rw [lacking_eq_nil, once.columns, namesOf_append, namesOf_map fun _ => rfl]
    intro name member
    by_cases present : name ∈ namesOf table.columns
    · exact List.mem_append_left _ present
    · exact List.mem_append_right _ (mem_lacking.mpr ⟨member, present⟩)
  rw [complete, List.map_nil, List.append_nil] at twice
  exact twice.unique (.of_rectangular once.rectangular)

private theorem finalize_pruned_again (filled : table.rows ≠ []) :
    Columnar ((table.finalize mandatory true).finalize mandatory true)
      ((table.finalize mandatory true).columns ++
        (mandatory.filter (valueless table.columns)).eraseDups.map (emptyArrays table.rows.length))
      table.rows.length := by
  have positive := List.length_pos_iff.mpr filled
  have once := finalize_pruned rectangular mandatory filled
  have still : (table.finalize mandatory true).rows ≠ [] := List.length_pos_iff.mp (once.height ▸ positive)
  have twice := finalize_pruned once.rectangular mandatory still
  rwa [pruned, once.height, once.columns, valued_pruned positive, lacking_pruned, ← once.columns] at twice

/-- A second time, pruning changes nothing unless there is a name without values to be filled anew. -/
theorem finalize_pruned_stable (filled : table.rows ≠ []) :
    (table.finalize mandatory true).finalize mandatory true = table.finalize mandatory true ↔
      ∀ name ∈ mandatory, valueless table.columns name = false := by
  have once := finalize_pruned rectangular mandatory filled
  have twice := finalize_pruned_again rectangular mandatory filled
  constructor
  · intro same name member
    have columns := twice.columns
    rw [same, List.self_eq_append_right, List.map_eq_nil_iff, List.eq_nil_iff_forall_not_mem] at columns
    have out := columns name
    rw [List.mem_eraseDups, List.mem_filter, not_and] at out
    exact Bool.eq_false_iff.mpr (out member)
  · intro none
    have nothing : mandatory.filter (valueless table.columns) = [] :=
      List.filter_eq_nil_iff.mpr fun name member => Bool.eq_false_iff.mp (none name member)
    rw [nothing, List.eraseDups_nil, List.map_nil, List.append_nil] at twice
    exact twice.unique ⟨once.rectangular, rfl, once.height⟩

private theorem finalize_stable (prunes : Bool) :
    (table.finalize mandatory prunes).finalize mandatory prunes = table.finalize mandatory prunes ↔
      ¬ (prunes = true ∧ table.rows ≠ [] ∧ ∃ name ∈ mandatory, valueless table.columns name = true) := by
  cases prunes with
  | false => exact iff_of_true (finalize_kept_again rectangular mandatory) (by simp)
  | true =>
    by_cases cleared : table.rows = []
    · refine iff_of_true ?_ (by simp [cleared])
      rw [finalize_cleared rectangular mandatory cleared]
      exact finalize_cleared bare_rectangular mandatory rfl
    · rw [finalize_pruned_stable rectangular mandatory cleared]
      simp [cleared]

/-- The second result is final. -/
theorem finalize_settles (prunes : Bool) :
    ((table.finalize mandatory prunes).finalize mandatory prunes).finalize mandatory prunes =
      (table.finalize mandatory prunes).finalize mandatory prunes := by
  cases prunes with
  | false => rw [finalize_kept_again rectangular, finalize_kept_again rectangular]
  | true =>
    by_cases cleared : table.rows = []
    · rw [finalize_cleared rectangular mandatory cleared]
      exact (finalize_stable bare_rectangular mandatory true).mpr (by simp)
    · have once := finalize_pruned rectangular mandatory cleared
      apply (finalize_stable once.rectangular mandatory true).mpr
      rintro ⟨_, _, name, _, gone⟩
      have positive := List.length_pos_iff.mpr cleared
      rw [valueless, once.columns, valued_pruned positive] at gone
      simp only [Bool.and_eq_true, Bool.not_eq_true'] at gone
      cases gone.1.2.symm.trans gone.2

end Tables

/-- Without pruning, the columns stay as they are and each absent name gets an unfilled column behind them. With
pruning, the columns with a value are left, and of the absent names those of arrays; of a table without rows
nothing is left. A second time changes nothing, but for one case: pruning has dropped an expected array that had
no values, and now it is filled as if it had never been there. After that nothing changes. -/
theorem finalize_columns (table : Table) (rectangular : table.Rectangular) (mandatory : List String) :
    Columnar (table.finalize mandatory false)
      (table.columns ++ (lacking table.columns mandatory).map (unfilled table.rows.length))
      table.rows.length ∧
    (table.rows ≠ [] → Columnar (table.finalize mandatory true)
      (valued table.columns ++
        (lacking table.columns (mandatory.filter namesArray)).map (emptyArrays table.rows.length))
      table.rows.length) ∧
    (table.rows = [] → table.finalize mandatory true = {}) ∧
    (∀ prunes, (table.finalize mandatory prunes).finalize mandatory prunes = table.finalize mandatory prunes ↔
      ¬ (prunes = true ∧ table.rows ≠ [] ∧ ∃ name ∈ mandatory, valueless table.columns name = true)) ∧
    (table.rows ≠ [] → Columnar ((table.finalize mandatory true).finalize mandatory true)
      ((table.finalize mandatory true).columns ++
        (mandatory.filter (valueless table.columns)).eraseDups.map (emptyArrays table.rows.length))
      table.rows.length) ∧
    ∀ prunes, ((table.finalize mandatory prunes).finalize mandatory prunes).finalize mandatory prunes =
      (table.finalize mandatory prunes).finalize mandatory prunes := by
  exact ⟨finalize_kept rectangular mandatory, finalize_pruned rectangular mandatory,
    finalize_cleared rectangular mandatory, finalize_stable rectangular mandatory,
    finalize_pruned_again rectangular mandatory, finalize_settles rectangular mandatory⟩

def readings : Table where
  fields := [⟨"runID", .text⟩, ⟨"mean", .number⟩, ⟨"vectime", .array⟩, ⟨"load", .generic⟩]
  rows := [[.text "r0", .number Number.notANumber, .null, .null],
    [.text "r1", .number Number.notANumber, .null, .text "high"]]

def expected : List String := ["binedges", "count", "vectime", "binedges", "runID"]

def readingsHead : Table := { readings with rows := [] }

theorem finalize_columns_readings :
    readings.Rectangular ∧ readings.rows ≠ [] ∧ readingsHead.Rectangular ∧ readingsHead.rows = [] ∧
    (readings.finalize expected false).names =
      ["runID", "mean", "vectime", "load", "binedges", "count"] ∧
    (readings.finalize expected true).columns =
      [(⟨"runID", .text⟩, [.text "r0", .text "r1"]), (⟨"load", .generic⟩, [.null, .text "high"]),
        (⟨"binedges", .array⟩, [.array [], .array []])] ∧
    ((readings.finalize expected true).finalize expected true).columns =
      (readings.finalize expected true).columns ++ [(⟨"vectime", .array⟩, [.array [], .array []])] ∧
    readingsHead.finalize expected true = {} := by
  have rectangular : readings.Rectangular := by decide
  have filled : readings.rows ≠ [] := by decide
  have headed : readingsHead.Rectangular := by decide
  obtain ⟨kept, pruned, _, _, again, _⟩ := finalize_columns readings rectangular expected
  obtain ⟨_, _, cleared, _⟩ := finalize_columns readingsHead headed expected
  refine ⟨rectangular, filled, headed, rfl, ?_, ?_, ?_, cleared rfl⟩
  · rw [kept.names]
    decide +kernel
  · rw [(pruned filled).columns]
    decide +kernel
  · rw [(again filled).columns]
    congr 1

def timeless : Table where
  fields := [⟨"runID", .text⟩, ⟨"vectime", .array⟩]
  rows := [[.text "r0", .null]]

/-- Times that were dropped because there were none come back as empty arrays. -/
theorem finalize_fills_again :
    timeless.Rectangular ∧
    timeless.finalize [Column.vectime] true = ⟨[⟨"runID", .text⟩], [[.text "r0"]]⟩ ∧
    (timeless.finalize [Column.vectime] true).finalize [Column.vectime] true =
      ⟨[⟨"runID", .text⟩, ⟨"vectime", .array⟩], [[.text "r0", .array []]]⟩ ∧
    (timeless.finalize [Column.vectime] true).finalize [Column.vectime] true ≠
      timeless.finalize [Column.vectime] true := by
  decide +kernel

end SimResults.Proofs.FinalColumns
