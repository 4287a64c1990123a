import SimResults.Proofs.ItemProjection
import SimResults.Table.Kinds
import Mathlib.Data.List.Forall2

/-! Items of some kinds. Rows can be selected before they give items, or the items after it. In a table with
a type column both come to the same, since the kind of an item is the one that its row names and nothing in
it depends on how rows are numbered. -/

namespace SimResults.Proofs.KindSelection
open Outcomes TableColumns ItemProjection

section Numbers

variable (fields : List Field) (row : Row) (number other : Nat)

private theorem toOption_bind {α β : Type} (first : Except Failure α) (next : α → Except Failure β) :
    (first >>= next).toOption = first.toOption.bind fun value => (next value).toOption := by
  cases first <;> rfl

private theorem number?_renumbered (name : String) :
    (RowView.number? ⟨fields, row, number⟩ name).toOption =
      (RowView.number? ⟨fields, row, other⟩ name).toOption := by
  have same : RowView.cell? ⟨fields, row, number⟩ name = RowView.cell? ⟨fields, row, other⟩ name := rfl
  rw [RowView.number?, RowView.number?, same]
  cases RowView.cell? ⟨fields, row, other⟩ name with
  | none => rfl
  | some cell =>
    cases cell with
    | text raw =>
      simp only
      cases Cell.numberOf raw <;> rfl
    | _ => rfl

private theorem requireText_renumbered (name : String) :
    (RowView.requireText ⟨fields, row, number⟩ name).toOption =
      (RowView.requireText ⟨fields, row, other⟩ name).toOption := by
  have same : RowView.text? ⟨fields, row, number⟩ name = RowView.text? ⟨fields, row, other⟩ name := rfl
  rw [RowView.requireText, RowView.requireText, same]
  cases RowView.text? ⟨fields, row, other⟩ name <;> rfl

private theorem statistics_renumbered :
    (RowView.statistics ⟨fields, row, number⟩).toOption =
      (RowView.statistics ⟨fields, row, other⟩).toOption := by
  simp only [RowView.statistics, toOption_bind, number?_renumbered fields row number other]
  rfl

private theorem payload_renumbered (kind : Kind) :
    (RowView.payload ⟨fields, row, number⟩ kind).toOption =
      (RowView.payload ⟨fields, row, other⟩ kind).toOption := by
  cases kind with
  | scalar => simp only [RowView.payload, toOption_bind, number?_renumbered fields row number other]
  | statistic => simp only [RowView.payload, toOption_bind, statistics_renumbered fields row number other]
  | histogram =>
    simp only [RowView.payload, toOption_bind, statistics_renumbered fields row number other,
      number?_renumbered fields row number other]
    rfl
  | _ => rfl

/-- Only failures tell how rows are numbered. -/
private theorem item_renumbered (kind : Kind) :
    (RowView.item ⟨fields, row, number⟩ kind).toOption =
      (RowView.item ⟨fields, row, other⟩ kind).toOption := by
  have same : RowView.runColumn ⟨fields, row, number⟩ = RowView.runColumn ⟨fields, row, other⟩ := rfl
  simp only [RowView.item, toOption_bind, payload_renumbered fields row number other, same,
    requireText_renumbered fields row number other]
  rfl

end Numbers

section Rows

variable {fields : List Field} {position number : Nat} {row : Row} {rows : List Row} {kind : Kind} {item : Item}
  {items : List Item}

/-- A row gives an item: its type cell names a kind, and it can be read as an item of that kind. -/
structure Yields (fields : List Field) (position : Nat) (row : Row) (item : Item) : Prop where
  kind : Kind.ofCell? (row.cell position) = some item.payload.kind
  item : ∀ number, RowView.item ⟨fields, row, number⟩ item.payload.kind = .ok item

private theorem yields_of_item (known : Kind.ofCell? (row.cell position) = some kind)
    (given : RowView.item ⟨fields, row, number⟩ kind = .ok item) : Yields fields position row item := by
  cases item_kind given
  refine ⟨known, fun other => ?_⟩
  have same := item_renumbered fields row number other item.payload.kind
  rw [given] at same
  cases attempt : RowView.item ⟨fields, row, other⟩ item.payload.kind with
  | error failure =>
    rw [attempt] at same
    cases same
  | ok again =>
    rw [attempt] at same
    cases same
    rfl

def selects (position : Nat) (asked : Kind → Bool) (row : Row) : Bool :=
  (Kind.ofCell? (row.cell position)).any asked

private theorem selects_of_known {asked : Kind → Bool} (known : Kind.ofCell? (row.cell position) = some kind) :
    selects position asked row = asked kind := by
  rw [selects, known, Option.any_some]

private theorem kinds_named (yields : List.Forall₂ (Yields fields position) rows items) :
    ∀ row ∈ rows, ∃ kind, Kind.ofCell? (row.cell position) = some kind := by
  intro row member
  obtain ⟨index, inside, rfl⟩ := List.mem_iff_getElem.mp member
  obtain ⟨length, each⟩ := List.forall₂_iff_get.mp yields
  exact ⟨_, (each index inside (length ▸ inside)).kind⟩

/-- Selecting rows and selecting their items is the same. -/
theorem selected_yield (yields : List.Forall₂ (Yields fields position) rows items) (asked : Kind → Bool) :
    List.Forall₂ (Yields fields position) (rows.filter (selects position asked))
      (items.filter fun item => asked item.payload.kind) := by
  apply List.rel_filter _ yields
  intro row item given
  simp only [selects_of_known given.kind]

variable (typed : positionIn? fields Column.type = some position)
include typed

theorem kind_typed (expected : Option Kind) :
    RowView.kind ⟨fields, row, number⟩ expected = .ok kind ↔ Kind.ofCell? (row.cell position) = some kind := by
  have found : RowView.cell? ⟨fields, row, number⟩ Column.type = some (row.cell position) := by
    rw [RowView.cell?, typed]
    rfl
  unfold RowView.kind
  rw [found]
  cases row.cell position with
  | text tag =>
    simp only [Kind.ofCell?]
    cases Kind.ofTag? tag <;> simp
  | _ => simp [Kind.ofCell?]

private theorem item?_typed (expected : Option Kind) (item? : Option Item) :
    RowView.item? ⟨fields, row, number⟩ expected = .ok item? ↔
      ∃ kind, Kind.ofCell? (row.cell position) = some kind ∧
        if expected.all (· == kind) then ∃ item, item? = some item ∧ Yields fields position row item
        else item? = none := by
  rw [RowView.item?, bind_eq_ok]
  apply exists_congr
  intro kind
  rw [kind_typed typed]
  apply and_congr_right
  intro known
  split
  · simp only [bind_eq_ok, pure_eq_ok]
    constructor
    · rintro ⟨item, given, same⟩
      exact ⟨item, same.symm, yields_of_item known given⟩
    · rintro ⟨item, same, yields⟩
      cases known.symm.trans yields.kind
      exact ⟨item, yields.item number, same.symm⟩
  · rw [pure_eq_ok, eq_comm]

/-- Reading goes through exactly if every row names a kind and those of an expected kind give items. -/
theorem itemsFrom_eq_ok (expected : Option Kind) :
    itemsFrom fields expected number rows = .ok items ↔
      (∀ row ∈ rows, ∃ kind, Kind.ofCell? (row.cell position) = some kind) ∧
        List.Forall₂ (Yields fields position)
          (rows.filter (selects position fun kind => expected.all (· == kind))) items := by
  induction rows generalizing number items with
  | nil => simp [itemsFrom, eq_comm]
  | cons row rest ih =>
    simp only [itemsFrom, bind_eq_ok, pure_eq_ok, ih, item?_typed typed, List.forall_mem_cons]
    constructor
    · rintro ⟨item?, ⟨kind, known, read⟩, later, ⟨kinds, yields⟩, rfl⟩
      refine ⟨⟨⟨kind, known⟩, kinds⟩, ?_⟩
      rw [List.filter_cons, selects_of_known known]
      by_cases asked : expected.all (· == kind)
      · rw [if_pos asked] at read ⊢
        obtain ⟨item, rfl, given⟩ := read
        exact .cons given yields
      · rw [if_neg asked] at read ⊢
        subst read
        exact yields
    · rintro ⟨⟨⟨kind, known⟩, kinds⟩, yields⟩
      rw [List.filter_cons, selects_of_known known] at yields
      by_cases asked : expected.all (· == kind)
      · rw [if_pos asked] at yields
        obtain ⟨item, later, given, others, rfl⟩ := List.forall₂_cons_left_iff.mp yields
        exact ⟨some item, ⟨kind, known, by rw [if_pos asked]; exact ⟨item, rfl, given⟩⟩, later,
          ⟨kinds, others⟩, rfl⟩
      · rw [if_neg asked] at yields
        exact ⟨none, ⟨kind, known, by rw [if_neg asked]⟩, items, ⟨kinds, yields⟩, rfl⟩

end Rows

section Tables

variable {table : Table} {position : Nat} {kind : Kind} {kinds : List Kind} {items : List Item}

private theorem filterByKinds_typed (typed : table.position? Column.type = some position) (kinds : List Kind) :
    table.filterByKinds kinds = .ok (table.keepRows (selects position kinds.contains)) := by
  have same : table.keepKinds position kinds = table.keepRows (selects position kinds.contains) := by
    apply congrArg table.keepRows
    funext row
    rw [selects]
    cases Kind.ofCell? (row.cell position) <;> rfl
  rw [Table.filterByKinds, typed]
  exact congrArg Except.ok same

variable (typed : positionIn? table.fields Column.type = some position)
include typed

private theorem itemsOfKind_eq_ok :
    table.itemsOfKind kind = .ok items ↔
      (∀ row ∈ table.rows, ∃ named, Kind.ofCell? (row.cell position) = some named) ∧
        List.Forall₂ (Yields table.fields position) (table.rows.filter (selects position (kind == ·))) items :=
  itemsFrom_eq_ok typed (some kind)

private theorem items_eq_ok :
    table.items = .ok items ↔ List.Forall₂ (Yields table.fields position) table.rows items := by
  have present : table.contains Column.type = true := by
    rw [Table.contains, Table.position?, typed]
    rfl
  have all (named : ∀ row ∈ table.rows, ∃ kind, Kind.ofCell? (row.cell position) = some kind) :
      table.rows.filter (selects position fun kind => (none : Option Kind).all (· == kind)) = table.rows := by
    apply List.filter_eq_self.mpr
    intro row member
    obtain ⟨kind, known⟩ := named row member
    rw [selects_of_known known, Option.all_none]
  rw [Table.items, if_pos present, itemsFrom_eq_ok typed none]
  constructor
  · rintro ⟨named, yields⟩
    rwa [all named] at yields
  · intro yields
    refine ⟨kinds_named yields, ?_⟩
    rwa [all (kinds_named yields)]

private theorem keepRows_items (asked : Kind → Bool) :
    (table.keepRows (selects position asked)).items = .ok items ↔
      List.Forall₂ (Yields table.fields position) (table.rows.filter (selects position asked)) items :=
  items_eq_ok typed

private theorem filterByKinds_items (read : table.items = .ok items) (kinds : List Kind) :
    ∃ kept, table.filterByKinds kinds = .ok kept ∧
      kept.items = .ok (items.filter fun item => kinds.contains item.payload.kind) :=
  ⟨_, filterByKinds_typed typed kinds, (keepRows_items typed _).mpr
    (selected_yield ((items_eq_ok typed).mp read) kinds.contains)⟩

private theorem itemsOfKind_items (read : table.items = .ok items) (kind : Kind) :
    table.itemsOfKind kind = .ok (items.filter fun item => kind == item.payload.kind) := by
  have yields := (items_eq_ok typed).mp read
  exact (itemsOfKind_eq_ok typed).mpr ⟨kinds_named yields, selected_yield yields (kind == ·)⟩

/-- Rows of other kinds that give no items do no harm. -/
theorem filterByKinds_itemsOfKind (read : table.itemsOfKind kind = .ok items) :
    ∃ kept, table.filterByKinds [kind] = .ok kept ∧ kept.items = .ok items := by
  have only : [kind].contains = (kind == ·) := by
    funext other
    rw [List.contains_cons, List.contains_nil, Bool.or_false, Bool.beq_comm]
  refine ⟨_, filterByKinds_typed typed [kind], (keepRows_items typed _).mpr ?_⟩
  rw [only]
  exact ((itemsOfKind_eq_ok typed).mp read).2

end Tables

section Partition

def everyKind : List Kind :=
  [.scalar, .vector, .statistic, .histogram, .parameter, .attribute, .runAttribute, .iterationVariable, .configEntry]

private theorem mem_everyKind (kind : Kind) : kind ∈ everyKind := by
  cases kind <;> decide

/-- Grouping keeps every value once, whatever the order of the groups. -/
private theorem groups_perm {α β : Type} [DecidableEq β] (group : α → β) (values : List α) {groups : List β}
    (distinct : groups.Nodup) :
    (groups.flatMap fun one => values.filter fun value => one == group value).Perm
      (values.filter fun value => groups.contains (group value)) := by
  induction groups with
  | nil => simp
  | cons first rest ih =>
    obtain ⟨fresh, others⟩ := List.nodup_cons.mp distinct
    have split := List.filter_append_perm (fun value => first == group value)
      (values.filter fun value => (first :: rest).contains (group value))
    have front : (values.filter fun value => (first :: rest).contains (group value)).filter
        (fun value => first == group value) = values.filter fun value => first == group value := by
      rw [List.filter_filter]
      apply List.filter_congr
      intro value _
      by_cases same : first = group value <;> simp [same]
    have back : (values.filter fun value => (first :: rest).contains (group value)).filter
        (fun value => !first == group value) = values.filter fun value => rest.contains (group value) := by
      rw [List.filter_filter]
      apply List.filter_congr
      intro value _
      by_cases same : first = group value
      · simp [same, same ▸ fresh]
      · simp [same, Ne.symm same]
    rw [front, back] at split
    rw [List.flatMap_cons]
    exact (List.Perm.append_left _ (ih others)).trans split

private theorem itemsOfKind_partition {table : Table} {position : Nat} {items : List Item}
    (typed : positionIn? table.fields Column.type = some position) (read : table.items = .ok items) :
    ∃ parts, everyKind.mapM table.itemsOfKind = .ok parts ∧ parts.flatten.Perm items := by
  have each : table.itemsOfKind = fun kind => pure (items.filter fun item => kind == item.payload.kind) :=
    funext (itemsOfKind_items typed read)
  refine ⟨_, by rw [each, List.mapM_pure]; rfl, ?_⟩
  rw [← List.flatMap_def]
  have all : (items.filter fun item => everyKind.contains item.payload.kind) = items := by
    apply List.filter_eq_self.mpr
    intro item _
    exact List.contains_iff_mem.mpr (mem_everyKind _)
  have grouped := groups_perm (fun item : Item => item.payload.kind) items (by decide : everyKind.Nodup)
  rwa [all] at grouped

end Partition

/-- In a table with types, items can be selected by keeping rows, by keeping items and by reading only one
kind: if every row gives an item, all come to the same for all kinds, and the kinds share the items out.
Otherwise what is read of one kind is still what its rows alone give. -/
theorem selections_agree (table : Table) (typed : Column.type ∈ table.names) :
    (∀ items, table.items = .ok items →
      (∀ kinds, ∃ kept, table.filterByKinds kinds = .ok kept ∧
        kept.items = .ok (items.filter fun item => kinds.contains item.payload.kind)) ∧
      (∀ kind, table.itemsOfKind kind = .ok (items.filter fun item => kind == item.payload.kind)) ∧
      ∃ parts, everyKind.mapM table.itemsOfKind = .ok parts ∧ parts.flatten.Perm items) ∧
    ∀ kind items, table.itemsOfKind kind = .ok items →
      ∃ kept, table.filterByKinds [kind] = .ok kept ∧ kept.items = .ok items := by
  obtain ⟨position, found⟩ := Option.isSome_iff_exists.mp (contains_iff.mpr typed)
  constructor
  · intro items read
    exact ⟨filterByKinds_items found read, itemsOfKind_items found read, itemsOfKind_partition found read⟩
  · intro kind items read
    exact filterByKinds_itemsOfKind found read

/-- Both names of parameters, next to a scalar whose value is given. -/
def seeds (load : String) : Table where
  fields := [⟨"runID", .text⟩, ⟨"type", .text⟩, ⟨"name", .text⟩, ⟨"value", .text⟩]
  rows := [[.text "r0", .text "param", .text "seed", .text "7"],
    [.text "r0", .text "scalar", .text "load", .text load],
    [.text "r1", .text "parameter", .text "seed", .text "x"]]

def seedItems : List Item :=
  [⟨"r0", none, some "seed", .parameter (some "7")⟩, ⟨"r1", none, some "seed", .parameter (some "x")⟩]

def loadItem : Item := ⟨"r0", none, some "load", .scalar 2⟩

theorem selections_agree_seeds :
    (∃ kept items, (seeds "2").items = .ok items ∧ (seeds "2").filterByKinds [.vector, .scalar] = .ok kept ∧
      kept.items = .ok [loadItem] ∧ (seeds "2").itemsOfKind .parameter = .ok seedItems) ∧
    (∀ items, (seeds "high").items ≠ .ok items) ∧
    ∃ kept, (seeds "high").filterByKinds [.parameter] = .ok kept ∧ kept.items = .ok seedItems := by
  have read : (seeds "2").items = .ok [seedItems[0], loadItem, seedItems[1]] := by decide +kernel
  have failed : (seeds "high").items =
      .error (.parse 3 Column.value "high" (.number .invalidLiteral)) := by decide +kernel
  have parameters : (seeds "high").itemsOfKind .parameter = .ok seedItems := by decide +kernel
  obtain ⟨kept, filtered, items⟩ := ((selections_agree (seeds "2") (by decide)).1 _ read).1 [.vector, .scalar]
  have others := ((selections_agree (seeds "2") (by decide)).1 _ read).2.1 .parameter
  refine ⟨⟨kept, _, read, filtered, items, others⟩, ?_, ?_⟩
  · intro items read
    cases failed.symm.trans read
  · exact (selections_agree (seeds "high") (by decide)).2 _ _ parameters

end SimResults.Proofs.KindSelection
