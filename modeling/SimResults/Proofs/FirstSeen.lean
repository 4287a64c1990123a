import Mathlib.Data.List.Induction
import Mathlib.Data.List.Nodup
import SimResults.FirstSeen

/-! Collecting what was not seen before. Members that are appended only if they are new are the
distinct members of what they were taken from, in the order of their first occurrences. -/

namespace SimResults.Proofs.FirstSeen

variable {α : Type} [BEq α] [LawfulBEq α]

theorem appendNew_cons (first : α) (seen : List α) (item : α) :
    appendNew (first :: seen) item = if first == item then first :: seen else first :: appendNew seen item := by
  rw [appendNew, appendNew, List.contains_cons]
  by_cases same : item = first
  · simp [same]
  · have other : (first == item) = false := by simpa using Ne.symm same
    have apart : (item == first) = false := by simpa using same
    rw [other, apart, Bool.false_or, if_neg Bool.false_ne_true]
    split
    · rfl
    · rfl

private theorem appendNew_nodup {seen : List α} (distinct : seen.Nodup) (item : α) :
    (appendNew seen item).Nodup := by
  rw [appendNew]
  split
  next => exact distinct
  next new =>
    rw [← List.concat_eq_append]
    exact distinct.concat (by simpa using new)

theorem eraseDups_concat (items : List α) (item : α) :
    (items ++ [item]).eraseDups = appendNew items.eraseDups item := by
  rw [List.eraseDups_append, appendNew, List.cons_removeAll]
  by_cases known : item ∈ items
  · simp [known, List.removeAll]
  · simp [known, List.removeAll, List.eraseDups_cons]

theorem filter_eraseDups (keep : α → Bool) (items : List α) :
    items.eraseDups.filter keep = (items.filter keep).eraseDups := by
  induction items using List.reverseRecOn with
  | nil => rfl
  | append_singleton items item ih =>
    rw [eraseDups_concat, List.filter_append]
    cases kept : keep item with
    | true =>
      rw [List.filter_cons_of_pos kept, List.filter_nil, eraseDups_concat, ← ih, appendNew, appendNew]
      by_cases seen : item ∈ items.eraseDups
      · simp [seen, kept]
      · simp [seen, kept, List.filter_append]
    | false =>
      rw [List.filter_cons_of_neg (by simp [kept]), List.filter_nil, List.append_nil, ← ih, appendNew]
      split
      · rfl
      · simp [kept, List.filter_append]

theorem nodup_eraseDups (items : List α) : items.eraseDups.Nodup := by
  induction items using List.reverseRecOn with
  | nil => exact List.nodup_nil
  | append_singleton items item ih =>
    rw [eraseDups_concat]
    exact appendNew_nodup ih item

theorem eraseDups_of_nodup {items : List α} (distinct : items.Nodup) : items.eraseDups = items := by
  induction items using List.reverseRecOn with
  | nil => rfl
  | append_singleton items item ih =>
    obtain ⟨first, _, apart⟩ := List.nodup_append.mp distinct
    have new : item ∉ items := fun member => apart item member item (List.mem_singleton_self item) rfl
    rw [eraseDups_concat, ih first, appendNew, if_neg (by simpa using new)]

/-- What was collected can be added to as if it were still whole. -/
theorem eraseDups_twice (seen more : List α) : (seen.eraseDups ++ more).eraseDups = (seen ++ more).eraseDups := by
  induction more using List.reverseRecOn with
  | nil => rw [List.append_nil, List.append_nil, eraseDups_of_nodup (nodup_eraseDups seen)]
  | append_singleton more item ih =>
    rw [← List.append_assoc, ← List.append_assoc, eraseDups_concat, eraseDups_concat, ih]

private theorem eraseDups_append_known {items more : List α} (known : ∀ item ∈ more, item ∈ items) :
    (items ++ more).eraseDups = items.eraseDups := by
  have none : more.removeAll items = [] := by
    rw [List.removeAll, List.filter_eq_nil_iff]
    intro item member
    simpa using known item member
  rw [List.eraseDups_append, none, List.eraseDups_nil, List.append_nil]

private theorem eraseDups_append_new {items more : List α} (new : ∀ item ∈ more, item ∉ items) :
    (items ++ more).eraseDups = items.eraseDups ++ more.eraseDups := by
  have all : more.removeAll items = more := by
    rw [List.removeAll, List.filter_eq_self]
    intro item member
    simpa using new item member
  rw [List.eraseDups_append, all]

variable {β γ : Type}

/-- What every member of a list gives again was seen with the first of them. -/
theorem eraseDups_flatMap_same {items : List β} (nonempty : items ≠ []) {given : List α} (distinct : given.Nodup) :
    (items.flatMap fun _ => given).eraseDups = given := by
  obtain ⟨first, rest, rfl⟩ := List.exists_cons_of_ne_nil nonempty
  rw [List.flatMap_cons, eraseDups_append_known, eraseDups_of_nodup distinct]
  intro item member
  obtain ⟨_, _, inside⟩ := List.mem_flatMap.mp member
  exact inside

/-- What a member of a list gives several times in a row is seen once. -/
theorem eraseDups_flatMap_own {items : List β} {own : β → α} (distinct : (items.map own).Nodup)
    {times : List γ} (nonempty : times ≠ []) :
    (items.flatMap fun item => times.map fun _ => own item).eraseDups = items.map own := by
  induction items with
  | nil => rfl
  | cons first rest ih =>
    obtain ⟨apart, distinct⟩ := List.nodup_cons.mp distinct
    have once : (times.map fun _ => own first).eraseDups = [own first] := by
      obtain ⟨time, times, rfl⟩ := List.exists_cons_of_ne_nil nonempty
      rw [List.map_cons, ← List.singleton_append, eraseDups_append_known (by simp)]
      rfl
    rw [List.flatMap_cons, eraseDups_append_new, once, ih distinct]
    · rfl
    · intro item member again
      obtain ⟨other, inside, repeated⟩ := List.mem_flatMap.mp member
      obtain ⟨_, _, rfl⟩ := List.mem_map.mp repeated
      obtain ⟨_, _, same⟩ := List.mem_map.mp again
      exact apart (same ▸ List.mem_map_of_mem inside)

end SimResults.Proofs.FirstSeen
