import SimResults.Coercion

/-! Outcomes of steps that may fail. A traversal stops at the first item that fails, so its
failure says which item that was, and its success says that every item went through. -/

namespace SimResults.Proofs.Outcomes

variable {ε α β γ : Type}

theorem bind_eq_ok {first : Except ε α} {next : α → Except ε β} {result : β} :
    first >>= next = .ok result ↔ ∃ value, first = .ok value ∧ next value = .ok result := by
  cases first with
  | error fault => simp [bind, Except.bind]
  | ok value => simp [bind, Except.bind]

theorem bind_eq_error {first : Except ε α} {next : α → Except ε β} {fault : ε} :
    first >>= next = .error fault ↔
      first = .error fault ∨ ∃ value, first = .ok value ∧ next value = .error fault := by
  cases first with
  | error found => simp [bind, Except.bind]
  | ok value => simp [bind, Except.bind]

theorem pure_eq_ok {value result : α} : (pure value : Except ε α) = .ok result ↔ value = result := by
  simp [pure, Except.pure]

theorem map_eq_ok {first : Except ε α} {f : α → β} {result : β} :
    first.map f = .ok result ↔ ∃ value, first = .ok value ∧ f value = result := by
  cases first <;> simp [Except.map]

theorem map_eq_error {first : Except ε α} {f : α → β} {fault : ε} :
    first.map f = .error fault ↔ first = .error fault := by
  cases first <;> simp [Except.map]

theorem mapError_eq_ok {first : Except ε α} {f : ε → γ} {result : α} :
    first.mapError f = .ok result ↔ first = .ok result := by
  cases first with
  | error fault => exact ⟨nofun, nofun⟩
  | ok value =>
    constructor
    · intro same
      cases same
      rfl
    · intro same
      cases same
      rfl

theorem atCell_eq_ok {row : Nat} {column raw : String} {outcome : Except CellFault α} {value : α} :
    atCell row column raw outcome = .ok value ↔ outcome = .ok value := by
  cases outcome <;> simp [atCell]

theorem atCell_eq_error {row : Nat} {column raw : String} {outcome : Except CellFault α}
    {failure : Failure} :
    atCell row column raw outcome = .error failure ↔
      ∃ fault, outcome = .error fault ∧ failure = .parse row column raw fault := by
  cases outcome <;> simp [atCell, eq_comm]

theorem error_of_not_ok {outcome : Except ε α} (fails : ¬ ∃ value, outcome = .ok value) :
    ∃ fault, outcome = .error fault := by
  cases outcome with
  | error fault => exact ⟨fault, rfl⟩
  | ok value => exact absurd ⟨value, rfl⟩ fails

/-- Takes items in order, each with its number, up to the first that fails. -/
def traverseFrom (step : Nat → α → Except ε β) (number : Nat) : List α → Except ε (List β)
  | [] => .ok []
  | item :: rest => do
    let value ← step number item
    let values ← traverseFrom step (number + 1) rest
    return value :: values

variable {step : Nat → α → Except ε β} {number : Nat}

theorem traverseFrom_cons_eq_ok {item : α} {rest : List α} {values : List β} :
    traverseFrom step number (item :: rest) = .ok values ↔
      ∃ value others, step number item = .ok value ∧
        traverseFrom step (number + 1) rest = .ok others ∧ values = value :: others := by
  simp only [traverseFrom, bind_eq_ok, pure_eq_ok]
  constructor
  · intro given
    obtain ⟨value, stepped, others, traversed, rfl⟩ := given
    exact ⟨value, others, stepped, traversed, rfl⟩
  · intro given
    obtain ⟨value, others, stepped, traversed, rfl⟩ := given
    exact ⟨value, stepped, others, traversed, rfl⟩

theorem traverseFrom_cons_eq_error {item : α} {rest : List α} {fault : ε} :
    traverseFrom step number (item :: rest) = .error fault ↔
      step number item = .error fault ∨
        ∃ value, step number item = .ok value ∧ traverseFrom step (number + 1) rest = .error fault := by
  simp [traverseFrom, bind_eq_error, pure, Except.pure]

/-- A traversal that goes through has one value for each item, the one that its step gives. -/
theorem traverseFrom_eq_ok {items : List α} {values : List β} :
    traverseFrom step number items = .ok values ↔
      values.length = items.length ∧ ∀ index item, items[index]? = some item →
        ∃ value, values[index]? = some value ∧ step (number + index) item = .ok value := by
  induction items generalizing number values with
  | nil => simp [traverseFrom, eq_comm]
  | cons first rest ih =>
    rw [traverseFrom_cons_eq_ok]
    constructor
    · intro given
      obtain ⟨value, others, stepped, traversed, rfl⟩ := given
      obtain ⟨length, each⟩ := ih.mp traversed
      refine ⟨by simp [length], ?_⟩
      intro index item found
      cases index with
      | zero => exact ⟨value, rfl, by simpa [← Option.some.inj found] using stepped⟩
      | succ index =>
        have := each index item (by simpa using found)
        simpa [Nat.add_comm, Nat.add_left_comm] using this
    · intro given
      obtain ⟨length, each⟩ := given
      obtain _ | ⟨value, others⟩ := values
      · simp at length
      · obtain ⟨found, same, stepped⟩ := each 0 first rfl
        cases same
        refine ⟨value, others, stepped, ih.mpr ⟨by simpa using length, ?_⟩, rfl⟩
        intro index item member
        have := each (index + 1) item (by simpa using member)
        simpa [Nat.add_comm, Nat.add_left_comm] using this

theorem traverseFrom_eq_error {items : List α} {fault : ε} :
    traverseFrom step number items = .error fault ↔
      ∃ index item, items[index]? = some item ∧ step (number + index) item = .error fault ∧
        ∀ earlier < index, ∀ other, items[earlier]? = some other →
          ∃ value, step (number + earlier) other = .ok value := by
  induction items generalizing number with
  | nil => simp [traverseFrom]
  | cons first rest ih =>
    rw [traverseFrom_cons_eq_error, ih]
    constructor
    · intro given
      rcases given with failed | ⟨value, stepped, index, item, found, failed, before⟩
      · exact ⟨0, first, rfl, failed, by simp⟩
      · refine ⟨index + 1, item, by simpa using found, ?_, ?_⟩
        · simpa [Nat.add_comm, Nat.add_left_comm] using failed
        · intro earlier smaller other member
          cases earlier with
          | zero => exact ⟨value, by simpa [← Option.some.inj member] using stepped⟩
          | succ earlier =>
            have := before earlier (by omega) other (by simpa using member)
            simpa [Nat.add_comm, Nat.add_left_comm] using this
    · intro given
      obtain ⟨index, item, found, failed, before⟩ := given
      cases index with
      | zero => exact .inl (by simpa [← Option.some.inj found] using failed)
      | succ index =>
        obtain ⟨value, stepped⟩ := before 0 (by omega) first rfl
        refine .inr ⟨value, stepped, index, item, by simpa using found, ?_, ?_⟩
        · simpa [Nat.add_comm, Nat.add_left_comm] using failed
        · intro earlier smaller other member
          have := before (earlier + 1) (by omega) other (by simpa using member)
          simpa [Nat.add_comm, Nat.add_left_comm] using this

theorem traverseFrom_succeeds {items : List α} :
    (∃ values, traverseFrom step number items = .ok values) ↔
      ∀ index item, items[index]? = some item → ∃ value, step (number + index) item = .ok value := by
  induction items generalizing number with
  | nil => simp [traverseFrom]
  | cons first rest ih =>
    constructor
    · intro given index item found
      obtain ⟨values, traversed⟩ := given
      obtain ⟨value, _, stepped⟩ := (traverseFrom_eq_ok.mp traversed).2 index item found
      exact ⟨value, stepped⟩
    · intro each
      obtain ⟨value, stepped⟩ := each 0 first rfl
      have others : ∃ values, traverseFrom step (number + 1) rest = .ok values := by
        apply ih.mpr
        intro index item found
        have := each (index + 1) item (by simpa using found)
        simpa [Nat.add_comm, Nat.add_left_comm] using this
      obtain ⟨values, traversed⟩ := others
      exact ⟨value :: values, traverseFrom_cons_eq_ok.mpr ⟨value, values, stepped, traversed, rfl⟩⟩

/-- A step that depends on the item alone, as a condition and a function. -/
theorem traverseFrom_eq_map {Good : α → Prop} {f : α → β}
    (stepped : ∀ number item value, step number item = .ok value ↔ Good item ∧ value = f item)
    {items : List α} {values : List β} :
    traverseFrom step number items = .ok values ↔ (∀ item ∈ items, Good item) ∧ values = items.map f := by
  induction items generalizing number values with
  | nil => simp [traverseFrom, eq_comm]
  | cons first rest ih =>
    rw [traverseFrom_cons_eq_ok, List.forall_mem_cons, List.map_cons]
    constructor
    · intro given
      obtain ⟨value, others, taken, traversed, rfl⟩ := given
      obtain ⟨good, rfl⟩ := (stepped _ _ _).mp taken
      obtain ⟨each, rfl⟩ := ih.mp traversed
      exact ⟨⟨good, each⟩, rfl⟩
    · intro given
      obtain ⟨⟨good, each⟩, rfl⟩ := given
      exact ⟨_, _, (stepped _ _ _).mpr ⟨good, rfl⟩, ih.mpr ⟨each, rfl⟩, rfl⟩

end SimResults.Proofs.Outcomes
