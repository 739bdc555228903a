/-!
# Results

How a result is read off the computations that it went through: a computation has an answer exactly
if all its parts have one, and fails exactly if one of them does.
-/

namespace JavaHome

variable {ε α β : Type} {x : Except ε α}

/-- A result that goes into another computation is an answer if and only if both are. -/
theorem bind_eq_ok_iff {f : α → Except ε β} {b : β} :
    x >>= f = .ok b ↔ ∃ a, x = .ok a ∧ f a = .ok b := by
  cases x with
  | ok a => exact ⟨fun h => ⟨a, rfl, h⟩, fun ⟨_, rfl, h⟩ => h⟩
  | error e => exact ⟨nofun, fun ⟨_, h, _⟩ => nomatch h⟩

/-- A result that goes into another computation is a failure if and only if one of the two is. -/
theorem bind_eq_error_iff {f : α → Except ε β} {e : ε} :
    x >>= f = .error e ↔ x = .error e ∨ ∃ a, x = .ok a ∧ f a = .error e := by
  cases x with
  | ok a => exact ⟨fun h => .inr ⟨a, rfl, h⟩, fun | .inr ⟨_, rfl, h⟩ => h⟩
  | error other =>
    constructor
    · intro h
      cases h
      exact .inl rfl
    · intro h
      cases h with
      | inl h =>
        cases h
        rfl
      | inr h =>
        obtain ⟨a, h, -⟩ := h
        cases h

/-- An answer that a function gives is one to an answer. -/
theorem map_eq_ok_iff {f : α → β} {b : β} : x.map f = .ok b ↔ ∃ a, x = .ok a ∧ f a = b := by
  cases x with
  | ok a => simp [Except.map]
  | error e => simp [Except.map]

/-- A function does not fail. -/
theorem map_eq_error_iff {f : α → β} {e : ε} : x.map f = .error e ↔ x = .error e := by
  cases x with
  | ok a => simp [Except.map]
  | error other => simp [Except.map]

theorem exists_map_eq_ok_iff {f : α → β} : (∃ b, x.map f = .ok b) ↔ ∃ a, x = .ok a := by
  constructor
  · rintro ⟨b, h⟩
    obtain ⟨a, h, -⟩ := map_eq_ok_iff.1 h
    exact ⟨a, h⟩
  · rintro ⟨a, h⟩
    exact ⟨f a, map_eq_ok_iff.2 ⟨a, h, rfl⟩⟩

/-- A result is the answer that is taken out of it. -/
theorem eq_ok_of_toOption {a : α} (h : x.toOption = some a) : x = .ok a := by
  cases x with
  | ok b =>
    cases h
    rfl
  | error e => cases h

end JavaHome
