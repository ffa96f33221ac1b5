/-!
# Results of steps that may fail

When a step with a changed result, or a sequence of two steps, gives a value, and what is left of a
step when the reason of its failure is forgotten.
-/
namespace Dialogue

variable {ε α β : Type}

theorem bind_eq_ok_iff {x : Except ε α} {f : α → Except ε β} {b : β} :
    x >>= f = .ok b ↔ ∃ a, x = .ok a ∧ f a = .ok b := by
  cases x <;> simp [bind, Except.bind]

theorem bind_eq_error_iff {x : Except ε α} {f : α → Except ε β} {e : ε} :
    x >>= f = .error e ↔ x = .error e ∨ ∃ a, x = .ok a ∧ f a = .error e := by
  cases x <;> simp [bind, Except.bind]

theorem map_eq_ok_iff {x : Except ε α} {f : α → β} {b : β} :
    x.map f = .ok b ↔ ∃ a, x = .ok a ∧ f a = b := by
  cases x <;> simp [Except.map]

theorem mapError_eq_ok_iff {ε' : Type} {x : Except ε α} {f : ε → ε'} {a : α} :
    x.mapError f = .ok a ↔ x = .ok a := by
  cases x with
  | error e => exact iff_of_false (fun h => by cases h) (fun h => by cases h)
  | ok b =>
      show (Except.ok b : Except ε' α) = .ok a ↔ _
      rw [Except.ok.injEq, Except.ok.injEq]

theorem toOption_eq_some_iff {x : Except ε α} {a : α} : x.toOption = some a ↔ x = .ok a := by
  cases x <;> simp [Except.toOption]

theorem toOption_map (f : α → β) (x : Except ε α) : (x.map f).toOption = x.toOption.map f := by
  cases x <;> rfl

/-- A reader that leaves `rest` if it reads anything fails, or reads what the option holds. -/
theorem error_or_ok_of_toOption {x : Except ε (α × β)} {e : Option α} {rest : β}
    (h : x.toOption = e.map (·, rest)) :
    (∃ fault, x = .error fault ∧ e = none) ∨ ∃ a, x = .ok (a, rest) ∧ e = some a := by
  cases e with
  | none =>
      cases x with
      | error fault => exact .inl ⟨fault, rfl, rfl⟩
      | ok r => cases h
  | some a => exact .inr ⟨a, toOption_eq_some_iff.1 h, rfl⟩

end Dialogue
