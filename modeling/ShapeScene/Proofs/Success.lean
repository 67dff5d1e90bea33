/-!
# Steps that succeed

What a run gave is known from what each of its steps gave.
-/

namespace ShapeScene

/-- Two steps succeed when the first does and then the second. -/
theorem bind_eq_ok {ε α β : Type} {step : Except ε α} {next : α → Except ε β} {result : β} :
    step >>= next = .ok result ↔ ∃ value, step = .ok value ∧ next value = .ok result := by
  cases step with
  | error failure =>
    constructor
    · intro same
      cases same
    · rintro ⟨value, same, -⟩
      cases same
  | ok value =>
    constructor
    · exact fun same => ⟨value, rfl, same⟩
    · rintro ⟨value, same, result⟩
      cases same
      exact result

end ShapeScene
