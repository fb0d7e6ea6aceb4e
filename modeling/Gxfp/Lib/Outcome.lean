import Mathlib.Logic.Basic

/-!
# Outcomes of fallible programs

`Ends program post` says that a program of `Except` returns, and returns a value
with a property.  The rules follow the syntax of a `do` block.
-/

namespace Lib.Outcome

variable {ε α β : Type} {program : Except ε α} {post : α → Prop}

/-- The program returns a value with the property. -/
def Ends (program : Except ε α) (post : α → Prop) : Prop :=
  ∃ value, program = .ok value ∧ post value

theorem Ends.ok {value : α} (holds : post value) : Ends (.ok value : Except ε α) post :=
  ⟨value, rfl, holds⟩

theorem Ends.pure {value : α} (holds : post value) : Ends (pure value : Except ε α) post :=
  ⟨value, rfl, holds⟩

/-- The rest of a program may use what its first part has established. -/
theorem Ends.bind {next : α → Except ε β} {last : β → Prop} (first : Ends program post)
    (rest : ∀ value, post value → Ends (next value) last) : Ends (program >>= next) last := by
  obtain ⟨value, rfl, holds⟩ := first
  exact rest value holds

/-- A weaker property holds as well. -/
theorem Ends.mono {last : α → Prop} (ends : Ends program post)
    (weaker : ∀ value, post value → last value) : Ends program last := by
  obtain ⟨value, returned, holds⟩ := ends
  exact ⟨value, returned, weaker value holds⟩

/-- What is known of every value that a program can return. -/
theorem Ends.of_ok {value : α} (ends : Ends program post) (returned : program = .ok value) :
    post value := by
  obtain ⟨other, isOther, holds⟩ := ends
  rw [returned] at isOther
  cases isOther
  exact holds

instance [DecidablePred post] : (program : Except ε α) → Decidable (Ends program post)
  | .ok value => decidable_of_iff (post value) ⟨Ends.ok, fun ends => ends.of_ok rfl⟩
  | .error _ => isFalse fun ends => by
      obtain ⟨value, returned, -⟩ := ends
      cases returned

end Lib.Outcome
