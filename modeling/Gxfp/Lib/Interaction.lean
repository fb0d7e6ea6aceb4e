import Mathlib.Logic.Basic

/-!
# Finite interactions

A component whose code is not at hand, but which reaches its surroundings only
by asking queries, is a finite tree: it either ends with a result or asks a
query and continues with the answer.  Running it against a handler of the
queries gives the result and the state of the surroundings.
-/

namespace Lib

universe u v w

/-- A component that asks queries in `Q`, is answered in `A` and ends in `α`. -/
inductive Interaction (Q : Type u) (A : Type v) (α : Type w)
  | done (result : α)
  | ask (query : Q) (next : A → Interaction Q A α)

namespace Interaction

variable {Q : Type u} {A : Type v} {α : Type w} {σ : Type*}

/-- Run a component against a handler of its queries. -/
def run (handler : σ → Q → A × σ) : Interaction Q A α → σ → α × σ
  | .done result, state => (result, state)
  | .ask query next, state =>
      let answered := handler state query
      run handler (next answered.1) answered.2

/-- Change the result of a component. -/
def map {β : Type*} (change : α → β) : Interaction Q A α → Interaction Q A β
  | .done result => .done (change result)
  | .ask query next => .ask query fun answer => (next answer).map change

/-- Every way the component can end satisfies the predicate. -/
def Always (holds : α → Prop) : Interaction Q A α → Prop
  | .done result => holds result
  | .ask _ next => ∀ answer, Always holds (next answer)

theorem always_run {holds : α → Prop} (handler : σ → Q → A × σ) {tree : Interaction Q A α}
    (always : tree.Always holds) (state : σ) : holds (tree.run handler state).1 := by
  induction tree generalizing state with
  | done result => exact always
  | ask query next ih => exact ih (handler state query).1 (always _) (handler state query).2

theorem run_map {β : Type*} (handler : σ → Q → A × σ) (change : α → β)
    (tree : Interaction Q A α) (state : σ) :
    (tree.map change).run handler state =
      (change (tree.run handler state).1, (tree.run handler state).2) := by
  induction tree generalizing state with
  | done result => rfl
  | ask query next ih => exact ih (handler state query).1 (handler state query).2

/-- What the handler preserves, the whole run preserves. -/
theorem run_preserves {handler : σ → Q → A × σ} {invariant : σ → Prop}
    (handled : ∀ state query, invariant state → invariant (handler state query).2)
    (tree : Interaction Q A α) {state : σ} (start : invariant state) :
    invariant (tree.run handler state).2 := by
  induction tree generalizing state with
  | done result => exact start
  | ask query next ih => exact ih (handler state query).1 (handled state query start)

end Interaction

end Lib
