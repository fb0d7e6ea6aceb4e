import Mathlib.Data.List.Basic

/-!
# Executions of a total machine

A machine is a total function from a state and an input to the next state and
an output; an input that is not enabled leaves the state as it is and outputs
nothing of interest.  Interleavings of several parties are lists of inputs that
name the party, so a statement about every list of inputs is a statement about
every interleaving.

`transitions_invariant` carries an invariant along the executed steps,
`outputs_eq_of_related` compares two executions under the same inputs, and
`acceptAll_final` carries a simulation relation to an abstract acceptor of the
output events.
-/

namespace Lib.Execution

variable {σ ι ω ε α : Type*}

/-- One executed step. -/
structure Transition (σ ι ω : Type*) where
  before : σ
  input : ι
  output : ω
  after : σ

/-- The step of `step` at `state` under `input`. -/
def stepTransition (step : σ → ι → σ × ω) (state : σ) (input : ι) : Transition σ ι ω :=
  ⟨state, input, (step state input).2, (step state input).1⟩

/-- The steps executed from `state` under a list of inputs. -/
def transitions (step : σ → ι → σ × ω) : σ → List ι → List (Transition σ ι ω)
  | _, [] => []
  | state, input :: inputs =>
      stepTransition step state input :: transitions step (step state input).1 inputs

/-- The state reached from `state` under a list of inputs. -/
def final (step : σ → ι → σ × ω) (state : σ) (inputs : List ι) : σ :=
  inputs.foldl (fun current input => (step current input).1) state

@[simp]
theorem final_nil (step : σ → ι → σ × ω) (state : σ) : final step state [] = state :=
  rfl

@[simp]
theorem final_cons (step : σ → ι → σ × ω) (state : σ) (input : ι) (inputs : List ι) :
    final step state (input :: inputs) = final step (step state input).1 inputs :=
  rfl

theorem final_append (step : σ → ι → σ × ω) (state : σ) (first second : List ι) :
    final step state (first ++ second) = final step (final step state first) second :=
  List.foldl_append

@[simp]
theorem transitions_nil (step : σ → ι → σ × ω) (state : σ) : transitions step state [] = [] :=
  rfl

@[simp]
theorem transitions_cons (step : σ → ι → σ × ω) (state : σ) (input : ι) (inputs : List ι) :
    transitions step state (input :: inputs) =
      stepTransition step state input :: transitions step (step state input).1 inputs :=
  rfl

theorem transitions_append (step : σ → ι → σ × ω) (state : σ) (first second : List ι) :
    transitions step state (first ++ second) =
      transitions step state first ++ transitions step (final step state first) second := by
  induction first generalizing state with
  | nil => rfl
  | cons input inputs ih => simp [ih]

/-- The last step of an execution is one of its steps. -/
theorem stepTransition_mem_last (step : σ → ι → σ × ω) (state : σ) (inputs : List ι) (input : ι) :
    stepTransition step (final step state inputs) input ∈
      transitions step state (inputs ++ [input]) := by
  rw [transitions_append]
  exact List.mem_append_right _ List.mem_cons_self

/-- Every executed transition is the machine's step at its own source state. -/
theorem eq_stepTransition_of_mem {step : σ → ι → σ × ω} {state : σ} {inputs : List ι}
    {transition : Transition σ ι ω} (member : transition ∈ transitions step state inputs) :
    transition = stepTransition step transition.before transition.input := by
  induction inputs generalizing state with
  | nil => simp at member
  | cons input inputs ih =>
      rcases List.mem_cons.mp member with rfl | later
      · rfl
      · exact ih later

/-- The input of every executed step is one of the inputs. -/
theorem input_mem_of_mem {step : σ → ι → σ × ω} {state : σ} {inputs : List ι}
    {transition : Transition σ ι ω} (member : transition ∈ transitions step state inputs) :
    transition.input ∈ inputs := by
  induction inputs generalizing state with
  | nil => simp at member
  | cons input inputs ih =>
      rcases List.mem_cons.mp member with rfl | later
      · exact List.mem_cons_self
      · exact List.mem_cons_of_mem _ (ih later)

/-- An invariant that every good step preserves holds on both sides of every
step of an execution all of whose steps are good. -/
theorem transitions_invariant {step : σ → ι → σ × ω} {invariant : σ → Prop}
    {good : Transition σ ι ω → Prop}
    (preserved : ∀ state input, invariant state →
      good (stepTransition step state input) → invariant (step state input).1)
    {state : σ} {inputs : List ι} (start : invariant state)
    (allGood : ∀ transition ∈ transitions step state inputs, good transition) :
    ∀ transition ∈ transitions step state inputs,
      invariant transition.before ∧ invariant transition.after := by
  induction inputs generalizing state with
  | nil => simp
  | cons input inputs ih =>
      have firstGood := allGood _ List.mem_cons_self
      have next := preserved state input start firstGood
      intro transition member
      rcases List.mem_cons.mp member with rfl | later
      · exact ⟨start, next⟩
      · exact ih next (fun other otherMem => allGood other (List.mem_cons_of_mem _ otherMem))
          transition later

/-- An invariant that every step preserves holds at the end of every
execution. -/
theorem final_preserved {step : σ → ι → σ × ω} {invariant : σ → Prop}
    (preserved : ∀ state input, invariant state → invariant (step state input).1)
    {state : σ} (start : invariant state) (inputs : List ι) :
    invariant (final step state inputs) := by
  induction inputs generalizing state with
  | nil => exact start
  | cons input inputs ih => exact ih (preserved state input start)

/-- The same for the end of an execution, and for the end of every prefix. -/
theorem final_invariant {step : σ → ι → σ × ω} {invariant : σ → Prop}
    {good : Transition σ ι ω → Prop}
    (preserved : ∀ state input, invariant state →
      good (stepTransition step state input) → invariant (step state input).1)
    {state : σ} {inputs : List ι} (start : invariant state)
    (allGood : ∀ transition ∈ transitions step state inputs, good transition)
    {first : List ι} (reached : first <+: inputs) : invariant (final step state first) := by
  obtain ⟨rest, rfl⟩ := reached
  induction first generalizing state with
  | nil => exact start
  | cons input first ih =>
      have next := preserved state input start (allGood _ List.mem_cons_self)
      exact ih next fun other otherMem => allGood other (List.mem_cons_of_mem _ otherMem)

/-- A reflexive and transitive relation that every step respects relates the
target of every step of an execution to its end. -/
theorem transitions_related_final {step : σ → ι → σ × ω} {related : σ → σ → Prop}
    (reflexive : ∀ state, related state state)
    (transitive : ∀ first second third, related first second → related second third →
      related first third)
    (respected : ∀ state input, related state (step state input).1)
    {state : σ} {inputs : List ι} :
    ∀ transition ∈ transitions step state inputs,
      related transition.after (final step state inputs) := by
  have reached (state : σ) (inputs : List ι) : related state (final step state inputs) := by
    induction inputs generalizing state with
    | nil => exact reflexive state
    | cons input inputs ih => exact transitive _ _ _ (respected state input) (ih _)
  induction inputs generalizing state with
  | nil => simp
  | cons input inputs ih =>
      intro transition member
      rcases List.mem_cons.mp member with rfl | later
      · exact reached _ inputs
      · exact ih transition later

/-- When every step gives related states the same output and leads them to
related states, so does every execution. -/
theorem outputs_eq_of_related {step : σ → ι → σ × ω} {related : σ → σ → Prop}
    (respected : ∀ first second input, related first second →
      (step first input).2 = (step second input).2 ∧
        related (step first input).1 (step second input).1)
    {first second : σ} (start : related first second) (inputs : List ι) :
    (transitions step first inputs).map Transition.output =
        (transitions step second inputs).map Transition.output ∧
      related (final step first inputs) (final step second inputs) := by
  induction inputs generalizing first second with
  | nil => exact ⟨rfl, start⟩
  | cons input inputs ih =>
      obtain ⟨sameOutput, nextRelated⟩ := respected first second input start
      obtain ⟨sameRest, finalRelated⟩ := ih nextRelated
      constructor
      · rw [transitions_cons, transitions_cons, List.map_cons, List.map_cons, sameRest]
        exact congrArg (List.cons · _) sameOutput
      · exact finalRelated

/-- A machine whose every step gives out the front of what it contains and takes
in at the back loses nothing: what it contained and took in is what it gave out
and contains. -/
theorem transitions_conserved {step : σ → ι → σ × ω} {invariant : σ → Prop}
    {contents : σ → List α} {taken given : Transition σ ι ω → List α}
    (preserved : ∀ state input, invariant state → invariant (step state input).1)
    (conserved : ∀ state input, invariant state →
      contents state ++ taken (stepTransition step state input) =
        given (stepTransition step state input) ++ contents (step state input).1)
    {state : σ} (start : invariant state) (inputs : List ι) :
    contents state ++ (transitions step state inputs).flatMap taken =
      (transitions step state inputs).flatMap given ++ contents (final step state inputs) := by
  induction inputs generalizing state with
  | nil => simp
  | cons input inputs ih =>
      have rest := ih (preserved state input start)
      rw [transitions_cons, List.flatMap_cons, List.flatMap_cons, final_cons,
        ← List.append_assoc, conserved state input start, List.append_assoc, rest,
        List.append_assoc]

/-! ## Event traces and acceptors -/

/-- The events an execution outputs, in order. -/
def events (step : σ → ι → σ × List ε) (state : σ) (inputs : List ι) : List ε :=
  (transitions step state inputs).flatMap Transition.output

@[simp]
theorem events_nil (step : σ → ι → σ × List ε) (state : σ) : events step state [] = [] :=
  rfl

@[simp]
theorem events_cons (step : σ → ι → σ × List ε) (state : σ) (input : ι) (inputs : List ι) :
    events step state (input :: inputs) =
      (step state input).2 ++ events step (step state input).1 inputs :=
  rfl

theorem events_append (step : σ → ι → σ × List ε) (state : σ) (first second : List ι) :
    events step state (first ++ second) =
      events step state first ++ events step (final step state first) second := by
  induction first generalizing state with
  | nil => rfl
  | cons input inputs ih =>
      rw [List.cons_append, events_cons, events_cons, ih, List.append_assoc]
      rfl

/-- Feed a list of events to an abstract acceptor; `none` is rejection. -/
def acceptAll (accept : α → ε → Option α) : α → List ε → Option α
  | abstract, [] => some abstract
  | abstract, event :: rest => (accept abstract event).bind fun next => acceptAll accept next rest

@[simp]
theorem acceptAll_nil (accept : α → ε → Option α) (abstract : α) :
    acceptAll accept abstract [] = some abstract :=
  rfl

@[simp]
theorem acceptAll_cons (accept : α → ε → Option α) (abstract : α) (event : ε) (rest : List ε) :
    acceptAll accept abstract (event :: rest) =
      (accept abstract event).bind fun next => acceptAll accept next rest :=
  rfl

theorem acceptAll_append (accept : α → ε → Option α) (abstract : α) (first second : List ε) :
    acceptAll accept abstract (first ++ second) =
      (acceptAll accept abstract first).bind fun next => acceptAll accept next second := by
  induction first generalizing abstract with
  | nil => rfl
  | cons event rest ih =>
      cases accepted : accept abstract event with
      | none => simp [accepted]
      | some next => simp [accepted, ih]

/-- Forward simulation: when every step's events are accepted and lead to a
related abstract state, the events of every execution are accepted. -/
theorem acceptAll_final {step : σ → ι → σ × List ε} {accept : α → ε → Option α}
    {related : σ → α → Prop}
    (simulates : ∀ state input abstract, related state abstract →
      ∃ next, acceptAll accept abstract (step state input).2 = some next ∧
        related (step state input).1 next)
    {state : σ} {abstract : α} (start : related state abstract) (inputs : List ι) :
    ∃ next, acceptAll accept abstract (events step state inputs) = some next ∧
      related (final step state inputs) next := by
  induction inputs generalizing state abstract with
  | nil => exact ⟨abstract, rfl, start⟩
  | cons input inputs ih =>
      obtain ⟨middle, firstAccepted, middleRelated⟩ := simulates state input abstract start
      obtain ⟨next, restAccepted, nextRelated⟩ := ih middleRelated
      refine ⟨next, ?_, nextRelated⟩
      rw [events_cons, acceptAll_append, firstAccepted]
      exact restAccepted

end Lib.Execution
