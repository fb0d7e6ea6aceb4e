import Gxfp.Lib.Execution
import Mathlib.Data.List.Induction

/-!
# Serving one request at a time

An abstract server accepts a request when none is pending, refuses it otherwise
without an event, and answers the pending one.  `Serves` is its step relation,
with the requests it may accept and the answers that a request admits as
parameters.

`served_of_simulation` takes a machine whose every good step is one of the
server's to the shape of its whole history: requests and answers alternate, and
each answer is one that the request before it admits.
-/

namespace Lib.Serving

open Lib.Execution

variable {σ ι ω ρ α : Type*}

/-- What a server tells its clients. -/
inductive Event (ρ α : Type*)
  | accepted (request : ρ)
  | answered (answer : α)

/-- The steps of a server; a step of its own is without an event. -/
inductive Serves (admits : ρ → α → Prop) : Option ρ → Option (Event ρ α) → Option ρ → Prop
  | silent (pending : Option ρ) : Serves admits pending none pending
  | accept (request : ρ) : Serves admits none (some (.accepted request)) (some request)
  | answer {request : ρ} {answer : α} (admitted : admits request answer) :
      Serves admits (some request) (some (.answered answer)) none

/-- The events of requests with their answers, in order. -/
def history : List (ρ × α) → List (Event ρ α)
  | [] => []
  | (request, answer) :: rest => .accepted request :: .answered answer :: history rest

/-- The event of a request that has no answer yet. -/
def pendingEvent : Option ρ → List (Event ρ α)
  | none => []
  | some request => [.accepted request]

theorem history_append (first second : List (ρ × α)) :
    history (first ++ second) = history first ++ history second := by
  induction first with
  | nil => rfl
  | cons pair rest ih =>
      change _ :: _ :: history (rest ++ second) = _
      rw [ih]
      rfl

/-- The events so far are a history of admitted answers and perhaps a pending
request. -/
def Served (admits : ρ → α → Prop) (events : List (Event ρ α)) (pending : Option ρ) : Prop :=
  ∃ pairs : List (ρ × α), events = history pairs ++ pendingEvent pending ∧
    ∀ pair ∈ pairs, admits pair.1 pair.2

theorem Served.nil (admits : ρ → α → Prop) : Served admits [] none :=
  ⟨[], rfl, fun _ member => by cases member⟩

theorem Served.step {admits : ρ → α → Prop} {events : List (Event ρ α)} {pending next : Option ρ}
    {event : Option (Event ρ α)} (served : Served admits events pending)
    (serves : Serves admits pending event next) :
    Served admits (events ++ event.toList) next := by
  obtain ⟨pairs, rfl, admitted⟩ := served
  cases serves with
  | silent pending => exact ⟨pairs, List.append_nil _, admitted⟩
  | accept request =>
      refine ⟨pairs, ?_, admitted⟩
      rw [pendingEvent, List.append_nil]
      rfl
  | @answer request answer earned =>
      refine ⟨pairs ++ [(request, answer)], ?_, ?_⟩
      · rw [history_append, List.append_assoc]
        exact (List.append_nil _).symm
      · intro pair member
        rcases List.mem_append.mp member with earlier | last
        · exact admitted pair earlier
        · rw [List.mem_singleton.mp last]
          exact earned

/-- The events of an execution. -/
def eventsOf (event : Transition σ ι ω → Option (Event ρ α))
    (run : List (Transition σ ι ω)) : List (Event ρ α) :=
  run.flatMap fun transition => (event transition).toList

/-- A machine whose good steps are steps of the server serves its clients. -/
theorem served_of_simulation {step : σ → ι → σ × ω} {admits : ρ → α → Prop}
    {event : Transition σ ι ω → Option (Event ρ α)} {related : Option ρ → σ → Prop}
    {good : Transition σ ι ω → Prop}
    (simulates : ∀ pending state input, related pending state →
      good (stepTransition step state input) →
      ∃ next, Serves admits pending (event (stepTransition step state input)) next ∧
        related next (step state input).1)
    {state : σ} (start : related none state) (inputs : List ι)
    (allGood : ∀ transition ∈ transitions step state inputs, good transition) :
    ∃ pending, related pending (final step state inputs) ∧
      Served admits (eventsOf event (transitions step state inputs)) pending := by
  induction inputs using List.reverseRecOn with
  | nil => exact ⟨none, start, .nil admits⟩
  | append_singleton inputs input ih =>
      have earlier : ∀ transition ∈ transitions step state inputs, good transition := by
        intro transition member
        apply allGood
        rw [transitions_append]
        exact List.mem_append_left _ member
      obtain ⟨pending, holds, served⟩ := ih earlier
      have last := allGood _ (stepTransition_mem_last step state inputs input)
      obtain ⟨next, serves, nextHolds⟩ := simulates pending _ input holds last
      refine ⟨next, ?_, ?_⟩
      · rw [final_append]
        exact nextHolds
      · have appended := served.step serves
        unfold eventsOf at appended ⊢
        rw [transitions_append, List.flatMap_append]
        simpa using appended

end Lib.Serving
