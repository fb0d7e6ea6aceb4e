import Mathlib.Data.List.Forall2
import Gxfp.Lib.Execution

/-!
# Logs of events

A log lists what has happened, oldest first.  An event that ends something is
justified when the log before it holds an event that began it, nothing of the
kind since, and in between the stages that lead from one to the other, in their
order; `BegunBy` is what such a log looks like on the way.  With no stages this
says that every beginning is used at most once.

`Runs` is any number of moves that append to a log.
-/

namespace Lib.EventLog

open Lib.Execution

variable {σ ι ω ε : Type*}

/-! ## Moves that log -/

/-- Any number of moves, with what they have logged. -/
inductive Runs (move : σ → List ε → σ → Prop) : σ → List ε → σ → Prop
  | refl (state : σ) : Runs move state [] state
  | tail {start middle next : σ} {log logged : List ε} (sofar : Runs move start log middle)
      (last : move middle logged next) : Runs move start (log ++ logged) next

namespace Runs

variable {move : σ → List ε → σ → Prop} {start middle next : σ} {log logged : List ε}

theorem one (last : move start log next) : Runs move start log next := by
  have single := (Runs.refl start).tail last
  rwa [List.nil_append] at single

theorem trans (first : Runs move start log middle) (second : Runs move middle logged next) :
    Runs move start (log ++ logged) next := by
  induction second with
  | refl => rwa [List.append_nil]
  | tail _ last ih =>
      rw [← List.append_assoc]
      exact ih.tail last

/-- What every move preserves, any number of them preserves. -/
theorem preserves {invariant : σ → List ε → Prop}
    (preserved : ∀ before logged after log, move before logged after → invariant before log →
      invariant after (log ++ logged))
    (runs : Runs move start logged next) (holds : invariant start log) :
    invariant next (log ++ logged) := by
  induction runs with
  | refl =>
      rw [List.append_nil]
      exact holds
  | tail _ last ih =>
      rw [← List.append_assoc]
      exact preserved _ _ _ _ last ih

end Runs

/-- An invariant of a state and its log that every step preserves holds at the
end of every execution. -/
theorem final_log_preserved {step : σ → ι → σ × ω} {logOf : Transition σ ι ω → List ε}
    {invariant : σ → List ε → Prop}
    (preserved : ∀ state input log, invariant state log →
      invariant (step state input).1 (log ++ logOf (stepTransition step state input)))
    {state : σ} {log : List ε} (start : invariant state log) (inputs : List ι) :
    invariant (final step state inputs) (log ++ (transitions step state inputs).flatMap logOf) := by
  induction inputs generalizing state log with
  | nil =>
      rw [transitions_nil, List.flatMap_nil, List.append_nil]
      exact start
  | cons input inputs ih =>
      rw [transitions_cons, List.flatMap_cons, ← List.append_assoc]
      exact ih (preserved state input log start)

/-! ## Stages -/

/-- The log holds an event of each stage, in the order of the stages. -/
def Passes (stages : List (ε → Prop)) (log : List ε) : Prop :=
  ∃ picked, picked.Sublist log ∧ List.Forall₂ (fun stage event => stage event) stages picked

theorem passes_nil (log : List ε) : Passes [] log :=
  ⟨[], List.nil_sublist log, .nil⟩

theorem Passes.other {stages : List (ε → Prop)} {log : List ε} (passes : Passes stages log)
    (logged : List ε) : Passes stages (log ++ logged) := by
  obtain ⟨picked, inLog, matched⟩ := passes
  exact ⟨picked, inLog.trans (List.sublist_append_left _ _), matched⟩

theorem Passes.next {stages : List (ε → Prop)} {log : List ε} (passes : Passes stages log)
    {stage : ε → Prop} {event : ε} (reached : stage event) :
    Passes (stages ++ [stage]) (log ++ [event]) := by
  obtain ⟨picked, inLog, matched⟩ := passes
  refine ⟨picked ++ [event], inLog.append (List.Sublist.refl _), ?_⟩
  exact List.rel_append matched (.cons reached .nil)

/-! ## Beginnings and ends -/

/-- A kind of undertaking: the events that begin it, its stages, the events that
end it and which of them belong together. -/
structure Undertaking (ε : Type*) where
  begins : ε → Prop
  stages : List (ε → Prop)
  ends : ε → Prop
  pairs : ε → ε → Prop

namespace Undertaking

variable (kind : Undertaking ε)

/-- The log has begun an undertaking with this event and has not ended it; these
stages are left. -/
def BegunBy (first : ε) (left : List (ε → Prop)) (log : List ε) : Prop :=
  ∃ earlier since done, log = earlier ++ first :: since ∧ kind.begins first ∧
    (∀ event ∈ since, ¬ kind.begins event ∧ ¬ kind.ends event) ∧
    kind.stages = done ++ left ∧ Passes done since

/-- Some event has begun an undertaking. -/
def Begun (left : List (ε → Prop)) (log : List ε) : Prop :=
  ∃ first, kind.BegunBy first left log

/-- Every event that ends an undertaking has a beginning of its own that belongs
to it, and all stages were passed since. -/
def Justified (log : List ε) : Prop :=
  ∀ before last after, log = before ++ last :: after → kind.ends last →
    ∃ first, kind.pairs first last ∧ kind.BegunBy first [] before

/-- Events that neither begin nor end an undertaking of the kind. -/
def Aside (logged : List ε) : Prop :=
  ∀ event ∈ logged, ¬ kind.begins event ∧ ¬ kind.ends event

theorem aside_nil : kind.Aside [] := by
  intro event member
  cases member

variable {kind} {first event : ε} {left : List (ε → Prop)} {log logged : List ε}

theorem aside_singleton (notBegins : ¬ kind.begins event) (notEnds : ¬ kind.ends event) :
    kind.Aside [event] := by
  intro other member
  rw [List.mem_singleton.mp member]
  exact ⟨notBegins, notEnds⟩

theorem Aside.cons (aside : kind.Aside logged) (notBegins : ¬ kind.begins event)
    (notEnds : ¬ kind.ends event) : kind.Aside (event :: logged) := by
  intro other member
  rcases List.mem_cons.mp member with rfl | later
  · exact ⟨notBegins, notEnds⟩
  · exact aside other later

theorem begunBy_append (begins : kind.begins event) (log : List ε) :
    kind.BegunBy event kind.stages (log ++ [event]) :=
  ⟨log, [], [], rfl, begins, by simp, rfl, passes_nil []⟩

theorem BegunBy.aside (begun : kind.BegunBy first left log) (others : kind.Aside logged) :
    kind.BegunBy first left (log ++ logged) := by
  obtain ⟨earlier, since, done, logEq, begins, quiet, stagesEq, passes⟩ := begun
  refine ⟨earlier, since ++ logged, done, ?_, begins, ?_, stagesEq, passes.other logged⟩
  · rw [logEq, List.append_assoc, List.cons_append]
  · intro event member
    rcases List.mem_append.mp member with older | newer
    · exact quiet event older
    · exact others event newer

theorem BegunBy.next {stage : ε → Prop} (begun : kind.BegunBy first (stage :: left) log)
    (notBegins : ¬ kind.begins event) (notEnds : ¬ kind.ends event) (reached : stage event) :
    kind.BegunBy first left (log ++ [event]) := by
  obtain ⟨earlier, since, done, logEq, begins, quiet, stagesEq, passes⟩ := begun
  refine ⟨earlier, since ++ [event], done ++ [stage], ?_, begins, ?_, ?_, passes.next reached⟩
  · rw [logEq, List.append_assoc, List.cons_append]
  · intro other member
    rcases List.mem_append.mp member with older | newest
    · exact quiet other older
    · rw [List.mem_singleton.mp newest]
      exact ⟨notBegins, notEnds⟩
  · rw [stagesEq, List.append_assoc, List.singleton_append]

theorem Begun.aside (begun : kind.Begun left log) (others : kind.Aside logged) :
    kind.Begun left (log ++ logged) := by
  obtain ⟨first, begunBy⟩ := begun
  exact ⟨first, begunBy.aside others⟩

theorem Begun.next {stage : ε → Prop} (begun : kind.Begun (stage :: left) log)
    (notBegins : ¬ kind.begins event) (notEnds : ¬ kind.ends event) (reached : stage event) :
    kind.Begun left (log ++ [event]) := by
  obtain ⟨first, begunBy⟩ := begun
  exact ⟨first, begunBy.next notBegins notEnds reached⟩

variable (kind) in
theorem justified_nil : kind.Justified [] := by
  intro before last after logEq _
  exact absurd logEq (by simp)

/-- A log stays justified when it grows by an event that ends nothing, or ends
what has come through all stages. -/
theorem Justified.append (justified : kind.Justified log)
    (ended : kind.ends event → ∃ first, kind.pairs first event ∧ kind.BegunBy first [] log) :
    kind.Justified (log ++ [event]) := by
  intro before last after logEq ends
  rcases List.eq_nil_or_concat' after with rfl | ⟨init, final, rfl⟩
  · obtain ⟨rfl, lastEq⟩ := List.append_inj' logEq rfl
    cases lastEq
    exact ended ends
  · rw [← List.cons_append, ← List.append_assoc] at logEq
    obtain ⟨rfl, -⟩ := List.append_inj' logEq rfl
    exact justified before last init rfl ends

theorem Justified.others (justified : kind.Justified log)
    (others : ∀ event ∈ logged, ¬ kind.ends event) : kind.Justified (log ++ logged) := by
  induction logged generalizing log with
  | nil =>
      rw [List.append_nil]
      exact justified
  | cons event logged ih =>
      rw [List.append_cons]
      apply ih
      · apply justified.append
        intro ends
        exact absurd ends (others event List.mem_cons_self)
      · intro other member
        exact others other (List.mem_cons_of_mem _ member)

theorem Justified.aside (justified : kind.Justified log) (aside : kind.Aside logged) :
    kind.Justified (log ++ logged) :=
  justified.others fun event member => (aside event member).2

end Undertaking

end Lib.EventLog
