import Mathlib.Data.List.Basic

/-!
# Overwriting ring

A fixed number of slots, a position for the next store and a count of the slots
in use.  A store goes to the position and moves it on, wrapping at the end; once
every slot is in use a store overwrites the oldest element.  `Holds` says what
such a ring contains in terms of everything that was ever stored: going back from
the position, slot by slot, one meets the stored elements, newest first.
-/

namespace Lib.Ring

variable {α : Type*} {size head age : Nat}

/-- The position after `head`. -/
def next (size head : Nat) : Nat :=
  (head + 1) % size

/-- The slot of the element stored `age` stores before the newest one. -/
def back (size head age : Nat) : Nat :=
  (head + size - 1 - age) % size

/-! ## Positions -/

/-- A remainder below twice the divisor. -/
theorem mod_of_lt_two_mul {n : Nat} (bound : n < 2 * size) :
    n % size = if n < size then n else n - size := by
  by_cases inside : n < size
  · rw [if_pos inside, Nat.mod_eq_of_lt inside]
  · rw [if_neg inside, Nat.mod_eq_sub_mod (Nat.le_of_not_lt inside)]
    apply Nat.mod_eq_of_lt
    omega

theorem next_lt (inside : head < size) : next size head < size :=
  Nat.mod_lt _ (Nat.zero_lt_of_lt inside)

theorem next_eq (inside : head < size) :
    next size head = if head + 1 < size then head + 1 else 0 := by
  rw [next, mod_of_lt_two_mul (by omega)]
  by_cases more : head + 1 < size
  · rw [if_pos more, if_pos more]
  · rw [if_neg more, if_neg more]
    omega

theorem back_eq (inside : head < size) :
    back size head age =
      if head + size - 1 - age < size then head + size - 1 - age else head - 1 - age := by
  rw [back, mod_of_lt_two_mul (by omega)]
  by_cases below : head + size - 1 - age < size
  · rw [if_pos below, if_pos below]
  · rw [if_neg below, if_neg below]
    omega

/-- After a store the newest element lies where the position was. -/
theorem back_next_zero (inside : head < size) : back size (next size head) 0 = head := by
  have following := next_lt inside
  rw [back_eq following, next_eq inside]
  split <;> split <;> omega

/-- After a store every older element has aged by one. -/
theorem back_next_succ (inside : head < size) (young : age + 1 < size) :
    back size (next size head) (age + 1) = back size head age := by
  have following := next_lt inside
  rw [back_eq following, back_eq inside, next_eq inside]
  split <;> split <;> split <;> omega

/-- Only a store after a whole turn comes back to a slot. -/
theorem back_ne (inside : head < size) (young : age + 1 < size) : back size head age ≠ head := by
  rw [back_eq inside]
  split <;> omega

/-- Counting forward from the oldest of `count` elements is going back from the
newest. -/
theorem forward_eq_back {count i : Nat} (bound : count ≤ size) (used : i < count) :
    ((head + size - count) % size + i) % size = back size head (count - 1 - i) := by
  rw [Nat.mod_add_mod, back]
  congr 1
  omega

/-! ## Contents -/

/-- The ring contains the newest of `items`, which are all elements stored so far,
oldest first. -/
structure Holds (size : Nat) (slots : List α) (head count : Nat) (items : List α) : Prop where
  /-- The array keeps its size. -/
  slots_length : slots.length = size
  /-- The position is one of the slots. -/
  head_lt : head < size
  /-- As many elements are kept as there is room for. -/
  count_eq : count = min items.length size
  /-- Going back from the position meets the elements, newest first. -/
  slot : ∀ age < count, slots[back size head age]? = items.reverse[age]?

namespace Holds

variable {slots : List α} {count : Nat} {items : List α}

theorem count_le (holds : Holds size slots head count items) : count ≤ size := by
  rw [holds.count_eq]
  exact Nat.min_le_right _ _

theorem count_le_length (holds : Holds size slots head count items) : count ≤ items.length := by
  rw [holds.count_eq]
  exact Nat.min_le_left _ _

/-- A ring is empty when its count is zero, whatever its slots contain. -/
theorem start (slots_length : slots.length = size) (some_slot : 0 < size) :
    Holds size slots 0 0 ([] : List α) where
  slots_length := slots_length
  head_lt := some_slot
  count_eq := by simp
  slot := by
    intro age young
    cases young

/-- A store adds the newest element. -/
theorem store (holds : Holds size slots head count items) (item : α) :
    Holds size (slots.set head item) (next size head)
      (if count < size then count + 1 else count) (items ++ [item]) where
  slots_length := by rw [List.length_set, holds.slots_length]
  head_lt := next_lt holds.head_lt
  count_eq := by
    have kept := holds.count_eq
    rw [List.length_append, List.length_singleton]
    split <;> omega
  slot := by
    have bound := holds.count_le
    have inside : head < slots.length := by
      rw [holds.slots_length]
      exact holds.head_lt
    intro age young
    have older : age = 0 ∨ ∃ before, age = before + 1 ∧ before < count ∧ before + 1 < size := by
      cases age with
      | zero => exact .inl rfl
      | succ before =>
          refine .inr ⟨before, rfl, ?_, ?_⟩
          all_goals
            split at young <;> omega
    rw [List.reverse_append, List.reverse_singleton, List.singleton_append]
    rcases older with rfl | ⟨before, rfl, kept, turn⟩
    · rw [back_next_zero holds.head_lt, List.getElem?_set_self inside, List.getElem?_cons_zero]
    · rw [back_next_succ holds.head_lt turn,
        List.getElem?_set_ne (Ne.symm (back_ne holds.head_lt turn)), List.getElem?_cons_succ]
      exact holds.slot before kept

/-- The `i`-th slot from the oldest one contains the `i`-th of the newest `count`
elements. -/
theorem forward (holds : Holds size slots head count items) {i : Nat} (used : i < count) :
    slots[((head + size - count) % size + i) % size]? =
      (items.drop (items.length - count))[i]? := by
  have kept := holds.count_le_length
  rw [forward_eq_back holds.count_le used, holds.slot _ (by omega),
    List.getElem?_reverse (by omega), List.getElem?_drop]
  congr 1
  omega

end Holds

end Lib.Ring
