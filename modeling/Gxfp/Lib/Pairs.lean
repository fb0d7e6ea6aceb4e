import Mathlib.Algebra.BigOperators.Fin
import Mathlib.Data.List.Perm.Basic
import Mathlib.Data.Nat.Choose.Basic

/-!
# Loops over the pairs of a list

Two nested loops, the inner one starting behind the outer one, visit every
unordered pair of positions once, in an order that depends on the list.  `pairMap`
collects what a partial function gives on the pairs, `pairCount` counts the pairs
that a test accepts.

Where the function or the test does not look at the order of its two arguments,
the order of the list does not matter either.
-/

namespace Lib.Pairs

open List

variable {α β γ : Type*}

/-- What `f` gives on the pairs of a list, in the order of the loops. -/
def pairMap (f : α → α → Option β) : List α → List β
  | [] => []
  | first :: rest => rest.filterMap (f first) ++ pairMap f rest

/-- The number of pairs of a list that a test accepts. -/
def pairCount (test : α → α → Bool) : List α → Nat
  | [] => 0
  | first :: rest => rest.countP (test first) + pairCount test rest

@[simp]
theorem pairMap_nil (f : α → α → Option β) : pairMap f [] = [] :=
  rfl

@[simp]
theorem pairMap_cons (f : α → α → Option β) (first : α) (rest : List α) :
    pairMap f (first :: rest) = rest.filterMap (f first) ++ pairMap f rest :=
  rfl

@[simp]
theorem pairCount_nil (test : α → α → Bool) : pairCount test [] = 0 :=
  rfl

@[simp]
theorem pairCount_cons (test : α → α → Bool) (first : α) (rest : List α) :
    pairCount test (first :: rest) = rest.countP (test first) + pairCount test rest :=
  rfl

/-! ## The order of the list -/

theorem pairMap_map (f : α → α → Option β) (g : γ → α) (items : List γ) :
    pairMap f (items.map g) = pairMap (fun x y => f (g x) (g y)) items := by
  induction items with
  | nil => rfl
  | cons first rest ih =>
      rw [List.map_cons, pairMap_cons, pairMap_cons, List.filterMap_map, ih]
      rfl

/-- A function that does not look at the order of its arguments gives the same
values on every order of the list. -/
theorem pairMap_perm {f : α → α → Option β} (comm : ∀ x y, f x y = f y x) {items others : List α}
    (perm : items ~ others) : pairMap f items ~ pairMap f others := by
  induction perm with
  | nil => exact .refl _
  | cons first perm ih =>
      rw [pairMap_cons, pairMap_cons]
      exact (perm.filterMap (f first)).append ih
  | swap first second rest =>
      rw [pairMap_cons, pairMap_cons, pairMap_cons, pairMap_cons, List.filterMap_cons,
        List.filterMap_cons, comm second first]
      cases f first second with
      | none =>
          dsimp only
          rw [← List.append_assoc, ← List.append_assoc]
          exact List.perm_append_comm.append_right _
      | some value =>
          dsimp only
          rw [List.cons_append, List.cons_append, ← List.append_assoc, ← List.append_assoc]
          exact (List.perm_append_comm.append_right _).cons _
  | trans _ _ ih₁ ih₂ => exact ih₁.trans ih₂

/-- A test that does not look at the order of its arguments accepts as many pairs
of every order of the list. -/
theorem pairCount_perm {test : α → α → Bool} (comm : ∀ x y, test x y = test y x)
    {items others : List α} (perm : items ~ others) :
    pairCount test items = pairCount test others := by
  induction perm with
  | nil => rfl
  | cons first perm ih => rw [pairCount_cons, pairCount_cons, perm.countP_eq, ih]
  | swap first second rest =>
      simp only [pairCount_cons, List.countP_cons, comm second first]
      omega
  | trans _ _ ih₁ ih₂ => exact ih₁.trans ih₂

/-! ## How many pairs there are -/

theorem choose_two_succ (n : Nat) : (n + 1).choose 2 = n + n.choose 2 := by
  rw [Nat.choose_succ_succ', Nat.choose_one_right]

theorem length_pairMap_le (f : α → α → Option β) (items : List α) :
    (pairMap f items).length ≤ items.length.choose 2 := by
  induction items with
  | nil => exact Nat.zero_le _
  | cons first rest ih =>
      have inner := List.length_filterMap_le (f first) rest
      rw [pairMap_cons, List.length_append, List.length_cons, choose_two_succ]
      omega

theorem pairCount_le (test : α → α → Bool) (items : List α) :
    pairCount test items ≤ items.length.choose 2 := by
  induction items with
  | nil => exact Nat.zero_le _
  | cons first rest ih =>
      have inner := @List.countP_le_length _ (test first) rest
      rw [pairCount_cons, List.length_cons, choose_two_succ]
      omega

theorem mem_pairMap {f : α → α → Option β} {items : List α} {value : β}
    (member : value ∈ pairMap f items) : ∃ x ∈ items, ∃ y ∈ items, f x y = some value := by
  induction items with
  | nil => cases member
  | cons first rest ih =>
      rcases List.mem_append.mp member with inner | later
      · obtain ⟨y, yMem, given⟩ := List.mem_filterMap.mp inner
        exact ⟨first, List.mem_cons_self, y, List.mem_cons_of_mem _ yMem, given⟩
      · obtain ⟨x, xMem, y, yMem, given⟩ := ih later
        exact ⟨x, List.mem_cons_of_mem _ xMem, y, List.mem_cons_of_mem _ yMem, given⟩

/-- A function that is defined on all pairs gives as many values. -/
theorem length_pairMap {f : α → α → Option β} {items : List α}
    (defined : ∀ x ∈ items, ∀ y ∈ items, (f x y).isSome = true) :
    (pairMap f items).length = items.length.choose 2 := by
  induction items with
  | nil => rfl
  | cons first rest ih =>
      have inner : (rest.filterMap (f first)).length = rest.length := by
        rw [List.filterMap_length_eq_length]
        intro y yMem
        exact defined first List.mem_cons_self y (List.mem_cons_of_mem _ yMem)
      have later := ih fun x xMem y yMem =>
        defined x (List.mem_cons_of_mem _ xMem) y (List.mem_cons_of_mem _ yMem)
      rw [pairMap_cons, List.length_append, inner, later, List.length_cons, choose_two_succ]

/-- A test that accepts all pairs counts them all. -/
theorem pairCount_eq {test : α → α → Bool} {items : List α}
    (accepts : ∀ x ∈ items, ∀ y ∈ items, test x y = true) :
    pairCount test items = items.length.choose 2 := by
  induction items with
  | nil => rfl
  | cons first rest ih =>
      have inner : rest.countP (test first) = rest.length := by
        rw [List.countP_eq_length]
        intro y yMem
        exact accepts first List.mem_cons_self y (List.mem_cons_of_mem _ yMem)
      have later := ih fun x xMem y yMem =>
        accepts x (List.mem_cons_of_mem _ xMem) y (List.mem_cons_of_mem _ yMem)
      rw [pairCount_cons, inner, later, List.length_cons, choose_two_succ]

/-! ## Pairs of positions -/

/-- The unordered pairs of positions of a list whose elements a test accepts. -/
def pairs (test : α → α → Bool) (items : List α) : Finset (Fin items.length × Fin items.length) :=
  Finset.univ.filter fun pair =>
    pair.1 < pair.2 ∧ test (items.get pair.1) (items.get pair.2) = true

theorem countP_eq_sum (test : α → Bool) (items : List α) :
    items.countP test = ∑ i : Fin items.length, if test (items.get i) = true then 1 else 0 := by
  induction items with
  | nil => rfl
  | cons first rest ih =>
      simp only [List.length_cons]
      rw [List.countP_cons, ih, Fin.sum_univ_succ, Nat.add_comm]
      rfl

/-- The loops count the unordered pairs of positions that are accepted. -/
theorem card_pairs (test : α → α → Bool) (items : List α) :
    (pairs test items).card = pairCount test items := by
  have asSum : (pairs test items).card = ∑ i : Fin items.length, ∑ j : Fin items.length,
      if i < j ∧ test (items.get i) (items.get j) = true then 1 else 0 := by
    rw [pairs, Finset.card_filter, Fintype.sum_prod_type]
  rw [asSum]
  clear asSum
  induction items with
  | nil => rfl
  | cons first rest ih =>
      simp only [List.length_cons]
      rw [pairCount_cons, countP_eq_sum, ← ih, Fin.sum_univ_succ]
      congr 1
      · rw [Fin.sum_univ_succ]
        simp
      · refine Finset.sum_congr rfl fun i _ => ?_
        rw [Fin.sum_univ_succ]
        simp [Fin.succ_lt_succ_iff]

end Lib.Pairs
