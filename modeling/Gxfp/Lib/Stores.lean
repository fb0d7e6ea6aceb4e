import Mathlib.Data.List.Nodup

/-!
# Stores into a buffer

A run of a program that fills a buffer is a list of stores, each with its index
and its value.  What the buffer holds afterwards is read off the list: an index
that no store names keeps its value, and where no two stores share an index
every store is found again.
-/

namespace Lib.Stores

variable {α : Type*}

/-- The buffer after a list of stores, first one first. -/
def stores (buffer : List α) (writes : List (Nat × α)) : List α :=
  writes.foldl (fun buffer write => buffer.set write.1 write.2) buffer

@[simp]
theorem stores_nil (buffer : List α) : stores buffer [] = buffer :=
  rfl

@[simp]
theorem stores_cons (buffer : List α) (write : Nat × α) (writes : List (Nat × α)) :
    stores buffer (write :: writes) = stores (buffer.set write.1 write.2) writes :=
  rfl

theorem stores_append (buffer : List α) (first second : List (Nat × α)) :
    stores buffer (first ++ second) = stores (stores buffer first) second :=
  List.foldl_append

@[simp]
theorem length_stores (buffer : List α) (writes : List (Nat × α)) :
    (stores buffer writes).length = buffer.length := by
  induction writes generalizing buffer with
  | nil => rfl
  | cons write writes ih => rw [stores_cons, ih, List.length_set]

/-- Every element was there before or was stored. -/
theorem mem_stores {buffer : List α} {writes : List (Nat × α)} {value : α}
    (member : value ∈ stores buffer writes) :
    value ∈ buffer ∨ ∃ write ∈ writes, write.2 = value := by
  induction writes generalizing buffer with
  | nil => exact .inl member
  | cons write writes ih =>
      rw [stores_cons] at member
      rcases ih member with before | ⟨later, laterMem, rfl⟩
      · rcases List.mem_or_eq_of_mem_set before with kept | rfl
        · exact .inl kept
        · exact .inr ⟨write, List.mem_cons_self, rfl⟩
      · exact .inr ⟨later, List.mem_cons_of_mem _ laterMem, rfl⟩

/-- An index that no store names keeps its value. -/
theorem getElem?_stores_of_notMem {buffer : List α} {writes : List (Nat × α)} {index : Nat}
    (absent : index ∉ writes.map Prod.fst) :
    (stores buffer writes)[index]? = buffer[index]? := by
  induction writes generalizing buffer with
  | nil => rfl
  | cons write writes ih =>
      rw [List.map_cons, List.mem_cons, not_or] at absent
      rw [stores_cons, ih absent.2, List.getElem?_set_ne (Ne.symm absent.1)]

/-- Where no two stores share an index, every store is found again. -/
theorem getElem?_stores_of_mem {buffer : List α} {writes : List (Nat × α)} {write : Nat × α}
    (distinct : (writes.map Prod.fst).Nodup) (member : write ∈ writes)
    (inside : write.1 < buffer.length) :
    (stores buffer writes)[write.1]? = some write.2 := by
  induction writes generalizing buffer with
  | nil => cases member
  | cons first writes ih =>
      rw [List.map_cons, List.nodup_cons] at distinct
      rw [stores_cons]
      rcases List.mem_cons.mp member with rfl | later
      · rw [getElem?_stores_of_notMem distinct.1, List.getElem?_set_self inside]
      · apply ih distinct.2 later
        rw [List.length_set]
        exact inside

end Lib.Stores
