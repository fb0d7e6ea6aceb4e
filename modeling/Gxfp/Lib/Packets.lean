import Gxfp.Lib.Execution
import Mathlib.Data.List.Basic

/-!
# Packets that arrive in windows

A sender cuts every packet into windows of one size and fills up the last one.
The first window of a packet announces its length.  An assembler collects windows
until it has that many bytes.

`assemble_presented` is the round trip: whatever the last windows are filled up
with, the assembler gives back the packets that were sent, and is then ready for
the next one.
-/

namespace Lib.Packets

open Lib.Execution

variable {α : Type*} (announced : List α → Option Nat)

/-- An assembler between two windows: the length of the packet it is in and the
bytes it has. -/
abbrev Assembler (α : Type*) := Option (Nat × List α)

/-- The bytes of a packet that are there, all or some. -/
def gather (total : Nat) (bytes : List α) : Assembler α × List (List α) :=
  if bytes.length < total then (some (total, bytes), []) else (none, [bytes.take total])

/-- One window: the packet that it completes, if any. -/
def assemble : Assembler α → List α → Assembler α × List (List α)
  | none, window =>
      match announced window with
      | none => (none, [])
      | some total => gather total window
  | some (total, sofar), window => gather total (sofar ++ window)

/-- The windows of a packet: the first one announces its length, all have one
size, and together they begin with the packet and end with its last byte. -/
structure Presents (size : Nat) (packet : List α) (windows : List (List α)) : Prop where
  announces : ∃ first rest, windows = first :: rest ∧ announced first = some packet.length
  sized : ∀ window ∈ windows, window.length = size
  begins : windows.flatten.take packet.length = packet
  whole : packet.length ≤ windows.length * size
  ends : (windows.length - 1) * size < packet.length

/-- The windows of several packets, one after the other. -/
def PresentsAll (size : Nat) (packets : List (List α)) (presented : List (List (List α))) : Prop :=
  List.Forall₂ (Presents announced size) packets presented

variable {announced}

variable (announced) in
/-- Bytes of a packet and the windows that complete it give back the packet. -/
theorem gather_run {size total : Nat} {bytes : List α} {rest : List (List α)}
    (sized : ∀ window ∈ rest, window.length = size)
    (whole : total ≤ bytes.length + rest.length * size)
    (ends : rest ≠ [] → bytes.length + (rest.length - 1) * size < total) :
    (gather total bytes).2 ++ events (assemble announced) (gather total bytes).1 rest =
        [(bytes ++ rest.flatten).take total] ∧
      final (assemble announced) (gather total bytes).1 rest = none := by
  induction rest generalizing bytes with
  | nil =>
      have enough : ¬ bytes.length < total := by simpa using whole
      rw [gather, if_neg enough]
      simp
  | cons window rest ih =>
      have windowSize := sized window List.mem_cons_self
      have longer : (bytes ++ window).length = bytes.length + size := by
        rw [List.length_append, windowSize]
      have further := ends (List.cons_ne_nil _ _)
      rw [List.length_cons, Nat.succ_mul] at whole
      rw [List.length_cons, Nat.add_sub_cancel] at further
      have missing : bytes.length < total := Nat.lt_of_le_of_lt (Nat.le_add_right _ _) further
      have restWhole : total ≤ (bytes ++ window).length + rest.length * size := by
        rw [longer]
        omega
      have restEnds : rest ≠ [] → (bytes ++ window).length + (rest.length - 1) * size < total := by
        intro nonempty
        obtain ⟨count, isCount⟩ := Nat.exists_eq_succ_of_ne_zero
          (Nat.ne_of_gt (List.length_pos_iff.mpr nonempty))
        rw [isCount, Nat.succ_mul] at further
        rw [longer, isCount, Nat.succ_sub_one]
        omega
      have next := ih (fun other member => sized other (List.mem_cons_of_mem _ member)) restWhole
        restEnds
      rw [gather, if_pos missing]
      dsimp only
      rw [events_cons, final_cons, List.nil_append, List.flatten_cons, ← List.append_assoc]
      exact next

/-- The windows of one packet give back the packet. -/
theorem assemble_presents {size : Nat} {packet : List α} {windows : List (List α)}
    (presents : Presents announced size packet windows) :
    events (assemble announced) none windows = [packet] ∧
      final (assemble announced) none windows = none := by
  obtain ⟨⟨first, rest, rfl, announces⟩, sized, begins, whole, ends⟩ := presents
  have firstSize := sized first List.mem_cons_self
  have starts : assemble announced none first = gather packet.length first := by
    simp only [assemble, announces]
  rw [List.length_cons, Nat.succ_mul] at whole
  rw [List.length_cons, Nat.add_sub_cancel] at ends
  have restEnds : rest ≠ [] → first.length + (rest.length - 1) * size < packet.length := by
    intro nonempty
    obtain ⟨count, isCount⟩ := Nat.exists_eq_succ_of_ne_zero
      (Nat.ne_of_gt (List.length_pos_iff.mpr nonempty))
    rw [isCount, Nat.succ_mul] at ends
    rw [firstSize, isCount, Nat.succ_sub_one]
    omega
  have restWhole : packet.length ≤ first.length + rest.length * size := by
    rw [firstSize]
    omega
  obtain ⟨emitted, ended⟩ := gather_run announced
    (fun other member => sized other (List.mem_cons_of_mem _ member)) restWhole restEnds
  rw [events_cons, final_cons, starts]
  refine ⟨?_, ended⟩
  rw [emitted, ← List.flatten_cons, begins]

/-- A sender's packets come out as they were sent, whatever fills up their last
windows. -/
theorem assemble_presented {size : Nat} {packets : List (List α)}
    {presented : List (List (List α))} (presents : PresentsAll announced size packets presented) :
    events (assemble announced) none presented.flatten = packets ∧
      final (assemble announced) none presented.flatten = none := by
  induction presents with
  | nil => exact ⟨rfl, rfl⟩
  | cons one others ih =>
      obtain ⟨emitted, ready⟩ := assemble_presents one
      rw [List.flatten_cons, events_append, final_append, emitted, ready]
      exact ⟨congrArg _ ih.1, ih.2⟩

end Lib.Packets
