import Gxfp.Errno
import Gxfp.Lib.Bytes
import Gxfp.Lib.Ring
import Mathlib.Data.List.TakeWhile

/-!
# The trace ring

Embeds `kernel/driver/gxfp_trace.c`.  The driver keeps the last trace lines in
an array of `GXFP_TRACE_RING_SIZE` strings; `trace_dump` of the debug file system
copies the lines in use, oldest first, and prints them.  An access outside the
array has no result (`none`).

A string stands for the array of characters it is kept in, without the terminator
and what follows it.  `Holds` relates the array to everything pushed since the
last clear; every function of the file keeps it.
-/

namespace Gxfp.Kernel

open Lib
open Lib.Bytes
open Gxfp.Errno

/-! ## Strings -/

/-- The bytes of a text of the source. -/
def textBytes (text : String) : List Byte :=
  text.toList.map (fun char => UInt8.ofNat char.toNat)

/-- The string that starts at the given bytes. -/
def cString (bytes : List Byte) : List Byte :=
  bytes.takeWhile (· ≠ 0)

/-- The string in an array of `size` characters after `strscpy`. -/
def strscpy (size : Nat) (source : List Byte) : List Byte :=
  (cString source).take (size - 1)

/-- The string in an array of `size` characters after `scnprintf` has formatted
`text`. -/
def scnprintf (size : Nat) (text : List Byte) : List Byte :=
  text.take (size - 1)

/-! ## The functions -/

def TRACE_RING_SIZE : Nat := 1024
def TRACE_LINE_MAX : Nat := 192
def TRACE_MSG_MAX : Nat := 128
def TRACE_DEFAULT_ENABLE : Bool := false

/-- The static `gxfp_trace`, less its lock and its directory. -/
structure TraceState where
  inited : Bool
  enabled : Bool
  seq : Nat
  head : Nat
  count : Nat
  lines : List (List Byte)
  deriving DecidableEq, Repr

/-- `gxfp_trace_push_locked`. -/
def tracePushLocked (trace : TraceState) : Option (List Byte) → Option TraceState
  | none => some trace
  | some line =>
      let idx := trace.head
      if idx < trace.lines.length then
        some
          { trace with
            lines := trace.lines.set idx (strscpy TRACE_LINE_MAX line)
            head := (idx + 1) % TRACE_RING_SIZE
            count := if trace.count < TRACE_RING_SIZE then trace.count + 1 else trace.count }
      else
        none

/-- The line of `gxfp_trace_logf`: `"%u %llu %s"`. -/
def traceLine (seq ts : Nat) (msg : List Byte) : List Byte :=
  scnprintf TRACE_LINE_MAX
    (textBytes (toString seq) ++ textBytes " " ++ textBytes (toString ts) ++ textBytes " " ++
      cString msg)

/-- `gxfp_trace_logf` at time `ts`; `fmt` is the text its arguments format to. -/
def traceLogf (trace : TraceState) (fmt : Option (List Byte)) (ts : Nat) : Option TraceState :=
  match fmt with
  | none => some trace
  | some text =>
      if !trace.inited ∨ !trace.enabled then
        some trace
      else
        let msg := scnprintf TRACE_MSG_MAX text
        let seq := (trace.seq + 1) % 2 ^ 32
        tracePushLocked { trace with seq := seq } (some (traceLine seq ts msg))

/-- `gxfp_trace_clear`. -/
def traceClear (trace : TraceState) : TraceState :=
  { trace with head := 0, count := 0 }

/-- The copy loop of `gxfp_trace_dump_show` with `left` rounds to go: what it
appends to the snapshot. -/
def traceSnapshot (trace : TraceState) (start : Nat) : Nat → Nat → Option (List (List Byte))
  | 0, _ => some []
  | left + 1, i =>
      let idx := (start + i) % TRACE_RING_SIZE
      match trace.lines[idx]? with
      | none => none
      | some line =>
          if i < TRACE_RING_SIZE then
            (traceSnapshot trace start left (i + 1)).map (strscpy TRACE_LINE_MAX line :: ·)
          else
            none

/-- The first line of a dump. -/
def traceDumpHeader (enabled : Bool) (count : Nat) : List Byte :=
  textBytes "enabled=" ++ textBytes (if enabled then "1" else "0") ++ textBytes " ring_size=" ++
    textBytes (toString TRACE_RING_SIZE) ++ textBytes " count=" ++ textBytes (toString count) ++
    textBytes "\n"

/-- `gxfp_trace_dump_show`: the texts it prints, in order.  `nomem` is a failing
`kcalloc`. -/
def traceDumpShow (nomem : Bool) (trace : TraceState) : Option (Except Errno (List (List Byte))) :=
  if nomem then
    some (.error ENOMEM)
  else
    let count := trace.count
    let start := (trace.head + TRACE_RING_SIZE + 2 ^ 32 - count) % 2 ^ 32 % TRACE_RING_SIZE
    (traceSnapshot trace start count 0).map fun snapshot =>
      .ok (traceDumpHeader trace.enabled count :: textBytes "# seq ts_ns message\n" ::
        snapshot.map (· ++ textBytes "\n"))

/-- `gxfp_trace_init`, less the files it creates. -/
def traceInit (trace : TraceState) : TraceState :=
  if trace.inited then
    trace
  else
    { inited := true
      enabled := TRACE_DEFAULT_ENABLE
      seq := 0
      head := 0
      count := 0
      lines := List.replicate TRACE_RING_SIZE [] }

/-- `gxfp_trace_exit`, less the files it removes. -/
def traceExit (trace : TraceState) : TraceState :=
  { trace with inited := false }

/-! ## Runs -/

/-- What happens to the ring. -/
inductive TraceCall
  /-- `gxfp_trace_push_locked`. -/
  | push (line : Option (List Byte))
  /-- `gxfp_trace_clear`. -/
  | clear
  deriving DecidableEq, Repr

/-- One call. -/
def traceStep (trace : TraceState) : TraceCall → Option TraceState
  | .push line => tracePushLocked trace line
  | .clear => some (traceClear trace)

/-- A sequence of calls. -/
def traceRun (trace : TraceState) (calls : List TraceCall) : Option TraceState :=
  calls.foldlM traceStep trace

/-- The lines pushed since the last clear, after one more call. -/
def pushedStep (pushed : List (List Byte)) : TraceCall → List (List Byte)
  | .push line => pushed ++ line.toList
  | .clear => []

/-- The lines pushed since the last clear, oldest first. -/
def pushedSinceClear (calls : List TraceCall) : List (List Byte) :=
  calls.foldl pushedStep []

/-- The static storage, before the driver is loaded. -/
def traceZero : TraceState where
  inited := false
  enabled := false
  seq := 0
  head := 0
  count := 0
  lines := List.replicate TRACE_RING_SIZE []

/-! ## Copies of strings -/

/-- A string has no terminator inside, so it is its own string. -/
theorem cString_take_cString (source : List Byte) (size : Nat) :
    cString ((cString source).take size) = (cString source).take size := by
  rw [cString, List.takeWhile_eq_self_iff]
  intro char member
  have kept : char ∈ source.takeWhile (· ≠ 0) := List.mem_of_mem_take member
  have nonzero := List.mem_takeWhile_imp kept
  exact nonzero

/-- Copying a line again into an array of the same size loses nothing. -/
@[simp]
theorem strscpy_strscpy (size : Nat) (source : List Byte) :
    strscpy size (strscpy size source) = strscpy size source := by
  rw [strscpy, strscpy, cString_take_cString, List.take_take, Nat.min_self]

/-! ## The ring -/

/-- The ring contains the newest of the pushed lines. -/
def TraceState.Holds (trace : TraceState) (pushed : List (List Byte)) : Prop :=
  Ring.Holds TRACE_RING_SIZE trace.lines trace.head trace.count
    (pushed.map (strscpy TRACE_LINE_MAX))

theorem traceInit_holds {trace : TraceState} (fresh : trace.inited = false) :
    (traceInit trace).Holds [] := by
  rw [traceInit, fresh]
  exact Ring.Holds.start List.length_replicate (by decide)

/-- A push stores one more line, inside the array. -/
theorem tracePushLocked_holds {trace : TraceState} {pushed : List (List Byte)}
    (holds : trace.Holds pushed) (line : Option (List Byte)) :
    ∃ after, tracePushLocked trace line = some after ∧ after.Holds (pushed ++ line.toList) := by
  cases line with
  | none =>
      rw [Option.toList_none, List.append_nil]
      exact ⟨trace, rfl, holds⟩
  | some line =>
      have inside : trace.head < trace.lines.length := by
        rw [holds.slots_length]
        exact holds.head_lt
      rw [tracePushLocked, if_pos inside]
      refine ⟨_, rfl, ?_⟩
      rw [TraceState.Holds, Option.toList_some, List.map_append, List.map_singleton]
      exact Ring.Holds.store holds (strscpy TRACE_LINE_MAX line)

/-- A clear forgets every line; the old ones stay in the array. -/
theorem traceClear_holds {trace : TraceState} {pushed : List (List Byte)}
    (holds : trace.Holds pushed) : (traceClear trace).Holds [] :=
  Ring.Holds.start holds.slots_length (Nat.zero_lt_of_lt holds.head_lt)

/-- The line a call of `gxfp_trace_logf` pushes. -/
def loggedLine (trace : TraceState) (fmt : Option (List Byte)) (ts : Nat) : Option (List Byte) :=
  if !trace.inited ∨ !trace.enabled then
    none
  else
    fmt.map fun text =>
      traceLine ((trace.seq + 1) % 2 ^ 32) ts (scnprintf TRACE_MSG_MAX text)

/-- A log call pushes its line, or nothing while tracing is off. -/
theorem traceLogf_holds {trace : TraceState} {pushed : List (List Byte)}
    (holds : trace.Holds pushed) (fmt : Option (List Byte)) (ts : Nat) :
    ∃ after, traceLogf trace fmt ts = some after ∧
      after.Holds (pushed ++ (loggedLine trace fmt ts).toList) := by
  by_cases off : !trace.inited ∨ !trace.enabled
  · refine ⟨trace, ?_, ?_⟩
    · cases fmt with
      | none => rfl
      | some text => rw [traceLogf, if_pos off]
    · rw [loggedLine, if_pos off, Option.toList_none, List.append_nil]
      exact holds
  · rw [loggedLine, if_neg off]
    cases fmt with
    | none => exact tracePushLocked_holds holds none
    | some text =>
        rw [traceLogf, if_neg off]
        have numbered : { trace with seq := (trace.seq + 1) % 2 ^ 32 }.Holds pushed := holds
        exact tracePushLocked_holds numbered _

theorem traceStep_holds {trace : TraceState} {pushed : List (List Byte)}
    (holds : trace.Holds pushed) (call : TraceCall) :
    ∃ after, traceStep trace call = some after ∧ after.Holds (pushedStep pushed call) := by
  cases call with
  | push line => exact tracePushLocked_holds holds line
  | clear => exact ⟨traceClear trace, rfl, traceClear_holds holds⟩

theorem traceRun_holds {trace : TraceState} {pushed : List (List Byte)}
    (holds : trace.Holds pushed) (calls : List TraceCall) :
    ∃ after, traceRun trace calls = some after ∧ after.Holds (calls.foldl pushedStep pushed) := by
  induction calls generalizing trace pushed with
  | nil => exact ⟨trace, rfl, holds⟩
  | cons call calls ih =>
      obtain ⟨middle, stepped, middleHolds⟩ := traceStep_holds holds call
      obtain ⟨after, ran, afterHolds⟩ := ih middleHolds
      refine ⟨after, ?_, afterHolds⟩
      rw [traceRun, List.foldlM_cons, stepped]
      exact ran

/-! ## The dump -/

/-- The copy loop reads inside the array and copies the newest lines, oldest
first. -/
theorem traceSnapshot_eq {trace : TraceState} {pushed : List (List Byte)}
    (holds : trace.Holds pushed) (left i : Nat) (rounds : i + left = trace.count) :
    traceSnapshot trace ((trace.head + TRACE_RING_SIZE - trace.count) % TRACE_RING_SIZE) left i =
      some ((pushed.drop (pushed.length - trace.count + i)).map (strscpy TRACE_LINE_MAX)) := by
  have kept := holds.count_le_length
  have bound := holds.count_le
  rw [List.length_map] at kept
  induction left generalizing i with
  | zero =>
      rw [traceSnapshot, List.drop_eq_nil_of_le (by omega), List.map_nil]
  | succ left ih =>
      have inside : pushed.length - trace.count + i < pushed.length := by omega
      have slot := Ring.Holds.forward holds (show i < trace.count by omega)
      rw [List.length_map, List.getElem?_drop, List.getElem?_map,
        List.getElem?_eq_getElem inside, Option.map_some] at slot
      rw [traceSnapshot, slot]
      dsimp only
      rw [if_pos (by omega), ih (i + 1) (by omega), Option.map_some, strscpy_strscpy,
        List.drop_eq_getElem_cons inside, List.map_cons]
      rfl

theorem traceDumpShow_holds {trace : TraceState} {pushed : List (List Byte)}
    (holds : trace.Holds pushed) :
    traceDumpShow false trace =
      some (.ok (traceDumpHeader trace.enabled (min pushed.length TRACE_RING_SIZE) ::
        textBytes "# seq ts_ns message\n" ::
          (pushed.drop (pushed.length - min pushed.length TRACE_RING_SIZE)).map
            (strscpy TRACE_LINE_MAX · ++ textBytes "\n"))) := by
  have count_eq : trace.count = min pushed.length TRACE_RING_SIZE := by
    rw [holds.count_eq, List.length_map]
  have bound := holds.count_le
  have inside := holds.head_lt
  -- The subtraction in `u32` does not wrap, because the count fits in the ring.
  have start :
      (trace.head + TRACE_RING_SIZE + 2 ^ 32 - trace.count) % 2 ^ 32 % TRACE_RING_SIZE =
        (trace.head + TRACE_RING_SIZE - trace.count) % TRACE_RING_SIZE := by
    unfold TRACE_RING_SIZE at bound inside ⊢
    omega
  rw [traceDumpShow, if_neg Bool.false_ne_true]
  dsimp only
  rw [start, traceSnapshot_eq holds trace.count 0 (Nat.zero_add _), Option.map_some,
    List.map_map, Nat.add_zero, count_eq]
  rfl

/-- After any sequence of pushes and clears the ring's indices are in range and
the dump prints the newest lines pushed since the last clear, oldest first: as
many as there are, at most `TRACE_RING_SIZE`, each cut to the size of a line. -/
theorem traceDumpShow_run (calls : List TraceCall) :
    ∃ trace, traceRun (traceInit traceZero) calls = some trace ∧
      trace.head < TRACE_RING_SIZE ∧ trace.count ≤ TRACE_RING_SIZE ∧
      traceDumpShow false trace =
        some (.ok
          (traceDumpHeader trace.enabled
              (min (pushedSinceClear calls).length TRACE_RING_SIZE) ::
            textBytes "# seq ts_ns message\n" ::
            ((pushedSinceClear calls).drop
              ((pushedSinceClear calls).length -
                min (pushedSinceClear calls).length TRACE_RING_SIZE)).map
              (strscpy TRACE_LINE_MAX · ++ textBytes "\n"))) := by
  have started : (traceInit traceZero).Holds [] := traceInit_holds rfl
  obtain ⟨trace, ran, holds⟩ := traceRun_holds started calls
  exact ⟨trace, ran, holds.head_lt, holds.count_le, traceDumpShow_holds holds⟩

end Gxfp.Kernel
