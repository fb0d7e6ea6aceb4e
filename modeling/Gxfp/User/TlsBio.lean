import Gxfp.Errno
import Gxfp.Lib.Block
import Gxfp.Lib.Execution

/-!
# The receive buffer of the TLS engine

Embeds the receiving half of `src/tls/tls_engine_mbedtls.c`: the service feeds
cipher records into a buffer of fixed size, and the TLS library takes bytes off
its front through `bio_recv`, as many as it asks for at a time.

The pointers of the calls are not null.  A record is an object in memory, so it
is shorter than half the address space.
-/

namespace Gxfp.User

open Lib
open Lib.Bytes
open Lib.Execution
open Gxfp.Errno

/-! ## The functions -/

def MBEDTLS_ERR_SSL_BAD_INPUT_DATA : Int := -0x7100
def MBEDTLS_ERR_SSL_INTERNAL_ERROR : Int := -0x6C00
def MBEDTLS_ERR_SSL_WANT_READ : Int := -0x6900
def MBEDTLS_ERR_SSL_WANT_WRITE : Int := -0x6880

/-- The conversion of a `size_t` to `int`. -/
def intOfSizeT (n : Nat) : Int :=
  (n : Int).bmod (2 ^ 32)

/-- The bytes of an object in memory. -/
abbrev Object : Type :=
  { bytes : List Byte // bytes.length < 2 ^ 63 }

/-- The receive buffer in `struct gxfp_tls_engine`. -/
structure EngineRxq where
  rxq : List Byte
  rxqCap : Nat
  rxqLen : Nat
  deriving DecidableEq, Repr

/-- `rxq_push`. -/
def rxqPush (e : EngineRxq) (data : List Byte) : Int × EngineRxq :=
  if (e.rxqLen + data.length) % 2 ^ 64 > e.rxqCap then
    (ENOSPC.rc, e)
  else
    (0,
      { e with
        rxq := memcpyAt e.rxq e.rxqLen data
        rxqLen := (e.rxqLen + data.length) % 2 ^ 64 })

/-- What a call that takes bytes off the buffer returns, writes and leaves. -/
structure Popped where
  rc : Int
  out : List Byte
  engine : EngineRxq
  deriving DecidableEq, Repr

/-- `rxq_pop`. -/
def rxqPop (e : EngineRxq) (outCap : Nat) : Popped :=
  if outCap = 0 then
    ⟨EINVAL.rc, [], e⟩
  else if e.rxqLen = 0 then
    ⟨0, [], e⟩
  else
    let n := if outCap < e.rxqLen then outCap else e.rxqLen
    let out := e.rxq.take n
    let rxq :=
      if n < e.rxqLen then
        memcpyAt e.rxq 0 ((e.rxq.drop n).take (e.rxqLen - n))
      else
        e.rxq
    ⟨intOfSizeT n, out, { e with rxq := rxq, rxqLen := e.rxqLen - n }⟩

/-- `bio_recv`. -/
def bioRecv (e : EngineRxq) (len : Nat) : Popped :=
  if len = 0 then
    ⟨MBEDTLS_ERR_SSL_BAD_INPUT_DATA, [], e⟩
  else
    let popped := rxqPop e len
    if popped.rc > 0 then
      popped
    else if popped.rc < 0 then
      { popped with rc := MBEDTLS_ERR_SSL_INTERNAL_ERROR }
    else
      { popped with rc := MBEDTLS_ERR_SSL_WANT_READ }

/-- `gxfp_tls_engine_feed_cipher_record`. -/
def feedCipherRecord (e : EngineRxq) (record : List Byte) : Int × EngineRxq :=
  if record.length = 0 then (EINVAL.rc, e) else rxqPush e record

/-- The size `gxfp_tls_engine_create` gives the buffer. -/
def ENGINE_RXQ_CAP : Nat := 256 * 1024

/-- The buffer after `gxfp_tls_engine_create`; `stale` is what the allocated
memory held before. -/
def engineCreate (stale : Nat → Byte) : EngineRxq where
  rxq := Block.fresh stale ENGINE_RXQ_CAP
  rxqCap := ENGINE_RXQ_CAP
  rxqLen := 0

/-! ## Runs -/

/-- A call that reaches the buffer. -/
inductive RxqCall
  | feed (record : Object)
  | recv (len : Nat)

/-- What a call returns and writes to its caller. -/
structure RxqOutput where
  rc : Int
  out : List Byte
  deriving DecidableEq, Repr

/-- One call. -/
def rxqStep (e : EngineRxq) : RxqCall → EngineRxq × RxqOutput
  | .feed record =>
      let fed := feedCipherRecord e record.1
      (fed.2, ⟨fed.1, []⟩)
  | .recv len =>
      let popped := bioRecv e len
      (popped.engine, ⟨popped.rc, popped.out⟩)

/-- An executed call. -/
abbrev RxqTransition : Type :=
  Transition EngineRxq RxqCall RxqOutput

/-- The bytes a call fed: those of a record that was accepted. -/
def fedBytes (call : RxqTransition) : List Byte :=
  match call.input with
  | .feed record => if call.output.rc = 0 then record.1 else []
  | .recv _ => []

/-- The bytes a call returned to the TLS library: as many as its result says. -/
def returnedBytes (call : RxqTransition) : List Byte :=
  match call.input with
  | .feed _ => []
  | .recv _ => call.output.out.take call.output.rc.toNat

/-- What the buffer contains. -/
def EngineRxq.contents (e : EngineRxq) : List Byte :=
  e.rxq.take e.rxqLen

/-! ## One call -/

/-- The buffer has its size and is not overfull. -/
structure EngineRxq.Bounded (e : EngineRxq) : Prop where
  cap_eq : e.rxqCap = ENGINE_RXQ_CAP
  rxq_length : e.rxq.length = e.rxqCap
  rxqLen_le : e.rxqLen ≤ e.rxqCap

theorem engineCreate_bounded (stale : Nat → Byte) : (engineCreate stale).Bounded where
  cap_eq := rfl
  rxq_length := by
    dsimp only [engineCreate]
    rw [Block.fresh_length]
  rxqLen_le := Nat.zero_le _

section Calls

variable {e : EngineRxq}

theorem EngineRxq.Bounded.contents_length (bounded : e.Bounded) :
    e.contents.length = e.rxqLen := by
  rw [EngineRxq.contents, List.length_take, bounded.rxq_length]
  exact Nat.min_eq_left bounded.rxqLen_le

/-- A number of bytes in the buffer is an `int`. -/
theorem intOfSizeT_of_le {n : Nat} (fits : n ≤ ENGINE_RXQ_CAP) : intOfSizeT n = n := by
  unfold ENGINE_RXQ_CAP at fits
  unfold intOfSizeT
  rw [Int.bmod_def]
  omega

/-- A record that does not fit is refused; the sum of two lengths in memory does
not wrap. -/
theorem rxqPush_refused (bounded : e.Bounded) (data : Object)
    (more : ENGINE_RXQ_CAP < e.rxqLen + data.1.length) : rxqPush e data.1 = (ENOSPC.rc, e) := by
  have short := data.2
  have full := bounded.rxqLen_le
  have cap := bounded.cap_eq
  unfold ENGINE_RXQ_CAP at cap more
  rw [rxqPush, if_pos]
  rw [Nat.mod_eq_of_lt (by omega)]
  omega

/-- A record that fits is appended. -/
theorem rxqPush_accepted (bounded : e.Bounded) {data : List Byte}
    (fits : e.rxqLen + data.length ≤ ENGINE_RXQ_CAP) :
    (rxqPush e data).1 = 0 ∧ (rxqPush e data).2.Bounded ∧
      (rxqPush e data).2.contents = e.contents ++ data := by
  have cap := bounded.cap_eq
  have inside : e.rxqLen + data.length ≤ e.rxq.length := by
    rw [bounded.rxq_length, cap]
    exact fits
  have small : (e.rxqLen + data.length) % 2 ^ 64 = e.rxqLen + data.length := by
    unfold ENGINE_RXQ_CAP at fits
    exact Nat.mod_eq_of_lt (by omega)
  have accepted : ¬ e.rxqLen + data.length > e.rxqCap := by
    rw [cap]
    exact Nat.not_lt.mpr fits
  rw [rxqPush, small, if_neg accepted]
  refine ⟨rfl, ⟨cap, ?_, ?_⟩, ?_⟩
  · exact (memcpyAt_length inside).trans bounded.rxq_length
  · exact Nat.le_of_not_lt accepted
  · exact take_memcpyAt (Nat.le_trans (Nat.le_add_right _ _) inside)

/-- The moved bytes are the contents after the first `n`. -/
theorem take_memmove (bounded : e.Bounded) {n : Nat} :
    (memcpyAt e.rxq 0 ((e.rxq.drop n).take (e.rxqLen - n))).take (e.rxqLen - n) =
      e.contents.drop n := by
  have full := bounded.rxqLen_le
  have size := bounded.rxq_length
  have moved : ((e.rxq.drop n).take (e.rxqLen - n)).length = e.rxqLen - n := by
    rw [List.length_take, List.length_drop]
    omega
  have front := @take_memcpyAt _ e.rxq ((e.rxq.drop n).take (e.rxqLen - n)) 0 (Nat.zero_le _)
  rw [moved, Nat.zero_add, List.take_zero, List.nil_append] at front
  rw [front, EngineRxq.contents, List.drop_take]

/-- A request takes that many bytes off the front, or all there are. -/
theorem rxqPop_eq (bounded : e.Bounded) {outCap : Nat} (asked : outCap ≠ 0)
    (filled : e.rxqLen ≠ 0) :
    (rxqPop e outCap).rc = (min outCap e.rxqLen : Nat) ∧
      (rxqPop e outCap).out = e.contents.take (min outCap e.rxqLen) ∧
      (rxqPop e outCap).engine.Bounded ∧
      (rxqPop e outCap).engine.contents = e.contents.drop (min outCap e.rxqLen) := by
  have full := bounded.rxqLen_le
  have cap := bounded.cap_eq
  have size := bounded.rxq_length
  have taken : (if outCap < e.rxqLen then outCap else e.rxqLen) = min outCap e.rxqLen := by
    split <;> omega
  have converted : intOfSizeT (min outCap e.rxqLen) = (min outCap e.rxqLen : Nat) := by
    apply intOfSizeT_of_le
    rw [← cap]
    exact Nat.le_trans (Nat.min_le_right _ _) full
  rw [rxqPop, if_neg asked, if_neg filled]
  dsimp only
  rw [taken, converted]
  refine ⟨rfl, ?_, ⟨cap, ?_, ?_⟩, ?_⟩
  · rw [EngineRxq.contents, List.take_take, Nat.min_assoc, Nat.min_self]
  · split
    · refine (memcpyAt_length ?_).trans size
      rw [List.length_take, List.length_drop]
      omega
    · exact size
  · exact Nat.le_trans (Nat.sub_le _ _) full
  · rw [EngineRxq.contents]
    dsimp only
    split
    · exact take_memmove bounded
    · rename_i all
      have none : e.rxqLen - min outCap e.rxqLen = 0 := by omega
      rw [none, List.take_zero, List.drop_eq_nil_of_le]
      rw [bounded.contents_length]
      omega

end Calls

/-! ## A run -/

/-- What a feed does: it is refused without a trace, or appended. -/
theorem feedCipherRecord_cases {e : EngineRxq} (bounded : e.Bounded) (record : Object) :
    (feedCipherRecord e record.1).1 ≠ 0 ∧ (feedCipherRecord e record.1).2 = e ∨
      (feedCipherRecord e record.1).1 = 0 ∧ (feedCipherRecord e record.1).2.Bounded ∧
        (feedCipherRecord e record.1).2.contents = e.contents ++ record.1 := by
  unfold feedCipherRecord
  by_cases empty : record.1.length = 0
  · rw [if_pos empty]
    exact .inl ⟨(rc_neg EINVAL).ne, rfl⟩
  · rw [if_neg empty]
    by_cases fits : e.rxqLen + record.1.length ≤ ENGINE_RXQ_CAP
    · exact .inr (rxqPush_accepted bounded fits)
    · rw [rxqPush_refused bounded record (Nat.lt_of_not_le fits)]
      exact .inl ⟨(rc_neg ENOSPC).ne, rfl⟩

/-- What a request does: it is refused for its size, finds the buffer empty, or
takes bytes off the front. -/
theorem bioRecv_cases {e : EngineRxq} (bounded : e.Bounded) (len : Nat) :
    (len = 0 ∧ bioRecv e len = ⟨MBEDTLS_ERR_SSL_BAD_INPUT_DATA, [], e⟩) ∨
      (len ≠ 0 ∧ e.rxqLen = 0 ∧ bioRecv e len = ⟨MBEDTLS_ERR_SSL_WANT_READ, [], e⟩) ∨
      (len ≠ 0 ∧ e.rxqLen ≠ 0 ∧ (bioRecv e len).rc = (min len e.rxqLen : Nat) ∧
        (bioRecv e len).out = e.contents.take (min len e.rxqLen) ∧
        (bioRecv e len).engine.Bounded ∧
        (bioRecv e len).engine.contents = e.contents.drop (min len e.rxqLen)) := by
  unfold bioRecv
  by_cases nothing : len = 0
  · rw [if_pos nothing]
    exact .inl ⟨nothing, rfl⟩
  · rw [if_neg nothing]
    right
    by_cases empty : e.rxqLen = 0
    · have popped : rxqPop e len = ⟨0, [], e⟩ := by
        rw [rxqPop, if_neg nothing, if_pos empty]
      rw [popped]
      exact .inl ⟨nothing, empty, rfl⟩
    · have popped := rxqPop_eq bounded nothing empty
      have positive : (rxqPop e len).rc > 0 := by
        rw [popped.1]
        omega
      dsimp only
      rw [if_pos positive]
      exact .inr ⟨nothing, empty, popped⟩

theorem rxqStep_bounded {e : EngineRxq} (bounded : e.Bounded) (call : RxqCall) :
    (rxqStep e call).1.Bounded := by
  cases call with
  | feed record =>
      rcases feedCipherRecord_cases bounded record with ⟨_, kept⟩ | ⟨_, after, _⟩
      · change (feedCipherRecord e record.1).2.Bounded
        rw [kept]
        exact bounded
      · exact after
  | recv len =>
      change (bioRecv e len).engine.Bounded
      rcases bioRecv_cases bounded len with ⟨_, kept⟩ | ⟨_, _, kept⟩ | ⟨_, _, _, _, after, _⟩
      · rw [kept]
        exact bounded
      · rw [kept]
        exact bounded
      · exact after

/-- A call appends what it feeds and returns what it takes off the front. -/
theorem rxqStep_conserved {e : EngineRxq} (bounded : e.Bounded) (call : RxqCall) :
    e.contents ++ fedBytes (stepTransition rxqStep e call) =
      returnedBytes (stepTransition rxqStep e call) ++ (rxqStep e call).1.contents := by
  cases call with
  | feed record =>
      change e.contents ++ (if (feedCipherRecord e record.1).1 = 0 then record.1 else []) =
        [] ++ (feedCipherRecord e record.1).2.contents
      rcases feedCipherRecord_cases bounded record with ⟨refused, kept⟩ | ⟨accepted, _, after⟩
      · rw [if_neg refused, kept, List.append_nil, List.nil_append]
      · rw [if_pos accepted, after, List.nil_append]
  | recv len =>
      change e.contents ++ [] =
        (bioRecv e len).out.take (bioRecv e len).rc.toNat ++ (bioRecv e len).engine.contents
      rw [List.append_nil]
      rcases bioRecv_cases bounded len with ⟨_, kept⟩ | ⟨_, _, kept⟩ | ⟨_, _, rc, out, _, after⟩
      · rw [kept, List.take_nil, List.nil_append]
      · rw [kept, List.take_nil, List.nil_append]
      · rw [rc, out, after, Int.toNat_natCast, List.take_take, Nat.min_self,
          List.take_append_drop]

/-- Over every sequence of feeds and requests the buffer is a bounded queue that
loses nothing: the bytes returned and the bytes still there are the bytes of the
accepted records, a refused record changes nothing, and a request for at least one
byte is told to wait exactly when the buffer is empty.  A request for no bytes is
refused as bad input. -/
theorem engineRxq_lossless (stale : Nat → Byte) (calls : List RxqCall) :
    (transitions rxqStep (engineCreate stale) calls).flatMap returnedBytes ++
        (final rxqStep (engineCreate stale) calls).contents =
      (transitions rxqStep (engineCreate stale) calls).flatMap fedBytes ∧
    ∀ call ∈ transitions rxqStep (engineCreate stale) calls,
      call.before.rxqLen ≤ call.before.rxqCap ∧ call.after.rxqLen ≤ call.after.rxqCap ∧
      (∀ record, call.input = .feed record → call.output.rc ≠ 0 → call.after = call.before) ∧
      (∀ len, call.input = .recv len → len ≠ 0 →
        (call.output.rc = MBEDTLS_ERR_SSL_WANT_READ ↔ call.before.contents = [])) ∧
      (call.input = .recv 0 →
        call.output.rc = MBEDTLS_ERR_SSL_BAD_INPUT_DATA ∧ call.after = call.before) := by
  have start := engineCreate_bounded stale
  have preserved : ∀ e call, EngineRxq.Bounded e → (rxqStep e call).1.Bounded :=
    fun _ call bounded => rxqStep_bounded bounded call
  constructor
  · have conserved := transitions_conserved preserved
      (fun _ call bounded => rxqStep_conserved bounded call) start calls
    have empty : (engineCreate stale).contents = [] := List.take_zero
    rw [empty, List.nil_append] at conserved
    exact conserved.symm
  · intro call member
    have around := @transitions_invariant _ _ _ _ _ (fun _ => True)
      (fun e call bounded _ => preserved e call bounded) _ _ start (fun _ _ => trivial) call member
    have stepped := eq_stepTransition_of_mem member
    obtain ⟨before, input, output, after⟩ := call
    obtain ⟨bounded, afterBounded⟩ := around
    injection stepped with _ _ outputEq afterEq
    dsimp only at bounded afterBounded outputEq afterEq ⊢
    refine ⟨bounded.rxqLen_le, afterBounded.rxqLen_le, ?_, ?_, ?_⟩
    · rintro record rfl refused
      rcases feedCipherRecord_cases bounded record with ⟨_, kept⟩ | ⟨accepted, _⟩
      · rw [afterEq]
        exact kept
      · rw [outputEq] at refused
        exact absurd accepted refused
    · rintro len rfl asked
      have filled := bounded.contents_length
      rw [outputEq]
      change (bioRecv before len).rc = _ ↔ _
      rcases bioRecv_cases bounded len with ⟨none, _⟩ | ⟨_, empty, waits⟩ | ⟨_, some, rc, _⟩
      · exact absurd none asked
      · rw [waits]
        rw [empty] at filled
        exact ⟨fun _ => List.eq_nil_of_length_eq_zero filled, fun _ => rfl⟩
      · rw [rc]
        constructor
        · intro waits
          unfold MBEDTLS_ERR_SSL_WANT_READ at waits
          omega
        · intro empty
          rw [empty] at filled
          exact absurd filled.symm some
    · rintro rfl
      rw [outputEq, afterEq]
      exact ⟨rfl, rfl⟩

/-- A request for no bytes is not told to wait, although the buffer is empty. -/
theorem bioRecv_zero_empty :
    ¬ ∀ (stale : Nat → Byte) (calls : List RxqCall),
      ∀ call ∈ transitions rxqStep (engineCreate stale) calls, ∀ len,
        call.input = .recv len →
        (call.output.rc = MBEDTLS_ERR_SSL_WANT_READ ↔ call.before.contents = []) := by
  intro waits
  have told := (waits (fun _ => 0) [.recv 0] _ List.mem_cons_self 0 rfl).mpr List.take_zero
  revert told
  decide

end Gxfp.User
