import Gxfp.Lib.Framing
import Gxfp.Lib.Interaction
import Gxfp.User.TlsBio
import Mathlib.Data.List.GetD

/-!
# The records the TLS engine sends

Embeds `bio_send` of `src/tls/tls_engine_mbedtls.c`, over an arbitrary sender.
The TLS library hands it a buffer of one or more records; `bio_send` gives the
records to the sender one by one and returns the length of the buffer when all
of them were sent.  When the sender asks to be called again it returns
`MBEDTLS_ERR_SSL_WANT_WRITE`, which says nothing about the records before.

The TLS library is what its documentation promises of its output buffer: it
drops the bytes that were written, and offers the same bytes again after
`MBEDTLS_ERR_SSL_WANT_WRITE`.
-/

namespace Gxfp.User

open Lib
open Lib.Bytes
open Lib.Framing
open Gxfp.Errno

/-! ## The callback -/

def TLS_REC_HDR_LEN : Nat := 5

/-- The length field of the record at an offset. -/
def tlsRecLen (buf : List Byte) (off : Nat) : Nat :=
  (buf.getD (off + 3) 0).toNat * 256 + (buf.getD (off + 4) 0).toNat

/-- The loop of `bio_send` and what follows it. -/
def bioSendLoop (buf : List Byte) (off : Nat) : Interaction (List Byte) Int Int :=
  if off + TLS_REC_HDR_LEN ≤ buf.length then
    let total := TLS_REC_HDR_LEN + tlsRecLen buf off
    if off + total > buf.length then
      .done (if off ≠ buf.length then MBEDTLS_ERR_SSL_INTERNAL_ERROR else intOfSizeT buf.length)
    else
      .ask ((buf.drop off).take total) fun r =>
        if r < 0 then
          .done (if r = EAGAIN.rc ∨ r = EINTR.rc then MBEDTLS_ERR_SSL_WANT_WRITE
            else MBEDTLS_ERR_SSL_INTERNAL_ERROR)
        else
          bioSendLoop buf (off + total)
  else
    .done (if off ≠ buf.length then MBEDTLS_ERR_SSL_INTERNAL_ERROR else intOfSizeT buf.length)
termination_by buf.length - off
decreasing_by
  simp only [TLS_REC_HDR_LEN] at *
  omega

/-- `bio_send`. -/
def bioSend (buf : List Byte) : Interaction (List Byte) Int Int :=
  bioSendLoop buf 0

/-! ## Records and their sender -/

/-- A complete TLS record. -/
structure TlsRecord where
  contentType : Byte
  major : Byte
  minor : Byte
  body : List Byte
  short : body.length < 65536

/-- The bytes of a record. -/
def TlsRecord.bytes (record : TlsRecord) : List Byte :=
  [record.contentType, record.major, record.minor, UInt8.ofNat (record.body.length / 256),
    UInt8.ofNat record.body.length] ++ record.body

/-- What the record sender comes to. -/
inductive RecordResult
  | sent (rc : Nat)
  | again
  | interrupted
  deriving DecidableEq, Repr

/-- The integer the sender returns. -/
def RecordResult.rc : RecordResult → Int
  | .sent rc => rc
  | .again => EAGAIN.rc
  | .interrupted => EINTR.rc

/-- The sender succeeded. -/
def RecordResult.isSent : RecordResult → Bool
  | .sent _ => true
  | _ => false

/-- The sender's side of a call of `bio_send`: how often it was asked, and the
records for which it succeeded. -/
structure Sender where
  asked : Nat
  sent : List (List Byte)
  deriving DecidableEq, Repr

/-- The sender with a given pattern of results. -/
def Sender.handle (results : Nat → RecordResult) (sender : Sender) (record : List Byte) :
    Int × Sender :=
  let result := results sender.asked
  (result.rc,
    { asked := sender.asked + 1
      sent := if result.isSent then sender.sent ++ [record] else sender.sent })

/-! ## The TLS library -/

/-- What the library offers next. -/
inductive Offer
  /-- Any records it has. -/
  | any
  /-- The same bytes again. -/
  | again (buf : List Byte)
  /-- Nothing: the connection has failed. -/
  | closed
  deriving DecidableEq, Repr

/-- The output of a connection. -/
structure TlsOutput where
  /-- The bytes not yet dropped. -/
  unsent : List Byte
  offer : Offer
  /-- The records for which the sender succeeded. -/
  sent : List (List Byte)
  deriving DecidableEq, Repr

/-- The connection before any call, with the stream it is going to send. -/
def tlsOutputStart (stream : List Byte) : TlsOutput where
  unsent := stream
  offer := .any
  sent := []

/-- A call of `bio_send` with a buffer, and what the library makes of its
result. -/
def TlsOutput.call (output : TlsOutput) (buf : List Byte) (results : Nat → RecordResult) :
    TlsOutput :=
  let done := (bioSend buf).run (Sender.handle results) ⟨0, output.sent⟩
  if done.1 > 0 then
    { unsent := output.unsent.drop done.1.toNat, offer := .any, sent := done.2.sent }
  else if done.1 = MBEDTLS_ERR_SSL_WANT_WRITE then
    { unsent := output.unsent, offer := .again buf, sent := done.2.sent }
  else
    { unsent := output.unsent, offer := .closed, sent := done.2.sent }

/-- The library may offer the buffer. -/
def Offer.Allows : Offer → List Byte → Prop
  | .any, _ => True
  | .again same, buf => buf = same
  | .closed, _ => False

/-! ## The record format -/

theorem TlsRecord.bytes_length (record : TlsRecord) :
    record.bytes.length = TLS_REC_HDR_LEN + record.body.length := by
  rw [TlsRecord.bytes, List.length_append]
  rfl

/-- The length field of a record, wherever the record stands. -/
theorem tlsRecLen_append (front rest : List Byte) (record : TlsRecord) :
    tlsRecLen (front ++ (record.bytes ++ rest)) front.length = record.body.length := by
  have short := record.short
  have field (i : Nat) :
      (front ++ (record.bytes ++ rest)).getD (front.length + i) 0 =
        (record.bytes ++ rest).getD i 0 := by
    rw [List.getD_append_right _ _ _ _ (Nat.le_add_right _ _), Nat.add_sub_cancel_left]
  rw [tlsRecLen, field, field]
  change (UInt8.ofNat (record.body.length / 256)).toNat * 256 +
    (UInt8.ofNat record.body.length).toNat = _
  rw [UInt8.toNat_ofNat', UInt8.toNat_ofNat']
  omega

/-- TLS records announce their length in their header. -/
def tlsFormat : RecordFormat TlsRecord where
  encode := TlsRecord.bytes
  headerSize := TLS_REC_HDR_LEN
  headerSize_pos := by decide
  need bytes := TLS_REC_HDR_LEN + tlsRecLen bytes 0
  headerSize_le_length := by
    intro record
    rw [record.bytes_length]
    exact Nat.le_add_right _ _
  need_append := by
    intro record rest
    rw [record.bytes_length]
    exact congrArg _ (tlsRecLen_append [] rest record)

theorem TlsRecord.bytes_injective : Function.Injective TlsRecord.bytes := by
  rintro ⟨_, _, _, body, _⟩ ⟨_, _, _, other, _⟩ same
  simp only [TlsRecord.bytes, List.cons_append, List.nil_append, List.cons.injEq] at same
  obtain ⟨rfl, rfl, rfl, _, _, rfl⟩ := same
  rfl

/-! ## One call -/

/-- The loop asks the sender for the record it stands at. -/
theorem bioSendLoop_record (front rest : List Byte) (record : TlsRecord) :
    bioSendLoop (front ++ (record.bytes ++ rest)) front.length =
      .ask record.bytes fun r =>
        if r < 0 then
          .done (if r = EAGAIN.rc ∨ r = EINTR.rc then MBEDTLS_ERR_SSL_WANT_WRITE
            else MBEDTLS_ERR_SSL_INTERNAL_ERROR)
        else
          bioSendLoop (front ++ (record.bytes ++ rest)) (front.length + record.bytes.length) := by
  have total : TLS_REC_HDR_LEN + tlsRecLen (front ++ (record.bytes ++ rest)) front.length =
      record.bytes.length := by
    rw [tlsRecLen_append, record.bytes_length]
  have header : front.length + TLS_REC_HDR_LEN ≤ (front ++ (record.bytes ++ rest)).length := by
    rw [List.length_append, List.length_append, record.bytes_length]
    omega
  have inside : ¬ front.length + record.bytes.length >
      (front ++ (record.bytes ++ rest)).length := by
    rw [List.length_append, List.length_append]
    omega
  rw [bioSendLoop, if_pos header]
  dsimp only
  rw [total, if_neg inside, List.drop_left, List.take_left]

/-- At the end of the buffer the loop returns its length. -/
theorem bioSendLoop_end (buf : List Byte) :
    bioSendLoop buf buf.length = .done (intOfSizeT buf.length) := by
  have ended : ¬ buf.length + TLS_REC_HDR_LEN ≤ buf.length := by
    unfold TLS_REC_HDR_LEN
    omega
  rw [bioSendLoop, if_neg ended, if_neg (not_not.mpr rfl)]

theorem RecordResult.rc_nonneg {result : RecordResult} (sent : result.isSent = true) :
    ¬ result.rc < 0 := by
  cases result with
  | sent rc => exact not_lt.mpr (Int.natCast_nonneg rc)
  | again => cases sent
  | interrupted => cases sent

theorem RecordResult.rc_refused {result : RecordResult} (refused : result.isSent = false) :
    result.rc < 0 ∧ (result.rc = EAGAIN.rc ∨ result.rc = EINTR.rc) := by
  cases result with
  | sent rc => cases refused
  | again => exact ⟨rc_neg EAGAIN, .inl rfl⟩
  | interrupted => exact ⟨rc_neg EINTR, .inr rfl⟩

/-- Where the sender refuses the record the loop stands at, the call ends. -/
theorem bioSendLoop_refused {results : Nat → RecordResult} {sender : Sender}
    (front rest : List Byte) (record : TlsRecord)
    (refused : (results sender.asked).isSent = false) :
    (bioSendLoop (front ++ (record.bytes ++ rest)) front.length).run
        (Sender.handle results) sender =
      (MBEDTLS_ERR_SSL_WANT_WRITE, ⟨sender.asked + 1, sender.sent⟩) := by
  obtain ⟨negative, retry⟩ := RecordResult.rc_refused refused
  rw [bioSendLoop_record, Interaction.run, Sender.handle]
  dsimp only
  rw [if_pos negative, if_pos retry, refused]
  rfl

/-- Where it succeeds, the loop goes on behind the record. -/
theorem bioSendLoop_sent {results : Nat → RecordResult} {sender : Sender}
    (front rest : List Byte) (record : TlsRecord)
    (sent : (results sender.asked).isSent = true) :
    (bioSendLoop (front ++ (record.bytes ++ rest)) front.length).run
        (Sender.handle results) sender =
      (bioSendLoop (front ++ record.bytes ++ rest) (front ++ record.bytes).length).run
        (Sender.handle results) ⟨sender.asked + 1, sender.sent ++ [record.bytes]⟩ := by
  rw [bioSendLoop_record, Interaction.run, Sender.handle]
  dsimp only
  rw [if_neg (RecordResult.rc_nonneg sent), if_pos sent, List.append_assoc, List.length_append]

/-- A sender that accepts every record gets all of them, in order. -/
theorem bioSendLoop_all {results : Nat → RecordResult} (front : List Byte)
    (records : List TlsRecord) (sender : Sender)
    (sent : ∀ i < records.length, (results (sender.asked + i)).isSent = true) :
    (bioSendLoop (front ++ tlsFormat.stream records) front.length).run
        (Sender.handle results) sender =
      (intOfSizeT (front ++ tlsFormat.stream records).length,
        ⟨sender.asked + records.length, sender.sent ++ records.map TlsRecord.bytes⟩) := by
  induction records generalizing front sender with
  | nil =>
      rw [RecordFormat.stream_nil, List.append_nil, bioSendLoop_end]
      simp [Interaction.run]
  | cons record records ih =>
      rw [RecordFormat.stream_cons]
      change (bioSendLoop (front ++ (record.bytes ++ _)) front.length).run _ _ = _
      rw [bioSendLoop_sent front _ record (sent 0 (Nat.zero_lt_succ _)), ih]
      · simp [tlsFormat, Nat.add_comm, Nat.add_left_comm]
      · intro i inside
        rw [Nat.add_assoc, Nat.add_comm 1 i]
        exact sent (i + 1) (Nat.succ_lt_succ inside)

/-! ## Runs -/

/-- The connections that calls of `bio_send` lead to, from the start of a stream of
records, where every call meets `meets`: a call offers one or more records from the
front of what is not yet dropped, and the same ones again where it has to. -/
inductive SendRun (meets : List TlsRecord → (Nat → RecordResult) → Prop)
    (stream : List TlsRecord) : TlsOutput → Prop
  | start : SendRun meets stream (tlsOutputStart (tlsFormat.stream stream))
  | call {output : TlsOutput} {records : List TlsRecord} {results : Nat → RecordResult}
      (before : SendRun meets stream output) (nonempty : records ≠ [])
      (front : tlsFormat.stream records <+: output.unsent)
      (allowed : output.offer.Allows (tlsFormat.stream records))
      (met : meets records results) :
      SendRun meets stream (output.call (tlsFormat.stream records) results)

/-- The sender refuses the first record of the buffer or accepts all of them, and
the length of the buffer is an `int`. -/
def AllOrNone (records : List TlsRecord) (results : Nat → RecordResult) : Prop :=
  (results 0).isSent = false ∨
    (∀ i < records.length, (results i).isSent = true) ∧
      (tlsFormat.stream records).length < 2 ^ 31

/-- A call whose first record is refused changes nothing but the offer. -/
theorem TlsOutput.call_none (output : TlsOutput) {records : List TlsRecord}
    {results : Nat → RecordResult} (nonempty : records ≠ [])
    (refused : (results 0).isSent = false) :
    output.call (tlsFormat.stream records) results =
      { unsent := output.unsent
        offer := .again (tlsFormat.stream records)
        sent := output.sent } := by
  cases records with
  | nil => exact absurd rfl nonempty
  | cons record records =>
      have done : (bioSend (tlsFormat.stream (record :: records))).run (Sender.handle results)
          ⟨0, output.sent⟩ = (MBEDTLS_ERR_SSL_WANT_WRITE, ⟨0 + 1, output.sent⟩) :=
        bioSendLoop_refused [] (tlsFormat.stream records) record refused
      unfold TlsOutput.call
      rw [done]
      rfl

/-- A call whose records are all accepted sends them and drops their bytes. -/
theorem TlsOutput.call_all (output : TlsOutput) {records : List TlsRecord}
    {results : Nat → RecordResult} (nonempty : records ≠ [])
    (sent : ∀ i < records.length, (results i).isSent = true)
    (short : (tlsFormat.stream records).length < 2 ^ 31) :
    output.call (tlsFormat.stream records) results =
      { unsent := output.unsent.drop (tlsFormat.stream records).length
        offer := .any
        sent := output.sent ++ records.map TlsRecord.bytes } := by
  have done : (bioSend (tlsFormat.stream records)).run (Sender.handle results) ⟨0, output.sent⟩ =
      (intOfSizeT (tlsFormat.stream records).length,
        ⟨0 + records.length, output.sent ++ records.map TlsRecord.bytes⟩) := by
    refine bioSendLoop_all [] records ⟨0, output.sent⟩ ?_
    intro i inside
    rw [Nat.zero_add]
    exact sent i inside
  have converted : intOfSizeT (tlsFormat.stream records).length =
      ((tlsFormat.stream records).length : Int) := by
    unfold intOfSizeT
    rw [Int.bmod_def]
    omega
  have positive : ((tlsFormat.stream records).length : Int) > 0 := by
    have filled : tlsFormat.stream records ≠ [] := fun empty =>
      nonempty ((tlsFormat.stream_eq_nil_iff records).mp empty)
    exact Int.natCast_pos.mpr (List.length_pos_of_ne_nil filled)
  unfold TlsOutput.call
  rw [done, converted]
  dsimp only
  rw [if_pos positive]
  rfl

/-- What was sent and what is still to be sent is the stream. -/
def TlsOutput.InStep (output : TlsOutput) (stream : List TlsRecord) : Prop :=
  ∃ remaining, output.unsent = tlsFormat.stream remaining ∧
    output.sent ++ remaining.map TlsRecord.bytes = stream.map TlsRecord.bytes

theorem TlsOutput.InStep.call {output : TlsOutput} {stream records : List TlsRecord}
    {results : Nat → RecordResult} (inStep : output.InStep stream) (nonempty : records ≠ [])
    (front : tlsFormat.stream records <+: output.unsent) (met : AllOrNone records results) :
    (output.call (tlsFormat.stream records) results).InStep stream := by
  obtain ⟨remaining, unsent, together⟩ := inStep
  rcases met with refused | ⟨sent, short⟩
  · rw [output.call_none nonempty refused]
    exact ⟨remaining, unsent, together⟩
  · rw [output.call_all nonempty sent short]
    rw [unsent] at front
    obtain ⟨rest, rfl⟩ := tlsFormat.prefix_of_stream_prefix TlsRecord.bytes_injective front
    refine ⟨rest, ?_, ?_⟩
    · rw [unsent, RecordFormat.stream_append, List.drop_left]
    · rw [List.append_assoc, ← List.map_append]
      exact together

theorem SendRun.inStep {stream : List TlsRecord} {output : TlsOutput}
    (run : SendRun AllOrNone stream output) : output.InStep stream := by
  induction run with
  | start => exact ⟨stream, rfl, List.nil_append _⟩
  | call before nonempty front allowed met ih => exact ih.call nonempty front met

/-- In every run whose calls are accepted whole or refused at their first record,
the records sent are always the first records of the stream, each once and in
order. -/
theorem sent_prefix_of_allOrNone {stream : List TlsRecord} {output : TlsOutput}
    (run : SendRun AllOrNone stream output) :
    output.sent <+: stream.map TlsRecord.bytes := by
  obtain ⟨remaining, _, together⟩ := run.inStep
  exact ⟨_, together⟩

/-- An alert of one byte. -/
def oneByteRecord (byte : Byte) : TlsRecord :=
  ⟨21, 3, 3, [byte], Nat.lt_of_sub_pos (Nat.zero_lt_succ _)⟩

/-- One record is refused, then it is sent. -/
theorem sent_prefix_of_allOrNone_retry :
    ∃ output, SendRun AllOrNone [oneByteRecord 1, oneByteRecord 2] output ∧
      output.sent = [(oneByteRecord 1).bytes] ∧
      output.sent <+: [oneByteRecord 1, oneByteRecord 2].map TlsRecord.bytes := by
  have front : tlsFormat.stream [oneByteRecord 1] <+:
      tlsFormat.stream [oneByteRecord 1, oneByteRecord 2] := by decide
  have nonempty : [oneByteRecord 1] ≠ [] := List.cons_ne_nil _ _
  have first := @SendRun.call AllOrNone [oneByteRecord 1, oneByteRecord 2] _ [oneByteRecord 1]
    (fun _ => .again) .start nonempty front trivial (.inl rfl)
  rw [TlsOutput.call_none _ nonempty rfl] at first
  have accepted : AllOrNone [oneByteRecord 1] (fun _ => .sent 0) :=
    .inr ⟨fun _ _ => rfl, by decide⟩
  have second := @SendRun.call _ _ _ _ (fun _ => .sent 0) first nonempty front rfl accepted
  refine ⟨_, second, ?_, sent_prefix_of_allOrNone second⟩
  rw [TlsOutput.call_all _ nonempty (fun _ _ => rfl) (by decide)]
  rfl

/-- A call whose first record is accepted and whose second is refused has sent one
record and offers all of them again. -/
theorem TlsOutput.call_cut (output : TlsOutput) (first second : TlsRecord)
    (records : List TlsRecord) {results : Nat → RecordResult}
    (accepted : (results 0).isSent = true) (refused : (results 1).isSent = false) :
    output.call (tlsFormat.stream (first :: second :: records)) results =
      { unsent := output.unsent
        offer := .again (tlsFormat.stream (first :: second :: records))
        sent := output.sent ++ [first.bytes] } := by
  have sent : (bioSend (tlsFormat.stream (first :: second :: records))).run
      (Sender.handle results) ⟨0, output.sent⟩ = _ :=
    bioSendLoop_sent [] (tlsFormat.stream (second :: records)) first accepted
  have cut := bioSendLoop_refused ([] ++ first.bytes) (tlsFormat.stream records) second
    (show (results (Sender.mk 1 (output.sent ++ [first.bytes])).asked).isSent = false from refused)
  have done := sent.trans cut
  unfold TlsOutput.call
  rw [done]
  rfl

/-- Two records are offered together; the second is refused after the first was
sent, and the first is sent again. -/
theorem sent_twice :
    ¬ ∀ (stream : List TlsRecord) (output : TlsOutput),
      SendRun (fun _ _ => True) stream output → output.sent <+: stream.map TlsRecord.bytes := by
  intro inOrder
  have nonempty : [oneByteRecord 1, oneByteRecord 2] ≠ [] := List.cons_ne_nil _ _
  have first := @SendRun.call (fun _ _ => True) [oneByteRecord 1, oneByteRecord 2] _
    [oneByteRecord 1, oneByteRecord 2] (fun i => if i = 0 then .sent 0 else .again) .start nonempty
    (List.prefix_refl _) trivial trivial
  rw [TlsOutput.call_cut _ _ _ _ rfl rfl] at first
  have second := @SendRun.call _ _ _ _ (fun _ => .sent 0) first nonempty
    (List.prefix_refl _) rfl trivial
  have misordered := inOrder _ _ second
  rw [TlsOutput.call_all _ nonempty (fun _ _ => rfl) (by decide)] at misordered
  revert misordered
  decide

end Gxfp.User
