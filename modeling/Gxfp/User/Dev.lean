import Gxfp.Uapi
import Gxfp.User.Proto

/-!
# The library's device layer

Embeds the record parser and the packet sender of `userspace/src/io/dev.c` and
`gxfp_goodix_send_async` of `src/cmd/goodix_xfer.c`.  The sender is written
against an arbitrary `write(2)` on an arbitrary state, so that it can run on
the model of the kernel as well as on scripted answers.
-/

namespace Gxfp.User

open Lib.Bytes
open Gxfp.Errno

/-- `parse_tap_record`: the header and the payload of one record. -/
def parseTapRecord (data : List Byte) : Except Errno (TapHdr × List Byte) :=
  if data.length < TAP_HDR_SIZE then
    .error EBADMSG
  else
    let hdr := TapHdr.ofBytes data
    if TAP_HDR_SIZE + hdr.len ≠ data.length then
      .error EBADMSG
    else
      .ok (hdr, data.drop TAP_HDR_SIZE)

/-- The parser accepts every encoded record and gives back its type and
payload. -/
theorem parseTapRecord_encode (record : TapRecord) :
    ∃ hdr, parseTapRecord record.encode = .ok (hdr, record.payload) ∧
      hdr.type = record.type.toNat ∧ hdr.len = record.payload.length := by
  have lenEq : (TapHdr.ofBytes record.encode).len = record.payload.length := by
    rw [TapRecord.encode, TapHdr.ofBytes_len]
    exact Nat.mod_eq_of_lt record.payload_lt
  have typeEq : (TapHdr.ofBytes record.encode).type = record.type.toNat := by
    rw [TapRecord.encode, TapHdr.ofBytes_type]
    apply Nat.mod_eq_of_lt
    exact record.type.toNat_lt.trans (by decide)
  have long : ¬ record.encode.length < TAP_HDR_SIZE := by
    rw [record.encode_length]
    exact Nat.not_lt.mpr (Nat.le_add_right _ _)
  have whole : TAP_HDR_SIZE + (TapHdr.ofBytes record.encode).len = record.encode.length := by
    rw [lenEq, record.encode_length]
  have payloadEq : record.encode.drop TAP_HDR_SIZE = record.payload := by
    rw [TapRecord.encode, ← record.hdr.bytes_length, List.drop_left]
  refine ⟨TapHdr.ofBytes record.encode, ?_, typeEq, lenEq⟩
  simp only [parseTapRecord, if_neg long, whole, ne_eq, not_true_eq_false, if_false, payloadEq]

section Send

variable {σ : Type*} (write : σ → List Byte → Int × σ)

/-- The buffer `gxfp_dev_send_packet` hands to `write(2)`. -/
def devTxBuffer (mpType : Byte) (payload : List Byte) : List Byte :=
  TxPktHdr.bytes ⟨goodixMpFlagsFromType mpType, payload.length, 0⟩ ++ payload

/-- `gxfp_dev_send_packet`; `malloc` tells whether its buffer is allocated. -/
def devSendPacket (fd : Int) (malloc : Bool) (state : σ) (mpType : Byte)
    (payload : List Byte) : Int × σ :=
  if fd < 0 then
    (EINVAL.rc, state)
  else if payload.length > IOCTL_TX_PAYLOAD_MAX then
    (EMSGSIZE.rc, state)
  else if !malloc then
    (ENOMEM.rc, state)
  else
    let buf := devTxBuffer mpType payload
    let out := write state buf
    if out.1 < 0 then
      out
    else if out.1 ≠ buf.length then
      ( EIO.rc, out.2)
    else
      (0, out.2)

/-- `gxfp_goodix_send_async`. -/
def goodixSendAsync (fd : Int) (malloc : Bool) (state : σ) (cmd : Byte)
    (payload : List Byte) : Int × σ :=
  match goodixBuildFrame cmd payload (1 + 2 + GOODIX_PAYLOAD_MAX + 1) with
  | .error errno => (errno.rc, state)
  | .ok frame => devSendPacket write fd malloc state GOODIX_MP_TYPE_CMD frame

end Send

end Gxfp.User
