import Gxfp.Lib.Framing

/-!
# The `/dev/gxfp` interface

The record header of `read(2)` and the packet header of `write(2)`, as
`uapi/linux/gxfp_ioctl.h` lays them out on a 64-bit little-endian machine: the
8-byte time stamp of the record header is aligned, so four bytes of padding
precede it and the header takes 40 bytes.
-/

namespace Gxfp

open Lib.Bytes
open Lib.Framing

/-- `GXFP_IOCTL_TX_PAYLOAD_MAX`. -/
def IOCTL_TX_PAYLOAD_MAX : Nat := 508

/-- `GXFP_IOCTL_TAP_PAYLOAD_MAX`. -/
def IOCTL_TAP_PAYLOAD_MAX : Nat := 128 * 1024

/-! ## Tap records -/

/-- `struct gxfp_tap_hdr`. -/
structure TapHdr where
  len : Nat
  type : Nat
  rsvd0 : Nat
  tsNs : Nat
  head16 : Vector Byte 16
  deriving DecidableEq, Repr

/-- `sizeof(struct gxfp_tap_hdr)`. -/
def TAP_HDR_SIZE : Nat := 40

namespace TapHdr

/-- The header as it lies in memory, padding included. -/
def bytes (hdr : TapHdr) : List Byte :=
  le32Bytes hdr.len ++ le32Bytes hdr.type ++ le32Bytes hdr.rsvd0 ++ [0, 0, 0, 0] ++
    le64Bytes hdr.tsNs ++ hdr.head16.toList

/-- `memcpy` of a header out of a buffer of at least `TAP_HDR_SIZE` bytes. -/
def ofBytes (data : List Byte) : TapHdr :=
  let word (off : Nat) : Nat :=
    le32 (data.getD off 0) (data.getD (off + 1) 0) (data.getD (off + 2) 0)
      (data.getD (off + 3) 0)
  { len := word 0
    type := word 4
    rsvd0 := word 8
    tsNs := word 16 + 4294967296 * word 20
    head16 := Vector.ofFn fun i => data.getD (24 + i) 0 }

@[simp]
theorem bytes_length (hdr : TapHdr) : hdr.bytes.length = TAP_HDR_SIZE := by
  simp [bytes, TAP_HDR_SIZE]

/-- The `len` field sits in the first four bytes. -/
theorem ofBytes_len (hdr : TapHdr) (rest : List Byte) :
    (ofBytes (hdr.bytes ++ rest)).len = hdr.len % 4294967296 := by
  rw [← le32_ofNat hdr.len]
  rfl

/-- The `type` field sits in the next four. -/
theorem ofBytes_type (hdr : TapHdr) (rest : List Byte) :
    (ofBytes (hdr.bytes ++ rest)).type = hdr.type % 4294967296 := by
  rw [← le32_ofNat hdr.type]
  rfl

end TapHdr

/-- One record of the receive stream: an MP payload with its MP type and time
stamp.  The length bound is the one the 32-bit `len` field needs. -/
structure TapRecord where
  type : Byte
  tsNs : Nat
  payload : List Byte
  payload_lt : payload.length < 4294967296
  deriving DecidableEq

namespace TapRecord

/-- The header the driver puts before the payload. -/
def hdr (record : TapRecord) : TapHdr where
  len := record.payload.length
  type := record.type.toNat
  rsvd0 := 0
  tsNs := record.tsNs
  head16 := Vector.ofFn fun i => record.payload.getD i 0

/-- `[gxfp_tap_hdr][payload]`. -/
def encode (record : TapRecord) : List Byte :=
  record.hdr.bytes ++ record.payload

theorem encode_length (record : TapRecord) :
    record.encode.length = TAP_HDR_SIZE + record.payload.length := by
  simp [encode]

/-- The record length a stream announces in its first header. -/
def need (data : List Byte) : Nat :=
  TAP_HDR_SIZE + (TapHdr.ofBytes data).len

theorem need_encode_append (record : TapRecord) (rest : List Byte) :
    need (record.encode ++ rest) = record.encode.length := by
  rw [need, encode_length, encode, List.append_assoc, TapHdr.ofBytes_len]
  exact congrArg (TAP_HDR_SIZE + ·) (Nat.mod_eq_of_lt record.payload_lt)

end TapRecord

/-- Tap records as a self-delimiting format. -/
def tapFormat : RecordFormat TapRecord where
  encode := TapRecord.encode
  headerSize := TAP_HDR_SIZE
  headerSize_pos := by decide
  need := TapRecord.need
  headerSize_le_length := by
    intro record
    rw [record.encode_length]
    exact Nat.le_add_right _ _
  need_append := TapRecord.need_encode_append

/-! ## Transmit packets -/

/-- `struct gxfp_tx_pkt_hdr`. -/
structure TxPktHdr where
  mpFlags : Byte
  payloadLen : Nat
  flags : Nat
  deriving DecidableEq, Repr

/-- `sizeof(struct gxfp_tx_pkt_hdr)`. -/
def TX_PKT_HDR_SIZE : Nat := 8

namespace TxPktHdr

/-- The header as it lies in memory; `_pad0` is zero. -/
def bytes (hdr : TxPktHdr) : List Byte :=
  [hdr.mpFlags, 0] ++ le16Bytes hdr.payloadLen ++ le32Bytes hdr.flags

/-- `memcpy` of a header out of a buffer of at least `TX_PKT_HDR_SIZE` bytes. -/
def ofBytes (data : List Byte) : TxPktHdr where
  mpFlags := data.getD 0 0
  payloadLen := le16 (data.getD 2 0) (data.getD 3 0)
  flags := le32 (data.getD 4 0) (data.getD 5 0) (data.getD 6 0) (data.getD 7 0)

/-- Reading back a header loses only the bits above its fields. -/
theorem ofBytes_bytes (hdr : TxPktHdr) (rest : List Byte) :
    ofBytes (hdr.bytes ++ rest) =
      ⟨hdr.mpFlags, hdr.payloadLen % 65536, hdr.flags % 4294967296⟩ := by
  rw [← le16_ofNat, ← le32_ofNat]
  rfl

end TxPktHdr

end Gxfp
