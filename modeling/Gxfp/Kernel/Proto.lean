import Gxfp.Errno
import Gxfp.Lib.Bytes

/-!
# Kernel protocol layer: MP frames and Goodix frames

Embeds `kernel/proto/gxfp_mp_proto.c` and `kernel/proto/gxfp_goodix_proto.c`.
A pointer and a length become a byte list; the output structure of a parser,
together with its `valid` flag, becomes an option.
-/

namespace Gxfp.Kernel

open Lib.Bytes
open Gxfp.Errno

/-! ## MP frames -/

def MP_TYPE_A : Byte := 0xA
def MP_TYPE_B : Byte := 0xB
def MP_TYPE_C : Byte := 0xC

/-- `GXFP_GOODIX_MP_LEN_MAX`. -/
def GOODIX_MP_LEN_MAX : Nat := 0x6c00

/-- `gxfp_check_mp_head`: the declared payload length of an acceptable head. -/
def checkMpHead : List Byte → Option Nat
  | flags :: low :: high :: ck :: _ =>
      let type := flags >>> 4
      if type ≠ MP_TYPE_A ∧ type ≠ MP_TYPE_B ∧ type ≠ MP_TYPE_C then
        none
      else if le16 low high ≥ GOODIX_MP_LEN_MAX then
        none
      else if ck ≠ flags + low + high then
        none
      else
        some (le16 low high)
  | _ => none

/-- `struct gxfp_mp_frame_parsed`. -/
structure MpFrameParsed where
  flags : Byte
  payload : List Byte
  deriving DecidableEq, Repr

namespace MpFrameParsed

/-- The `payload_len` field, the length of the payload slice. -/
def payloadLen (frame : MpFrameParsed) : Nat :=
  frame.payload.length

end MpFrameParsed

/-- `gxfp_parse_mp_frame`. -/
def parseMpFrame (buf : List Byte) : Option MpFrameParsed :=
  match buf with
  | flags :: _ :: _ :: _ :: rest =>
      match checkMpHead (buf.take 4) with
      | none => none
      | some mpLen =>
          if 4 + mpLen > buf.length then
            none
          else
            some ⟨flags, rest.take mpLen⟩
  | _ => none

theorem checkMpHead_lt {buf : List Byte} {mpLen : Nat}
    (checked : checkMpHead buf = some mpLen) : mpLen < GOODIX_MP_LEN_MAX := by
  unfold checkMpHead at checked
  split at checked
  · rename_i flags low high ck rest
    dsimp only at checked
    split at checked
    · cases checked
    · split at checked
      · cases checked
      · rename_i short
        split at checked
        · cases checked
        · cases checked
          exact Nat.not_le.mp short
  · cases checked

/-- The inversion of the MP parser. -/
theorem parseMpFrame_eq_some {buf : List Byte} {mp : MpFrameParsed}
    (parsed : parseMpFrame buf = some mp) :
    ∃ mpLen, checkMpHead (buf.take 4) = some mpLen ∧ 4 + mpLen ≤ buf.length ∧
      mp.flags = buf.getD 0 0 ∧ mp.payload = (buf.drop 4).take mpLen := by
  unfold parseMpFrame at parsed
  split at parsed
  · rename_i flags low high ck rest
    split at parsed
    · cases parsed
    · rename_i mpLen checked
      split at parsed
      · cases parsed
      · rename_i fits
        cases parsed
        exact ⟨mpLen, checked, Nat.not_lt.mp fits, rfl, rfl⟩
  · cases parsed

theorem parseMpFrame_payload_lt {buf : List Byte} {mp : MpFrameParsed}
    (parsed : parseMpFrame buf = some mp) : mp.payload.length < GOODIX_MP_LEN_MAX := by
  obtain ⟨mpLen, checked, -, -, payloadEq⟩ := parseMpFrame_eq_some parsed
  rw [payloadEq]
  exact Nat.lt_of_le_of_lt (List.length_take_le _ _) (checkMpHead_lt checked)

/-- A buffer that holds all the bytes its head declares is parsed. -/
theorem parseMpFrame_of_checkMpHead {buf : List Byte} {mpLen : Nat}
    (checked : checkMpHead (buf.take 4) = some mpLen) (whole : 4 + mpLen ≤ buf.length) :
    parseMpFrame buf = some ⟨buf.getD 0 0, (buf.drop 4).take mpLen⟩ := by
  match buf with
  | [] | [_] | [_, _] | [_, _, _] =>
      simp only [List.length_cons, List.length_nil] at whole
      omega
  | flags :: low :: high :: ck :: rest =>
      unfold parseMpFrame
      simp only [checked]
      rw [if_neg (Nat.not_lt.mpr whole)]
      rfl

/-- `gxfp_mp_build_frame`. -/
def mpBuildFrame (mpType : Byte) (payload : List Byte) (outCap : Nat) :
    Except Errno (List Byte) :=
  if outCap < 4 then
    .error EINVAL
  else if payload.length > GOODIX_MP_LEN_MAX then
    .error EOVERFLOW
  else if mpType ≠ MP_TYPE_A ∧ mpType ≠ MP_TYPE_B ∧ mpType ≠ MP_TYPE_C then
    .error EINVAL
  else if 4 + payload.length > outCap then
    .error EMSGSIZE
  else
    let flags := mpType <<< 4
    let low := UInt8.ofNat payload.length
    let high := UInt8.ofNat (payload.length / 256)
    .ok ([flags, low, high, flags + low + high] ++ payload)

/-! ## Goodix frames -/

/-- `GXFP_GOODIX_PAYLOAD_U16_MAX`. -/
def GOODIX_PAYLOAD_U16_MAX : Nat := 0xFF00

/-- `gxfp_goodix_proto_checksum`, with the 32-bit accumulator of the source. -/
def goodixProtoChecksum (cmd : Byte) (declLen : Nat) (payload : List Byte) : Byte :=
  let head : UInt32 :=
    cmd.toUInt32 + (UInt8.ofNat declLen).toUInt32 + (UInt8.ofNat (declLen / 256)).toUInt32
  let sum := payload.foldl (fun acc byte => acc + byte.toUInt32) head
  0xaa - sum.toUInt8

/-- `struct gxfp_frame_parsed`. -/
structure FrameParsed where
  protoChecksumOk : Bool
  cmd : Byte
  declLen : Nat
  payload : List Byte
  protoChecksum : Byte
  deriving DecidableEq, Repr

namespace FrameParsed

/-- The `payload_len` field, the length of the payload slice. -/
def payloadLen (frame : FrameParsed) : Nat :=
  frame.payload.length

end FrameParsed

/-- `gxfp_parse_goodix_body`. -/
def parseGoodixBody (buf : List Byte) : Option FrameParsed :=
  match buf with
  | cmd :: low :: high :: rest =>
      let declLen := le16 low high
      if buf.length < 4 then
        none
      else if declLen < 1 then
        none
      else if 3 + (declLen - 1) + 1 > buf.length then
        none
      else
        let payload := rest.take (declLen - 1)
        let ck := rest.getD (declLen - 1) 0
        some
          { protoChecksumOk := goodixProtoChecksum cmd declLen payload == ck
            cmd := cmd
            declLen := declLen
            payload := payload
            protoChecksum := ck }
  | _ => none

/-- `gxfp_goodix_build_frame` of the kernel. -/
def goodixBuildFrame (cmd : Byte) (payload : List Byte) (outCap : Nat) :
    Except Errno (List Byte) :=
  if outCap < 4 then
    .error EINVAL
  else if payload.length > GOODIX_PAYLOAD_U16_MAX then
    .error EOVERFLOW
  else if 1 + 2 + payload.length + 1 > outCap then
    .error EMSGSIZE
  else
    let declLen := 1 + payload.length
    .ok ([cmd, UInt8.ofNat declLen, UInt8.ofNat (declLen / 256)] ++ payload ++
      [goodixProtoChecksum cmd declLen payload])

end Gxfp.Kernel
