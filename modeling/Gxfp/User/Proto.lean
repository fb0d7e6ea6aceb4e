import Gxfp.Errno
import Gxfp.Lib.Bytes

/-!
# Userspace protocol layer

Embeds `userspace/src/proto/goodix_proto.c` and the constants of
`include/gxfp/proto/`.  It is the library's own copy of the Goodix frame codec;
the kernel's copy is `Gxfp.Kernel.Proto`.
-/

namespace Gxfp.User

open Lib.Bytes
open Gxfp.Errno

/-! ## Constants -/

def GOODIX_CHECKSUM_SEED : Byte := 0xAA
def GOODIX_MP_TYPE_CMD : Byte := 0x0A
def GOODIX_MP_TYPE_TLS : Byte := 0x0B
def GOODIX_MP_TYPE_NOTICE : Byte := 0x0C
def GOODIX_PAYLOAD_MAX : Nat := 0xFF00

/-- `GOODIX_MP_FLAGS_FROM_TYPE`. -/
def goodixMpFlagsFromType (mpType : Byte) : Byte :=
  (mpType &&& 0x0F) <<< 4

def CMD_SEND_NOP : Byte := 0x01
def CMD_NOTIFY_POWER_STATE : Byte := 0x0E
def CMD_RESET_DEVICE : Byte := 0xA1
def CMD_READ_OTP : Byte := 0xA6
def CMD_FDT_DOWN : Byte := 0x32
def CMD_FDT_UP : Byte := 0x34
def CMD_FDT_MODE : Byte := 0x36
def CMD_FDT_STATUS : Byte := 0xDA
def CMD_GET_IMAGE : Byte := 0x20
def CMD_ACK : Byte := 0xB0
def CMD_UPLOAD_CONFIG_MCU : Byte := 0x90
def CMD_REG_READ : Byte := 0x82
def CMD_TLS_SERVER_INIT : Byte := 0xD0
def CMD_D01 : Byte := 0xD1
def CMD_SET_SLEEP_MODE : Byte := 0xD2
def CMD_TLS_UNLOCK : Byte := 0xD4

/-! ## Frames -/

/-- `gxfp_goodix_proto_checksum`, with the 32-bit accumulator of the source. -/
def goodixProtoChecksum (cmd : Byte) (declLen : Nat) (payload : List Byte) : Byte :=
  let head : UInt32 :=
    cmd.toUInt32 + (UInt8.ofNat declLen).toUInt32 + (UInt8.ofNat (declLen / 256)).toUInt32
  let sum := payload.foldl (fun acc byte => acc + byte.toUInt32) head
  GOODIX_CHECKSUM_SEED - sum.toUInt8

/-- `gxfp_goodix_build_frame` of the library. -/
def goodixBuildFrame (cmd : Byte) (payload : List Byte) (outCap : Nat) :
    Except Errno (List Byte) :=
  if payload.length > GOODIX_PAYLOAD_MAX then
    .error EOVERFLOW
  else if 1 + 2 + payload.length + 1 > outCap then
    .error ENOSPC
  else
    let declLen := 1 + payload.length
    .ok ([cmd, UInt8.ofNat declLen, UInt8.ofNat (declLen / 256)] ++ payload ++
      [goodixProtoChecksum cmd declLen payload])

/-- `struct gxfp_frame_parsed`. -/
structure FrameParsed where
  protoChecksumOk : Bool
  cmd : Byte
  declLen : Nat
  payload : List Byte
  protoChecksum : Byte
  deriving DecidableEq, Repr

namespace FrameParsed

/-- The `payload_len` field, the length of the payload slice. -/
def payloadLen (frame : FrameParsed) : Nat :=
  frame.payload.length

end FrameParsed

/-- `gxfp_parse_goodix_body` of the library. -/
def parseGoodixBody (buf : List Byte) : Option FrameParsed :=
  match buf with
  | cmd :: low :: high :: rest =>
      let declLen := le16 low high
      if buf.length < 4 then
        none
      else if declLen < 1 then
        none
      else if 3 + (declLen - 1) + 1 > buf.length then
        none
      else
        let payload := rest.take (declLen - 1)
        let ck := rest.getD (declLen - 1) 0
        some
          { protoChecksumOk := goodixProtoChecksum cmd declLen payload == ck
            cmd := cmd
            declLen := declLen
            payload := payload
            protoChecksum := ck }
  | _ => none

/-- The inversion of the frame builder. -/
theorem goodixBuildFrame_ok {cmd : Byte} {payload frame : List Byte} {outCap : Nat}
    (built : goodixBuildFrame cmd payload outCap = .ok frame) :
    payload.length ≤ GOODIX_PAYLOAD_MAX ∧
      frame = [cmd, UInt8.ofNat (1 + payload.length), UInt8.ofNat ((1 + payload.length) / 256)] ++
        payload ++ [goodixProtoChecksum cmd (1 + payload.length) payload] := by
  unfold goodixBuildFrame at built
  split at built
  · cases built
  · rename_i short
    split at built
    · cases built
    · cases built
      exact ⟨Nat.not_lt.mp short, rfl⟩

/-- The library's parser reads back what its builder wrote, whatever follows
it. -/
theorem parseGoodixBody_goodixBuildFrame {cmd : Byte} {payload frame : List Byte} {outCap : Nat}
    (built : goodixBuildFrame cmd payload outCap = .ok frame) (trailing : List Byte) :
    ∃ parsed, parseGoodixBody (frame ++ trailing) = some parsed ∧
      parsed.protoChecksumOk = true ∧ parsed.cmd = cmd ∧ parsed.payload = payload := by
  obtain ⟨short, rfl⟩ := goodixBuildFrame_ok built
  have declLen : le16 (UInt8.ofNat (1 + payload.length))
      (UInt8.ofNat ((1 + payload.length) / 256)) = 1 + payload.length := by
    rw [le16_ofNat]
    unfold GOODIX_PAYLOAD_MAX at short
    omega
  have front (ck : Byte) : (payload ++ ck :: trailing).take payload.length = payload :=
    List.take_left
  have last (ck : Byte) : (payload ++ ck :: trailing).getD payload.length 0 = ck := by simp
  refine ⟨⟨true, cmd, 1 + payload.length, payload,
    goodixProtoChecksum cmd (1 + payload.length) payload⟩, ?_, rfl, rfl, rfl⟩
  simp only [List.append_assoc, List.cons_append, List.nil_append, parseGoodixBody, declLen,
    List.length_cons, List.length_append, Nat.add_sub_cancel_left]
  rw [if_neg (by omega), if_neg (by omega), if_neg (by omega), front, last, beq_self_eq_true]

/-- The inversion of the parser: a parsed buffer is its fields one after the
other, then the rest. -/
theorem parseGoodixBody_eq_some {buf : List Byte} {parsed : FrameParsed}
    (parse : parseGoodixBody buf = some parsed) :
    ∃ low high trailing,
      buf = [parsed.cmd, low, high] ++ parsed.payload ++ [parsed.protoChecksum] ++ trailing ∧
      le16 low high = 1 + parsed.payload.length ∧
      parsed.protoChecksumOk = (goodixProtoChecksum parsed.cmd (1 + parsed.payload.length)
        parsed.payload == parsed.protoChecksum) := by
  unfold parseGoodixBody at parse
  split at parse
  · rename_i cmd low high rest
    dsimp only at parse
    split at parse
    · cases parse
    · split at parse
      · cases parse
      · rename_i positive
        split at parse
        · cases parse
        · rename_i whole
          cases parse
          have inside : le16 low high - 1 < rest.length := by
            simp only [List.length_cons] at whole
            omega
          have lengthEq : (rest.take (le16 low high - 1)).length = le16 low high - 1 := by
            rw [List.length_take]
            exact Nat.min_eq_left (Nat.le_of_lt inside)
          have declEq : le16 low high = 1 + (rest.take (le16 low high - 1)).length := by
            rw [lengthEq]
            omega
          refine ⟨low, high, rest.drop (le16 low high - 1 + 1), ?_, declEq, ?_⟩
          · rw [List.getD_eq_getElem?_getD, List.getElem?_eq_getElem inside]
            simp
          · dsimp only
            rw [← declEq]
  · cases parse

/-- What the parser accepts with a right checksum is the frame the builder makes
of its result. -/
theorem goodixBuildFrame_parseGoodixBody {buf : List Byte} {parsed : FrameParsed}
    (parse : parseGoodixBody buf = some parsed) (checksum : parsed.protoChecksumOk = true)
    {outCap : Nat} (short : parsed.payload.length ≤ GOODIX_PAYLOAD_MAX)
    (fits : parsed.payload.length + 4 ≤ outCap) :
    goodixBuildFrame parsed.cmd parsed.payload outCap =
      .ok (buf.take (parsed.payload.length + 4)) := by
  obtain ⟨low, high, trailing, bufEq, declEq, checksumEq⟩ := parseGoodixBody_eq_some parse
  have wordEq := le16Bytes_le16 low high
  rw [declEq] at wordEq
  obtain ⟨lowEq, highEq⟩ := List.cons.inj wordEq
  have checksumEq : goodixProtoChecksum parsed.cmd (1 + parsed.payload.length) parsed.payload =
      parsed.protoChecksum := by
    rw [checksum] at checksumEq
    exact beq_iff_eq.mp checksumEq.symm
  have frameLength : ([parsed.cmd, low, high] ++ parsed.payload ++
      [parsed.protoChecksum]).length = parsed.payload.length + 4 := by
    simp
  have frameEq : buf.take (parsed.payload.length + 4) =
      [parsed.cmd, low, high] ++ parsed.payload ++ [parsed.protoChecksum] := by
    rw [bufEq, ← frameLength, List.take_left]
  unfold goodixBuildFrame
  rw [if_neg (Nat.not_lt.mpr short), if_neg (by omega), frameEq]
  dsimp only
  rw [lowEq, (List.cons.inj highEq).1, checksumEq]

end Gxfp.User
