import Gxfp.Kernel.Proto
import Gxfp.User.Proto

/-!
# The frame codecs

The MP frames of the kernel and the Goodix frames of the kernel and of the
library: what a builder writes, its parser reads back whatever follows in the
buffer, and what a parser accepts is the frame its builder makes.  The two
copies of the Goodix codec agree, so each result about them is proved for the
library's copy and carried over.
-/

namespace Gxfp

open Lib.Bytes
open Gxfp.Errno
open Gxfp.Kernel

/-! ## MP frames -/

/-- The types of MP frames. -/
def IsMpType (mpType : Byte) : Prop :=
  mpType = MP_TYPE_A ∨ mpType = MP_TYPE_B ∨ mpType = MP_TYPE_C

theorem isMpType_iff (mpType : Byte) :
    IsMpType mpType ↔ ¬ (mpType ≠ MP_TYPE_A ∧ mpType ≠ MP_TYPE_B ∧ mpType ≠ MP_TYPE_C) := by
  rw [← not_or, ← not_or, not_not, IsMpType]

theorem IsMpType.flags_type {mpType : Byte} (isType : IsMpType mpType) :
    (mpType <<< 4) >>> 4 = mpType := by
  rcases isType with rfl | rfl | rfl
  · rfl
  · rfl
  · rfl

/-- Flags without a low nibble are made from their type. -/
theorem flags_of_type {flags : Byte} (clear : flags &&& 0x0F = 0) :
    (flags >>> 4) <<< 4 = flags := by
  cases flags with
  | ofBitVec bits =>
      cases bits with
      | ofFin value =>
          revert value
          decide +kernel

/-- The acceptable heads of an MP frame. -/
theorem checkMpHead_eq_some_iff {flags low high ck : Byte} {rest : List Byte} {mpLen : Nat} :
    checkMpHead (flags :: low :: high :: ck :: rest) = some mpLen ↔
      IsMpType (flags >>> 4) ∧ mpLen < GOODIX_MP_LEN_MAX ∧ ck = flags + low + high ∧
        le16 low high = mpLen := by
  unfold checkMpHead
  dsimp only
  constructor
  · intro checked
    split at checked
    · cases checked
    · rename_i isType
      split at checked
      · cases checked
      · rename_i short
        split at checked
        · cases checked
        · rename_i ckEq
          cases checked
          exact ⟨(isMpType_iff _).mpr isType, Nat.not_le.mp short, not_not.mp ckEq, rfl⟩
  · rintro ⟨isType, short, rfl, rfl⟩
    rw [if_neg ((isMpType_iff _).mp isType), if_neg (Nat.not_le.mpr short),
      if_neg (not_not.mpr rfl)]

/-- The bytes of an MP frame. -/
def mpFrameBytes (flags : Byte) (payload : List Byte) : List Byte :=
  let low := UInt8.ofNat payload.length
  let high := UInt8.ofNat (payload.length / 256)
  [flags, low, high, flags + low + high] ++ payload

theorem mpBuildFrame_eq_ok_iff {mpType : Byte} {payload frame : List Byte} {outCap : Nat} :
    mpBuildFrame mpType payload outCap = .ok frame ↔
      IsMpType mpType ∧ payload.length ≤ GOODIX_MP_LEN_MAX ∧ 4 + payload.length ≤ outCap ∧
        mpFrameBytes (mpType <<< 4) payload = frame := by
  unfold mpBuildFrame
  constructor
  · intro built
    split at built
    · cases built
    · split at built
      · cases built
      · rename_i short
        split at built
        · cases built
        · rename_i isType
          split at built
          · cases built
          · rename_i fits
            exact ⟨(isMpType_iff _).mpr isType, Nat.not_lt.mp short, Nat.not_lt.mp fits,
              Except.ok.inj built⟩
  · rintro ⟨isType, short, fits, rfl⟩
    rw [if_neg (by omega), if_neg (Nat.not_lt.mpr short), if_neg ((isMpType_iff _).mp isType),
      if_neg (Nat.not_lt.mpr fits)]
    rfl

/-- A built frame is read back, whatever follows it. -/
def MpReadBack (mpType : Byte) (payload frame : List Byte) : Prop :=
  ∀ trailing, ∃ mp, parseMpFrame (frame ++ trailing) = some mp ∧ mp.flags >>> 4 = mpType ∧
    mp.payloadLen = payload.length ∧ mp.payload = payload

theorem parseMpFrame_mpFrameBytes {flags : Byte} {payload : List Byte}
    (isType : IsMpType (flags >>> 4)) (short : payload.length < GOODIX_MP_LEN_MAX)
    (trailing : List Byte) :
    parseMpFrame (mpFrameBytes flags payload ++ trailing) = some ⟨flags, payload⟩ := by
  have lenEq : le16 (UInt8.ofNat payload.length) (UInt8.ofNat (payload.length / 256)) =
      payload.length := by
    rw [le16_ofNat]
    unfold GOODIX_MP_LEN_MAX at short
    omega
  have headOk : checkMpHead ((mpFrameBytes flags payload ++ trailing).take 4) =
      some payload.length :=
    checkMpHead_eq_some_iff.mpr ⟨isType, short, rfl, lenEq⟩
  rw [parseMpFrame_of_checkMpHead headOk]
  · simp [mpFrameBytes]
  · simp [mpFrameBytes]
    omega

theorem mpReadBack_iff {mpType : Byte} {payload frame : List Byte} {outCap : Nat}
    (built : mpBuildFrame mpType payload outCap = .ok frame) :
    MpReadBack mpType payload frame ↔ payload.length < GOODIX_MP_LEN_MAX := by
  constructor
  · intro readBack
    obtain ⟨mp, parsed, -, -, payloadEq⟩ := readBack []
    rw [← payloadEq]
    exact parseMpFrame_payload_lt parsed
  · intro short trailing
    obtain ⟨isType, -, -, rfl⟩ := mpBuildFrame_eq_ok_iff.mp built
    have flagsType := isType.flags_type
    rw [← flagsType] at isType
    exact ⟨_, parseMpFrame_mpFrameBytes isType short trailing, flagsType, rfl, rfl⟩

/-- What the parser accepts is what the builder makes of its result. -/
theorem mpBuildFrame_parseMpFrame {buf : List Byte} {mp : MpFrameParsed}
    (parsed : parseMpFrame buf = some mp) (clear : mp.flags &&& 0x0F = 0) {outCap : Nat}
    (fits : 4 + mp.payloadLen ≤ outCap) :
    mpBuildFrame (mp.flags >>> 4) mp.payload outCap = .ok (buf.take (4 + mp.payloadLen)) := by
  obtain ⟨mpLen, checked, whole, flagsEq, payloadEq⟩ := parseMpFrame_eq_some parsed
  match buf with
  | [] | [_] | [_, _] | [_, _, _] =>
      simp only [List.length_cons, List.length_nil] at whole
      omega
  | flags :: low :: high :: ck :: rest =>
      obtain ⟨isType, short, rfl, lenEq⟩ := checkMpHead_eq_some_iff.mp checked
      have lengthEq : mp.payload.length = mpLen := by
        rw [payloadEq, List.length_take]
        simp only [List.length_cons, List.drop_succ_cons, List.drop_zero] at whole ⊢
        omega
      have wordEq := le16Bytes_le16 low high
      rw [lenEq, ← lengthEq] at wordEq
      obtain ⟨lowEq, highEq⟩ := List.cons.inj wordEq
      have flagsEq : mp.flags = flags := flagsEq
      rw [flagsEq] at clear
      rw [mpBuildFrame_eq_ok_iff, flagsEq, flags_of_type clear]
      refine ⟨isType, ?_, fits, ?_⟩
      · rw [lengthEq]
        exact Nat.le_of_lt short
      · unfold mpFrameBytes MpFrameParsed.payloadLen
        rw [lowEq, (List.cons.inj highEq).1, lengthEq, Nat.add_comm]
        simp [payloadEq]

/-- The round trip of MP frames: a frame the builder makes is read back exactly
if its payload is shorter than the limit, and an accepted frame with a clear low
nibble is the one the builder makes. -/
theorem mp_framing_iff (outCap : Nat) :
    (∀ mpType payload frame, mpBuildFrame mpType payload outCap = .ok frame →
        (MpReadBack mpType payload frame ↔ payload.length < GOODIX_MP_LEN_MAX)) ∧
      ∀ buf mp, parseMpFrame buf = some mp → mp.flags &&& 0x0F = 0 →
        4 + mp.payloadLen ≤ outCap →
        mpBuildFrame (mp.flags >>> 4) mp.payload outCap = .ok (buf.take (4 + mp.payloadLen)) := by
  constructor
  · intro mpType payload frame built
    exact mpReadBack_iff built
  · intro buf mp parsed clear fits
    exact mpBuildFrame_parseMpFrame parsed clear fits

/-- A frame of two bytes goes both ways. -/
theorem mp_framing_two_bytes :
    MpReadBack MP_TYPE_A [1, 2] [0xa0, 2, 0, 0xa2, 1, 2] ∧
      mpBuildFrame MP_TYPE_B [1, 2] 6 = .ok [0xb0, 2, 0, 0xb2, 1, 2] := by
  constructor
  · apply ((mp_framing_iff 6).1 MP_TYPE_A [1, 2] [0xa0, 2, 0, 0xa2, 1, 2] (by decide)).mpr
    decide
  · exact (mp_framing_iff 6).2 [0xb0, 2, 0, 0xb2, 1, 2, 9] ⟨0xb0, [1, 2]⟩ (by decide) (by decide)
      (by decide)

/-- The builder makes a frame of the limit length, and the parser refuses it. -/
theorem not_mpReadBack_limit :
    ∃ frame, mpBuildFrame MP_TYPE_A (List.replicate 0x6c00 0) 0x6c04 = .ok frame ∧
      parseMpFrame frame = none ∧ ¬ MpReadBack MP_TYPE_A (List.replicate 0x6c00 0) frame := by
  have built : mpBuildFrame MP_TYPE_A (List.replicate 0x6c00 0) 0x6c04 =
      .ok (mpFrameBytes (MP_TYPE_A <<< 4) (List.replicate 0x6c00 0)) := by
    rw [mpBuildFrame_eq_ok_iff, List.length_replicate]
    exact ⟨Or.inl rfl, Nat.le_refl _, Nat.le_refl _, rfl⟩
  have notReadBack : ¬ MpReadBack MP_TYPE_A (List.replicate 0x6c00 0)
      (mpFrameBytes (MP_TYPE_A <<< 4) (List.replicate 0x6c00 0)) := by
    rw [mpReadBack_iff built, List.length_replicate]
    exact Nat.lt_irrefl _
  refine ⟨_, built, ?_, notReadBack⟩
  have rejected : checkMpHead ((mpFrameBytes (MP_TYPE_A <<< 4)
      (List.replicate 0x6c00 0)).take 4) = none := by
    unfold mpFrameBytes
    rw [List.length_replicate]
    decide
  cases parsed : parseMpFrame (mpFrameBytes (MP_TYPE_A <<< 4) (List.replicate 0x6c00 0)) with
  | none => rfl
  | some mp =>
      obtain ⟨mpLen, checked, -⟩ := parseMpFrame_eq_some parsed
      rw [rejected] at checked
      cases checked

/-! ## Goodix frames -/

/-- Userspace and kernel compute the same checksum. -/
theorem goodixProtoChecksum_eq (cmd : Byte) (declLen : Nat) (payload : List Byte) :
    User.goodixProtoChecksum cmd declLen payload =
      Kernel.goodixProtoChecksum cmd declLen payload :=
  rfl

/-- The kernel's record of a frame the library has parsed. -/
def User.FrameParsed.toKernel (frame : User.FrameParsed) : Kernel.FrameParsed where
  protoChecksumOk := frame.protoChecksumOk
  cmd := frame.cmd
  declLen := frame.declLen
  payload := frame.payload
  protoChecksum := frame.protoChecksum

/-- The two parsers return the same verdict and the same fields. -/
theorem parseGoodixBody_toKernel (buf : List Byte) :
    Kernel.parseGoodixBody buf = (User.parseGoodixBody buf).map User.FrameParsed.toKernel := by
  rcases buf with _ | ⟨cmd, _ | ⟨low, _ | ⟨high, rest⟩⟩⟩
  · rfl
  · rfl
  · rfl
  · dsimp only [Kernel.parseGoodixBody, User.parseGoodixBody]
    split
    · rfl
    · split
      · rfl
      · split
        · rfl
        · rw [← goodixProtoChecksum_eq]
          rfl

/-- With room for the frame, both builders make it. -/
theorem goodixBuildFrame_agree (cmd : Byte) {payload : List Byte} {outCap : Nat}
    (short : payload.length ≤ 0xFF00) (fits : payload.length + 4 ≤ outCap) :
    ∃ frame, User.goodixBuildFrame cmd payload outCap = .ok frame ∧
      Kernel.goodixBuildFrame cmd payload outCap = .ok frame ∧
      frame.length = payload.length + 4 := by
  have libraryFits : ¬ 1 + 2 + payload.length + 1 > outCap := by omega
  have libraryShort : ¬ payload.length > User.GOODIX_PAYLOAD_MAX := Nat.not_lt.mpr short
  have kernelShort : ¬ payload.length > GOODIX_PAYLOAD_U16_MAX := Nat.not_lt.mpr short
  have kernelRoom : ¬ outCap < 4 := by omega
  refine ⟨[cmd, UInt8.ofNat (1 + payload.length), UInt8.ofNat ((1 + payload.length) / 256)] ++
    payload ++ [User.goodixProtoChecksum cmd (1 + payload.length) payload], ?_, ?_, ?_⟩
  · unfold User.goodixBuildFrame
    rw [if_neg libraryShort, if_neg libraryFits]
  · unfold Kernel.goodixBuildFrame
    rw [if_neg kernelRoom, if_neg kernelShort, if_neg libraryFits, goodixProtoChecksum_eq]
  · simp

/-- The kernel's parser reads back a built frame, whatever follows it. -/
theorem parseGoodixBody_kernel {cmd : Byte} {payload frame : List Byte} {outCap : Nat}
    (built : User.goodixBuildFrame cmd payload outCap = .ok frame) (trailing : List Byte) :
    ∃ parsed, Kernel.parseGoodixBody (frame ++ trailing) = some parsed ∧
      parsed.protoChecksumOk = true ∧ parsed.cmd = cmd ∧ parsed.payload = payload := by
  obtain ⟨parsed, parse, checksum, cmdEq, payloadEq⟩ :=
    User.parseGoodixBody_goodixBuildFrame built trailing
  refine ⟨parsed.toKernel, ?_, checksum, cmdEq, payloadEq⟩
  rw [parseGoodixBody_toKernel, parse]
  rfl

/-- The frames the library accepts are those both builders make. -/
theorem goodixBuildFrame_of_parse {buf : List Byte} {parsed : User.FrameParsed}
    (parse : User.parseGoodixBody buf = some parsed) (checksum : parsed.protoChecksumOk = true)
    (short : parsed.payload.length ≤ 0xFF00) {outCap : Nat}
    (fits : parsed.payload.length + 4 ≤ outCap) :
    User.goodixBuildFrame parsed.cmd parsed.payload outCap =
        .ok (buf.take (parsed.payload.length + 4)) ∧
      Kernel.goodixBuildFrame parsed.cmd parsed.payload outCap =
        .ok (buf.take (parsed.payload.length + 4)) := by
  have libraryBuilt := User.goodixBuildFrame_parseGoodixBody parse checksum short fits
  obtain ⟨frame, libraryFrame, kernelFrame, -⟩ := goodixBuildFrame_agree parsed.cmd short fits
  rw [libraryBuilt] at libraryFrame
  cases libraryFrame
  exact ⟨libraryBuilt, kernelFrame⟩

/-- The Goodix codecs of the kernel and of the library are one codec: the
builders make the same frames, the parsers give the same verdicts and fields,
built frames are read back whatever follows them, and a buffer read with a right
checksum begins with the frame the builders make of the result. -/
theorem goodix_codec :
    (∀ cmd payload outCap, payload.length ≤ 0xFF00 → payload.length + 4 ≤ outCap →
      ∃ frame, User.goodixBuildFrame cmd payload outCap = .ok frame ∧
        Kernel.goodixBuildFrame cmd payload outCap = .ok frame ∧
        ∀ trailing,
          (∃ parsed, User.parseGoodixBody (frame ++ trailing) = some parsed ∧
            parsed.protoChecksumOk = true ∧ parsed.cmd = cmd ∧ parsed.payload = payload) ∧
          ∃ parsed, Kernel.parseGoodixBody (frame ++ trailing) = some parsed ∧
            parsed.protoChecksumOk = true ∧ parsed.cmd = cmd ∧ parsed.payload = payload) ∧
      (∀ buf, Kernel.parseGoodixBody buf =
        (User.parseGoodixBody buf).map User.FrameParsed.toKernel) ∧
      (∀ buf parsed outCap, User.parseGoodixBody buf = some parsed →
        parsed.protoChecksumOk = true → parsed.payload.length ≤ 0xFF00 →
        parsed.payload.length + 4 ≤ outCap →
        User.goodixBuildFrame parsed.cmd parsed.payload outCap =
            .ok (buf.take (parsed.payload.length + 4)) ∧
          Kernel.goodixBuildFrame parsed.cmd parsed.payload outCap =
            .ok (buf.take (parsed.payload.length + 4))) ∧
      ∀ buf parsed outCap, Kernel.parseGoodixBody buf = some parsed →
        parsed.protoChecksumOk = true → parsed.payload.length ≤ 0xFF00 →
        parsed.payload.length + 4 ≤ outCap →
        User.goodixBuildFrame parsed.cmd parsed.payload outCap =
            .ok (buf.take (parsed.payload.length + 4)) ∧
          Kernel.goodixBuildFrame parsed.cmd parsed.payload outCap =
            .ok (buf.take (parsed.payload.length + 4)) := by
  refine ⟨?_, parseGoodixBody_toKernel, ?_, ?_⟩
  · intro cmd payload outCap short fits
    obtain ⟨frame, libraryBuilt, kernelBuilt, -⟩ := goodixBuildFrame_agree cmd short fits
    refine ⟨frame, libraryBuilt, kernelBuilt, ?_⟩
    intro trailing
    exact ⟨User.parseGoodixBody_goodixBuildFrame libraryBuilt trailing,
      parseGoodixBody_kernel libraryBuilt trailing⟩
  · intro buf parsed outCap parse checksum short fits
    exact goodixBuildFrame_of_parse parse checksum short fits
  · intro buf parsed outCap parse checksum short fits
    rw [parseGoodixBody_toKernel, Option.map_eq_some_iff] at parse
    obtain ⟨libraryParsed, libraryParse, rfl⟩ := parse
    exact goodixBuildFrame_of_parse libraryParse checksum short fits

/-- A frame of one byte goes both ways through either codec. -/
theorem goodix_codec_one_byte :
    (∃ parsed, Kernel.parseGoodixBody [0x32, 2, 0, 7, 0x6f, 9] = some parsed ∧
      parsed.protoChecksumOk = true ∧ parsed.cmd = 0x32 ∧ parsed.payload = [7]) ∧
      Kernel.goodixBuildFrame 0x32 [7] 5 = .ok [0x32, 2, 0, 7, 0x6f] := by
  constructor
  · obtain ⟨frame, built, -, readBack⟩ := goodix_codec.1 0x32 [7] 5 (by decide) (by decide)
    have frameEq : frame = [0x32, 2, 0, 7, 0x6f] := by
      apply Except.ok.inj
      rw [← built]
      decide
    rw [frameEq] at readBack
    exact (readBack [9]).2
  · exact (goodix_codec.2.2.1 [0x32, 2, 0, 7, 0x6f, 9] ⟨true, 0x32, 2, [7], 0x6f⟩ 5 (by decide)
      rfl (by decide) (by decide)).2

end Gxfp
