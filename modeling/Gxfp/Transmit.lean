import Gxfp.Codec
import Gxfp.Kernel.EspiTx
import Gxfp.Lib.Execution
import Gxfp.User.Dev

/-!
# The transmit path end to end

A command goes through the library's frame builder, its packet sender, the
driver's `write(2)` and the eSPI wrapper.  Each layer has an inversion lemma
that says what a success means for the layer below; put together they show
what reaches the mailbox, and the kernel's own parsers read the command and
its payload back from there.

The sequence numbers are a matter of whole runs: the counter and the last
number written agree in every state a run reaches.
-/

namespace Gxfp

open Lib.Bytes
open Lib.Execution
open Gxfp.Errno
open Gxfp.Kernel
open Gxfp.User

/-! ## The wrapper -/

theorem espiTxPad_aligned (length : Nat) : (8 + length + espiTxPad length) % 8 = 0 := by
  unfold espiTxPad ESPI_ALIGN
  omega

theorem espiTxBuffer_length (seq16 : Nat) (mpFrame : List Byte) :
    (espiTxBuffer seq16 mpFrame).length = 8 + mpFrame.length + espiTxPad mpFrame.length := by
  simp [espiTxBuffer]
  omega

theorem drop_espiTxBuffer (seq16 : Nat) (mpFrame : List Byte) :
    (espiTxBuffer seq16 mpFrame).drop 8 =
      mpFrame ++ List.replicate (espiTxPad mpFrame.length) 0 :=
  rfl

/-- What `gxfp_espi_write` does: it refuses the frame and changes nothing, or
it stores the wrapped frame under the next sequence number. -/
theorem espiWrite_cases (kmalloc : Bool) (state : Transmitter) (mpFrame : List Byte) :
    (∃ errno, espiWrite kmalloc state mpFrame = (some errno, state)) ∨
      (8 + mpFrame.length + espiTxPad mpFrame.length ≤ TX_BUFFER_SIZE ∧
        ∃ line, espiWrite kmalloc state mpFrame =
          (none,
            ⟨{ state.dev with mailboxSeq16 := state.dev.mailboxSeq16 + 1 },
              state.writes ++
                [espiTxBuffer ((state.dev.mailboxSeq16 + 1).toNat % 65536) mpFrame],
              line⟩)) := by
  unfold espiWrite
  by_cases empty : mpFrame.length = 0
  · rw [if_pos empty]
    exact Or.inl ⟨EINVAL, rfl⟩
  rw [if_neg empty]
  by_cases unmapped : (!state.dev.hw.mailboxMmio) = true
  · rw [if_pos unmapped]
    exact Or.inl ⟨ENODEV, rfl⟩
  rw [if_neg unmapped]
  by_cases long : 8 + mpFrame.length + espiTxPad mpFrame.length > TX_BUFFER_SIZE
  · rw [if_pos long]
    exact Or.inl ⟨EOVERFLOW, rfl⟩
  rw [if_neg long]
  by_cases exhausted : (!kmalloc) = true
  · rw [if_pos exhausted]
    exact Or.inl ⟨ENOMEM, rfl⟩
  rw [if_neg exhausted]
  have aligned : ¬ (espiTxBuffer ((state.dev.mailboxSeq16 + 1).toNat % 65536)
      mpFrame).length % 8 ≠ 0 := by
    rw [espiTxBuffer_length, espiTxPad_aligned]
    exact not_not.mpr rfl
  dsimp only
  rw [mmioWriteQwordAligned, if_neg unmapped, if_neg aligned]
  exact Or.inr ⟨Nat.not_lt.mp long, _, rfl⟩

/-- What `gxfp_uapi_write` does: it fails and changes nothing, or it takes the
whole buffer and its frame goes out. -/
theorem uapiWrite_cases (env : WriteEnv) (state : Transmitter) (ubuf : List Byte) :
    (∃ errno : Errno, uapiWrite env state ubuf = (errno.rc, state)) ∨
      ∃ next, espiWrite env.tx state
          (uapiMpLocal (TxPktHdr.ofBytes ubuf) (ubuf.drop TX_PKT_HDR_SIZE)) = (none, next) ∧
        uapiWrite env state ubuf = ((ubuf.length : Int), next) := by
  unfold uapiWrite
  by_cases short : ubuf.length < TX_PKT_HDR_SIZE
  · rw [if_pos short]
    exact Or.inl ⟨EINVAL, rfl⟩
  rw [if_neg short]
  by_cases hdrFault : (!env.copyHdr) = true
  · rw [if_pos hdrFault]
    exact Or.inl ⟨EFAULT, rfl⟩
  rw [if_neg hdrFault]
  dsimp only
  by_cases long : (TxPktHdr.ofBytes ubuf).payloadLen > IOCTL_TX_PAYLOAD_MAX
  · rw [if_pos long]
    exact Or.inl ⟨EINVAL, rfl⟩
  rw [if_neg long]
  by_cases partly : ubuf.length ≠ TX_PKT_HDR_SIZE + (TxPktHdr.ofBytes ubuf).payloadLen
  · rw [if_pos partly]
    exact Or.inl ⟨EINVAL, rfl⟩
  rw [if_neg partly]
  by_cases exhausted : (!env.mpLocal) = true
  · rw [if_pos exhausted]
    exact Or.inl ⟨ENOMEM, rfl⟩
  rw [if_neg exhausted]
  by_cases payloadFault : (TxPktHdr.ofBytes ubuf).payloadLen ≠ 0 ∧ (!env.copyPayload) = true
  · rw [if_pos payloadFault]
    exact Or.inl ⟨EFAULT, rfl⟩
  rw [if_neg payloadFault]
  rcases espiWrite_cases env.tx state
      (uapiMpLocal (TxPktHdr.ofBytes ubuf) (ubuf.drop TX_PKT_HDR_SIZE)) with
    ⟨errno, refused⟩ | ⟨-, line, stored⟩
  · rw [refused]
    exact Or.inl ⟨errno, rfl⟩
  · rw [stored]
    exact Or.inr ⟨_, rfl, rfl⟩

/-! ## Sequence numbers -/

/-- The sequence number in a wrapper header. -/
def txSeq (tx : List Byte) : Nat :=
  le16 (tx.getD 4 0) (tx.getD 5 0)

/-- The sequence number of the last write, or the counter's start value. -/
def lastSeq (writes : List (List Byte)) : Nat :=
  match writes.getLast? with
  | none => ESPI_SEQ16_INIT
  | some tx => txSeq tx

theorem txSeq_espiTxBuffer (seq16 : Nat) (mpFrame : List Byte) :
    txSeq (espiTxBuffer seq16 mpFrame) = seq16 % 65536 :=
  le16_ofNat seq16

theorem lastSeq_append (writes : List (List Byte)) (tx : List Byte) :
    lastSeq (writes ++ [tx]) = txSeq tx := by
  rw [lastSeq, List.getLast?_append, List.getLast?_singleton]
  rfl

/-- The counter holds the sequence number of the last write. -/
def SeqInv (state : Transmitter) : Prop :=
  state.dev.mailboxSeq16.toNat % 65536 = lastSeq state.writes

theorem espiWrite_seqInv {state : Transmitter} (inv : SeqInv state) (kmalloc : Bool)
    (mpFrame : List Byte) : SeqInv (espiWrite kmalloc state mpFrame).2 := by
  rcases espiWrite_cases kmalloc state mpFrame with ⟨errno, refused⟩ | ⟨-, line, stored⟩
  · rw [refused]
    exact inv
  · rw [stored]
    change _ % 65536 = lastSeq (_ ++ [_])
    rw [lastSeq_append, txSeq_espiTxBuffer, Nat.mod_mod]

theorem txStep_seqInv {state : Transmitter} (inv : SeqInv state) (call : TxCall) :
    SeqInv (txStep state call).1 := by
  cases call with
  | espi kmalloc mpFrame => exact espiWrite_seqInv inv kmalloc mpFrame
  | write env ubuf =>
      change SeqInv (uapiWrite env state ubuf).2
      rcases uapiWrite_cases env state ubuf with ⟨errno, failed⟩ | ⟨next, stored, written⟩
      · rw [failed]
        exact inv
      · rw [written]
        have nextInv := espiWrite_seqInv inv env.tx
          (uapiMpLocal (TxPktHdr.ofBytes ubuf) (ubuf.drop TX_PKT_HDR_SIZE))
        rw [stored] at nextInv
        exact nextInv

/-- The counter is right in every state a run reaches. -/
theorem final_seqInv (mailboxSize : Nat) (rxBuf : List Byte) (calls : List TxCall) :
    SeqInv (final txStep (txProbe mailboxSize rxBuf) calls) := by
  apply final_preserved
  · intro state call inv
    exact txStep_seqInv inv call
  · rfl

/-- The next sequence number of the counter is the successor of the last one. -/
theorem next_seq {state : Transmitter} (inv : SeqInv state) :
    (state.dev.mailboxSeq16 + 1).toNat % 65536 = (lastSeq state.writes + 1) % 65536 := by
  rw [← inv, UInt32.toNat_add]
  change (state.dev.mailboxSeq16.toNat + 1) % 4294967296 % 65536 = _
  omega

/-! ## Reading the command back -/

/-- The MP frame of a packet is accepted by the kernel's parser, padded or not. -/
theorem parseMpFrame_uapiMpLocal {flags : Byte} {payload padding : List Byte}
    (command : flags >>> 4 = MP_TYPE_A) (short : payload.length < GOODIX_MP_LEN_MAX) (word : Nat) :
    parseMpFrame (uapiMpLocal ⟨flags, payload.length, word⟩ payload ++ padding) =
      some ⟨flags, payload⟩ := by
  have isType : IsMpType (flags >>> 4) := Or.inl command
  exact parseMpFrame_mpFrameBytes isType short padding

/-! ## End to end -/

/-- What one command puts into the mailbox, `previous` being the sequence number
of the write before it. -/
structure Transmitted (previous : Nat) (cmd : Byte) (payload tx : List Byte) : Prop where
  magic : tx.getD 0 0 = 0xF0
  sum : tx.getD 3 0 = tx.getD 0 0 + tx.getD 1 0 + tx.getD 2 0
  seq : txSeq tx = (previous + 1) % 65536
  reserved : tx.getD 6 0 = 0 ∧ tx.getD 7 0 = 0
  frame : ∃ mp body, parseMpFrame (tx.drop 8) = some mp ∧ mp.flags >>> 4 = 0xA ∧
    le16 (tx.getD 1 0) (tx.getD 2 0) = 4 + mp.payload.length ∧
    Kernel.parseGoodixBody mp.payload = some body ∧ body.protoChecksumOk = true ∧
    body.cmd = cmd ∧ body.payload = payload ∧
    ∃ count, tx.drop (8 + (4 + mp.payload.length)) = List.replicate count 0
  aligned : 8 ∣ tx.length
  bounded : tx.length ≤ 0x200

theorem uapiMpLocal_length (txh : TxPktHdr) (payload : List Byte) :
    (uapiMpLocal txh payload).length = 4 + payload.length := by
  simp [uapiMpLocal]
  omega

/-- A wrapped frame that carries a command is a transmission of it. -/
theorem transmitted_espiTxBuffer {previous seq16 outCap : Nat} {cmd flags : Byte}
    {payload frame : List Byte} (word : Nat)
    (seqEq : seq16 = (previous + 1) % 65536) (command : flags >>> 4 = MP_TYPE_A)
    (built : User.goodixBuildFrame cmd payload outCap = .ok frame)
    (fits : 8 + (4 + frame.length) + espiTxPad (4 + frame.length) ≤ TX_BUFFER_SIZE) :
    Transmitted previous cmd payload
      (espiTxBuffer seq16 (uapiMpLocal ⟨flags, frame.length, word⟩ frame)) := by
  have frameLength := uapiMpLocal_length ⟨flags, frame.length, word⟩ frame
  have short : frame.length < GOODIX_MP_LEN_MAX := by
    unfold TX_BUFFER_SIZE at fits
    unfold GOODIX_MP_LEN_MAX
    omega
  obtain ⟨body, libraryParsed, checksum, cmdEq, payloadEq⟩ :=
    parseGoodixBody_goodixBuildFrame built []
  have bodyParsed := parseGoodixBody_toKernel frame
  rw [List.append_nil] at libraryParsed
  rw [libraryParsed] at bodyParsed
  refine ⟨rfl, rfl, ?_, ⟨rfl, rfl⟩, ⟨⟨flags, frame⟩, _, ?_, command, ?_, bodyParsed, checksum,
    cmdEq, payloadEq, ?_⟩, ?_, ?_⟩
  · rw [txSeq_espiTxBuffer, seqEq, Nat.mod_mod]
  · rw [drop_espiTxBuffer]
    exact parseMpFrame_uapiMpLocal command short word
  · change le16 (UInt8.ofNat _) (UInt8.ofNat (_ / 256)) = _
    rw [le16_ofNat, frameLength]
    unfold GOODIX_MP_LEN_MAX at short
    exact Nat.mod_eq_of_lt (by omega)
  · refine ⟨espiTxPad (4 + frame.length), ?_⟩
    rw [← List.drop_drop, drop_espiTxBuffer, ← frameLength, List.drop_left]
  · rw [espiTxBuffer_length]
    exact Nat.dvd_of_mod_eq_zero (espiTxPad_aligned _)
  · rw [espiTxBuffer_length, frameLength]
    exact fits

/-- The buffer of the library's sender is read back by the driver. -/
theorem ofBytes_devTxBuffer (mpType : Byte) {payload : List Byte}
    (admitted : payload.length ≤ IOCTL_TX_PAYLOAD_MAX) :
    TxPktHdr.ofBytes (devTxBuffer mpType payload) =
      ⟨goodixMpFlagsFromType mpType, payload.length, 0⟩ := by
  have lengthEq : payload.length % 65536 = payload.length := by
    unfold IOCTL_TX_PAYLOAD_MAX at admitted
    omega
  rw [devTxBuffer, TxPktHdr.ofBytes_bytes, lengthEq, Nat.zero_mod]

/-- The inversion of `gxfp_dev_send_packet` over the driver's `write(2)`: a
success means that the driver sent the frame of this packet. -/
theorem devSendPacket_uapiWrite {env : WriteEnv} {fd : Int} {malloc : Bool} {state : Transmitter}
    {mpType : Byte} {payload : List Byte}
    (sent : (devSendPacket (uapiWrite env) fd malloc state mpType payload).1 = 0) :
    ∃ next, espiWrite env.tx state
        (uapiMpLocal ⟨goodixMpFlagsFromType mpType, payload.length, 0⟩ payload) = (none, next) ∧
      devSendPacket (uapiWrite env) fd malloc state mpType payload = (0, next) := by
  unfold devSendPacket at sent ⊢
  split at sent
  · exact absurd sent (Int.ne_of_lt (rc_neg EINVAL))
  · rename_i opened
    rw [if_neg opened]
    split at sent
    · exact absurd sent (Int.ne_of_lt (rc_neg EMSGSIZE))
    · rename_i short
      rw [if_neg short]
      split at sent
      · exact absurd sent (Int.ne_of_lt (rc_neg ENOMEM))
      · rename_i allocated
        rw [if_neg allocated]
        dsimp only at sent ⊢
        have hdrEq := ofBytes_devTxBuffer mpType (Nat.not_lt.mp short)
        have payloadEq : (devTxBuffer mpType payload).drop TX_PKT_HDR_SIZE = payload := rfl
        rcases uapiWrite_cases env state (devTxBuffer mpType payload) with
          ⟨errno, failed⟩ | ⟨next, stored, written⟩
        · rw [failed] at sent
          dsimp only at sent
          rw [if_pos (rc_neg errno)] at sent
          exact absurd sent (Int.ne_of_lt (rc_neg errno))
        · rw [hdrEq, payloadEq] at stored
          refine ⟨next, stored, ?_⟩
          rw [written]
          dsimp only
          rw [if_neg (by omega), if_neg (by simp)]

/-- The transmit path is faithful: in every state a run of the driver reaches, a
command that the library reports as sent puts exactly one write into the
mailbox, and that write carries it. -/
theorem transmit_faithful (mailboxSize : Nat) (rxBuf : List Byte) (calls : List TxCall)
    {env : WriteEnv} {fd : Int} {malloc : Bool} {cmd : Byte} {payload : List Byte}
    (sent : (goodixSendAsync (uapiWrite env) fd malloc
      (final txStep (txProbe mailboxSize rxBuf) calls) cmd payload).1 = 0) :
    ∃ tx,
      (goodixSendAsync (uapiWrite env) fd malloc
        (final txStep (txProbe mailboxSize rxBuf) calls) cmd payload).2.writes =
        (final txStep (txProbe mailboxSize rxBuf) calls).writes ++ [tx] ∧
      Transmitted (lastSeq (final txStep (txProbe mailboxSize rxBuf) calls).writes) cmd payload
        tx := by
  have inv := final_seqInv mailboxSize rxBuf calls
  revert sent inv
  generalize final txStep (txProbe mailboxSize rxBuf) calls = state
  intro sent inv
  unfold goodixSendAsync at sent ⊢
  cases built : User.goodixBuildFrame cmd payload (1 + 2 + GOODIX_PAYLOAD_MAX + 1) with
  | error errno =>
      rw [built] at sent
      exact absurd sent (Int.ne_of_lt (rc_neg errno))
  | ok frame =>
      rw [built] at sent
      obtain ⟨next, stored, sentEq⟩ := devSendPacket_uapiWrite sent
      dsimp only
      rw [sentEq]
      rcases espiWrite_cases env.tx state (uapiMpLocal
          ⟨goodixMpFlagsFromType GOODIX_MP_TYPE_CMD, frame.length, 0⟩ frame) with
        ⟨errno, refused⟩ | ⟨fits, line, wrapped⟩
      · rw [refused] at stored
        cases stored
      · rw [wrapped] at stored
        cases stored
        rw [uapiMpLocal_length] at fits
        exact ⟨_, rfl, transmitted_espiTxBuffer 0 (next_seq inv) (by decide) built fits⟩

/-- A command without payload on a freshly probed device. -/
theorem transmit_faithful_nop :
    (goodixSendAsync (uapiWrite ⟨true, true, true, true⟩) 3 true (txProbe 0x1000 [])
        CMD_SEND_NOP []).1 = 0 ∧
      ∃ tx, (goodixSendAsync (uapiWrite ⟨true, true, true, true⟩) 3 true (txProbe 0x1000 [])
          CMD_SEND_NOP []).2.writes = [tx] ∧ Transmitted ESPI_SEQ16_INIT CMD_SEND_NOP [] tx := by
  have sent : (goodixSendAsync (uapiWrite ⟨true, true, true, true⟩) 3 true (txProbe 0x1000 [])
      CMD_SEND_NOP []).1 = 0 := by decide
  exact ⟨sent, transmit_faithful 0x1000 [] [] sent⟩

/-! ## Size limits -/

/-- The size check of `gxfp_espi_write` is the only source of `-EOVERFLOW`. -/
theorem espiWrite_overflow {kmalloc : Bool} {state : Transmitter} {mpFrame : List Byte}
    (refused : (espiWrite kmalloc state mpFrame).1 = some EOVERFLOW) :
    TX_BUFFER_SIZE < 8 + mpFrame.length + espiTxPad mpFrame.length := by
  unfold espiWrite at refused
  split at refused
  · cases refused
  · split at refused
    · cases refused
    · split at refused
      · rename_i long
        exact long
      · split at refused
        · cases refused
        · dsimp only at refused
          split at refused
          · cases refused
          · cases refused

/-- A write that fails with none of the errors of `gxfp_uapi_write` itself has
been refused by the transport. -/
theorem uapiWrite_refused {env : WriteEnv} {state : Transmitter} {ubuf : List Byte} {errno : Errno}
    (notEinval : errno ≠ EINVAL) (notEfault : errno ≠ EFAULT) (notEnomem : errno ≠ ENOMEM)
    (refused : (uapiWrite env state ubuf).1 = errno.rc) :
    (espiWrite env.tx state
      (uapiMpLocal (TxPktHdr.ofBytes ubuf) (ubuf.drop TX_PKT_HDR_SIZE))).1 = some errno := by
  unfold uapiWrite at refused
  split at refused
  · exact absurd (rc_injective refused).symm notEinval
  · split at refused
    · exact absurd (rc_injective refused).symm notEfault
    · dsimp only at refused
      split at refused
      · exact absurd (rc_injective refused).symm notEinval
      · split at refused
        · exact absurd (rc_injective refused).symm notEinval
        · split at refused
          · exact absurd (rc_injective refused).symm notEnomem
          · split at refused
            · exact absurd (rc_injective refused).symm notEfault
            · generalize espiWrite env.tx state _ = out at refused ⊢
              split at refused
              · rename_i other outEq
                rw [outEq, rc_injective refused]
              · have negative := rc_neg errno
                rw [← refused] at negative
                exact absurd negative (Int.not_lt.mpr (Int.natCast_nonneg _))

/-- The driver's `write(2)` never times out. -/
theorem uapiWrite_ne_timedOut (env : WriteEnv) (state : Transmitter) (ubuf : List Byte) :
    (uapiWrite env state ubuf).1 ≠ ETIMEDOUT.rc := by
  intro refused
  have transportRefused := uapiWrite_refused (by decide) (by decide) (by decide) refused
  unfold espiWrite at transportRefused
  split at transportRefused
  · cases transportRefused
  · split at transportRefused
    · cases transportRefused
    · split at transportRefused
      · cases transportRefused
      · split at transportRefused
        · cases transportRefused
        · dsimp only at transportRefused
          split at transportRefused
          · cases transportRefused
          · cases transportRefused

/-- A packet is never refused for its size: whatever the state of the driver,
the transport does not answer `-EOVERFLOW` to its frame, and the library's
sender does not return it. -/
def SizeAccepted (mpType : Byte) (payload : List Byte) : Prop :=
  ∀ state : Transmitter,
    (∀ kmalloc, (espiWrite kmalloc state
      (uapiMpLocal ⟨goodixMpFlagsFromType mpType, payload.length, 0⟩ payload)).1 ≠
        some EOVERFLOW) ∧
      ∀ env fd malloc,
        (devSendPacket (uapiWrite env) fd malloc state mpType payload).1 ≠ EOVERFLOW.rc

/-- The frame of a payload of up to 500 bytes fits the transmit buffer together
with the wrapper and the padding, and no longer one does. -/
theorem fits_txBuffer_iff (length : Nat) :
    8 + (4 + length) + espiTxPad (4 + length) ≤ TX_BUFFER_SIZE ↔ length ≤ 500 := by
  unfold espiTxPad ESPI_ALIGN TX_BUFFER_SIZE
  omega

/-- Of the payloads that both size checks admit, those of up to 500 bytes are
never refused for their size, and the longer ones are. -/
theorem sizeAccepted_iff (mpType : Byte) {payload : List Byte}
    (admitted : payload.length ≤ IOCTL_TX_PAYLOAD_MAX) :
    SizeAccepted mpType payload ↔ payload.length ≤ 500 := by
  constructor
  · intro accepted
    by_contra long
    have refused := (accepted (txProbe 0x1000 [])).1 true
    apply refused
    have overflow : 8 + (4 + payload.length) + espiTxPad (4 + payload.length) > TX_BUFFER_SIZE :=
      Nat.not_le.mp (fun fits => long ((fits_txBuffer_iff payload.length).mp fits))
    unfold espiWrite
    rw [uapiMpLocal_length, if_neg (by omega), if_neg (by decide), if_pos overflow]
  · intro short state
    have fits := (fits_txBuffer_iff payload.length).mpr short
    have accepted (kmalloc : Bool) : (espiWrite kmalloc state
        (uapiMpLocal ⟨goodixMpFlagsFromType mpType, payload.length, 0⟩ payload)).1 ≠
          some EOVERFLOW := by
      intro refused
      have overflow := espiWrite_overflow refused
      rw [uapiMpLocal_length] at overflow
      exact absurd fits (Nat.not_le.mpr overflow)
    refine ⟨accepted, ?_⟩
    intro env fd malloc refused
    have writeRefused : (uapiWrite env state (devTxBuffer mpType payload)).1 = EOVERFLOW.rc := by
      unfold devSendPacket at refused
      split at refused
      · cases refused
      · split at refused
        · cases refused
        · split at refused
          · cases refused
          · dsimp only at refused
            split at refused
            · exact refused
            · split at refused
              · cases refused
              · cases refused
    have transportRefused := uapiWrite_refused (by decide) (by decide) (by decide) writeRefused
    rw [ofBytes_devTxBuffer mpType admitted] at transportRefused
    exact accepted env.tx transportRefused

/-- A packet without payload is never refused. -/
theorem sizeAccepted_empty : SizeAccepted GOODIX_MP_TYPE_CMD [] :=
  (sizeAccepted_iff GOODIX_MP_TYPE_CMD (by decide)).mpr (by decide)

/-- The longest payload the size checks admit is refused on a freshly probed
device. -/
theorem not_sizeAccepted_full :
    (List.replicate 508 (0 : Byte)).length ≤ IOCTL_TX_PAYLOAD_MAX ∧
      (devSendPacket (uapiWrite ⟨true, true, true, true⟩) 3 true (txProbe 0x1000 [])
        GOODIX_MP_TYPE_CMD (List.replicate 508 0)).1 = EOVERFLOW.rc ∧
      ¬ SizeAccepted GOODIX_MP_TYPE_CMD (List.replicate 508 0) := by
  have refused : (devSendPacket (uapiWrite ⟨true, true, true, true⟩) 3 true (txProbe 0x1000 [])
      GOODIX_MP_TYPE_CMD (List.replicate 508 0)).1 = EOVERFLOW.rc := by
    decide +kernel
  refine ⟨by decide +kernel, refused, ?_⟩
  intro accepted
  exact (accepted (txProbe 0x1000 [])).2 ⟨true, true, true, true⟩ 3 true refused

end Gxfp
