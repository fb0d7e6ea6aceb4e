import Gxfp.User.Plain

/-!
# The scan for an image frame

`gxfp_plain_scan_for_nonpov_image_chunks` walks through a decrypted chunk: over
a whole frame where one can be parsed, over one byte elsewhere.  On a chunk
that is a sequence of built frames it stays in step with them, so it visits the
start of every frame and keeps the first one that holds an image.

The visits and the reads of a scan are written down along the loop, so that one
can say where it looks and that it never looks behind the end.
-/

namespace Gxfp.User

open Lib.Bytes
open Gxfp.Errno

/-! ## One round -/

section Round

variable (env : Env)

/-- What the scanner does with a parsed frame. -/
def plainScanFrame (io : Io) (sink : PlainImageSink) (frame : FrameParsed) :
    PlainImageSink × Io :=
  if (frame.cmd >>> 4) &&& 0x0F = 2 ∧ frame.payload.length ≥ 5 ∧ frame.payload.getD 0 0 ≠ 0xAA then
    (plainImageSinkAppend env io sink frame.payload).2
  else
    (sink, io)

/-- How far one round goes. -/
def plainScanAdvance (rest : List Byte) : Nat :=
  (parseGoodixBody rest).elim 1 fun frame => frame.payload.length + 4

/-- The sink after one round. -/
def plainScanRound (io : Io) (sink : PlainImageSink) (rest : List Byte) : PlainImageSink × Io :=
  (parseGoodixBody rest).elim (sink, io) (plainScanFrame env io sink)

/-- A parsed frame lies inside the buffer. -/
theorem parseGoodixBody_length {rest : List Byte} {frame : FrameParsed}
    (parse : parseGoodixBody rest = some frame) : frame.payload.length + 4 ≤ rest.length := by
  obtain ⟨low, high, trailing, restEq, -, -⟩ := parseGoodixBody_eq_some parse
  have lengthEq := congrArg List.length restEq
  simp only [List.length_append, List.length_cons, List.length_nil] at lengthEq
  omega

theorem plainScanAdvance_pos (rest : List Byte) : 0 < plainScanAdvance rest := by
  unfold plainScanAdvance
  cases parseGoodixBody rest with
  | none => exact Nat.zero_lt_one
  | some frame => exact Nat.succ_pos _

theorem plainScanAdvance_le {rest : List Byte} (long : 4 ≤ rest.length) :
    plainScanAdvance rest ≤ rest.length := by
  unfold plainScanAdvance
  cases parse : parseGoodixBody rest with
  | none => exact Nat.le_trans (by decide) long
  | some frame => exact parseGoodixBody_length parse

theorem plainScanLoop_stop {rounds : Nat} {rest : List Byte} (short : rest.length < 4)
    (sink : PlainImageSink) (io : Io) : plainScanLoop env rounds rest sink io = (sink, io) := by
  cases rounds with
  | zero => rfl
  | succ rounds => rw [plainScanLoop, if_pos short]

/-- One round of the loop. -/
theorem plainScanLoop_succ (rounds : Nat) {rest : List Byte} (long : 4 ≤ rest.length)
    (sink : PlainImageSink) (io : Io) :
    plainScanLoop env (rounds + 1) rest sink io =
      plainScanLoop env rounds (rest.drop (plainScanAdvance rest))
        (plainScanRound env io sink rest).1 (plainScanRound env io sink rest).2 := by
  rw [plainScanLoop, if_neg (Nat.not_lt.mpr long)]
  cases parse : parseGoodixBody rest with
  | none =>
      unfold plainScanAdvance plainScanRound
      rw [parse]
      rfl
  | some frame =>
      have inside := parseGoodixBody_length parse
      unfold plainScanAdvance plainScanRound
      rw [parse]
      dsimp only
      rw [if_pos ⟨Nat.succ_pos _, inside⟩]
      rfl

/-! ## Termination -/

/-- As many rounds as there are bytes are enough. -/
theorem plainScanLoop_rounds_enough (extra rounds : Nat) (rest : List Byte)
    (sink : PlainImageSink) (io : Io) (enough : rest.length ≤ rounds) :
    plainScanLoop env (rounds + extra) rest sink io = plainScanLoop env rounds rest sink io := by
  induction rounds generalizing rest sink io with
  | zero =>
      have short : rest.length < 4 := by omega
      rw [plainScanLoop_stop env short, plainScanLoop_stop env short]
  | succ rounds ih =>
      by_cases short : rest.length < 4
      · rw [plainScanLoop_stop env short, plainScanLoop_stop env short]
      · have long := Nat.not_lt.mp short
        have forward := plainScanAdvance_pos rest
        rw [Nat.succ_add, plainScanLoop_succ env _ long, plainScanLoop_succ env _ long]
        apply ih
        rw [List.length_drop]
        omega

/-! ## A sink that holds a frame -/

theorem plainScanRound_full {sink : PlainImageSink} (full : sink.haveOneframe = true) (io : Io)
    (rest : List Byte) : plainScanRound env io sink rest = (sink, io) := by
  have appended : ∀ payload, (plainImageSinkAppend env io sink payload).2 = (sink, io) := by
    intro payload
    unfold plainImageSinkAppend
    rw [full]
    split
    · rfl
    · rfl
  unfold plainScanRound
  cases parseGoodixBody rest with
  | none => rfl
  | some frame =>
      dsimp only [Option.elim, plainScanFrame]
      rw [appended, ite_self]

/-- A sink that holds a frame is left as it is. -/
theorem plainScanLoop_full {sink : PlainImageSink} (full : sink.haveOneframe = true) (io : Io)
    (rounds : Nat) (rest : List Byte) :
    plainScanLoop env rounds rest sink io = (sink, io) := by
  induction rounds generalizing rest with
  | zero => rfl
  | succ rounds ih =>
      by_cases short : rest.length < 4
      · exact plainScanLoop_stop env short sink io
      · rw [plainScanLoop_succ env rounds (Nat.not_lt.mp short), plainScanRound_full env full]
        exact ih _

end Round

/-! ## Reads -/

section Reads

variable (env : Env)

/-- The reads of `gxfp_parse_goodix_body`, as offsets in its buffer. -/
def parseGoodixBodyReads (buf : List Byte) : List Nat :=
  if buf.length < 4 then
    []
  else
    let declLen := le16 (buf.getD 1 0) (buf.getD 2 0)
    [0, 1, 2] ++
      if declLen < 1 then
        []
      else if 3 + (declLen - 1) + 1 > buf.length then
        []
      else
        (3 + (declLen - 1)) :: (List.range (declLen - 1)).map fun index => 3 + index

/-- The reads of `gxfp_image_crc_check` in a body of the given length. -/
def imageCrcCheckReads (length : Nat) : List Nat :=
  if length < 4 then
    []
  else
    List.range (length - 4) ++ [length - 2, length - 1, length - 4, length - 3]

/-- The reads of `gxfp_plain_image_sink_append` in the payload. -/
def plainImageSinkAppendReads (io : Io) (sink : PlainImageSink) (payload : List Byte) : List Nat :=
  if payload.length = 0 then
    []
  else if sink.haveOneframe then
    []
  else if payload.length < 5 then
    []
  else
    ((imageCrcCheckReads (payload.length - 5)).map fun index => 5 + index) ++
      if !imageCrcCheck (payload.drop 5) then
        []
      else if !env.malloc io.count then
        []
      else
        ((List.range (payload.length - 5)).map fun index => 5 + index) ++ List.range 5

/-- The reads of the scanner in the payload of a parsed frame. -/
def plainScanFrameReads (io : Io) (sink : PlainImageSink) (frame : FrameParsed) : List Nat :=
  if (frame.cmd >>> 4) &&& 0x0F = 2 then
    if frame.payload.length ≥ 5 then
      0 ::
        if frame.payload.getD 0 0 ≠ 0xAA then
          plainImageSinkAppendReads env io sink frame.payload
        else
          []
    else
      []
  else
    []

/-- The reads of one round, as offsets in what is left. -/
def plainScanRoundReads (io : Io) (sink : PlainImageSink) (rest : List Byte) : List Nat :=
  parseGoodixBodyReads rest ++
    (parseGoodixBody rest).elim [] fun frame =>
      (plainScanFrameReads env io sink frame).map fun index => 3 + index

/-- The reads of the loop from offset `off` on. -/
def plainScanLoopReads : Nat → Nat → List Byte → PlainImageSink → Io → List Nat
  | 0, _, _, _, _ => []
  | rounds + 1, off, rest, sink, io =>
      if rest.length < 4 then
        []
      else
        ((plainScanRoundReads env io sink rest).map fun index => off + index) ++
          plainScanLoopReads rounds (off + plainScanAdvance rest)
            (rest.drop (plainScanAdvance rest)) (plainScanRound env io sink rest).1
            (plainScanRound env io sink rest).2

/-- The reads of a whole scan. -/
def plainScanReads (io : Io) (buf : List Byte) (sink : PlainImageSink) : List Nat :=
  if buf.length < 8 then [] else plainScanLoopReads env buf.length 0 buf sink io

theorem parseGoodixBodyReads_lt (buf : List Byte) :
    ∀ index ∈ parseGoodixBodyReads buf, index < buf.length := by
  intro index member
  unfold parseGoodixBodyReads at member
  split at member
  · cases member
  · rename_i long
    rcases List.mem_append.mp member with header | body
    · simp only [List.mem_cons, List.not_mem_nil, or_false] at header
      omega
    · split at body
      · cases body
      · split at body
        · cases body
        · rcases List.mem_cons.mp body with rfl | inPayload
          · omega
          · obtain ⟨position, positionMem, rfl⟩ := List.mem_map.mp inPayload
            have positionLt := List.mem_range.mp positionMem
            omega

theorem imageCrcCheckReads_lt (length : Nat) :
    ∀ index ∈ imageCrcCheckReads length, index < length := by
  intro index member
  unfold imageCrcCheckReads at member
  split at member
  · cases member
  · rcases List.mem_append.mp member with front | tail
    · have inFront := List.mem_range.mp front
      omega
    · simp only [List.mem_cons, List.not_mem_nil, or_false] at tail
      omega

theorem plainImageSinkAppendReads_lt (io : Io) (sink : PlainImageSink) (payload : List Byte) :
    ∀ index ∈ plainImageSinkAppendReads env io sink payload, index < payload.length := by
  intro index member
  unfold plainImageSinkAppendReads at member
  split at member
  · cases member
  · split at member
    · cases member
    · split at member
      · cases member
      · rcases List.mem_append.mp member with checked | copied
        · obtain ⟨position, positionMem, rfl⟩ := List.mem_map.mp checked
          have inBody := imageCrcCheckReads_lt _ position positionMem
          omega
        · split at copied
          · cases copied
          · split at copied
            · cases copied
            · rcases List.mem_append.mp copied with body | header
              · obtain ⟨position, positionMem, rfl⟩ := List.mem_map.mp body
                have inBody := List.mem_range.mp positionMem
                omega
              · have inHeader := List.mem_range.mp header
                omega

theorem plainScanFrameReads_lt (io : Io) (sink : PlainImageSink) (frame : FrameParsed) :
    ∀ index ∈ plainScanFrameReads env io sink frame, index < frame.payload.length := by
  intro index member
  unfold plainScanFrameReads at member
  split at member
  · split at member
    · rcases List.mem_cons.mp member with rfl | appended
      · omega
      · split at appended
        · exact plainImageSinkAppendReads_lt env io sink frame.payload index appended
        · cases appended
    · cases member
  · cases member

theorem plainScanRoundReads_lt (io : Io) (sink : PlainImageSink) (rest : List Byte) :
    ∀ index ∈ plainScanRoundReads env io sink rest, index < rest.length := by
  intro index member
  unfold plainScanRoundReads at member
  rcases List.mem_append.mp member with parsing | framed
  · exact parseGoodixBodyReads_lt rest index parsing
  · cases parse : parseGoodixBody rest with
    | none =>
        rw [parse] at framed
        cases framed
    | some frame =>
        rw [parse] at framed
        obtain ⟨position, positionMem, rfl⟩ := List.mem_map.mp framed
        have inFrame := plainScanFrameReads_lt env io sink frame position positionMem
        have inside := parseGoodixBody_length parse
        omega

/-- The loop reads only what is left of the buffer. -/
theorem plainScanLoopReads_lt (rounds off : Nat) (rest : List Byte) (sink : PlainImageSink)
    (io : Io) :
    ∀ index ∈ plainScanLoopReads env rounds off rest sink io, index < off + rest.length := by
  induction rounds generalizing off rest sink io with
  | zero =>
      intro index member
      cases member
  | succ rounds ih =>
      intro index member
      rw [plainScanLoopReads] at member
      split at member
      · cases member
      · rename_i long
        rcases List.mem_append.mp member with now | later
        · obtain ⟨position, positionMem, rfl⟩ := List.mem_map.mp now
          have inRest := plainScanRoundReads_lt env io sink rest position positionMem
          omega
        · have inLater := ih _ _ _ _ index later
          have inside := plainScanAdvance_le (Nat.not_lt.mp long)
          rw [List.length_drop] at inLater
          omega

theorem plainScanReads_lt (io : Io) (buf : List Byte) (sink : PlainImageSink) :
    ∀ index ∈ plainScanReads env io buf sink, index < buf.length := by
  intro index member
  unfold plainScanReads at member
  split at member
  · cases member
  · have inBuf := plainScanLoopReads_lt env buf.length 0 buf sink io index member
    rwa [Nat.zero_add] at inBuf

end Reads

/-! ## Visits -/

/-- The offsets at which the loop tries to parse, from offset `off` on. -/
def plainScanLoopVisits : Nat → Nat → List Byte → List Nat
  | 0, _, _ => []
  | rounds + 1, off, rest =>
      if rest.length < 4 then
        []
      else
        off :: plainScanLoopVisits rounds (off + plainScanAdvance rest)
          (rest.drop (plainScanAdvance rest))

/-- The offsets at which a scan tries to parse. -/
def plainScanVisits (buf : List Byte) : List Nat :=
  if buf.length < 8 then [] else plainScanLoopVisits buf.length 0 buf

/-- A frame with the bytes `gxfp_goodix_build_frame` made of it. -/
structure BuiltFrame where
  cmd : Byte
  payload : List Byte
  outCap : Nat
  bytes : List Byte
  built : goodixBuildFrame cmd payload outCap = .ok bytes

namespace BuiltFrame

/-- The frame holds an image that the sink takes. -/
def isImage (frame : BuiltFrame) : Bool :=
  (frame.cmd >>> 4) &&& 0x0F = 2 && 9 ≤ frame.payload.length && frame.payload.getD 0 0 ≠ 0xAA &&
    imageCrcCheck (frame.payload.drop 5)

/-- The sink with the frame. -/
def kept (frame : BuiltFrame) : PlainImageSink :=
  ⟨frame.payload.take 5, some (frame.payload.drop 5), true⟩

theorem bytes_length (frame : BuiltFrame) : frame.bytes.length = frame.payload.length + 4 := by
  rw [(goodixBuildFrame_ok frame.built).2]
  simp

end BuiltFrame

/-- The bytes of a list of frames. -/
def frameBytes (frames : List BuiltFrame) : List Byte :=
  frames.flatMap BuiltFrame.bytes

/-- The offsets where the frames of a list start. -/
def frameStarts : Nat → List BuiltFrame → List Nat
  | _, [] => []
  | off, frame :: frames => off :: frameStarts (off + frame.bytes.length) frames

section Frames

variable (env : Env)

/-- At the start of a frame the loop goes over the whole frame. -/
theorem plainScanAdvance_frame (frame : BuiltFrame) (trailing : List Byte) :
    plainScanAdvance (frame.bytes ++ trailing) = frame.bytes.length := by
  obtain ⟨parsed, parse, -, -, payloadEq⟩ := parseGoodixBody_goodixBuildFrame frame.built trailing
  unfold plainScanAdvance
  rw [parse, frame.bytes_length, ← payloadEq]
  rfl

/-- The loop visits the frames of a list, and nothing else. -/
theorem plainScanLoopVisits_frames (frames : List BuiltFrame) (rounds off : Nat)
    (enough : (frameBytes frames).length ≤ rounds) :
    plainScanLoopVisits rounds off (frameBytes frames) = frameStarts off frames := by
  induction frames generalizing rounds off with
  | nil =>
      cases rounds with
      | zero => rfl
      | succ rounds => rfl
  | cons frame frames ih =>
      have frameLength := frame.bytes_length
      have bytesEq : frameBytes (frame :: frames) = frame.bytes ++ frameBytes frames := rfl
      rw [bytesEq, List.length_append] at enough
      obtain ⟨rounds, rfl⟩ : ∃ less, rounds = less + 1 := ⟨rounds - 1, by omega⟩
      have long : ¬ (frame.bytes ++ frameBytes frames).length < 4 := by
        rw [List.length_append]
        omega
      rw [bytesEq, plainScanLoopVisits, if_neg long, plainScanAdvance_frame, List.drop_left,
        frameStarts, ih rounds _ (by omega)]

/-- A body with a right checksum is at least as long as the checksum. -/
theorem imageCrcCheck_long {payload : List Byte} (right : imageCrcCheck (payload.drop 5) = true) :
    9 ≤ payload.length := by
  have long : ¬ (payload.drop 5).length < 4 := by
    intro short
    rw [imageCrcCheck, if_pos short] at right
    cases right
  rw [List.length_drop] at long
  omega

/-- What an empty sink is after a payload. -/
theorem plainImageSinkAppend_empty (allocated : ∀ request, env.malloc request = true)
    {sink : PlainImageSink} (empty : sink.haveOneframe = false) (io : Io) (payload : List Byte) :
    (plainImageSinkAppend env io sink payload).2.1 =
      if imageCrcCheck (payload.drop 5) then
        ⟨payload.take 5, some (payload.drop 5), true⟩
      else
        sink := by
  unfold plainImageSinkAppend
  by_cases right : imageCrcCheck (payload.drop 5) = true
  · have long := imageCrcCheck_long right
    rw [if_neg (by omega), if_neg (by rw [empty]; decide), if_neg (by omega),
      if_neg (by rw [right]; decide), if_neg (by rw [allocated]; decide), if_pos right]
  · rw [if_neg right]
    have wrong : (!imageCrcCheck (payload.drop 5)) = true := by
      rw [Bool.not_eq_true']
      exact Bool.eq_false_iff.mpr right
    rw [if_pos wrong]
    split
    · rfl
    · split
      · rfl
      · split
        · rfl
        · rfl

/-- What an empty sink is after a frame. -/
theorem plainScanRound_frame (allocated : ∀ request, env.malloc request = true)
    {sink : PlainImageSink} (empty : sink.haveOneframe = false) (io : Io) (frame : BuiltFrame)
    (trailing : List Byte) :
    (plainScanRound env io sink (frame.bytes ++ trailing)).1 =
      if frame.isImage then frame.kept else sink := by
  obtain ⟨parsed, parse, -, cmdEq, payloadEq⟩ :=
    parseGoodixBody_goodixBuildFrame frame.built trailing
  unfold plainScanRound
  rw [parse]
  dsimp only [Option.elim, plainScanFrame]
  rw [cmdEq, payloadEq]
  by_cases image : frame.isImage = true
  · rw [if_pos image]
    simp only [BuiltFrame.isImage, Bool.and_eq_true, decide_eq_true_eq] at image
    obtain ⟨⟨⟨nibble, long⟩, notPov⟩, right⟩ := image
    rw [if_pos ⟨nibble, by omega, notPov⟩, plainImageSinkAppend_empty env allocated empty,
      if_pos right]
    rfl
  · rw [if_neg image]
    by_cases tried : (frame.cmd >>> 4) &&& 0x0F = 2 ∧ frame.payload.length ≥ 5 ∧
        frame.payload.getD 0 0 ≠ 0xAA
    · have wrong : ¬ imageCrcCheck (frame.payload.drop 5) = true := by
        intro right
        apply image
        simp only [BuiltFrame.isImage, Bool.and_eq_true, decide_eq_true_eq]
        exact ⟨⟨⟨tried.1, imageCrcCheck_long right⟩, tried.2.2⟩, right⟩
      rw [if_pos tried, plainImageSinkAppend_empty env allocated empty, if_neg wrong]
    · rw [if_neg tried]

/-- The loop over a list of frames keeps the first image. -/
theorem plainScanLoop_frames (allocated : ∀ request, env.malloc request = true)
    {sink : PlainImageSink} (empty : sink.haveOneframe = false) (frames : List BuiltFrame)
    (rounds : Nat) (io : Io) (enough : (frameBytes frames).length ≤ rounds) :
    (plainScanLoop env rounds (frameBytes frames) sink io).1 =
      (frames.find? BuiltFrame.isImage).elim sink BuiltFrame.kept := by
  induction frames generalizing rounds io with
  | nil =>
      rw [plainScanLoop_stop env (by decide)]
      rfl
  | cons frame frames ih =>
      have frameLength := frame.bytes_length
      have bytesEq : frameBytes (frame :: frames) = frame.bytes ++ frameBytes frames := rfl
      rw [bytesEq, List.length_append] at enough
      obtain ⟨rounds, rfl⟩ : ∃ less, rounds = less + 1 := ⟨rounds - 1, by omega⟩
      have long : 4 ≤ (frame.bytes ++ frameBytes frames).length := by
        rw [List.length_append]
        omega
      rw [bytesEq, plainScanLoop_succ env rounds long, plainScanAdvance_frame, List.drop_left,
        plainScanRound_frame env allocated empty, List.find?_cons]
      cases image : frame.isImage with
      | true =>
          rw [if_pos rfl, plainScanLoop_full env rfl]
          rfl
      | false =>
          rw [if_neg Bool.false_ne_true]
          exact ih rounds _ (by omega)

/-- A list of frames with an image is never too short to be scanned. -/
theorem find?_isImage_of_short {frames : List BuiltFrame}
    (short : (frameBytes frames).length < 8) : frames.find? BuiltFrame.isImage = none := by
  rw [List.find?_eq_none]
  intro frame member image
  simp only [BuiltFrame.isImage, Bool.and_eq_true, decide_eq_true_eq] at image
  have inside : frame.bytes.length ≤ (frameBytes frames).length :=
    (List.sublist_flatten_of_mem (List.mem_map_of_mem member)).length_le
  rw [frame.bytes_length] at inside
  omega

/-- `gxfp_plain_scan_for_nonpov_image_chunks`.  On built frames it visits the
start of every frame, unless all of them together are shorter than the eight
bytes it asks for, and an empty sink then holds the first image among them.  On
any bytes it leaves a sink with a frame alone, it ends after at most as many
rounds as there are bytes, and it reads nothing behind the end. -/
theorem plainScan_frames (io : Io) :
    (∀ frames : List BuiltFrame,
      plainScanVisits (frameBytes frames) =
          (if (frameBytes frames).length < 8 then [] else frameStarts 0 frames) ∧
        ∀ sink : PlainImageSink, sink.haveOneframe = false →
          (∀ request, env.malloc request = true) →
          (plainScanForNonpovImageChunks env io (frameBytes frames) sink).1 =
            (frames.find? BuiltFrame.isImage).elim sink BuiltFrame.kept) ∧
      ∀ (buf : List Byte) (sink : PlainImageSink),
        (sink.haveOneframe = true →
            (plainScanForNonpovImageChunks env io buf sink).1 = sink) ∧
          (∀ extra, plainScanLoop env (buf.length + extra) buf sink io =
            plainScanLoop env buf.length buf sink io) ∧
          ∀ index ∈ plainScanReads env io buf sink, index < buf.length := by
  constructor
  · intro frames
    constructor
    · unfold plainScanVisits
      rw [plainScanLoopVisits_frames frames _ 0 (Nat.le_refl _)]
    · intro sink empty allocated
      unfold plainScanForNonpovImageChunks
      by_cases short : (frameBytes frames).length < 8
      · rw [if_pos short, find?_isImage_of_short short]
        rfl
      · rw [if_neg short]
        exact plainScanLoop_frames env allocated empty frames _ io (Nat.le_refl _)
  · intro buf sink
    refine ⟨?_, ?_, plainScanReads_lt env io buf sink⟩
    · intro full
      unfold plainScanForNonpovImageChunks
      rw [plainScanLoop_full env full, ite_self]
    · intro extra
      exact plainScanLoop_rounds_enough env extra _ buf sink io (Nat.le_refl _)

end Frames

/-- A frame without payload. -/
def emptyFrame : BuiltFrame where
  cmd := 0
  payload := []
  outCap := 4
  bytes := [0, 1, 0, 0xA9]
  built := by decide

/-- A single frame without payload is not visited. -/
theorem plainScanVisits_emptyFrame :
    ¬ ∀ frames : List BuiltFrame, plainScanVisits (frameBytes frames) = frameStarts 0 frames := by
  intro visited
  have atStart := visited [emptyFrame]
  exact absurd atStart (by decide)

/-- A frame with an image of no bytes. -/
def emptyImageFrame : BuiltFrame where
  cmd := 0x20
  payload := [1, 2, 3, 4, 5, 0xFF, 0xFF, 0xFF, 0xFF]
  outCap := 13
  bytes := [0x20, 10, 0, 1, 2, 3, 4, 5, 0xFF, 0xFF, 0xFF, 0xFF, 0x75]
  built := by decide

/-- The scan finds the image behind another frame. -/
theorem plainScan_two_frames :
    plainScanVisits (frameBytes [emptyFrame, emptyImageFrame]) = [0, 4] ∧
      (plainScanForNonpovImageChunks steadyEnv ⟨0, []⟩ (frameBytes [emptyFrame, emptyImageFrame])
        plainImageSinkReset).1 = ⟨[1, 2, 3, 4, 5], some [0xFF, 0xFF, 0xFF, 0xFF], true⟩ := by
  have scanned := (plainScan_frames steadyEnv ⟨0, []⟩).1 [emptyFrame, emptyImageFrame]
  exact ⟨scanned.1, scanned.2 plainImageSinkReset rfl fun _ => rfl⟩

end Gxfp.User
