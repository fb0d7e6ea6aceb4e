import Gxfp.Fprint.Sigfm

/-!
# Reads past the end of a template

Every value of a trivial type is taken off the stream by `operator>>`, which
throws when too few bytes are left.  The data of the descriptor matrix is taken
off by `stream::read`, which does not look: the matrix has the size its rows,
columns and type ask for, whatever the template still contains.

The file says for which byte strings that read goes past the end.
-/

namespace Gxfp.Fprint

open Lib.Bytes
open Lib.Serial

variable {cv : OpenCv}

/-! ## The fields of a template -/

/-- The word at an offset of a template. -/
def wordField (bytes : List Byte) (offset : Nat) : UInt32 :=
  UInt32.ofNat (leNat ((bytes.drop offset).take 4))

/-- The number of rows of the matrix of a template. -/
def rowsField (bytes : List Byte) : UInt32 :=
  wordField bytes (typeOffset bytes + 4)

/-- The number of columns of the matrix of a template. -/
def colsField (bytes : List Byte) : UInt32 :=
  wordField bytes (typeOffset bytes + 8)

/-- Where the data of the matrix starts. -/
def dataOffset (bytes : List Byte) : Nat :=
  typeOffset bytes + 12

/-- The size of the matrix a template asks for. -/
def matDataSize (cv : OpenCv) (bytes : List Byte) : Nat :=
  (rowsField bytes).toNat * (colsField bytes).toNat *
    cv.elemSize (cv.matType (typeField bytes))

/-- The template is complete up to the data of a matrix that can be created, and
ends before the end of that data. -/
def MatDataCut (cv : OpenCv) (bytes : List Byte) : Prop :=
  leNat (bytes.take 8) ≤ vectorMaxSize KEYPOINT_SIZE ∧
    dataOffset bytes ≤ bytes.length ∧
    cv.creates (rowsField bytes) (colsField bytes) (typeField bytes) = true ∧
    bytes.length < dataOffset bytes + matDataSize cv bytes

/-! ## Trivial types -/

theorem streamRead_eq {dist : Nat} {bytes : List Byte} (more : dist ≤ bytes.length) :
    streamRead dist bytes =
      .ok ⟨bytes.take dist, List.length_take_of_le more⟩ (bytes.drop dist) := by
  rw [streamRead, dif_pos more]

/-- What `operator>>` copies when there is enough of it. -/
theorem streamExtract_eq {size : Nat} {bytes : List Byte} (more : size ≤ bytes.length) :
    streamExtract size bytes =
      .ok ⟨bytes.take size, List.length_take_of_le more⟩ (bytes.drop size) := by
  rw [streamExtract, if_neg (Nat.not_lt.mpr more), streamRead_eq more]

theorem streamExtract_sized (size : Nat) : Sized size (streamExtract size) where
  short := by
    intro bytes less
    rw [streamExtract, if_pos less]
  enough := by
    intro bytes more
    exact ⟨_, streamExtract_eq more⟩

theorem deserializeWord_sized : Sized 4 deserializeWord :=
  (streamExtract_sized 4).bind fun _ => Sized.pure _

theorem deserializeSize_sized : Sized 8 deserializeSize :=
  (streamExtract_sized 8).bind fun _ => Sized.pure _

theorem deserializePoint_sized : Sized 8 deserializePoint :=
  deserializeWord_sized.bind fun _ => deserializeWord_sized.bind fun _ => Sized.pure _

theorem deserializeKeyPoint_sized : Sized KEYPOINT_SIZE deserializeKeyPoint :=
  deserializeWord_sized.bind fun _ => deserializeWord_sized.bind fun _ =>
    deserializeWord_sized.bind fun _ => deserializeWord_sized.bind fun _ =>
      deserializeWord_sized.bind fun _ => deserializePoint_sized.bind fun _ => Sized.pure _

theorem deserializeSize_eq {bytes : List Byte} (more : 8 ≤ bytes.length) :
    deserializeSize bytes = .ok (leNat (bytes.take 8)) (bytes.drop 8) := by
  rw [deserializeSize, Reader.bind_of_ok (streamExtract_eq more)]
  rfl

theorem deserializeWord_eq {bytes : List Byte} {offset : Nat} (more : offset + 4 ≤ bytes.length) :
    deserializeWord (bytes.drop offset) =
      .ok (wordField bytes offset) (bytes.drop (offset + 4)) := by
  have enough : 4 ≤ (bytes.drop offset).length := by
    rw [List.length_drop]
    omega
  rw [deserializeWord, Reader.bind_of_ok (streamExtract_eq enough), List.drop_drop]
  rfl

/-- The key points are read when the vector can be held and its bytes are
there. -/
theorem deserializeKeypoints_eq {bytes : List Byte}
    (held : leNat (bytes.take 8) ≤ vectorMaxSize KEYPOINT_SIZE)
    (more : typeOffset bytes ≤ bytes.length) :
    ∃ keypoints, deserializeVector KEYPOINT_SIZE deserializeKeyPoint bytes =
      .ok keypoints (bytes.drop (typeOffset bytes)) := by
  unfold typeOffset at more ⊢
  obtain ⟨keypoints, read⟩ :=
    (deserializeKeyPoint_sized.times (leNat (bytes.take 8))).enough (bytes.drop 8) (by
      rw [List.length_drop]
      omega)
  refine ⟨keypoints, ?_⟩
  rw [deserializeVector, Reader.bind_of_ok (deserializeSize_eq (by omega)),
    if_neg (Nat.not_lt.mpr held), read, List.drop_drop]

/-- Otherwise the vector throws. -/
theorem deserializeKeypoints_thrown {bytes : List Byte}
    (refused : ¬ (leNat (bytes.take 8) ≤ vectorMaxSize KEYPOINT_SIZE ∧
      typeOffset bytes ≤ bytes.length)) :
    deserializeVector KEYPOINT_SIZE deserializeKeyPoint bytes = .thrown := by
  by_cases short : bytes.length < 8
  · exact Reader.bind_of_thrown (deserializeSize_sized.short bytes short) _
  · rw [deserializeVector, Reader.bind_of_ok (deserializeSize_eq (Nat.le_of_not_lt short))]
    by_cases tooMany : vectorMaxSize KEYPOINT_SIZE < leNat (bytes.take 8)
    · rw [if_pos tooMany]
      rfl
    · rw [if_neg tooMany]
      apply (deserializeKeyPoint_sized.times (leNat (bytes.take 8))).short
      have less : ¬ typeOffset bytes ≤ bytes.length := fun more =>
        refused ⟨Nat.le_of_not_lt tooMany, more⟩
      unfold typeOffset at less
      rw [List.length_drop]
      omega

/-! ## The matrix -/

/-- Where the three words of the matrix are not all there, one of them throws. -/
theorem deserializeMat_thrown {bytes : List Byte} (short : bytes.length < 12) :
    deserializeMat cv bytes = .thrown := by
  have word (offset : Nat) (less : bytes.length < offset + 4) :
      deserializeWord (bytes.drop offset) = .thrown := by
    apply deserializeWord_sized.short
    rw [List.length_drop]
    omega
  rw [deserializeMat]
  by_cases typeThere : 4 ≤ bytes.length
  · have readType : deserializeWord (bytes.drop 0) = .ok _ (bytes.drop (0 + 4)) :=
      deserializeWord_eq (by omega)
    rw [List.drop_zero, Nat.zero_add] at readType
    rw [Reader.bind_of_ok readType]
    by_cases rowsThere : 8 ≤ bytes.length
    · rw [Reader.bind_of_ok (deserializeWord_eq (by omega))]
      exact Reader.bind_of_thrown (word 8 (by omega)) _
    · exact Reader.bind_of_thrown (word 4 (by omega)) _
  · have missing := word 0 (by omega)
    rw [List.drop_zero] at missing
    exact Reader.bind_of_thrown missing _

/-- Where they are, the read of the data decides. -/
theorem deserializeMat_outOfBounds_iff {bytes : List Byte} {offset : Nat}
    (more : offset + 12 ≤ bytes.length) :
    deserializeMat cv (bytes.drop offset) = .outOfBounds ↔
      cv.creates (wordField bytes (offset + 4)) (wordField bytes (offset + 8))
          (wordField bytes offset) = true ∧
        bytes.length < offset + 12 +
          (wordField bytes (offset + 4)).toNat * (wordField bytes (offset + 8)).toNat *
            cv.elemSize (cv.matType (wordField bytes offset)) := by
  have readType : deserializeWord (bytes.drop offset) = .ok _ (bytes.drop (offset + 4)) :=
    deserializeWord_eq (by omega)
  have readRows : deserializeWord (bytes.drop (offset + 4)) = .ok _ (bytes.drop (offset + 8)) :=
    deserializeWord_eq (by omega)
  have readCols : deserializeWord (bytes.drop (offset + 8)) = .ok _ (bytes.drop (offset + 12)) :=
    deserializeWord_eq (by omega)
  rw [deserializeMat, Reader.bind_of_ok readType, Reader.bind_of_ok readRows,
    Reader.bind_of_ok readCols]
  by_cases created : cv.creates (wordField bytes (offset + 4)) (wordField bytes (offset + 8))
      (wordField bytes offset) = true
  · rw [dif_pos created]
    constructor
    · intro past
      refine ⟨created, Nat.lt_of_not_le fun inside => ?_⟩
      have enough := Nat.le_sub_of_add_le' inside
      rw [← List.length_drop] at enough
      rw [Reader.bind_of_ok (streamRead_eq enough)] at past
      cases past
    · rintro ⟨_, less⟩
      apply Reader.bind_of_outOfBounds
      rw [streamRead, dif_neg]
      rw [List.length_drop]
      omega
  · rw [dif_neg created]
    constructor
    · intro thrown
      cases thrown
    · rintro ⟨wasCreated, _⟩
      exact absurd wasCreated created

/-- Reading a template goes past its end exactly when the template is cut in the
data of its matrix. -/
theorem deserializeImgInfo_outOfBounds_iff (cv : OpenCv) (bytes : List Byte) :
    deserializeImgInfo cv bytes = .outOfBounds ↔ MatDataCut cv bytes := by
  by_cases keypointsThere :
      leNat (bytes.take 8) ≤ vectorMaxSize KEYPOINT_SIZE ∧ typeOffset bytes ≤ bytes.length
  · obtain ⟨held, there⟩ := keypointsThere
    obtain ⟨keypoints, read⟩ := deserializeKeypoints_eq held there
    rw [deserializeImgInfo, Reader.bind_of_ok read]
    by_cases wordsThere : dataOffset bytes ≤ bytes.length
    · have decides := @deserializeMat_outOfBounds_iff cv _ _ wordsThere
      cases reading : deserializeMat cv (bytes.drop (typeOffset bytes)) with
      | ok descriptors rest =>
          rw [reading] at decides
          rw [Reader.bind_of_ok reading]
          constructor
          · intro past
            cases past
          · rintro ⟨_, _, created, less⟩
            cases decides.mpr ⟨created, less⟩
      | thrown =>
          rw [reading] at decides
          rw [Reader.bind_of_thrown reading]
          constructor
          · intro past
            cases past
          · rintro ⟨_, _, created, less⟩
            cases decides.mpr ⟨created, less⟩
      | outOfBounds =>
          obtain ⟨created, less⟩ := decides.mp reading
          rw [Reader.bind_of_outOfBounds reading]
          constructor
          · intro _
            exact ⟨held, wordsThere, created, less⟩
          · intro _
            rfl
    · have short : (bytes.drop (typeOffset bytes)).length < 12 := by
        unfold dataOffset at wordsThere
        rw [List.length_drop]
        omega
      rw [Reader.bind_of_thrown (deserializeMat_thrown short)]
      constructor
      · intro past
        cases past
      · rintro ⟨_, complete, _⟩
        exact absurd complete wordsThere
  · rw [deserializeImgInfo, Reader.bind_of_thrown (deserializeKeypoints_thrown keypointsThere)]
    constructor
    · intro past
      cases past
    · rintro ⟨held, complete, _⟩
      unfold dataOffset at complete
      exact absurd ⟨held, by omega⟩ keypointsThere

/-- `sigfm_deserialize_binary` stays inside the bytes it is given exactly when
there are as many as it is told and they are not cut in the data of the
matrix. -/
theorem sigfmDeserializeBinary_inside_iff (cv : OpenCv) (bytes : List Byte) (len : Int) :
    sigfmDeserializeBinary cv bytes len ≠ .outOfBounds ↔
      len.toNat ≤ bytes.length ∧ ¬ MatDataCut cv (bytes.take len.toNat) := by
  have reads := deserializeImgInfo_outOfBounds_iff cv (bytes.take len.toNat)
  unfold sigfmDeserializeBinary
  by_cases negative : len < 0
  · have none : len.toNat = 0 := by omega
    rw [if_pos negative, none, List.take_zero]
    constructor
    · intro _
      refine ⟨Nat.zero_le _, ?_⟩
      rintro ⟨_, complete, _⟩
      cases complete
    · intro _ past
      cases past
  · rw [if_neg negative]
    by_cases promised : len.toNat ≤ bytes.length
    · rw [if_neg (Nat.not_lt.mpr promised), ← reads]
      cases deserializeImgInfo cv (bytes.take len.toNat) with
      | ok info rest => simp [promised]
      | thrown => simp [promised]
      | outOfBounds => simp
    · rw [if_pos (Nat.lt_of_not_le promised)]
      simp [promised]

/-- A template of no key points and a matrix of one byte, without that byte. -/
theorem sigfmDeserializeBinary_past_end :
    sigfmDeserializeBinary opencv4
      [0, 0, 0, 0, 0, 0, 0, 0, 0, 0, 0, 0, 1, 0, 0, 0, 1, 0, 0, 0] 20 = .outOfBounds :=
  rfl

end Gxfp.Fprint
