import Gxfp.Fprint.Binary

/-!
# Stored SIGFM templates

Embeds `sigfm_serialize_binary` and `sigfm_deserialize_binary` of
`libfprint/libfprint/sigfm/sigfm.cpp`.  Both pass the length of the buffer as
an `int`.  Every exception of the deserializer becomes a null pointer; reading
past the end of the stream is no exception and is kept apart.
-/

namespace Gxfp.Fprint

open Lib.Bytes
open Lib.Serial

/-- `SigfmImgInfo`. -/
structure SigfmImgInfo (cv : OpenCv) where
  keypoints : List KeyPoint
  descriptors : Mat cv

variable {cv : OpenCv}

/-- `serializer<SigfmImgInfo>`. -/
def serializeImgInfo (info : SigfmImgInfo cv) : List Byte :=
  serializeVector serializeKeyPoint info.keypoints ++ serializeMat info.descriptors

/-- `deserializer<SigfmImgInfo>`. -/
def deserializeImgInfo (cv : OpenCv) : Reader (SigfmImgInfo cv) := do
  let keypoints ← deserializeVector KEYPOINT_SIZE deserializeKeyPoint
  let descriptors ← deserializeMat cv
  pure ⟨keypoints, descriptors⟩

/-- The conversion of a `size_t` to `int`. -/
def intOfSize (size : Nat) : Int :=
  (size : Int).bmod (2 ^ 32)

/-- `sigfm_serialize_binary`: the buffer and `*outlen`. -/
def sigfmSerializeBinary (info : SigfmImgInfo cv) : List Byte × Int :=
  let s := serializeImgInfo info
  (s, intOfSize s.length)

/-- What a call of `sigfm_deserialize_binary` comes to. -/
inductive Deserialized (cv : OpenCv)
  | info (info : SigfmImgInfo cv)
  | nullptr
  /-- Bytes outside the buffer were read. -/
  | outOfBounds

/-- `sigfm_deserialize_binary`; a negative length is more than a vector can
hold, which throws. -/
def sigfmDeserializeBinary (cv : OpenCv) (bytes : List Byte) (len : Int) : Deserialized cv :=
  if len < 0 then
    .nullptr
  else if bytes.length < len.toNat then
    .outOfBounds
  else
    match deserializeImgInfo cv (bytes.take len.toNat) with
    | .ok info _ => .info info
    | .thrown => .nullptr
    | .outOfBounds => .outOfBounds

theorem sigfmSerializeBinary_eq (info : SigfmImgInfo cv) :
    sigfmSerializeBinary info =
      (serializeImgInfo info, intOfSize (serializeImgInfo info).length) := by
  unfold sigfmSerializeBinary
  rfl

/-! ## The length -/

/-- `INT_MAX`. -/
def INT_MAX : Nat := 2147483647

/-- A size up to `INT_MAX` is its own `int`. -/
theorem intOfSize_eq {size : Nat} (fits : size ≤ INT_MAX) : intOfSize size = size := by
  unfold INT_MAX at fits
  unfold intOfSize
  rw [Int.bmod_def]
  omega

/-- The first size above `INT_MAX` to its double is a negative `int`. -/
theorem intOfSize_neg {size : Nat} (above : INT_MAX < size) (below : size < 2 ^ 32) :
    intOfSize size < 0 := by
  unfold INT_MAX at above
  unfold intOfSize
  rw [Int.bmod_def]
  omega

theorem sigfmDeserializeBinary_of_fits {bytes : List Byte} (fits : bytes.length ≤ INT_MAX)
    {info : SigfmImgInfo cv} {rest : List Byte}
    (read : deserializeImgInfo cv bytes = .ok info rest) :
    sigfmDeserializeBinary cv bytes (intOfSize bytes.length) = .info info := by
  unfold sigfmDeserializeBinary
  rw [intOfSize_eq fits, if_neg (by omega), Int.toNat_natCast, if_neg (Nat.lt_irrefl _),
    List.take_length, read]

theorem sigfmDeserializeBinary_info {bytes : List Byte} {len : Int} {info : SigfmImgInfo cv}
    (read : sigfmDeserializeBinary cv bytes len = .info info) :
    ∃ rest, deserializeImgInfo cv (bytes.take len.toNat) = .ok info rest := by
  unfold sigfmDeserializeBinary at read
  split at read
  · cases read
  · split at read
    · cases read
    · split at read
      · rename_i other rest reading
        cases read
        exact ⟨rest, reading⟩
      · cases read
      · cases read

/-! ## Templates -/

@[simp]
theorem serializeWord_length (value : UInt32) : (serializeWord value).length = 4 :=
  leBytes_length 4 value.toNat

@[simp]
theorem serializeKeyPoint_length (pt : KeyPoint) :
    (serializeKeyPoint pt).length = KEYPOINT_SIZE := by
  simp [serializeKeyPoint, serializePoint, KEYPOINT_SIZE]

theorem keypoints_length (keypoints : List KeyPoint) :
    (serializeVector serializeKeyPoint keypoints).length =
      8 + KEYPOINT_SIZE * keypoints.length := by
  induction keypoints with
  | nil => rfl
  | cons pt keypoints ih =>
      simp only [serializeVector, serializeSize, List.length_append, leBytes_length,
        List.flatMap_cons, serializeKeyPoint_length, List.length_cons, Nat.mul_succ] at ih ⊢
      omega

/-- Where the template's type word starts, read from the number of key
points. -/
def typeOffset (bytes : List Byte) : Nat :=
  8 + KEYPOINT_SIZE * leNat (bytes.take 8)

/-- The type word of a template. -/
def typeField (bytes : List Byte) : UInt32 :=
  UInt32.ofNat (leNat ((bytes.drop (typeOffset bytes)).take 4))

/-- A template short enough for the interface is read back. -/
theorem deserializeImgInfo_decodes {info : SigfmImgInfo cv}
    (fits : (serializeImgInfo info).length ≤ INT_MAX) :
    Decodes serializeImgInfo (deserializeImgInfo cv) info := by
  intro rest
  have parts : (serializeImgInfo info).length =
      8 + KEYPOINT_SIZE * info.keypoints.length + (12 + info.descriptors.data.length) := by
    rw [serializeImgInfo, List.length_append, keypoints_length]
    simp only [serializeMat, List.length_append, serializeWord_length]
  rw [parts, INT_MAX, KEYPOINT_SIZE] at fits
  have held : info.keypoints.length ≤ vectorMaxSize KEYPOINT_SIZE := by
    unfold vectorMaxSize KEYPOINT_SIZE
    omega
  have dataFits : info.descriptors.data.length < 2 ^ 63 := by omega
  have keypoints := deserializeVector_decodes
    (fun pt (_ : pt ∈ info.keypoints) => deserializeKeyPoint_decodes pt) held
  unfold deserializeImgInfo serializeImgInfo
  rw [List.append_assoc, Reader.bind_of_ok (keypoints _),
    Reader.bind_of_ok (deserializeMat_decodes info.descriptors dataFits _)]
  rfl

/-- The fields of a template are found again in the bytes it is read from. -/
theorem typeField_append (keypoints : List KeyPoint) (type : UInt32) (rest : List Byte)
    (fits : keypoints.length < 2 ^ 64) :
    typeField (serializeVector serializeKeyPoint keypoints ++ (serializeWord type ++ rest)) =
      type := by
  have count : leNat ((serializeVector serializeKeyPoint keypoints ++
      (serializeWord type ++ rest)).take 8) = keypoints.length := by
    rw [serializeVector, List.append_assoc, serializeSize,
      List.take_left' (leBytes_length 8 keypoints.length), leNat_leBytes]
    exact Nat.mod_eq_of_lt fits
  have offset : typeOffset (serializeVector serializeKeyPoint keypoints ++
      (serializeWord type ++ rest)) = (serializeVector serializeKeyPoint keypoints).length := by
    rw [typeOffset, count, keypoints_length]
  have wordLt : type.toNat < 256 ^ 4 := type.toNat_lt
  rw [typeField, offset, List.drop_left, List.take_left' (serializeWord_length type),
    serializeWord, leNat_leBytes, Nat.mod_eq_of_lt wordLt, UInt32.ofNat_toNat]

/-- A vector that was read has a size that `size_t` can hold. -/
theorem length_lt_of_deserializeVector {α : Type} {deserialize : Reader α} {elemSize : Nat}
    {bytes rest : List Byte} {values : List α} {serialize : α → List Byte}
    (exact_ : Exact serialize deserialize)
    (read : deserializeVector elemSize deserialize bytes = .ok values rest) :
    values.length < 2 ^ 64 := by
  obtain ⟨size, middle, readSize, read⟩ := Reader.bind_eq_ok_iff.mp read
  split at read
  · cases read
  · rename_i held
    have lengthEq := (eq_of_times exact_ read).2
    have atMost : vectorMaxSize elemSize ≤ 2 ^ 63 - 1 := Nat.div_le_self _ _
    omega

theorem serializeWord_inj {first second : UInt32} :
    serializeWord first = serializeWord second ↔ first = second := by
  constructor
  · intro same
    have firstBack := deserializeWord_decodes first []
    rw [same, deserializeWord_decodes second []] at firstBack
    cases firstBack
    rfl
  · rintro rfl
    rfl

/-- Writing a template that was read gives the same bytes again exactly when
the type word had nothing but type bits. -/
theorem deserializeImgInfo_exact_iff {bytes rest : List Byte} {info : SigfmImgInfo cv}
    (read : deserializeImgInfo cv bytes = .ok info rest) :
    ∃ consumed, bytes = consumed ++ rest ∧
      (serializeImgInfo info = consumed ↔ cv.matType (typeField bytes) = typeField bytes) := by
  obtain ⟨keypoints, _, readKeypoints, read⟩ := Reader.bind_eq_ok_iff.mp read
  obtain ⟨descriptors, _, readDescriptors, done⟩ := Reader.bind_eq_ok_iff.mp read
  cases done
  have fits := length_lt_of_deserializeVector deserializeKeyPoint_exact readKeypoints
  have keypointBytes := deserializeVector_exact _ deserializeKeyPoint_exact _ _ _ readKeypoints
  obtain ⟨type, typeEq, matBytes⟩ := eq_of_deserializeMat readDescriptors
  have field : typeField bytes = type := by
    rw [keypointBytes, matBytes]
    simp only [List.append_assoc]
    exact typeField_append keypoints type _ fits
  refine ⟨serializeVector serializeKeyPoint keypoints ++ (serializeWord type ++
    serializeWord descriptors.rows ++ serializeWord descriptors.cols ++ descriptors.data), ?_, ?_⟩
  · rw [keypointBytes, matBytes]
    simp only [List.append_assoc]
  · rw [field, ← typeEq, serializeImgInfo, serializeMat, List.append_cancel_left_eq]
    rw [List.append_cancel_right_eq, List.append_cancel_right_eq, List.append_cancel_right_eq]
    exact serializeWord_inj

/-- A template comes back from its bytes, whatever follows them, as long as the
length is an `int`; and writing a template that was read gives back the consumed
bytes exactly when their type word has nothing but type bits. -/
theorem sigfmBinary_roundTrip (cv : OpenCv) :
    (∀ (info : SigfmImgInfo cv) (trailing : List Byte),
      ((sigfmSerializeBinary info).1 ++ trailing).length ≤ INT_MAX →
      sigfmDeserializeBinary cv ((sigfmSerializeBinary info).1 ++ trailing)
        ((sigfmSerializeBinary info).2 + trailing.length) = .info info) ∧
    ∀ (bytes : List Byte) (len : Int) (info : SigfmImgInfo cv),
      sigfmDeserializeBinary cv bytes len = .info info →
      ∃ consumed rest, bytes.take len.toNat = consumed ++ rest ∧
        deserializeImgInfo cv (bytes.take len.toNat) = .ok info rest ∧
        ((sigfmSerializeBinary info).1 = consumed ↔
          cv.matType (typeField (bytes.take len.toNat)) = typeField (bytes.take len.toNat)) := by
  constructor
  · intro info trailing fits
    rw [sigfmSerializeBinary_eq] at fits ⊢
    dsimp only at fits ⊢
    have bytesFit : (serializeImgInfo info).length ≤ INT_MAX := by
      refine Nat.le_trans ?_ fits
      rw [List.length_append]
      exact Nat.le_add_right _ _
    have lengthEq : intOfSize (serializeImgInfo info).length + trailing.length =
        intOfSize (serializeImgInfo info ++ trailing).length := by
      rw [intOfSize_eq fits, intOfSize_eq bytesFit, List.length_append, Nat.cast_add]
    rw [lengthEq]
    exact sigfmDeserializeBinary_of_fits fits (deserializeImgInfo_decodes bytesFit trailing)
  · intro bytes len info read
    obtain ⟨rest, reading⟩ := sigfmDeserializeBinary_info read
    obtain ⟨consumed, bytesEq, same⟩ := deserializeImgInfo_exact_iff reading
    rw [sigfmSerializeBinary_eq]
    exact ⟨consumed, rest, bytesEq, reading, same⟩

/-! ## OpenCV 4 -/

/-- `CV_ELEM_SIZE` of OpenCV 4, for three bits of depth and nine of channels. -/
def cvElemSize (type : UInt32) : Nat :=
  (((type >>> 3) &&& 511).toNat + 1) *
    (((0x28442211 : UInt32) >>> ((type &&& 7) * 4)) &&& 15).toNat

/-- OpenCV 4. -/
def opencv4 : OpenCv where
  matType type := type &&& 0xFFF
  elemSize := cvElemSize
  creates rows cols type :=
    decide (rows.toNat < 2147483648) && decide (cols.toNat < 2147483648) &&
      decide (rows.toNat * cols.toNat * cvElemSize (type &&& 0xFFF) < 2 ^ 63)
  matType_matType := by
    intro type
    rw [UInt32.and_assoc, UInt32.and_self]
  nonneg_of_creates := by
    intro rows cols type created
    simp only [Bool.and_eq_true, decide_eq_true_eq] at created
    exact created.1
  creates_of_nonneg := by
    intro rows cols type rowsLt colsLt fits
    simp only [Bool.and_eq_true, decide_eq_true_eq]
    exact ⟨⟨rowsLt, colsLt⟩, fits⟩

/-- A `CV_8UC1` matrix of one row. -/
def byteRow (data : List Byte) (short : data.length < 2147483648) : Mat opencv4 where
  type := 0
  rows := 1
  cols := UInt32.ofNat data.length
  data := data
  type_eq := rfl
  rows_lt := by decide
  cols_lt := by
    rw [UInt32.toNat_ofNat']
    exact Nat.lt_of_le_of_lt (Nat.mod_le _ _) short
  data_length := by
    have small : data.length < 2 ^ 32 := Nat.lt_trans short (by decide)
    have elem : opencv4.elemSize 0 = 1 := rfl
    rw [elem, UInt32.toNat_ofNat', Nat.mod_eq_of_lt small, UInt32.toNat_one, Nat.one_mul,
      Nat.mul_one]

theorem sigfmBinary_roundTrip_row :
    sigfmDeserializeBinary opencv4
        ((sigfmSerializeBinary ⟨[⟨⟨1, 2⟩, 3, 4, 5, 6, 7⟩], byteRow [8, 9] (by decide)⟩).1 ++ [10])
        ((sigfmSerializeBinary ⟨[⟨⟨1, 2⟩, 3, 4, 5, 6, 7⟩], byteRow [8, 9] (by decide)⟩).2 + 1) =
      .info ⟨[⟨⟨1, 2⟩, 3, 4, 5, 6, 7⟩], byteRow [8, 9] (by decide)⟩ ∧
    ∃ consumed rest, ((sigfmSerializeBinary ⟨[], byteRow [8, 9] (by decide)⟩).1).take 22 =
        consumed ++ rest ∧
      deserializeImgInfo opencv4
        (((sigfmSerializeBinary ⟨[], byteRow [8, 9] (by decide)⟩).1).take 22) =
          .ok ⟨[], byteRow [8, 9] (by decide)⟩ rest ∧
      ((sigfmSerializeBinary ⟨[], byteRow [8, 9] (by decide)⟩).1 = consumed ↔
        opencv4.matType (typeField
          (((sigfmSerializeBinary ⟨[], byteRow [8, 9] (by decide)⟩).1).take 22)) =
          typeField (((sigfmSerializeBinary ⟨[], byteRow [8, 9] (by decide)⟩).1).take 22)) :=
  ⟨(sigfmBinary_roundTrip opencv4).1 _ [10] (by decide +kernel),
    (sigfmBinary_roundTrip opencv4).2 _ 22 _ rfl⟩

/-- A template of two gigabytes has a negative length, which reads as a null
pointer. -/
theorem sigfmDeserializeBinary_long {info : SigfmImgInfo cv}
    (above : INT_MAX < (serializeImgInfo info).length)
    (below : (serializeImgInfo info).length < 2 ^ 32) :
    sigfmDeserializeBinary cv (sigfmSerializeBinary info).1 (sigfmSerializeBinary info).2 =
      .nullptr := by
  rw [sigfmSerializeBinary_eq]
  unfold sigfmDeserializeBinary
  rw [if_pos (intOfSize_neg above below)]

/-- Neither half holds without its condition: a matrix of `INT_MAX` bytes does
not come back, and a type word with a bit above the type is not written
again. -/
theorem sigfmBinary_roundTrip_fails :
    (¬ ∀ (info : SigfmImgInfo opencv4) (trailing : List Byte),
      sigfmDeserializeBinary opencv4 ((sigfmSerializeBinary info).1 ++ trailing)
        ((sigfmSerializeBinary info).2 + trailing.length) = .info info) ∧
    ¬ ∀ (bytes : List Byte) (len : Int) (info : SigfmImgInfo opencv4) (consumed rest : List Byte),
      sigfmDeserializeBinary opencv4 bytes len = .info info →
      bytes.take len.toNat = consumed ++ rest →
      deserializeImgInfo opencv4 (bytes.take len.toNat) = .ok info rest →
      (sigfmSerializeBinary info).1 = consumed := by
  constructor
  · intro readBack
    have short : (List.replicate INT_MAX (0 : Byte)).length < 2147483648 := by
      rw [List.length_replicate]
      decide
    have long := readBack ⟨[], byteRow _ short⟩ []
    have sizeEq : (serializeImgInfo ⟨[], byteRow _ short⟩).length = 20 + INT_MAX := by
      rw [serializeImgInfo, List.length_append, keypoints_length]
      simp only [serializeMat, List.length_append, serializeWord_length, List.length_nil, byteRow,
        List.length_replicate]
      omega
    rw [List.append_nil, List.length_nil, Nat.cast_zero, Int.add_zero,
      sigfmDeserializeBinary_long (by rw [sizeEq]; decide) (by rw [sizeEq]; decide)] at long
    cases long
  · intro writtenAgain
    have same := writtenAgain [0, 0, 0, 0, 0, 0, 0, 0, 0, 16, 0, 0, 1, 0, 0, 0, 0, 0, 0, 0] 20
      ⟨[], byteRow [] (by decide)⟩ _ [] rfl (List.append_nil _).symm rfl
    revert same
    decide

end Gxfp.Fprint
