import Gxfp.Lib.Serial

/-!
# The binary streams of SIGFM

Embeds `libfprint/libfprint/sigfm/binary.hpp`.  A stream is its store; writing
appends to the store, and reading takes off its front.  Trivial types are
copied in the little-endian order of the machine, with `int` and `float` of
four bytes and `size_t` of eight.  Floats are their bit patterns.

`operator>>` throws on a short stream, but `stream::read` does not look at the
size of the store, and the matrix deserializer calls it directly.

What the file uses of OpenCV is a parameter.  Running out of memory is not
modelled.
-/

namespace Gxfp.Fprint

open Lib.Bytes
open Lib.Serial

/-! ## The stream -/

/-- `std::array<byte, size>`. -/
abbrev SegStore (size : Nat) : Type :=
  { bytes : List Byte // bytes.length = size }

/-- `stream::read` of `dist` bytes. -/
def streamRead (dist : Nat) : Reader (SegStore dist) := fun store =>
  if inside : dist ≤ store.length then
    .ok ⟨store.take dist, List.length_take_of_le inside⟩ (store.drop dist)
  else
    .outOfBounds

/-- `operator>>` of a trivial type, up to the last `memcpy`. -/
def streamExtract (size : Nat) : Reader (SegStore size) := fun store =>
  if store.length < size then .thrown else streamRead size store

/-- `operator<<` of an `int` or a `float`. -/
def serializeWord (value : UInt32) : List Byte :=
  leBytes 4 value.toNat

/-- `operator>>` of an `int` or a `float`. -/
def deserializeWord : Reader UInt32 := do
  let segment ← streamExtract 4
  pure (UInt32.ofNat (leNat segment.1))

/-- `operator<<` of a `size_t`. -/
def serializeSize (value : Nat) : List Byte :=
  leBytes 8 value

/-- `operator>>` of a `size_t`. -/
def deserializeSize : Reader Nat := do
  let segment ← streamExtract 8
  pure (leNat segment.1)

/-! ## Points and vectors -/

/-- `cv::Point2f`. -/
structure Point2f where
  x : UInt32
  y : UInt32
  deriving DecidableEq, Repr

/-- `cv::KeyPoint`. -/
structure KeyPoint where
  pt : Point2f
  size : UInt32
  angle : UInt32
  response : UInt32
  octave : UInt32
  classId : UInt32
  deriving DecidableEq, Repr

/-- `sizeof (cv::KeyPoint)`. -/
def KEYPOINT_SIZE : Nat := 28

/-- `serializer<cv::Point_<float>>`. -/
def serializePoint (pt : Point2f) : List Byte :=
  serializeWord pt.x ++ serializeWord pt.y

/-- `deserializer<cv::Point_<float>>`. -/
def deserializePoint : Reader Point2f := do
  let x ← deserializeWord
  let y ← deserializeWord
  pure ⟨x, y⟩

/-- `serializer<cv::KeyPoint>`. -/
def serializeKeyPoint (pt : KeyPoint) : List Byte :=
  serializeWord pt.classId ++ serializeWord pt.angle ++ serializeWord pt.octave ++
    serializeWord pt.response ++ serializeWord pt.size ++ serializePoint pt.pt

/-- `deserializer<cv::KeyPoint>`. -/
def deserializeKeyPoint : Reader KeyPoint := do
  let classId ← deserializeWord
  let angle ← deserializeWord
  let octave ← deserializeWord
  let response ← deserializeWord
  let size ← deserializeWord
  let pt ← deserializePoint
  pure { pt, size, angle, response, octave, classId }

/-- `std::vector<T>::max_size`, with `sizeof (T)` given. -/
def vectorMaxSize (elemSize : Nat) : Nat :=
  (2 ^ 63 - 1) / elemSize

/-- `serializer<std::vector<T>>`. -/
def serializeVector {α : Type} (serialize : α → List Byte) (values : List α) : List Byte :=
  serializeSize values.length ++ values.flatMap serialize

/-- `deserializer<std::vector<T>>`; `reserve` throws above `max_size`. -/
def deserializeVector {α : Type} (elemSize : Nat) (deserialize : Reader α) :
    Reader (List α) := do
  let size ← deserializeSize
  if vectorMaxSize elemSize < size then
    Reader.throw
  else
    deserialize.times size

/-! ## Matrices -/

/-- What is used of OpenCV. -/
structure OpenCv where
  /-- `CV_MAT_TYPE`: the type bits of a flags word. -/
  matType : UInt32 → UInt32
  /-- `CV_ELEM_SIZE`. -/
  elemSize : UInt32 → Nat
  /-- Whether `cv::Mat::create` returns for the rows, columns and type. -/
  creates : UInt32 → UInt32 → UInt32 → Bool
  matType_matType : ∀ type, matType (matType type) = matType type
  /-- A matrix has no negative number of rows or columns. -/
  nonneg_of_creates : ∀ {rows cols type}, creates rows cols type = true →
    rows.toNat < 2147483648 ∧ cols.toNat < 2147483648
  /-- A matrix that fits in the address space is created. -/
  creates_of_nonneg : ∀ {rows cols type}, rows.toNat < 2147483648 → cols.toNat < 2147483648 →
    rows.toNat * cols.toNat * elemSize (matType type) < 2 ^ 63 → creates rows cols type = true

/-- A continuous `cv::Mat` of two dimensions; `data` is what lies from
`datastart` to `dataend`. -/
structure Mat (cv : OpenCv) where
  type : UInt32
  rows : UInt32
  cols : UInt32
  data : List Byte
  type_eq : cv.matType type = type
  rows_lt : rows.toNat < 2147483648
  cols_lt : cols.toNat < 2147483648
  data_length : data.length = rows.toNat * cols.toNat * cv.elemSize type

variable {cv : OpenCv}

/-- `serializer<cv::Mat>`. -/
def serializeMat (m : Mat cv) : List Byte :=
  serializeWord m.type ++ serializeWord m.rows ++ serializeWord m.cols ++ m.data

/-- `deserializer<cv::Mat>`: `create` keeps the type bits of `type` only. -/
def deserializeMat (cv : OpenCv) : Reader (Mat cv) := do
  let type ← deserializeWord
  let rows ← deserializeWord
  let cols ← deserializeWord
  if created : cv.creates rows cols type = true then do
    let data ← streamRead (rows.toNat * cols.toNat * cv.elemSize (cv.matType type))
    pure
      { type := cv.matType type, rows := rows, cols := cols, data := data.1
        type_eq := cv.matType_matType type
        rows_lt := (cv.nonneg_of_creates created).1
        cols_lt := (cv.nonneg_of_creates created).2
        data_length := data.2 }
  else
    Reader.throw

/-! ## What was written is read back -/

theorem streamRead_append {dist : Nat} (segment : SegStore dist) (rest : List Byte) :
    streamRead dist (segment.1 ++ rest) = .ok segment rest := by
  obtain ⟨bytes, rfl⟩ := segment
  have inside : bytes.length ≤ (bytes ++ rest).length := by
    rw [List.length_append]
    exact Nat.le_add_right _ _
  unfold streamRead
  simp only [dif_pos inside, List.take_left, List.drop_left]

theorem streamExtract_append {size : Nat} (segment : SegStore size) (rest : List Byte) :
    streamExtract size (segment.1 ++ rest) = .ok segment rest := by
  have enough : ¬ (segment.1 ++ rest).length < size := by
    rw [List.length_append, segment.2]
    exact Nat.not_lt.mpr (Nat.le_add_right _ _)
  unfold streamExtract
  rw [if_neg enough]
  exact streamRead_append segment rest

theorem deserializeWord_decodes (value : UInt32) :
    Decodes serializeWord deserializeWord value := by
  intro rest
  have segment := streamExtract_append ⟨serializeWord value, leBytes_length 4 value.toNat⟩ rest
  have wordLt : value.toNat < 256 ^ 4 := value.toNat_lt
  unfold deserializeWord
  rw [Reader.bind_of_ok segment]
  dsimp only
  rw [serializeWord, leNat_leBytes, Nat.mod_eq_of_lt wordLt, UInt32.ofNat_toNat]
  rfl

theorem deserializeSize_decodes {value : Nat} (fits : value < 2 ^ 64) :
    Decodes serializeSize deserializeSize value := by
  intro rest
  have segment := streamExtract_append ⟨serializeSize value, leBytes_length 8 value⟩ rest
  have sizeLt : value < 256 ^ 8 := fits
  unfold deserializeSize
  rw [Reader.bind_of_ok segment]
  dsimp only
  rw [serializeSize, leNat_leBytes, Nat.mod_eq_of_lt sizeLt]
  rfl

theorem deserializePoint_decodes (pt : Point2f) :
    Decodes serializePoint deserializePoint pt := by
  intro rest
  unfold deserializePoint serializePoint
  rw [List.append_assoc, Reader.bind_of_ok (deserializeWord_decodes pt.x _),
    Reader.bind_of_ok (deserializeWord_decodes pt.y _)]
  rfl

theorem deserializeKeyPoint_decodes (pt : KeyPoint) :
    Decodes serializeKeyPoint deserializeKeyPoint pt := by
  intro rest
  unfold deserializeKeyPoint serializeKeyPoint
  simp only [List.append_assoc]
  rw [Reader.bind_of_ok (deserializeWord_decodes pt.classId _),
    Reader.bind_of_ok (deserializeWord_decodes pt.angle _),
    Reader.bind_of_ok (deserializeWord_decodes pt.octave _),
    Reader.bind_of_ok (deserializeWord_decodes pt.response _),
    Reader.bind_of_ok (deserializeWord_decodes pt.size _),
    Reader.bind_of_ok (deserializePoint_decodes pt.pt _)]
  rfl

/-- A vector that can be held is read back when its elements are. -/
theorem deserializeVector_decodes {α : Type} {serialize : α → List Byte} {deserialize : Reader α}
    {elemSize : Nat} {values : List α}
    (decodes : ∀ value ∈ values, Decodes serialize deserialize value)
    (held : values.length ≤ vectorMaxSize elemSize) :
    Decodes (serializeVector serialize) (deserializeVector elemSize deserialize) values := by
  intro rest
  have fits : values.length < 2 ^ 64 := by
    have atMost : vectorMaxSize elemSize ≤ 2 ^ 63 - 1 := Nat.div_le_self _ _
    omega
  unfold deserializeVector serializeVector
  rw [List.append_assoc, Reader.bind_of_ok (deserializeSize_decodes fits _),
    if_neg (Nat.not_lt.mpr held)]
  exact times_flatMap decodes rest

/-- A matrix that fits in the address space is read back. -/
theorem deserializeMat_decodes (m : Mat cv) (fits : m.data.length < 2 ^ 63) :
    Decodes serializeMat (deserializeMat cv) m := by
  obtain ⟨type, rows, cols, data, type_eq, rows_lt, cols_lt, data_length⟩ := m
  intro rest
  have created : cv.creates rows cols type = true := by
    apply cv.creates_of_nonneg rows_lt cols_lt
    rw [type_eq, ← data_length]
    exact fits
  have sizeEq : data.length = rows.toNat * cols.toNat * cv.elemSize (cv.matType type) := by
    rw [type_eq]
    exact data_length
  unfold deserializeMat serializeMat
  simp only [List.append_assoc]
  rw [Reader.bind_of_ok (deserializeWord_decodes type _),
    Reader.bind_of_ok (deserializeWord_decodes rows _),
    Reader.bind_of_ok (deserializeWord_decodes cols _), dif_pos created,
    Reader.bind_of_ok (streamRead_append ⟨data, sizeEq⟩ rest)]
  simp only [type_eq]
  rfl

/-! ## Only what was written is read -/

theorem eq_of_streamRead {dist : Nat} {bytes rest : List Byte} {segment : SegStore dist}
    (read : streamRead dist bytes = .ok segment rest) : bytes = segment.1 ++ rest := by
  unfold streamRead at read
  split at read
  · cases read
    exact (List.take_append_drop dist bytes).symm
  · cases read

theorem eq_of_streamExtract {size : Nat} {bytes rest : List Byte} {segment : SegStore size}
    (read : streamExtract size bytes = .ok segment rest) : bytes = segment.1 ++ rest := by
  unfold streamExtract at read
  split at read
  · cases read
  · exact eq_of_streamRead read

theorem deserializeWord_exact : Exact serializeWord deserializeWord := by
  intro bytes value rest read
  obtain ⟨segment, middle, extracted, done⟩ := Reader.bind_eq_ok_iff.mp read
  cases done
  have segmentLt := leNat_lt segment.1
  have encoded := leBytes_leNat segment.1
  rw [segment.2] at segmentLt encoded
  have wordLt : leNat segment.1 < 2 ^ 32 := segmentLt
  rw [eq_of_streamExtract extracted, serializeWord, UInt32.toNat_ofNat', Nat.mod_eq_of_lt wordLt,
    encoded]

theorem deserializeSize_exact : Exact serializeSize deserializeSize := by
  intro bytes value rest read
  obtain ⟨segment, middle, extracted, done⟩ := Reader.bind_eq_ok_iff.mp read
  cases done
  have encoded := leBytes_leNat segment.1
  rw [segment.2] at encoded
  rw [eq_of_streamExtract extracted, serializeSize, encoded]

theorem deserializePoint_exact : Exact serializePoint deserializePoint := by
  intro bytes pt rest read
  obtain ⟨x, afterX, readX, read⟩ := Reader.bind_eq_ok_iff.mp read
  obtain ⟨y, afterY, readY, done⟩ := Reader.bind_eq_ok_iff.mp read
  cases done
  rw [deserializeWord_exact _ _ _ readX, deserializeWord_exact _ _ _ readY, serializePoint,
    List.append_assoc]

theorem deserializeKeyPoint_exact : Exact serializeKeyPoint deserializeKeyPoint := by
  intro bytes pt rest read
  obtain ⟨classId, _, readClassId, read⟩ := Reader.bind_eq_ok_iff.mp read
  obtain ⟨angle, _, readAngle, read⟩ := Reader.bind_eq_ok_iff.mp read
  obtain ⟨octave, _, readOctave, read⟩ := Reader.bind_eq_ok_iff.mp read
  obtain ⟨response, _, readResponse, read⟩ := Reader.bind_eq_ok_iff.mp read
  obtain ⟨size, _, readSize, read⟩ := Reader.bind_eq_ok_iff.mp read
  obtain ⟨point, _, readPoint, done⟩ := Reader.bind_eq_ok_iff.mp read
  cases done
  rw [deserializeWord_exact _ _ _ readClassId, deserializeWord_exact _ _ _ readAngle,
    deserializeWord_exact _ _ _ readOctave, deserializeWord_exact _ _ _ readResponse,
    deserializeWord_exact _ _ _ readSize, deserializePoint_exact _ _ _ readPoint]
  simp only [serializeKeyPoint, List.append_assoc]

theorem deserializeVector_exact {α : Type} {serialize : α → List Byte} {deserialize : Reader α}
    (elemSize : Nat) (exact_ : Exact serialize deserialize) :
    Exact (serializeVector serialize) (deserializeVector elemSize deserialize) := by
  intro bytes values rest read
  obtain ⟨size, middle, readSize, read⟩ := Reader.bind_eq_ok_iff.mp read
  split at read
  · cases read
  · obtain ⟨middleEq, lengthEq⟩ := eq_of_times exact_ read
    rw [deserializeSize_exact _ _ _ readSize, middleEq, serializeVector, lengthEq,
      List.append_assoc]

/-- A matrix is read from what its serializer writes, with the type word as the
stream has it. -/
theorem eq_of_deserializeMat {bytes rest : List Byte} {m : Mat cv}
    (read : deserializeMat cv bytes = .ok m rest) :
    ∃ type, m.type = cv.matType type ∧
      bytes = serializeWord type ++ serializeWord m.rows ++ serializeWord m.cols ++ m.data ++
        rest := by
  obtain ⟨type, _, readType, read⟩ := Reader.bind_eq_ok_iff.mp read
  obtain ⟨rows, _, readRows, read⟩ := Reader.bind_eq_ok_iff.mp read
  obtain ⟨cols, _, readCols, read⟩ := Reader.bind_eq_ok_iff.mp read
  split at read
  · obtain ⟨data, _, readData, done⟩ := Reader.bind_eq_ok_iff.mp read
    cases done
    refine ⟨type, rfl, ?_⟩
    rw [deserializeWord_exact _ _ _ readType, deserializeWord_exact _ _ _ readRows,
      deserializeWord_exact _ _ _ readCols, eq_of_streamRead readData]
    simp only [List.append_assoc]
  · cases read

end Gxfp.Fprint
