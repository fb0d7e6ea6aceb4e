import Gxfp.Fprint.Sigfm

/-!
# Stored prints

Embeds `fp_print_serialize`, `fp_print_deserialize` and `fp_print_equal` of
`libfprint/libfprint/fp-print.c`, with `fpi_print_set_type` and
`fpi_print_add_print` of `fpi-print.c`, for a little-endian machine.  The type
of a print and the array of sub-prints that comes with it are one value, so
that a print has no sub-prints of another type.

The byte format of GVariant is a parameter, at the one type of the file,
`(issbymsmsia{sv}v)`; values of that type are records.  A failed assertion, a
critical misuse of GLib and a read outside a buffer end a call without a
result.
-/

namespace Gxfp.Fprint

open Lib.Bytes
open Lib.Serial

/-! ## Variants -/

/-- The GVariant values that stand in a `v`; every basic value other than the
elements of `ai` and `ay` is its type and its bytes. -/
inductive Variant
  | basic (type : Char) (bytes : List Byte)
  | nothing
  | just (child : Variant)
  | int32s (values : List UInt32)
  | bytes (values : List Byte)
  | array (children : List Variant)
  | tuple (children : List Variant)
  | variant (child : Variant)

mutual

/-- `g_variant_equal`. -/
def gVariantEqual : Variant → Variant → Bool
  | .basic type bytes, .basic otherType otherBytes => type == otherType && bytes == otherBytes
  | .nothing, .nothing => true
  | .just child, .just other => gVariantEqual child other
  | .int32s values, .int32s others => values == others
  | .bytes values, .bytes others => values == others
  | .array children, .array others => gVariantsEqual children others
  | .tuple children, .tuple others => gVariantsEqual children others
  | .variant child, .variant other => gVariantEqual child other
  | _, _ => false

/-- `g_variant_equal` of the children of two containers. -/
def gVariantsEqual : List Variant → List Variant → Bool
  | [], [] => true
  | child :: children, other :: others =>
      gVariantEqual child other && gVariantsEqual children others
  | _, _ => false

end

/-- How a call can end other than with a result. -/
inductive PrintFailure
  /-- `G_IO_ERROR_INVALID_DATA`, "Data could not be parsed". -/
  | invalidData
  /-- A failed assertion, or a value GLib refuses. -/
  | aborted
  /-- A read outside a buffer. -/
  | outOfBounds
  deriving DecidableEq, Repr

/-- The children of a container. -/
def gVariantChildren : Variant → Except PrintFailure (List Variant)
  | .int32s values => .ok (values.map fun value => .basic 'i' (leBytes 4 value.toNat))
  | .bytes values => .ok (values.map fun value => .basic 'y' [value])
  | .array children => .ok children
  | .tuple children => .ok children
  | .variant child => .ok [child]
  | .just child => .ok [child]
  | .nothing => .ok []
  | .basic _ _ => .error .aborted

/-- `g_variant_get_child_value`. -/
def gVariantGetChildValue (value : Variant) (index : Nat) : Except PrintFailure Variant := do
  match (← gVariantChildren value)[index]? with
  | some child => pure child
  | none => .error .aborted

/-- `g_variant_get_fixed_array` with elements of type `gint32`. -/
def gVariantGetInt32s : Variant → Except PrintFailure (List UInt32)
  | .int32s values => .ok values
  | _ => .error .aborted

/-- `g_variant_get_fixed_array` with elements of type `unsigned char`. -/
def gVariantGetBytes : Variant → Except PrintFailure (List Byte)
  | .bytes values => .ok values
  | _ => .error .aborted

/-! ## Prints -/

/-- `FpiPrintType`. -/
inductive FpiPrintType
  | undefined
  | raw
  | nbis
  | sigfm
  deriving DecidableEq, Repr

/-- The number of a print type. -/
def FpiPrintType.toInt : FpiPrintType → UInt32
  | .undefined => 0
  | .raw => 1
  | .nbis => 2
  | .sigfm => 3

/-- `FpFinger`. -/
inductive FpFinger
  | unknown
  | leftThumb
  | leftIndex
  | leftMiddle
  | leftRing
  | leftLittle
  | rightThumb
  | rightIndex
  | rightMiddle
  | rightRing
  | rightLittle
  deriving DecidableEq, Repr

/-- The number of a finger. -/
def FpFinger.toByte : FpFinger → Byte
  | .unknown => 0
  | .leftThumb => 1
  | .leftIndex => 2
  | .leftMiddle => 3
  | .leftRing => 4
  | .leftLittle => 5
  | .rightThumb => 6
  | .rightIndex => 7
  | .rightMiddle => 8
  | .rightRing => 9
  | .rightLittle => 10

/-- Setting the `finger` property; a number of no finger gives the default. -/
def FpFinger.ofByte (finger : Byte) : FpFinger :=
  match finger.toNat with
  | 1 => .leftThumb
  | 2 => .leftIndex
  | 3 => .leftMiddle
  | 4 => .leftRing
  | 5 => .leftLittle
  | 6 => .rightThumb
  | 7 => .rightIndex
  | 8 => .rightMiddle
  | 9 => .rightRing
  | 10 => .rightLittle
  | _ => .unknown

/-- `MAX_BOZORTH_MINUTIAE`. -/
def MAX_BOZORTH_MINUTIAE : Nat := 200

/-- `struct xyt_struct`, with a number of rows that its columns have. -/
structure XytStruct where
  nrows : Nat
  xcol : List UInt32
  ycol : List UInt32
  thetacol : List UInt32
  nrows_le : nrows ≤ MAX_BOZORTH_MINUTIAE
  xcol_length : xcol.length = MAX_BOZORTH_MINUTIAE
  ycol_length : ycol.length = MAX_BOZORTH_MINUTIAE
  thetacol_length : thetacol.length = MAX_BOZORTH_MINUTIAE
  deriving DecidableEq

/-- The type of a print with its sub-prints. -/
inductive PrintData (cv : OpenCv)
  | undefined
  | raw
  | nbis (prints : List XytStruct)
  | sigfm (prints : List (SigfmImgInfo cv))

variable {cv : OpenCv}

/-- The `type` field. -/
def PrintData.type : PrintData cv → FpiPrintType
  | .undefined => .undefined
  | .raw => .raw
  | .nbis _ => .nbis
  | .sigfm _ => .sigfm

/-- `struct _FpPrint`; an enroll date is its Julian day, 0 for an invalid
one. -/
structure FpPrint (cv : OpenCv) where
  prints : PrintData cv
  driver : String
  deviceId : String
  deviceStored : Bool
  finger : FpFinger
  username : Option String
  description : Option String
  enrollDate : Option UInt32
  data : Option Variant

/-- `g_object_new (FP_TYPE_PRINT, …)`. -/
def fpPrintNew (driver deviceId : String) (deviceStored : Bool) : FpPrint cv where
  prints := .undefined
  driver := driver
  deviceId := deviceId
  deviceStored := deviceStored
  finger := .unknown
  username := none
  description := none
  enrollDate := none
  data := none

/-- `fpi_print_set_type`. -/
def fpiPrintSetType (print : FpPrint cv) (type : FpiPrintType) : FpPrint cv :=
  match print.prints with
  | .undefined =>
      match type with
      | .undefined => print
      | .raw => { print with prints := .raw }
      | .nbis => { print with prints := .nbis [] }
      | .sigfm => { print with prints := .sigfm [] }
  | _ => print

/-- `fpi_print_add_print`. -/
def fpiPrintAddPrint (print add : FpPrint cv) : Except PrintFailure (FpPrint cv) :=
  match print.prints, add.prints with
  | .nbis prints, .nbis [added] => .ok { print with prints := .nbis (prints ++ [added]) }
  | .sigfm prints, .sigfm [added] => .ok { print with prints := .sigfm (prints ++ [added]) }
  | .nbis _, .nbis (_ :: _ :: _) => .error .aborted
  | .sigfm _, .sigfm (_ :: _ :: _) => .error .aborted
  | _, _ => .ok print

/-! ## Equality -/

/-- `memcmp` of two tables. -/
def xytEqual (a b : XytStruct) : Bool :=
  decide (a = b)

/-- The loop over the sub-prints. -/
def xytsEqual : List XytStruct → List XytStruct → Bool
  | a :: as, b :: bs => if xytEqual a b then xytsEqual as bs else false
  | _, _ => true

/-- `fp_print_equal`. -/
def fpPrintEqual (self other : FpPrint cv) : Except PrintFailure Bool :=
  if self.prints.type = .undefined then
    .ok false
  else if other.prints.type = .undefined then
    .ok false
  else if self.prints.type ≠ other.prints.type then
    .ok false
  else if self.driver ≠ other.driver then
    .ok false
  else if self.deviceId ≠ other.deviceId then
    .ok false
  else
    match self.prints, other.prints with
    | .raw, .raw =>
        match self.data, other.data with
        | some data, some otherData => .ok (gVariantEqual data otherData)
        | _, _ => .ok false
    | .nbis prints, .nbis others =>
        if prints.length ≠ others.length then .ok false else .ok (xytsEqual prints others)
    | _, _ => .error .aborted

/-! ## Storage -/

/-- A value of type `FPI_PRINT_VARIANT_TYPE`. -/
structure PrintTuple where
  type : UInt32
  driver : String
  deviceId : String
  deviceStored : Bool
  finger : Byte
  username : Option String
  description : Option String
  julianDate : UInt32
  expansion : List (String × Variant)
  printData : Variant

/-- The byte format of GVariant at `FPI_PRINT_VARIANT_TYPE`. -/
structure GVariantFormat where
  /-- `g_variant_store`. -/
  store : PrintTuple → List Byte
  /-- `g_variant_new_from_data` and `g_variant_get_normal_form`. -/
  load : List Byte → PrintTuple

/-- The `(aiaiai)` of a table. -/
def xytVariant (xyt : XytStruct) : Variant :=
  .tuple [.int32s (xyt.xcol.take xyt.nrows), .int32s (xyt.ycol.take xyt.nrows),
    .int32s (xyt.thetacol.take xyt.nrows)]

/-- The `(ay)` of a template; GLib does not get the memory for a negative
length. -/
def sigfmVariant (info : SigfmImgInfo cv) : Except PrintFailure Variant :=
  let serialized := sigfmSerializeBinary info
  if serialized.2 < 0 then
    .error .aborted
  else
    .ok (.tuple [.bytes (serialized.1.take serialized.2.toNat)])

/-- What `fp_print_serialize` puts into the `v`. -/
def printDataVariant (print : FpPrint cv) : Except PrintFailure Variant :=
  match print.prints with
  | .nbis prints => .ok (.tuple [.array (prints.map xytVariant)])
  | .sigfm prints => do
      let children ← prints.mapM sigfmVariant
      pure (.tuple [.array children])
  | _ =>
      match print.data with
      | some data => .ok (.variant data)
      | none => .error .aborted

/-- `G_MININT32`. -/
def MININT32 : UInt32 := 0x80000000

/-- The stored form of an enroll date. -/
def storedDate : Option UInt32 → UInt32
  | some julian => if julian = 0 then MININT32 else julian
  | none => MININT32

/-- `g_date_new_julian`. -/
def dateNewJulian (julian : UInt32) : Option UInt32 :=
  if julian = 0 then none else some julian

/-- The variant of a print around its `v`. -/
def FpPrint.tuple (print : FpPrint cv) (printData : Variant) : PrintTuple where
  type := print.prints.type.toInt
  driver := print.driver
  deviceId := print.deviceId
  deviceStored := print.deviceStored
  finger := print.finger.toByte
  username := print.username
  description := print.description
  julianDate := storedDate print.enrollDate
  expansion := []
  printData := printData

/-- The variant `fp_print_serialize` builds. -/
def printTuple (print : FpPrint cv) : Except PrintFailure PrintTuple := do
  let printData ← printDataVariant print
  pure (print.tuple printData)

/-- `"FP3"`. -/
def PRINT_MAGIC : List Byte := [0x46, 0x50, 0x33]

/-- `fp_print_serialize`. -/
def fpPrintSerialize (gvariant : GVariantFormat) (print : FpPrint cv) :
    Except PrintFailure (List Byte) := do
  let result ← printTuple print
  pure (PRINT_MAGIC ++ gvariant.store result)

/-- A column of a table from `g_new0` with `values` copied to its start. -/
def xytColumn (values : List UInt32) : List UInt32 :=
  values ++ List.replicate (MAX_BOZORTH_MINUTIAE - values.length) 0

theorem xytColumn_length {values : List UInt32} (short : values.length ≤ MAX_BOZORTH_MINUTIAE) :
    (xytColumn values).length = MAX_BOZORTH_MINUTIAE := by
  rw [xytColumn, List.length_append, List.length_replicate]
  omega

/-- A table with the given columns. -/
def xytOfColumns (xcol ycol thetacol : List UInt32) : Except PrintFailure XytStruct :=
  if same : xcol.length ≠ ycol.length ∨ xcol.length ≠ thetacol.length then
    .error .invalidData
  else if long : MAX_BOZORTH_MINUTIAE < xcol.length then
    .error .invalidData
  else
    have short : xcol.length ≤ MAX_BOZORTH_MINUTIAE := Nat.not_lt.mp long
    have yEq : xcol.length = ycol.length := not_not.mp (not_or.mp same).1
    have thetaEq : xcol.length = thetacol.length := not_not.mp (not_or.mp same).2
    .ok
      { nrows := xcol.length
        xcol := xytColumn xcol
        ycol := xytColumn ycol
        thetacol := xytColumn thetacol
        nrows_le := short
        xcol_length := xytColumn_length short
        ycol_length := xytColumn_length (yEq ▸ short)
        thetacol_length := xytColumn_length (thetaEq ▸ short) }

/-- One round of the NBIS loop of `fp_print_deserialize`. -/
def xytOfVariant (xytData : Variant) : Except PrintFailure XytStruct := do
  let xcol ← gVariantGetInt32s (← gVariantGetChildValue xytData 0)
  let ycol ← gVariantGetInt32s (← gVariantGetChildValue xytData 1)
  let thetacol ← gVariantGetInt32s (← gVariantGetChildValue xytData 2)
  xytOfColumns xcol ycol thetacol

/-- A null pointer is invalid data. -/
def Deserialized.toExcept : Deserialized cv → Except PrintFailure (SigfmImgInfo cv)
  | .info template => .ok template
  | .nullptr => .error .invalidData
  | .outOfBounds => .error .outOfBounds

/-- One round of the SIGFM loop of `fp_print_deserialize`. -/
def sigfmOfVariant (cv : OpenCv) (sigfmData : Variant) :
    Except PrintFailure (SigfmImgInfo cv) := do
  let serialized ← gVariantGetBytes (← gVariantGetChildValue sigfmData 0)
  (sigfmDeserializeBinary cv serialized (intOfSize serialized.length)).toExcept

/-- The print `fp_print_deserialize` makes of a variant, before the
metadata. -/
def printOfTuple (cv : OpenCv) (value : PrintTuple) : Except PrintFailure (FpPrint cv) := do
  let result : FpPrint cv := fpPrintNew value.driver value.deviceId value.deviceStored
  if value.type = FpiPrintType.nbis.toInt then
    let children ← gVariantChildren (← gVariantGetChildValue value.printData 0)
    let prints ← children.mapM xytOfVariant
    pure { fpiPrintSetType result .nbis with prints := .nbis prints }
  else if value.type = FpiPrintType.sigfm.toInt then
    let children ← gVariantChildren (← gVariantGetChildValue value.printData 0)
    let prints ← children.mapM (sigfmOfVariant cv)
    pure { fpiPrintSetType result .sigfm with prints := .sigfm prints }
  else if value.type = FpiPrintType.raw.toInt then
    let fpData ← gVariantGetChildValue value.printData 0
    pure { fpiPrintSetType result .raw with data := some fpData }
  else
    .error .invalidData

/-- The `g_object_set` of the metadata. -/
def setMetadata (value : PrintTuple) (result : FpPrint cv) : FpPrint cv :=
  { result with
    finger := FpFinger.ofByte value.finger
    username := value.username
    description := value.description
    enrollDate := dateNewJulian value.julianDate }

/-- `fp_print_deserialize`. -/
def fpPrintDeserialize (gvariant : GVariantFormat) (cv : OpenCv) (data : List Byte) :
    Except PrintFailure (FpPrint cv) :=
  if data.length ≤ 3 then
    .error .aborted
  else if data.take 3 ≠ PRINT_MAGIC then
    .error .invalidData
  else do
    let value := gvariant.load (data.drop 3)
    let result ← printOfTuple cv value
    pure (setMetadata value result)

/-! ## What comes back -/

/-- GVariant gives a value back from its bytes, and the bytes are not none. -/
def GVariantFormat.Faithful (gvariant : GVariantFormat) (value : PrintTuple) : Prop :=
  gvariant.load (gvariant.store value) = value ∧ gvariant.store value ≠ []

theorem ok_bind {α β ε : Type} (value : α) (next : α → Except ε β) :
    (Except.ok value >>= next) = next value :=
  rfl

theorem mapM_eq_ok {α β ε : Type} {f : α → Except ε β} {g : α → β} {values : List α}
    (each : ∀ value ∈ values, f value = .ok (g value)) : values.mapM f = .ok (values.map g) := by
  induction values with
  | nil => rfl
  | cons value values ih =>
      have others := ih fun other member => each other (List.mem_cons_of_mem _ member)
      rw [List.mapM_cons, each value List.mem_cons_self, others]
      rfl

theorem FpFinger.ofByte_toByte (finger : FpFinger) : FpFinger.ofByte finger.toByte = finger := by
  cases finger <;> rfl

/-- A table as it is after storage: its rows, and zeros. -/
def XytStruct.stored (xyt : XytStruct) : XytStruct where
  nrows := xyt.nrows
  xcol := xytColumn (xyt.xcol.take xyt.nrows)
  ycol := xytColumn (xyt.ycol.take xyt.nrows)
  thetacol := xytColumn (xyt.thetacol.take xyt.nrows)
  nrows_le := xyt.nrows_le
  xcol_length := xytColumn_length (Nat.le_trans (List.length_take_le _ _) xyt.nrows_le)
  ycol_length := xytColumn_length (Nat.le_trans (List.length_take_le _ _) xyt.nrows_le)
  thetacol_length := xytColumn_length (Nat.le_trans (List.length_take_le _ _) xyt.nrows_le)

/-- A table comes back with its rows. -/
theorem xytOfVariant_xytVariant (xyt : XytStruct) :
    xytOfVariant (xytVariant xyt) = .ok xyt.stored := by
  have xLength : (xyt.xcol.take xyt.nrows).length = xyt.nrows :=
    List.length_take_of_le (by rw [xyt.xcol_length]; exact xyt.nrows_le)
  have yLength : (xyt.ycol.take xyt.nrows).length = xyt.nrows :=
    List.length_take_of_le (by rw [xyt.ycol_length]; exact xyt.nrows_le)
  have thetaLength : (xyt.thetacol.take xyt.nrows).length = xyt.nrows :=
    List.length_take_of_le (by rw [xyt.thetacol_length]; exact xyt.nrows_le)
  have columns : xytOfVariant (xytVariant xyt) = xytOfColumns (xyt.xcol.take xyt.nrows)
      (xyt.ycol.take xyt.nrows) (xyt.thetacol.take xyt.nrows) := rfl
  rw [columns]
  unfold xytOfColumns
  rw [dif_neg (by rw [xLength, yLength, thetaLength]; simp),
    dif_neg (by rw [xLength]; exact Nat.not_lt.mpr xyt.nrows_le)]
  simp only [xLength]
  rfl

/-- A template short enough for the interface comes back. -/
theorem sigfmVariant_restored {info : SigfmImgInfo cv}
    (fits : (serializeImgInfo info).length ≤ INT_MAX) :
    sigfmVariant info = .ok (.tuple [.bytes (serializeImgInfo info)]) ∧
      sigfmOfVariant cv (.tuple [.bytes (serializeImgInfo info)]) = .ok info := by
  constructor
  · unfold sigfmVariant
    rw [sigfmSerializeBinary_eq, intOfSize_eq fits]
    dsimp only
    rw [if_neg (Int.not_lt.mpr (Int.natCast_nonneg _)), Int.toNat_natCast, List.take_length]
  · have decoded := deserializeImgInfo_decodes fits []
    rw [List.append_nil] at decoded
    have read := sigfmDeserializeBinary_of_fits fits decoded
    have child : gVariantGetChildValue (.tuple [.bytes (serializeImgInfo info)]) 0 =
        .ok (.bytes (serializeImgInfo info)) := rfl
    have got : gVariantGetBytes (.bytes (serializeImgInfo info)) =
        .ok (serializeImgInfo info) := rfl
    unfold sigfmOfVariant
    rw [child, ok_bind, got, ok_bind, read]
    rfl

/-- A print as it is after storage. -/
def FpPrint.restored (print : FpPrint cv) (prints : PrintData cv) : FpPrint cv :=
  { print with
    prints := prints
    enrollDate := dateNewJulian (storedDate print.enrollDate)
    data := none }

theorem setMetadata_restored (print : FpPrint cv) (printData : Variant) (prints : PrintData cv) :
    setMetadata (print.tuple printData)
        { (fpPrintNew print.driver print.deviceId print.deviceStored : FpPrint cv) with
          prints := prints } =
      print.restored prints := by
  unfold setMetadata FpPrint.restored FpPrint.tuple fpPrintNew
  simp only [FpFinger.ofByte_toByte]

theorem gVariantGetChildValue_array (children : List Variant) :
    gVariantGetChildValue (.tuple [.array children]) 0 = .ok (.array children) :=
  rfl

section Storage

variable {gvariant : GVariantFormat} {print : FpPrint cv}

/-- The bytes of a faithfully stored variant are read as that variant. -/
theorem fpPrintDeserialize_store {value : PrintTuple} (faithful : gvariant.Faithful value) :
    fpPrintDeserialize gvariant cv (PRINT_MAGIC ++ gvariant.store value) =
      (printOfTuple cv value).map (setMetadata value) := by
  obtain ⟨loaded, notEmpty⟩ := faithful
  have long : ¬ (PRINT_MAGIC ++ gvariant.store value).length ≤ 3 := by
    have positive := List.length_pos_iff.mpr notEmpty
    rw [List.length_append]
    change ¬ 3 + (gvariant.store value).length ≤ 3
    omega
  have magic : (PRINT_MAGIC ++ gvariant.store value).take 3 = PRINT_MAGIC :=
    List.take_left' rfl
  have rest : (PRINT_MAGIC ++ gvariant.store value).drop 3 = gvariant.store value :=
    List.drop_left' rfl
  unfold fpPrintDeserialize
  rw [if_neg long, if_neg (not_not.mpr magic), rest]
  dsimp only
  rw [loaded]
  rfl

/-- GVariant is faithful on the value `fp_print_serialize` builds of a print. -/
def FpPrint.StoredFaithfully (gvariant : GVariantFormat) (print : FpPrint cv) : Prop :=
  ∀ value, printTuple print = .ok value → gvariant.Faithful value

/-- A print is stored when its `v` is built, and read from that variant. -/
theorem fpPrintSerialize_of_data (faithful : print.StoredFaithfully gvariant)
    {printData : Variant} (built : printDataVariant print = .ok printData) :
    ∃ stored, fpPrintSerialize gvariant print = .ok stored ∧
      fpPrintDeserialize gvariant cv stored =
        (printOfTuple cv (print.tuple printData)).map (setMetadata (print.tuple printData)) := by
  have tupleEq : printTuple print = .ok (print.tuple printData) := by
    unfold printTuple
    rw [built, ok_bind]
    rfl
  refine ⟨PRINT_MAGIC ++ gvariant.store (print.tuple printData), ?_, ?_⟩
  · unfold fpPrintSerialize
    rw [tupleEq, ok_bind]
    rfl
  · exact fpPrintDeserialize_store (faithful _ tupleEq)

/-- NBIS prints come back with the rows of their tables. -/
theorem fpPrintDeserialize_nbis {prints : List XytStruct} (isNbis : print.prints = .nbis prints)
    (faithful : print.StoredFaithfully gvariant) :
    ∃ stored, fpPrintSerialize gvariant print = .ok stored ∧
      fpPrintDeserialize gvariant cv stored =
        .ok (print.restored (.nbis (prints.map XytStruct.stored))) := by
  have built : printDataVariant print = .ok (.tuple [.array (prints.map xytVariant)]) := by
    unfold printDataVariant
    rw [isNbis]
  have tables : (prints.map xytVariant).mapM xytOfVariant =
      .ok (prints.map XytStruct.stored) := by
    rw [List.mapM_map]
    exact mapM_eq_ok fun xyt _ => xytOfVariant_xytVariant xyt
  obtain ⟨stored, serialized, deserialized⟩ := fpPrintSerialize_of_data faithful built
  refine ⟨stored, serialized, ?_⟩
  have typeEq : (print.tuple (.tuple [.array (prints.map xytVariant)])).type =
      FpiPrintType.nbis.toInt := by
    unfold FpPrint.tuple
    rw [isNbis]
    rfl
  rw [deserialized, printOfTuple, if_pos typeEq]
  dsimp only [FpPrint.tuple]
  rw [gVariantGetChildValue_array, ok_bind, gVariantChildren, ok_bind, tables, ok_bind]
  exact congrArg Except.ok (setMetadata_restored print _ _)

/-- SIGFM prints come back with their templates, as long as each is short
enough for the interface. -/
theorem fpPrintDeserialize_sigfm {prints : List (SigfmImgInfo cv)}
    (isSigfm : print.prints = .sigfm prints)
    (fit : ∀ info ∈ prints, (serializeImgInfo info).length ≤ INT_MAX)
    (faithful : print.StoredFaithfully gvariant) :
    ∃ stored, fpPrintSerialize gvariant print = .ok stored ∧
      fpPrintDeserialize gvariant cv stored = .ok (print.restored (.sigfm prints)) := by
  let template (info : SigfmImgInfo cv) : Variant := .tuple [.bytes (serializeImgInfo info)]
  have built : printDataVariant print = .ok (.tuple [.array (prints.map template)]) := by
    have templates : prints.mapM sigfmVariant = .ok (prints.map template) :=
      mapM_eq_ok fun info member => (sigfmVariant_restored (fit info member)).1
    unfold printDataVariant
    rw [isSigfm]
    dsimp only
    rw [templates, ok_bind]
    rfl
  have templates : (prints.map template).mapM (sigfmOfVariant cv) = .ok prints := by
    rw [List.mapM_map]
    have each := mapM_eq_ok (g := id) fun info member => (sigfmVariant_restored (fit info member)).2
    rw [List.map_id] at each
    exact each
  obtain ⟨stored, serialized, deserialized⟩ := fpPrintSerialize_of_data faithful built
  refine ⟨stored, serialized, ?_⟩
  have typeEq : (print.tuple (.tuple [.array (prints.map template)])).type =
      FpiPrintType.sigfm.toInt := by
    unfold FpPrint.tuple
    rw [isSigfm]
    rfl
  have notNbis : (print.tuple (.tuple [.array (prints.map template)])).type ≠
      FpiPrintType.nbis.toInt := by
    rw [typeEq]
    decide
  rw [deserialized, printOfTuple, if_neg notNbis, if_pos typeEq]
  dsimp only [FpPrint.tuple]
  rw [gVariantGetChildValue_array, ok_bind, gVariantChildren, ok_bind, templates, ok_bind]
  exact congrArg Except.ok (setMetadata_restored print _ _)

end Storage

/-! ## Equality after storage -/

/-- A table has nothing but zeros after its rows. -/
def XytStruct.ZeroTail (xyt : XytStruct) : Prop :=
  (∀ value ∈ xyt.xcol.drop xyt.nrows, value = 0) ∧
    (∀ value ∈ xyt.ycol.drop xyt.nrows, value = 0) ∧
      ∀ value ∈ xyt.thetacol.drop xyt.nrows, value = 0

/-- A column is what is stored of it exactly when the rest is zeros. -/
theorem xytColumn_take_eq_iff {column : List UInt32} {nrows : Nat}
    (columnLength : column.length = MAX_BOZORTH_MINUTIAE) (rows : nrows ≤ MAX_BOZORTH_MINUTIAE) :
    column = xytColumn (column.take nrows) ↔ ∀ value ∈ column.drop nrows, value = 0 := by
  have takeLength : (column.take nrows).length = nrows :=
    List.length_take_of_le (by rw [columnLength]; exact rows)
  have dropLength : (column.drop nrows).length = MAX_BOZORTH_MINUTIAE - nrows := by
    rw [List.length_drop, columnLength]
  have split : column = column.take nrows ++ column.drop nrows :=
    (List.take_append_drop nrows column).symm
  unfold xytColumn
  rw [takeLength]
  constructor
  · intro same
    have rest := List.append_cancel_left (split.symm.trans same)
    exact (List.eq_replicate_iff.mp rest).2
  · intro zeros
    have rest := List.eq_replicate_iff.mpr ⟨dropLength, zeros⟩
    rw [← rest]
    exact split

/-- A table survives storage exactly when it ends in zeros. -/
theorem XytStruct.eq_stored_iff (xyt : XytStruct) : xyt = xyt.stored ↔ xyt.ZeroTail := by
  unfold XytStruct.ZeroTail
  rw [← xytColumn_take_eq_iff xyt.xcol_length xyt.nrows_le,
    ← xytColumn_take_eq_iff xyt.ycol_length xyt.nrows_le,
    ← xytColumn_take_eq_iff xyt.thetacol_length xyt.nrows_le]
  obtain ⟨nrows, xcol, ycol, thetacol, _, _, _, _⟩ := xyt
  unfold XytStruct.stored
  simp only [XytStruct.mk.injEq, true_and]

/-- The loop over stored tables finds no difference exactly when there is
none. -/
theorem xytsEqual_stored_iff (prints : List XytStruct) :
    xytsEqual prints (prints.map XytStruct.stored) = true ↔ ∀ xyt ∈ prints, xyt.ZeroTail := by
  induction prints with
  | nil => simp [xytsEqual]
  | cons xyt prints ih =>
      rw [List.map_cons, xytsEqual, List.forall_mem_cons, ← ih, ← XytStruct.eq_stored_iff]
      unfold xytEqual
      by_cases same : xyt = xyt.stored
      · rw [if_pos (decide_eq_true same)]
        exact ⟨fun others => ⟨same, others⟩, And.right⟩
      · rw [if_neg (by rw [decide_eq_false same]; exact Bool.false_ne_true)]
        exact ⟨nofun, fun both => absurd both.1 same⟩

/-- `fp_print_equal` never answers `TRUE` for a SIGFM print. -/
theorem fpPrintEqual_sigfm {self : FpPrint cv} {prints : List (SigfmImgInfo cv)}
    (isSigfm : self.prints = .sigfm prints) (other : FpPrint cv) :
    fpPrintEqual self other ≠ .ok true := by
  unfold fpPrintEqual
  rw [isSigfm]
  intro equal
  split at equal
  · cases equal
  · split at equal
    · cases equal
    · split at equal
      · cases equal
      · split at equal
        · cases equal
        · split at equal
          · cases equal
          · cases equal

/-- `fp_print_equal` compares an NBIS print with its stored form table by
table. -/
theorem fpPrintEqual_nbis {self : FpPrint cv} {prints : List XytStruct}
    (isNbis : self.prints = .nbis prints) :
    fpPrintEqual self (self.restored (.nbis (prints.map XytStruct.stored))) =
      .ok (xytsEqual prints (prints.map XytStruct.stored)) := by
  have sameLength : ¬ prints.length ≠ (prints.map XytStruct.stored).length := by
    rw [List.length_map]
    exact not_not.mpr rfl
  unfold fpPrintEqual FpPrint.restored
  dsimp only
  rw [isNbis]
  simp only [PrintData.type, reduceCtorEq, ne_eq, not_true_eq_false, if_false]
  rw [if_neg sameLength]

/-- An NBIS print whose tables have nothing but zeros after their rows. -/
def FpPrint.NbisZeroed (print : FpPrint cv) : Prop :=
  ∃ prints, print.prints = .nbis prints ∧ ∀ xyt ∈ prints, xyt.ZeroTail

/-- A print survives storage: it is stored and read back, and the two are equal
for `fp_print_equal`. -/
def FpPrint.SurvivesStorage (gvariant : GVariantFormat) (print : FpPrint cv) : Prop :=
  ∃ stored result, fpPrintSerialize gvariant print = .ok stored ∧
    fpPrintDeserialize gvariant cv stored = .ok result ∧ fpPrintEqual print result = .ok true

/-- Of the prints with sub-prints, those that survive storage are the NBIS
prints whose tables have nothing but zeros after their rows. -/
theorem survivesStorage_iff {gvariant : GVariantFormat} {print : FpPrint cv}
    (hasPrints : print.prints.type = .nbis ∨ print.prints.type = .sigfm)
    (faithful : print.StoredFaithfully gvariant) :
    print.SurvivesStorage gvariant ↔ print.NbisZeroed := by
  unfold FpPrint.NbisZeroed
  cases data : print.prints with
  | undefined =>
      rw [data] at hasPrints
      rcases hasPrints with isNbis | isSigfm
      · cases isNbis
      · cases isSigfm
  | raw =>
      rw [data] at hasPrints
      rcases hasPrints with isNbis | isSigfm
      · cases isNbis
      · cases isSigfm
  | nbis prints =>
      obtain ⟨stored, serialized, deserialized⟩ := fpPrintDeserialize_nbis data faithful
      have equal := fpPrintEqual_nbis data
      constructor
      · rintro ⟨otherStored, result, otherSerialized, otherDeserialized, isEqual⟩
        rw [serialized] at otherSerialized
        cases otherSerialized
        rw [deserialized] at otherDeserialized
        cases otherDeserialized
        rw [equal] at isEqual
        exact ⟨prints, rfl, (xytsEqual_stored_iff prints).mp (Except.ok.inj isEqual)⟩
      · rintro ⟨others, same, zeros⟩
        cases same
        refine ⟨stored, _, serialized, deserialized, ?_⟩
        rw [equal, (xytsEqual_stored_iff prints).mpr zeros]
  | sigfm prints =>
      constructor
      · rintro ⟨stored, result, _, _, isEqual⟩
        exact absurd isEqual (fpPrintEqual_sigfm data result)
      · rintro ⟨others, same, _⟩
        cases same

/-! ## Enrolled prints -/

/-- One added print keeps the zeros. -/
theorem fpiPrintAddPrint_nbisZeroed {print add result : FpPrint cv} (zeroed : print.NbisZeroed)
    (addZeroed : add.NbisZeroed) (added : fpiPrintAddPrint print add = .ok result) :
    result.NbisZeroed := by
  obtain ⟨prints, isNbis, zeros⟩ := zeroed
  obtain ⟨addPrints, addIsNbis, addZeros⟩ := addZeroed
  unfold fpiPrintAddPrint at added
  rw [isNbis, addIsNbis] at added
  match addPrints with
  | [] =>
      cases added
      exact ⟨prints, isNbis, zeros⟩
  | [xyt] =>
      cases added
      refine ⟨prints ++ [xyt], rfl, ?_⟩
      intro other member
      rcases List.mem_append.mp member with old | new
      · exact zeros other old
      · exact addZeros other new
  | _ :: _ :: _ => cases added

/-- An enrollment of any number of scans keeps the zeros. -/
theorem enrolled_nbisZeroed {scans : List (FpPrint cv)} {template result : FpPrint cv}
    (start : template.NbisZeroed) (zeroed : ∀ scan ∈ scans, scan.NbisZeroed)
    (enrolled : scans.foldlM fpiPrintAddPrint template = .ok result) : result.NbisZeroed := by
  induction scans generalizing template with
  | nil =>
      cases enrolled
      exact start
  | cons scan scans ih =>
      rw [List.foldlM_cons] at enrolled
      cases added : fpiPrintAddPrint template scan with
      | error failure =>
          rw [added] at enrolled
          cases enrolled
      | ok next =>
          rw [added, ok_bind] at enrolled
          have scanZeroed := zeroed scan List.mem_cons_self
          have nextZeroed := fpiPrintAddPrint_nbisZeroed start scanZeroed added
          exact ih nextZeroed (fun other member => zeroed other (List.mem_cons_of_mem _ member))
            enrolled

/-! ## Two prints -/

/-- A print of `gxfp`, device `0`, without metadata. -/
def plainPrint (prints : PrintData opencv4) : FpPrint opencv4 :=
  { (fpPrintNew "gxfp" "0" false : FpPrint opencv4) with prints := prints }

/-- A table of one row. -/
def oneRow : XytStruct where
  nrows := 1
  xcol := xytColumn [1]
  ycol := xytColumn [2]
  thetacol := xytColumn [3]
  nrows_le := by decide
  xcol_length := xytColumn_length (by decide)
  ycol_length := xytColumn_length (by decide)
  thetacol_length := xytColumn_length (by decide)

/-- GVariant at the print of one table: its bytes, with `v` from offset 24 and
the framing offsets at the end. -/
def tableFormat : GVariantFormat where
  store _ :=
    [2, 0, 0, 0, 103, 120, 102, 112, 0, 48, 0, 0, 0, 0, 0, 0, 0, 0, 0, 128, 0, 0, 0, 0] ++
      [1, 0, 0, 0, 2, 0, 0, 0, 3, 0, 0, 0, 8, 4, 14, 0] ++
      [40, 97, 40, 97, 105, 97, 105, 97, 105, 41, 41] ++ [24, 13, 13, 11, 9]
  load _ := (plainPrint (.nbis [oneRow])).tuple (.tuple [.array [xytVariant oneRow]])

theorem survivesStorage_oneRow :
    (plainPrint (.nbis [oneRow])).SurvivesStorage tableFormat := by
  have faithful : (plainPrint (.nbis [oneRow])).StoredFaithfully tableFormat := by
    intro value built
    cases built
    exact ⟨rfl, nofun⟩
  have zeros : oneRow.ZeroTail :=
    ⟨fun _ => List.eq_of_mem_replicate, fun _ => List.eq_of_mem_replicate,
      fun _ => List.eq_of_mem_replicate⟩
  exact (survivesStorage_iff (.inl rfl) faithful).mpr
    ⟨[oneRow], rfl, fun xyt member => by rw [List.mem_singleton.mp member]; exact zeros⟩

/-- A template without key points. -/
def rowTemplate : SigfmImgInfo opencv4 where
  keypoints := []
  descriptors := byteRow [8, 9] (by decide)

/-- GVariant at the print of one template. -/
def templateFormat : GVariantFormat where
  store _ :=
    [3, 0, 0, 0, 103, 120, 102, 112, 0, 48, 0, 0, 0, 0, 0, 0, 0, 0, 0, 128, 0, 0, 0, 0] ++
      [0, 0, 0, 0, 0, 0, 0, 0, 0, 0, 0, 0, 1, 0, 0, 0, 2, 0, 0, 0, 8, 9, 22, 0] ++
      [40, 97, 40, 97, 121, 41, 41] ++ [24, 13, 13, 11, 9]
  load _ := (plainPrint (.sigfm [rowTemplate])).tuple
    (.tuple [.array [.tuple [.bytes (serializeImgInfo rowTemplate)]]])

/-- A SIGFM print is stored and read back, and then `fp_print_equal` runs into
its assertion. -/
theorem survivesStorage_rowTemplate :
    (plainPrint (.sigfm [rowTemplate])).StoredFaithfully templateFormat ∧
      (∃ stored result, fpPrintSerialize templateFormat (plainPrint (.sigfm [rowTemplate])) =
          .ok stored ∧
        fpPrintDeserialize templateFormat opencv4 stored = .ok result ∧
        fpPrintEqual (plainPrint (.sigfm [rowTemplate])) result = .error .aborted) ∧
      ¬ (plainPrint (.sigfm [rowTemplate])).SurvivesStorage templateFormat := by
  have fits : (serializeImgInfo rowTemplate).length ≤ INT_MAX := by decide
  have faithful : (plainPrint (.sigfm [rowTemplate])).StoredFaithfully templateFormat := by
    intro value built
    cases built
    exact ⟨rfl, nofun⟩
  refine ⟨faithful, ?_, ?_⟩
  · obtain ⟨stored, serialized, deserialized⟩ := fpPrintDeserialize_sigfm rfl
      (fun info member => by rw [List.mem_singleton.mp member]; exact fits) faithful
    exact ⟨stored, _, serialized, deserialized, rfl⟩
  · rintro ⟨stored, result, _, _, isEqual⟩
    exact fpPrintEqual_sigfm rfl result isEqual

end Gxfp.Fprint
