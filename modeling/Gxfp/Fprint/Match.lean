import Gxfp.Fprint.Print
import Gxfp.Lib.Pairs

/-!
# Matching of SIGFM prints

Embeds `sigfm_match_score` of `libfprint/libfprint/sigfm/sigfm.cpp` and
`fpi_print_sigfm_match` of `libfprint/libfprint/fpi-print.c`.  Points and vectors
have coordinates of type `int`; a sum that leaves the range wraps.

What the score computes in floating point is a parameter, as functions of the
integers it is computed from; so is what is used of OpenCV.  An exception of the
score is `none`; running out of memory is not modelled.
-/

namespace Gxfp.Fprint

open Lib.Pairs

/-! ## Correspondences -/

/-- `cv::Point2i`, also for the vectors `int [2]`. -/
structure Point2i where
  x : Int32
  y : Int32
  deriving DecidableEq, Repr

/-- `struct match`. -/
structure Match where
  p1 : Point2i
  p2 : Point2i
  deriving DecidableEq, Repr

/-- `operator<` of two tuples that `std::tie` makes. -/
def tieLt : List Int32 → List Int32 → Bool
  | a :: as, b :: bs => decide (a < b) || (!decide (b < a) && tieLt as bs)
  | _, _ => false

/-- The order of the members that `match::operator<` compares. -/
def Match.tie (m : Match) : List Int32 :=
  [m.p1.y, m.p1.x, m.p2.y, m.p2.x]

/-- `match::operator<`. -/
def Match.lt (left right : Match) : Bool :=
  tieLt left.tie right.tie

/-- `std::set<match>::emplace`; a set is its elements in ascending order. -/
def setEmplace (m : Match) : List Match → List Match
  | [] => [m]
  | first :: rest =>
      if m.lt first then
        m :: first :: rest
      else if first.lt m then
        first :: setEmplace m rest
      else
        first :: rest

/-- `matches_unique` after the correspondences that were accepted. -/
def matchesUnique (accepted : List Match) : List Match :=
  accepted.foldl (fun matches_ m => setEmplace m matches_) []

/-! ## Angles -/

/-- The difference of two points. -/
def Point2i.sub (a b : Point2i) : Point2i :=
  ⟨a.x - b.x, a.y - b.y⟩

/-- The square of the length of a vector. -/
def Point2i.sq (v : Point2i) : Int :=
  v.x.toInt ^ 2 + v.y.toInt ^ 2

/-- The scalar product of two vectors. -/
def Point2i.dot (v w : Point2i) : Int :=
  (v.x * w.x + v.y * w.y).toInt

/-- The cross product of two vectors. -/
def Point2i.cross (v w : Point2i) : Int :=
  (v.x * w.y - v.y * w.x).toInt

/-- What the score computes in floating point. -/
structure Measure (α : Type) where
  /-- The test against `length_match`, from the squares of the two lengths. -/
  lengthMatch : Int → Int → Bool
  /-- `struct angle`, from the squares of the two lengths, the scalar product and the
  cross product. -/
  angle : Int → Int → Int → Int → α
  /-- The test against `angle_tol_rad`. -/
  close : α → α → Bool
  /-- The test takes absolute values of differences. -/
  close_comm : ∀ a b, close a b = close b a

variable {α : Type}

/-- The body of the loops over the correspondences: the angle of a pair whose
lengths match. -/
def pairAngle (measure : Measure α) (match1 match2 : Match) : Option α :=
  let vec1 := match1.p1.sub match2.p1
  let vec2 := match1.p2.sub match2.p2
  if measure.lengthMatch vec1.sq vec2.sq then
    some (measure.angle vec1.sq vec2.sq (vec1.dot vec2) (vec1.cross vec2))
  else
    none

/-- `angles`. -/
def matchAngles (measure : Measure α) (matches_ : List Match) : List α :=
  pairMap (pairAngle measure) matches_

/-- The loops that count the pairs of angles. -/
def countLoop (measure : Measure α) : List α → Int32 → Int32
  | [], count => count
  | angle1 :: rest, count =>
      countLoop measure rest
        (rest.foldl
          (fun count angle2 => if measure.close angle1 angle2 then count + 1 else count) count)

def MIN_MATCH : Nat := 5

/-- The score of the correspondences that were accepted. -/
def matchScore (measure : Measure α) (accepted : List Match) : Int32 :=
  if accepted.length < MIN_MATCH then
    0
  else
    let angles := matchAngles measure (matchesUnique accepted)
    if angles.length < MIN_MATCH then
      0
    else
      countLoop measure angles 0

/-! ## The score -/

/-- `cv::DMatch`. -/
structure DMatch where
  queryIdx : Int32
  trainIdx : Int32
  distance : UInt32
  deriving DecidableEq, Repr

/-- What is used of OpenCV for matching, with the comparison of two distances. -/
structure Matcher (cv : OpenCv) where
  /-- `cv::BFMatcher::knnMatch` with two neighbours; `none` for an exception. -/
  knnMatch : Mat cv → Mat cv → Option (List (List DMatch))
  /-- Whether the first distance is less than `distance_match` times the second. -/
  closer : UInt32 → UInt32 → Bool
  /-- The conversion of a `cv::Point2f`. -/
  toPoint2i : Point2f → Point2i

variable {cv : OpenCv}

/-- `keypoints.at`. -/
def keypointAt (info : SigfmImgInfo cv) (idx : Int32) : Option KeyPoint :=
  if idx < 0 then none else info.keypoints[idx.toInt.toNat]?

/-- The body of the loop over the points: the correspondence that is accepted. -/
def acceptedMatch (matcher : Matcher cv) (frame enrolled : SigfmImgInfo cv) :
    List DMatch → Option (Option Match)
  | match1 :: match2 :: _ =>
      if matcher.closer match1.distance match2.distance then do
        let query ← keypointAt frame match1.queryIdx
        let train ← keypointAt enrolled match1.trainIdx
        pure (some ⟨matcher.toPoint2i query.pt, matcher.toPoint2i train.pt⟩)
      else
        pure none
  | _ => pure none

/-- The correspondences that are accepted, in order. -/
def acceptedMatches (matcher : Matcher cv) (frame enrolled : SigfmImgInfo cv) :
    Option (List Match) := do
  let points ← matcher.knnMatch frame.descriptors enrolled.descriptors
  let accepted ← points.mapM (acceptedMatch matcher frame enrolled)
  pure accepted.reduceOption

/-- `sigfm_match_score`. -/
def sigfmMatchScore (measure : Measure α) (matcher : Matcher cv)
    (frame enrolled : SigfmImgInfo cv) : Int32 :=
  match acceptedMatches matcher frame enrolled with
  | some accepted => matchScore measure accepted
  | none => -1

/-! ## Matching a print -/

/-- `FpiMatchResult` without its numbers. -/
inductive FpiMatchResult
  | error
  | fail
  | success
  deriving DecidableEq, Repr

/-- `FpDeviceError`, as far as matching reports it. -/
inductive FpDeviceError
  | notSupported
  | dataInvalid
  deriving DecidableEq, Repr

/-- What a match comes to: its result and `*error`. -/
structure FpiMatch where
  result : FpiMatchResult
  error : Option (FpDeviceError × String)
  deriving DecidableEq, Repr

/-- The loop of `fpi_print_sigfm_match` over the prints of the template. -/
def sigfmMatchLoop (measure : Measure α) (matcher : Matcher cv) (against : SigfmImgInfo cv)
    (bz3Threshold : Int32) : List (SigfmImgInfo cv) → FpiMatch
  | [] => ⟨.fail, none⟩
  | pinfo :: rest =>
      let score := sigfmMatchScore measure matcher pinfo against
      if score < 0 then
        ⟨.error, some (.dataInvalid, "error in sigfm_match_score")⟩
      else if score ≥ bz3Threshold then
        ⟨.success, none⟩
      else
        sigfmMatchLoop measure matcher against bz3Threshold rest

/-- `fpi_print_sigfm_match`; the print is indexed without a look at its type and at
the number of its sub-prints. -/
def fpiPrintSigfmMatch (measure : Measure α) (matcher : Matcher cv) (template print : FpPrint cv)
    (bz3Threshold : Int32) : Except PrintFailure FpiMatch :=
  match template.prints with
  | .sigfm prints =>
      match print.prints with
      | .sigfm (against :: _) =>
          .ok (sigfmMatchLoop measure matcher against bz3Threshold prints)
      | .sigfm [] => .error .outOfBounds
      | _ => .error .aborted
  | other =>
      .ok ⟨.error, some (.notSupported,
        "Cannot call sigfm match with non-sigfm print data, type was " ++
          toString other.type.toInt)⟩

/-! ## Integer vectors -/

/-- The square of the length of an integer vector. -/
def vecSq (v : ℤ × ℤ) : ℤ :=
  v.1 ^ 2 + v.2 ^ 2

/-- The scalar product of integer vectors. -/
def vecDot (v w : ℤ × ℤ) : ℤ :=
  v.1 * w.1 + v.2 * w.2

/-- The cross product of integer vectors. -/
def vecCross (v w : ℤ × ℤ) : ℤ :=
  v.1 * w.2 - v.2 * w.1

/-- The integers of a vector of the score. -/
def Point2i.toVec (v : Point2i) : ℤ × ℤ :=
  (v.x.toInt, v.y.toInt)

theorem Point2i.sq_eq (v : Point2i) : v.sq = vecSq v.toVec :=
  rfl

/-- Where it is an `int`, the scalar product of the score is that of the
integers. -/
theorem Point2i.dot_eq {v w : Point2i}
    (fits : -2147483648 ≤ vecDot v.toVec w.toVec ∧ vecDot v.toVec w.toVec < 2147483648) :
    v.dot w = vecDot v.toVec w.toVec := by
  have wrapped : v.dot w = (vecDot v.toVec w.toVec).bmod (2 ^ 32) := by
    simp [dot, vecDot, toVec, Int32.toInt_add, Int32.toInt_mul]
  rw [wrapped, Int.bmod_def]
  omega

/-- The same for the cross product. -/
theorem Point2i.cross_eq {v w : Point2i}
    (fits : -2147483648 ≤ vecCross v.toVec w.toVec ∧ vecCross v.toVec w.toVec < 2147483648) :
    v.cross w = vecCross v.toVec w.toVec := by
  have wrapped : v.cross w = (vecCross v.toVec w.toVec).bmod (2 ^ 32) := by
    simp [cross, vecCross, toVec, Int32.toInt_sub, Int32.toInt_mul]
  rw [wrapped, Int.bmod_def]
  omega

/-! ## The set of correspondences -/

@[simp]
theorem tieLt_self (members : List Int32) : tieLt members members = false := by
  induction members with
  | nil => rfl
  | cons a as ih => simp [tieLt, Int32.lt_irrefl, ih]

/-- What neither is less than the other agrees in all members. -/
theorem eq_of_tieLt_eq_false {left right : List Int32} (sameLength : left.length = right.length)
    (notLess : tieLt left right = false) (notGreater : tieLt right left = false) :
    left = right := by
  induction left generalizing right with
  | nil => exact (List.eq_nil_of_length_eq_zero sameLength.symm).symm
  | cons a as ih =>
      cases right with
      | nil => cases sameLength
      | cons b bs =>
          simp only [tieLt, Bool.or_eq_false_iff, decide_eq_false_iff_not, Bool.and_eq_false_iff,
            Bool.not_eq_false', decide_eq_true_eq] at notLess notGreater
          obtain ⟨notLt, lessRest⟩ := notLess
          obtain ⟨notGt, greaterRest⟩ := notGreater
          have same : a = b := Int32.le_antisymm (Int32.not_lt.mp notGt) (Int32.not_lt.mp notLt)
          rw [same, ih (Nat.succ.inj sameLength) (lessRest.resolve_left notGt)
            (greaterRest.resolve_left notLt)]

theorem tieLt_trans {first second third : List Int32} (less : tieLt first second = true)
    (lessNext : tieLt second third = true) : tieLt first third = true := by
  induction first generalizing second third with
  | nil => cases second <;> cases less
  | cons a as ih =>
      cases second with
      | nil => cases less
      | cons b bs =>
          cases third with
          | nil => cases lessNext
          | cons c cs =>
              simp only [tieLt, Bool.or_eq_true, decide_eq_true_eq, Bool.and_eq_true,
                Bool.not_eq_true', decide_eq_false_iff_not] at less lessNext ⊢
              rcases less with less | ⟨notGt, lessRest⟩
              · rcases lessNext with lessNext | ⟨notGtNext, _⟩
                · exact .inl (Int32.lt_trans less lessNext)
                · exact .inl (Int32.lt_of_lt_of_le less (Int32.not_lt.mp notGtNext))
              · rcases lessNext with lessNext | ⟨notGtNext, lessRestNext⟩
                · exact .inl (Int32.lt_of_le_of_lt (Int32.not_lt.mp notGt) lessNext)
                · refine .inr ⟨?_, ih lessRest lessRestNext⟩
                  exact Int32.not_lt.mpr
                    (Int32.le_trans (Int32.not_lt.mp notGt) (Int32.not_lt.mp notGtNext))

namespace Match

@[simp]
theorem lt_self (m : Match) : m.lt m = false :=
  tieLt_self m.tie

/-- The order tells all correspondences apart. -/
theorem eq_of_lt_eq_false {left right : Match} (notLess : left.lt right = false)
    (notGreater : right.lt left = false) : left = right := by
  have same : left.tie = right.tie := eq_of_tieLt_eq_false rfl notLess notGreater
  obtain ⟨⟨x1, y1⟩, ⟨x2, y2⟩⟩ := left
  obtain ⟨⟨x1', y1'⟩, ⟨x2', y2'⟩⟩ := right
  simp only [tie, List.cons.injEq, and_true] at same
  obtain ⟨rfl, rfl, rfl, rfl⟩ := same
  rfl

end Match

@[simp]
theorem mem_setEmplace {m other : Match} {matches_ : List Match} :
    other ∈ setEmplace m matches_ ↔ other = m ∨ other ∈ matches_ := by
  induction matches_ with
  | nil => simp [setEmplace]
  | cons first rest ih =>
      rw [setEmplace]
      by_cases less : m.lt first = true
      · rw [if_pos less, List.mem_cons]
      · rw [if_neg less]
        by_cases greater : first.lt m = true
        · rw [if_pos greater, List.mem_cons, ih, List.mem_cons]
          exact or_left_comm
        · have same := Match.eq_of_lt_eq_false (Bool.eq_false_iff.mpr less)
            (Bool.eq_false_iff.mpr greater)
          rw [if_neg greater, List.mem_cons, same]
          simp

theorem setEmplace_sorted {matches_ : List Match}
    (sorted : matches_.Pairwise fun left right => left.lt right = true) (m : Match) :
    (setEmplace m matches_).Pairwise fun left right => left.lt right = true := by
  induction matches_ with
  | nil => exact List.pairwise_singleton _ m
  | cons first rest ih =>
      rw [List.pairwise_cons] at sorted
      rw [setEmplace]
      by_cases less : m.lt first = true
      · rw [if_pos less, List.pairwise_cons]
        refine ⟨?_, List.pairwise_cons.mpr sorted⟩
        intro other member
        rcases List.mem_cons.mp member with rfl | later
        · exact less
        · exact tieLt_trans less (sorted.1 other later)
      · rw [if_neg less]
        by_cases greater : first.lt m = true
        · rw [if_pos greater, List.pairwise_cons]
          refine ⟨?_, ih sorted.2⟩
          intro other member
          rcases mem_setEmplace.mp member with rfl | later
          · exact greater
          · exact sorted.1 other later
        · rw [if_neg greater, List.pairwise_cons]
          exact sorted

/-- The set has the accepted correspondences and no others. -/
@[simp]
theorem mem_matchesUnique {accepted : List Match} {m : Match} :
    m ∈ matchesUnique accepted ↔ m ∈ accepted := by
  have during (done : List Match) :
      m ∈ accepted.foldl (fun matches_ m => setEmplace m matches_) done ↔
        m ∈ done ∨ m ∈ accepted := by
    induction accepted generalizing done with
    | nil => simp
    | cons first rest ih =>
        rw [List.foldl_cons, ih, mem_setEmplace, List.mem_cons, or_assoc, or_left_comm]
  simpa [matchesUnique] using during []

theorem matchesUnique_sorted (accepted : List Match) :
    (matchesUnique accepted).Pairwise fun left right => left.lt right = true := by
  have during (done : List Match)
      (sorted : done.Pairwise fun left right => left.lt right = true) :
      (accepted.foldl (fun matches_ m => setEmplace m matches_) done).Pairwise
        fun left right => left.lt right = true := by
    induction accepted generalizing done with
    | nil => exact sorted
    | cons first rest ih => exact ih _ (setEmplace_sorted sorted first)
  exact during [] .nil

/-- The set has every correspondence once. -/
theorem matchesUnique_nodup (accepted : List Match) : (matchesUnique accepted).Nodup := by
  refine (matchesUnique_sorted accepted).imp ?_
  rintro left right less rfl
  rw [Match.lt_self] at less
  cases less

end Gxfp.Fprint
