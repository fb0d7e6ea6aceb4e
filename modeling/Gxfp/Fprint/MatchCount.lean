import Gxfp.Fprint.MatchPlacement
import Mathlib.Algebra.Order.Ring.Int
import Mathlib.Tactic.Linarith

/-!
# The score as a count

The score counts the pairs of angles that agree.  With `n` correspondences there are
up to `n (n - 1) / 2` angles, and the pairs of these grow with the fourth power of
`n`; the count is an `int`, and a negative score is an error to the caller.

The file says when the score is the count, and when `fpi_print_sigfm_match` is then
decided by the counts: exactly when none of them is above `INT_MAX`.  Up to 362
correspondences none is; 363 that all agree are enough.
-/

namespace Gxfp.Fprint

open Lib.Pairs
open Lib.Bytes

variable {α : Type} {cv : OpenCv}

/-! ## The count -/

/-- Matching the two prints throws an exception. -/
def MatchThrows (matcher : Matcher cv) (frame enrolled : SigfmImgInfo cv) : Prop :=
  acceptedMatches matcher frame enrolled = none

/-- The angles of two prints that get past the two minimum-size tests. -/
def countedAngles (measure : Measure α) (matcher : Matcher cv) (frame enrolled : SigfmImgInfo cv) :
    Option (List α) :=
  (acceptedMatches matcher frame enrolled).bind fun accepted =>
    let angles := matchAngles measure (matchesUnique accepted)
    if MIN_MATCH ≤ accepted.length ∧ MIN_MATCH ≤ angles.length then some angles else none

/-- The number of unordered pairs of angles that pass the tolerance test. -/
def closePairs (measure : Measure α) (angles : List α) : Nat :=
  (pairs measure.close angles).card

/-- Some print of the template, before any whose matching throws, gets past the
minimum-size tests with a count of at least the threshold. -/
def SomePrintMatches (measure : Measure α) (matcher : Matcher cv) (against : SigfmImgInfo cv)
    (bz3Threshold : Int32) (prints : List (SigfmImgInfo cv)) : Prop :=
  ∃ front pinfo rest angles, prints = front ++ pinfo :: rest ∧
    (∀ before ∈ front, ¬ MatchThrows matcher before against) ∧
    countedAngles measure matcher pinfo against = some angles ∧
    bz3Threshold.toInt ≤ closePairs measure angles

/-! ## The score -/

theorem matchScore_of_enough {measure : Measure α} {accepted : List Match}
    (enough : MIN_MATCH ≤ accepted.length)
    (enoughAngles : MIN_MATCH ≤ (matchAngles measure (matchesUnique accepted)).length) :
    matchScore measure accepted =
      Int32.ofNat (closePairs measure (matchAngles measure (matchesUnique accepted))) := by
  unfold matchScore
  rw [if_neg (Nat.not_lt.mpr enough)]
  dsimp only
  rw [if_neg (Nat.not_lt.mpr enoughAngles), countLoop_eq, closePairs, card_pairs, Int32.zero_add]

/-- What a score says: an exception, too little to go by, or the count. -/
theorem sigfmMatchScore_cases (measure : Measure α) (matcher : Matcher cv)
    (frame enrolled : SigfmImgInfo cv) :
    (MatchThrows matcher frame enrolled ∧ countedAngles measure matcher frame enrolled = none ∧
        sigfmMatchScore measure matcher frame enrolled = -1) ∨
      (¬ MatchThrows matcher frame enrolled ∧ countedAngles measure matcher frame enrolled = none ∧
        sigfmMatchScore measure matcher frame enrolled = 0) ∨
      (¬ MatchThrows matcher frame enrolled ∧
        ∃ angles, countedAngles measure matcher frame enrolled = some angles ∧
          sigfmMatchScore measure matcher frame enrolled =
            Int32.ofNat (closePairs measure angles)) := by
  unfold MatchThrows countedAngles sigfmMatchScore
  cases acceptedMatches matcher frame enrolled with
  | none => exact .inl ⟨rfl, rfl, rfl⟩
  | some accepted =>
      right
      dsimp only [Option.bind_some]
      by_cases enough : MIN_MATCH ≤ accepted.length ∧
          MIN_MATCH ≤ (matchAngles measure (matchesUnique accepted)).length
      · right
        rw [if_pos enough, matchScore_of_enough enough.1 enough.2]
        exact ⟨by simp, _, rfl, rfl⟩
      · left
        rw [if_neg enough]
        refine ⟨by simp, rfl, ?_⟩
        unfold matchScore
        by_cases few : accepted.length < MIN_MATCH
        · rw [if_pos few]
        · rw [if_neg few]
          dsimp only
          rw [if_pos]
          by_contra! more
          exact enough ⟨Nat.le_of_not_lt few, more⟩

/-- A count is its own `int` up to `INT_MAX`. -/
theorem toInt_ofNat_eq_iff (n : Nat) : (Int32.ofNat n).toInt = n ↔ n ≤ INT_MAX := by
  rw [INT_MAX]
  constructor
  · intro same
    have below := (Int32.ofNat n).toInt_lt
    omega
  · intro fits
    exact Int32.toInt_ofNat_of_lt (by omega)

/-! ## The match -/

section Loop

variable {measure : Measure α} {matcher : Matcher cv} {against : SigfmImgInfo cv}
  {bz3Threshold : Int32}

theorem not_somePrintMatches_nil :
    ¬ SomePrintMatches measure matcher against bz3Threshold [] := by
  rintro ⟨front, pinfo, rest, angles, split, _⟩
  simp at split

/-- Either the first print matches, or it does not throw and a later one does. -/
theorem somePrintMatches_cons {pinfo : SigfmImgInfo cv} {prints : List (SigfmImgInfo cv)} :
    SomePrintMatches measure matcher against bz3Threshold (pinfo :: prints) ↔
      (∃ angles, countedAngles measure matcher pinfo against = some angles ∧
        bz3Threshold.toInt ≤ closePairs measure angles) ∨
      (¬ MatchThrows matcher pinfo against ∧
        SomePrintMatches measure matcher against bz3Threshold prints) := by
  constructor
  · rintro ⟨front, found, rest, angles, split, noThrow, counted, enough⟩
    cases front with
    | nil =>
        obtain ⟨rfl, rfl⟩ := List.cons.inj split
        exact .inl ⟨angles, counted, enough⟩
    | cons first front =>
        obtain ⟨rfl, rfl⟩ := List.cons.inj split
        refine .inr ⟨noThrow _ List.mem_cons_self, front, found, rest, angles, rfl, ?_, counted,
          enough⟩
        intro before member
        exact noThrow before (List.mem_cons_of_mem _ member)
  · rintro (⟨angles, counted, enough⟩ | ⟨noThrow, front, found, rest, angles, rfl, before, last⟩)
    · exact ⟨[], pinfo, prints, angles, rfl, by simp, counted, enough⟩
    · refine ⟨pinfo :: front, found, rest, angles, rfl, ?_, last⟩
      intro other member
      rcases List.mem_cons.mp member with rfl | later
      · exact noThrow
      · exact before other later

/-- Where no count is above `INT_MAX` the loop succeeds at a print that matches. -/
theorem sigfmMatchLoop_success_iff (positive : 0 < bz3Threshold)
    {prints : List (SigfmImgInfo cv)}
    (fit : ∀ pinfo ∈ prints, ∀ angles, countedAngles measure matcher pinfo against = some angles →
      closePairs measure angles ≤ INT_MAX) :
    (sigfmMatchLoop measure matcher against bz3Threshold prints).result = .success ↔
      SomePrintMatches measure matcher against bz3Threshold prints := by
  induction prints with
  | nil =>
      rw [sigfmMatchLoop]
      exact iff_of_false (by simp) not_somePrintMatches_nil
  | cons pinfo prints ih =>
      have later := ih fun other member => fit other (List.mem_cons_of_mem _ member)
      rw [sigfmMatchLoop, somePrintMatches_cons]
      rcases sigfmMatchScore_cases measure matcher pinfo against with
        ⟨throws, uncounted, score⟩ | ⟨noThrow, uncounted, score⟩ | ⟨noThrow, angles, counted, score⟩
      · rw [score, if_pos (by decide)]
        simp [uncounted, throws]
      · have notEnough : ¬ (0 : Int32) ≥ bz3Threshold := Int32.not_le.mpr positive
        rw [score, if_neg Int32.lt_irrefl, if_neg notEnough, later]
        simp [uncounted, noThrow]
      · have exact_ := (toInt_ofNat_eq_iff _).mpr
          (fit pinfo List.mem_cons_self angles counted)
        have notNegative : ¬ Int32.ofNat (closePairs measure angles) < 0 := by
          rw [Int32.not_lt, Int32.le_iff_toInt_le, exact_]
          exact Int.natCast_nonneg _
        rw [score, if_neg notNegative]
        by_cases enough : bz3Threshold.toInt ≤ closePairs measure angles
        · have reached : Int32.ofNat (closePairs measure angles) ≥ bz3Threshold := by
            rw [ge_iff_le, Int32.le_iff_toInt_le, exact_]
            exact enough
          rw [if_pos reached]
          exact iff_of_true rfl (.inl ⟨angles, counted, enough⟩)
        · have missed : ¬ Int32.ofNat (closePairs measure angles) ≥ bz3Threshold := by
            rw [ge_iff_le, Int32.le_iff_toInt_le, exact_]
            exact enough
          rw [if_neg missed, later]
          simp [counted, noThrow, enough]

end Loop

/-- For a template of any prints and a positive threshold, the scores are the counts
and the match is decided by them exactly when no count is above `INT_MAX`. -/
theorem sigfmMatch_counts_iff (measure : Measure α) (matcher : Matcher cv)
    (template print : FpPrint cv) {prints more : List (SigfmImgInfo cv)}
    {against : SigfmImgInfo cv} {bz3Threshold : Int32}
    (enrolled : template.prints = .sigfm prints) (scanned : print.prints = .sigfm (against :: more))
    (positive : 0 < bz3Threshold) :
    ((∀ pinfo ∈ prints, ∀ angles, countedAngles measure matcher pinfo against = some angles →
        (sigfmMatchScore measure matcher pinfo against).toInt = closePairs measure angles) ∧
      ((fpiPrintSigfmMatch measure matcher template print bz3Threshold).map FpiMatch.result =
          .ok .success ↔
        SomePrintMatches measure matcher against bz3Threshold prints)) ↔
    ∀ pinfo ∈ prints, ∀ angles, countedAngles measure matcher pinfo against = some angles →
      closePairs measure angles ≤ INT_MAX := by
  have scoreOf {pinfo : SigfmImgInfo cv} {angles : List α}
      (counted : countedAngles measure matcher pinfo against = some angles) :
      sigfmMatchScore measure matcher pinfo against = Int32.ofNat (closePairs measure angles) := by
    rcases sigfmMatchScore_cases measure matcher pinfo against with
      ⟨_, uncounted, _⟩ | ⟨_, uncounted, _⟩ | ⟨_, others, alsoCounted, score⟩
    · cases uncounted.symm.trans counted
    · cases uncounted.symm.trans counted
    · cases alsoCounted.symm.trans counted
      exact score
  constructor
  · rintro ⟨exact_, _⟩ pinfo member angles counted
    have same := exact_ pinfo member angles counted
    rw [scoreOf counted] at same
    exact (toInt_ofNat_eq_iff _).mp same
  · intro fit
    constructor
    · intro pinfo member angles counted
      rw [scoreOf counted]
      exact (toInt_ofNat_eq_iff _).mpr (fit pinfo member angles counted)
    · rw [← sigfmMatchLoop_success_iff positive fit, fpiPrintSigfmMatch, enrolled, scanned]
      simp [Except.map]

/-- Up to 362 distinct correspondences the count is an `int`. -/
theorem closePairs_le_of_few (measure : Measure α) {matches_ : List Match}
    (few : matches_.length ≤ 362) :
    closePairs measure (matchAngles measure matches_) ≤ INT_MAX := by
  have angles := length_pairMap_le (pairAngle measure) matches_
  have anglesLe : (pairMap (pairAngle measure) matches_).length ≤ 65341 := by
    have bound := Nat.choose_le_choose 2 few
    rw [Nat.choose_two_right 362] at bound
    omega
  have pairsLe := Nat.choose_le_choose 2 anglesLe
  have count := pairCount_le measure.close (matchAngles measure matches_)
  rw [Nat.choose_two_right 65341] at pairsLe
  rw [closePairs, card_pairs, INT_MAX]
  rw [matchAngles] at count ⊢
  omega

/-! ## A print against itself -/

/-- The `float` of a small natural number. -/
def floatOfNat (n : Nat) : UInt32 :=
  if n = 0 then
    0
  else
    UInt32.ofNat ((127 + n.log2) * 2 ^ 23 + (n * 2 ^ (23 - n.log2) - 2 ^ 23))

/-- The integer part of a `float` that is not negative. -/
def intOfFloat (bits : UInt32) : Int32 :=
  let exponent := bits.toNat / 2 ^ 23
  if exponent < 127 then
    0
  else
    Int32.ofNat ((bits.toNat % 2 ^ 23 + 2 ^ 23) / 2 ^ (150 - exponent))

/-- A key point of a grid of 32 columns. -/
def gridKeypoint (i : Nat) : KeyPoint where
  pt := ⟨floatOfNat (i % 32), floatOfNat (i / 32)⟩
  size := floatOfNat 3
  angle := 0
  response := 0
  octave := 0
  classId := 0

theorem matType_bytes : opencv4.matType 0 = 0 :=
  rfl

/-- Descriptors of two bytes that tell the key points of a grid apart. -/
def gridDescriptors (n : Nat) (few : n < 2147483648) : Mat opencv4 where
  type := 0
  rows := UInt32.ofNat n
  cols := 2
  data := (List.range n).flatMap fun i => [UInt8.ofNat i, UInt8.ofNat (i / 256)]
  type_eq := matType_bytes
  rows_lt := by
    rw [UInt32.toNat_ofNat']
    exact Nat.lt_of_le_of_lt (Nat.mod_le _ _) few
  cols_lt := by decide
  data_length := by
    have elem : opencv4.elemSize 0 = 1 := rfl
    have small : n < 2 ^ 32 := Nat.lt_trans few (by decide)
    have width : (2 : UInt32).toNat = 2 := rfl
    rw [elem, width, UInt32.toNat_ofNat', Nat.mod_eq_of_lt small]
    simp [List.length_flatMap]

/-- A print with the first `n` key points of a grid. -/
def gridPrint (n : Nat) (few : n < 2147483648) : SigfmImgInfo opencv4 where
  keypoints := (List.range n).map gridKeypoint
  descriptors := gridDescriptors n few

/-- A key point of a grid is its own nearest neighbour, at distance zero; the next
one is at distance one. -/
def gridNeighbours (i : Nat) : List DMatch :=
  [⟨Int32.ofNat i, Int32.ofNat i, 0⟩,
    ⟨Int32.ofNat i, Int32.ofNat (if i = 0 then 1 else i - 1), floatOfNat 1⟩]

/-- Matching of a print of a grid with itself. -/
def gridMatcher : Matcher opencv4 where
  knnMatch query _ := some ((List.range query.rows.toNat).map gridNeighbours)
  closer first second := first == 0 && second != 0
  toPoint2i pt := ⟨intOfFloat pt.x, intOfFloat pt.y⟩

/-- The correspondence of a point of a grid with itself. -/
def gridMatch (i : Nat) : Match :=
  fixedMatch (Int32.ofNat (i % 32)) (Int32.ofNat (i / 32))

theorem intOfFloat_floatOfNat {n : Nat} (small : n < 32) :
    intOfFloat (floatOfNat n) = Int32.ofNat n := by
  have all : ∀ n < 32, intOfFloat (floatOfNat n) = Int32.ofNat n := by decide
  exact all n small

theorem keypointAt_gridPrint {n i : Nat} (few : n < 2147483648) (inside : i < n) :
    keypointAt (gridPrint n few) (Int32.ofNat i) = some (gridKeypoint i) := by
  have index : (Int32.ofNat i).toInt = i := Int32.toInt_ofNat_of_lt (by omega)
  have notNegative : ¬ Int32.ofNat i < 0 := by
    rw [Int32.not_lt, Int32.le_iff_toInt_le, index]
    exact Int.natCast_nonneg _
  rw [keypointAt, if_neg notNegative, index, Int.toNat_natCast]
  simp [gridPrint, inside]

theorem mapM_map_eq_some {β γ δ : Type} {f : γ → Option δ} {g : β → δ} {h : β → γ}
    {items : List β} (given : ∀ item ∈ items, f (h item) = some (g item)) :
    (items.map h).mapM f = some (items.map g) := by
  induction items with
  | nil => rfl
  | cons first rest ih =>
      have later := ih fun item member => given item (List.mem_cons_of_mem _ member)
      rw [List.map_cons, List.mapM_cons, given first List.mem_cons_self, later]
      rfl

theorem acceptedMatches_grid {n : Nat} (few : n ≤ 1024) (small : n < 2147483648) :
    acceptedMatches gridMatcher (gridPrint n small) (gridPrint n small) =
      some ((List.range n).map gridMatch) := by
  have rows : (gridDescriptors n small).rows.toNat = n := by
    change (UInt32.ofNat n).toNat = n
    rw [UInt32.toNat_ofNat', Nat.mod_eq_of_lt (by omega)]
  have each : ∀ i ∈ List.range n,
      acceptedMatch gridMatcher (gridPrint n small) (gridPrint n small) (gridNeighbours i) =
        some (some (gridMatch i)) := by
    intro i member
    have inside := List.mem_range.mp member
    have closer : gridMatcher.closer 0 (floatOfNat 1) = true := by decide
    rw [gridNeighbours, acceptedMatch, if_pos closer, keypointAt_gridPrint small inside]
    change some (some (Match.mk ⟨intOfFloat (floatOfNat (i % 32)), intOfFloat (floatOfNat (i / 32))⟩
      ⟨intOfFloat (floatOfNat (i % 32)), intOfFloat (floatOfNat (i / 32))⟩)) = _
    rw [intOfFloat_floatOfNat (by omega), intOfFloat_floatOfNat (by omega)]
    rfl
  have found :
      gridMatcher.knnMatch (gridPrint n small).descriptors (gridPrint n small).descriptors =
        some ((List.range n).map gridNeighbours) := by
    change some ((List.range (gridDescriptors n small).rows.toNat).map gridNeighbours) = _
    rw [rows]
  rw [acceptedMatches, found, Option.bind_eq_bind, Option.bind_some, mapM_map_eq_some each]
  change some (((List.range n).map fun i => some (gridMatch i)).filterMap id) = _
  simp

/-- A short displacement has its square as scalar product with itself, and no cross
product. -/
theorem Point2i.dot_self_of_short {v : Point2i} (shortX : -32 ≤ v.x.toInt ∧ v.x.toInt ≤ 32)
    (shortY : -32 ≤ v.y.toInt ∧ v.y.toInt ≤ 32) :
    0 ≤ v.sq ∧ v.dot v = v.sq ∧ v.cross v = 0 := by
  have x : 0 ≤ v.x.toInt ^ 2 ∧ v.x.toInt ^ 2 ≤ 1024 := ⟨sq_nonneg _, by nlinarith⟩
  have y : 0 ≤ v.y.toInt ^ 2 ∧ v.y.toInt ^ 2 ≤ 1024 := ⟨sq_nonneg _, by nlinarith⟩
  have product : vecDot v.toVec v.toVec = v.sq := by
    simp only [vecDot, toVec, sq]
    ring
  have noCross : v.x * v.y - v.y * v.x = 0 := by grind
  refine ⟨?_, ?_, ?_⟩
  · rw [sq]
    omega
  · rw [dot_eq, product]
    rw [product, sq]
    omega
  · rw [cross, noCross]
    rfl

/-- Displacements that are short and the same on both sides have no rotation. -/
theorem pairAngle_same {match1 match2 : Match} {v : Point2i} (first : match1.p1.sub match2.p1 = v)
    (second : match1.p2.sub match2.p2 = v) (shortX : -32 ≤ v.x.toInt ∧ v.x.toInt ≤ 32)
    (shortY : -32 ≤ v.y.toInt ∧ v.y.toInt ≤ 32) :
    pairAngle exactMeasure match1 match2 = some (v.sq, v.sq, 0) := by
  obtain ⟨nonneg, dot, cross⟩ := Point2i.dot_self_of_short shortX shortY
  have matches_ : exactMeasure.lengthMatch v.sq v.sq = true := by
    rw [exactMeasure, decide_eq_true_eq, max_self, min_self]
    omega
  unfold pairAngle
  rw [first, second]
  dsimp only
  rw [if_pos matches_, dot, cross]
  rfl

theorem pairAngle_grid {i j : Nat} (insideI : i < 1024) (insideJ : j < 1024) :
    ∃ sq, pairAngle exactMeasure (gridMatch i) (gridMatch j) = some (sq, sq, 0) := by
  have coordinate (a b : Nat) (smallA : a < 32) (smallB : b < 32) :
      -32 ≤ (Int32.ofNat a - Int32.ofNat b).toInt ∧
        (Int32.ofNat a - Int32.ofNat b).toInt ≤ 32 := by
    rw [Int32.toInt_sub, Int32.toInt_ofNat_of_lt (by omega), Int32.toInt_ofNat_of_lt (by omega),
      Int.bmod_def]
    omega
  exact ⟨_, pairAngle_same rfl rfl (coordinate (i % 32) (j % 32) (by omega) (by omega))
    (coordinate (i / 32) (j / 32) (by omega) (by omega))⟩

theorem gridMatch_nodup {n : Nat} (few : n ≤ 1024) : ((List.range n).map gridMatch).Nodup := by
  have back (k : Nat) (small : k < 32) : (Int32.ofNat k).toInt = k :=
    Int32.toInt_ofNat_of_lt (by omega)
  apply List.Nodup.map_on _ List.nodup_range
  intro i insideI j insideJ same
  rw [List.mem_range] at insideI insideJ
  simp only [gridMatch, fixedMatch, Match.mk.injEq, Point2i.mk.injEq, and_self] at same
  have columns := congrArg Int32.toInt same.1
  have rows := congrArg Int32.toInt same.2
  rw [back _ (by omega), back _ (by omega)] at columns rows
  omega

section Grid

variable {n : Nat}

theorem length_matchesUnique_grid (few : n ≤ 1024) :
    (matchesUnique ((List.range n).map gridMatch)).length = n := by
  have perm : List.Perm (matchesUnique ((List.range n).map gridMatch))
      ((List.range n).map gridMatch) := by
    rw [List.perm_ext_iff_of_nodup (matchesUnique_nodup _) (gridMatch_nodup few)]
    intro m
    exact mem_matchesUnique
  rw [perm.length_eq, List.length_map, List.length_range]

theorem pairAngle_matchesUnique_grid (few : n ≤ 1024) {match1 match2 : Match}
    (member1 : match1 ∈ matchesUnique ((List.range n).map gridMatch))
    (member2 : match2 ∈ matchesUnique ((List.range n).map gridMatch)) :
    ∃ sq, pairAngle exactMeasure match1 match2 = some (sq, sq, 0) := by
  rw [mem_matchesUnique, List.mem_map] at member1 member2
  obtain ⟨i, insideI, rfl⟩ := member1
  obtain ⟨j, insideJ, rfl⟩ := member2
  rw [List.mem_range] at insideI insideJ
  exact pairAngle_grid (by omega) (by omega)

/-- Every pair of correspondences gives an angle. -/
theorem length_matchAngles_grid (few : n ≤ 1024) :
    (matchAngles exactMeasure (matchesUnique ((List.range n).map gridMatch))).length =
      n.choose 2 := by
  have all := @length_pairMap _ _ (pairAngle exactMeasure)
    (matchesUnique ((List.range n).map gridMatch))
  rw [length_matchesUnique_grid few] at all
  apply all
  intro match1 member1 match2 member2
  obtain ⟨sq, isAngle⟩ := pairAngle_matchesUnique_grid few member1 member2
  rw [isAngle]
  rfl

/-- Every pair of angles agrees. -/
theorem closePairs_grid (few : n ≤ 1024) :
    closePairs exactMeasure
        (matchAngles exactMeasure (matchesUnique ((List.range n).map gridMatch))) =
      (n.choose 2).choose 2 := by
  rw [closePairs, card_pairs, pairCount_eq, length_matchAngles_grid few]
  intro angle1 member1 angle2 member2
  obtain ⟨_, first, _, second, isAngle1⟩ := mem_pairMap member1
  obtain ⟨_, third, _, fourth, isAngle2⟩ := mem_pairMap member2
  obtain ⟨sq1, same1⟩ := pairAngle_matchesUnique_grid few first second
  obtain ⟨sq2, same2⟩ := pairAngle_matchesUnique_grid few third fourth
  cases isAngle1.symm.trans same1
  cases isAngle2.symm.trans same2
  simp [exactMeasure, mul_comm]

/-- A print of a grid matched with itself gets past both tests, and its count is
that of all pairs of pairs. -/
theorem countedAngles_grid (enough : MIN_MATCH ≤ n) (few : n ≤ 1024) (small : n < 2147483648) :
    ∃ angles, countedAngles exactMeasure gridMatcher (gridPrint n small) (gridPrint n small) =
        some angles ∧
      closePairs exactMeasure angles = (n.choose 2).choose 2 := by
  refine ⟨_, ?_, closePairs_grid few⟩
  have enoughAngles : MIN_MATCH ≤ n.choose 2 := by
    have bound := Nat.choose_le_choose 2 enough
    rw [MIN_MATCH, Nat.choose_two_right 5] at bound
    rw [MIN_MATCH]
    omega
  rw [countedAngles, acceptedMatches_grid few small, Option.bind_some]
  dsimp only
  rw [if_pos]
  rw [List.length_map, List.length_range, length_matchAngles_grid few]
  exact ⟨enough, enoughAngles⟩

end Grid

/-- A new print with the given sub-prints. -/
def sigfmPrint (prints : List (SigfmImgInfo opencv4)) : FpPrint opencv4 :=
  { (fpPrintNew "gxfp" "0" false : FpPrint opencv4) with prints := .sigfm prints }

/-- A print with ten key points. -/
def tenPoints : SigfmImgInfo opencv4 :=
  gridPrint 10 (by decide)

/-- A print with 363 key points. -/
def manyPoints : SigfmImgInfo opencv4 :=
  gridPrint 363 (by decide)

/-- Ten key points matched with themselves: 990 pairs of angles agree, and the match
succeeds. -/
theorem sigfmMatch_counts_iff_ten :
    (sigfmMatchScore exactMeasure gridMatcher tenPoints tenPoints).toInt = 990 ∧
      (fpiPrintSigfmMatch exactMeasure gridMatcher (sigfmPrint [tenPoints])
        (sigfmPrint [tenPoints]) 40).map FpiMatch.result = .ok .success := by
  obtain ⟨angles, counted, count⟩ : ∃ angles,
      countedAngles exactMeasure gridMatcher tenPoints tenPoints = some angles ∧
        closePairs exactMeasure angles = 990 :=
    countedAngles_grid (by decide) (by decide) _
  have fit : ∀ pinfo ∈ [tenPoints], ∀ others,
      countedAngles exactMeasure gridMatcher pinfo tenPoints = some others →
      closePairs exactMeasure others ≤ INT_MAX := by
    intro pinfo member others alsoCounted
    obtain rfl := List.mem_singleton.mp member
    cases counted.symm.trans alsoCounted
    rw [count]
    decide
  have found : SomePrintMatches exactMeasure gridMatcher tenPoints 40 [tenPoints] := by
    refine ⟨[], tenPoints, [], angles, rfl, by simp, counted, ?_⟩
    rw [count]
    decide
  obtain ⟨scores, succeeds⟩ := (@sigfmMatch_counts_iff _ _ exactMeasure gridMatcher
    (sigfmPrint [tenPoints]) (sigfmPrint [tenPoints]) _ _ _ 40 rfl rfl (by decide)).mpr fit
  refine ⟨?_, succeeds.mpr found⟩
  rw [scores tenPoints List.mem_cons_self angles counted, count]
  rfl

/-- With 363 key points that all stay where they are the count is above `INT_MAX`: the
score is negative, and matching a print with itself is an error. -/
theorem sigfmMatchScore_wraps :
    (∃ angles, countedAngles exactMeasure gridMatcher manyPoints manyPoints = some angles ∧
        closePairs exactMeasure angles = 2158409253) ∧
      (sigfmMatchScore exactMeasure gridMatcher manyPoints manyPoints).toInt = -2136558043 ∧
      fpiPrintSigfmMatch exactMeasure gridMatcher (sigfmPrint [manyPoints])
        (sigfmPrint [manyPoints]) 40 =
          .ok ⟨.error, some (.dataInvalid, "error in sigfm_match_score")⟩ := by
  obtain ⟨angles, counted, count⟩ : ∃ angles,
      countedAngles exactMeasure gridMatcher manyPoints manyPoints = some angles ∧
        closePairs exactMeasure angles = ((363 : Nat).choose 2).choose 2 :=
    countedAngles_grid (by decide) (by decide) _
  rw [Nat.choose_two_right 363, Nat.choose_two_right] at count
  have score : sigfmMatchScore exactMeasure gridMatcher manyPoints manyPoints =
      Int32.ofNat 2158409253 := by
    rcases sigfmMatchScore_cases exactMeasure gridMatcher manyPoints manyPoints with
      ⟨_, uncounted, _⟩ | ⟨_, uncounted, _⟩ | ⟨_, others, alsoCounted, score⟩
    · cases uncounted.symm.trans counted
    · cases uncounted.symm.trans counted
    · cases alsoCounted.symm.trans counted
      rw [score, count]
  refine ⟨⟨angles, counted, count⟩, ?_, ?_⟩
  · rw [score]
    decide
  · change Except.ok (sigfmMatchLoop exactMeasure gridMatcher manyPoints 40 [manyPoints]) = _
    rw [sigfmMatchLoop, score, if_pos (by decide)]

end Gxfp.Fprint
