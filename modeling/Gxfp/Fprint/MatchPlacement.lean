import Gxfp.Fprint.Match
import Mathlib.Tactic.Ring

/-!
# The score ignores placement

The score looks at the correspondences only through the displacement of one
correspondence from another: through the squares of its two lengths, the scalar
product and the cross product.  Seen from the other correspondence both vectors
change their sign, which changes none of the four, so the order in which the loops
meet a pair does not matter.  Neither do a translation of each side and a common
quarter turn.

The set is sorted by coordinates, so each of these moves reorders everything the
score visits; what stays is the collection of the angles.
-/

namespace Gxfp.Fprint

open Lib.Pairs
open List

variable {α : Type}

/-! ## The integers of a pair -/

/-- A vector turned by half a turn. -/
def Point2i.neg (v : Point2i) : Point2i :=
  ⟨-v.x, -v.y⟩

/-- A point or a vector turned by a quarter turn. -/
def Point2i.turn (v : Point2i) : Point2i :=
  ⟨-v.y, v.x⟩

/-- A point moved by an integer vector; the coordinates wrap. -/
def Point2i.translate (dx dy : Int) (p : Point2i) : Point2i :=
  ⟨p.x + Int32.ofInt dx, p.y + Int32.ofInt dy⟩

/-- Where the coordinates stay in range a move adds the vector. -/
theorem Point2i.translate_toInt {dx dy : Int} {p : Point2i}
    (xFits : -2147483648 ≤ p.x.toInt + dx ∧ p.x.toInt + dx < 2147483648)
    (yFits : -2147483648 ≤ p.y.toInt + dy ∧ p.y.toInt + dy < 2147483648) :
    (p.translate dx dy).x.toInt = p.x.toInt + dx ∧
      (p.translate dx dy).y.toInt = p.y.toInt + dy := by
  have wrapped (a : Int32) (d : Int) (fits : -2147483648 ≤ a.toInt + d ∧ a.toInt + d < 2147483648) :
      (a + Int32.ofInt d).toInt = a.toInt + d := by
    rw [Int32.toInt_add, Int32.toInt_ofInt, Int.add_bmod_bmod, Int.bmod_def]
    unfold Int32.size
    omega
  exact ⟨wrapped p.x dx xFits, wrapped p.y dy yFits⟩

/-- The smallest `int` is its own negative; its square does not show it. -/
theorem toInt_neg_sq (a : Int32) : (-a).toInt ^ 2 = a.toInt ^ 2 := by
  have below := a.toInt_lt
  have above := a.le_toInt
  rw [Int32.toInt_neg]
  by_cases smallest : a.toInt = -2147483648
  · rw [smallest]
    decide
  · have negated : (-a.toInt).bmod (2 ^ 32) = -a.toInt := by
      rw [Int.bmod_def]
      omega
    rw [negated]
    ring

theorem Point2i.sub_comm (a b : Point2i) : a.sub b = (b.sub a).neg := by
  simp only [sub, neg, Point2i.mk.injEq]
  constructor <;> grind

theorem Point2i.sub_turn (a b : Point2i) : a.turn.sub b.turn = (a.sub b).turn := by
  simp only [sub, turn, Point2i.mk.injEq]
  constructor <;> grind

theorem Point2i.sub_translate (dx dy : Int) (a b : Point2i) :
    (a.translate dx dy).sub (b.translate dx dy) = a.sub b := by
  simp only [sub, translate, Point2i.mk.injEq]
  constructor <;> grind

theorem Point2i.sq_neg (v : Point2i) : v.neg.sq = v.sq := by
  simp only [sq, neg, toInt_neg_sq]

theorem Point2i.dot_neg (v w : Point2i) : v.neg.dot w.neg = v.dot w := by
  simp only [dot, neg]
  congr 1
  grind

theorem Point2i.cross_neg (v w : Point2i) : v.neg.cross w.neg = v.cross w := by
  simp only [cross, neg]
  congr 1
  grind

theorem Point2i.sq_turn (v : Point2i) : v.turn.sq = v.sq := by
  simp only [sq, turn, toInt_neg_sq]
  ring

theorem Point2i.dot_turn (v w : Point2i) : v.turn.dot w.turn = v.dot w := by
  simp only [dot, turn]
  congr 1
  grind

theorem Point2i.cross_turn (v w : Point2i) : v.turn.cross w.turn = v.cross w := by
  simp only [cross, turn]
  congr 1
  grind

/-! ## The angle of a pair -/

/-- From the other end a pair has the same angle. -/
theorem pairAngle_comm (measure : Measure α) (match1 match2 : Match) :
    pairAngle measure match1 match2 = pairAngle measure match2 match1 := by
  unfold pairAngle
  rw [match1.p1.sub_comm, match1.p2.sub_comm]
  simp only [Point2i.sq_neg, Point2i.dot_neg, Point2i.cross_neg]

/-- Correspondences moved by one vector on each side. -/
def Match.translate (dx1 dy1 dx2 dy2 : Int) (m : Match) : Match :=
  ⟨m.p1.translate dx1 dy1, m.p2.translate dx2 dy2⟩

/-- Correspondences turned by a quarter turn on both sides. -/
def Match.turn (m : Match) : Match :=
  ⟨m.p1.turn, m.p2.turn⟩

theorem pairAngle_translate (measure : Measure α) (dx1 dy1 dx2 dy2 : Int)
    (match1 match2 : Match) :
    pairAngle measure (match1.translate dx1 dy1 dx2 dy2) (match2.translate dx1 dy1 dx2 dy2) =
      pairAngle measure match1 match2 := by
  unfold pairAngle Match.translate
  simp only [Point2i.sub_translate]

theorem pairAngle_turn (measure : Measure α) (match1 match2 : Match) :
    pairAngle measure match1.turn match2.turn = pairAngle measure match1 match2 := by
  unfold pairAngle Match.turn
  simp only [Point2i.sub_turn, Point2i.sq_turn, Point2i.dot_turn, Point2i.cross_turn]

theorem Match.translate_injective (dx1 dy1 dx2 dy2 : Int) :
    Function.Injective (Match.translate dx1 dy1 dx2 dy2) := by
  rintro ⟨⟨x1, y1⟩, ⟨x2, y2⟩⟩ ⟨⟨x1', y1'⟩, ⟨x2', y2'⟩⟩ same
  simp only [translate, Point2i.translate, Match.mk.injEq, Point2i.mk.injEq] at same ⊢
  grind

theorem Match.turn_injective : Function.Injective Match.turn := by
  rintro ⟨⟨x1, y1⟩, ⟨x2, y2⟩⟩ ⟨⟨x1', y1'⟩, ⟨x2', y2'⟩⟩ same
  simp only [turn, Point2i.turn, Match.mk.injEq, Point2i.mk.injEq] at same ⊢
  grind

/-! ## The count -/

theorem foldl_count (test : α → Bool) (items : List α) (count : Int32) :
    items.foldl (fun count item => if test item then count + 1 else count) count =
      count + Int32.ofNat (items.countP test) := by
  induction items generalizing count with
  | nil => simp
  | cons first rest ih =>
      rw [List.foldl_cons, ih, List.countP_cons]
      by_cases accepted : test first = true
      · rw [if_pos accepted, if_pos accepted, Int32.ofNat_add]
        grind
      · rw [if_neg accepted, if_neg accepted, Nat.add_zero]

/-- The loops count the close pairs, in an `int`. -/
theorem countLoop_eq (measure : Measure α) (angles : List α) (count : Int32) :
    countLoop measure angles count = count + Int32.ofNat (pairCount measure.close angles) := by
  induction angles generalizing count with
  | nil => simp [countLoop]
  | cons first rest ih =>
      rw [countLoop, ih, foldl_count, pairCount_cons, Int32.ofNat_add, Int32.add_assoc]

/-! ## The score -/

/-- The score is a function of the collection of angles. -/
theorem matchScore_congr {measure : Measure α} {accepted others : List Match}
    (sizes : accepted.length < MIN_MATCH ↔ others.length < MIN_MATCH)
    (angles : matchAngles measure (matchesUnique accepted) ~
      matchAngles measure (matchesUnique others)) :
    matchScore measure accepted = matchScore measure others := by
  unfold matchScore
  by_cases few : accepted.length < MIN_MATCH
  · rw [if_pos few, if_pos (sizes.mp few)]
  · rw [if_neg few, if_neg (fun fewOthers => few (sizes.mpr fewOthers))]
    dsimp only
    rw [angles.length_eq, countLoop_eq, countLoop_eq, pairCount_perm measure.close_comm angles]

/-- Lists with the same correspondences have the same angles. -/
theorem matchAngles_perm {measure : Measure α} {accepted others : List Match}
    (same : ∀ m, m ∈ accepted ↔ m ∈ others) :
    matchAngles measure (matchesUnique accepted) ~ matchAngles measure (matchesUnique others) := by
  apply pairMap_perm (pairAngle_comm measure)
  rw [List.perm_ext_iff_of_nodup (matchesUnique_nodup accepted) (matchesUnique_nodup others)]
  intro m
  rw [mem_matchesUnique, mem_matchesUnique]
  exact same m

/-- A move that keeps the angle of every pair keeps the score. -/
theorem matchScore_map {measure : Measure α} {move : Match → Match}
    (injective : Function.Injective move)
    (keeps : ∀ match1 match2,
      pairAngle measure (move match1) (move match2) = pairAngle measure match1 match2)
    (accepted : List Match) :
    matchScore measure (accepted.map move) = matchScore measure accepted := by
  have moved : matchesUnique (accepted.map move) ~ (matchesUnique accepted).map move := by
    rw [List.perm_ext_iff_of_nodup (matchesUnique_nodup _)
      ((matchesUnique_nodup accepted).map injective)]
    intro m
    simp only [mem_matchesUnique, List.mem_map]
  have angles := pairMap_perm (pairAngle_comm measure) moved
  rw [pairMap_map] at angles
  simp only [keeps] at angles
  apply matchScore_congr
  · rw [List.length_map]
  · exact angles

/-- The score does not depend on the order of the correspondences, on repeated ones
(once there are enough), on where each side lies and on a common quarter turn. -/
theorem matchScore_placement (measure : Measure α) (accepted : List Match) :
    (∀ others, accepted ~ others → matchScore measure others = matchScore measure accepted) ∧
    (∀ others, others <+ accepted → (∀ m ∈ accepted, m ∈ others) →
      MIN_MATCH ≤ accepted.length → MIN_MATCH ≤ others.length →
      matchScore measure others = matchScore measure accepted) ∧
    (∀ dx1 dy1 dx2 dy2, matchScore measure (accepted.map (Match.translate dx1 dy1 dx2 dy2)) =
      matchScore measure accepted) ∧
    matchScore measure (accepted.map Match.turn) = matchScore measure accepted := by
  refine ⟨?_, ?_, ?_, ?_⟩
  · intro others perm
    apply matchScore_congr
    · rw [perm.length_eq]
    · exact matchAngles_perm fun m => perm.symm.mem_iff
  · intro others fewer kept enough enoughOthers
    apply matchScore_congr
    · exact iff_of_false (Nat.not_lt.mpr enoughOthers) (Nat.not_lt.mpr enough)
    · exact matchAngles_perm fun m => ⟨fun member => fewer.subset member, kept m⟩
  · intro dx1 dy1 dx2 dy2
    exact matchScore_map (Match.translate_injective dx1 dy1 dx2 dy2)
      (pairAngle_translate measure dx1 dy1 dx2 dy2) accepted
  · exact matchScore_map Match.turn_injective (pairAngle_turn measure) accepted

/-- A measure in integers: lengths match as the score asks, and angles of pairs of
equal lengths are compared exactly, by their cosine and sine. -/
def exactMeasure : Measure (Int × Int × Int) where
  lengthMatch sq1 sq2 := decide (9025 * max sq1 sq2 ≤ 10000 * min sq1 sq2)
  angle sq1 _ dot cross := (sq1, dot, cross)
  close a b := decide (a.2.1 * b.1 = b.2.1 * a.1) && decide (a.2.2 * b.1 = b.2.2 * a.1)
  close_comm := by
    intro a b
    rw [decide_eq_decide.mpr eq_comm, decide_eq_decide.mpr (@eq_comm _ (a.2.2 * b.1) _)]

/-- The correspondence of a point with itself. -/
def fixedMatch (x y : Int32) : Match :=
  ⟨⟨x, y⟩, ⟨x, y⟩⟩

/-- Five points that stay where they are, one of them found twice. -/
theorem matchScore_placement_five :
    let five := [fixedMatch 0 0, fixedMatch 3 0, fixedMatch 0 4, fixedMatch 7 5, fixedMatch 2 9]
    matchScore exactMeasure (five ++ [fixedMatch 3 0]) = 45 ∧
      matchScore exactMeasure five = matchScore exactMeasure (five ++ [fixedMatch 3 0]) ∧
      matchScore exactMeasure five.reverse = matchScore exactMeasure five ∧
      matchScore exactMeasure (five.map (Match.translate 5 (-1) 0 2)) =
        matchScore exactMeasure five ∧
      matchScore exactMeasure (five.map Match.turn) = matchScore exactMeasure five := by
  intro five
  have atFive := matchScore_placement exactMeasure five
  have atSix := matchScore_placement exactMeasure (five ++ [fixedMatch 3 0])
  refine ⟨by decide, ?_, ?_, atFive.2.2.1 5 (-1) 0 2, atFive.2.2.2⟩
  · exact atSix.2.1 five (List.sublist_append_left _ _) (by decide) (by decide) (by decide)
  · exact atFive.1 five.reverse (List.reverse_perm five).symm

end Gxfp.Fprint
