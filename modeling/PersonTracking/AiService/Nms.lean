import Mathlib.Algebra.Order.Field.Basic
import Mathlib.Tactic.Linarith
import Mathlib.Tactic.Positivity
import PersonTracking.Library.Greedy

/-!
# Non-maximum suppression

`nms` with exact arithmetic, over any ordered field.  What `argsort` returns is a
parameter: a permutation of the indices along which the scores do not fall, with ties in
any order.

`nms_selects` says what `nms` returns: the greedy choice from the indices by falling score,
in that order.  The conditions determine which indices are returned; where scores are tied
they leave the arrangement open (`two_arrangements`).
-/

namespace PersonTracking.AiService

open Library

/-- A box `(x_min, y_min, x_max, y_max)` whose corners are in order. -/
@[ext]
structure Box (K : Type) [LE K] where
  xMin : K
  yMin : K
  xMax : K
  yMax : K
  xMin_le : xMin ≤ xMax
  yMin_le : yMin ≤ yMax

variable {K : Type} [Field K] [LinearOrder K]

namespace Box

/-- What an index that is out of range stands for; no index of the loops is. -/
instance : Inhabited (Box K) := ⟨⟨0, 0, 0, 0, le_rfl, le_rfl⟩⟩

/-- `(x2 - x1) * (y2 - y1)`. -/
def area (box : Box K) : K := (box.xMax - box.xMin) * (box.yMax - box.yMin)

/-- The area in common. -/
def inter (box other : Box K) : K :=
  max 0 (min box.xMax other.xMax - max box.xMin other.xMin) *
    max 0 (min box.yMax other.yMax - max box.yMin other.yMin)

/-- What the area in common is divided by. -/
def union (box other : Box K) : K := box.area + other.area - box.inter other + 1 / 10 ^ 9

/-- Intersection over union. -/
def iou (box other : Box K) : K := box.inter other / box.union other

theorem inter_comm (box other : Box K) : box.inter other = other.inter box := by
  simp only [inter, min_comm, max_comm]

theorem union_comm (box other : Box K) : box.union other = other.union box := by
  rw [union, union, inter_comm, add_comm box.area]

theorem iou_comm (box other : Box K) : box.iou other = other.iou box := by
  rw [iou, iou, inter_comm, union_comm]

variable [IsStrictOrderedRing K]

theorem inter_nonneg (box other : Box K) : 0 ≤ box.inter other :=
  mul_nonneg (le_max_left _ _) (le_max_left _ _)

theorem inter_le_area (box other : Box K) : box.inter other ≤ box.area := by
  have width : max 0 (min box.xMax other.xMax - max box.xMin other.xMin) ≤ box.xMax - box.xMin :=
    max_le (sub_nonneg.mpr box.xMin_le) (sub_le_sub (min_le_left _ _) (le_max_left _ _))
  have height : max 0 (min box.yMax other.yMax - max box.yMin other.yMin) ≤ box.yMax - box.yMin :=
    max_le (sub_nonneg.mpr box.yMin_le) (sub_le_sub (min_le_left _ _) (le_max_left _ _))
  exact mul_le_mul width height (le_max_left _ _) (sub_nonneg.mpr box.xMin_le)

/-- No quotient has the denominator zero. -/
theorem union_pos (box other : Box K) : 0 < box.union other := by
  have small := inter_le_area box other
  have positive : 0 ≤ other.area := (inter_nonneg other box).trans (inter_le_area other box)
  have tiny : (0 : K) < 1 / 10 ^ 9 := by positivity
  rw [union]
  linarith

/-- Boxes next to each other have nothing in common. -/
theorem iou_of_apart {box other : Box K} (apart : box.xMax ≤ other.xMin) :
    box.iou other = 0 := by
  have width : min box.xMax other.xMax - max box.xMin other.xMin ≤ 0 :=
    sub_nonpos.mpr ((min_le_left _ _).trans (apart.trans (le_max_right _ _)))
  rw [iou, inter, max_eq_left width, zero_mul, zero_div]

end Box

/-- What `scores_arr.argsort()` may return. -/
structure IsArgsort (argsort : List K → List ℕ) : Prop where
  perm : ∀ scores, (argsort scores).Perm (List.range scores.length)
  sorted : ∀ scores, (argsort scores).Pairwise fun i j => scores.getD i 0 ≤ scores.getD j 0

variable (boxes : List (Box K)) (iouThreshold : K)

/-- The box of an index. -/
def boxAt (i : ℕ) : Box K := boxes.getD i default

/-- `np.where(iou <= iou_threshold)[0]`: positions in the rest of the order. -/
def surviving (i : ℕ) (rest : List ℕ) : List ℕ :=
  let iou := rest.map fun j => (boxAt boxes i).iou (boxAt boxes j)
  (List.range iou.length).filter fun k => iou.getD k 0 ≤ iouThreshold

/-- The body of `while order.size > 0`: `order[surviving + 1]`. -/
def nextOrder (i : ℕ) (rest : List ℕ) : List ℕ :=
  (surviving boxes iouThreshold i rest).map fun k => (i :: rest).getD (k + 1) 0

theorem length_nextOrder_le (i : ℕ) (rest : List ℕ) :
    (nextOrder boxes iouThreshold i rest).length ≤ rest.length := by
  have fewer := List.length_filter_le
    (fun k => decide
      ((rest.map fun j => (boxAt boxes i).iou (boxAt boxes j)).getD k 0 ≤ iouThreshold))
    (List.range rest.length)
  simpa [nextOrder, surviving] using fewer

/-- The loop `while order.size > 0`. -/
def nmsLoop : List ℕ → List ℕ
  | [] => []
  | i :: rest => i :: nmsLoop (nextOrder boxes iouThreshold i rest)
termination_by order => order.length
decreasing_by exact Nat.lt_succ_of_le (length_nextOrder_le boxes iouThreshold i rest)

/-- `nms`. -/
def nms (argsort : List K → List ℕ) (scores : List K) : List ℕ :=
  if boxes = [] then [] else nmsLoop boxes iouThreshold (argsort scores).reverse

/-- **What suppression is to do**, given the indices by falling score. -/
structure Suppresses (scores : List K) (order kept : List ℕ) : Prop where
  distinct : kept.Nodup
  valid : ∀ i ∈ kept, i < boxes.length
  falling : kept.Pairwise fun i j => scores.getD j 0 ≤ scores.getD i 0
  free : ∀ i ∈ kept, ∀ j ∈ kept, i ≠ j →
    (boxAt boxes i).iou (boxAt boxes j) ≤ iouThreshold
  dropped : ∀ i < boxes.length, i ∉ kept → ∃ j ∈ kept, Precedes order j i ∧
    iouThreshold < (boxAt boxes i).iou (boxAt boxes j)

/-- The first of two overlapping boxes suppresses the second. -/
def Overlaps (i j : ℕ) : Prop := iouThreshold < (boxAt boxes i).iou (boxAt boxes j)

instance : DecidableRel (Overlaps boxes iouThreshold) := fun _ _ =>
  inferInstanceAs (Decidable (_ < _))

variable {boxes} {iouThreshold} {scores : List K} {argsort : List K → List ℕ}

/-! ## The loop -/

/-- A list is its elements at all positions. -/
theorem map_getD_range (list : List ℕ) (default : ℕ) :
    (List.range list.length).map (fun k => list.getD k default) = list := by
  refine List.ext_getElem (by simp) fun k _ below => ?_
  simp [List.getD_eq_getElem?_getD, below]

/-- The positions that survive, looked up one further on, are those of the rest that do not
overlap the first. -/
theorem nextOrder_eq (i : ℕ) (rest : List ℕ) : nextOrder boxes iouThreshold i rest =
    rest.filter fun j => ¬ Overlaps boxes iouThreshold i j := by
  have passes : ∀ k ∈ List.range rest.length,
      decide ((rest.map fun j => (boxAt boxes i).iou (boxAt boxes j)).getD k 0 ≤ iouThreshold) =
        decide (¬ Overlaps boxes iouThreshold i (rest.getD k 0)) := by
    intro k below
    rw [List.mem_range] at below
    simp [Overlaps, List.getD_eq_getElem?_getD, below]
  calc nextOrder boxes iouThreshold i rest
      = ((List.range rest.length).filter fun k =>
          ¬ Overlaps boxes iouThreshold i (rest.getD k 0)).map fun k => rest.getD k 0 := by
        rw [nextOrder, surviving, List.length_map, List.filter_congr passes]
        rfl
    _ = ((List.range rest.length).map fun k => rest.getD k 0).filter fun j =>
          ¬ Overlaps boxes iouThreshold i j := by
        rw [List.filter_map]
        rfl
    _ = rest.filter fun j => ¬ Overlaps boxes iouThreshold i j := by rw [map_getD_range]

/-- **The loop is the greedy choice.** -/
theorem nmsLoop_eq_greedy (order : List ℕ) :
    nmsLoop boxes iouThreshold order = greedy (Overlaps boxes iouThreshold) order := by
  induction order using greedy_induction (Overlaps boxes iouThreshold) with
  | nil => rw [nmsLoop, greedy_nil]
  | cons i rest ih => rw [nmsLoop, nextOrder_eq, greedy_cons, ih]

namespace IsArgsort

variable (lawful : IsArgsort argsort)
include lawful

theorem mem_reverse_iff (scores : List K) (i : ℕ) :
    i ∈ (argsort scores).reverse ↔ i < scores.length := by
  rw [List.mem_reverse, (lawful.perm scores).mem_iff, List.mem_range]

theorem nodup_reverse (scores : List K) : (argsort scores).reverse.Nodup :=
  List.nodup_reverse.mpr ((lawful.perm scores).nodup_iff.mpr List.nodup_range)

theorem falling_reverse (scores : List K) :
    (argsort scores).reverse.Pairwise fun i j => scores.getD j 0 ≤ scores.getD i 0 :=
  List.pairwise_reverse.mpr (lawful.sorted scores)

end IsArgsort

/-- With no boxes the loop has nothing to do either. -/
theorem nms_eq (lawful : IsArgsort argsort) (sameLength : scores.length = boxes.length) :
    nms boxes iouThreshold argsort scores =
      greedy (Overlaps boxes iouThreshold) (argsort scores).reverse := by
  rw [nms, nmsLoop_eq_greedy]
  split
  · next empty =>
      have none : (argsort scores).reverse = [] := by
        refine List.eq_nil_iff_forall_not_mem.mpr fun i => ?_
        rw [lawful.mem_reverse_iff, sameLength, empty]
        exact Nat.not_lt_zero i
      rw [none, greedy_nil]
  · rfl

/-- Suppression asks for a greedy choice. -/
theorem Suppresses.selects (lawful : IsArgsort argsort) (sameLength : scores.length = boxes.length)
    {kept : List ℕ}
    (suppresses : Suppresses boxes iouThreshold scores (argsort scores).reverse kept) :
    Selects (Overlaps boxes iouThreshold) (argsort scores).reverse kept where
  subset i member := by
    rw [lawful.mem_reverse_iff, sameLength]
    exact suppresses.valid i member
  free i first j second before := by
    refine not_lt.mpr (suppresses.free i first j second fun same => ?_)
    exact before.asymm (lawful.nodup_reverse scores) (same ▸ before)
  dropped i there absent := by
    rw [lawful.mem_reverse_iff, sameLength] at there
    obtain ⟨j, member, before, overlaps⟩ := suppresses.dropped i there absent
    rw [Box.iou_comm] at overlaps
    exact ⟨j, member, before, overlaps⟩

/-- **`nms` suppresses as it is to do.** -/
theorem suppresses_nms (lawful : IsArgsort argsort) (sameLength : scores.length = boxes.length) :
    Suppresses boxes iouThreshold scores (argsort scores).reverse
      (nms boxes iouThreshold argsort scores) := by
  rw [nms_eq lawful sameLength]
  have follows := greedy_sublist (Overlaps boxes iouThreshold) (argsort scores).reverse
  have nodup := lawful.nodup_reverse scores
  have selects : Selects (Overlaps boxes iouThreshold) _ _ := selects_greedy nodup
  refine ⟨follows.nodup nodup, fun i member => ?_, (lawful.falling_reverse scores).sublist follows,
    fun i first j second different => ?_, fun i there absent => ?_⟩
  · have there := selects.subset i member
    rwa [lawful.mem_reverse_iff, sameLength] at there
  · have either := precedes_or_precedes (selects.subset i first) (selects.subset j second) different
    rcases either with before | after
    · exact not_lt.mp (selects.free i first j second before)
    · rw [Box.iou_comm]
      exact not_lt.mp (selects.free j second i first after)
  · rw [← sameLength, ← lawful.mem_reverse_iff] at there
    obtain ⟨j, member, before, overlaps⟩ := selects.dropped i there absent
    refine ⟨j, member, before, ?_⟩
    rw [Box.iou_comm]
    exact overlaps

/-- **Non-maximum suppression.**  `nms` suppresses as it is to do, in the order of falling
score it is given; whatever else suppresses so returns the same indices, and the same list
if it follows that order. -/
theorem nms_selects (lawful : IsArgsort argsort) (sameLength : scores.length = boxes.length) :
    Suppresses boxes iouThreshold scores (argsort scores).reverse
        (nms boxes iouThreshold argsort scores) ∧
      (nms boxes iouThreshold argsort scores).Sublist (argsort scores).reverse ∧
      ∀ other, Suppresses boxes iouThreshold scores (argsort scores).reverse other →
        other.Perm (nms boxes iouThreshold argsort scores) ∧
          (other.Sublist (argsort scores).reverse →
            other = nms boxes iouThreshold argsort scores) := by
  have nodup := lawful.nodup_reverse scores
  refine ⟨suppresses_nms lawful sameLength, ?_, fun other suppresses => ?_⟩
  · rw [nms_eq lawful sameLength]
    exact greedy_sublist _ _
  · rw [nms_eq lawful sameLength]
    have selects := suppresses.selects lawful sameLength
    exact ⟨selects.perm nodup suppresses.distinct, selects.eq_greedy nodup⟩

/-! ## Tied scores -/

/-- `argsort(kind="stable")`. -/
def stableArgsort (scores : List K) : List ℕ :=
  (List.range scores.length).mergeSort fun i j => scores.getD i 0 ≤ scores.getD j 0

theorem isArgsort_stableArgsort : IsArgsort (stableArgsort (K := K)) where
  perm scores := List.mergeSort_perm _ _
  sorted scores := by
    have sorted := @List.pairwise_mergeSort _ (fun i j => scores.getD i 0 ≤ scores.getD j 0)
      (fun i j k first second => by
        rw [decide_eq_true_eq] at *
        exact first.trans second)
      (fun i j => by
        rw [Bool.or_eq_true, decide_eq_true_eq, decide_eq_true_eq]
        exact le_total _ _)
      (List.range scores.length)
    exact sorted.imp fun below => of_decide_eq_true below

/-- A box of side one. -/
def unitBox (x y : ℚ) : Box ℚ :=
  ⟨x, y, x + 1, y + 1, le_add_of_nonneg_right zero_le_one, le_add_of_nonneg_right zero_le_one⟩

/-- Two boxes of one person, and one beside them. -/
def overlappingBoxes : List (Box ℚ) := [unitBox 0 0, unitBox 0 0, unitBox 2 0]

/-- Their scores. -/
def exampleScores : List ℚ := [1 / 2, 9 / 10, 3 / 10]

/-- The second box suppresses the first. -/
theorem nms_overlappingBoxes :
    nms overlappingBoxes (9 / 20) stableArgsort exampleScores = [1, 2] := by
  have sorted : stableArgsort exampleScores = [2, 0, 1] := by
    simp [exampleScores, stableArgsort, List.mergeSort, List.range_succ]
    norm_num
  have first : nextOrder overlappingBoxes (9 / 20) 1 [0, 2] = [2] := by decide +kernel
  have second : nextOrder overlappingBoxes (9 / 20) 2 [] = [] := by decide +kernel
  have order : [2, 0, 1].reverse = [1, 0, 2] := rfl
  rw [nms, if_neg (by decide +kernel), sorted, order, nmsLoop, first, nmsLoop, second, nmsLoop]

theorem nms_selects_overlappingBoxes :
    Suppresses overlappingBoxes (9 / 20) exampleScores (stableArgsort exampleScores).reverse
        (nms overlappingBoxes (9 / 20) stableArgsort exampleScores) ∧
      nms overlappingBoxes (9 / 20) stableArgsort exampleScores = [1, 2] :=
  ⟨(nms_selects isArgsort_stableArgsort rfl).1, nms_overlappingBoxes⟩

/-- Two boxes next to each other. -/
def twoBoxes : List (Box ℚ) := [unitBox 0 0, unitBox 2 0]

/-- Their scores. -/
def tiedScores : List ℚ := [1 / 2, 1 / 2]

/-- **Two arrangements**: of two boxes with one score that do not overlap both are to be
returned, in either order. -/
theorem two_arrangements : ∃ kept other, kept ≠ other ∧
    Suppresses twoBoxes (9 / 20) tiedScores (stableArgsort tiedScores).reverse kept ∧
    Suppresses twoBoxes (9 / 20) tiedScores (stableArgsort tiedScores).reverse other := by
  have apart : (unitBox 0 0).iou (unitBox 2 0) = 0 :=
    Box.iou_of_apart (by norm_num [unitBox])
  have back : (unitBox 2 0).iou (unitBox 0 0) = 0 := (Box.iou_comm _ _).trans apart
  have both : ∀ kept : List ℕ, kept.Perm [0, 1] →
      Suppresses twoBoxes (9 / 20) tiedScores (stableArgsort tiedScores).reverse kept := by
    intro kept same
    have member : ∀ i, i ∈ kept ↔ i = 0 ∨ i = 1 := fun i => by rw [same.mem_iff]; simp
    refine ⟨same.nodup_iff.mpr (by decide), fun i there => ?_, ?_, ?_, ?_⟩
    · rcases (member i).mp there with rfl | rfl
      · exact Nat.zero_lt_two
      · exact Nat.one_lt_two
    · refine List.pairwise_of_forall_mem_list fun i first j second => ?_
      rcases (member i).mp first with rfl | rfl <;> rcases (member j).mp second with rfl | rfl <;>
        exact le_rfl
    · intro i first j second different
      rcases (member i).mp first with rfl | rfl <;> rcases (member j).mp second with rfl | rfl
      · exact absurd rfl different
      · exact apart.trans_le (by norm_num)
      · exact back.trans_le (by norm_num)
      · exact absurd rfl different
    · intro i there absent
      refine absurd ((member i).mpr ?_) absent
      have small : i < 2 := there
      omega
  exact ⟨[0, 1], [1, 0], by decide, both _ (List.Perm.refl _), both _ (List.Perm.swap 0 1 [])⟩

end PersonTracking.AiService
