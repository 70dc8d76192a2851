import Mathlib.Algebra.Order.Field.Basic
import Mathlib.Data.Set.Prod
import Mathlib.Order.CompletePartialOrder
import Mathlib.Order.Interval.Set.LinearOrder
import Mathlib.Tactic.Linarith
import Mathlib.Tactic.Ring
import PersonTracking.Domain.Entities

/-!
# Intersection over union, twice

`BoundingBox.iou` measures boxes by their left upper corner and their size, and clamps
what they have in common at zero; `bbox_iou` measures them by two corners, and returns
early where they have nothing in common.  Both with exact arithmetic, over any ordered
field, and for sizes of either sign.

`iou_isOverlapMeasure` says that they agree, and what they measure.
-/

namespace PersonTracking.Domain.BoundingBox

variable {K : Type} [Field K] [LinearOrder K]

/-- `BoundingBox.area`. -/
def area (box : BoundingBox K) : K := box.width * box.height

/-- `BoundingBox.iou`. -/
def iou (box other : BoundingBox K) : K :=
  let x1 := max box.left other.left
  let y1 := max box.top other.top
  let x2 := min (box.left + box.width) (other.left + other.width)
  let y2 := min (box.top + box.height) (other.top + other.height)
  let intersection := max 0 (x2 - x1) * max 0 (y2 - y1)
  let union := box.area + other.area - intersection
  if union ≤ 0 then 0 else intersection / union

/-- The corner form of a box. -/
def corners (box : BoundingBox K) : K × K × K × K :=
  (box.left, box.top, box.left + box.width, box.top + box.height)

/-- The points inside a box, its border left out. -/
def interior (box : BoundingBox K) : Set (K × K) :=
  Set.Ioo box.left (box.left + box.width) ×ˢ Set.Ioo box.top (box.top + box.height)

/-- A box of positive width and height. -/
structure Proper (box : BoundingBox K) : Prop where
  width_pos : 0 < box.width
  height_pos : 0 < box.height

/-! ## What two boxes have in common -/

/-- How far two boxes overlap from left to right; negative where they are apart. -/
def overlapX (box other : BoundingBox K) : K :=
  min (box.left + box.width) (other.left + other.width) - max box.left other.left

/-- How far they overlap from top to bottom. -/
def overlapY (box other : BoundingBox K) : K :=
  min (box.top + box.height) (other.top + other.height) - max box.top other.top

/-- The area in common, where there is one. -/
def common (box other : BoundingBox K) : K := box.overlapX other * box.overlapY other

/-- The boxes overlap both ways. -/
def Meet (box other : BoundingBox K) : Prop := 0 < box.overlapX other ∧ 0 < box.overlapY other

instance (box other : BoundingBox K) : Decidable (box.Meet other) :=
  inferInstanceAs (Decidable (_ ∧ _))

section Overlap

variable (box other : BoundingBox K)

theorem overlapX_comm : box.overlapX other = other.overlapX box := by
  rw [overlapX, overlapX, min_comm, max_comm]

theorem overlapY_comm : box.overlapY other = other.overlapY box := by
  rw [overlapY, overlapY, min_comm, max_comm]

theorem common_comm : box.common other = other.common box := by
  rw [common, common, overlapX_comm, overlapY_comm]

theorem meet_comm : box.Meet other ↔ other.Meet box := by
  rw [Meet, Meet, overlapX_comm, overlapY_comm]

variable [IsStrictOrderedRing K]

theorem overlapX_le : box.overlapX other ≤ box.width := by
  have right := min_le_left (box.left + box.width) (other.left + other.width)
  have left := le_max_left box.left other.left
  rw [overlapX]
  linarith

theorem overlapY_le : box.overlapY other ≤ box.height := by
  have below := min_le_left (box.top + box.height) (other.top + other.height)
  have above := le_max_left box.top other.top
  rw [overlapY]
  linarith

/-- **Boxes meet where their interiors do**, whatever the signs of their sizes. -/
theorem disjoint_interior_iff : Disjoint box.interior other.interior ↔ ¬ box.Meet other := by
  rw [Set.disjoint_iff_inter_eq_empty, interior, interior, Set.prod_inter_prod,
    Set.Ioo_inter_Ioo, Set.Ioo_inter_Ioo, Set.prod_eq_empty_iff, Set.Ioo_eq_empty_iff,
    Set.Ioo_eq_empty_iff, Meet, not_and_or, overlapX, overlapY, sub_pos, sub_pos]

end Overlap

section Meeting

variable {box other : BoundingBox K} [IsStrictOrderedRing K]

/-- Boxes that meet are proper. -/
theorem Meet.proper (meet : box.Meet other) : box.Proper :=
  ⟨meet.1.trans_le (overlapX_le box other), meet.2.trans_le (overlapY_le box other)⟩

theorem Meet.common_pos (meet : box.Meet other) : 0 < box.common other :=
  mul_pos meet.1 meet.2

/-- The area in common is part of either box. -/
theorem Meet.common_le_area (meet : box.Meet other) : box.common other ≤ box.area :=
  mul_le_mul (overlapX_le box other) (overlapY_le box other) meet.2.le meet.proper.width_pos.le

theorem Meet.common_le_area' (meet : box.Meet other) : box.common other ≤ other.area :=
  common_comm box other ▸ ((meet_comm box other).mp meet).common_le_area

/-- What is in common is no more than what it is divided by. -/
theorem Meet.common_le_union (meet : box.Meet other) :
    box.common other ≤ box.area + other.area - box.common other := by
  have first := meet.common_le_area
  have second := meet.common_le_area'
  linarith

theorem Meet.union_pos (meet : box.Meet other) :
    0 < box.area + other.area - box.common other :=
  meet.common_pos.trans_le meet.common_le_union

/-- A box that has its whole area in common with another lies in it. -/
theorem Meet.overlap_of_common_eq_area (meet : box.Meet other)
    (whole : box.common other = box.area) :
    box.overlapX other = box.width ∧ box.overlapY other = box.height := by
  have width := overlapX_le box other
  have height := overlapY_le box other
  rw [common, area] at whole
  have positive := meet.proper
  constructor
  · by_contra shorter
    have less : box.overlapX other < box.width := lt_of_le_of_ne width shorter
    have smaller := mul_lt_mul less height meet.2 positive.width_pos.le
    exact absurd whole smaller.ne
  · by_contra shorter
    have less : box.overlapY other < box.height := lt_of_le_of_ne height shorter
    have smaller := mul_lt_mul' width less meet.2.le positive.width_pos
    exact absurd whole smaller.ne

end Meeting

/-! ## What `iou` returns -/

section Iou

variable [IsStrictOrderedRing K] (box other : BoundingBox K)

/-- What `iou` returns, case by case. -/
theorem iou_eq : box.iou other = if box.Meet other then
    box.common other / (box.area + other.area - box.common other) else 0 := by
  show (if box.area + other.area - max 0 (box.overlapX other) * max 0 (box.overlapY other) ≤ 0
    then 0 else max 0 (box.overlapX other) * max 0 (box.overlapY other) /
      (box.area + other.area - max 0 (box.overlapX other) * max 0 (box.overlapY other))) = _
  by_cases meet : box.Meet other
  · rw [max_eq_right meet.1.le, max_eq_right meet.2.le, if_pos meet]
    exact if_neg (not_le.mpr meet.union_pos)
  · have nothing : max 0 (box.overlapX other) * max 0 (box.overlapY other) = 0 := by
      rw [Meet, not_and_or, not_lt, not_lt] at meet
      rcases meet with apart | apart
      · rw [max_eq_left apart, zero_mul]
      · rw [max_eq_left apart, mul_zero]
    rw [nothing, zero_div, ite_self, if_neg meet]

theorem iou_comm : box.iou other = other.iou box := by
  rw [iou_eq, iou_eq, common_comm, add_comm box.area]
  exact if_congr (meet_comm box other) rfl rfl

theorem iou_mem_unit : 0 ≤ box.iou other ∧ box.iou other ≤ 1 := by
  rw [iou_eq]
  split
  · rename_i meet
    exact ⟨div_nonneg meet.common_pos.le meet.union_pos.le,
      (div_le_one meet.union_pos).mpr meet.common_le_union⟩
  · exact ⟨le_rfl, zero_le_one⟩

theorem iou_eq_zero_iff : box.iou other = 0 ↔ Disjoint box.interior other.interior := by
  rw [disjoint_interior_iff, iou_eq]
  constructor
  · intro zero meet
    rw [if_pos meet] at zero
    exact (div_pos meet.common_pos meet.union_pos).ne' zero
  · exact fun apart => if_neg apart

variable {box other}

/-- A proper box covers itself. -/
theorem Proper.iou_self (proper : box.Proper) : box.iou box = 1 := by
  have width : box.overlapX box = box.width := by
    rw [overlapX, min_self, max_self, add_sub_cancel_left]
  have height : box.overlapY box = box.height := by
    rw [overlapY, min_self, max_self, add_sub_cancel_left]
  have meet : box.Meet box := ⟨width ▸ proper.width_pos, height ▸ proper.height_pos⟩
  have whole : box.common box = box.area := by rw [common, width, height, area]
  rw [iou_eq, if_pos meet, whole, add_sub_cancel_right]
  exact div_self (mul_pos proper.width_pos proper.height_pos).ne'

/-- Spans of one length that overlap over it begin at one place. -/
theorem left_eq_of_overlapX (whole : box.overlapX other = box.width)
    (widths : box.width = other.width) : box.left = other.left := by
  have right := min_le_left (box.left + box.width) (other.left + other.width)
  have right' := min_le_right (box.left + box.width) (other.left + other.width)
  have left := le_max_left box.left other.left
  have left' := le_max_right box.left other.left
  rw [overlapX] at whole
  linarith

theorem top_eq_of_overlapY (whole : box.overlapY other = box.height)
    (heights : box.height = other.height) : box.top = other.top := by
  have below := min_le_left (box.top + box.height) (other.top + other.height)
  have below' := min_le_right (box.top + box.height) (other.top + other.height)
  have above := le_max_left box.top other.top
  have above' := le_max_right box.top other.top
  rw [overlapY] at whole
  linarith

/-- **Full overlap is identity.** -/
theorem eq_of_iou_eq_one (full : box.iou other = 1) : box = other := by
  rw [iou_eq] at full
  split at full
  · rename_i meet
    rw [div_eq_one_iff_eq meet.union_pos.ne'] at full
    have first := meet.common_le_area
    have second := meet.common_le_area'
    obtain ⟨width, height⟩ := meet.overlap_of_common_eq_area (by linarith)
    have meet' := (meet_comm box other).mp meet
    obtain ⟨width', height'⟩ := meet'.overlap_of_common_eq_area (by
      rw [← common_comm]
      linarith)
    rw [overlapX_comm] at width'
    rw [overlapY_comm] at height'
    have widths : box.width = other.width := width.symm.trans width'
    have heights : box.height = other.height := height.symm.trans height'
    calc box = ⟨box.left, box.top, box.width, box.height⟩ := rfl
      _ = ⟨other.left, other.top, other.width, other.height⟩ := by
        rw [left_eq_of_overlapX width widths, top_eq_of_overlapY height heights, widths, heights]
      _ = other := rfl
  · exact absurd full zero_ne_one

end Iou

end PersonTracking.Domain.BoundingBox

namespace PersonTracking.AiService

open Domain

variable {K : Type} [Field K] [LinearOrder K]

/-- `bbox_iou`, of two boxes `(x_min, y_min, x_max, y_max)`. -/
def bboxIou (a b : K × K × K × K) : K :=
  let (ax1, ay1, ax2, ay2) := a
  let (bx1, by1, bx2, by2) := b
  let interX1 := max ax1 bx1
  let interY1 := max ay1 by1
  let interX2 := min ax2 bx2
  let interY2 := min ay2 by2
  if interX2 ≤ interX1 ∨ interY2 ≤ interY1 then 0
  else
    let interArea := (interX2 - interX1) * (interY2 - interY1)
    let areaA := (ax2 - ax1) * (ay2 - ay1)
    let areaB := (bx2 - bx1) * (by2 - by1)
    let union := areaA + areaB - interArea
    if 0 < union then interArea / union else 0

variable [IsStrictOrderedRing K]

/-- **The early return changes nothing.** -/
theorem bboxIou_corners (box other : BoundingBox K) :
    bboxIou box.corners other.corners = box.iou other := by
  have areas : ∀ b : BoundingBox K,
      (b.left + b.width - b.left) * (b.top + b.height - b.top) = b.area := by
    intro b
    rw [add_sub_cancel_left, add_sub_cancel_left, BoundingBox.area]
  -- the early return is taken where the boxes do not overlap both ways
  have early : (min (box.left + box.width) (other.left + other.width) ≤ max box.left other.left ∨
      min (box.top + box.height) (other.top + other.height) ≤ max box.top other.top) ↔
        ¬ box.Meet other := by
    rw [BoundingBox.Meet, not_and_or, not_lt, not_lt, BoundingBox.overlapX, BoundingBox.overlapY,
      sub_nonpos, sub_nonpos]
  rw [BoundingBox.iou_eq]
  simp only [bboxIou, BoundingBox.corners, areas]
  by_cases meet : box.Meet other
  · rw [if_neg fun apart => early.mp apart meet, if_pos meet]
    exact if_pos meet.union_pos
  · rw [if_pos (early.mpr meet), if_neg meet]

/-- **Both measure the overlap.**  For boxes with sizes of either sign they agree, do not
depend on the order and lie between 0 and 1; for proper boxes 1 means the same box and 0
means that the interiors are disjoint. -/
theorem iou_isOverlapMeasure (a b : BoundingBox K) :
    a.iou b = bboxIou a.corners b.corners ∧ a.iou b = b.iou a ∧ 0 ≤ a.iou b ∧ a.iou b ≤ 1 ∧
      (a.Proper → b.Proper →
        (a.iou b = 1 ↔ a = b) ∧ (a.iou b = 0 ↔ Disjoint a.interior b.interior)) := by
  refine ⟨(bboxIou_corners a b).symm, a.iou_comm b, (a.iou_mem_unit b).1, (a.iou_mem_unit b).2, ?_⟩
  intro properA properB
  refine ⟨⟨BoundingBox.eq_of_iou_eq_one, ?_⟩, a.iou_eq_zero_iff b⟩
  rintro rfl
  exact properA.iou_self

/-- A box of 50 by 100. -/
def exampleBox : BoundingBox ℚ := ⟨10, 10, 50, 100⟩

/-- The same box further down to the right. -/
def exampleMoved : BoundingBox ℚ := ⟨20, 20, 50, 100⟩

example : exampleBox.iou exampleMoved = 9 / 16 := by decide +kernel

theorem iou_isOverlapMeasure_moved :
    exampleBox.Proper ∧ exampleMoved.Proper ∧
      (exampleBox.iou exampleMoved = 1 ↔ exampleBox = exampleMoved) ∧
        (exampleBox.iou exampleMoved = 0 ↔
          Disjoint exampleBox.interior exampleMoved.interior) := by
  have proper : exampleBox.Proper := ⟨by decide, by decide⟩
  have properMoved : exampleMoved.Proper := ⟨by decide, by decide⟩
  exact ⟨proper, properMoved,
    (iou_isOverlapMeasure exampleBox exampleMoved).2.2.2.2 proper properMoved⟩

end PersonTracking.AiService
