import Mathlib.Data.List.Induction
import Mathlib.Order.Lattice

/-!
# The best so far

A loop keeps the best element it has seen, starting from a value and nothing; a new one
takes its place only if it is strictly better.

* `runningMax` — the loop.
* `FirstGreatest` — an element of greatest value, the first of them in the list.
* `runningMax_cases` — the loop finds the first greatest, if any is above the start.
* `FirstGreatest.unique` — there is one.
-/

namespace PersonTracking.Library

universe u v

variable {α : Type u} {S : Type v} [LinearOrder S] (value : α → S)

/-- One more element. -/
def keepGreater (best : Option α × S) (x : α) : Option α × S :=
  if best.2 < value x then (some x, value x) else best

/-- The best of a list, with its value. -/
def runningMax (start : S) (list : List α) : Option α × S :=
  list.foldl (keepGreater value) (none, start)

/-- `x` has the greatest value in the list, and is the first that has it. -/
def FirstGreatest (list : List α) (x : α) : Prop :=
  ∃ before after, list = before ++ x :: after ∧ (∀ y ∈ before, value y < value x) ∧
    ∀ y ∈ after, value y ≤ value x

variable {value} {start : S} {list : List α} {x y : α}

theorem FirstGreatest.mem (first : FirstGreatest value list x) : x ∈ list := by
  obtain ⟨before, after, rfl, -, -⟩ := first
  exact List.mem_append_right _ List.mem_cons_self

theorem FirstGreatest.le (first : FirstGreatest value list x) (member : y ∈ list) :
    value y ≤ value x := by
  obtain ⟨before, after, rfl, below, atMost⟩ := first
  rcases List.mem_append.mp member with early | rest
  · exact (below y early).le
  · rcases List.mem_cons.mp rest with rfl | late
    · exact le_rfl
    · exact atMost y late

/-- **The first greatest element is one.** -/
theorem FirstGreatest.unique (first : FirstGreatest value list x)
    (other : FirstGreatest value list y) : x = y := by
  have same : value x = value y := le_antisymm (other.le first.mem) (first.le other.mem)
  obtain ⟨before, after, split, below, -⟩ := first
  obtain ⟨before', after', split', below', -⟩ := other
  -- One of the two stands in what comes before the other, unless they stand together.
  rcases List.append_eq_append_iff.mp (split.symm.trans split') with
    ⟨between, rfl, rest⟩ | ⟨between, rfl, rest⟩
  · cases between with
    | nil => exact (List.cons.inj rest).1
    | cons z between =>
        obtain ⟨rfl, -⟩ := List.cons.inj rest
        exact absurd same (below' x (by simp)).ne
  · cases between with
    | nil => exact (List.cons.inj rest).1.symm
    | cons z between =>
        obtain ⟨rfl, -⟩ := List.cons.inj rest
        exact absurd same.symm (below y (by simp)).ne

/-- **The loop** finds the first greatest element, or none is above the start. -/
theorem runningMax_cases (value : α → S) (start : S) (list : List α) :
    (runningMax value start list = (none, start) ∧ ∀ y ∈ list, value y ≤ start) ∨
      ∃ x, runningMax value start list = (some x, value x) ∧ start < value x ∧
        FirstGreatest value list x := by
  induction list using List.reverseRecOn with
  | nil => exact .inl ⟨rfl, fun y member => by cases member⟩
  | append_singleton list last ih =>
      have next : runningMax value start (list ++ [last]) =
          keepGreater value (runningMax value start list) last := by
        rw [runningMax, List.foldl_append]
        rfl
      rcases ih with ⟨none, low⟩ | ⟨x, found, above, first⟩
      · rw [next, none, keepGreater]
        by_cases better : start < value last
        · refine .inr ⟨last, if_pos better, better, list, [], rfl, fun y member => ?_, ?_⟩
          · exact (low y member).trans_lt better
          · exact fun y member => by cases member
        · refine .inl ⟨if_neg better, fun y member => ?_⟩
          rcases List.mem_append.mp member with early | same
          · exact low y early
          · exact List.mem_singleton.mp same ▸ not_lt.mp better
      · rw [next, found, keepGreater]
        by_cases better : value x < value last
        · refine .inr ⟨last, if_pos better,
            above.trans better, list, [], rfl, fun y member => ?_, ?_⟩
          · exact (first.le member).trans_lt better
          · exact fun y member => by cases member
        · refine .inr ⟨x, if_neg better, above, ?_⟩
          obtain ⟨before, after, rfl, below, atMost⟩ := first
          refine ⟨before, after ++ [last], by simp, below, fun y member => ?_⟩
          rcases List.mem_append.mp member with late | same
          · exact atMost y late
          · exact List.mem_singleton.mp same ▸ not_lt.mp better

end PersonTracking.Library
