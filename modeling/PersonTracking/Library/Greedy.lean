import Mathlib.Data.List.Nodup
import Mathlib.Data.List.Sublists

/-!
# Greedy selection

A list is gone through once; whoever comes first is kept, and drops everybody after it
that conflicts with it.

* `greedy` — the members kept, in the order of the list.
* `Selects` — what a greedy choice is: the kept do not conflict, and whoever is dropped
  conflicts with a kept one that precedes it.
* `selects_greedy` — `greedy` makes such a choice.
* `Selects.mem_iff` / `Selects.eq_greedy` — it is the only one: there is one set of members
  that can be kept, and one list of them that follows the order.
-/

namespace PersonTracking.Library

open List (cons_sublist_cons singleton_sublist)

universe u

variable {α : Type u}

/-- `y` stands before `x` in the list. -/
def Precedes (order : List α) (y x : α) : Prop := [y, x].Sublist order

theorem Precedes.cons {order : List α} {y x : α} (before : Precedes order y x) (first : α) :
    Precedes (first :: order) y x := by
  rw [Precedes] at *
  exact before.cons first

/-- The first element precedes all others. -/
theorem precedes_head {order : List α} {x : α} (member : x ∈ order) (first : α) :
    Precedes (first :: order) first x :=
  cons_sublist_cons.mpr (singleton_sublist.mpr member)

theorem precedes_cons_iff {order : List α} {first y x : α} :
    Precedes (first :: order) y x ↔ Precedes order y x ∨ (y = first ∧ x ∈ order) := by
  constructor
  · intro before
    rw [Precedes] at before
    cases before with
    | cons _ later => exact .inl later
    | cons_cons _ later => exact .inr ⟨rfl, singleton_sublist.mp later⟩
  · rintro (later | ⟨rfl, member⟩)
    · exact later.cons first
    · exact precedes_head member y

theorem Precedes.left_mem {order : List α} {y x : α} (before : Precedes order y x) : y ∈ order :=
  List.Sublist.subset before (by simp)

theorem Precedes.right_mem {order : List α} {y x : α} (before : Precedes order y x) : x ∈ order :=
  List.Sublist.subset before (by simp)

/-- Nothing stands before and after. -/
theorem Precedes.asymm {order : List α} {y x : α} (nodup : order.Nodup)
    (before : Precedes order y x) : ¬ Precedes order x y := by
  induction order with
  | nil => cases before
  | cons first rest ih =>
      obtain ⟨notMem, nodup⟩ := List.nodup_cons.mp nodup
      intro after
      rcases precedes_cons_iff.mp before with early | ⟨rfl, there⟩
      · rcases precedes_cons_iff.mp after with late | ⟨rfl, -⟩
        · exact ih nodup early late
        · exact notMem early.right_mem
      · rcases precedes_cons_iff.mp after with late | ⟨rfl, -⟩
        · exact notMem late.right_mem
        · exact notMem there

/-- Of two members one precedes the other. -/
theorem precedes_or_precedes {order : List α} {y x : α} (first : y ∈ order) (second : x ∈ order)
    (different : y ≠ x) : Precedes order y x ∨ Precedes order x y := by
  induction order with
  | nil => cases first
  | cons head rest ih =>
      rcases List.mem_cons.mp first with rfl | there
      · exact .inl (precedes_head ((List.mem_cons.mp second).resolve_left different.symm) y)
      · rcases List.mem_cons.mp second with rfl | too
        · exact .inr (precedes_head there x)
        · exact (ih there too).imp (·.cons head) (·.cons head)

/-- A filter keeps the order of those it keeps. -/
theorem precedes_filter_iff {order : List α} {keeps : α → Bool} {y x : α} :
    Precedes (order.filter keeps) y x ↔ Precedes order y x ∧ keeps y = true ∧ keeps x = true := by
  constructor
  · intro before
    have kept : ∀ z ∈ [y, x], keeps z = true := fun z member =>
      (List.mem_filter.mp (List.Sublist.subset before member)).2
    exact ⟨List.Sublist.trans before List.filter_sublist, kept y (by simp), kept x (by simp)⟩
  · rintro ⟨before, first, second⟩
    have kept := List.Sublist.filter keeps before
    rwa [List.filter_cons_of_pos first, List.filter_cons_of_pos second, List.filter_nil] at kept

variable (conflicts : α → α → Prop) [DecidableRel conflicts]

/-- Keep the first, drop what conflicts with it, and go on with the rest. -/
def greedy : List α → List α
  | [] => []
  | first :: rest => first :: greedy (rest.filter fun x => ¬ conflicts first x)
termination_by order => order.length
decreasing_by
  have shorter := List.length_filter_le
    (fun x : { x // x ∈ rest } => !decide (conflicts first x)) rest.attach
  simpa [Nat.lt_succ_iff] using shorter

theorem greedy_nil : greedy conflicts [] = [] := by rw [greedy]

theorem greedy_cons (first : α) (rest : List α) : greedy conflicts (first :: rest) =
    first :: greedy conflicts (rest.filter fun x => ¬ conflicts first x) := by
  rw [greedy]

/-- Induction along the rounds of `greedy`. -/
@[elab_as_elim]
theorem greedy_induction {motive : List α → Prop} (nil : motive [])
    (cons : ∀ first rest, motive (rest.filter fun x => ¬ conflicts first x) →
      motive (first :: rest)) (order : List α) : motive order := by
  induction length : order.length using Nat.strong_induction_on generalizing order with
  | h length' ih =>
      cases order with
      | nil => exact nil
      | cons first rest =>
          refine cons first rest (ih _ ?_ _ rfl)
          rw [← length, List.length_cons, Nat.lt_succ_iff]
          exact List.length_filter_le _ _

/-- What is kept follows the order. -/
theorem greedy_sublist (order : List α) : (greedy conflicts order).Sublist order := by
  induction order using greedy_induction conflicts with
  | nil => rw [greedy_nil]
  | cons first rest ih =>
      rw [greedy_cons]
      exact cons_sublist_cons.mpr (ih.trans List.filter_sublist)

omit [DecidableRel conflicts] in
/-- `kept` is a greedy choice from `order`. -/
structure Selects (order kept : List α) : Prop where
  subset : ∀ x ∈ kept, x ∈ order
  /-- No two that are kept conflict. -/
  free : ∀ y ∈ kept, ∀ x ∈ kept, Precedes order y x → ¬ conflicts y x
  /-- Whoever is dropped conflicts with a kept one before it. -/
  dropped : ∀ x ∈ order, x ∉ kept → ∃ y ∈ kept, Precedes order y x ∧ conflicts y x

variable {conflicts} {order kept : List α} {first : α} {rest : List α}

omit [DecidableRel conflicts] in
/-- The first element is kept: nothing precedes it. -/
theorem Selects.head_mem (nodup : (first :: rest).Nodup)
    (selects : Selects conflicts (first :: rest) kept) : first ∈ kept := by
  by_contra absent
  obtain ⟨y, -, before, -⟩ := selects.dropped first List.mem_cons_self absent
  have notMem := (List.nodup_cons.mp nodup).1
  rcases precedes_cons_iff.mp before with later | ⟨-, member⟩
  · exact notMem later.right_mem
  · exact notMem member

/-- The choice from the rest, once those in conflict with the first have been dropped. -/
theorem Selects.tail {others : List α} (nodup : (first :: rest).Nodup)
    (selects : Selects conflicts (first :: rest) kept)
    (splits : ∀ x, x ∈ others ↔ x ∈ kept ∧ x ∈ rest) :
    Selects conflicts (rest.filter fun x => ¬ conflicts first x) others := by
  have head := selects.head_mem nodup
  refine ⟨fun x member => ?_, fun y chosen x too before => ?_, fun x member absent => ?_⟩
  · obtain ⟨chosen, there⟩ := (splits x).mp member
    rw [List.mem_filter, decide_eq_true_eq]
    exact ⟨there, selects.free first head x chosen (precedes_head there first)⟩
  · exact selects.free y ((splits y).mp chosen).1 x ((splits x).mp too).1
      ((precedes_filter_iff.mp before).1.cons first)
  · rw [List.mem_filter, decide_eq_true_eq] at member
    have absent' : x ∉ kept := fun chosen => absent ((splits x).mpr ⟨chosen, member.1⟩)
    obtain ⟨y, chosen, before, against⟩ :=
      selects.dropped x (List.mem_cons_of_mem _ member.1) absent'
    -- It was not the first that dropped `x`, so it is one of the rest.
    rcases precedes_cons_iff.mp before with later | ⟨rfl, -⟩
    · have stays : ¬ conflicts first y :=
        selects.free first head y chosen (precedes_head later.left_mem first)
      refine ⟨y, (splits y).mpr ⟨chosen, later.left_mem⟩, ?_, against⟩
      exact precedes_filter_iff.mpr ⟨later, decide_eq_true stays, decide_eq_true member.2⟩
    · exact absurd against member.2

/-- **The greedy list is a greedy choice.** -/
theorem selects_greedy (nodup : order.Nodup) :
    Selects conflicts order (greedy conflicts order) := by
  induction order using greedy_induction conflicts with
  | nil =>
      rw [greedy_nil]
      refine ⟨fun _ member => member, fun _ member => ?_, fun _ member => ?_⟩
      · cases member
      · cases member
  | cons first rest ih =>
      rw [greedy_cons]
      obtain ⟨notMem, nodup⟩ := List.nodup_cons.mp nodup
      have inner := ih (nodup.filter _)
      generalize greedy conflicts (rest.filter fun x => ¬ conflicts first x) = chosen at inner
      -- The members of the rest that are kept are not the first again.
      have later : ∀ x ∈ rest, x ∈ first :: chosen → x ∈ chosen := fun x there kept =>
        (List.mem_cons.mp kept).resolve_left fun same => notMem (same ▸ there)
      have kept : ∀ x ∈ chosen, x ∈ rest ∧ ¬ conflicts first x := fun x member => by
        have passed := inner.subset x member
        rwa [List.mem_filter, decide_eq_true_eq] at passed
      refine ⟨fun x member => ?_, fun y member x too before => ?_, fun x member absent => ?_⟩
      · rcases List.mem_cons.mp member with rfl | member
        · exact List.mem_cons_self
        · exact List.mem_cons_of_mem _ (kept x member).1
      · rcases precedes_cons_iff.mp before with before | ⟨rfl, there⟩
        · have early := later y before.left_mem member
          have late := later x before.right_mem too
          refine inner.free y early x late (precedes_filter_iff.mpr ⟨before, ?_, ?_⟩)
          · exact decide_eq_true (kept y early).2
          · exact decide_eq_true (kept x late).2
        · exact (kept x (later x there too)).2
      · rw [List.mem_cons, not_or] at absent
        have there := (List.mem_cons.mp member).resolve_left absent.1
        by_cases against : conflicts first x
        · exact ⟨first, List.mem_cons_self, precedes_head there first, against⟩
        · obtain ⟨y, member, before, against⟩ := inner.dropped x
            (List.mem_filter.mpr ⟨there, decide_eq_true against⟩) absent.2
          exact ⟨y, List.mem_cons_of_mem _ member,
            (precedes_filter_iff.mp before).1.cons first, against⟩

/-- **There is one greedy choice**, as far as who is kept goes. -/
theorem Selects.mem_iff (nodup : order.Nodup) (selects : Selects conflicts order kept) (x : α) :
    x ∈ kept ↔ x ∈ greedy conflicts order := by
  classical
  induction order using greedy_induction conflicts generalizing kept with
  | nil =>
      rw [greedy_nil]
      exact ⟨selects.subset x, fun member => by cases member⟩
  | cons first rest ih =>
      have splits : ∀ x, x ∈ kept.filter (· ∈ rest) ↔ x ∈ kept ∧ x ∈ rest := fun x => by
        rw [List.mem_filter, decide_eq_true_eq]
      rw [greedy_cons, List.mem_cons,
        ← ih ((List.nodup_cons.mp nodup).2.filter _) (selects.tail nodup splits), splits]
      constructor
      · intro member
        exact (List.mem_cons.mp (selects.subset x member)).imp id fun there => ⟨member, there⟩
      · rintro (rfl | ⟨member, -⟩)
        · exact selects.head_mem nodup
        · exact member

/-- A choice without repetition is a rearrangement of the greedy list. -/
theorem Selects.perm (nodup : order.Nodup) (selects : Selects conflicts order kept)
    (distinct : kept.Nodup) : kept.Perm (greedy conflicts order) :=
  (List.perm_ext_iff_of_nodup distinct ((greedy_sublist conflicts order).nodup nodup)).mpr
    (selects.mem_iff nodup)

/-- **There is one list** of a greedy choice that follows the order. -/
theorem Selects.eq_greedy (nodup : order.Nodup) (selects : Selects conflicts order kept)
    (follows : kept.Sublist order) : kept = greedy conflicts order := by
  have sorted : ∀ {list : List α}, list.Sublist order → list.Pairwise (Precedes order) :=
    fun follows => List.pairwise_iff_forall_sublist.mpr fun pair => pair.trans follows
  exact List.Perm.eq_of_pairwise
    (fun _ _ _ _ before after => absurd after (before.asymm nodup)) (sorted follows)
    (sorted (greedy_sublist conflicts order)) (selects.perm nodup (follows.nodup nodup))

end PersonTracking.Library
