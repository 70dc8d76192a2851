import Mathlib.Data.List.Basic
import Mathlib.Data.List.Induction

/-!
# Partial step functions and their runs

A transition system is given by a step function `step : S → L → Option S`: a
label is either disabled in a state (`none`) or leads to one successor.  All
nondeterminism of the modelled system — which task moves, what an external
call answers, where a process dies — is carried by the label, so a run is
determined by its first state and its list of labels.

* `runFrom` — the state a list of labels leads to, if every one is enabled.
* `Meets` — every step of the run meets a guard on the state before it and its
  label.
* `runFrom_invariant` / `runFrom_invariant_of_meets` — the two induction rules:
  what one step preserves, a run preserves.
* `runFrom_history` — the induction rule for what a state owes to the run that led to it.
* `forall_prefix_iff_meets` — when a guard is exact: the states along a run have a
  property just in case every step meets the guard.
-/

namespace PersonTracking.Library

universe u v

variable {S : Type u} {L : Type v}

/-- The state reached from `s` along the labels, or `none` when one of them is
disabled where it is due. -/
def runFrom (step : S → L → Option S) : S → List L → Option S
  | s, [] => some s
  | s, l :: ls => (step s l).bind fun t => runFrom step t ls

@[simp] theorem runFrom_nil (step : S → L → Option S) (s : S) :
    runFrom step s [] = some s := rfl

theorem runFrom_cons (step : S → L → Option S) (s : S) (l : L) (ls : List L) :
    runFrom step s (l :: ls) = (step s l).bind fun t => runFrom step t ls := rfl

theorem runFrom_cons_eq_some {step : S → L → Option S} {s u : S} {l : L} {ls : List L} :
    runFrom step s (l :: ls) = some u ↔ ∃ t, step s l = some t ∧ runFrom step t ls = some u := by
  rw [runFrom_cons, Option.bind_eq_some_iff]

theorem runFrom_append (step : S → L → Option S) (s : S) (first second : List L) :
    runFrom step s (first ++ second) =
      (runFrom step s first).bind fun t => runFrom step t second := by
  induction first generalizing s with
  | nil => rfl
  | cons l ls ih =>
      rw [List.cons_append, runFrom_cons, runFrom_cons, Option.bind_assoc]
      simp only [ih]

/-- Every step of the run along `ls` meets the guard. -/
def Meets (guard : S → L → Prop) (step : S → L → Option S) : S → List L → Prop
  | _, [] => True
  | s, l :: ls => guard s l ∧ ∀ t, step s l = some t → Meets guard step t ls

@[simp] theorem meets_nil (guard : S → L → Prop) (step : S → L → Option S) (s : S) :
    Meets guard step s [] := trivial

theorem meets_cons {guard : S → L → Prop} {step : S → L → Option S} {s : S} {l : L}
    {ls : List L} :
    Meets guard step s (l :: ls) ↔
      guard s l ∧ ∀ t, step s l = some t → Meets guard step t ls := Iff.rfl

/-- Whether a run meets a guard can be computed along the run. -/
instance Meets.decidable {guard : S → L → Prop} {step : S → L → Option S}
    [∀ s l, Decidable (guard s l)] : ∀ s ls, Decidable (Meets guard step s ls)
  | _, [] => isTrue trivial
  | s, l :: ls =>
      match moved : step s l with
      | none => decidable_of_iff (guard s l) (by simp [meets_cons, moved])
      | some t =>
          haveI : Decidable (Meets guard step t ls) := Meets.decidable t ls
          decidable_of_iff (guard s l ∧ Meets guard step t ls) (by simp [meets_cons, moved])

/-- A guard that always holds is met by every run. -/
theorem meets_of_always {guard : S → L → Prop} {step : S → L → Option S}
    (always : ∀ s l, guard s l) (s : S) (ls : List L) : Meets guard step s ls := by
  induction ls generalizing s with
  | nil => exact trivial
  | cons l ls ih => exact ⟨always s l, fun t _ => ih t⟩

/-- A guard along a run, cut in two. -/
theorem meets_append {guard : S → L → Prop} {step : S → L → Option S} {s : S}
    {first second : List L} :
    Meets guard step s (first ++ second) ↔ Meets guard step s first ∧
      ∀ t, runFrom step s first = some t → Meets guard step t second := by
  induction first generalizing s with
  | nil => simp
  | cons l ls ih =>
      rw [List.cons_append, meets_cons, meets_cons]
      constructor
      · rintro ⟨met, later⟩
        refine ⟨⟨met, fun t moved => (ih.mp (later t moved)).1⟩, fun u reached => ?_⟩
        obtain ⟨t, moved, rest⟩ := runFrom_cons_eq_some.mp reached
        exact (ih.mp (later t moved)).2 u rest
      · rintro ⟨⟨met, later⟩, after⟩
        refine ⟨met, fun t moved => ih.mpr ⟨later t moved, fun u rest => ?_⟩⟩
        exact after u (runFrom_cons_eq_some.mpr ⟨t, moved, rest⟩)

/-- Where an invariant turns one guard into another, so it does along a run. -/
theorem meets_of_invariant {guard weaker : S → L → Prop} {step : S → L → Option S} {I : S → Prop}
    (preserved : ∀ s l t, I s → guard s l → step s l = some t → I t)
    (implies : ∀ s l, I s → guard s l → weaker s l) {s : S} {ls : List L} (start : I s)
    (guarded : Meets guard step s ls) : Meets weaker step s ls := by
  induction ls generalizing s with
  | nil => exact trivial
  | cons l ls ih =>
      obtain ⟨met, later⟩ := guarded
      exact ⟨implies s l start met, fun t moved =>
        ih (preserved s l t start met moved) (later t moved)⟩

/-- A label that always meets the guard does so again and again. -/
theorem meets_replicate {guard : S → L → Prop} {step : S → L → Option S} {l : L}
    (always : ∀ s, guard s l) (n : ℕ) (s : S) : Meets guard step s (List.replicate n l) := by
  induction n generalizing s with
  | zero => exact trivial
  | succ n ih => exact ⟨always s, fun t _ => ih t⟩

/-- A guard holds along a run whose first step is known. -/
theorem meets_cons_of_step {guard : S → L → Prop} {step : S → L → Option S} {s t : S} {l : L}
    {ls : List L} (met : guard s l) (moved : step s l = some t) (later : Meets guard step t ls) :
    Meets guard step s (l :: ls) := by
  refine ⟨met, fun u same => ?_⟩
  rw [moved, Option.some.injEq] at same
  exact same ▸ later

/-- **Induction over a guarded run.**  Steps need to preserve the property only
where the guard holds. -/
theorem runFrom_invariant_of_meets {step : S → L → Option S} {guard : S → L → Prop}
    {I : S → Prop} (preserved : ∀ s l t, I s → guard s l → step s l = some t → I t)
    {s u : S} {ls : List L} (start : I s) (guarded : Meets guard step s ls)
    (reached : runFrom step s ls = some u) : I u := by
  induction ls generalizing s with
  | nil =>
      rw [runFrom_nil, Option.some.injEq] at reached
      exact reached ▸ start
  | cons l ls ih =>
      obtain ⟨t, moved, rest⟩ := runFrom_cons_eq_some.mp reached
      obtain ⟨met, later⟩ := guarded
      exact ih (preserved s l t start met moved) (later t moved) rest

/-- **Induction over a run.**  A property of the first state that every step
preserves holds of the last one. -/
theorem runFrom_invariant {step : S → L → Option S} {I : S → Prop}
    (preserved : ∀ s l t, I s → step s l = some t → I t)
    {s u : S} {ls : List L} (start : I s) (reached : runFrom step s ls = some u) : I u :=
  @runFrom_invariant_of_meets S L step (fun _ _ => True) I
    (fun s l t held _ moved => preserved s l t held moved) s u ls start
    (meets_of_always (fun _ _ => trivial) s ls) reached

/-- **Induction over a run and its history.**  A property of the labels taken and the
state they lead to, which every further step carries over, holds at the end of a run. -/
theorem runFrom_history {step : S → L → Option S} {s : S} {P : List L → S → Prop} (start : P [] s)
    (carried : ∀ taken t l u, runFrom step s taken = some t → P taken t → step t l = some u →
      P (taken ++ [l]) u)
    {u : S} {ls : List L} (reached : runFrom step s ls = some u) : P ls u := by
  induction ls using List.reverseRecOn generalizing u with
  | nil =>
      rw [runFrom_nil, Option.some.injEq] at reached
      exact reached ▸ start
  | append_singleton taken l ih =>
      rw [runFrom_append] at reached
      obtain ⟨t, before, last⟩ := Option.bind_eq_some_iff.mp reached
      obtain ⟨v, moved, here⟩ := runFrom_cons_eq_some.mp last
      rw [runFrom_nil, Option.some.injEq] at here
      exact carried taken t l u before (ih before) (here ▸ moved)

/-- **An exact guard.**  Where the invariant implies the property and is preserved by
the steps that meet the guard, and a step that does not meet it leads to a state
without the property, the states along a run have the property if and only if the run
meets the guard. -/
theorem forall_prefix_iff_meets {step : S → L → Option S} {guard : S → L → Prop} {I P : S → Prop}
    (holds : ∀ s, I s → P s) (preserved : ∀ s l t, I s → guard s l → step s l = some t → I t)
    (fails : ∀ s l, I s → ¬ guard s l → ∃ t, step s l = some t ∧ ¬ P t)
    {s : S} {ls : List L} (start : I s) :
    (∀ taken t, taken <+: ls → runFrom step s taken = some t → P t) ↔ Meets guard step s ls := by
  induction ls generalizing s with
  | nil =>
      refine ⟨fun _ => trivial, fun _ taken t initial reached => ?_⟩
      rw [List.prefix_nil.mp initial, runFrom_nil, Option.some.injEq] at reached
      exact reached ▸ holds s start
  | cons l ls ih =>
      constructor
      · intro along
        have met : guard s l := by
          by_contra unmet
          obtain ⟨t, moved, broken⟩ := fails s l start unmet
          refine broken (along [l] t ⟨ls, rfl⟩ ?_)
          exact runFrom_cons_eq_some.mpr ⟨t, moved, rfl⟩
        refine ⟨met, fun t moved => (ih (preserved s l t start met moved)).mp ?_⟩
        intro taken u initial reached
        exact along (l :: taken) u (List.cons_prefix_cons.mpr ⟨rfl, initial⟩)
          (runFrom_cons_eq_some.mpr ⟨t, moved, reached⟩)
      · rintro ⟨met, later⟩ taken u initial reached
        cases taken with
        | nil =>
            rw [runFrom_nil, Option.some.injEq] at reached
            exact reached ▸ holds s start
        | cons first taken =>
            obtain ⟨rfl, shorter⟩ := List.cons_prefix_cons.mp initial
            obtain ⟨t, moved, rest⟩ := runFrom_cons_eq_some.mp reached
            exact (ih (preserved s first t start met moved)).mpr (later t moved)
              taken u shorter rest

end PersonTracking.Library
