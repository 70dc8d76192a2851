import PersonTracking.Library.Transition

/-!
# Runs that come to an end

A class of labels, the closing ones, uses up a number: every closing step lowers it.  Then a
run of closing steps is no longer than the number it begins with, and where some closing
step is possible in every unfinished state, closing steps lead to a finished one.
-/

namespace PersonTracking.Library

universe u v

variable {S : Type u} {L : Type v} {step : S → L → Option S} {I : S → Prop} {closing : L → Prop}
  {work : S → ℕ}

/-- **A closing run** is no longer than the work there is. -/
theorem length_add_work_le (keeps : ∀ s l t, I s → closing l → step s l = some t → I t)
    (lowers : ∀ s l t, I s → closing l → step s l = some t → work t < work s) {s t : S}
    {ls : List L} (start : I s) (closes : ∀ l ∈ ls, closing l)
    (reached : runFrom step s ls = some t) : ls.length + work t ≤ work s := by
  induction ls generalizing s with
  | nil =>
      cases reached
      exact Nat.le_of_eq (Nat.zero_add _)
  | cons l rest ih =>
      obtain ⟨next, moved, later⟩ := runFrom_cons_eq_some.mp reached
      have here := closes l List.mem_cons_self
      have bound := ih (keeps s l next start here moved)
        (fun other member => closes other (List.mem_cons_of_mem _ member)) later
      have lower := lowers s l next start here moved
      rw [List.length_cons]
      omega

/-- **Everything can be closed**: from every state closing steps lead to a finished one. -/
theorem exists_closing_run {finished : S → Prop}
    (keeps : ∀ s l t, I s → closing l → step s l = some t → I t)
    (lowers : ∀ s l t, I s → closing l → step s l = some t → work t < work s)
    (goesOn : ∀ s, I s → ¬ finished s → ∃ l t, closing l ∧ step s l = some t) {s : S}
    (start : I s) : ∃ ls t, (∀ l ∈ ls, closing l) ∧ runFrom step s ls = some t ∧ finished t := by
  induction left : work s using Nat.strongRecOn generalizing s with
  | ind n ih =>
      by_cases done : finished s
      · exact ⟨[], s, nofun, rfl, done⟩
      · obtain ⟨l, next, here, moved⟩ := goesOn s start done
        have lower := lowers s l next start here moved
        obtain ⟨ls, t, closes, reached, ended⟩ :=
          ih (work next) (left ▸ lower) (keeps s l next start here moved) rfl
        exact ⟨l :: ls, t, List.forall_mem_cons.mpr ⟨here, closes⟩,
          runFrom_cons_eq_some.mpr ⟨next, moved, reached⟩, ended⟩

end PersonTracking.Library
