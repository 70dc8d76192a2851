import Mathlib.Tactic.Common

/-!
# Codes that can be read from the front

A code writes values as words.  It is readable when a word followed by anything
determines the value and what follows; it is readable before some marks when
that needs one of the marks behind the word, as for the digits of a number.

`Readable.flatMap_stop` is the rule for a terminated sequence of words.
-/

namespace PersonTracking.Library

variable {α β σ : Type}

/-- Word and rest can be told apart. -/
def Readable (code : α → List σ) : Prop :=
  ∀ a b x y, code a ++ x = code b ++ y → a = b ∧ x = y

/-- Word and rest can be told apart where the rest begins with a mark. -/
def ReadableBefore (mark : σ → Prop) (code : α → List σ) : Prop :=
  ∀ a b s t x y, mark s → mark t → code a ++ s :: x = code b ++ t :: y → a = b ∧ s :: x = t :: y

theorem Readable.injective {code : α → List σ} (readable : Readable code) :
    Function.Injective code := by
  intro a b same
  exact (readable a b [] [] (by rw [same])).1

theorem Readable.before {code : α → List σ} (readable : Readable code) (mark : σ → Prop) :
    ReadableBefore mark code :=
  fun a b s t x y _ _ same => readable a b (s :: x) (t :: y) same

/-- What a reader reads back is readable. -/
theorem readable_of_reader {code : α → List σ} (read : List σ → Option (α × List σ))
    (reads : ∀ a x, read (code a ++ x) = some (a, x)) : Readable code := by
  intro a b x y same
  have read_a := reads a x
  rw [same, reads b y, Option.some.injEq, Prod.mk.injEq] at read_a
  exact ⟨read_a.1.symm, read_a.2.symm⟩

/-- Writing an injective image is as readable. -/
theorem Readable.comp {code : α → List σ} (readable : Readable code) {f : β → α}
    (injective : Function.Injective f) : Readable fun b => code (f b) := by
  intro a b x y same
  obtain ⟨images, rest⟩ := readable _ _ _ _ same
  exact ⟨injective images, rest⟩

/-- A word between two fixed texts. -/
theorem Readable.between {code : α → List σ} (readable : Readable code) (front back : List σ) :
    Readable fun a => front ++ (code a ++ back) := by
  intro a b x y same
  rw [List.append_assoc, List.append_assoc, List.append_assoc, List.append_assoc] at same
  obtain ⟨values, rest⟩ := readable _ _ _ _ (List.append_cancel_left same)
  exact ⟨values, List.append_cancel_left rest⟩

/-- **Words up to a stop.**  A sequence of words is readable when it ends with a
letter no word begins with. -/
theorem Readable.flatMap_stop {code : α → List σ} (readable : Readable code) {stop : σ}
    (begins : ∀ a, ∃ s word, code a = s :: word ∧ s ≠ stop) :
    Readable fun values : List α => values.flatMap code ++ [stop] := by
  intro values
  induction values with
  | nil =>
      intro others x y same
      cases others with
      | nil =>
          simp only [List.flatMap_nil, List.nil_append, List.singleton_append,
            List.cons.injEq] at same
          exact ⟨rfl, same.2⟩
      | cons b others =>
          obtain ⟨s, word, spelled, different⟩ := begins b
          simp only [List.flatMap_nil, List.nil_append, List.flatMap_cons, spelled,
            List.cons_append, List.cons.injEq] at same
          exact absurd same.1.symm different
  | cons a values ih =>
      intro others x y same
      cases others with
      | nil =>
          obtain ⟨s, word, spelled, different⟩ := begins a
          simp only [List.flatMap_nil, List.nil_append, List.flatMap_cons, spelled,
            List.cons_append, List.cons.injEq] at same
          exact absurd same.1 different
      | cons b others =>
          simp only [List.flatMap_cons, List.append_assoc] at same
          obtain ⟨rfl, later⟩ := readable _ _ _ _ same
          obtain ⟨rfl, rest⟩ := ih others x y (by simpa only [List.append_assoc] using later)
          exact ⟨rfl, rest⟩

/-- Words without marks are readable before marks. -/
theorem readableBefore_of_unmarked {code : α → List σ} {mark : σ → Prop}
    (injective : Function.Injective code) (unmarked : ∀ a, ∀ s ∈ code a, ¬ mark s) :
    ReadableBefore mark code := by
  have split : ∀ (first second : List σ) (s t : σ) (x y : List σ), (∀ r ∈ first, ¬ mark r) →
      (∀ r ∈ second, ¬ mark r) → mark s → mark t → first ++ s :: x = second ++ t :: y →
        first = second ∧ s :: x = t :: y := by
    intro first
    induction first with
    | nil =>
        intro second s t x y _ unmarked markS markT same
        cases second with
        | nil => exact ⟨rfl, same⟩
        | cons r second =>
            rw [List.nil_append, List.cons_append, List.cons.injEq] at same
            exact absurd (same.1 ▸ markS) (unmarked r List.mem_cons_self)
    | cons r first ih =>
        intro second s t x y unmarked unmarked' markS markT same
        cases second with
        | nil =>
            rw [List.nil_append, List.cons_append, List.cons.injEq] at same
            exact absurd (same.1 ▸ markT) (unmarked r List.mem_cons_self)
        | cons r' second =>
            rw [List.cons_append, List.cons_append, List.cons.injEq] at same
            obtain ⟨rfl, rest⟩ := ih second s t x y
              (fun q member => unmarked q (List.mem_cons_of_mem _ member))
              (fun q member => unmarked' q (List.mem_cons_of_mem _ member)) markS markT same.2
            exact ⟨by rw [same.1], rest⟩
  intro a b s t x y markS markT same
  obtain ⟨words, rest⟩ := split (code a) (code b) s t x y (unmarked a) (unmarked b) markS markT same
  exact ⟨injective words, rest⟩

end PersonTracking.Library
