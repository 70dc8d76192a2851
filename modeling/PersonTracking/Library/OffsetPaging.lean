import Mathlib.Data.List.Basic

/-!
# Pages at an offset, of a list that changes

A reader asks for the page behind what it has been given so far.  The next page begins at
an offset, not behind an element, and between two pages the list changes: elements come
in anywhere, or some go.

`Reachable` is what the reader can still count on for an element: it has been given it, or
the element is behind the offset.  Growth keeps that (`Reachable.grow`), pages keep it
(`Reachable.page`), and so does a removal that leaves what is in front of the offset
(`Reachable.remove`).  A reader that has come to the end has been given the element
(`Reachable.given`).
-/

namespace PersonTracking.Library

variable {α : Type}

/-- A reader: the offset of its next page, and what it has been given. -/
structure PageReader (α : Type) where
  offset : ℕ
  given : List α

namespace PageReader

/-- The reader after a page of a list, which is given to it. -/
def next (reader : PageReader α) (listed : List α) (limit : ℕ) : PageReader α where
  offset := reader.offset + limit
  given := reader.given ++ (listed.drop reader.offset).take limit

/-- The reader has been given an element, or has it in front of it. -/
def Reachable (reader : PageReader α) (listed : List α) (x : α) : Prop :=
  x ∈ reader.given ∨ x ∈ listed.drop reader.offset

variable {reader : PageReader α} {listed after : List α} {x : α}

/-- **Elements that come in**, wherever, push nothing in front of the offset. -/
theorem Reachable.grow (reachable : reader.Reachable listed x) (grown : listed.Sublist after) :
    reader.Reachable after x :=
  reachable.imp_right fun ahead => (grown.drop reader.offset).subset ahead

/-- What is behind the offset, where nothing in front of it is taken away. -/
theorem drop_filter_of_take {n : ℕ} {keeps : α → Bool} {listed : List α}
    (front : ∀ y ∈ listed.take n, keeps y = true) :
    (listed.filter keeps).drop n = (listed.drop n).filter keeps := by
  induction n generalizing listed with
  | zero => rfl
  | succ n ih =>
      cases listed with
      | nil => rfl
      | cons y rest =>
          rw [List.take_succ_cons] at front
          rw [List.filter_cons_of_pos (front y List.mem_cons_self), List.drop_succ_cons,
            List.drop_succ_cons]
          exact ih fun z member => front z (List.mem_cons_of_mem _ member)

/-- **Elements that go** from behind the offset take no other one with them. -/
theorem Reachable.remove {keeps : α → Bool} (reachable : reader.Reachable listed x)
    (front : ∀ y ∈ listed.take reader.offset, keeps y = true) (stays : keeps x = true) :
    reader.Reachable (listed.filter keeps) x := by
  refine reachable.imp_right fun ahead => ?_
  rw [drop_filter_of_take front]
  exact List.mem_filter.mpr ⟨ahead, stays⟩

/-- **A page** gives what it moves the offset over. -/
theorem Reachable.page (reachable : reader.Reachable listed x) (limit : ℕ) :
    (reader.next listed limit).Reachable listed x := by
  rcases reachable with given | ahead
  · exact Or.inl (List.mem_append_left _ given)
  · rw [← List.take_append_drop limit (listed.drop reader.offset), List.drop_drop] at ahead
    rcases List.mem_append.mp ahead with here | later
    · exact Or.inl (List.mem_append_right _ here)
    · exact Or.inr later

/-- At the end of the list, whatever was in front of the reader has been given to it. -/
theorem Reachable.given (reachable : reader.Reachable listed x)
    (ended : listed.length ≤ reader.offset) : x ∈ reader.given := by
  rcases reachable with given | ahead
  · exact given
  · rw [List.drop_eq_nil_of_le ended] at ahead
    cases ahead

end PageReader

end PersonTracking.Library
