import Mathlib.Data.List.Perm.Subperm
import Mathlib.Order.Lattice
import Mathlib.Order.Nat

/-!
# Reading rows page by page

A reader asks a source for the rows before a cursor, moves the cursor to the stamp of
the last row it got, and goes on until a page is empty.

* `Paged`, `readFrom` — the source and the reader; every page that is not empty leaves
  less to be read.
* `IsKeyset` — the pages are the first rows, by descending rank of their stamps, of
  those ranked below the cursor; how rows of one rank are ordered is left open, query by
  query.
* `readFrom_perm_iff` — the reader gets every row just in case the rows of one rank lie
  on one page.
-/

namespace PersonTracking.Library

universe u v w

variable {α : Type u} {C : Type v} {K : Type w}

/-- A source of rows in pages.  The queries are numbered, since two of them need not
order the rows alike. -/
structure Paged (α : Type u) (C : Type v) where
  fetch : ℕ → Option C → List α
  stamp : α → C
  left : Option C → ℕ
  shrinks : ∀ query before last, last ∈ fetch query before →
    left (some (stamp last)) < left before

namespace Paged

/-- Read pages until one is empty. -/
def readFrom (source : Paged α C) (query : ℕ) (before : Option C) : List α :=
  match _ : (source.fetch query before).getLast? with
  | none => []
  | some last =>
      source.fetch query before ++ source.readFrom (query + 1) (some (source.stamp last))
termination_by source.left before
decreasing_by exact source.shrinks query before last (List.mem_of_getLast? ‹_›)

variable {source : Paged α C} {query : ℕ} {before : Option C} {last : α}

theorem readFrom_of_empty (empty : source.fetch query before = []) :
    source.readFrom query before = [] := by
  rw [readFrom]
  split
  · rfl
  · rename_i held
    rw [empty] at held
    cases held

theorem readFrom_of_getLast? (held : (source.fetch query before).getLast? = some last) :
    source.readFrom query before =
      source.fetch query before ++ source.readFrom (query + 1) (some (source.stamp last)) := by
  rw [readFrom]
  split
  · rename_i empty
    rw [held] at empty
    cases empty
  · rename_i other same
    rw [held, Option.some.injEq] at same
    rw [same]

end Paged

/-! ## Rows by rank -/

section Rows

variable [LinearOrder K] {key : α → K} {limit : ℕ} {rows others : List α}

/-- How many rows come before a row's rank. -/
def newer (key : α → K) (rows : List α) (row : α) : ℕ :=
  rows.countP fun other => key row < key other

/-- How many rows come before a row's rank or share it. -/
def notOlder (key : α → K) (rows : List α) (row : α) : ℕ :=
  rows.countP fun other => key row ≤ key other

/-- The rows of one rank lie on one page of `limit` rows: the first and the last place
they take, counted from 0, do. -/
def TiesOnOnePage (key : α → K) (limit : ℕ) (rows : List α) : Prop :=
  ∀ row ∈ rows, newer key rows row / limit = (notOlder key rows row - 1) / limit

instance (key : α → K) (limit : ℕ) (rows : List α) :
    Decidable (TiesOnOnePage key limit rows) :=
  inferInstanceAs (Decidable (∀ row ∈ rows, _))

/-- The order of the rows does not matter. -/
theorem tiesOnOnePage_perm (same : rows.Perm others) :
    TiesOnOnePage key limit rows ↔ TiesOnOnePage key limit others := by
  unfold TiesOnOnePage newer notOlder
  simp only [same.mem_iff, same.countP_eq]

/-- A row is not newer than itself. -/
theorem newer_lt_notOlder (key : α → K) {row : α} (member : row ∈ rows) :
    newer key rows row < notOlder key rows row := by
  obtain ⟨front, back, rfl⟩ := List.append_of_mem member
  have weaker : ∀ part : List α, part.countP (fun other => key row < key other) ≤
      part.countP fun other => key row ≤ key other := fun part =>
    List.countP_mono_left fun other _ above => decide_eq_true (of_decide_eq_true above).le
  have inFront := weaker front
  have inBack := weaker back
  simp only [newer, notOlder, List.countP_append, List.countP_cons, lt_irrefl, le_refl,
    decide_true, decide_false, if_true, if_false, Bool.false_eq_true]
  omega

/-- No more rows than a page holds lie on one page. -/
theorem tiesOnOnePage_of_length_le (short : rows.length ≤ limit) :
    TiesOnOnePage key limit rows := by
  intro row member
  have before := newer_lt_notOlder key member
  have few : notOlder key rows row ≤ rows.length := List.countP_le_length
  rw [Nat.div_eq_of_lt (by omega), Nat.div_eq_of_lt (by omega)]

section Pages

variable {page rest : List α} {last row : α}

/-- Rows after a page come after every row of it. -/
theorem counts_of_after (rest : List α) (within : ∀ other ∈ page, key last ≤ key other)
    (after : key row < key last) :
    newer key (page ++ rest) row = page.length + newer key rest row ∧
      notOlder key (page ++ rest) row = page.length + notOlder key rest row := by
  have all : ∀ other ∈ page, key row < key other := fun other member =>
    after.trans_le (within other member)
  constructor
  · rw [newer, List.countP_append]
    exact congrArg (· + newer key rest row)
      (List.countP_eq_length.mpr fun other member => decide_eq_true (all other member))
  · rw [notOlder, List.countP_append]
    exact congrArg (· + notOlder key rest row)
      (List.countP_eq_length.mpr fun other member => decide_eq_true (all other member).le)

/-- Rows before all of the rest are counted on the page. -/
theorem notOlder_le_of_before (before : ∀ other ∈ rest, key other < key row) :
    notOlder key (page ++ rest) row ≤ page.length := by
  have none_below : rest.countP (fun other => key row ≤ key other) = 0 :=
    List.countP_eq_zero.mpr fun other member above =>
      not_le_of_gt (before other member) (of_decide_eq_true above)
  rw [notOlder, List.countP_append, none_below]
  exact List.countP_le_length

/-- A row with the last rank of a page is counted behind the page. -/
theorem counts_of_tied (held : last ∈ page) (within : ∀ other ∈ page, key last ≤ key other)
    (below : ∀ other ∈ rest, key other ≤ key last) (member : row ∈ rest)
    (tied : key row = key last) :
    newer key (page ++ rest) row < page.length ∧
      page.length < notOlder key (page ++ rest) row := by
  constructor
  · have none_above : rest.countP (fun other => key row < key other) = 0 :=
      List.countP_eq_zero.mpr fun other inRest above =>
        not_lt_of_ge (below other inRest) (tied ▸ of_decide_eq_true above)
    rw [newer, List.countP_append, none_above, Nat.add_zero]
    refine lt_of_le_of_ne List.countP_le_length fun all => ?_
    have above := of_decide_eq_true (List.countP_eq_length.mp all last held)
    exact lt_irrefl _ (tied ▸ above)
  · have all : page.countP (fun other => key row ≤ key other) = page.length :=
      List.countP_eq_length.mpr fun other inPage =>
        decide_eq_true (tied ▸ within other inPage)
    have itself : 0 < rest.countP fun other => key row ≤ key other :=
      List.countP_pos_iff.mpr ⟨row, member, decide_eq_true le_rfl⟩
    rw [notOlder, List.countP_append, all]
    omega

/-- **One page and the rest.**  The ties lie on one page if none crosses the end of the
first page and those of the rest do. -/
theorem tiesOnOnePage_append (full : page.length = limit) (held : last ∈ page)
    (within : ∀ other ∈ page, key last ≤ key other)
    (below : ∀ other ∈ rest, key other ≤ key last) :
    TiesOnOnePage key limit (page ++ rest) ↔
      (∀ other ∈ rest, key other < key last) ∧ TiesOnOnePage key limit rest := by
  have positive : 0 < limit := full ▸ List.length_pos_of_mem held
  constructor
  · intro onOnePage
    have strict : ∀ other ∈ rest, key other < key last := by
      intro other member
      refine lt_of_le_of_ne (below other member) fun tied => ?_
      obtain ⟨first, final⟩ := counts_of_tied held within below member tied
      have same := onOnePage other (List.mem_append_right _ member)
      rw [full] at first final
      rw [Nat.div_eq_of_lt first] at same
      have later : limit ≤ notOlder key (page ++ rest) other - 1 := by omega
      exact absurd same (Nat.div_pos later positive).ne
    refine ⟨strict, fun row member => ?_⟩
    obtain ⟨first, final⟩ := counts_of_after rest within (strict row member)
    have same := onOnePage row (List.mem_append_right _ member)
    have shared := newer_lt_notOlder key member
    rw [first, final, full, Nat.add_sub_assoc (by omega), Nat.add_div_left _ positive,
      Nat.add_div_left _ positive] at same
    exact Nat.succ.inj same
  · rintro ⟨strict, onOnePage⟩ row member
    rcases List.mem_append.mp member with inPage | inRest
    · have before := newer_lt_notOlder key member
      have few : notOlder key (page ++ rest) row ≤ page.length :=
        notOlder_le_of_before fun other inRest =>
          (strict other inRest).trans_le (within row inPage)
      rw [Nat.div_eq_of_lt (by omega), Nat.div_eq_of_lt (by omega)]
    · obtain ⟨first, final⟩ := counts_of_after rest within (strict row inRest)
      have shared := newer_lt_notOlder key inRest
      rw [first, final, full, Nat.add_sub_assoc (by omega), Nat.add_div_left _ positive,
        Nat.add_div_left _ positive, onOnePage row inRest]

end Pages

end Rows

/-! ## Keyset pages -/

section Keyset

variable [LinearOrder K]

/-- The rows ranked below a bound, if there is one. -/
def older (key : α → K) (bound : Option K) (rows : List α) : List α :=
  rows.filter fun row => bound.all fun top => key row < top

@[simp] theorem older_none (key : α → K) (rows : List α) : older key none rows = rows :=
  List.filter_eq_self.mpr fun _ _ => rfl

/-- Among the rows below a bound, those below a lower one. -/
theorem older_some {key : α → K} {bound : Option K} {rows : List α} {row : α}
    (member : row ∈ older key bound rows) :
    older key (some (key row)) rows =
      (older key bound rows).filter fun other => key other < key row := by
  rw [older, older, List.filter_filter]
  refine List.filter_congr fun other _ => ?_
  have allowed := (List.mem_filter.mp member).2
  cases bound with
  | none => simp
  | some top =>
      have below : key row < top := of_decide_eq_true allowed
      by_cases lower : key other < key row
      · simp [lower, lower.trans below]
      · simp [lower]

/-- A row below a bound is itself not below its own rank. -/
theorem length_older_lt {key : α → K} {bound : Option K} {rows : List α} {row : α}
    (member : row ∈ older key bound rows) :
    (older key (some (key row)) rows).length < (older key bound rows).length := by
  rw [older_some member]
  refine List.length_filter_lt_length_iff_exists.mpr ⟨row, member, ?_⟩
  simp

namespace Paged

/-- A page is the first `limit` rows, by descending rank, of those below the cursor. -/
structure IsKeyset (source : Paged α C) (rank : C → K) (limit : ℕ) (rows : List α) : Prop where
  page : ∀ query before, ∃ ordered : List α,
    ordered.Perm (older (rank ∘ source.stamp) (before.map rank) rows) ∧
      ordered.Pairwise (fun row next => rank (source.stamp next) ≤ rank (source.stamp row)) ∧
        source.fetch query before = ordered.take limit

variable {source : Paged α C} {rank : C → K} {limit query : ℕ} {rows : List α}
  {before : Option C} {last : α}

/-- **A page that is empty** is the end of the rows. -/
theorem IsKeyset.older_of_empty (keyset : source.IsKeyset rank limit rows) (positive : 0 < limit)
    (empty : source.fetch query before = []) :
    older (rank ∘ source.stamp) (before.map rank) rows = [] := by
  obtain ⟨ordered, same, -, taken⟩ := keyset.page query before
  rw [taken, List.take_eq_nil_iff] at empty
  have nothing := empty.resolve_left positive.ne'
  exact (nothing ▸ same).symm.eq_nil

/-- **A page that is not empty**: it is sorted, what is left out follows it, and the
next page is among what is left out and ranked below the last row. -/
theorem IsKeyset.split (keyset : source.IsKeyset rank limit rows)
    (held : (source.fetch query before).getLast? = some last) :
    ∃ rest, (older (rank ∘ source.stamp) (before.map rank) rows).Perm
          (source.fetch query before ++ rest) ∧
      (source.fetch query before).Pairwise
          (fun row next => rank (source.stamp next) ≤ rank (source.stamp row)) ∧
      (∀ row ∈ source.fetch query before, rank (source.stamp last) ≤ rank (source.stamp row)) ∧
      (∀ row ∈ rest, rank (source.stamp row) ≤ rank (source.stamp last)) ∧
      ((source.fetch query before).length = limit ∨ rest = [] ∧
        (source.fetch query before).length ≤ limit) ∧
      (older (rank ∘ source.stamp) (some (rank (source.stamp last))) rows).Perm
        (rest.filter fun row => rank (source.stamp row) < rank (source.stamp last)) := by
  obtain ⟨ordered, same, sorted, taken⟩ := keyset.page query before
  have halves : source.fetch query before ++ ordered.drop limit = ordered := by
    rw [taken, List.take_append_drop]
  have member := List.mem_of_getLast? held
  obtain ⟨init, ends⟩ := List.getLast?_eq_some_iff.mp held
  rw [← halves, List.pairwise_append] at sorted
  obtain ⟨within, -, across⟩ := sorted
  have lowest : ∀ row ∈ source.fetch query before,
      rank (source.stamp last) ≤ rank (source.stamp row) := by
    intro row inPage
    have ordered := within
    rw [ends, List.pairwise_append] at ordered
    rw [ends] at inPage
    rcases List.mem_append.mp inPage with earlier | here
    · exact ordered.2.2 row earlier last (List.mem_singleton_self _)
    · rw [List.mem_singleton.mp here]
  refine ⟨ordered.drop limit, ?_, within, lowest, fun row inRest => across last member row inRest,
    ?_, ?_⟩
  · rw [halves]
    exact same.symm
  · rw [taken, List.length_take, List.drop_eq_nil_iff]
    omega
  · have inside : last ∈ older (rank ∘ source.stamp) (before.map rank) rows :=
      same.mem_iff.mp (halves ▸ List.mem_append_left _ member)
    have lower := older_some inside
    simp only [Function.comp_apply] at lower
    rw [lower]
    refine (same.symm.filter _).trans (List.Perm.of_eq ?_)
    conv_lhs => rw [← halves]
    rw [List.filter_append, List.filter_eq_nil_iff.mpr, List.nil_append]
    intro row inPage below
    exact not_lt_of_ge (lowest row inPage) (of_decide_eq_true below)

/-- **No row is read twice, and the rows come in descending rank.** -/
theorem IsKeyset.subperm_readFrom (keyset : source.IsKeyset rank limit rows)
    (query : ℕ) (before : Option C) :
    (source.readFrom query before).Subperm
        (older (rank ∘ source.stamp) (before.map rank) rows) ∧
      (source.readFrom query before).Pairwise
        fun row next => rank (source.stamp next) ≤ rank (source.stamp row) := by
  induction query, before using readFrom.induct source with
  | case1 query before ended =>
      rw [readFrom_of_empty (List.getLast?_eq_none_iff.mp ended)]
      exact ⟨List.nil_subperm, List.Pairwise.nil⟩
  | case2 query before last held ih =>
      obtain ⟨rest, same, sorted, within, below, -, next⟩ := keyset.split held
      obtain ⟨among, later⟩ := ih
      have inRest : (source.readFrom (query + 1) (some (source.stamp last))).Subperm rest :=
        (among.trans next.subperm).trans List.filter_sublist.subperm
      rw [readFrom_of_getLast? held]
      refine ⟨?_, List.pairwise_append.mpr ⟨sorted, later, fun row inPage other read => ?_⟩⟩
      · exact ((List.subperm_append_left _).mpr inRest).trans same.symm.subperm
      · exact (below other (inRest.subset read)).trans (within row inPage)

/-- **When every row is read.**  A reader of keyset pages of at least one row gets all
the rows below its cursor if and only if the rows of one rank lie on one page. -/
theorem IsKeyset.readFrom_perm_iff (keyset : source.IsKeyset rank limit rows)
    (positive : 0 < limit) (query : ℕ) (before : Option C) :
    (source.readFrom query before).Perm (older (rank ∘ source.stamp) (before.map rank) rows) ↔
      TiesOnOnePage (rank ∘ source.stamp) limit
        (older (rank ∘ source.stamp) (before.map rank) rows) := by
  induction query, before using readFrom.induct source with
  | case1 query before ended =>
      have empty := List.getLast?_eq_none_iff.mp ended
      rw [readFrom_of_empty empty, keyset.older_of_empty positive empty]
      exact iff_of_true (List.Perm.refl _) fun _ member => absurd member List.not_mem_nil
  | case2 query before last held ih =>
      obtain ⟨rest, same, -, within, below, size, next⟩ := keyset.split held
      have among := (keyset.subperm_readFrom (query + 1) (some (source.stamp last))).1
      rw [Option.map_some] at ih among
      rw [readFrom_of_getLast? held, tiesOnOnePage_perm same, same.congr_right,
        List.perm_append_left_iff]
      rcases size with full | ⟨rfl, short⟩
      · have cut := @tiesOnOnePage_append α K _ (rank ∘ source.stamp) limit
          (source.fetch query before) rest last full (List.mem_of_getLast? held) within below
        rw [cut]
        constructor
        · intro all
          have unfiltered : (rest.filter fun row =>
              rank (source.stamp row) < rank (source.stamp last)).length = rest.length := by
            refine le_antisymm (List.length_filter_le _ _) ?_
            rw [← all.length_eq, ← next.length_eq]
            exact among.length_le
          have strict := List.length_filter_eq_length_iff.mp unfiltered
          rw [List.filter_eq_self.mpr strict] at next
          refine ⟨fun row member => of_decide_eq_true (strict row member), ?_⟩
          exact (tiesOnOnePage_perm next).mp (ih.mp (all.trans next.symm))
        · rintro ⟨strict, ties⟩
          have kept : (rest.filter fun row =>
              rank (source.stamp row) < rank (source.stamp last)) = rest :=
            List.filter_eq_self.mpr fun row member => decide_eq_true (strict row member)
          rw [kept] at next
          exact (ih.mpr ((tiesOnOnePage_perm next).mpr ties)).trans next
      · rw [List.filter_nil] at next
        rw [next.eq_nil] at among
        rw [List.append_nil, List.subperm_nil.mp among]
        exact iff_of_true (List.Perm.refl _) (tiesOnOnePage_of_length_le short)

end Paged

end Keyset

end PersonTracking.Library
