import Mathlib.Data.List.MinMax
import PersonTracking.AiService.Nms

/-!
# Soft non-maximum suppression

`soft_nms` with exact arithmetic and any function for `np.exp` that decays.  Beside the
array of scores and the list of indices the model notes with what score each index was
selected or discarded.

`honours_iff` says exactly when the score threshold is honoured: when there is no box, or
one whose own score reaches the threshold.  The index that is selected first is never held
against it (`selected_below_threshold`).
-/

namespace PersonTracking.AiService

variable {K : Type} [Field K] [LinearOrder K]

/-- What `np.exp` does with exponents that are not positive. -/
structure IsDecay (exp : K → K) : Prop where
  pos : ∀ x ≤ 0, 0 < exp x
  le_one : ∀ x ≤ 0, exp x ≤ 1
  zero : exp 0 = 1

/-- `np.argmax`: the first position of a greatest value. -/
def argmax (values : List K) : ℕ :=
  ((List.range values.length).argmax fun k => values.getD k 0).getD 0

theorem argmax_spec {values : List K} (someValue : values ≠ []) :
    argmax values < values.length ∧
      ∀ k < values.length, values.getD k 0 ≤ values.getD (argmax values) 0 := by
  have positions : List.range values.length ≠ [] := by simpa using someValue
  obtain ⟨best, found⟩ : ∃ best,
      (List.range values.length).argmax (fun k => values.getD k 0) = some best :=
    Option.ne_none_iff_exists'.mp fun none => positions (List.argmax_eq_none.mp none)
  rw [argmax, found, Option.getD_some]
  refine ⟨List.mem_range.mp (List.argmax_mem found), fun k below => ?_⟩
  exact List.le_of_mem_argmax (List.mem_range.mpr below) found

/-- The variables of the loop, and what became of each index with which score. -/
@[ext]
structure SoftNms (K : Type) where
  scores : ℕ → K
  indices : List ℕ
  keep : List (ℕ × K)
  discarded : List (ℕ × K)

namespace SoftNms

variable (boxes : List (Box K)) (exp : K → K) (sigma scoreThreshold : K)

/-- Before the loop. -/
def start (scores : List K) : SoftNms K where
  scores := fun i => scores.getD i 0
  indices := List.range boxes.length
  keep := []
  discarded := []

/-- What the score of `j` is multiplied by once `i` has been selected. -/
def factor (i j : ℕ) : K := exp (-((boxAt boxes i).iou (boxAt boxes j) ^ 2) / sigma)

/-- The body of `for j in list(indices)`. -/
def decay (i : ℕ) (state : SoftNms K) (j : ℕ) : SoftNms K :=
  let score := state.scores j * factor boxes exp sigma i j
  let decayed := { state with scores := Function.update state.scores j score }
  if score < scoreThreshold then
    { decayed with
      indices := state.indices.erase j
      discarded := state.discarded ++ [(j, score)] }
  else decayed

/-- The position and the index that are selected next. -/
def maxIdx (state : SoftNms K) : ℕ := argmax (state.indices.map state.scores)

/-- `indices[max_idx]`. -/
def selected (state : SoftNms K) : ℕ := state.indices.getD state.maxIdx 0

/-- `keep.append(i)` and `indices.pop(max_idx)`. -/
def pop (state : SoftNms K) : SoftNms K :=
  { state with
    indices := state.indices.eraseIdx state.maxIdx
    keep := state.keep ++ [(state.selected, state.scores state.selected)] }

/-- The body of `while len(indices) > 0`. -/
def round (state : SoftNms K) : SoftNms K :=
  state.pop.indices.foldl (decay boxes exp sigma scoreThreshold state.selected) state.pop

variable {boxes exp sigma scoreThreshold} {state : SoftNms K}

/-! ## The selection -/

theorem maxIdx_spec (left : state.indices ≠ []) : state.maxIdx < state.indices.length ∧
    ∀ j ∈ state.indices, state.scores j ≤ state.scores state.selected := by
  have values : state.indices.map state.scores ≠ [] := by simpa using left
  obtain ⟨inside, greatest⟩ := argmax_spec values
  rw [List.length_map] at inside greatest
  refine ⟨inside, fun j member => ?_⟩
  obtain ⟨k, below, rfl⟩ := List.getElem_of_mem member
  have most := greatest k below
  rw [← maxIdx] at most inside
  simpa [selected, List.getD_eq_getElem?_getD, below, inside] using most

/-- What is popped is the selected index. -/
theorem perm_pop (left : state.indices ≠ []) :
    state.indices.Perm (state.selected :: state.pop.indices) := by
  have inside := (maxIdx_spec left).1
  have whole := List.getElem_cons_eraseIdx_perm inside
  rw [selected, List.getD_eq_getElem?_getD, List.getElem?_eq_getElem inside, Option.getD_some]
  exact whole.symm

/-! ## The rounds -/

theorem indices_foldl_decay (boxes : List (Box K)) (exp : K → K) (sigma scoreThreshold : K)
    (state : SoftNms K) (i : ℕ) (todo : List ℕ) :
    ((todo.foldl (decay boxes exp sigma scoreThreshold i) state).indices).Sublist
      state.indices := by
  induction todo generalizing state with
  | nil => exact List.Sublist.refl _
  | cons j todo ih =>
      refine (ih _).trans ?_
      unfold decay
      dsimp only
      split
      · exact List.erase_sublist
      · exact List.Sublist.refl _

theorem length_round_lt (left : state.indices ≠ []) :
    (round boxes exp sigma scoreThreshold state).indices.length < state.indices.length := by
  have fewer := (indices_foldl_decay boxes exp sigma scoreThreshold state.pop state.selected
    state.pop.indices).length_le
  have one := (perm_pop left).length_eq
  rw [List.length_cons] at one
  exact Nat.lt_of_le_of_lt fewer (one ▸ Nat.lt_succ_self _)

variable (boxes exp sigma scoreThreshold) in
/-- The loop `while len(indices) > 0`. -/
def loop (state : SoftNms K) : SoftNms K :=
  if state.indices = [] then state else loop (round boxes exp sigma scoreThreshold state)
termination_by state.indices.length
decreasing_by exact length_round_lt ‹_›

variable (boxes exp sigma scoreThreshold) in
/-- `soft_nms` to its end. -/
def run (scores : List K) : SoftNms K :=
  if boxes = [] then start boxes scores
  else loop boxes exp sigma scoreThreshold (start boxes scores)

variable (boxes exp sigma scoreThreshold) in
/-- `soft_nms`.  Its parameter `iou_threshold` is not read. -/
def softNms (scores : List K) : List ℕ :=
  (run boxes exp sigma scoreThreshold scores).keep.map Prod.fst

/-- **The score threshold and the order are honoured**: every index is selected or
discarded, and once; the scores at the selections do not rise and reach the threshold;
those at the discards do not. -/
structure Honours (n : ℕ) (scoreThreshold : K) (state : SoftNms K) : Prop where
  once : ((state.keep ++ state.discarded).map Prod.fst).Perm (List.range n)
  falling : state.keep.Pairwise fun earlier later => later.2 ≤ earlier.2
  above : ∀ entry ∈ state.keep, scoreThreshold ≤ entry.2
  below : ∀ entry ∈ state.discarded, entry.2 < scoreThreshold

/-! ## The decay -/

/-- What the inner loop leaves behind when it has gone through the indices `todo`. -/
structure Decayed (scoreThreshold : K) (todo : List ℕ) (before after : SoftNms K) : Prop where
  keep : after.keep = before.keep
  account : (after.discarded.map Prod.fst ++ after.indices).Perm
    (before.discarded.map Prod.fst ++ before.indices)
  indices : after.indices.Sublist before.indices
  scores : ∀ j, after.scores j ≤ before.scores j
  nonneg : ∀ j, 0 ≤ after.scores j
  untouched : ∀ j, j ∉ todo → after.scores j = before.scores j
  passed : ∀ j ∈ todo, j ∈ after.indices → scoreThreshold ≤ after.scores j
  below : ∀ entry ∈ after.discarded, entry ∈ before.discarded ∨ entry.2 < scoreThreshold

namespace Decayed

variable {before middle after : SoftNms K} {todo : List ℕ} {j : ℕ}

theorem refl (nonneg : ∀ j, 0 ≤ before.scores j) : Decayed scoreThreshold [] before before where
  keep := rfl
  account := List.Perm.refl _
  indices := List.Sublist.refl _
  scores _ := le_rfl
  nonneg := nonneg
  untouched _ _ := rfl
  passed _ member := by cases member
  below _ member := .inl member

/-- One index, and then the others. -/
theorem cons (notMem : j ∉ todo) (first : Decayed scoreThreshold [j] before middle)
    (rest : Decayed scoreThreshold todo middle after) :
    Decayed scoreThreshold (j :: todo) before after where
  keep := rest.keep.trans first.keep
  account := rest.account.trans first.account
  indices := rest.indices.trans first.indices
  scores k := (rest.scores k).trans (first.scores k)
  nonneg := rest.nonneg
  untouched k absent := by
    rw [List.mem_cons, not_or] at absent
    rw [rest.untouched k absent.2, first.untouched k (by simpa using absent.1)]
  passed k member there := by
    rcases List.mem_cons.mp member with rfl | member
    · rw [rest.untouched k notMem]
      exact first.passed k List.mem_cons_self (rest.indices.subset there)
    · exact rest.passed k member there
  below entry member := by
    rcases rest.below entry member with early | low
    · exact first.below entry early
    · exact .inr low

end Decayed

variable [IsStrictOrderedRing K]

theorem factor_spec (boxes : List (Box K)) (isDecay : IsDecay exp) (positive : 0 < sigma)
    (i j : ℕ) :
    0 < factor boxes exp sigma i j ∧ factor boxes exp sigma i j ≤ 1 := by
  have exponent : -((boxAt boxes i).iou (boxAt boxes j) ^ 2) / sigma ≤ 0 :=
    div_nonpos_of_nonpos_of_nonneg (neg_nonpos.mpr (sq_nonneg _)) positive.le
  exact ⟨isDecay.pos _ exponent, isDecay.le_one _ exponent⟩

/-- **One index.** -/
theorem decayed_decay (isDecay : IsDecay exp) (positive : 0 < sigma) (i : ℕ) {j : ℕ}
    (nodup : state.indices.Nodup) (member : j ∈ state.indices)
    (nonneg : ∀ k, 0 ≤ state.scores k) : Decayed scoreThreshold [j] state
      (decay boxes exp sigma scoreThreshold i state j) := by
  obtain ⟨more, less⟩ := factor_spec boxes isDecay positive i j
  have score : state.scores j * factor boxes exp sigma i j ≤ state.scores j :=
    mul_le_of_le_one_right (nonneg j) less
  have lower : ∀ k, Function.update state.scores j
      (state.scores j * factor boxes exp sigma i j) k ≤ state.scores k := by
    refine (Function.forall_update_iff _ fun k value => value ≤ state.scores k).mpr ⟨score, ?_⟩
    exact fun k _ => le_rfl
  have above : ∀ k, 0 ≤ Function.update state.scores j
      (state.scores j * factor boxes exp sigma i j) k := by
    refine (Function.forall_update_iff _ fun _ value => 0 ≤ value).mpr ⟨?_, fun k _ => nonneg k⟩
    exact mul_nonneg (nonneg j) more.le
  unfold decay
  dsimp only
  split
  · next low =>
      refine ⟨rfl, ?_, List.erase_sublist, lower, above, fun k other => ?_, ?_, ?_⟩
      · simp only [List.map_append, List.map_cons, List.map_nil, List.append_assoc,
          List.singleton_append]
        exact ((List.perm_cons_erase member).symm).append_left _
      · exact Function.update_of_ne (by simpa using other) _ _
      · intro k same there
        rw [List.mem_singleton] at same
        exact absurd (same ▸ there) nodup.not_mem_erase
      · intro entry there
        rw [List.mem_append, List.mem_singleton] at there
        rcases there with there | rfl
        · exact .inl there
        · exact .inr low
  · next high =>
      refine ⟨rfl, List.Perm.refl _, List.Sublist.refl _, lower, above, fun k other => ?_, ?_, ?_⟩
      · exact Function.update_of_ne (by simpa using other) _ _
      · intro k same _
        rw [List.mem_singleton] at same
        subst same
        show scoreThreshold ≤ Function.update state.scores k _ k
        rw [Function.update_self]
        exact not_lt.mp high
      · exact fun entry there => .inl there

/-- **The inner loop.** -/
theorem decayed_foldl (isDecay : IsDecay exp) (positive : 0 < sigma) (i : ℕ) {todo : List ℕ}
    (distinct : todo.Nodup) (nodup : state.indices.Nodup) (members : ∀ j ∈ todo, j ∈ state.indices)
    (nonneg : ∀ k, 0 ≤ state.scores k) : Decayed scoreThreshold todo state
      (todo.foldl (decay boxes exp sigma scoreThreshold i) state) := by
  induction todo generalizing state with
  | nil => exact Decayed.refl nonneg
  | cons j todo ih =>
      obtain ⟨notMem, distinct⟩ := List.nodup_cons.mp distinct
      have first :
          Decayed scoreThreshold [j] state (decay boxes exp sigma scoreThreshold i state j) :=
        decayed_decay isDecay positive i nodup (members j List.mem_cons_self) nonneg
      refine first.cons notMem (ih distinct (first.indices.nodup nodup) ?_ first.nonneg)
      intro k member
      have there := members k (List.mem_cons_of_mem _ member)
      have other : k ≠ j := fun same => notMem (same ▸ member)
      unfold decay
      dsimp only
      split
      · exact (List.mem_erase_of_ne other).mpr there
      · exact there

/-- **One round**, from a state whose scores are not negative. -/
theorem decayed_round (isDecay : IsDecay exp) (positive : 0 < sigma) (nodup : state.indices.Nodup)
    (left : state.indices ≠ []) (nonneg : ∀ k, 0 ≤ state.scores k) :
    Decayed scoreThreshold state.pop.indices state.pop
      (round boxes exp sigma scoreThreshold state) := by
  have distinct : state.pop.indices.Nodup :=
    (List.nodup_cons.mp ((perm_pop left).nodup_iff.mp nodup)).2
  exact decayed_foldl isDecay positive _ distinct distinct (fun _ member => member) nonneg

/-! ## Runs -/

/-- The invariant once an index has been selected, with the first one. -/
structure Sound (n : ℕ) (scoreThreshold : K) (first : ℕ × K) (state : SoftNms K) : Prop where
  account : (state.keep.map Prod.fst ++
    (state.discarded.map Prod.fst ++ state.indices)).Perm (List.range n)
  nonneg : ∀ j, 0 ≤ state.scores j
  kept : ∃ later, state.keep = first :: later ∧ ∀ entry ∈ later, scoreThreshold ≤ entry.2
  falling : state.keep.Pairwise fun earlier later => later.2 ≤ earlier.2
  bounded : ∀ entry ∈ state.keep, ∀ j ∈ state.indices, state.scores j ≤ entry.2
  passed : ∀ j ∈ state.indices, scoreThreshold ≤ state.scores j
  below : ∀ entry ∈ state.discarded, entry.2 < scoreThreshold

omit [IsStrictOrderedRing K] in
/-- What a round makes of the account. -/
theorem Decayed.account_round {after : SoftNms K} {n : ℕ} (left : state.indices ≠ [])
    (decayed : Decayed scoreThreshold state.pop.indices state.pop after)
    (account : (state.keep.map Prod.fst ++
      (state.discarded.map Prod.fst ++ state.indices)).Perm (List.range n)) :
    (after.keep.map Prod.fst ++ (after.discarded.map Prod.fst ++ after.indices)).Perm
      (List.range n) := by
  refine List.Perm.trans ?_ account
  have kept : after.keep.map Prod.fst ++ (after.discarded.map Prod.fst ++ after.indices) =
      state.keep.map Prod.fst ++ state.selected ::
        (after.discarded.map Prod.fst ++ after.indices) := by
    rw [decayed.keep]
    simp [pop]
  rw [kept]
  refine List.Perm.append_left _ ((decayed.account.cons state.selected).trans ?_)
  exact List.perm_middle.symm.trans ((perm_pop left).symm.append_left _)

theorem sound_first (scoreThreshold : K) (isDecay : IsDecay exp) (positive : 0 < sigma)
    {scores : List K}
    (nonneg : ∀ k, 0 ≤ scores.getD k 0) (someBox : boxes ≠ []) :
    ∃ i < boxes.length, (∀ j < boxes.length, scores.getD j 0 ≤ scores.getD i 0) ∧
      Sound boxes.length scoreThreshold (i, scores.getD i 0)
        (round boxes exp sigma scoreThreshold (start boxes scores)) := by
  have left : (start boxes scores).indices ≠ [] := by simpa [start] using someBox
  obtain ⟨-, greatest⟩ := maxIdx_spec left
  have whole := perm_pop left
  have decayed : Decayed scoreThreshold (start boxes scores).pop.indices (start boxes scores).pop
      (round boxes exp sigma scoreThreshold (start boxes scores)) :=
    decayed_round isDecay positive List.nodup_range left nonneg
  have member : ∀ j, j ∈ (start boxes scores).indices ↔ j < boxes.length := fun j =>
    List.mem_range
  have inside := (member _).mp (whole.mem_iff.mpr List.mem_cons_self)
  refine ⟨(start boxes scores).selected, inside,
    fun j below => greatest j ((member j).mpr below), ?_⟩
  refine ⟨decayed.account_round left (List.Perm.refl _), decayed.nonneg, ⟨[], decayed.keep, ?_⟩,
    ?_, fun entry there j left' => ?_, fun j there => ?_, fun entry there => ?_⟩
  · intro entry there
    cases there
  · rw [decayed.keep]
    exact List.pairwise_singleton _ _
  · rw [decayed.keep] at there
    rw [List.mem_singleton.mp there]
    have before := whole.mem_iff.mpr (List.mem_cons_of_mem _ (decayed.indices.subset left'))
    exact (decayed.scores j).trans (greatest j before)
  · exact decayed.passed j (decayed.indices.subset there) there
  · rcases decayed.below entry there with early | low
    · cases early
    · exact low

theorem Sound.round (isDecay : IsDecay exp) (positive : 0 < sigma) {n : ℕ} {first : ℕ × K}
    (sound : Sound n scoreThreshold first state) (left : state.indices ≠ []) :
    Sound n scoreThreshold first (SoftNms.round boxes exp sigma scoreThreshold state) := by
  have nodup : state.indices.Nodup := by
    have all := sound.account.nodup_iff.mpr List.nodup_range
    exact (List.nodup_append.mp (List.nodup_append.mp all).2.1).2.1
  obtain ⟨-, greatest⟩ := maxIdx_spec left
  have whole := perm_pop left
  have decayed : Decayed scoreThreshold state.pop.indices state.pop
      (SoftNms.round boxes exp sigma scoreThreshold state) :=
    decayed_round isDecay positive nodup left sound.nonneg
  have own : state.selected ∈ state.indices := whole.mem_iff.mpr List.mem_cons_self
  have still : ∀ j ∈ (SoftNms.round boxes exp sigma scoreThreshold state).indices,
      j ∈ state.indices := fun j there =>
    whole.mem_iff.mpr (List.mem_cons_of_mem _ (decayed.indices.subset there))
  refine ⟨decayed.account_round left sound.account, decayed.nonneg, ?_, ?_,
    fun entry there j left' => ?_, fun j there => ?_, fun entry there => ?_⟩
  · obtain ⟨later, kept, high⟩ := sound.kept
    refine ⟨later ++ [(state.selected, state.scores state.selected)], ?_, fun entry there => ?_⟩
    · rw [decayed.keep, pop, kept, List.cons_append]
    · rw [List.mem_append, List.mem_singleton] at there
      rcases there with there | rfl
      · exact high entry there
      · exact sound.passed _ own
  · rw [decayed.keep, pop, List.pairwise_append]
    refine ⟨sound.falling, List.pairwise_singleton _ _, fun entry there last same => ?_⟩
    rw [List.mem_singleton.mp same]
    exact sound.bounded entry there _ own
  · rw [decayed.keep, pop, List.mem_append, List.mem_singleton] at there
    refine (decayed.scores j).trans ?_
    rcases there with there | rfl
    · exact sound.bounded entry there j (still j left')
    · exact greatest j (still j left')
  · exact decayed.passed j (decayed.indices.subset there) there
  · rcases decayed.below entry there with early | low
    · exact sound.below entry early
    · exact low

/-- **The loop** ends with no index left. -/
theorem Sound.loop (isDecay : IsDecay exp) (positive : 0 < sigma) {n : ℕ} {first : ℕ × K}
    (sound : Sound n scoreThreshold first state) :
    Sound n scoreThreshold first (SoftNms.loop boxes exp sigma scoreThreshold state) ∧
      (SoftNms.loop boxes exp sigma scoreThreshold state).indices = [] := by
  induction state using loop.induct boxes exp sigma scoreThreshold with
  | case1 state none =>
      rw [SoftNms.loop, if_pos none]
      exact ⟨sound, none⟩
  | case2 state left ih =>
      rw [SoftNms.loop, if_neg left]
      exact ih (sound.round isDecay positive left)

omit [IsStrictOrderedRing K] in
/-- What is left of the invariant at the end. -/
theorem Sound.honours_first_iff {n : ℕ} {first : ℕ × K} (sound : Sound n scoreThreshold first state)
    (none : state.indices = []) :
    Honours n scoreThreshold state ↔ scoreThreshold ≤ first.2 := by
  obtain ⟨later, kept, high⟩ := sound.kept
  constructor
  · intro honours
    exact honours.above first (kept ▸ List.mem_cons_self)
  · intro reaches
    refine ⟨?_, sound.falling, fun entry there => ?_, sound.below⟩
    · have account := sound.account
      rwa [none, List.append_nil, ← List.map_append] at account
    · rw [kept, List.mem_cons] at there
      rcases there with rfl | there
      · exact reaches
      · exact high entry there

/-- **Soft-NMS honours its score threshold and its order** if and only if there is no box,
or one whose score reaches the threshold to begin with. -/
theorem honours_iff (isDecay : IsDecay exp) (positive : 0 < sigma) {scores : List K}
    (nonneg : ∀ score ∈ scores, 0 ≤ score) (sameLength : scores.length = boxes.length) :
    Honours boxes.length scoreThreshold (run boxes exp sigma scoreThreshold scores) ↔
      boxes = [] ∨ ∃ score ∈ scores, scoreThreshold ≤ score := by
  unfold run
  split
  · next empty =>
      refine iff_of_true ⟨?_, List.Pairwise.nil, ?_, ?_⟩ (.inl empty)
      · rw [empty]
        exact List.Perm.refl _
      · exact fun entry there => by cases there
      · exact fun entry there => by cases there
  · next someBox =>
      have nonneg' : ∀ k, 0 ≤ scores.getD k 0 := fun k => by
        rw [List.getD_eq_getElem?_getD]
        cases found : scores[k]? with
        | none => exact le_rfl
        | some score => exact nonneg score (List.mem_of_getElem? found)
      obtain ⟨i, inside, greatest, sound⟩ :=
        sound_first scoreThreshold isDecay positive nonneg' someBox
      obtain ⟨sound, none⟩ := sound.loop isDecay positive
      rw [loop, if_neg (by simpa [start] using someBox), sound.honours_first_iff none,
        or_iff_right someBox]
      rw [← sameLength] at inside greatest
      constructor
      · intro reaches
        exact ⟨scores.getD i 0, by simp [inside], reaches⟩
      · rintro ⟨score, member, reaches⟩
        obtain ⟨j, below, rfl⟩ := List.getElem_of_mem member
        have most := greatest j below
        rw [List.getD_eq_getElem?_getD, List.getElem?_eq_getElem below, Option.getD_some] at most
        exact reaches.trans most

/-! ## Three boxes and one -/

/-- A function that decays as `np.exp` does. -/
def exampleExp (x : ℚ) : ℚ := 1 / (1 - x)

theorem isDecay_exampleExp : IsDecay exampleExp where
  pos x small := one_div_pos.mpr (by linarith)
  le_one x small := (div_le_one (by linarith)).mpr (by linarith)
  zero := by norm_num [exampleExp]

/-- Two boxes of one person and one beside them. -/
def threeBoxes : List (Box ℚ) := [unitBox 0 0, unitBox 0 0, unitBox 2 0]

/-- The loop stops after two rounds. -/
theorem run_threeBoxes :
    (run threeBoxes exampleExp (1 / 2) (1 / 5) [1 / 2, 2 / 5, 3 / 10]).keep =
        [(0, 1 / 2), (2, 3 / 10)] ∧
      (run threeBoxes exampleExp (1 / 2) (1 / 5) [1 / 2, 2 / 5, 3 / 10]).discarded.map Prod.fst =
        [1] := by
  let first := round threeBoxes exampleExp (1 / 2) (1 / 5) (start threeBoxes [1 / 2, 2 / 5, 3 / 10])
  have left : first.indices ≠ [] := by decide +kernel
  have none : (round threeBoxes exampleExp (1 / 2) (1 / 5) first).indices = [] := by decide +kernel
  have stops : run threeBoxes exampleExp (1 / 2) (1 / 5) [1 / 2, 2 / 5, 3 / 10] =
      round threeBoxes exampleExp (1 / 2) (1 / 5) first := by
    rw [run, if_neg (by decide +kernel), loop, if_neg (by decide +kernel), loop, if_neg left,
      loop, if_pos none]
  rw [stops]
  exact ⟨by decide +kernel, by decide +kernel⟩
theorem honours_threeBoxes :
    (run threeBoxes exampleExp (1 / 2) (1 / 5) [1 / 2, 2 / 5, 3 / 10]).discarded.map Prod.fst =
        [1] ∧
      Honours threeBoxes.length (1 / 5)
        (run threeBoxes exampleExp (1 / 2) (1 / 5) [1 / 2, 2 / 5, 3 / 10]) := by
  have nonneg : ∀ score ∈ [(1 / 2 : ℚ), 2 / 5, 3 / 10], 0 ≤ score := by decide +kernel
  have reaches : ∃ score ∈ [(1 / 2 : ℚ), 2 / 5, 3 / 10], 1 / 5 ≤ score :=
    ⟨1 / 2, by simp, by norm_num⟩
  exact ⟨run_threeBoxes.2,
    (honours_iff isDecay_exampleExp (by norm_num) nonneg rfl).mpr (.inr reaches)⟩

/-- **Selected below the threshold**: a single box with the score 0.0005 is returned, with
the threshold at 0.001. -/
theorem selected_below_threshold :
    softNms [unitBox 0 0] exampleExp (1 / 2) (1 / 1000) [1 / 2000] = [0] ∧
      ¬ Honours 1 (1 / 1000) (run [unitBox 0 0] exampleExp (1 / 2) (1 / 1000) [1 / 2000]) := by
  have kept : (run [unitBox 0 0] exampleExp (1 / 2) (1 / 1000) [1 / 2000]).keep =
      [(0, 1 / 2000)] := by
    simp [run, loop, round, start, pop, selected, maxIdx, argmax]
  refine ⟨by rw [softNms, kept]; rfl, fun honours => ?_⟩
  have above := honours.above (0, 1 / 2000) (kept ▸ List.mem_singleton_self _)
  norm_num at above

end SoftNms

end PersonTracking.AiService
