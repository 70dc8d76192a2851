import Mathlib.Tactic.NormNum
import PersonTracking.AiService.PersonGallery
import PersonTracking.Library.RunningMax

/-!
# The gallery with exact similarities

The gallery of `PersonGallery` over any type of embeddings, with similarities in a linear
order in place of floats that NumPy computes and the persons under UUIDs in place of their
texts.

`matchOrCreate_iff` says whom a call returns: the first of the most similar persons, if it
reaches the threshold, and a new one otherwise.  `matchOrCreate_refines` is the connection:
where NumPy's floats stand for exact similarities of embeddings of one dimension, the
gallery of floats does as the exact one.
-/

namespace PersonTracking.AiService

open Library Python

variable {E S : Type}

/-- The recent samples of each person, and the threshold. -/
structure ExactGallery (E S : Type) where
  threshold : S
  persons : OrderedDict Uuid (List E)

/-- One more sample; the oldest is dropped when there are too many. -/
def slideWindow (samples : List E) (embedding : E) : List E :=
  if maxEmbeddingsPerPerson < (samples ++ [embedding]).length then (samples ++ [embedding]).tail
  else samples ++ [embedding]

theorem addSample_eq_slideWindow : addSample = slideWindow := rfl

namespace ExactGallery

/-- The gallery nobody is in. -/
def empty (threshold : S) : ExactGallery E S where
  threshold := threshold
  persons := OrderedDict.empty

/-- The samples of a person replaced. -/
def store (gallery : ExactGallery E S) (person : Uuid) (samples : List E) : ExactGallery E S :=
  { gallery with persons := gallery.persons.set person samples }

variable [LinearOrder S] (similarity : E → List E → S) (sentinel : S)

/-- The similarity to an entry of the gallery. -/
def similarityTo (embedding : E) (entry : Uuid × List E) : S := similarity embedding entry.2

/-- `match_or_create`: the id, whether it is new, and the gallery after the call.  The
sentinel is the similarity that the search for the best begins with. -/
def matchOrCreate (gallery : ExactGallery E S) (minted : Uuid) (embedding : E) :
    (Uuid × Bool) × ExactGallery E S :=
  match runningMax (similarityTo similarity embedding) sentinel gallery.persons.entries with
  | (some (person, samples), bestSim) =>
      if gallery.threshold ≤ bestSim then
        ((person, false), gallery.store person (slideWindow samples embedding))
      else ((minted, true), gallery.store minted [embedding])
  | (none, _) => ((minted, true), gallery.store minted [embedding])

/-- One call, with a UUID that is nobody's; it is minted only for a new person. -/
def step (gallery : ExactGallery E S) (call : Uuid × E) : Option (ExactGallery E S) :=
  if call.1 ∈ gallery.persons.keys then none
  else some (gallery.matchOrCreate similarity sentinel call.1 call.2).2

variable {similarity} {sentinel} {gallery : ExactGallery E S} {minted : Uuid} {embedding : E}

theorem matchOrCreate_of_none {bestSim : S}
    (found : runningMax (similarityTo similarity embedding) sentinel gallery.persons.entries =
      (none, bestSim)) :
    gallery.matchOrCreate similarity sentinel minted embedding =
      ((minted, true), gallery.store minted [embedding]) := by
  rw [matchOrCreate, found]

theorem matchOrCreate_of_some {person : Uuid} {samples : List E} {bestSim : S}
    (found : runningMax (similarityTo similarity embedding) sentinel gallery.persons.entries =
      (some (person, samples), bestSim)) :
    gallery.matchOrCreate similarity sentinel minted embedding =
      if gallery.threshold ≤ bestSim then
        ((person, false), gallery.store person (slideWindow samples embedding))
      else ((minted, true), gallery.store minted [embedding]) := by
  rw [matchOrCreate, found]

/-- **A call finds somebody or makes a new person**: the first of the most similar ones, if
any is similar enough. -/
theorem matchOrCreate_cases (similarity : E → List E → S) (minted : Uuid) (embedding : E)
    (below : sentinel < gallery.threshold) :
    (∃ person samples, gallery.matchOrCreate similarity sentinel minted embedding =
          ((person, false), gallery.store person (slideWindow samples embedding)) ∧
        FirstGreatest (similarityTo similarity embedding) gallery.persons.entries
          (person, samples) ∧
        gallery.threshold ≤ similarity embedding samples) ∨
      (gallery.matchOrCreate similarity sentinel minted embedding =
          ((minted, true), gallery.store minted [embedding]) ∧
        ∀ entry ∈ gallery.persons.entries, similarity embedding entry.2 < gallery.threshold) := by
  rcases runningMax_cases (similarityTo similarity embedding) sentinel gallery.persons.entries with
    ⟨none, low⟩ | ⟨⟨person, samples⟩, found, -, first⟩
  · exact .inr ⟨matchOrCreate_of_none none, fun entry member => (low entry member).trans_lt below⟩
  · by_cases reached : gallery.threshold ≤ similarity embedding samples
    · refine .inl ⟨person, samples, ?_, first, reached⟩
      exact (matchOrCreate_of_some found).trans (if_pos reached)
    · refine .inr ⟨?_, fun entry member => (first.le member).trans_lt (not_le.mp reached)⟩
      exact (matchOrCreate_of_some found).trans (if_neg reached)

/-- **Best match.**  With a threshold above the sentinel, a call returns a known person if
and only if somebody's similarity reaches the threshold; the person it returns has the
greatest similarity, and stands before all others that have it; otherwise it returns the
fresh id it has minted, and every entry is as it was. -/
theorem matchOrCreate_iff (below : sentinel < gallery.threshold)
    (fresh : minted ∉ gallery.persons.keys) :
    ((gallery.matchOrCreate similarity sentinel minted embedding).1.2 = false ↔
      ∃ entry ∈ gallery.persons.entries, gallery.threshold ≤ similarity embedding entry.2) ∧
    (∀ person, (gallery.matchOrCreate similarity sentinel minted embedding).1 = (person, false) →
      ∃ before samples after, gallery.persons.entries = before ++ (person, samples) :: after ∧
        (∀ entry ∈ before, similarity embedding entry.2 < similarity embedding samples) ∧
        ∀ entry ∈ after, similarity embedding entry.2 ≤ similarity embedding samples) ∧
    ((gallery.matchOrCreate similarity sentinel minted embedding).1.2 = true →
      (gallery.matchOrCreate similarity sentinel minted embedding).1.1 = minted ∧
      (gallery.matchOrCreate similarity sentinel minted embedding).2.persons.entries =
        gallery.persons.entries ++ [(minted, [embedding])]) := by
  rcases matchOrCreate_cases similarity minted embedding below with
    ⟨person, samples, called, first, reached⟩ | ⟨called, low⟩
  · rw [called]
    refine ⟨iff_of_true rfl ⟨_, first.mem, reached⟩, fun found same => ?_, fun new => by cases new⟩
    obtain ⟨rfl, -⟩ := Prod.mk.inj same
    obtain ⟨before, after, split, less, most⟩ := first
    exact ⟨before, samples, after, split, less, most⟩
  · rw [called]
    refine ⟨iff_of_false Bool.true_eq_false_eq_False ?_, fun found same => ?_, fun _ => ⟨rfl, ?_⟩⟩
    · rintro ⟨entry, member, reached⟩
      exact absurd (low entry member) (not_lt.mpr reached)
    · cases same
    · exact OrderedDict.entries_set_of_notMem fresh

/-- Vectors of the plane compared with a person's only sample. -/
def exampleSimilarity (embedding : ℚ × ℚ) (samples : List (ℚ × ℚ)) : ℚ :=
  let sample := samples.headD (0, 0)
  embedding.1 * sample.1 + embedding.2 * sample.2

/-- A gallery of two persons whose samples are orthogonal. -/
def exampleGallery : ExactGallery (ℚ × ℚ) ℚ where
  threshold := 3 / 4
  persons := (OrderedDict.empty.set (.ofNat 1) [(1, 0)]).set (.ofNat 2) [(0, 1)]

theorem matchOrCreate_iff_example :
    (exampleGallery.matchOrCreate exampleSimilarity (-1) (.ofNat 3) (0, 1)).1.2 = false ↔
      ∃ entry ∈ exampleGallery.persons.entries,
        exampleGallery.threshold ≤ exampleSimilarity (0, 1) entry.2 :=
  (matchOrCreate_iff (by norm_num [exampleGallery]) (by decide)).1

/-- The gallery keeps its persons in the order in which they were created. -/
theorem keys_matchOrCreate (below : sentinel < gallery.threshold)
    (fresh : minted ∉ gallery.persons.keys) :
    (gallery.matchOrCreate similarity sentinel minted embedding).2.persons.keys =
      if (gallery.matchOrCreate similarity sentinel minted embedding).1.2 then
        gallery.persons.keys ++ [minted]
      else gallery.persons.keys := by
  rcases matchOrCreate_cases similarity minted embedding below with
    ⟨person, samples, called, first, -⟩ | ⟨called, -⟩
  · rw [called]
    exact OrderedDict.map_fst_assign_of_mem (List.mem_map_of_mem first.mem)
  · rw [called]
    show ((gallery.persons.set minted [embedding]).entries).map Prod.fst = _
    rw [OrderedDict.entries_set_of_notMem fresh, List.map_append]
    rfl

/-! ## The gallery of floats -/

/-- The samples of a person: there are some, all of one dimension. -/
def Shaped (dimension : ℕ) (samples : List Embedding) : Prop :=
  samples ≠ [] ∧ ∀ sample ∈ samples, sample.length = dimension

/-- NumPy's floats stand for exact similarities: a comparison of a sample with an average
of others of its dimension gives a finite number, and numbers compare as what they stand for. -/
structure Reads (numpy : Numpy) (value : PyFloat → S) (dimension : ℕ)
    (similarity : Embedding → List Embedding → S) : Prop where
  similarity : ∀ embedding samples, embedding.length = dimension → Shaped dimension samples →
    ∃ sim, (do
      let avgEmb ← averageEmbeddings numpy samples
      cosineSimilarity numpy embedding avgEmb) = .ok sim ∧
    sim.isFinite = true ∧ value sim = similarity embedding samples
  lt : ∀ x y, x.isFinite = true → y.isFinite = true → (x.lt y = true ↔ value x < value y)
  le : ∀ x y, x.isFinite = true → y.isFinite = true → (x.le y = true ↔ value x ≤ value y)

theorem floats_of_none {numpy : Numpy} {floats : PersonGallery} {embedding : Embedding}
    {bestSim : PyFloat} (found : bestMatch numpy embedding floats.persons.entries
      (none, .finite true 1 0) = .ok (none, bestSim)) :
    floats.matchOrCreate numpy minted embedding =
      .ok ((minted.toText, true), floats.store minted.toText [embedding]) := by
  rw [PersonGallery.matchOrCreate, found]
  rfl

theorem floats_of_some {numpy : Numpy} {floats : PersonGallery} {embedding : Embedding}
    {person : Uuid} {samples : List Embedding} {bestSim : PyFloat}
    (found : bestMatch numpy embedding floats.persons.entries (none, .finite true 1 0) =
      .ok (some person.toText, bestSim))
    (stored : floats.persons.get? person.toText = some samples) :
    floats.matchOrCreate numpy minted embedding =
      if floats.threshold.le bestSim then
        .ok ((person.toText, false), floats.store person.toText (addSample samples embedding))
      else .ok ((minted.toText, true), floats.store minted.toText [embedding]) := by
  rw [PersonGallery.matchOrCreate, found]
  simp only [bind, Except.bind, ne_eq, Uuid.toText_ne_empty, not_false_eq_true, true_and, stored]

/-- A gallery of floats that stands for an exact one. -/
structure Stands (value : PyFloat → S) (dimension : ℕ) (floats : PersonGallery)
    (exact : ExactGallery Embedding S) : Prop where
  threshold : floats.threshold.isFinite = true ∧ value floats.threshold = exact.threshold
  entries : floats.persons.entries = exact.persons.entries.map (Prod.map Uuid.toText id)
  shaped : ∀ entry ∈ exact.persons.entries, Shaped dimension entry.2

/-- An assignment under an injective renaming of the keys. -/
theorem map_assign {V : Type} (person : Uuid) (v : V) (entries : List (Uuid × V)) :
    OrderedDict.assign person.toText v (entries.map (Prod.map Uuid.toText id)) =
      (OrderedDict.assign person v entries).map (Prod.map Uuid.toText id) := by
  induction entries with
  | nil => rfl
  | cons entry rest ih =>
      by_cases same : entry.1 = person
      · simp [OrderedDict.assign, same]
      · have other : entry.1.toText ≠ person.toText := fun text => same (Uuid.toText_injective text)
        simp [OrderedDict.assign, same, other, ih]

theorem Shaped.slideWindow {dimension : ℕ} {samples : List Embedding} {embedding : Embedding}
    (shaped : Shaped dimension samples) (long : embedding.length = dimension) :
    Shaped dimension (slideWindow samples embedding) := by
  have every : ∀ sample ∈ samples ++ [embedding], sample.length = dimension := by
    intro sample member
    rcases List.mem_append.mp member with before | last
    · exact shaped.2 sample before
    · rw [List.mem_singleton.mp last, long]
  unfold AiService.slideWindow
  split
  · next full =>
      refine ⟨fun none => ?_, fun sample member => every sample (List.mem_of_mem_tail member)⟩
      have short := congrArg List.length none
      rw [List.length_tail, List.length_nil] at short
      unfold maxEmbeddingsPerPerson at full
      omega
  · exact ⟨by simp, every⟩

omit [LinearOrder S] in
theorem Stands.store {value : PyFloat → S} {dimension : ℕ} {floats : PersonGallery}
    {exact : ExactGallery Embedding S} (stands : Stands value dimension floats exact)
    (person : Uuid) {samples : List Embedding} (shaped : Shaped dimension samples) :
    Stands value dimension (floats.store person.toText samples) (exact.store person samples) where
  threshold := stands.threshold
  entries := by
    show OrderedDict.assign _ _ floats.persons.entries = _
    rw [stands.entries, map_assign]
    rfl
  shaped entry member := by
    rcases OrderedDict.of_mem_entries_set member with rfl | kept
    · exact shaped
    · exact stands.shaped entry kept

/-- The loop over the gallery, with floats. -/
theorem Reads.bestMatch {numpy : Numpy} {value : PyFloat → S} {dimension : ℕ}
    {similarity : Embedding → List Embedding → S} (reads : Reads numpy value dimension similarity)
    {embedding : Embedding} (long : embedding.length = dimension)
    {entries : List (Uuid × List Embedding)} (shaped : ∀ entry ∈ entries, Shaped dimension entry.2)
    {best : Option (Uuid × List Embedding)} {bestSim : PyFloat} (number : bestSim.isFinite = true) :
    ∃ sim, bestMatch numpy embedding (entries.map (Prod.map Uuid.toText id))
        (best.map fun entry => entry.1.toText, bestSim) =
          .ok ((entries.foldl (keepGreater (similarityTo similarity embedding))
            (best, value bestSim)).1.map fun entry => entry.1.toText, sim) ∧
      sim.isFinite = true ∧
        value sim = (entries.foldl (keepGreater (similarityTo similarity embedding))
          (best, value bestSim)).2 := by
  induction entries generalizing best bestSim with
  | nil => exact ⟨bestSim, rfl, number, rfl⟩
  | cons entry rest ih =>
      obtain ⟨person, samples⟩ := entry
      have later : ∀ entry ∈ rest, Shaped dimension entry.2 :=
        fun entry member => shaped entry (List.mem_cons_of_mem _ member)
      obtain ⟨sim, compared, isNumber, same⟩ :=
        reads.similarity embedding samples long (shaped _ List.mem_cons_self)
      obtain ⟨average, averaged, compared⟩ := exists_of_bind_eq_ok compared
      have step : PersonTracking.AiService.bestMatch numpy embedding
          (((person, samples) :: rest).map (Prod.map Uuid.toText id))
            (best.map fun entry => entry.1.toText, bestSim) =
          PersonTracking.AiService.bestMatch numpy embedding (rest.map (Prod.map Uuid.toText id))
            (if bestSim.lt sim then (some person.toText, sim)
              else (best.map fun entry => entry.1.toText, bestSim)) := by
        rw [List.map_cons, Prod.map_apply, PersonTracking.AiService.bestMatch, id, averaged]
        show (cosineSimilarity numpy embedding average >>= _) = _
        rw [compared]
        rfl
      rw [step, List.foldl_cons, keepGreater, similarityTo, ← same]
      by_cases better : value bestSim < value sim
      · rw [if_pos better, if_pos ((reads.lt _ _ number isNumber).mpr better)]
        exact @ih later (some (person, samples)) sim isNumber
      · rw [if_neg better, if_neg (mt (reads.lt _ _ number isNumber).mp better)]
        exact @ih later best bestSim number

/-- **The gallery of floats does as the exact one**, where NumPy's floats stand for exact
similarities: the two return the same person, as new or known, and stand for each other
after the call. -/
theorem matchOrCreate_refines {numpy : Numpy} {value : PyFloat → S} {dimension : ℕ}
    {similarity : Embedding → List Embedding → S} (reads : Reads numpy value dimension similarity)
    {floats : PersonGallery} {exact : ExactGallery Embedding S}
    (stands : Stands value dimension floats exact) (minted : Uuid) {embedding : Embedding}
    (long : embedding.length = dimension) :
    ∃ after, floats.matchOrCreate numpy minted embedding =
        .ok (((exact.matchOrCreate similarity (value (.finite true 1 0)) minted embedding).1.map
          Uuid.toText id), after) ∧
      Stands value dimension after
        (exact.matchOrCreate similarity (value (.finite true 1 0)) minted embedding).2 := by
  have alone : Shaped dimension [embedding] :=
    ⟨List.cons_ne_nil _ _, fun sample member => by rw [List.mem_singleton.mp member, long]⟩
  obtain ⟨sim, found, isNumber, same⟩ := @Reads.bestMatch _ _ _ _ _ _ reads embedding long
    exact.persons.entries stands.shaped none (.finite true 1 0) rfl
  have search := runningMax_cases (similarityTo similarity embedding) (value (.finite true 1 0))
    exact.persons.entries
  rw [← runningMax] at found same
  rw [Option.map_none, ← stands.entries] at found
  rcases search with ⟨none, -⟩ | ⟨⟨person, samples⟩, best, -, first⟩
  · rw [none] at found
    rw [matchOrCreate_of_none none]
    exact ⟨_, floats_of_none found, stands.store minted alone⟩
  · rw [best] at found same
    have stored : floats.persons.get? person.toText = some samples := by
      refine OrderedDict.get?_of_mem ?_
      rw [stands.entries]
      exact List.mem_map.mpr ⟨_, first.mem, rfl⟩
    have reaches : floats.threshold.le sim = true ↔
        exact.threshold ≤ similarityTo similarity embedding (person, samples) := by
      rw [reads.le _ _ stands.threshold.1 isNumber, stands.threshold.2, same]
    rw [matchOrCreate_of_some best, floats_of_some found stored]
    by_cases enough : exact.threshold ≤ similarityTo similarity embedding (person, samples)
    · rw [if_pos enough, if_pos (reaches.mpr enough)]
      exact ⟨_, rfl, stands.store person ((stands.shaped _ first.mem).slideWindow long)⟩
    · rw [if_neg enough, if_neg (mt reaches.mp enough)]
      exact ⟨_, rfl, stands.store minted alone⟩

/-! ### Equal or orthogonal -/

/-- The number a float stands for. -/
def decimalValue : PyFloat → ℚ
  | .finite negative mantissa exponent =>
      (if negative then -1 else 1) * mantissa * (10 : ℚ) ^ exponent
  | _ => 0

/-- In smaller units a float has the same value. -/
theorem scaled_mul {negative : Bool} {mantissa : ℕ} {exponent exponent' : ℤ}
    (smaller : exponent' ≤ exponent) :
    (PyFloat.scaled negative mantissa exponent exponent' : ℚ) * (10 : ℚ) ^ exponent' =
      decimalValue (.finite negative mantissa exponent) := by
  have units : (10 : ℚ) ^ (exponent - exponent').toNat * 10 ^ exponent' = 10 ^ exponent := by
    rw [← zpow_natCast, Int.toNat_of_nonneg (by omega), ← zpow_add₀ (by norm_num)]
    congr 1
    omega
  cases negative with
  | false =>
      simp only [PyFloat.scaled, decimalValue, Bool.false_eq_true, if_false]
      push_cast
      rw [mul_assoc, units, one_mul]
  | true =>
      simp only [PyFloat.scaled, decimalValue, if_true]
      push_cast
      rw [neg_mul, mul_assoc, units]
      ring

theorem lt_iff_decimalValue {x y : PyFloat} (first : x.isFinite = true)
    (second : y.isFinite = true) : x.lt y = true ↔ decimalValue x < decimalValue y := by
  cases x with
  | inf _ | nan => cases first
  | finite s m e =>
      cases y with
      | inf _ | nan => cases second
      | finite s' m' e' =>
          have unit : (0 : ℚ) < 10 ^ min e e' := zpow_pos (by norm_num) _
          rw [← scaled_mul (min_le_left e e'), ← scaled_mul (min_le_right e e'),
            mul_lt_mul_iff_left₀ unit, Int.cast_lt]
          exact decide_eq_true_iff

theorem le_iff_decimalValue {x y : PyFloat} (first : x.isFinite = true)
    (second : y.isFinite = true) : x.le y = true ↔ decimalValue x ≤ decimalValue y := by
  cases x with
  | inf _ | nan => cases first
  | finite s m e =>
      cases y with
      | inf _ | nan => cases second
      | finite s' m' e' =>
          have unit : (0 : ℚ) < 10 ^ min e e' := zpow_pos (by norm_num) _
          rw [← scaled_mul (min_le_left e e'), ← scaled_mul (min_le_right e e'),
            mul_le_mul_iff_left₀ unit, Int.cast_le]
          exact decide_eq_true_iff

/-- The similarity of unit vectors that are equal or orthogonal. -/
def sameOrNot (embedding : Embedding) (samples : List Embedding) : ℚ :=
  if embedding = samples.headD [] then 1 else 0

/-- The floats of `exampleNumpy` stand for it. -/
theorem reads_exampleNumpy (dimension : ℕ) :
    Reads exampleNumpy decimalValue dimension sameOrNot where
  similarity embedding samples _ shaped := by
    have averaged : averageEmbeddings exampleNumpy samples = .ok (samples.headD []) := by
      rw [averageEmbeddings, if_neg shaped.1]
      rfl
    refine ⟨if embedding = samples.headD [] then .finite false 1 0 else .finite false 0 0,
      ?_, ?_, ?_⟩
    · rw [averaged]
      rfl
    · split <;> rfl
    · unfold sameOrNot
      split
      · norm_num [decimalValue]
      · norm_num [decimalValue]
  lt _ _ first second := lt_iff_decimalValue first second
  le _ _ first second := le_iff_decimalValue first second

omit [LinearOrder S] in
theorem stands_empty {value : PyFloat → S} {threshold : PyFloat} (dimension : ℕ)
    (number : threshold.isFinite = true) :
    Stands value dimension (.empty threshold) (.empty (value threshold)) where
  threshold := ⟨number, rfl⟩
  entries := rfl
  shaped _ member := by cases member

example : ∃ after, (PersonGallery.empty AiService.matchThreshold).matchOrCreate exampleNumpy
    (.ofNat 1) firstUnit = .ok (((Uuid.ofNat 1).toText, true), after) := by
  obtain ⟨after, called, -⟩ := matchOrCreate_refines (reads_exampleNumpy 2)
    (stands_empty 2 (rfl : AiService.matchThreshold.isFinite = true)) (.ofNat 1)
    (rfl : firstUnit.length = 2)
  exact ⟨after, called⟩

end ExactGallery

end PersonTracking.AiService
