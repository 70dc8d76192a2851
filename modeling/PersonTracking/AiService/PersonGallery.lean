import Mathlib.Data.List.DropRight
import PersonTracking.Library.OrderedDict
import PersonTracking.Library.Transition
import PersonTracking.Python.Json
import PersonTracking.Python.Uuid

/-!
# The gallery of known persons

`PersonGallery.match_or_create` compares an embedding with the average of each
person's samples and either adds it to the best match or makes a new person of
it.  NumPy is an argument: what the vectors are and how they compare decides
who is matched, and nothing below depends on it.

`samples_exact` is the outcome for whole runs: the ids are those returned so
far, and under each id are the last ten embeddings whose calls returned it.
-/

namespace PersonTracking.AiService

open Library Python

/-- An embedding as the extractor returns it. -/
abbrev Embedding := List PyFloat

/-- The part of NumPy that compares embeddings: `np.array` of a list and of a
list of lists, `np.dot`, `mean(axis=0)`, `np.linalg.norm`, division by a number and
`tolist`.  Shapes that do not fit raise. -/
structure Numpy where
  Vector : Type
  Matrix : Type
  array : Embedding → Vector
  stack : List Embedding → Except PyError Matrix
  dot : Vector → Vector → Except PyError PyFloat
  mean : Matrix → Vector
  norm : Vector → PyFloat
  divide : Vector → PyFloat → Vector
  tolist : Vector → Embedding

section Numpy

variable (numpy : Numpy)

/-- `cosine_similarity`. -/
def cosineSimilarity (a b : Embedding) : Except PyError PyFloat :=
  numpy.dot (numpy.array a) (numpy.array b)

/-- `average_embeddings`; `1e-12` is the norm below which nothing is divided. -/
def averageEmbeddings (embeddings : List Embedding) : Except PyError Embedding := do
  if embeddings = [] then return []
  let arr ← numpy.stack embeddings
  let meanVec := numpy.mean arr
  let norm := numpy.norm meanVec
  if norm.lt (.finite false 1 (-12)) then return numpy.tolist meanVec
  return numpy.tolist (numpy.divide meanVec norm)

end Numpy

/-- `MATCH_THRESHOLD`. -/
def matchThreshold : PyFloat := .finite false 75 (-2)

/-- `MAX_EMBEDDINGS_PER_PERSON`. -/
def maxEmbeddingsPerPerson : ℕ := 10

/-- A gallery: the recent samples of each person, under its id. -/
structure PersonGallery where
  threshold : PyFloat
  persons : OrderedDict String (List Embedding)

/-- The gallery nobody is in. -/
def PersonGallery.empty (threshold : PyFloat) : PersonGallery where
  threshold := threshold
  persons := OrderedDict.empty

/-- One more sample; the oldest is dropped when there are too many. -/
def addSample (samples : List Embedding) (embedding : Embedding) : List Embedding :=
  if maxEmbeddingsPerPerson < (samples ++ [embedding]).length then (samples ++ [embedding]).tail
  else samples ++ [embedding]

/-- The loop over the gallery: the best id so far with its similarity. -/
def bestMatch (numpy : Numpy) (embedding : Embedding) :
    List (String × List Embedding) → Option String × PyFloat →
      Except PyError (Option String × PyFloat)
  | [], best => .ok best
  | (personId, embeddings) :: rest, best => do
      let avgEmb ← averageEmbeddings numpy embeddings
      let sim ← cosineSimilarity numpy embedding avgEmb
      bestMatch numpy embedding rest (if best.2.lt sim then (some personId, sim) else best)

/-- The samples of a person replaced. -/
def PersonGallery.store (gallery : PersonGallery) (personId : String)
    (samples : List Embedding) : PersonGallery :=
  { gallery with persons := gallery.persons.set personId samples }

/-- `match_or_create`: the id, whether it is new, and the gallery after the call.
`minted` is the UUID `uuid.uuid4` has to give; a call that raises changes nothing. -/
def PersonGallery.matchOrCreate (numpy : Numpy) (gallery : PersonGallery) (minted : Uuid)
    (embedding : Embedding) : Except PyError ((String × Bool) × PersonGallery) := do
  let (bestId, bestSim) ←
    bestMatch numpy embedding gallery.persons.entries (none, .finite true 1 0)
  let newPerson := ((minted.toText, true), gallery.store minted.toText [embedding])
  match bestId with
  | some personId =>
      if personId ≠ "" ∧ gallery.threshold.le bestSim then
        match gallery.persons.get? personId with
        | none => .error (.keyError personId)
        | some samples =>
            .ok ((personId, false), gallery.store personId (addSample samples embedding))
      else .ok newPerson
  | none => .ok newPerson

/-! ## What a call does -/

section Call

variable {numpy : Numpy} {gallery after : PersonGallery} {minted : Uuid} {embedding : Embedding}
  {personId : String} {isNew : Bool}

@[simp] theorem get?_store (gallery : PersonGallery) (personId other : String)
    (samples : List Embedding) :
    (gallery.store personId samples).persons.get? other =
      if personId = other then some samples else gallery.persons.get? other :=
  OrderedDict.get?_set _ _ _ _

@[simp] theorem mem_keys_store {gallery : PersonGallery} {personId other : String}
    {samples : List Embedding} :
    other ∈ (gallery.store personId samples).persons.keys ↔
      other = personId ∨ other ∈ gallery.persons.keys := OrderedDict.mem_keys_set

/-- **A call adds a sample to somebody or makes a new person.** -/
theorem matchOrCreate_cases
    (returned : gallery.matchOrCreate numpy minted embedding = .ok ((personId, isNew), after)) :
    (isNew = false ∧ personId ≠ "" ∧ ∃ samples, gallery.persons.get? personId = some samples ∧
        after = gallery.store personId (addSample samples embedding)) ∨
      (isNew = true ∧ personId = minted.toText ∧ after = gallery.store personId [embedding]) := by
  obtain ⟨⟨bestId, bestSim⟩, -, chosen⟩ := exists_of_bind_eq_ok returned
  have created : ∀ {id : String} {new : Bool} {next : PersonGallery},
      ((minted.toText, true), gallery.store minted.toText [embedding]) = ((id, new), next) →
        new = true ∧ id = minted.toText ∧ next = gallery.store id [embedding] := by
    intro id new next same
    rw [Prod.mk.injEq, Prod.mk.injEq] at same
    obtain ⟨⟨rfl, rfl⟩, rfl⟩ := same
    exact ⟨rfl, rfl, rfl⟩
  cases bestId with
  | none => exact Or.inr (created (Except.ok.inj chosen))
  | some best =>
      simp only at chosen
      split at chosen
      · rename_i named
        split at chosen
        · cases chosen
        · rename_i samples found
          have same := Except.ok.inj chosen
          rw [Prod.mk.injEq, Prod.mk.injEq] at same
          obtain ⟨⟨rfl, rfl⟩, rfl⟩ := same
          exact Or.inl ⟨rfl, named.1, samples, found, rfl⟩
      · exact Or.inr (created (Except.ok.inj chosen))

/-- A returned id has a text. -/
theorem ne_empty_of_matchOrCreate
    (returned : gallery.matchOrCreate numpy minted embedding = .ok ((personId, isNew), after)) :
    personId ≠ "" := by
  rcases matchOrCreate_cases returned with ⟨-, named, -⟩ | ⟨-, rfl, -⟩
  · exact named
  · exact Uuid.toText_ne_empty minted

/-- **Nobody else is touched.** -/
theorem get?_matchOrCreate_of_ne
    (returned : gallery.matchOrCreate numpy minted embedding = .ok ((personId, isNew), after))
    {other : String} (different : other ≠ personId) :
    after.persons.get? other = gallery.persons.get? other := by
  rcases matchOrCreate_cases returned with ⟨-, -, samples, -, rfl⟩ | ⟨-, -, rfl⟩
  · rw [get?_store, if_neg (Ne.symm different)]
  · rw [get?_store, if_neg (Ne.symm different)]

end Call

/-- The last samples of a history, with one more. -/
theorem addSample_rtake (history : List Embedding) (embedding : Embedding) :
    addSample (history.rtake maxEmbeddingsPerPerson) embedding =
      (history ++ [embedding]).rtake maxEmbeddingsPerPerson := by
  unfold addSample List.rtake maxEmbeddingsPerPerson
  by_cases full : 10 ≤ history.length
  · have long : 10 < (history.drop (history.length - 10) ++ [embedding]).length := by
      rw [List.length_append, List.length_drop, List.length_singleton]
      omega
    have next : (history ++ [embedding]).length - 10 = history.length - 10 + 1 := by
      rw [List.length_append, List.length_singleton]
      omega
    have kept : 1 ≤ (history.drop (history.length - 10)).length := by
      rw [List.length_drop]
      omega
    rw [if_pos long, next, ← List.drop_one, List.drop_append_of_le_length kept, List.drop_drop,
      List.drop_append_of_le_length (by omega : history.length - 10 + 1 ≤ history.length)]
  · have start : history.length - 10 = 0 := by omega
    have start' : (history ++ [embedding]).length - 10 = 0 := by
      rw [List.length_append, List.length_singleton]
      omega
    have short : ¬ 10 < (history ++ [embedding]).length := by
      rw [List.length_append, List.length_singleton]
      omega
    rw [start, start', List.drop_zero, List.drop_zero, if_neg short]

/-! ## Runs -/

/-- A call that has returned. -/
structure Returned where
  embedding : Embedding
  personId : String
  isNew : Bool
deriving DecidableEq

/-- A gallery with the calls that have returned, in call order. -/
structure GalleryRun where
  gallery : PersonGallery
  returned : List Returned

namespace GalleryRun

/-- An empty gallery nobody has called. -/
def start (threshold : PyFloat) : GalleryRun where
  gallery := PersonGallery.empty threshold
  returned := []

/-- One call, with the UUID it would mint.  One that raises returns nothing. -/
def step (numpy : Numpy) (run : GalleryRun) (call : Uuid × Embedding) : Option GalleryRun :=
  match run.gallery.matchOrCreate numpy call.1 call.2 with
  | .error _ => some run
  | .ok ((personId, isNew), gallery) =>
      some { gallery, returned := run.returned ++ [⟨call.2, personId, isNew⟩] }

/-- A UUID that is minted is nobody's. -/
def Fresh (numpy : Numpy) (run : GalleryRun) (call : Uuid × Embedding) : Prop :=
  ∀ personId gallery, run.gallery.matchOrCreate numpy call.1 call.2 =
    .ok ((personId, true), gallery) → personId ∉ run.gallery.persons.keys

/-- The embeddings whose calls returned an id, in call order. -/
def samplesOf (run : GalleryRun) (personId : String) : List Embedding :=
  (run.returned.filter fun call => call.personId = personId).map Returned.embedding

/-- **The gallery holds what was returned**: the ids are the returned ones, a call
is new where it returned its id first, and under each id are its last ten samples. -/
structure Exact (run : GalleryRun) : Prop where
  ids : ∀ personId, personId ∈ run.gallery.persons.keys ↔
    ∃ call ∈ run.returned, call.personId = personId
  new : ∀ before call later, run.returned = before ++ call :: later →
    (call.isNew = true ↔ ∀ earlier ∈ before, earlier.personId ≠ call.personId)
  samples : ∀ personId ∈ run.gallery.persons.keys,
    run.gallery.persons.get? personId =
      some ((run.samplesOf personId).rtake maxEmbeddingsPerPerson)

theorem exact_start (threshold : PyFloat) : Exact (start threshold) where
  ids personId := by simp [start, PersonGallery.empty, OrderedDict.empty, OrderedDict.keys]
  new before call later split := by simp [start] at split
  samples personId member := by
    simp [start, PersonGallery.empty, OrderedDict.empty, OrderedDict.keys] at member

/-- A run with one more returned call. -/
def record (run : GalleryRun) (gallery : PersonGallery) (call : Returned) : GalleryRun where
  gallery := gallery
  returned := run.returned ++ [call]

theorem samplesOf_record (run : GalleryRun) (gallery : PersonGallery) (call : Returned)
    (personId : String) :
    (run.record gallery call).samplesOf personId =
      if call.personId = personId then run.samplesOf personId ++ [call.embedding]
      else run.samplesOf personId := by
  rw [samplesOf, record, List.filter_append, List.map_append]
  by_cases same : call.personId = personId
  · simp [same, samplesOf]
  · simp [same, samplesOf]

theorem samplesOf_eq_nil {run : GalleryRun} {personId : String}
    (unknown : ∀ call ∈ run.returned, call.personId ≠ personId) : run.samplesOf personId = [] := by
  rw [samplesOf, List.filter_eq_nil_iff.mpr fun call member => by simpa using unknown call member,
    List.map_nil]

/-- What the next returned call has to meet. -/
theorem Exact.record {run : GalleryRun} {gallery : PersonGallery} {call : Returned}
    (exact : Exact run)
    (keys : ∀ personId, personId ∈ gallery.persons.keys ↔
      personId = call.personId ∨ personId ∈ run.gallery.persons.keys)
    (others : ∀ personId, personId ≠ call.personId →
      gallery.persons.get? personId = run.gallery.persons.get? personId)
    (isNew : call.isNew = true ↔ call.personId ∉ run.gallery.persons.keys)
    (stored : gallery.persons.get? call.personId =
      some ((run.samplesOf call.personId ++ [call.embedding]).rtake maxEmbeddingsPerPerson)) :
    Exact (run.record gallery call) where
  ids personId := by
    show personId ∈ gallery.persons.keys ↔ ∃ other ∈ run.returned ++ [call], _
    rw [keys, exact.ids]
    simp only [List.mem_append, List.mem_singleton, or_and_right, exists_or, exists_eq_left]
    rw [or_comm, eq_comm]
  new before other later split := by
    change run.returned ++ [call] = before ++ other :: later at split
    rcases List.eq_nil_or_concat later with rfl | ⟨front, last, rfl⟩
    · obtain ⟨rfl, same⟩ := List.append_inj' split rfl
      obtain rfl := (List.cons.inj same).1
      rw [isNew, exact.ids]
      simp
    · rw [List.concat_eq_append, ← List.cons_append, ← List.append_assoc] at split
      exact exact.new before other front (List.append_inj' split rfl).1
  samples personId member := by
    rw [samplesOf_record]
    by_cases same : call.personId = personId
    · rw [if_pos same, ← same]
      exact stored
    · rw [if_neg same]
      show gallery.persons.get? personId = _
      rw [others personId (Ne.symm same)]
      exact exact.samples personId (((keys personId).mp member).resolve_left (Ne.symm same))

/-- **One call keeps the gallery exact.** -/
theorem Exact.step {numpy : Numpy} {run after : GalleryRun} {call : Uuid × Embedding}
    (exact : Exact run) (fresh : run.Fresh numpy call) (called : run.step numpy call = some after) :
    Exact after := by
  unfold GalleryRun.step at called
  split at called
  · cases called
    exact exact
  · rename_i personId isNew gallery returned
    cases called
    rcases matchOrCreate_cases returned with ⟨rfl, -, samples, found, rfl⟩ | ⟨rfl, rfl, rfl⟩
    · have known : personId ∈ run.gallery.persons.keys := by
        by_contra unknown
        rw [OrderedDict.get?_of_notMem unknown] at found
        cases found
      refine exact.record (fun other => mem_keys_store)
        (fun other different => get?_matchOrCreate_of_ne returned different)
        (iff_of_false Bool.false_ne_true (not_not.mpr known)) ?_
      rw [exact.samples personId known, Option.some.injEq] at found
      rw [get?_store, if_pos rfl, ← found, addSample_rtake]
    · have unknown : ∀ other ∈ run.returned, other.personId ≠ call.1.toText := by
        intro other member same
        exact fresh _ _ returned ((exact.ids _).mpr ⟨other, member, same⟩)
      refine exact.record (fun other => mem_keys_store)
        (fun other different => get?_matchOrCreate_of_ne returned different)
        (iff_of_true rfl (fresh _ _ returned)) ?_
      rw [get?_store, if_pos rfl, samplesOf_eq_nil unknown]
      rfl

end GalleryRun

/-- **The gallery holds the last ten samples of each person**, over every run of calls
on an empty gallery: it is exact, no list is empty or longer than ten, and whatever
the next call returns, it touches nobody else. -/
theorem samples_exact (numpy : Numpy) (threshold : PyFloat) {calls : List (Uuid × Embedding)}
    {after : GalleryRun}
    (fresh : Meets (GalleryRun.Fresh numpy) (GalleryRun.step numpy) (GalleryRun.start threshold)
      calls)
    (reached : runFrom (GalleryRun.step numpy) (GalleryRun.start threshold) calls = some after) :
    after.Exact ∧
      (∀ personId ∈ after.gallery.persons.keys, ∃ samples,
        after.gallery.persons.get? personId = some samples ∧ samples ≠ [] ∧
          samples.length ≤ maxEmbeddingsPerPerson) ∧
      ∀ minted embedding personId isNew gallery,
        after.gallery.matchOrCreate numpy minted embedding = .ok ((personId, isNew), gallery) →
          ∀ other, other ≠ personId →
            gallery.persons.get? other = after.gallery.persons.get? other := by
  have exact : after.Exact := runFrom_invariant_of_meets
    (fun run call next exact fresh called => exact.step fresh called)
    (GalleryRun.exact_start threshold) fresh reached
  refine ⟨exact, fun personId member => ?_, fun _ _ _ _ _ returned _ different =>
    get?_matchOrCreate_of_ne returned different⟩
  obtain ⟨call, inside, same⟩ := (exact.ids personId).mp member
  have sampled : call.embedding ∈ after.samplesOf personId :=
    List.mem_map_of_mem (List.mem_filter.mpr ⟨inside, by simpa using same⟩)
  have positive := List.length_pos_of_mem sampled
  have length : ((after.samplesOf personId).rtake maxEmbeddingsPerPerson).length =
      min (after.samplesOf personId).length maxEmbeddingsPerPerson := by
    rw [List.rtake, List.length_drop]
    omega
  refine ⟨_, exact.samples personId member, fun empty => ?_, length ▸ min_le_right _ _⟩
  rw [empty, List.length_nil] at length
  unfold maxEmbeddingsPerPerson at length
  omega

/-! ## Two people in front of a camera -/

/-- NumPy on vectors that are equal or orthogonal and of length one. -/
def exampleNumpy : Numpy where
  Vector := Embedding
  Matrix := List Embedding
  array := id
  stack := .ok
  dot a b := .ok (if a = b then .finite false 1 0 else .finite false 0 0)
  mean rows := rows.headD []
  norm _ := .finite false 1 0
  divide vector _ := vector
  tolist := id

/-- The first unit vector of the plane. -/
def firstUnit : Embedding := [.finite false 1 0, .finite false 0 0]

/-- The second one. -/
def secondUnit : Embedding := [.finite false 0 0, .finite false 1 0]

/-- The first person twice, then the second. -/
def exampleCalls : List (Uuid × Embedding) :=
  [(.ofNat 1, firstUnit), (.ofNat 2, firstUnit), (.ofNat 3, secondUnit)]

/-- The gallery after these calls. -/
def exampleRun : GalleryRun :=
  (runFrom (GalleryRun.step exampleNumpy) (GalleryRun.start matchThreshold) exampleCalls).getD
    (GalleryRun.start matchThreshold)

example : exampleRun.returned.map Returned.isNew = [true, false, true] := by decide +kernel

/-- A UUID that is nobody's may be minted. -/
theorem fresh_of_notMem {numpy : Numpy} {run : GalleryRun} {call : Uuid × Embedding}
    (unknown : call.1.toText ∉ run.gallery.persons.keys) : run.Fresh numpy call := by
  intro personId gallery returned
  rcases matchOrCreate_cases returned with ⟨wrong, -⟩ | ⟨-, rfl, -⟩
  · cases wrong
  · exact unknown

theorem fresh_exampleCalls : Meets (GalleryRun.Fresh exampleNumpy) (GalleryRun.step exampleNumpy)
    (GalleryRun.start matchThreshold) exampleCalls := by
  have unknown : Meets (fun run (call : Uuid × Embedding) =>
      call.1.toText ∉ run.gallery.persons.keys) (GalleryRun.step exampleNumpy)
        (GalleryRun.start matchThreshold) exampleCalls := by
    decide +kernel
  exact meets_of_invariant (I := fun _ => True) (fun _ _ _ _ _ _ => trivial)
    (fun run call _ unknown => fresh_of_notMem unknown) trivial unknown

theorem reached_exampleRun : runFrom (GalleryRun.step exampleNumpy)
    (GalleryRun.start matchThreshold) exampleCalls = some exampleRun := by
  have returns : (runFrom (GalleryRun.step exampleNumpy) (GalleryRun.start matchThreshold)
      exampleCalls).isSome = true := by decide +kernel
  obtain ⟨after, reached⟩ := Option.isSome_iff_exists.mp returns
  rw [exampleRun, reached, Option.getD_some]

theorem samples_exact_example :
    exampleRun.Exact ∧
      (∀ personId ∈ exampleRun.gallery.persons.keys, ∃ samples,
        exampleRun.gallery.persons.get? personId = some samples ∧ samples ≠ [] ∧
          samples.length ≤ maxEmbeddingsPerPerson) ∧
      ∀ minted embedding personId isNew gallery,
        exampleRun.gallery.matchOrCreate exampleNumpy minted embedding =
          .ok ((personId, isNew), gallery) →
            ∀ other, other ≠ personId →
              gallery.persons.get? other = exampleRun.gallery.persons.get? other :=
  samples_exact exampleNumpy matchThreshold fresh_exampleCalls reached_exampleRun

end PersonTracking.AiService
