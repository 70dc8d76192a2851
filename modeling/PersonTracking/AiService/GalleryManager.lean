import PersonTracking.Shared.Qdrant

/-!
# One collection, two writers

`PersonGalleryManager` of the AI service and `QdrantVectorStore` of the
analytics service write to the same collection.  The one derives a point id
from the lower 63 bits of the UUID, the other uses the UUID's text; the reader
of the analytics service understands both kinds, its deleter only the second.

`Owned` is what every run keeps: a point lies under the text of its person's
UUID or under the number the gallery derives from it.  From it follows what the
collection is as a map keyed by person UUID, and `mapLike_iff` says exactly
when it is one.
-/

namespace PersonTracking.AiService

open Library Python Shared

/-- The point id the gallery derives from a UUID. -/
def galleryPointId (u : Uuid) : ℕ := u.int % 2 ^ 63

/-- `PersonGalleryManager.upsert_embedding`, with a connected client: nothing is
raised, the result tells whether the point was written. -/
def upsertEmbedding (personUuid : String) (embedding : Json) (payload : List (String × Json)) :
    Store Bool :=
  tryCatch
    (match Uuid.parse personUuid with
      | none => throw .valueError
      | some u => do
          Fallible.attempt (QdrantVectorStore.ask (.upsert QdrantVectorStore.collectionName u
            { id := .int (galleryPointId u), vector := embedding,
              payload := .obj (("person_id", .str personUuid) :: payload) }))
          pure true)
    fun _ => pure false

/-! ## Runs of the two writers and the deleter -/

/-- An operation on the collection: an upsert by either service, or a deletion. -/
inductive Operation
  | galleryUpsert (u : Uuid) (embedding : Json) (payload : List (String × Json))
  | storeUpsert (u : Uuid) (embedding metadata : Json)
  | delete (us : List Uuid)

namespace Operation

/-- The UUIDs an operation is for. -/
def uuids : Operation → List Uuid
  | galleryUpsert u _ _ => [u]
  | storeUpsert u _ _ => [u]
  | delete us => us

/-- What an operation does to Qdrant when no call fails; no operation searches. -/
def apply (q : Qdrant) : Operation → Qdrant
  | galleryUpsert u embedding payload =>
      (Fallible.exec (Qdrant.handler Qdrant.never fun _ _ _ _ => [])
        (upsertEmbedding u.toText embedding payload) q).2
  | storeUpsert u embedding metadata =>
      (Fallible.exec (Qdrant.handler Qdrant.never fun _ _ _ _ => [])
        (QdrantVectorStore.upsertEmbedding u embedding metadata) q).2
  | delete us =>
      (Fallible.exec (Qdrant.handler Qdrant.never fun _ _ _ _ => [])
        (QdrantVectorStore.deleteEmbeddings us) q).2

/-- An operation leaves the points of other persons alone. -/
def Isolated (q : Qdrant) (operation : Operation) : Prop :=
  ∀ id entry, q.points id = some entry → entry.owner ∉ operation.uuids →
    (operation.apply q).points id = some entry

/-- The gallery writes one point, under its number. -/
theorem apply_galleryUpsert {q : Qdrant} (present : q.Present) (u : Uuid) (embedding : Json)
    (payload : List (String × Json)) :
    (galleryUpsert u embedding payload).apply q =
      q.put present u ⟨.int (galleryPointId u), embedding,
        .obj (("person_id", .str u.toText) :: payload)⟩ := by
  have written : Fallible.exec (Qdrant.handler Qdrant.never fun _ _ _ _ => [])
      (do
        Fallible.attempt (QdrantVectorStore.ask (.upsert QdrantVectorStore.collectionName u
          ⟨.int (galleryPointId u), embedding, .obj (("person_id", .str u.toText) :: payload)⟩))
        pure true : Store Bool) q =
      (.ok true, q.put present u ⟨.int (galleryPointId u), embedding,
        .obj (("person_id", .str u.toText) :: payload)⟩) := by
    rw [Fallible.exec_bind_ok (Qdrant.exec_upsert_never present _ u _)]
    rfl
  rw [apply, upsertEmbedding, Uuid.parse_toText, Fallible.exec_tryCatch]
  dsimp only
  rw [written]

/-- No operation removes the collection. -/
theorem present_apply {q : Qdrant} (present : q.Present) (operation : Operation) :
    (operation.apply q).Present := by
  cases operation with
  | galleryUpsert u embedding payload =>
      rw [apply_galleryUpsert present]
      exact present
  | storeUpsert u embedding metadata => exact (Qdrant.exec_upsertEmbedding_never present _ _ _).2
  | delete us => exact (Qdrant.exec_deleteEmbeddings_never present _).2

theorem points_galleryUpsert {q : Qdrant} (present : q.Present) (u : Uuid) (embedding : Json)
    (payload : List (String × Json)) :
    ((galleryUpsert u embedding payload).apply q).points =
      Function.update q.points (.int (galleryPointId u))
        (some { owner := u,
                point := ⟨.int (galleryPointId u), embedding,
                  .obj (("person_id", .str u.toText) :: payload)⟩ }) := by
  rw [apply_galleryUpsert present]
  rfl

theorem points_storeUpsert {q : Qdrant} (present : q.Present) (u : Uuid)
    (embedding metadata : Json) :
    ((storeUpsert u embedding metadata).apply q).points =
      Function.update q.points (.str u.toText)
        (some { owner := u, point := ⟨.str u.toText, embedding, metadata⟩ }) :=
  (Qdrant.exec_upsertEmbedding_never present u embedding metadata).1

theorem points_delete {q : Qdrant} (present : q.Present) (us : List Uuid) :
    ((delete us).apply q).points =
      fun id => if id ∈ us.map (fun u => PointId.str u.toText) then none else q.points id :=
  (Qdrant.exec_deleteEmbeddings_never present us).1

end Operation

/-- The collection after a list of operations. -/
def applyAll (q : Qdrant) (operations : List Operation) : Qdrant :=
  operations.foldl Operation.apply q

theorem applyAll_append (q : Qdrant) (first second : List Operation) :
    applyAll q (first ++ second) = applyAll (applyAll q first) second := List.foldl_append

theorem present_applyAll {q : Qdrant} (present : q.Present) (operations : List Operation) :
    (applyAll q operations).Present := by
  induction operations generalizing q with
  | nil => exact present
  | cons operation rest ih => exact ih (Operation.present_apply present operation)

/-- What `search_similar` reports for a query. -/
def search (engine : Engine) (q : Qdrant) (embedding : Json) (limit : ℕ)
    (scoreThreshold : PyFloat) : List QdrantVectorStore.Match :=
  match (Fallible.exec (Qdrant.handler Qdrant.never engine)
    (QdrantVectorStore.searchSimilar embedding limit scoreThreshold) q).1 with
  | .ok found => found
  | .error _ => []

/-- Every point a search returns is reported under the UUID it was upserted for. -/
def Reported (q : Qdrant) : Prop :=
  ∀ engine : Engine, engine.Finds → ∀ embedding limit threshold,
    ∀ pair ∈ (search engine q embedding limit threshold).zip (engine q embedding limit threshold),
      ∃ entry, q.points pair.2.id = some entry ∧ pair.1.personId = entry.owner

/-- **A map keyed by person UUID**, over a run of writes from `q` followed by
deletions: searches report the right person, no operation touches another
person's point, and no point of a deleted person remains. -/
structure MapLike (q : Qdrant) (writes : List Operation) (deletions : List (List Uuid)) :
    Prop where
  reported : Reported (applyAll q (writes ++ deletions.map .delete))
  isolated : ∀ before operation after,
    writes ++ deletions.map .delete = before ++ operation :: after →
      operation.Isolated (applyAll q before)
  gone : ∀ us ∈ deletions, ∀ u ∈ us, ∀ id entry,
    (applyAll q (writes ++ deletions.map .delete)).points id = some entry → entry.owner ≠ u

/-! ## When the collection is such a map -/

/-- The UUIDs the gallery upserts survive the truncation, and none of them is deleted. -/
def Faithful (writes : List Operation) (deletions : List (List Uuid)) : Prop :=
  ∀ u embedding payload, .galleryUpsert u embedding payload ∈ writes →
    u.int < 2 ^ 63 ∧ ∀ us ∈ deletions, u ∉ us

/-- Where the points of a run lie: under the UUID's text, or under the gallery's
number for it, and the latter only for UUIDs the gallery wrote. -/
def Owned (written : Uuid → Prop) (q : Qdrant) : Prop :=
  ∀ id entry, q.points id = some entry →
    id = .str entry.owner.toText ∨ (id = .int (galleryPointId entry.owner) ∧ written entry.owner)

section Run

variable {written : Uuid → Prop} {q : Qdrant} {operation : Operation}

/-- One operation keeps `Owned`. -/
theorem Owned.apply (present : q.Present) (owned : Owned written q)
    (writes : ∀ u embedding payload, operation = .galleryUpsert u embedding payload → written u) :
    Owned written (operation.apply q) := by
  intro id entry found
  cases operation with
  | galleryUpsert u embedding payload =>
      rw [Operation.points_galleryUpsert present, Function.update_apply] at found
      split at found
      · rename_i here
        cases found
        exact Or.inr ⟨here, writes u embedding payload rfl⟩
      · exact owned id entry found
  | storeUpsert u embedding metadata =>
      rw [Operation.points_storeUpsert present, Function.update_apply] at found
      split at found
      · rename_i here
        cases found
        exact Or.inl here
      · exact owned id entry found
  | delete us =>
      rw [Operation.points_delete present] at found
      simp only at found
      split at found
      · cases found
      · exact owned id entry found

/-- A run keeps `Owned`. -/
theorem Owned.applyAll {operations : List Operation} (present : q.Present)
    (owned : Owned written q)
    (writes : ∀ u embedding payload, .galleryUpsert u embedding payload ∈ operations → written u) :
    Owned written (applyAll q operations) := by
  induction operations generalizing q with
  | nil => exact owned
  | cons operation rest ih =>
      refine ih (Operation.present_apply present operation)
        (owned.apply present fun u embedding payload same => ?_)
        fun u embedding payload member => writes u embedding payload (List.mem_cons_of_mem _ member)
      exact writes u embedding payload (same ▸ List.mem_cons_self)

theorem galleryPointId_of_lt {u : Uuid} (small : u.int < 2 ^ 63) : galleryPointId u = u.int :=
  Nat.mod_eq_of_lt small

/-- Where the gallery's UUIDs are small, its numbers are the UUIDs. -/
theorem owner_eq_of_int {u : Uuid} {n : ℕ} (number : galleryPointId u = n)
    (small : u.int < 2 ^ 63) : Uuid.ofInt n = some u := by
  rw [← number, galleryPointId_of_lt small]
  exact Uuid.ofInt_int u

/-- Where points lie under faithful ids, every operation is isolated. -/
theorem Owned.isolated (present : q.Present) (owned : Owned (fun u => u.int < 2 ^ 63) q)
    (small : ∀ u embedding payload, operation = .galleryUpsert u embedding payload →
      u.int < 2 ^ 63) : operation.Isolated q := by
  intro id entry found other
  cases operation with
  | galleryUpsert u embedding payload =>
      rw [Operation.points_galleryUpsert present, Function.update_of_ne _ , found]
      rintro rfl
      rcases owned _ entry found with text | ⟨number, ownerSmall⟩
      · cases text
      · have mine := owner_eq_of_int rfl (small u embedding payload rfl)
        have theirs := owner_eq_of_int (PointId.int.inj number).symm ownerSmall
        rw [mine, Option.some.injEq] at theirs
        exact other (by simp [Operation.uuids, theirs])
  | storeUpsert u embedding metadata =>
      rw [Operation.points_storeUpsert present, Function.update_of_ne _, found]
      rintro rfl
      rcases owned _ entry found with text | ⟨number, -⟩
      · have same := Uuid.toText_injective (PointId.str.inj text)
        exact other (by simp [Operation.uuids, same])
      · cases number
  | delete us =>
      rw [Operation.points_delete present]
      simp only
      rw [if_neg, found]
      intro member
      obtain ⟨u, listed, rfl⟩ := List.mem_map.mp member
      rcases owned _ entry found with text | ⟨number, -⟩
      · exact other (Uuid.toText_injective (PointId.str.inj text) ▸ listed)
      · cases number

/-- The reader understands faithful ids. -/
theorem Owned.personOfPoint (owned : Owned (fun u => u.int < 2 ^ 63) q) {id : PointId}
    {entry : Entry} (found : q.points id = some entry) :
    QdrantVectorStore.personOfPoint id = .ok entry.owner := by
  rcases owned id entry found with rfl | ⟨rfl, small⟩
  · simp only [QdrantVectorStore.personOfPoint, Uuid.parse_toText]
  · simp only [QdrantVectorStore.personOfPoint, owner_eq_of_int rfl small]

theorem readMatches_owned {results : List ScoredPoint}
    (owned : Owned (fun u => u.int < 2 ^ 63) q)
    (stored : ∀ found ∈ results, ∃ entry, q.points found.id = some entry) :
    ∃ matched, QdrantVectorStore.readMatches results = .ok matched ∧
      ∀ pair ∈ matched.zip results, ∃ entry, q.points pair.2.id = some entry ∧
        pair.1.personId = entry.owner := by
  induction results with
  | nil => exact ⟨[], rfl, fun pair member => by simp at member⟩
  | cons found rest ih =>
      obtain ⟨entry, here⟩ := stored found List.mem_cons_self
      obtain ⟨matched, read, right⟩ := ih fun r member => stored r (List.mem_cons_of_mem _ member)
      refine ⟨⟨entry.owner, found.score, found.payload⟩ :: matched, ?_, fun pair member => ?_⟩
      · simp only [QdrantVectorStore.readMatches, owned.personOfPoint here, read, bind, Except.bind,
          pure, Except.pure]
      · rw [List.zip_cons_cons, List.mem_cons] at member
        rcases member with rfl | later
        · exact ⟨entry, here, rfl⟩
        · exact right pair later

theorem search_eq_of_readMatches {engine : Engine} (present : q.Present) (finds : engine.Finds)
    {embedding : Json} {limit : ℕ} {threshold : PyFloat} {matched : List QdrantVectorStore.Match}
    (read : QdrantVectorStore.readMatches (engine q embedding limit threshold) = .ok matched) :
    search engine q embedding limit threshold = matched := by
  rw [search, Qdrant.exec_searchSimilar_never present finds embedding limit threshold, read]

theorem Owned.reported (present : q.Present) (owned : Owned (fun u => u.int < 2 ^ 63) q) :
    Reported q := by
  intro engine finds embedding limit threshold
  obtain ⟨matched, read, right⟩ :=
    readMatches_owned owned (finds.stored q embedding limit threshold)
  rw [search_eq_of_readMatches present finds read]
  exact right

/-! ### The gallery's points outlive everything but themselves -/

/-- The gallery's point of a person is there. -/
def Holds (u : Uuid) (q : Qdrant) : Prop :=
  ∃ entry, q.points (.int (galleryPointId u)) = some entry ∧ entry.owner = u

theorem Holds.apply {u : Uuid} (present : q.Present) (holds : Holds u q)
    (isolated : operation.Isolated q) :
    Holds u (operation.apply q) := by
  obtain ⟨entry, found, rfl⟩ := holds
  by_cases forOwner : entry.owner ∈ operation.uuids
  · cases operation with
    | galleryUpsert u embedding payload =>
        have same : entry.owner = u := List.mem_singleton.mp forOwner
        subst same
        rw [Holds, Operation.points_galleryUpsert present, Function.update_self]
        exact ⟨_, rfl, rfl⟩
    | storeUpsert u embedding metadata =>
        refine ⟨entry, ?_, rfl⟩
        rw [Operation.points_storeUpsert present, Function.update_of_ne (fun same => by cases same),
          found]
    | delete us =>
        refine ⟨entry, ?_, rfl⟩
        rw [Operation.points_delete present]
        simp [found]
  · exact ⟨entry, isolated _ entry found forOwner, rfl⟩

theorem Holds.applyAll {u : Uuid} {operations : List Operation} (present : q.Present)
    (holds : Holds u q)
    (isolated : ∀ before operation after, operations = before ++ operation :: after →
      operation.Isolated (applyAll q before)) : Holds u (applyAll q operations) := by
  induction operations generalizing q with
  | nil => exact holds
  | cons operation rest ih =>
      refine ih (Operation.present_apply present operation)
        (holds.apply present (isolated [] operation rest rfl)) fun before later after split => ?_
      exact isolated (operation :: before) later after (by rw [split, List.cons_append])

/-- A reported gallery point is one whose UUID survived the truncation. -/
theorem Holds.small {u : Uuid} (present : q.Present) (holds : Holds u q) (reported : Reported q) :
    u.int < 2 ^ 63 := by
  obtain ⟨entry, found, owner⟩ := holds
  have truncated : galleryPointId u < 2 ^ 63 := Nat.mod_lt _ (by norm_num)
  have fits : galleryPointId u < 2 ^ 128 := lt_trans truncated (by norm_num)
  have read : Uuid.ofInt (galleryPointId u) = some ⟨galleryPointId u, fits⟩ := dif_pos fits
  have engineFinds : Engine.only (.int (galleryPointId u)) q .null 1 .nan =
      [{ id := .int (galleryPointId u), score := .finite false 1 0, payload := .null }] := by
    rw [Engine.only, found]
    rfl
  have readBack : QdrantVectorStore.readMatches
      (Engine.only (.int (galleryPointId u)) q .null 1 .nan) =
      .ok [⟨⟨galleryPointId u, fits⟩, .finite false 1 0, .null⟩] := by
    rw [engineFinds]
    simp only [QdrantVectorStore.readMatches, QdrantVectorStore.personOfPoint, read]
    rfl
  have matched := search_eq_of_readMatches present (Engine.finds_only (.int (galleryPointId u)))
    readBack
  obtain ⟨entry', found', same⟩ :=
    reported _ (Engine.finds_only (.int (galleryPointId u))) .null 1 .nan
    (⟨⟨galleryPointId u, fits⟩, .finite false 1 0, .null⟩,
      { id := .int (galleryPointId u), score := .finite false 1 0, payload := .null })
    (by rw [matched, engineFinds]; simp)
  rw [found, Option.some.injEq] at found'
  rw [← owner, found', ← same]
  exact truncated

end Run

/-- Deletions leave no point under the text of a deleted UUID and add none. -/
theorem points_deletions {q : Qdrant} (present : q.Present) {deletions : List (List Uuid)}
    {id : PointId} {entry : Entry}
    (found : (applyAll q (deletions.map .delete)).points id = some entry) :
    q.points id = some entry ∧ ∀ us ∈ deletions, ∀ u ∈ us, id ≠ .str u.toText := by
  induction deletions generalizing q with
  | nil => exact ⟨found, fun us member => by cases member⟩
  | cons us rest ih =>
      obtain ⟨before, notLater⟩ := ih (Operation.present_apply present _) found
      rw [Operation.points_delete present] at before
      simp only at before
      split at before
      · cases before
      · rename_i notHere
        refine ⟨before, fun other member u listed same => ?_⟩
        rcases List.mem_cons.mp member with rfl | later
        · exact notHere (List.mem_map.mpr ⟨u, listed, same.symm⟩)
        · exact notLater other later u listed same

section Faithful

variable {q : Qdrant} {writes : List Operation} {deletions : List (List Uuid)} {u : Uuid}
  {embedding : Json} {payload : List (String × Json)}

theorem holds_galleryUpsert (present : q.Present) :
    Holds u ((Operation.galleryUpsert u embedding payload).apply q) := by
  rw [Holds, Operation.points_galleryUpsert present, Function.update_self]
  exact ⟨_, rfl, rfl⟩

/-- A run of isolated operations ends with every point the gallery wrote. -/
theorem MapLike.holds (mapLike : MapLike q writes deletions) (present : q.Present)
    (member : .galleryUpsert u embedding payload ∈ writes) :
    Holds u (applyAll q (writes ++ deletions.map .delete)) := by
  obtain ⟨before, after, split⟩ := List.append_of_mem member
  have whole : writes ++ deletions.map .delete =
      (before ++ [.galleryUpsert u embedding payload]) ++ (after ++ deletions.map .delete) := by
    rw [split, List.append_assoc, List.append_assoc]
    rfl
  have wrote : Holds u (applyAll q (before ++ [.galleryUpsert u embedding payload])) := by
    rw [applyAll_append]
    exact holds_galleryUpsert (present_applyAll present before)
  rw [whole, applyAll_append]
  -- no later operation takes the point of this sample away
  refine wrote.applyAll (present_applyAll present _) fun first operation last same => ?_
  rw [← applyAll_append]
  exact mapLike.isolated _ operation last (by rw [whole, same]; simp only [List.append_assoc])

theorem MapLike.faithful (mapLike : MapLike q writes deletions) (present : q.Present) :
    Faithful writes deletions := by
  intro u embedding payload member
  have holds := mapLike.holds present member
  refine ⟨holds.small (present_applyAll present _) mapLike.reported, fun us deleted listed => ?_⟩
  obtain ⟨entry, found, owner⟩ := holds
  exact mapLike.gone us deleted u listed _ entry found owner

/-- The deletions that follow the writes upsert nothing. -/
theorem Faithful.run (faithful : Faithful writes deletions)
    (member : .galleryUpsert u embedding payload ∈ writes ++ deletions.map .delete) :
    u.int < 2 ^ 63 ∧ ∀ us ∈ deletions, u ∉ us := by
  rcases List.mem_append.mp member with written | deleted
  · exact faithful u embedding payload written
  · obtain ⟨us, -, same⟩ := List.mem_map.mp deleted
    cases same

theorem owned_of_empty {written : Uuid → Prop} (empty : ∀ id, q.points id = none) :
    Owned written q := by
  intro id entry found
  rw [empty id] at found
  cases found

theorem Faithful.isolated (faithful : Faithful writes deletions) (present : q.Present)
    (empty : ∀ id, q.points id = none) {before after : List Operation} {operation : Operation}
    (split : writes ++ deletions.map .delete = before ++ operation :: after) :
    operation.Isolated (applyAll q before) := by
  have owned : Owned (fun u => u.int < 2 ^ 63) (applyAll q before) :=
    (owned_of_empty empty).applyAll present fun u embedding payload member =>
      (faithful.run (by rw [split]; exact List.mem_append_left _ member)).1
  refine owned.isolated (present_applyAll present _) fun u embedding payload same => ?_
  exact (faithful.run (by rw [split, same]; exact List.mem_append_right _ List.mem_cons_self)).1

/-- A deleted person's point would be one of the gallery's, whose person is kept. -/
theorem Faithful.gone (faithful : Faithful writes deletions) (present : q.Present)
    (empty : ∀ id, q.points id = none) {us : List Uuid} (deleted : us ∈ deletions)
    (listed : u ∈ us) {id : PointId} {entry : Entry}
    (found : (applyAll q (writes ++ deletions.map .delete)).points id = some entry) :
    entry.owner ≠ u := by
  rintro rfl
  have owned : Owned (fun u => ∃ embedding payload,
      .galleryUpsert u embedding payload ∈ writes ++ deletions.map .delete)
      (applyAll q (writes ++ deletions.map .delete)) :=
    (owned_of_empty empty).applyAll present fun u embedding payload member =>
      ⟨embedding, payload, member⟩
  rcases owned id entry found with text | ⟨-, embedding, payload, written⟩
  · rw [applyAll_append] at found
    exact (points_deletions (present_applyAll present _) found).2 us deleted entry.owner listed text
  · exact (faithful.run written).2 us deleted listed

theorem Faithful.mapLike (faithful : Faithful writes deletions) (present : q.Present)
    (empty : ∀ id, q.points id = none) : MapLike q writes deletions where
  reported :=
    Owned.reported (present_applyAll present _)
      ((owned_of_empty empty).applyAll present fun _ _ _ member => (faithful.run member).1)
  isolated _ _ _ split := faithful.isolated present empty split
  gone _ deleted _ listed _ _ found := faithful.gone present empty deleted listed found

end Faithful

/-- **When the collection is a map keyed by person UUID.**  A run of writes by
both services followed by deletions, from an empty collection, treats it as one
exactly when every UUID the gallery upserts is below `2 ^ 63` and none of them
is deleted. -/
theorem mapLike_iff {q : Qdrant} {writes : List Operation} {deletions : List (List Uuid)}
    (present : q.Present) (empty : ∀ id, q.points id = none) :
    MapLike q writes deletions ↔ Faithful writes deletions := by
  constructor
  · intro mapLike
    exact mapLike.faithful present
  · intro faithful
    exact faithful.mapLike present empty

/-! ### A random UUID -/

/-- A UUID with its top bits set, as every version 4 UUID has them. -/
def exampleUuid : Uuid := ⟨2 ^ 63 + 1, by norm_num⟩

/-- Both services write, the gallery a UUID below `2 ^ 63`. -/
def exampleWrites : List Operation :=
  [.galleryUpsert ⟨5, by norm_num⟩ .null [], .storeUpsert exampleUuid .null (.obj []),
    .storeUpsert ⟨5, by norm_num⟩ .null (.obj [])]

theorem mapLike_bothWriters : MapLike Qdrant.empty exampleWrites [[exampleUuid]] := by
  refine (mapLike_iff Qdrant.present_empty fun _ => rfl).mpr ?_
  intro u embedding payload written
  simp only [exampleWrites, List.mem_cons, List.not_mem_nil, or_false, reduceCtorEq,
    Operation.galleryUpsert.injEq] at written
  obtain ⟨rfl, -, -⟩ := written
  refine ⟨by norm_num, fun us deleted => ?_⟩
  rw [List.mem_singleton.mp deleted]
  decide

/-- **A deleted person stays in the gallery**: the deleter looks for the text of
the UUID, the gallery's point lies under a number. -/
theorem not_mapLike_deleted :
    ¬ MapLike Qdrant.empty [.galleryUpsert exampleUuid .null []] [[exampleUuid]] := by
  intro mapLike
  have stays : Holds exampleUuid (applyAll Qdrant.empty
      [.galleryUpsert exampleUuid .null [], .delete [exampleUuid]]) := by
    show Holds exampleUuid ((Operation.delete [exampleUuid]).apply
      ((Operation.galleryUpsert exampleUuid .null []).apply Qdrant.empty))
    rw [Holds, Operation.points_delete (Operation.present_apply Qdrant.present_empty _),
      Operation.points_galleryUpsert Qdrant.present_empty]
    simp only [List.map_cons, List.map_nil, List.mem_singleton, reduceCtorEq, if_false,
      Function.update_self]
    exact ⟨_, rfl, rfl⟩
  obtain ⟨entry, found, owner⟩ := stays
  exact mapLike.gone [exampleUuid] List.mem_cons_self exampleUuid List.mem_cons_self _ entry found
    owner

end PersonTracking.AiService
