import PersonTracking.AiService.GalleryManager
import PersonTracking.Analytics.Indexing
import PersonTracking.Analytics.NewPersons
import PersonTracking.Analytics.PersonTrail
import PersonTracking.SearchService.SearchRoutes

/-!
# Where the results of a search lead

The dashboard takes the persons of a search result to `get_person_trail`.  Both read what
others write: the search reads the vectors, which the analytics workers index in the middle
of a transaction and the gallery of the AI service writes under numbers of its own; the
trail reads the rows that are committed.

`Deployment` is all of them at once.  `results_lead_to_trails` says what a search answers
in any state they reach, as long as no transaction is broken off between the vector and the
commit: every point that is found is reported, and every person that is reported has a
trail, or is being saved right now, or is a number of the gallery's.
-/

namespace PersonTracking.SearchService

open Library Python Shared Analytics

/-! ## All services at once -/

/-- What the services share.  `indexing` notes whose vector the open transaction of a
worker has indexed, `sampled` for whom the gallery has written. -/
structure Deployment (ι : Type) where
  stores : SharedStores ι
  indexing : ι → Option Uuid
  searchChecked : Bool
  sampled : List Uuid

/-- The tracking rows that are committed. -/
abbrev Deployment.events {ι : Type} (deployment : Deployment ι) : List Domain.TrackingEvent :=
  deployment.stores.server.database.events

/-- The vectors that are stored. -/
abbrev Deployment.points {ι : Type} (deployment : Deployment ι) : PointId → Option Entry :=
  deployment.stores.qdrant.points

namespace Deployment

variable {ι : Type} [DecidableEq ι] (deployment : Deployment ι)

/-- What answers a call of a worker. -/
def answer (engine : Engine) (moment : Program.Answers Call Reply) (worker : ι)
    (request : Call) (deployment : Deployment ι) : Option (Reply request × Deployment ι) :=
  (SharedStores.answer engine moment worker request deployment.stores).map fun outcome =>
    (outcome.1, { deployment with
      stores := outcome.2
      indexing := Function.update deployment.indexing worker
        (Progress.next ⟨deployment.indexing worker, none⟩ request outcome.1).indexed })

/-- A worker dies: its transaction is rolled back, and its client will look again. -/
def crash (worker : ι) : Deployment ι :=
  { deployment with
    stores := { deployment.stores with
      server := deployment.stores.server.release worker
      checked := Function.update deployment.stores.checked worker false }
    indexing := Function.update deployment.indexing worker none }

omit [DecidableEq ι] in
/-- The gallery writes a sample. -/
def sample (faults : Program.Faults QdrantCall) (identity : Uuid) (embedding : Json)
    (payload : List (String × Json)) : Deployment ι :=
  { deployment with
    stores := { deployment.stores with
      qdrant := (Fallible.exec (Qdrant.handler faults Engine.silent)
        (AiService.upsertEmbedding identity.toText embedding payload)
        deployment.stores.qdrant).2 }
    sampled := identity :: deployment.sampled }

/-- Qdrant as the client of the search service has it. -/
def client : Qdrant := { deployment.stores.qdrant with checked := deployment.searchChecked }

/-- A search, with its answer. -/
def search (engine : Engine) (faults : Program.Faults QdrantCall) (data : SearchByImageRequest) :
    Except PyError (Except HTTPException SearchResponse) × Deployment ι :=
  let outcome := Fallible.exec (Qdrant.handler faults engine) (searchByImage data) deployment.client
  (outcome.1, { deployment with
    stores := { deployment.stores with qdrant := outcome.2 }
    searchChecked := outcome.2.checked })

end Deployment

/-- What happens besides the calls of the workers. -/
inductive Incident (ι : Type)
  | receive (worker : ι) (payload : Json)
  | crash (worker : ι)
  | sample (faults : Program.Faults QdrantCall) (identity : Uuid) (embedding : Json)
      (payload : List (String × Json))
  | search (faults : Program.Faults QdrantCall) (data : SearchByImageRequest)

/-- The workers in the deployment. -/
abbrev DeploymentPool (ι : Type) : Type := Pool ι Call Reply (Except PyError Unit) (Deployment ι)

/-- What happens next. -/
abbrev DeploymentMove (ι : Type) : Type := PoolMove ι (Program.Answers Call Reply) (Incident ι)

namespace DeploymentPool

variable {ι : Type} [DecidableEq ι]

/-- An idle worker receives a message, once or again; the others act at any time. -/
def happen (engine : Engine) : Incident ι → DeploymentPool ι → Option (DeploymentPool ι)
  | .receive worker payload, pool =>
      match pool.residual worker with
      | .call _ _ => none
      | .done _ => some (pool.resume worker (processMessageCallback payload).run pool.shared)
  | .crash worker, pool => some (pool.resume worker (.done (.ok ())) (pool.shared.crash worker))
  | .sample faults identity embedding payload, pool =>
      some { pool with shared := pool.shared.sample faults identity embedding payload }
  | .search faults data, pool =>
      some { pool with shared := (pool.shared.search engine faults data).2 }

/-- The surroundings of the workers. -/
def surroundings (engine : Engine) :
    Surroundings ι Call Reply (Except PyError Unit) (Deployment ι)
      (Program.Answers Call Reply) (Incident ι) where
  answer := Deployment.answer engine
  happen := happen engine

omit [DecidableEq ι] in
/-- Idle workers on empty tables, and no collection yet. -/
def start : DeploymentPool ι where
  shared := {
    stores := {
      server := Server.start
      qdrant := { checked := false, collections := [], points := fun _ => none
                  stored := fun _ _ found => by cases found }
      checked := fun _ => false
      unindexed := fun _ => false
      indexed := false }
    indexing := fun _ => none
    searchChecked := false
    sampled := [] }
  residual _ := .done (.ok ())

/-- A transaction that has indexed a vector is not rolled back, and its worker does not die. -/
def Finishes (pool : DeploymentPool ι) : DeploymentMove ι → Prop
  | .happen (.crash worker) => pool.shared.indexing worker = none
  | .happen _ => True
  | .answer worker _ =>
      match pool.residual worker with
      | .call .rollback _ => pool.shared.indexing worker = none
      | _ => True

instance (pool : DeploymentPool ι) (move : DeploymentMove ι) : Decidable (Finishes pool move) :=
  match move with
  | .happen (.crash worker) => inferInstanceAs (Decidable (pool.shared.indexing worker = none))
  | .happen (.receive _ _) | .happen (.sample _ _ _ _) | .happen (.search _ _) => isTrue trivial
  | .answer worker _ => by
      unfold Finishes
      dsimp only
      split <;> infer_instance

end DeploymentPool

/-! ## Whose points there are -/

/-- A person has a tracking row. -/
def Logged (database : Database) (person : Uuid) : Prop :=
  ∃ event ∈ database.events, event.personId = some person

/-- Where a stored vector comes from. -/
inductive Known {ι : Type} (deployment : Deployment ι) (id : PointId) (entry : Entry) : Prop
  | logged (text : id = .str entry.owner.toText)
      (logged : Logged deployment.stores.server.database entry.owner)
  | underWay (text : id = .str entry.owner.toText) (worker : ι)
      (indexing : deployment.indexing worker = some entry.owner)
  | sample (number : id = .int (AiService.galleryPointId entry.owner))
      (sampled : entry.owner ∈ deployment.sampled)

/-- **The invariant**: the progress of the workers is noted, their sessions hold the rows
they have collected, and it is known where every vector comes from. -/
structure Traced {ι : Type} (phases : ι → Progress) (deployment : Deployment ι) : Prop where
  noted : ∀ worker, deployment.indexing worker = (phases worker).indexed
  collected : ∀ worker person, (phases worker).logged = some person →
    ∃ event, .insertEvent event ∈ deployment.stores.server.sessions worker ∧
      event.personId = some person
  known : ∀ id entry, deployment.points id = some entry → Known deployment id entry
  payloads : ∀ id entry, deployment.points id = some entry →
    ∃ fields, entry.point.payload = .obj fields

/-- Rows that are there stay, and rows that are sent are there. -/
theorem events_send {db after : Database} {write : Write} (sent : db.send write = some after) :
    (∀ event ∈ db.events, event ∈ after.events) ∧
      ∀ event, write = .insertEvent event → event ∈ after.events := by
  cases write with
  | insertPerson row =>
      simp only [Database.send] at sent
      split at sent
      · cases sent
      · cases sent
        exact ⟨fun event => id, fun _ other => by cases other⟩
  | updatePerson row =>
      simp only [Database.send] at sent
      split at sent
      · cases sent
        exact ⟨fun event => id, fun _ other => by cases other⟩
      · cases sent
  | insertEvent event =>
      simp only [Database.send] at sent
      split at sent
      · split at sent
        · cases sent
        · cases sent
          refine ⟨fun other => List.mem_append_left _, fun other same => ?_⟩
          cases same
          exact List.mem_append_right _ (List.mem_singleton_self _)
      · cases sent

theorem events_sendAll {db after : Database} {session : List Write}
    (sent : db.sendAll session = some after) :
    (∀ event ∈ db.events, event ∈ after.events) ∧
      ∀ event, .insertEvent event ∈ session → event ∈ after.events := by
  induction session generalizing db with
  | nil =>
      cases sent
      exact ⟨fun event => id, nofun⟩
  | cons write rest ih =>
      obtain ⟨next, first, later⟩ := Option.bind_eq_some_iff.mp (Database.sendAll_cons ▸ sent)
      obtain ⟨kept, inserted⟩ := events_send first
      obtain ⟨keptRest, insertedRest⟩ := ih later
      refine ⟨fun event member => keptRest event (kept event member), fun event member => ?_⟩
      rcases List.mem_cons.mp member with same | inRest
      · exact keptRest event (inserted event same.symm)
      · exact insertedRest event inRest

/-- A session and one more write. -/
theorem mem_sessions_collect {ι : Type} [DecidableEq ι] {server : Server ι} {worker : ι}
    {write other : Write} :
    other ∈ (server.collect worker write).sessions worker ↔
      other ∈ server.sessions worker ∨ other = write := by
  simp [Server.collect]

/-- **Who has a tracking row has a trail.** -/
theorem getPersonTrail_of_logged (order : Ascending) {database : Database} {person : Uuid}
    (logged : Logged database person) :
    ∃ trail, getPersonTrail order database.events person.toText = .ok trail ∧
      trail.personId = person.toText ∧ trail.trailPoints ≠ [] := by
  obtain ⟨event, member, own⟩ := logged
  have listed : toEntity event ∈ getTrailByPersonId order database.events person :=
    List.mem_map_of_mem
      ((order.perm _).mem_iff.mpr (List.mem_filter.mpr ⟨member, decide_eq_true own⟩))
  simp only [getPersonTrail, Uuid.parse_toText]
  split
  · rename_i nothing
    rw [nothing] at listed
    cases listed
  · exact ⟨_, rfl, rfl, by simp⟩

/-- What the gallery writes lies under the number of its identity. -/
theorem points_gallery_upsertEmbedding {faults : Program.Faults QdrantCall} {engine : Engine}
    {q : Qdrant}
    {identity : Uuid} {embedding : Json} {payload : List (String × Json)} {id : PointId}
    {entry : Entry}
    (found : (Fallible.exec (Qdrant.handler faults engine)
      (AiService.upsertEmbedding identity.toText embedding payload) q).2.points id = some entry) :
    q.points id = some entry ∨ (id = .int (AiService.galleryPointId identity) ∧
      entry.owner = identity ∧ ∃ fields, entry.point.payload = .obj fields) := by
  rw [AiService.upsertEmbedding, Uuid.parse_toText, Fallible.exec_tryCatch] at found
  dsimp only at found
  rw [Fallible.exec_bind] at found
  generalize sent : Fallible.exec (Qdrant.handler faults engine) (Fallible.attempt
    (QdrantVectorStore.ask (.upsert QdrantVectorStore.collectionName identity _))) q = outcome
    at found
  obtain ⟨result, after⟩ := outcome
  replace found : after.points id = some entry := by
    cases result <;> exact found
  rw [show after = _ from (congrArg Prod.snd sent).symm] at found
  rcases Qdrant.points_upsert found with before | ⟨here, rfl⟩
  · exact Or.inl before
  · exact Or.inr ⟨here, rfl, _, rfl⟩

/-! ## What one move preserves -/

namespace Known

variable {ι : Type} {deployment after : Deployment ι} {id : PointId} {entry : Entry}

/-- What is known of a vector stays known, where nobody's progress is lost. -/
theorem mono (known : Known deployment id entry)
    (events : ∀ event ∈ deployment.events, event ∈ after.events)
    (sampled : ∀ identity ∈ deployment.sampled, identity ∈ after.sampled)
    (settled : ∀ worker, deployment.indexing worker = some entry.owner →
      after.indexing worker = some entry.owner ∨
        Logged after.stores.server.database entry.owner) :
    Known after id entry := by
  cases known with
  | logged text logged =>
      obtain ⟨event, member, own⟩ := logged
      exact .logged text ⟨event, events event member, own⟩
  | underWay text worker indexing =>
      rcases settled worker indexing with still | logged
      · exact .underWay text worker still
      · exact .logged text logged
  | sample number member => exact .sample number (sampled _ member)

end Known

namespace Traced

variable {ι : Type} [DecidableEq ι] {phases : ι → Progress} {deployment after : Deployment ι}
  {worker : ι} {progress : Progress}

omit [DecidableEq ι] in
theorem start :
    Traced (fun _ => Progress.nothing) (DeploymentPool.start : DeploymentPool ι).shared where
  noted _ := rfl
  collected _ _ wrong := by cases wrong
  known _ _ found := by cases found
  payloads _ _ found := by cases found

/-- **A worker's own step**: it loses no row and no other worker's session, and a vector it
had indexed stays noted or has its row now. -/
theorem move (traced : Traced phases deployment)
    (indexing : after.indexing = Function.update deployment.indexing worker progress.indexed)
    (sampled : after.sampled = deployment.sampled)
    (sessions : ∀ other, other ≠ worker →
      after.stores.server.sessions other = deployment.stores.server.sessions other)
    (events : ∀ event ∈ deployment.events, event ∈ after.events)
    (collected : ∀ person, progress.logged = some person →
      ∃ event, .insertEvent event ∈ after.stores.server.sessions worker ∧
        event.personId = some person)
    (settled : ∀ person, deployment.indexing worker = some person →
      progress.indexed = some person ∨ Logged after.stores.server.database person)
    (points : ∀ id entry, after.points id = some entry → deployment.points id = some entry ∨
      (id = .str entry.owner.toText ∧ progress.indexed = some entry.owner ∧
        ∃ fields, entry.point.payload = .obj fields)) :
    Traced (Function.update phases worker progress) after := by
  have mine : after.indexing worker = progress.indexed := by rw [indexing, Function.update_self]
  have keeps : ∀ {id entry}, Known deployment id entry → Known after id entry := by
    intro id entry known
    refine known.mono events (fun _ member => sampled ▸ member) fun other noted => ?_
    by_cases same : other = worker
    · subst same
      rw [mine]
      exact settled entry.owner noted
    · rw [indexing, Function.update_of_ne same]
      exact Or.inl noted
  constructor
  case noted =>
    refine (Function.forall_update_iff phases fun other phase =>
      after.indexing other = phase.indexed).mpr ⟨mine, fun other different => ?_⟩
    rw [indexing, Function.update_of_ne different]
    exact traced.noted other
  case collected =>
    refine (Function.forall_update_iff phases fun other phase =>
      ∀ person, phase.logged = some person →
        ∃ event, .insertEvent event ∈ after.stores.server.sessions other ∧
          event.personId = some person).mpr ⟨collected, fun other different => ?_⟩
    rw [sessions other different]
    exact traced.collected other
  case known =>
    intro id entry found
    rcases points id entry found with before | ⟨text, here, -⟩
    · exact keeps (traced.known id entry before)
    · exact .underWay text worker (mine.trans here)
  case payloads =>
    intro id entry found
    rcases points id entry found with before | ⟨-, -, carried⟩
    · exact traced.payloads id entry before
    · exact carried

/-- A step that touches neither rows nor vectors, and settles nothing. -/
theorem still (traced : Traced phases deployment)
    (indexing : after.indexing = Function.update deployment.indexing worker progress.indexed)
    (sampled : after.sampled = deployment.sampled)
    (sessions : ∀ other, other ≠ worker →
      after.stores.server.sessions other = deployment.stores.server.sessions other)
    (database : after.stores.server.database = deployment.stores.server.database)
    (collected : ∀ person, progress.logged = some person →
      ∃ event, .insertEvent event ∈ after.stores.server.sessions worker ∧
        event.personId = some person)
    (settled : ∀ person, deployment.indexing worker = some person → progress.indexed = some person)
    (points : after.points = deployment.points) :
    Traced (Function.update phases worker progress) after := by
  refine traced.move indexing sampled sessions ?_ collected (fun person => Or.inl ∘ settled person)
    fun id entry found => Or.inl (points ▸ found)
  intro event member
  rw [Deployment.events, database]
  exact member

omit [DecidableEq ι] in
/-- What somebody else does to the collection. -/
theorem outside (traced : Traced phases deployment)
    (indexing : after.indexing = deployment.indexing)
    (server : after.stores.server = deployment.stores.server)
    (sampled : ∀ identity ∈ deployment.sampled, identity ∈ after.sampled)
    (points : ∀ id entry, after.points id = some entry → deployment.points id = some entry ∨
      (Known after id entry ∧ ∃ fields, entry.point.payload = .obj fields)) :
    Traced phases after where
  noted := indexing ▸ traced.noted
  collected := server ▸ traced.collected
  known id entry found := by
    rcases points id entry found with before | ⟨known, -⟩
    · refine (traced.known id entry before).mono (fun event member => ?_) sampled
        fun worker noted =>
        Or.inl (indexing ▸ noted)
      rw [Deployment.events, server]
      exact member
    · exact known
  payloads id entry found := by
    rcases points id entry found with before | ⟨-, carried⟩
    · exact traced.payloads id entry before
    · exact carried

/-- A step that leaves the progress of its worker where it is. -/
theorem wait (traced : Traced phases deployment)
    (indexing : after.indexing =
      Function.update deployment.indexing worker (phases worker).indexed)
    (sampled : after.sampled = deployment.sampled)
    (others : ∀ other, other ≠ worker →
      after.stores.server.sessions other = deployment.stores.server.sessions other)
    (own : ∀ write ∈ deployment.stores.server.sessions worker,
      write ∈ after.stores.server.sessions worker)
    (database : after.stores.server.database = deployment.stores.server.database)
    (points : after.points = deployment.points) :
    Traced (Function.update phases worker (phases worker)) after := by
  refine traced.still indexing sampled others database (fun person logged => ?_)
    (fun person noted => (traced.noted worker).symm.trans noted) points
  obtain ⟨event, member, attributed⟩ := traced.collected worker person logged
  exact ⟨event, own _ member, attributed⟩

/-- The end of a transaction that has indexed nothing. -/
theorem release (traced : Traced phases deployment) (unindexed : deployment.indexing worker = none)
    (indexing : after.indexing = Function.update deployment.indexing worker none)
    (sampled : after.sampled = deployment.sampled)
    (server : after.stores.server = deployment.stores.server.release worker)
    (points : after.points = deployment.points) :
    Traced (Function.update phases worker .nothing) after := by
  refine traced.still indexing sampled (fun other different => ?_) ?_ (fun person wrong => ?_)
    (fun person noted => ?_) points
  · rw [server]
    exact Function.update_of_ne different _ _
  · rw [server]
    rfl
  · cases wrong
  · rw [unindexed] at noted
    cases noted

/-- **What an answered call of the vector store does.** -/
theorem answer_qdrant (traced : Traced phases deployment) {engine : Engine}
    {moment : Program.Answers Call Reply} {request : QdrantCall} {reply : QdrantReply request}
    (allowed : (phases worker).Allows (.qdrant request))
    (answered : deployment.answer engine moment worker (.qdrant request) = some (reply, after)) :
    Traced (Function.update phases worker ((phases worker).next (.qdrant request) reply))
      after := by
  have noted := traced.noted worker
  obtain ⟨⟨reply', stores⟩, handled, same⟩ := Option.map_eq_some_iff.mp answered
  clear answered
  cases same
  cases request with
  | collectionChecked | markCollectionChecked =>
      cases handled
      exact traced.wait (by rw [← noted]; rfl) rfl (fun _ _ => rfl) (fun _ => id) rfl rfl
  | getCollections =>
      simp only [SharedStores.answer, Qdrant.handler, Option.some.injEq] at handled
      split at handled <;> cases handled <;>
        exact traced.wait (by rw [← noted]; rfl) rfl (fun _ _ => rfl) (fun _ => id) rfl rfl
  | createCollection name =>
      simp only [SharedStores.answer, Qdrant.handler, Program.Faults.carryOut_refusing,
        Option.some.injEq] at handled
      split at handled <;> cases handled <;>
        exact traced.wait (by rw [← noted]; rfl) rfl (fun _ _ => rfl) (fun _ => id) rfl rfl
  | queryPoints collection query limit threshold =>
      simp only [SharedStores.answer, Qdrant.handler, Option.some.injEq] at handled
      split at handled <;> cases handled <;>
        exact traced.wait (by rw [← noted]; rfl) rfl (fun _ _ => rfl) (fun _ => id) rfl rfl
  | delete collection ids => cases allowed
  | upsert collection owner point =>
      obtain ⟨unindexed, text, carried⟩ := allowed
      simp only [SharedStores.answer, Qdrant.handler, Program.Faults.carryOut_refusing,
        Option.some.injEq] at handled
      split at handled
      · cases handled
        exact traced.wait (by rw [← noted]; rfl) rfl (fun _ _ => rfl) (fun _ => id) rfl rfl
      · split at handled
        · cases handled
          refine traced.move rfl rfl (fun _ _ => rfl) (fun _ => id)
            (traced.collected worker) (fun person wrong => ?_) fun id entry found => ?_
          · rw [noted, unindexed] at wrong
            cases wrong
          · replace found : Function.update deployment.points point.id
                (some { owner, point }) id = some entry := found
            rw [Function.update_apply] at found
            split at found
            · rename_i here
              cases found
              exact Or.inr ⟨here.trans text, rfl, carried⟩
            · exact Or.inl found
        · cases handled
          exact traced.wait (by rw [← noted]; rfl) rfl (fun _ _ => rfl) (fun _ => id) rfl rfl

/-- **A commit** leaves a row of whoever the transaction has indexed. -/
theorem commit (traced : Traced phases deployment)
    (complete : ∀ person, (phases worker).indexed = some person →
      (phases worker).logged = some person) {database : Database}
    (sent : deployment.stores.server.database.sendAll
      (deployment.stores.server.sessions worker) = some database)
    (indexing : after.indexing = Function.update deployment.indexing worker none)
    (sampled : after.sampled = deployment.sampled)
    (server : after.stores.server = (deployment.stores.server.release worker).setDatabase database)
    (points : after.points = deployment.points) :
    Traced (Function.update phases worker .nothing) after := by
  obtain ⟨kept, inserted⟩ := events_sendAll sent
  refine traced.move indexing sampled (fun other different => ?_) (fun event member => ?_)
    (fun person wrong => ?_) (fun person noted => Or.inr ?_) fun id entry found => ?_
  · rw [server]
    exact Function.update_of_ne different _ _
  · rw [Deployment.events, server]
    exact kept event member
  · cases wrong
  · rw [traced.noted worker] at noted
    obtain ⟨event, collected, own⟩ := traced.collected worker person (complete person noted)
    rw [server]
    exact ⟨event, inserted event collected, own⟩
  · exact Or.inl (points ▸ found)

/-- **What an answered call does.** -/
theorem answer (traced : Traced phases deployment) {engine : Engine}
    {moment : Program.Answers Call Reply} {request : Call} {reply : Reply request}
    (allowed : (phases worker).Allows request)
    (finishes : request = .rollback → deployment.indexing worker = none)
    (answered : deployment.answer engine moment worker request = some (reply, after)) :
    Traced (Function.update phases worker ((phases worker).next request reply)) after := by
  have noted := traced.noted worker
  by_cases vectors : ∃ inner, request = .qdrant inner
  · obtain ⟨inner, rfl⟩ := vectors
    exact traced.answer_qdrant allowed answered
  obtain ⟨⟨reply', stores⟩, handled, same⟩ := Option.map_eq_some_iff.mp answered
  clear answered
  cases same
  cases request with
  | qdrant inner => exact absurd ⟨inner, rfl⟩ vectors
  | openSession =>
      cases handled
      exact traced.release (noted.trans allowed) rfl rfl rfl rfl
  | rollback =>
      cases handled
      exact traced.release (finishes rfl) rfl rfl rfl rfl
  | uuid4 | dumps _ | produce _ _ _ | pollProducer =>
      cases handled
      exact traced.wait (by rw [← noted]; rfl) rfl (fun _ _ => rfl) (fun _ => id) rfl rfl
  | selectPerson site id =>
      obtain ⟨⟨reply'', server⟩, selected, same⟩ := Option.map_eq_some_iff.mp handled
      cases same
      obtain ⟨-, database, sessions⟩ := Server.readsKeyed_of_selectPerson selected
      refine traced.wait (by rw [← noted]; rfl) rfl (fun other _ => congrFun sessions other)
        (fun write member => ?_) database rfl
      exact sessions ▸ member
  | addPerson person | updatePerson person =>
      cases handled
      refine traced.wait (by rw [← noted]; rfl) rfl
        (fun other different => Function.update_of_ne different _ _)
        (fun write member => mem_sessions_collect.mpr (Or.inl member)) rfl rfl
  | addTrackingEvent event =>
      cases handled
      exact traced.still (by rw [← Progress.indexed_next (phases worker), ← noted]) rfl
        (fun other different => Function.update_of_ne different _ _) rfl
        (fun person own => ⟨event, mem_sessions_collect.mpr (Or.inr rfl), own⟩)
        (fun person indexed => noted.symm.trans indexed) rfl
  | commit =>
      obtain ⟨⟨reply'', server⟩, sent, same⟩ := Option.map_eq_some_iff.mp handled
      cases same
      simp only [Server.answer] at sent
      split at sent
      · cases sent
        exact traced.wait (by rw [← noted]; rfl) rfl (fun _ _ => rfl) (fun _ => id) rfl rfl
      · unfold Server.commit at sent
        split at sent
        · rename_i database accepted
          cases sent
          exact traced.commit allowed accepted rfl rfl rfl rfl
        · cases sent
          exact traced.wait (by rw [← noted]; rfl) rfl (fun _ _ => rfl) (fun _ => id) rfl rfl

omit [DecidableEq ι] in
/-- **A sample of the gallery** lies under the number of its identity, if it is written. -/
theorem sample (traced : Traced phases deployment) (faults : Program.Faults QdrantCall)
    (identity : Uuid)
    (embedding : Json) (payload : List (String × Json)) :
    Traced phases (deployment.sample faults identity embedding payload) := by
  unfold Deployment.sample
  refine traced.outside (by dsimp only) (by dsimp only) (fun _ => List.mem_cons_of_mem _)
    fun id entry found => ?_
  dsimp only [Deployment.points] at found ⊢
  rcases points_gallery_upsertEmbedding found with before | ⟨here, rfl, carried⟩
  · exact Or.inl before
  · exact Or.inr ⟨.sample here List.mem_cons_self, carried⟩

end Traced

/-- A search writes no vector. -/
theorem points_search {ι : Type} {engine : Engine} {faults : Program.Faults QdrantCall}
    {deployment : Deployment ι} {data : SearchByImageRequest} :
    (deployment.search engine faults data).2.points = deployment.points := by
  have same : ∀ q, (Fallible.exec (Qdrant.handler faults engine) (searchByImage data) q).2.points =
      q.points := by
    intro q
    rw [exec_searchByImage]
    split
    · rfl
    · split
      · exact Qdrant.points_halted faults q
      · rename_i after outcome
        exact Qdrant.ensured_points outcome
  exact same deployment.client

/-! ## Every run -/

namespace DeploymentPool

variable {ι : Type} [DecidableEq ι] {engine : Engine}

/-- The progress of the workers is known, and every worker keeps to the calculus. -/
abbrev Tracked (pool : DeploymentPool ι) : Prop :=
  Pool.Tracked indexing (fun _ later => later.indexed = none) Traced pool

omit [DecidableEq ι] in
theorem tracked_start : Tracked (start : DeploymentPool ι) :=
  ⟨fun _ => .nothing, Traced.start, fun _ => rfl⟩

/-- Whatever else happens keeps a pool tracked. -/
theorem tracked_happen {pool after : DeploymentPool ι} {incident : Incident ι}
    (tracked : Tracked pool) (met : Finishes pool (.happen incident))
    (happened : happen engine incident pool = some after) : Tracked after := by
  obtain ⟨phases, traced, holds⟩ := tracked
  cases incident with
  | receive worker payload =>
      simp only [happen] at happened
      split at happened
      · cases happened
      · rename_i result ended
        cases happened
        have idle := holds worker
        rw [ended, Program.wp_done] at idle
        refine ⟨phases, traced, fun other => ?_⟩
        by_cases same : other = worker
        · subst same
          rw [Pool.residual_resume_self]
          exact processMessageCallback_indexes payload idle
        · rw [Pool.residual_resume_of_ne _ _ _ same]
          exact holds other
  | crash worker =>
      cases happened
      exact ⟨_, traced.release met rfl rfl rfl rfl, Pool.wp_resume holds rfl⟩
  | sample faults identity embedding payload =>
      cases happened
      exact ⟨phases, traced.sample faults identity embedding payload, holds⟩
  | search faults data =>
      cases happened
      refine ⟨phases, traced.outside rfl rfl (fun _ => id) fun id entry found => Or.inl ?_, holds⟩
      rwa [points_search] at found

/-- **It is known where every vector comes from**, in every state of a run. -/
theorem tracked_of_finishes {moves : List (DeploymentMove ι)} {after : DeploymentPool ι}
    (finished : Meets Finishes (surroundings engine).step (start : DeploymentPool ι) moves)
    (reached : runFrom (surroundings engine).step start moves = some after) : Tracked after := by
  refine Surroundings.tracked ?_
    (fun _ _ _ tracked met happened => tracked_happen tracked met happened)
    tracked_start finished reached
  intro pool phases worker moment request next reply deployment traced _ waiting allowed met
    answered
  refine ⟨trivial, traced.answer allowed (fun same => ?_) answered⟩
  subst same
  rw [Finishes, waiting] at met
  exact met

end DeploymentPool

/-! ## What a search answers -/

/-- Where the person of a result leads: to a trail, to a transaction that is under way, or
to a number the gallery has written a sample under. -/
inductive Leads (order : Ascending) {ι : Type} (deployment : Deployment ι)
    (personId : String) : Prop
  | trail (trail : PersonTrailResponse)
      (answered : getPersonTrail order deployment.events personId = .ok trail)
      (found : trail.trailPoints ≠ [])
  | underWay (worker : ι) (person : Uuid) (indexing : deployment.indexing worker = some person)
      (named : personId = person.toText)
  | sample (identity person : Uuid) (sampled : identity ∈ deployment.sampled)
      (number : person.int = AiService.galleryPointId identity) (named : personId = person.toText)

/-- The points a search finds. -/
def Deployment.found {ι : Type} (deployment : Deployment ι) (engine : Engine)
    (faults : Program.Faults QdrantCall) (data : SearchByImageRequest) : List ScoredPoint :=
  if faults.raises (.queryPoints QdrantVectorStore.collectionName data.query data.atMost
    data.scoreThreshold) then []
  else engine deployment.stores.qdrant data.query data.atMost data.scoreThreshold

/-- **A vector that is known leads somewhere.** -/
theorem Known.leads (order : Ascending) {ι : Type} {deployment : Deployment ι} {id : PointId}
    {entry : Entry} (known : Known deployment id entry) :
    ∃ person, QdrantVectorStore.personOfPoint id = .ok person ∧
      Leads order deployment person.toText := by
  cases known with
  | logged text logged =>
      obtain ⟨trail, answered, -, found⟩ := getPersonTrail_of_logged order logged
      refine ⟨entry.owner, ?_, .trail trail answered found⟩
      simp only [text, QdrantVectorStore.personOfPoint, Uuid.parse_toText]
  | underWay text worker indexing =>
      refine ⟨entry.owner, ?_, .underWay worker entry.owner indexing rfl⟩
      simp only [text, QdrantVectorStore.personOfPoint, Uuid.parse_toText]
  | sample number sampled =>
      have fits : AiService.galleryPointId entry.owner < 2 ^ 128 :=
        lt_trans (Nat.mod_lt _ (by norm_num)) (by norm_num : (2 : ℕ) ^ 63 < 2 ^ 128)
      have read : Uuid.ofInt (AiService.galleryPointId entry.owner) = some ⟨_, fits⟩ := dif_pos fits
      refine ⟨⟨_, fits⟩, ?_, .sample entry.owner ⟨_, fits⟩ sampled rfl rfl⟩
      simp only [number, QdrantVectorStore.personOfPoint, read]

/-- Every point a search finds leads somewhere. -/
theorem Traced.readable {ι : Type} {phases : ι → Progress} {deployment : Deployment ι}
    (traced : Traced phases deployment) (order : Ascending) {engine : Engine}
    (returns : Returns engine) {faults : Program.Faults QdrantCall} {data : SearchByImageRequest}
    {point : ScoredPoint} (member : point ∈ deployment.found engine faults data) :
    ∃ person, QdrantVectorStore.personOfPoint point.id = .ok person ∧
      Leads order deployment person.toText ∧ ∃ fields, point.payload = .obj fields := by
  unfold Deployment.found at member
  split at member
  · cases member
  · obtain ⟨entry, stored⟩ := returns.stored _ _ _ _ point member
    obtain ⟨person, named, leading⟩ := (traced.known point.id entry stored).leads order
    obtain ⟨fields, carried⟩ := traced.payloads point.id entry stored
    exact ⟨person, named, leading, fields,
      (returns.payload _ _ _ _ point member entry stored).trans carried⟩

/-- **The results of a search lead to trails.**  In every state that any number of workers,
the gallery and the searches of others reach from empty stores, as long as no transaction is
broken off once it has indexed a vector, a search with too low a threshold is refused, one
whose check of the collection raises fails, and any other reports exactly the points that
are found; and each person it reports has a trail, or is being saved by a transaction that
is under way, or is a number of the gallery's. -/
theorem results_lead_to_trails {ι : Type} [DecidableEq ι] {engine : Engine}
    (returns : Returns engine) {moves : List (DeploymentMove ι)} {after : DeploymentPool ι}
    (finished : Meets DeploymentPool.Finishes (DeploymentPool.surroundings engine).step
      (DeploymentPool.start : DeploymentPool ι) moves)
    (reached : runFrom (DeploymentPool.surroundings engine).step DeploymentPool.start moves =
      some after)
    (order : Ascending) (faults : Program.Faults QdrantCall) (data : SearchByImageRequest) :
    if data.scoreThreshold.lt leastThreshold then
      (after.shared.search engine faults data).1 = .ok (.error lowThreshold)
    else if Qdrant.ensured faults after.shared.client = none then
      (after.shared.search engine faults data).1 = .error .qdrantError
    else ∃ response, (after.shared.search engine faults data).1 = .ok (.ok response) ∧
      List.Forall₂ SearchResult.Reports response.results
          (after.shared.found engine faults data) ∧
        ∀ result ∈ response.results, Leads order after.shared result.personId := by
  obtain ⟨phases, traced, -⟩ := DeploymentPool.tracked_of_finishes finished reached
  have answer : Fallible.exec (Qdrant.handler faults engine) (searchByImage data)
      after.shared.client = _ := exec_searchByImage data
  split
  · rename_i low
    rw [if_pos low] at answer
    exact congrArg Prod.fst answer
  rename_i allowed
  rw [if_neg allowed] at answer
  split
  · rename_i fails
    rw [fails] at answer
    exact congrArg Prod.fst answer
  rename_i checked
  obtain ⟨checkedClient, outcome⟩ := Option.ne_none_iff_exists'.mp checked
  have readable : ∀ point ∈ after.shared.found engine faults data, ∃ person,
      QdrantVectorStore.personOfPoint point.id = .ok person ∧
        Leads order after.shared person.toText ∧ ∃ fields, point.payload = .obj fields :=
    fun point member => traced.readable order returns member
  obtain ⟨matched, results, read, mapped, reports⟩ := forall₂_reports readable
  have answered : Qdrant.answered faults engine checkedClient data.query data.atMost
      data.scoreThreshold = matched := by
    rw [Qdrant.answered_ensured returns.toFinds outcome, Qdrant.answered]
    unfold Deployment.found at read
    split
    · rename_i failed
      rw [if_pos failed] at read
      exact (Except.ok.inj read)
    · rename_i succeeded
      rw [if_neg succeeded] at read
      rw [returns.samePoints after.shared.client after.shared.stores.qdrant rfl, read]
  rw [outcome] at answer
  dsimp only at answer
  rw [answered, mapped] at answer
  exact ⟨⟨results⟩, congrArg Prod.fst answer, reports⟩

/-! ### Persons who are searched for -/

/-- The person one worker saves, the one another is about to save, and one of the gallery's. -/
def exampleSaved : Uuid := Workers.examplePerson
def exampleUnsaved : Uuid := .ofNat 2
def exampleSampled : Uuid := .ofNat (2 ^ 63 + 3)

/-- The points of the three. -/
def examplePoints : List PointId :=
  [.str exampleSaved.toText, .str exampleUnsaved.toText,
   .int (AiService.galleryPointId exampleSampled)]

/-- A search engine that returns those of them that are stored. -/
def exampleEngine : Engine := fun q _ _ _ =>
  examplePoints.filterMap fun id => (q.points id).map fun entry =>
    { id, score := .finite false 9 (-1), payload := entry.point.payload }

theorem returns_exampleEngine : Returns exampleEngine where
  stored := by
    intro q embedding limit threshold found member
    obtain ⟨id, -, located⟩ := List.mem_filterMap.mp member
    obtain ⟨entry, stored, rfl⟩ := Option.map_eq_some_iff.mp located
    exact ⟨entry, stored⟩
  samePoints := by
    intro q q' same
    funext embedding limit threshold
    rw [exampleEngine, exampleEngine, same]
  payload := by
    intro q embedding limit threshold found member entry stored
    obtain ⟨id, -, located⟩ := List.mem_filterMap.mp member
    obtain ⟨other, there, rfl⟩ := Option.map_eq_some_iff.mp located
    rw [there, Option.some.injEq] at stored
    rw [stored]

/-- A search with the defaults. -/
def exampleSearch : SearchByImageRequest where
  embedding := List.replicate 512 (.finite false 1 0)
  limit := none
  threshold := none
  dimensions := List.length_replicate
  limited _ given := by cases given
  within _ given := by cases given

/-- Calls of a worker that succeed. -/
def exampleCalls (n : ℕ) (worker : Bool) (minted : Uuid) : List (DeploymentMove Bool) :=
  List.replicate n (.answer worker (Workers.exampleAnswers [] minted))

/-- Two workers see two persons, and both search before a vector is stored.  One of them
commits; the other one has stored its vector when the gallery writes a sample. -/
def exampleDay : List (DeploymentMove Bool) :=
  [.happen (.receive true (exampleSighting "20")),
   .happen (.receive false (exampleSighting "30"))] ++
    exampleCalls 6 true exampleSaved ++ exampleCalls 5 false exampleUnsaved ++
    exampleCalls 8 true exampleSaved ++ exampleCalls 5 false exampleUnsaved ++
    [.happen (.sample Qdrant.never exampleSampled exampleSearch.query [])]

theorem results_lead_to_trails_example :
    ∃ after response,
      runFrom (DeploymentPool.surroundings exampleEngine).step DeploymentPool.start exampleDay =
          some after ∧
        (after.shared.search exampleEngine Qdrant.never exampleSearch).1 = .ok (.ok response) ∧
          response.results.length = examplePoints.length ∧
            ∀ result ∈ response.results,
              (∃ trail, getPersonTrail Workers.oldestFirst after.shared.events result.personId =
                  .ok trail ∧ trail.trailPoints ≠ []) ∨
                result.personId = exampleUnsaved.toText ∨
                ∃ number : Uuid, number.int = AiService.galleryPointId exampleSampled ∧
                  result.personId = number.toText := by
  have finished : Meets DeploymentPool.Finishes (DeploymentPool.surroundings exampleEngine).step
      DeploymentPool.start exampleDay := by decide +kernel
  have ended : ∃ pool ∈ runFrom (DeploymentPool.surroundings exampleEngine).step
      DeploymentPool.start exampleDay,
      pool.shared.indexing true = none ∧ pool.shared.indexing false = some exampleUnsaved ∧
        pool.shared.sampled = [exampleSampled] ∧
          Qdrant.ensured Qdrant.never pool.shared.client ≠ none ∧
            (pool.shared.found exampleEngine Qdrant.never exampleSearch).length =
              examplePoints.length := by
    decide +kernel
  obtain ⟨after, reached, idle, busy, sampledOne, checked, all⟩ := ended
  have answers := results_lead_to_trails returns_exampleEngine finished reached
    Workers.oldestFirst Qdrant.never exampleSearch
  rw [if_neg (by decide), if_neg checked] at answers
  obtain ⟨response, answered, reports, leads⟩ := answers
  refine ⟨after, response, reached, answered, reports.length_eq.trans all, fun result member => ?_⟩
  cases leads result member with
  | trail trail answered found => exact .inl ⟨trail, answered, found⟩
  | underWay worker person indexing named =>
      cases worker with
      | false =>
          rw [busy, Option.some.injEq] at indexing
          exact .inr (.inl (indexing ▸ named))
      | true =>
          rw [idle] at indexing
          cases indexing
  | sample identity person sampled number named =>
      rw [sampledOne, List.mem_singleton] at sampled
      exact .inr (.inr ⟨person, sampled ▸ number, named⟩)

end PersonTracking.SearchService
