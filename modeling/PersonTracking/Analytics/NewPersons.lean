import PersonTracking.Analytics.Appearances
import PersonTracking.Analytics.Naming

/-!
# Workers that see a new person at the same time

Workers with a session and a vector-store client each process one person event
with the same embedding, which is close to no stored vector.  Their calls to the
vector store and to PostgreSQL come in any order, may raise, and a transaction that
raises is tried again.

`onePerson_of_alone` says when they agree on one new person: no worker searches
while another one has searched in vain and not indexed its vector yet, and no
search fails once a vector is indexed.  `two_persons` is a run in which both search
before either indexes.
-/

namespace PersonTracking.Analytics

open Library Python Shared Domain

/-- What the workers share, each with the flag of its own client.  `unindexed` notes
who has searched in vain and not indexed a vector since, `indexed` whether anybody
has indexed one. -/
structure SharedStores (ι : Type) where
  server : Server ι
  qdrant : Qdrant
  checked : ι → Bool
  unindexed : ι → Bool
  indexed : Bool

/-- A call of the client has raised. -/
def raised : (request : QdrantCall) → QdrantReply request → Bool
  | .getCollections, .error _ | .createCollection _, .error _ | .upsert _ _ _, .error _
  | .queryPoints _ _ _ _, .error _ | .delete _ _, .error _ => true
  | _, _ => false

variable {ι : Type} [DecidableEq ι]

namespace SharedStores

/-- The notes after an answered call. -/
def note (stores : SharedStores ι) (worker : ι) :
    (request : Call) → Reply request → SharedStores ι
  | .openSession, _ | .rollback, _ =>
      { stores with unindexed := Function.update stores.unindexed worker false }
  | .qdrant (.queryPoints _ _ _ _), answer =>
      { stores with unindexed :=
          Function.update stores.unindexed worker (Stage.ofQuery answer = .missed) }
  | .qdrant (.upsert _ _ _), .ok () =>
      { stores with
        unindexed := Function.update stores.unindexed worker false
        indexed := true }
  | _, _ => stores

/-- What answers a call at a moment.  The moment says which calls raise, and which
UUID is minted; a call that raises is not carried out. -/
def answer (engine : Engine) (moment : Program.Answers Call Reply) (worker : ι) :
    (request : Call) → SharedStores ι → Option (Reply request × SharedStores ι)
  | .qdrant request, stores =>
      let outcome :=
        Qdrant.handler (.refusing fun request => raised request (moment (.qdrant request))) engine
          request { stores.qdrant with checked := stores.checked worker }
      some (outcome.1, ({ stores with
        qdrant := outcome.2
        checked := Function.update stores.checked worker outcome.2.checked } :
          SharedStores ι).note worker (.qdrant request) outcome.1)
  | request, stores =>
      (stores.server.answer moment worker request).map fun outcome =>
        (outcome.1, ({ stores with server := outcome.2 } : SharedStores ι).note worker request
          outcome.1)

end SharedStores

/-- The workers with what they share. -/
abbrev NewPersonPool (ι : Type) : Type := Pool ι Call Reply (Except PyError Unit) (SharedStores ι)

/-- Calls are answered, and a worker whose transaction has raised tries again. -/
def newPersonSurroundings (engine : Engine) (payloads : ι → Json) :
    Surroundings ι Call Reply (Except PyError Unit) (SharedStores ι)
      (Program.Answers Call Reply) ι where
  answer := SharedStores.answer engine
  happen worker pool :=
    match pool.residual worker with
    | .done (.error _) =>
        some (pool.resume worker (processMessageCallback (payloads worker)).run pool.shared)
    | _ => none

/-- Every worker is about to process its event. -/
def NewPersonPool.start (database : Database) (qdrant : Qdrant) (checked : ι → Bool)
    (payloads : ι → Json) : NewPersonPool ι where
  shared := {
    server := Server.start.setDatabase database
    qdrant := qdrant
    checked := checked
    unindexed := fun _ => false
    indexed := false }
  residual worker := (processMessageCallback (payloads worker)).run

/-- The next call, or the next try, of a worker. -/
abbrev NewPersonMove (ι : Type) : Type := PoolMove ι (Program.Answers Call Reply) ι

/-- The worker has processed its event. -/
def isDone (pool : NewPersonPool ι) (worker : ι) : Bool :=
  match pool.residual worker with
  | .done (.ok _) => true
  | _ => false

/-- **One new person**: at most one has been committed, all new tracking rows are
for the same one, and a worker that is done has its row. -/
structure OnePerson (initial : Database) (detections : ι → Detection) (pool : NewPersonPool ι) :
    Prop where
  persons : ∀ id other, initial.persons id = none → initial.persons other = none →
    (pool.shared.server.database.persons id).isSome = true →
      (pool.shared.server.database.persons other).isSome = true → id = other
  events : ∀ event ∈ pool.shared.server.database.events,
    ∀ other ∈ pool.shared.server.database.events,
      event ∉ initial.events → other ∉ initial.events → event.personId = other.personId
  logged : ∀ worker, isDone pool worker = true →
    ∃ event person, (detections worker).trackingEvent event person ∈
        pool.shared.server.database.events ∧
      (detections worker).trackingEvent event person ∉ initial.events

/-- The condition on a move: a worker searches while nobody else has searched in
vain and not indexed a vector yet, and a search fails only before any is indexed. -/
def SearchesAlone (pool : NewPersonPool ι) : NewPersonMove ι → Prop
  | .happen _ => True
  | .answer worker moment =>
      match pool.residual worker with
      | .call (.qdrant (.queryPoints collection query limit threshold)) _ =>
          (∀ other, other ≠ worker → pool.shared.unindexed other = false) ∧
            (raised (.queryPoints collection query limit threshold)
                (moment (.qdrant (.queryPoints collection query limit threshold))) = true →
              pool.shared.indexed = false)
      | _ => True

/-! ## Writes about one person -/

/-- The write is about a person. -/
def Write.IsOf (person : Uuid) : Write → Prop
  | .insertPerson row | .updatePerson row => row.id = person
  | .insertEvent event => event.personId = some person

namespace Database

variable {db after : Database} {person : Uuid}

/-- What a write about a person changes. -/
theorem send_isOf {write : Write} (own : write.IsOf person) (sent : db.send write = some after) :
    (∀ id, (after.persons id).isSome = true → (db.persons id).isSome = true ∨ person = id) ∧
      (∀ event ∈ db.events, event ∈ after.events) ∧
      (∀ event ∈ after.events, event ∈ db.events ∨ event.personId = some person) ∧
      ∀ event, write = .insertEvent event → event ∈ after.events ∧ event ∉ db.events := by
  have put : ∀ row : Person, row.id = person → ∀ id,
      ((db.putPerson row).persons id).isSome = true →
        (db.persons id).isSome = true ∨ person = id := by
    rintro row rfl id there
    by_cases same : id = row.id
    · exact Or.inr same.symm
    · simp only [putPerson, Function.update_of_ne same] at there
      exact Or.inl there
  cases write with
  | insertPerson row =>
      simp only [send] at sent
      split at sent
      · cases sent
      · cases sent
        refine ⟨put row own, fun event => id, fun event => Or.inl, fun event same => ?_⟩
        cases same
  | updatePerson row =>
      simp only [send] at sent
      split at sent
      · cases sent
        refine ⟨put row own, fun event => id, fun event => Or.inl, fun event same => ?_⟩
        cases same
      · cases sent
  | insertEvent event =>
      simp only [send] at sent
      split at sent
      · split at sent
        · cases sent
        · rename_i new
          cases sent
          refine ⟨fun id => Or.inl, fun other => List.mem_append_left _, fun other member => ?_,
            fun other same => ?_⟩
          · rcases List.mem_append.mp member with before | this
            · exact Or.inl before
            · rw [List.mem_singleton.mp this]
              exact Or.inr own
          · cases same
            exact ⟨List.mem_append_right _ (List.mem_singleton_self _),
              fun before => new (List.mem_map_of_mem before)⟩
      · cases sent

/-- …and a session of them. -/
theorem sendAll_isOf {session : List Write} (own : ∀ write ∈ session, write.IsOf person)
    (sent : db.sendAll session = some after) :
    (∀ id, (after.persons id).isSome = true → (db.persons id).isSome = true ∨ person = id) ∧
      (∀ event ∈ db.events, event ∈ after.events) ∧
      (∀ event ∈ after.events, event ∈ db.events ∨ event.personId = some person) ∧
      ∀ event, .insertEvent event ∈ session → event ∈ after.events ∧ event ∉ db.events := by
  induction session generalizing db with
  | nil =>
      cases sent
      exact ⟨fun id => Or.inl, fun event => id, fun event => Or.inl, nofun⟩
  | cons write rest ih =>
      obtain ⟨next, first, later⟩ := Option.bind_eq_some_iff.mp (sendAll_cons ▸ sent)
      obtain ⟨persons, kept, events, inserted⟩ := send_isOf (own write List.mem_cons_self) first
      obtain ⟨personsRest, keptRest, eventsRest, insertedRest⟩ :=
        ih (fun other member => own other (List.mem_cons_of_mem _ member)) later
      refine ⟨fun id there => ?_, fun event member => keptRest event (kept event member),
        fun event member => ?_, fun event member => ?_⟩
      · rcases personsRest id there with before | same
        · exact persons id before
        · exact Or.inr same
      · rcases eventsRest event member with before | same
        · exact events event before
        · exact Or.inr same
      · rcases List.mem_cons.mp member with same | inRest
        · obtain ⟨inside, new⟩ := inserted event same.symm
          exact ⟨keptRest event inside, new⟩
        · obtain ⟨inside, new⟩ := insertedRest event inRest
          exact ⟨inside, fun before => new (kept event before)⟩

end Database

/-- A row that is selected is read under its id; nothing is written. -/
theorem Server.readsKeyed_of_selectPerson {moment : Program.Answers Call Reply} {site : ReadSite}
    {id : Uuid} {server next : Server ι} {reply : Reply (.selectPerson site id)}
    (selected : Server.answer moment worker (.selectPerson site id) server = some (reply, next)) :
    ReadsKeyed (.selectPerson site id) reply ∧ next.database = server.database ∧
      next.sessions = server.sessions := by
  simp only [Server.answer] at selected
  split at selected
  · cases selected
    exact ⟨trivial, rfl, rfl⟩
  unfold Server.select at selected
  split at selected
  · cases selected
    refine ⟨fun person same => ?_, rfl, rfl⟩
    cases same
  rename_i row found
  split at selected
  · cases selected
    refine ⟨?_, rfl, rfl⟩
    rintro person ⟨⟩
    exact server.database.keyed id row found
  · cases selected

/-! ## What the stages say -/

namespace Stage

/-- The search was in vain and no vector is indexed since. -/
def Window : Stage → Prop
  | missed | named _ false _ => True
  | searching | named _ true _ | finished _ _ => False

/-- The transaction is about a person whose vector is indexed. -/
def Knows (person : Uuid) : Stage → Prop
  | named other true _ | finished other _ => person = other
  | searching | missed | named _ false _ => False

/-- What the session of a transaction holds. -/
def Holds (detection : Detection) : Stage → List Write → Prop
  | named person _ event, session => (∀ write ∈ session, write.IsOf person) ∧
      ∀ id, event = some id → .insertEvent (detection.trackingEvent id person) ∈ session
  | searching, session | missed, session | finished _ _, session => session = []

/-- A transaction that has just got its person has collected nothing. -/
theorem holds_named_nil (detection : Detection) (person : Uuid) (isIndexed : Bool) :
    (named person isIndexed none).Holds detection [] := by
  refine ⟨fun write written => absurd written List.not_mem_nil, fun id same => ?_⟩
  cases same

end Stage

/-- What all results of a search are read as. -/
theorem ofQuery_of_forall {results : List ScoredPoint} {person : Uuid}
    (own : ∀ found ∈ results, found.id = .str person.toText) (some' : results ≠ []) :
    Stage.ofQuery (.ok results) = .named person true none := by
  have reads : ∀ results : List ScoredPoint, (∀ found ∈ results, found.id = .str person.toText) →
      ∃ matched, QdrantVectorStore.readMatches results = .ok matched := by
    intro results own
    induction results with
    | nil => exact ⟨[], rfl⟩
    | cons found rest ih =>
        obtain ⟨matched, read⟩ := ih fun other member => own other (List.mem_cons_of_mem _ member)
        rw [QdrantVectorStore.readMatches, own found List.mem_cons_self, read,
          QdrantVectorStore.personOfPoint, Uuid.parse_toText]
        exact ⟨_, rfl⟩
  cases results with
  | nil => exact absurd rfl some'
  | cons found rest =>
      obtain ⟨matched, read⟩ :=
        reads rest fun other member => own other (List.mem_cons_of_mem _ member)
      rw [Stage.ofQuery, QdrantVectorStore.readMatches, own found List.mem_cons_self, read,
        QdrantVectorStore.personOfPoint, Uuid.parse_toText]
      rfl

/-- **The invariant**: `identity` is the person whose vector is indexed, if there is
one.  Before that, at most one worker is about to index one; after it, all workers
that know a person know this one. -/
structure Identified (close : Json → Json → Prop) (embedding : Json) (detections : ι → Detection)
    (initial : Database) (identity : Option Uuid) (phases : ι → Detection × Stage)
    (stores : SharedStores ι) : Prop where
  made : ∀ worker, (phases worker).1 = detections worker
  vectors : ∀ id entry, stores.qdrant.points id = some entry → close embedding entry.point.vector →
    ∃ person, identity = some person ∧ id = .str person.toText
  stored : ∀ person, identity = some person →
    ∃ id entry, stores.qdrant.points id = some entry ∧ close embedding entry.point.vector
  indexed : stores.indexed = identity.isSome
  window : ∀ worker, stores.unindexed worker = true ↔ (phases worker).2.Window
  alone : ∀ worker, (phases worker).2.Window →
    identity = none ∧ ∀ other, other ≠ worker → ¬ (phases other).2.Window
  known : ∀ worker person, (phases worker).2.Knows person → identity = some person
  sessions : ∀ worker, (phases worker).2.Holds (detections worker) (stores.server.sessions worker)
  persons : ∀ id, (stores.server.database.persons id).isSome = true →
    (initial.persons id).isSome = true ∨ identity = some id
  kept : ∀ event ∈ initial.events, event ∈ stores.server.database.events
  events : ∀ event ∈ stores.server.database.events,
    event ∈ initial.events ∨ ∃ person, identity = some person ∧ event.personId = some person
  logged : ∀ worker person event, (phases worker).2 = .finished person event →
    (detections worker).trackingEvent event person ∈ stores.server.database.events ∧
      (detections worker).trackingEvent event person ∉ initial.events

/-- …for some identity. -/
def Agreed (close : Json → Json → Prop) (embedding : Json) (detections : ι → Detection)
    (initial : Database) (phases : ι → Detection × Stage) (stores : SharedStores ι) : Prop :=
  ∃ identity, Identified close embedding detections initial identity phases stores

namespace Identified

variable {close : Json → Json → Prop} {embedding : Json} {detections : ι → Detection}
  {initial : Database} {identity : Option Uuid} {phases : ι → Detection × Stage}
  {stores after : SharedStores ι} {worker : ι} {stage : Stage}

omit [DecidableEq ι] in
/-- Nothing has happened. -/
theorem start {qdrant : Qdrant} {checked : ι → Bool} {payloads : ι → Json}
    (unmatched : ∀ id entry, qdrant.points id = some entry → ¬ close embedding entry.point.vector) :
    Identified close embedding detections initial none
      (fun worker => (detections worker, .searching))
      (NewPersonPool.start initial qdrant checked payloads).shared where
  made _ := rfl
  vectors id entry found near := absurd near (unmatched id entry found)
  stored _ wrong := by cases wrong
  indexed := rfl
  window _ := iff_of_false Bool.false_ne_true id
  alone _ wrong := by cases wrong
  known _ _ wrong := by cases wrong
  sessions _ := rfl
  persons _ there := Or.inl there
  kept _ member := member
  events _ member := Or.inl member
  logged _ _ _ wrong := by cases wrong

theorem made_update
    (identified : Identified close embedding detections initial identity phases stores)
    (stage : Stage) (other : ι) :
    (Function.update phases worker (detections worker, stage) other).1 = detections other :=
  (Function.forall_update_iff phases fun other phase => phase.1 = detections other).mpr
    ⟨rfl, fun other _ => identified.made other⟩ other

/-- **A call that touches neither points nor tables** keeps the invariant, when the
stage it leaves its worker in is right. -/
theorem move (identified : Identified close embedding detections initial identity phases stores)
    (points : after.qdrant.points = stores.qdrant.points)
    (database : after.server.database = stores.server.database)
    (indexed : after.indexed = stores.indexed)
    (sessions : ∀ other, other ≠ worker →
      after.server.sessions other = stores.server.sessions other)
    (unindexed : ∀ other, other ≠ worker → after.unindexed other = stores.unindexed other)
    (window : after.unindexed worker = true ↔ stage.Window)
    (alone : stage.Window →
      identity = none ∧ ∀ other, other ≠ worker → ¬ (phases other).2.Window)
    (known : ∀ person, stage.Knows person → identity = some person)
    (holds : stage.Holds (detections worker) (after.server.sessions worker))
    (logged : ∀ person event, stage = .finished person event →
      (detections worker).trackingEvent event person ∈ stores.server.database.events ∧
        (detections worker).trackingEvent event person ∉ initial.events) :
    Identified close embedding detections initial identity
      (Function.update phases worker (detections worker, stage)) after where
  made := identified.made_update stage
  vectors := points ▸ identified.vectors
  stored := points ▸ identified.stored
  indexed := indexed.trans identified.indexed
  window := by
    refine (Function.forall_update_iff phases fun other phase =>
      after.unindexed other = true ↔ phase.2.Window).mpr ⟨window, fun other different => ?_⟩
    rw [unindexed other different]
    exact identified.window other
  alone other inside := by
    by_cases same : other = worker
    · subst same
      rw [Function.update_self] at inside
      obtain ⟨nobody, others⟩ := alone inside
      refine ⟨nobody, fun third different => ?_⟩
      rw [Function.update_of_ne different]
      exact others third different
    · rw [Function.update_of_ne same] at inside
      obtain ⟨nobody, others⟩ := identified.alone other inside
      refine ⟨nobody, fun third different => ?_⟩
      by_cases acting : third = worker
      · subst acting
        rw [Function.update_self]
        exact fun opens => (alone opens).2 other same inside
      · rw [Function.update_of_ne acting]
        exact others third different
  known := (Function.forall_update_iff phases fun _ phase =>
    ∀ person, phase.2.Knows person → identity = some person).mpr
      ⟨known, fun other _ => identified.known other⟩
  sessions := by
    refine (Function.forall_update_iff phases fun other phase =>
      phase.2.Holds (detections other) (after.server.sessions other)).mpr
        ⟨holds, fun other different => ?_⟩
    rw [sessions other different]
    exact identified.sessions other
  persons := database ▸ identified.persons
  kept := database ▸ identified.kept
  events := database ▸ identified.events
  logged := by
    rw [database]
    exact (Function.forall_update_iff phases fun other phase =>
      ∀ person event, phase.2 = .finished person event →
        (detections other).trackingEvent event person ∈ stores.server.database.events ∧
          (detections other).trackingEvent event person ∉ initial.events).mpr
      ⟨logged, fun other _ => identified.logged other⟩

/-- A call that changes neither stage nor session. -/
theorem still (identified : Identified close embedding detections initial identity phases stores)
    (points : after.qdrant.points = stores.qdrant.points)
    (database : after.server.database = stores.server.database)
    (sessions : after.server.sessions = stores.server.sessions)
    (indexed : after.indexed = stores.indexed) (unindexed : after.unindexed = stores.unindexed) :
    Identified close embedding detections initial identity
      (Function.update phases worker (detections worker, (phases worker).2)) after := by
  refine identified.move points database indexed (fun other _ => by rw [sessions])
    (fun other _ => by rw [unindexed]) ?_ (identified.alone worker) (identified.known worker) ?_
    (identified.logged worker)
  · rw [unindexed]
    exact identified.window worker
  · rw [sessions]
    exact identified.sessions worker

/-- A transaction that begins or is rolled back. -/
theorem reset (identified : Identified close embedding detections initial identity phases stores) :
    Identified close embedding detections initial identity
      (Function.update phases worker (detections worker, .searching))
      { stores with
        server := stores.server.release worker
        unindexed := Function.update stores.unindexed worker false } := by
  refine identified.move rfl rfl rfl (fun other different => Function.update_of_ne different _ _)
    (fun other different => Function.update_of_ne different _ _) ?_ nofun nofun
    (Function.update_self _ _ _) nofun
  refine iff_of_false ?_ id
  show ¬ Function.update stores.unindexed worker false worker = true
  rw [Function.update_self]
  exact Bool.false_ne_true

/-- An id is minted for a new person. -/
theorem mint (identified : Identified close embedding detections initial identity phases stores)
    (missed : (phases worker).2 = .missed) (id : Uuid) :
    Identified close embedding detections initial identity
      (Function.update phases worker (detections worker, .named id false none)) stores := by
  have window := identified.window worker
  have alone := identified.alone worker
  have holds := identified.sessions worker
  rw [missed] at window alone holds
  refine identified.move rfl rfl rfl (fun _ _ => rfl) (fun _ _ => rfl) window alone nofun ?_ nofun
  rw [show stores.server.sessions worker = [] from holds]
  exact Stage.holds_named_nil _ _ _

/-- A write about the person of the transaction is collected. -/
theorem collect (identified : Identified close embedding detections initial identity phases stores)
    {person : Uuid} {isIndexed : Bool} {event : Option Uuid} {write : Write}
    (named : (phases worker).2 = .named person isIndexed none) (own : write.IsOf person)
    (logs : ∀ id, event = some id →
      write = .insertEvent ((detections worker).trackingEvent id person)) :
    Identified close embedding detections initial identity
      (Function.update phases worker (detections worker, .named person isIndexed event))
      { stores with server := stores.server.collect worker write } := by
  have window := identified.window worker
  have alone := identified.alone worker
  have known := identified.known worker
  have holds := identified.sessions worker
  rw [named] at window alone known holds
  have opens : (Stage.named person isIndexed event).Window ↔
      (Stage.named person isIndexed none).Window := by cases isIndexed <;> exact Iff.rfl
  have knows : ∀ other, (Stage.named person isIndexed event).Knows other ↔
      (Stage.named person isIndexed none).Knows other := by
    intro other
    cases isIndexed <;> exact Iff.rfl
  refine identified.move rfl rfl rfl (fun other different => Function.update_of_ne different _ _)
    (fun _ _ => rfl) (window.trans opens.symm) (fun inside => alone (opens.mp inside))
    (fun other inside => known other ((knows other).mp inside)) ?_ nofun
  show Stage.Holds _ _ (Function.update stores.server.sessions worker _ worker)
  rw [Function.update_self]
  refine ⟨fun other member => ?_, fun id same => List.mem_append_right _ ?_⟩
  · rcases List.mem_append.mp member with before | this
    · exact holds.1 other before
    · rw [List.mem_singleton.mp this]
      exact own
  · rw [logs id same]
    exact List.mem_singleton_self _

omit [DecidableEq ι] in
/-- A search finds the person whose vector is indexed, and nobody as long as there is none; one
that raises finds nobody. -/
theorem ofQuery_cases
    (identified : Identified close embedding detections initial identity phases stores)
    {engine : Engine} (compares : engine.Compares matchThreshold close)
    {answer : Except PyError (List ScoredPoint)}
    (answered : (∃ error, answer = .error error ∧ stores.indexed = false) ∨
      ∃ q, q.points = stores.qdrant.points ∧ answer = .ok (engine q embedding 1 matchThreshold)) :
    (Stage.ofQuery answer = .missed ∧ identity = none) ∨
      ∃ person, Stage.ofQuery answer = .named person true none ∧ identity = some person := by
  rcases answered with ⟨error, rfl, nobody⟩ | ⟨q, same, rfl⟩
  · rw [identified.indexed, Option.isSome_eq_false_iff, Option.isNone_iff_eq_none] at nobody
    exact Or.inl ⟨rfl, nobody⟩
  · cases identity with
    | none =>
        have empty : engine q embedding 1 matchThreshold = [] := by
          refine List.eq_nil_iff_forall_not_mem.mpr fun found member => ?_
          obtain ⟨entry, there, near⟩ := compares.sound q embedding 1 found member
          rw [same] at there
          obtain ⟨_, wrong, -⟩ := identified.vectors _ entry there near
          cases wrong
        rw [empty]
        exact Or.inl ⟨rfl, rfl⟩
    | some person =>
        obtain ⟨id, entry, there, near⟩ := identified.stored person rfl
        refine Or.inr ⟨person, ofQuery_of_forall (fun found member => ?_) ?_, rfl⟩
        · obtain ⟨entry, there, near⟩ := compares.sound q embedding 1 found member
          rw [same] at there
          obtain ⟨other, known, own⟩ := identified.vectors _ entry there near
          cases known
          exact own
        · exact compares.complete q embedding 1 id entry one_pos (same ▸ there) near

/-- **A search** finds the person whose vector is indexed, if there is one; where it
does not, the worker is alone in having searched in vain. -/
theorem search (identified : Identified close embedding detections initial identity phases stores)
    {engine : Engine} (compares : engine.Compares matchThreshold close)
    (searching : (phases worker).2 = .searching)
    {answer : Except PyError (List ScoredPoint)}
    (alone : ∀ other, other ≠ worker → stores.unindexed other = false)
    (answered : (∃ error, answer = .error error ∧ stores.indexed = false) ∨
      ∃ q, q.points = stores.qdrant.points ∧ answer = .ok (engine q embedding 1 matchThreshold))
    (points : after.qdrant.points = stores.qdrant.points) (server : after.server = stores.server)
    (indexed : after.indexed = stores.indexed)
    (unindexed : after.unindexed =
      Function.update stores.unindexed worker (Stage.ofQuery answer = .missed)) :
    Identified close embedding detections initial identity
      (Function.update phases worker (detections worker, Stage.ofQuery answer)) after := by
  have holds := identified.sessions worker
  rw [searching] at holds
  replace holds : after.server.sessions worker = [] := server ▸ holds
  have noted : after.unindexed worker = true ↔ Stage.ofQuery answer = .missed := by
    rw [unindexed, Function.update_self, decide_eq_true_eq]
  have others : ∀ other, other ≠ worker → ¬ (phases other).2.Window := by
    intro other different opens
    have wrong := (identified.window other).mpr opens
    rw [alone other different] at wrong
    cases wrong
  rcases identified.ofQuery_cases compares answered with
    ⟨missed, nobody⟩ | ⟨person, named, known⟩
  · rw [missed] at noted ⊢
    refine identified.move points (by rw [server]) indexed (fun other _ => by rw [server])
      (fun other different => by rw [unindexed, Function.update_of_ne different])
      (iff_of_true (noted.mpr rfl) trivial) (fun _ => ⟨nobody, others⟩) nofun ?_ nofun
    rw [holds]
    exact rfl
  · rw [named] at noted ⊢
    refine identified.move points (by rw [server]) indexed (fun other _ => by rw [server])
      (fun other different => by rw [unindexed, Function.update_of_ne different])
      (iff_of_false (fun wrong => ?_) id) nofun (fun other same => ?_) ?_ nofun
    · cases noted.mp wrong
    · cases same
      exact known
    · rw [holds]
      exact Stage.holds_named_nil _ _ _

/-- **A vector is indexed**: from now on its person is the one. -/
theorem index (identified : Identified close embedding detections initial identity phases stores)
    {person : Uuid} (entry : Entry) (named : (phases worker).2 = .named person false none)
    (points : after.qdrant.points =
      Function.update stores.qdrant.points (.str person.toText) (some entry))
    (near : close embedding entry.point.vector) (server : after.server = stores.server)
    (indexed : after.indexed = true)
    (unindexed : after.unindexed = Function.update stores.unindexed worker false) :
    Identified close embedding detections initial (some person)
      (Function.update phases worker (detections worker, .named person true none)) after := by
  have opens : (phases worker).2.Window := by
    rw [named]
    exact trivial
  obtain ⟨rfl, others⟩ := identified.alone worker opens
  have closed : ∀ other, ¬ (Function.update phases worker
      (detections worker, Stage.named person true none) other).2.Window := by
    exact (Function.forall_update_iff phases fun _ phase => ¬ phase.2.Window).mpr ⟨id, others⟩
  exact {
    made := identified.made_update _
    vectors := fun id found there near' => by
      rw [points, Function.update_apply] at there
      split at there
      · rename_i same
        exact ⟨person, rfl, same⟩
      · obtain ⟨_, wrong, -⟩ := identified.vectors id found there near'
        cases wrong
    stored := fun other same => by
      cases same
      refine ⟨.str person.toText, entry, ?_, near⟩
      rw [points, Function.update_self]
    indexed := indexed
    window := fun other => by
      refine iff_of_false ?_ (closed other)
      rw [unindexed]
      by_cases same : other = worker
      · rw [same, Function.update_self]
        exact Bool.false_ne_true
      · rw [Function.update_of_ne same]
        exact fun noted => others other same ((identified.window other).mp noted)
    alone := fun other inside => absurd inside (closed other)
    known := by
      refine (Function.forall_update_iff phases fun _ phase =>
        ∀ other, phase.2.Knows other → some person = some other).mpr ⟨?_, ?_⟩
      · exact fun other knows => congrArg some (Eq.symm knows)
      · intro third _ other knows
        cases identified.known third other knows
    sessions := by
      rw [server]
      refine (Function.forall_update_iff phases fun other phase =>
        phase.2.Holds (detections other) (stores.server.sessions other)).mpr
          ⟨?_, fun other _ => identified.sessions other⟩
      have holds := identified.sessions worker
      rwa [named] at holds
    persons := fun id there => by
      rw [server] at there
      rcases identified.persons id there with before | wrong
      · exact Or.inl before
      · cases wrong
    kept := server ▸ identified.kept
    events := fun event member => by
      rw [server] at member
      rcases identified.events event member with before | ⟨_, wrong, -⟩
      · exact Or.inl before
      · cases wrong
    logged := by
      rw [server]
      refine (Function.forall_update_iff phases fun other phase =>
        ∀ person event, phase.2 = .finished person event →
          (detections other).trackingEvent event person ∈ stores.server.database.events ∧
            (detections other).trackingEvent event person ∉ initial.events).mpr
        ⟨fun third event done => ?_, fun other _ => identified.logged other⟩
      cases done }

/-- **A commit** sends what is about the person whose vector is indexed. -/
theorem commit (identified : Identified close embedding detections initial identity phases stores)
    {person event : Uuid} (named : (phases worker).2 = .named person true (some event))
    {database : Database}
    (sent : stores.server.database.sendAll (stores.server.sessions worker) = some database) :
    Identified close embedding detections initial identity
      (Function.update phases worker (detections worker, .finished person event))
      { stores with server := (stores.server.release worker).setDatabase database } := by
  have known : identity = some person := identified.known worker person (by rw [named]; exact rfl)
  have holds := identified.sessions worker
  rw [named] at holds
  obtain ⟨own, inserts⟩ := holds
  obtain ⟨persons, kept, events, inserted⟩ := Database.sendAll_isOf own sent
  obtain ⟨inside, new⟩ := inserted _ (inserts event rfl)
  have sent' : Identified close embedding detections initial identity phases
      { stores with server := stores.server.setDatabase database } := {
    identified with
    persons := fun id there => by
      rcases persons id there with before | rfl
      · exact identified.persons id before
      · exact Or.inr known
    kept := fun event member => kept event (identified.kept event member)
    events := fun event member => by
      rcases events event member with before | same
      · exact identified.events event before
      · exact Or.inr ⟨person, known, same⟩
    logged := fun other person event done => by
      obtain ⟨before, fresh⟩ := identified.logged other person event done
      exact ⟨kept _ before, fresh⟩ }
  refine sent'.move rfl rfl rfl (fun other different => ?_) (fun _ _ => rfl) ?_ (fun wrong => ?_)
    (fun other same => ?_) ?_ fun other logged done => ?_
  · exact Function.update_of_ne different _ _
  · refine iff_of_false (fun noted => ?_) id
    have opens := (identified.window worker).mp noted
    rw [named] at opens
    exact opens
  · cases wrong
  · cases same
    exact known
  · exact Function.update_self _ _ _
  · cases done
    exact ⟨inside, fun before => new (identified.kept _ before)⟩

/-- **What an answered call of the vector store does.** -/
theorem answer_qdrant
    (identified : Identified close embedding detections initial identity phases stores)
    {engine : Engine} (compares : engine.Compares matchThreshold close)
    (recalled : close embedding embedding) {moment : Program.Answers Call Reply}
    {request : QdrantCall} {reply : QdrantReply request}
    (allowed : (phases worker).2.Allows embedding (detections worker) (.qdrant request))
    (met : ∀ collection query limit threshold,
      request = .queryPoints collection query limit threshold →
        (∀ other, other ≠ worker → stores.unindexed other = false) ∧
          (raised (.queryPoints collection query limit threshold)
            (moment (.qdrant (.queryPoints collection query limit threshold))) = true →
              stores.indexed = false))
    (answered : SharedStores.answer engine moment worker (.qdrant request) stores =
      some (reply, after)) :
    ∃ identity, Identified close embedding detections initial identity
      (Function.update phases worker
        (detections worker, (phases worker).2.next (.qdrant request) reply)) after := by
  cases request with
  | collectionChecked | markCollectionChecked =>
      cases answered
      exact ⟨identity, identified.still rfl rfl rfl rfl rfl⟩
  | getCollections =>
      simp only [SharedStores.answer, Qdrant.handler, Option.some.injEq] at answered
      split at answered <;> cases answered <;>
        exact ⟨identity, identified.still rfl rfl rfl rfl rfl⟩
  | createCollection name =>
      simp only [SharedStores.answer, Qdrant.handler, Program.Faults.carryOut_refusing,
        Option.some.injEq] at answered
      split at answered <;> cases answered <;>
        exact ⟨identity, identified.still rfl rfl rfl rfl rfl⟩
  | delete collection ids => cases allowed
  | queryPoints collection query limit threshold =>
      obtain ⟨searching, rfl, rfl, rfl⟩ := allowed
      obtain ⟨alone, fails⟩ := met _ _ _ _ rfl
      simp only [SharedStores.answer, Qdrant.handler, Option.some.injEq] at answered
      split at answered
      · -- a search that raises finds nobody, so nobody like this one may be there
        rename_i raises
        cases answered
        exact ⟨identity, identified.search compares searching alone
          (Or.inl ⟨_, rfl, fails raises⟩) rfl rfl rfl rfl⟩
      · cases answered
        exact ⟨identity, identified.search compares searching alone
          (Or.inr ⟨{ stores.qdrant with checked := stores.checked worker }, rfl, rfl⟩)
          rfl rfl rfl rfl⟩
  | upsert collection owner point =>
      obtain ⟨person, named, id, vector⟩ := allowed
      simp only [SharedStores.answer, Qdrant.handler, Program.Faults.carryOut_refusing,
        Option.some.injEq] at answered
      split at answered
      · cases answered
        exact ⟨identity, identified.still rfl rfl rfl rfl rfl⟩
      · split at answered
        · cases answered
          refine ⟨some person, ?_⟩
          rw [named]
          refine identified.index { owner, point } named ?_ ?_ rfl rfl rfl
          · rw [← id]
            rfl
          · show close embedding point.vector
            rw [vector]
            exact recalled
        · cases answered
          exact ⟨identity, identified.still rfl rfl rfl rfl rfl⟩

/-- **What an answered call does**: rows read are those asked for, and the invariant
stays. -/
theorem answer (identified : Identified close embedding detections initial identity phases stores)
    {engine : Engine} (compares : engine.Compares matchThreshold close)
    (recalled : close embedding embedding) {moment : Program.Answers Call Reply}
    {request : Call} {reply : Reply request}
    (allowed : (phases worker).2.Allows embedding (detections worker) request)
    (met : ∀ collection query limit threshold,
      request = .qdrant (.queryPoints collection query limit threshold) →
        (∀ other, other ≠ worker → stores.unindexed other = false) ∧
          (raised (.queryPoints collection query limit threshold)
            (moment (.qdrant (.queryPoints collection query limit threshold))) = true →
              stores.indexed = false))
    (answered : SharedStores.answer engine moment worker request stores = some (reply, after)) :
    ReadsKeyed request reply ∧
      ∃ identity, Identified close embedding detections initial identity
        (Function.update phases worker (detections worker, (phases worker).2.next request reply))
        after := by
  cases request with
  | qdrant request =>
      refine ⟨trivial, identified.answer_qdrant compares recalled allowed ?_ answered⟩
      rintro collection query limit threshold rfl
      exact met _ _ _ _ rfl
  | openSession =>
      cases answered
      exact ⟨trivial, identity, identified.reset⟩
  | rollback =>
      cases answered
      exact ⟨trivial, identity, identified.reset⟩
  | uuid4 =>
      cases answered
      refine ⟨trivial, identity, ?_⟩
      rcases allowed with missed | ⟨person, named⟩
      · rw [missed]
        exact identified.mint missed _
      · have same : Identified close embedding detections initial identity
            (Function.update phases worker (detections worker, (phases worker).2)) stores :=
          identified.still rfl rfl rfl rfl rfl
        rw [named] at same ⊢
        exact same
  | selectPerson site id =>
      obtain ⟨⟨reply', server⟩, selected, same⟩ := Option.map_eq_some_iff.mp answered
      cases same
      obtain ⟨keyed, database, sessions⟩ := Server.readsKeyed_of_selectPerson selected
      exact ⟨keyed, identity, identified.still rfl database sessions rfl rfl⟩
  | addPerson person =>
      obtain ⟨isIndexed, named⟩ := allowed
      cases answered
      refine ⟨trivial, identity, ?_⟩
      rw [named]
      refine identified.collect named rfl fun id same => ?_
      cases same
  | updatePerson person =>
      obtain ⟨isIndexed, named⟩ := allowed
      cases answered
      refine ⟨trivial, identity, ?_⟩
      rw [named]
      refine identified.collect named rfl fun id same => ?_
      cases same
  | addTrackingEvent event =>
      obtain ⟨person, named, own⟩ := allowed
      cases answered
      refine ⟨trivial, identity, ?_⟩
      rw [named]
      refine identified.collect named ?_ ?_
      · rw [own]
        exact rfl
      · rintro id ⟨⟩
        rw [← own]
  | commit =>
      obtain ⟨person, event, named⟩ := allowed
      obtain ⟨⟨reply', server⟩, sent, same⟩ := Option.map_eq_some_iff.mp answered
      cases same
      refine ⟨trivial, identity, ?_⟩
      simp only [Server.answer] at sent
      split at sent
      · cases sent
        exact identified.still rfl rfl rfl rfl rfl
      · unfold Server.commit at sent
        split at sent
        · rename_i database accepted
          cases sent
          rw [named]
          exact identified.commit named accepted
        · cases sent
          exact identified.still rfl rfl rfl rfl rfl
  | dumps _ | produce _ _ _ | pollProducer => cases allowed

end Identified

/-- Every state of a run in which the workers search alone is one in which they agree. -/
theorem tracked_of_alone {engine : Engine} {close : Json → Json → Prop} {embedding : Json}
    (compares : engine.Compares matchThreshold close) (recalled : close embedding embedding)
    {database : Database} {qdrant : Qdrant} {checked : ι → Bool} {payloads : ι → Json}
    {detections : ι → Detection}
    (sightings : ∀ worker, SearchableEvent embedding (payloads worker) (detections worker))
    (unmatched : ∀ id entry, qdrant.points id = some entry → ¬ close embedding entry.point.vector)
    {moves : List (NewPersonMove ι)} {after : NewPersonPool ι}
    (alone : Meets SearchesAlone (newPersonSurroundings engine payloads).step
      (NewPersonPool.start database qdrant checked payloads) moves)
    (reached : runFrom (newPersonSurroundings engine payloads).step
      (NewPersonPool.start database qdrant checked payloads) moves = some after) :
    after.Tracked (Program.Rules.each (naming embedding))
      (fun result phase => Ended result phase.2)
      (Agreed close embedding detections database) := by
  have keeps : ∀ worker stage, Program.wp (Program.Rules.each (naming embedding))
      (fun result phase => Ended result phase.2) (processMessageCallback (payloads worker)).run
      (detections worker, stage) := fun worker stage =>
    Program.wp_each.mpr (processMessageCallback_names (sightings worker) stage)
  have start : (NewPersonPool.start database qdrant checked payloads).Tracked
      (Program.Rules.each (naming embedding)) (fun result phase => Ended result phase.2)
        (Agreed close embedding detections database) :=
    ⟨_, ⟨none, Identified.start unmatched⟩, fun worker => keeps worker .searching⟩
  refine Surroundings.tracked ?_ ?_ start alone reached
  · rintro pool phases worker moment request next reply stores ⟨identity, identified⟩ - waiting
      allowed met answered
    have made := identified.made worker
    replace allowed : (phases worker).2.Allows embedding (phases worker).1 request := allowed
    rw [made] at allowed
    have outcome := identified.answer compares recalled allowed (fun _ _ _ _ same => by
      subst same
      rw [SearchesAlone, waiting] at met
      exact met) answered
    show ReadsKeyed request reply ∧ Agreed close embedding detections database
      (Function.update phases worker ((phases worker).1, (phases worker).2.next request reply))
      stores
    rw [made]
    exact outcome
  · rintro pool worker next ⟨phases, identified, holds⟩ - happened
    simp only [newPersonSurroundings] at happened
    split at happened
    · cases happened
      -- the worker begins again from the stage it is in, and nothing else changes
      obtain ⟨identity, identified⟩ := identified
      exact ⟨_, ⟨identity, identified.still rfl rfl rfl rfl rfl⟩,
        Pool.wp_resume holds (keeps worker (phases worker).2)⟩
    · cases happened

/-- **Workers that see a new person agree on it.**  Whatever is in the tables, in
whatever order calls are answered and transactions tried again: when an embedding is
close to no stored vector, no worker searches while another one has searched in vain
and not indexed a vector since, and no search fails after a vector is indexed, at
most one new person is committed and every new tracking row is for it. -/
theorem onePerson_of_alone {engine : Engine} {close : Json → Json → Prop} (embedding : Json)
    (compares : engine.Compares matchThreshold close) (recalled : close embedding embedding)
    (database : Database) (qdrant : Qdrant) (checked : ι → Bool) (payloads : ι → Json)
    (detections : ι → Detection)
    (sightings : ∀ worker, SearchableEvent embedding (payloads worker) (detections worker))
    (unmatched : ∀ id entry, qdrant.points id = some entry → ¬ close embedding entry.point.vector)
    {moves : List (NewPersonMove ι)} {after : NewPersonPool ι}
    (alone : Meets SearchesAlone (newPersonSurroundings engine payloads).step
      (NewPersonPool.start database qdrant checked payloads) moves)
    (reached : runFrom (newPersonSurroundings engine payloads).step
      (NewPersonPool.start database qdrant checked payloads) moves = some after) :
    OnePerson database detections after := by
  obtain ⟨phases, ⟨identity, identified⟩, holds⟩ :=
    tracked_of_alone compares recalled sightings unmatched alone reached
  refine ⟨fun id other new new' there there' => ?_, fun event member other member' new new' => ?_,
    fun worker done => ?_⟩
  · have first := (identified.persons id there).resolve_left (by simp [new])
    have second := (identified.persons other there').resolve_left (by simp [new'])
    exact Option.some.inj (first.symm.trans second)
  · obtain ⟨person, known, first⟩ := (identified.events event member).resolve_left new
    obtain ⟨person', known', second⟩ := (identified.events other member').resolve_left new'
    rw [first, second, ← known, known']
  · have ended := holds worker
    unfold isDone at done
    split at done
    · rename_i none
      rw [none] at ended
      obtain ⟨person, event, finished⟩ := ended
      exact ⟨event, person, identified.logged worker person event finished⟩
    · cases done

/-! ## Two workers -/

/-- A search engine for vectors that are all close: it returns the point with an id,
and some other point where that one is missing. -/
noncomputable def Engine.first (id : PointId) : Engine := fun q _ limit _ =>
  open Classical in
  if limit = 0 then []
  else if (q.points id).isSome then [{ id, score := .finite false 1 0, payload := .null }]
  else if there : ∃ other, (q.points other).isSome then
    [{ id := there.choose, score := .finite false 1 0, payload := .null }]
  else []

/-- Any two vectors are close. -/
def alwaysClose (_ _ : Json) : Prop := True

theorem compares_first (id : PointId) (threshold : PyFloat) :
    (Engine.first id).Compares threshold alwaysClose where
  sound q query limit found member := by
    unfold Engine.first at member
    split at member
    · cases member
    · split at member
      · rename_i present
        rw [List.mem_singleton.mp member]
        obtain ⟨entry, there⟩ := Option.isSome_iff_exists.mp present
        exact ⟨entry, there, trivial⟩
      · split at member
        · rename_i others
          rw [List.mem_singleton.mp member]
          obtain ⟨entry, there⟩ := Option.isSome_iff_exists.mp others.choose_spec
          exact ⟨entry, there, trivial⟩
        · cases member
  complete q query limit other entry positive there _ := by
    unfold Engine.first
    rw [if_neg (Nat.pos_iff_ne_zero.mp positive)]
    split
    · exact List.cons_ne_nil _ _
    · rw [dif_pos ⟨other, by rw [there]; rfl⟩]
      exact List.cons_ne_nil _ _

/-- The UUIDs the two workers mint. -/
def exampleMinted : Fin 2 → Uuid
  | 0 => .ofNat 1
  | 1 => .ofNat 2

/-- A call of a worker that succeeds. -/
def succeeds (worker : Fin 2) : NewPersonMove (Fin 2) :=
  .answer worker (Workers.exampleAnswers [] (exampleMinted worker))

/-- A search of a worker that fails. -/
def searchFails (worker : Fin 2) : NewPersonMove (Fin 2) :=
  .answer worker fun
    | .qdrant (.queryPoints _ _ _ _) => .error .qdrantError
    | request => Workers.exampleAnswers [] (exampleMinted worker) request

/-- Two workers with one sighting each. -/
def exampleSightings : Fin 2 → Json
  | 0 => exampleSighting "20"
  | 1 => exampleSighting "30"

/-- What they read. -/
def exampleDetections : Fin 2 → Detection
  | 0 => (readEvent (exampleSighting "20")).toOption.get rfl
  | 1 => (readEvent (exampleSighting "30")).toOption.get rfl

theorem searchable_example (worker : Fin 2) :
    SearchableEvent exampleEmbedding (exampleSightings worker) (exampleDetections worker) := by
  match worker with
  | 0 => exact ⟨rfl, rfl, rfl, isReidVector_exampleEmbedding⟩
  | 1 => exact ⟨rfl, rfl, rfl, isReidVector_exampleEmbedding⟩

/-- Both are about to process their event, on empty stores. -/
def exampleNewPersons : NewPersonPool (Fin 2) :=
  NewPersonPool.start Database.empty Qdrant.empty (fun _ => true) exampleSightings

instance (pool : NewPersonPool (Fin 2)) (move : NewPersonMove (Fin 2)) :
    Decidable (SearchesAlone pool move) :=
  match move with
  | .happen _ => isTrue trivial
  | .answer worker _ => by
      unfold SearchesAlone
      dsimp only
      split <;> infer_instance

/-- One worker searches in vain, because its search fails, and creates the person;
then the other one finds it. -/
def oneAfterTheOther (first second : Fin 2) : List (NewPersonMove (Fin 2)) :=
  List.replicate 2 (succeeds first) ++ [searchFails first] ++
    List.replicate 8 (succeeds first) ++ List.replicate 9 (succeeds second)

theorem onePerson_of_alone_example :
    ∃ after, runFrom (newPersonSurroundings (Engine.first (.str (exampleMinted 0).toText))
        exampleSightings).step exampleNewPersons (oneAfterTheOther 0 1) = some after ∧
      OnePerson Database.empty exampleDetections after := by
  have returns : (runFrom (newPersonSurroundings (Engine.first (.str (exampleMinted 0).toText))
      exampleSightings).step exampleNewPersons (oneAfterTheOther 0 1)).isSome = true := by
    decide +kernel
  obtain ⟨after, reached⟩ := Option.isSome_iff_exists.mp returns
  exact ⟨after, reached, onePerson_of_alone exampleEmbedding (compares_first _ _) trivial
    Database.empty Qdrant.empty (fun _ => true) exampleSightings exampleDetections
    searchable_example
    nofun (by decide +kernel) reached⟩

/-- **Two new persons**: both workers search before either indexes its vector, no call
fails, and both are done. -/
theorem two_persons :
    ∃ after, runFrom (newPersonSurroundings (Engine.only (.str (exampleMinted 0).toText))
        exampleSightings).step exampleNewPersons
          (List.replicate 3 (succeeds 0) ++ List.replicate 3 (succeeds 1) ++
            List.replicate 8 (succeeds 0) ++ List.replicate 8 (succeeds 1)) = some after ∧
      isDone after 0 = true ∧ isDone after 1 = true ∧
        ¬ OnePerson Database.empty exampleDetections after := by
  have both : ∃ pool ∈ runFrom (newPersonSurroundings
      (Engine.only (.str (exampleMinted 0).toText)) exampleSightings).step exampleNewPersons
        (List.replicate 3 (succeeds 0) ++ List.replicate 3 (succeeds 1) ++
          List.replicate 8 (succeeds 0) ++ List.replicate 8 (succeeds 1)),
      isDone pool 0 = true ∧ isDone pool 1 = true ∧
        (pool.shared.server.database.persons (exampleMinted 0)).isSome = true ∧
          (pool.shared.server.database.persons (exampleMinted 1)).isSome = true := by
    decide +kernel
  obtain ⟨after, reached, done, done', first, second⟩ := both
  refine ⟨after, reached, done, done', fun one => ?_⟩
  exact absurd (one.persons _ _ rfl rfl first second) (by decide)

end PersonTracking.Analytics
