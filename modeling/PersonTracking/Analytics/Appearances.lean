import PersonTracking.Analytics.Summaries
import PersonTracking.Analytics.Workers

/-!
# Person rows and the event log under concurrent workers

`upsert_person` writes what it was given into the row it finds.  Where the row is
the one `get_by_id` has found, the transaction holds it locked since then, and
the row it saves counts one more appearance.  A row that `get_by_id` has not
found is not locked either; when another worker commits it in between,
`upsert_person` finds it and starts it over.

`summarised_of_findsOwn` is the first half: as long as every row that
`upsert_person` finds is one its transaction holds, every row summarises the
events of its person, in every state any number of workers can reach.
`appearance_lost` is the second half.
-/

namespace PersonTracking.Analytics

open Library Python Shared Domain

variable {ι : Type}

/-- What happens next to the workers. -/
abbrev WorkerMove (ι : Type) : Type := PoolMove ι (Program.Answers Call Reply) (Happening ι)

/-- A row that `upsert_person` finds is one its transaction holds already. -/
def FindsOwn (pool : WorkerPool ι) : WorkerMove ι → Prop
  | .happen _ => True
  | .answer worker _ =>
      match pool.residual worker with
      | .call (.selectPerson .upsertPerson id) _ =>
          (pool.shared.database.persons id).isSome = true → pool.shared.locks id = some worker
      | _ => True

instance [DecidableEq ι] (pool : WorkerPool ι) (move : WorkerMove ι) :
    Decidable (FindsOwn pool move) :=
  match move with
  | .happen _ => isTrue trivial
  | .answer worker _ => by
      unfold FindsOwn
      dsimp only
      split <;> infer_instance

/-! ## What a transaction knows -/

/-- A transaction and its draft: what it has collected, and what it has read and
holds locked. -/
structure Server.Holds (server : Server ι) (worker : ι) (payload : Json) (draft : Draft) :
    Prop where
  timely : ∀ detection, readEvent payload = .ok detection → detection.kind = .person →
    detection.timestamp.isAware = true
  session : server.sessions worker = draft.session
  unmatched : draft.matched = none → ∀ id, server.locks id ≠ some worker
  missing : ∀ id, draft.matched = some (id, none) → server.locks id ≠ some worker
  counted : ∀ id old, draft.matched = some (id, some old) →
    server.locks id = some worker ∧ server.database.persons id = some old
  overwritten : ∀ id row, draft.saved = some (id, some row) → server.locks id = some worker

/-- Rows are locked only where they are, and every transaction has its draft. -/
structure Server.Tracks (phases : ι → Json × Draft) (server : Server ι) : Prop where
  summarised : server.database.Summarised
  present : ∀ id worker, server.locks id = some worker → (server.database.persons id).isSome = true
  holds : ∀ worker, server.Holds worker (phases worker).1 (phases worker).2

/-- What only one worker has a share in: the others have their sessions, their
locks and the rows they hold. -/
structure Server.Frames (worker : ι) (server after : Server ι) : Prop where
  sessions : ∀ other, other ≠ worker → after.sessions other = server.sessions other
  locks : ∀ other, other ≠ worker → ∀ id, after.locks id = some other ↔ server.locks id = some other
  rows : ∀ other, other ≠ worker → ∀ id, server.locks id = some other →
    after.database.persons id = server.database.persons id

namespace Server

variable {server after : Server ι} {worker : ι} {payload : Json} {draft : Draft}
  {phases : ι → Json × Draft}

theorem frames_refl (worker : ι) (server : Server ι) : Frames worker server server where
  sessions _ _ := rfl
  locks _ _ _ := Iff.rfl
  rows _ _ _ _ := rfl

theorem frames_lock {id : Uuid} (free : server.locks id = none ∨ server.locks id = some worker) :
    Frames worker server (server.lock worker id) where
  sessions _ _ := rfl
  locks := by
    intro other different asked
    show Function.update server.locks id (some worker) asked = some other ↔ _
    rw [Function.update_apply]
    split
    · rename_i here
      subst here
      rw [Option.some.injEq]
      refine iff_of_false different.symm fun held => ?_
      rcases free with unlocked | own
      · rw [unlocked] at held
        cases held
      · rw [own, Option.some.injEq] at held
        exact different held.symm
    · exact Iff.rfl
  rows _ _ _ _ := rfl

/-- What a worker knows outlasts what the others do. -/
theorem Holds.frame {other : ι} (holds : server.Holds other payload draft)
    (frames : Frames worker server after) (different : other ≠ worker) :
    after.Holds other payload draft where
  timely := holds.timely
  session := (frames.sessions other different).trans holds.session
  unmatched none id held := holds.unmatched none id ((frames.locks other different id).mp held)
  missing id none held := holds.missing id none ((frames.locks other different id).mp held)
  counted := by
    intro id old matched
    obtain ⟨held, there⟩ := holds.counted id old matched
    exact ⟨(frames.locks other different id).mpr held,
      (frames.rows other different id held).trans there⟩
  overwritten id row saved := (frames.locks other different id).mpr (holds.overwritten id row saved)

/-- A sighting whose row was there when it was saved holds that row locked. -/
theorem Holds.locked_of_sent (holds : server.Holds worker payload draft) {timestamp : DateTime}
    {person : Person} {event : TrackingEvent} (sights : draft.Sights timestamp person event)
    {database : Database} (sent : server.database.sendAll draft.session = some database)
    (there : (server.database.persons person.id).isSome = true) :
    server.locks person.id = some worker := by
  obtain ⟨row, reads, written⟩ := sights.written
  rw [written] at sent
  rw [← Database.isSome_of_sendAll sent] at there
  obtain ⟨old, rfl⟩ := Option.isSome_iff_exists.mp there
  exact holds.overwritten person.id old reads

variable [DecidableEq ι]

theorem frames_collect (server : Server ι) (worker : ι) (write : Write) :
    Frames worker server (server.collect worker write) where
  sessions _ different := Function.update_of_ne different _ _
  locks _ _ _ := Iff.rfl
  rows _ _ _ _ := rfl

theorem frames_release (server : Server ι) (worker : ι) :
    Frames worker server (server.release worker) where
  sessions _ different := Function.update_of_ne different _ _
  locks := by
    intro other different id
    show (if server.locks id = some worker then none else server.locks id) = some other ↔ _
    split
    · rename_i own
      rw [own, Option.some.injEq]
      exact iff_of_false (by rintro ⟨⟩) different.symm
    · exact Iff.rfl
  rows _ _ _ _ := rfl

/-- A worker's own step, framed. -/
theorem Tracks.move (tracks : Tracks phases server) (frames : Frames worker server after)
    (summarised : after.database.Summarised)
    (present : ∀ id, after.locks id = some worker → (after.database.persons id).isSome = true)
    (own : after.Holds worker payload draft) :
    Tracks (Function.update phases worker (payload, draft)) after where
  summarised := summarised
  present := by
    intro id other held
    by_cases same : other = worker
    · exact present id (same ▸ held)
    · have before := (frames.locks other same id).mp held
      rw [frames.rows other same id before]
      exact tracks.present id other before
  holds := by
    intro other
    by_cases same : other = worker
    · subst same
      rw [Function.update_self]
      exact own
    · rw [Function.update_of_ne same]
      exact (tracks.holds other).frame frames same

/-- Who has ended a transaction holds nothing. -/
theorem locks_release_ne (server : Server ι) (worker : ι) (id : Uuid) :
    (server.release worker).locks id ≠ some worker := by
  show (if server.locks id = some worker then none else server.locks id) ≠ some worker
  split
  · exact (Option.some_ne_none worker).symm
  · assumption

/-! ## What an answered call does -/

/-- Nothing read, nothing held and nothing collected. -/
theorem Holds.released (holds : server.Holds worker payload draft) {fresh : Draft}
    (unread : fresh.matched = none ∧ fresh.saved = none) (blank : fresh.session = [])
    (database : Database) :
    ((server.release worker).setDatabase database).Holds worker payload fresh := by
  constructor
  · exact holds.timely
  · exact (Function.update_self _ _ _).trans blank.symm
  · exact fun _ id => locks_release_ne server worker id
  · exact fun id _ => locks_release_ne server worker id
  · intro id old matched
    rw [unread.1] at matched
    cases matched
  · intro id row saved
    rw [unread.2] at saved
    cases saved

/-- The end of a transaction that changes no table. -/
theorem Tracks.release (tracks : Tracks phases server) {fresh : Draft}
    (unread : fresh.matched = none ∧ fresh.saved = none) (blank : fresh.session = []) :
    Tracks (Function.update phases worker ((phases worker).1, fresh)) (server.release worker) := by
  have own := (tracks.holds worker).released unread blank server.database
  refine tracks.move (frames_release server worker) tracks.summarised ?_ own
  exact fun id held => absurd held (locks_release_ne server worker id)

/-- A write collected. -/
theorem Tracks.collect (tracks : Tracks phases server) (worker : ι) (write : Write) :
    Tracks (Function.update phases worker ((phases worker).1, (phases worker).2.collect write))
      (server.collect worker write) := by
  have holds := tracks.holds worker
  refine tracks.move (frames_collect server worker write) tracks.summarised
    (fun id held => tracks.present id worker held) ?_
  refine { holds with session := ?_ }
  show Function.update server.sessions worker _ worker = (phases worker).2.session ++ [write]
  rw [Function.update_self, holds.session]

/-- An answer that leaves draft and server alone. -/
theorem Tracks.stay (tracks : Tracks phases server) (worker : ι) :
    Tracks (Function.update phases worker ((phases worker).1, (phases worker).2)) server := by
  rw [Prod.mk.eta, Function.update_eq_self]
  exact tracks

/-- `get_by_id` has found no row. -/
theorem Tracks.getMissing (tracks : Tracks phases server) {id : Uuid}
    (absent : server.database.persons id = none) :
    Tracks (Function.update phases worker
      ((phases worker).1, { (phases worker).2 with matched := some (id, none) })) server := by
  have holds := tracks.holds worker
  refine tracks.move (frames_refl worker server) tracks.summarised
    (fun id held => tracks.present id worker held) ?_
  refine { holds with unmatched := ?_, missing := ?_, counted := ?_ }
  · rintro ⟨⟩
  · rintro other ⟨⟩ held
    have there := tracks.present id worker held
    rw [absent] at there
    cases there
  · rintro other old ⟨⟩

/-- `get_by_id` has found a row and locked it. -/
theorem Tracks.getFound (tracks : Tracks phases server) {id : Uuid} {row : Person}
    (there : server.database.persons id = some row)
    (free : server.locks id = none ∨ server.locks id = some worker) :
    Tracks (Function.update phases worker
      ((phases worker).1, { (phases worker).2 with matched := some (id, some row) }))
      (server.lock worker id) := by
  have holds := tracks.holds worker
  have locked : (server.lock worker id).locks id = some worker := Function.update_self _ _ _
  refine tracks.move (frames_lock free) tracks.summarised ?_ ?_
  · intro other held
    by_cases same : other = id
    · rw [same]
      exact Option.isSome_iff_exists.mpr ⟨row, there⟩
    · have before : Function.update server.locks id (some worker) other = some worker := held
      rw [Function.update_of_ne same] at before
      exact tracks.present other worker before
  · refine { holds with unmatched := ?_, missing := ?_, counted := ?_, overwritten := ?_ }
    · rintro ⟨⟩
    · rintro other ⟨⟩
    · rintro other old ⟨⟩
      exact ⟨locked, there⟩
    · intro other old saved
      show Function.update server.locks id (some worker) other = some worker
      rw [Function.update_apply]
      split
      · rfl
      · exact holds.overwritten other old saved

/-- `upsert_person` has found no row. -/
theorem Tracks.upsertMissing (tracks : Tracks phases server) (worker : ι) (id : Uuid) :
    Tracks (Function.update phases worker
      ((phases worker).1, { (phases worker).2 with saved := some (id, none) })) server := by
  have holds := tracks.holds worker
  refine tracks.move (frames_refl worker server) tracks.summarised
    (fun id held => tracks.present id worker held) ?_
  refine { holds with overwritten := ?_ }
  rintro other row ⟨⟩

/-- `upsert_person` has found a row its transaction holds. -/
theorem Tracks.upsertFound (tracks : Tracks phases server) {id : Uuid} {row : Person}
    (own : server.locks id = some worker) :
    Tracks (Function.update phases worker
      ((phases worker).1, { (phases worker).2 with saved := some (id, some row) }))
      (server.lock worker id) := by
  have holds := tracks.holds worker
  -- the lock is the worker's own already
  have same : server.lock worker id = server := by
    unfold lock
    rw [← own, Function.update_eq_self]
  rw [same]
  refine tracks.move (frames_refl worker server) tracks.summarised
    (fun id held => tracks.present id worker held) ?_
  refine { holds with overwritten := ?_ }
  rintro other old ⟨⟩
  exact own

/-- **A commit keeps the rows summarised**, and changes no row another
transaction holds. -/
theorem Tracks.commit (tracks : Tracks phases server) {database : Database}
    (complete : (phases worker).2.Complete (phases worker).1)
    (sent : server.database.sendAll (server.sessions worker) = some database) :
    Tracks (Function.update phases worker
      ((phases worker).1, { Draft.empty with committed := true }))
      ((server.release worker).setDatabase database) := by
  have holds := tracks.holds worker
  rw [holds.session] at sent
  have own : ((server.release worker).setDatabase database).Holds worker (phases worker).1
      { Draft.empty with committed := true } := holds.released ⟨rfl, rfl⟩ rfl database
  have freed := frames_release server worker
  have effect : database.Summarised ∧ ∀ other, other ≠ worker → ∀ id,
      server.locks id = some other → database.persons id = server.database.persons id := by
    rcases complete with blank | ⟨detection, person, event, read, kind, sights⟩
    · rw [blank, Database.sendAll_nil, Option.some.injEq] at sent
      rw [← sent]
      exact ⟨tracks.summarised, fun _ _ _ _ => rfl⟩
    · constructor
      · refine tracks.summarised.sights sights (holds.timely detection read kind)
          (fun old matched => (holds.counted person.id old matched).2) (fun unseen => ?_) sent
        -- a row that is there was found by `upsert_person`, hence locked, hence read before
        by_contra there
        have held := holds.locked_of_sent sights sent (Option.isSome_iff_ne_none.mpr there)
        rcases unseen with unmatched | missing
        · exact holds.unmatched unmatched person.id held
        · exact holds.missing person.id missing held
      · intro other different id locked
        -- two transactions do not hold one row
        have elsewhere : id ≠ person.id := by
          rintro rfl
          have held := holds.locked_of_sent sights sent (tracks.present _ other locked)
          rw [held, Option.some.injEq] at locked
          exact different locked.symm
        obtain ⟨row, -, written⟩ := sights.written
        rw [written] at sent
        rw [(Database.sendAll_sights sent).1, Function.update_of_ne elsewhere]
  refine tracks.move ⟨freed.sessions, freed.locks, effect.2⟩ effect.1 ?_ own
  intro id held
  exact absurd held (locks_release_ne server worker id)

/-- **An answered call keeps drafts and server in step.** -/
theorem Tracks.answer {request : Call} {reply : Reply request}
    {moment : Program.Answers Call Reply} (tracks : Tracks phases server)
    (allowed : (Program.Rules.each drafting).allowed (phases worker) request)
    (own : ∀ id, request = .selectPerson .upsertPerson id →
      (server.database.persons id).isSome = true → server.locks id = some worker)
    (answered : Server.answer moment worker request server = some (reply, after)) :
    (Program.Rules.each drafting).admits (phases worker) request reply ∧
      Tracks (Function.update phases worker
        ((Program.Rules.each drafting).after (phases worker) request reply)) after := by
  cases request with
  | openSession =>
      cases answered
      exact ⟨trivial, tracks.release ⟨rfl, rfl⟩ rfl⟩
  | rollback =>
      cases answered
      exact ⟨trivial, tracks.release ⟨rfl, rfl⟩ rfl⟩
  | addPerson person =>
      cases answered
      exact ⟨trivial, tracks.collect worker (.insertPerson person)⟩
  | updatePerson person =>
      cases answered
      exact ⟨trivial, tracks.collect worker (.updatePerson person)⟩
  | addTrackingEvent event =>
      cases answered
      exact ⟨trivial, tracks.collect worker (.insertEvent event)⟩
  | qdrant _ | uuid4 | dumps _ | produce _ _ _ | pollProducer =>
      cases answered
      exact ⟨trivial, tracks.stay worker⟩
  | commit =>
      simp only [Server.answer] at answered
      split at answered
      · cases answered
        exact ⟨trivial, tracks.stay worker⟩
      · rw [Option.some.injEq, Server.commit] at answered
        split at answered
        · rename_i database sent
          cases answered
          exact ⟨trivial, tracks.commit allowed.2 sent⟩
        · cases answered
          exact ⟨trivial, tracks.stay worker⟩
  | selectPerson site id =>
      simp only [Server.answer] at answered
      split at answered
      · cases answered
        cases site with
        | getById => exact ⟨trivial, tracks.stay worker⟩
        | upsertPerson => exact ⟨trivial, tracks.stay worker⟩
      · rw [select] at answered
        split at answered
        · rename_i absent
          cases answered
          refine ⟨fun person wrong => (Option.some_ne_none person wrong.symm).elim, ?_⟩
          cases site with
          | getById => exact tracks.getMissing absent
          | upsertPerson => exact tracks.upsertMissing worker id
        · rename_i row there
          split at answered
          · rename_i free
            cases answered
            refine ⟨fun person same => ?_, ?_⟩
            · rw [← Option.some_inj.mp same]
              exact server.database.keyed id row there
            · cases site with
              | getById => exact tracks.getFound there free
              | upsertPerson =>
                  exact tracks.upsertFound (own id rfl (Option.isSome_iff_exists.mpr ⟨row, there⟩))
          · cases answered

end Server

/-! ## Every run -/

namespace Workers

/-- Drafts describe the workers: they are in step with the server, and every
worker keeps to the discipline of its transaction. -/
abbrev Tracked (pool : WorkerPool ι) : Prop :=
  pool.Tracked (Program.Rules.each drafting) (fun _ _ => True) Server.Tracks

theorem tracked_start : Tracked (start : WorkerPool ι) := by
  refine ⟨fun _ => (.null, .empty), ⟨Database.summarised_empty, ?_, fun worker => ?_⟩,
    fun _ => trivial⟩
  · intro id worker held
    cases held
  · refine ⟨fun detection read => ?_, rfl, fun _ id held => ?_, ?_, ?_, ?_⟩
    · cases read
    · cases held
    · rintro id ⟨⟩
    · rintro id old ⟨⟩
    · rintro id row ⟨⟩

variable [DecidableEq ι] {pool after : WorkerPool ι} {phases : ι → Json × Draft}

/-- A worker that is given a new event, or none, does not disturb the others. -/
theorem tracked_resume {worker : ι} {rest : Program Call Reply (Except PyError Unit)}
    {server : Server ι} {phase : Json × Draft}
    (others : ∀ other, Program.wp (Program.Rules.each drafting) (fun _ _ => True)
      (pool.residual other) (phases other))
    (tracks : Server.Tracks (Function.update phases worker phase) server)
    (keeps : Program.wp (Program.Rules.each drafting) (fun _ _ => True) rest phase) :
    Tracked (pool.resume worker rest server) := ⟨_, tracks, Pool.wp_resume others keeps⟩

/-- **What happens to a worker** leaves drafts and server in step. -/
theorem tracked_happen {happening : Happening ι} (tracked : Tracked pool)
    (happened : happen happening pool = some after) : Tracked after := by
  obtain ⟨phases, tracks, others⟩ := tracked
  cases happening with
  | crash worker =>
      cases happened
      have ended : Server.Tracks (Function.update phases worker ((phases worker).1, Draft.empty))
          (pool.shared.release worker) := tracks.release ⟨rfl, rfl⟩ rfl
      exact tracked_resume others ended trivial
  | receive worker payload =>
      rw [happen] at happened
      split at happened
      · cases happened
      · split at happened
        · rename_i timely
          cases happened
          -- what is left of the last draft is dropped by the `openSession` to come
          have own : pool.shared.Holds worker payload
              { (phases worker).2 with committed := false } :=
            { tracks.holds worker with
              timely := fun detection read person => isAware_of_isTimely timely read person }
          have moved := tracks.move (Server.frames_refl worker pool.shared) tracks.summarised
            (fun id held => tracks.present id worker held) own
          refine tracked_resume others moved (Program.wp_each.mpr ?_)
          exact Program.wp_mono (fun _ _ _ => trivial) (processMessageCallback_drafts rfl)
        · cases happened

/-- **Person rows agree with the event log** in every state that workers on empty
tables reach, as long as `upsert_person` finds only rows its transaction holds:
the row counts the person's events and spans their instants. -/
theorem summarised_of_findsOwn {moves : List (WorkerMove ι)} {after : WorkerPool ι} {id : Uuid}
    {person : Person}
    (guarded : Meets FindsOwn surroundings.step (start : WorkerPool ι) moves)
    (reached : runFrom surroundings.step start moves = some after)
    (row : after.shared.database.persons id = some person) :
    person.Summarises (after.shared.database.timesOf id) ∧
      person.firstSeen.instant ≤ person.lastSeen.instant ∧ 1 ≤ person.totalAppearances := by
  have tracked : Tracked after := by
    refine Surroundings.tracked ?_ ?_ tracked_start guarded reached
    · intro pool phases worker moment request next reply server tracks _ waiting allowed met
        answered
      refine tracks.answer allowed (fun id same => ?_) answered
      subst same
      rw [FindsOwn, waiting] at met
      exact met
    · intro pool event after tracked _ happened
      exact tracked_happen tracked happened
  obtain ⟨phases, tracks, -⟩ := tracked
  have summarises := tracks.summarised.rows id person row
  exact ⟨summarises, summarises.ordered, summarises.positive⟩

/-! ### Two workers -/

/-- No call raises; the search finds these points, and these UUIDs are minted. -/
def exampleAnswers (found : List ScoredPoint) (minted : Uuid) : Program.Answers Call Reply
  | .openSession | .addPerson _ | .updatePerson _ | .addTrackingEvent _ => ()
  | .qdrant .collectionChecked => true
  | .qdrant .markCollectionChecked => ()
  | .qdrant .getCollections => .ok [QdrantVectorStore.collectionName]
  | .qdrant (.createCollection _) | .qdrant (.upsert _ _ _) | .qdrant (.delete _ _) => .ok ()
  | .qdrant (.queryPoints _ _ _ _) => .ok found
  | .uuid4 => minted
  | .selectPerson _ _ => .ok none
  | .dumps _ | .produce _ _ _ | .pollProducer | .commit | .rollback => .ok ()

/-- The person both workers see. -/
def examplePerson : Uuid := ⟨1, by decide⟩

/-- Worker 0 has that many calls answered: its search finds nothing, so it
creates the person. -/
def creates (n : ℕ) : List (WorkerMove (Fin 2)) :=
  List.replicate n (.answer 0 (exampleAnswers [] examplePerson))

/-- Worker 1 has that many calls answered: its search finds the person. -/
def matchesPerson (n : ℕ) : List (WorkerMove (Fin 2)) :=
  List.replicate n (.answer 1 (exampleAnswers
    [{ id := .str examplePerson.toText, score := .finite false 1 0, payload := .null }]
    ⟨2, by decide⟩))

/-- Both receive a person event, worker 1 the later one. -/
def receiveBoth : List (WorkerMove (Fin 2)) :=
  [.happen (.receive 0 (exampleSighting "20")), .happen (.receive 1 (exampleSighting "30"))]

theorem summarised_of_findsOwn_example :
    ∃ after person,
      runFrom surroundings.step start (receiveBoth ++ creates 11 ++ matchesPerson 9) = some after ∧
        after.shared.database.persons examplePerson = some person ∧
          person.Summarises (after.shared.database.timesOf examplePerson) ∧
            person.firstSeen.instant ≤ person.lastSeen.instant ∧ 1 ≤ person.totalAppearances := by
  have guarded : Meets FindsOwn surroundings.step start
      (receiveBoth ++ creates 11 ++ matchesPerson 9) := by decide +kernel
  have row : ((runFrom surroundings.step start (receiveBoth ++ creates 11 ++ matchesPerson 9)).bind
      fun pool => pool.shared.database.persons examplePerson).isSome = true := by decide +kernel
  obtain ⟨person, found⟩ := Option.isSome_iff_exists.mp row
  obtain ⟨after, reached, there⟩ := Option.bind_eq_some_iff.mp found
  exact ⟨after, person, reached, there, summarised_of_findsOwn guarded reached there⟩

/-- **An appearance is lost**: worker 0 creates a person and indexes the vector;
worker 1 finds the vector, but no row yet; worker 0 commits; now the
`upsert_person` of worker 1 finds the row and starts it over.  Two events are
logged, and the row counts one. -/
theorem appearance_lost :
    ∃ after person,
      runFrom surroundings.step start
          (receiveBoth ++ creates 10 ++ matchesPerson 4 ++ creates 1 ++ matchesPerson 5) =
        some after ∧
      after.shared.database.persons examplePerson = some person ∧
      ¬ person.Summarises (after.shared.database.timesOf examplePerson) := by
  have lost : ∃ pool ∈ runFrom surroundings.step start
      (receiveBoth ++ creates 10 ++ matchesPerson 4 ++ creates 1 ++ matchesPerson 5),
      ∃ person ∈ pool.shared.database.persons examplePerson,
        person.totalAppearances = 1 ∧ (pool.shared.database.timesOf examplePerson).length = 2 := by
    decide +kernel
  obtain ⟨after, reached, person, there, counted, logged⟩ := lost
  refine ⟨after, person, reached, there, fun summarises => ?_⟩
  have total := summarises.total
  rw [counted, logged] at total
  cases total

end Workers

end PersonTracking.Analytics
