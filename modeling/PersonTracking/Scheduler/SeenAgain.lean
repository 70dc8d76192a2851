import PersonTracking.Scheduler.LastSeen
import PersonTracking.Scheduler.Plans

/-!
# Who is seen again while the job runs

The job selects the expired persons, deletes their vectors, and deletes their
rows by id several calls later.  `seenKept_of_unseen` says that a person whose
`last_seen` is not expired when the job commits keeps row, vector and events, as
long as no selected person is seen again before; `seenAgain_deleted` is a run
in which one is.
-/

namespace PersonTracking.Scheduler

open Library Python Shared

/-! ## What the session's deletions leave -/

/-- Tables from which nothing but what is planned has gone. -/
structure Thinned (plan : Plan) (before after : Tables) : Prop where
  persons : ∀ person ∈ after.persons.rows, person ∈ before.persons.rows
  personsKept : ∀ person ∈ before.persons.rows, person.id ∉ plan.persons →
    person ∈ after.persons.rows
  tracking : ∀ row ∈ after.tracking.rows, ∃ old ∈ before.tracking.rows,
    old.timestamp = row.timestamp ∧ ∀ id, row.personId = some id → old.personId = some id
  trackingKept : ∀ row ∈ before.tracking.rows, row.id ∉ plan.tracking →
    (∀ id, row.personId = some id → id ∉ plan.persons) → row ∈ after.tracking.rows

namespace Thinned

variable {plan : Plan} {before between after : Tables}

theorem refl (plan : Plan) (tables : Tables) : Thinned plan tables tables where
  persons _ here := here
  personsKept _ here _ := here
  tracking row here := ⟨row, here, rfl, fun _ refers => refers⟩
  trackingKept _ here _ _ := here

theorem trans (first : Thinned plan before between) (second : Thinned plan between after) :
    Thinned plan before after where
  persons person here := first.persons person (second.persons person here)
  personsKept person here kept :=
    second.personsKept person (first.personsKept person here kept) kept
  tracking row here := by
    obtain ⟨middle, there, time, refers⟩ := second.tracking row here
    obtain ⟨old, was, earlier, referred⟩ := first.tracking middle there
    exact ⟨old, was, earlier.trans time, fun id same => referred id (refers id same)⟩
  trackingKept row here kept others :=
    second.trackingKept row (first.trackingKept row here kept others) kept others

theorem apply {delete : Delete} (planned : Planned plan delete) (tables : Tables) :
    Thinned plan tables (tables.apply delete) := by
  cases delete with
  | fire | alerts =>
      exact ⟨fun _ here => here, fun _ here _ => here,
        fun row here => ⟨row, here, rfl, fun _ refers => refers⟩, fun _ here _ _ => here⟩
  | tracking ids =>
      refine { refl plan tables with tracking := ?_, trackingKept := ?_ }
      · intro row here
        exact ⟨row, (Table.mem_delete.mp here).1, rfl, fun _ refers => refers⟩
      · intro row here kept _
        exact Table.mem_delete.mpr ⟨here, fun listed => kept (planned _ listed)⟩
  | persons ids =>
      refine ⟨fun person here => (Table.mem_delete.mp here).1, fun person here kept => ?_,
        fun row here => ?_, fun row here _ kept => ?_⟩
      · exact Table.mem_delete.mpr ⟨here, fun listed => kept (planned _ listed)⟩
      · obtain ⟨old, was, rfl⟩ := List.mem_map.mp here
        exact ⟨old, was, rfl, fun id refers => (detach_eq_some.mp refers).1⟩
      · have fixed : row.detach ids = row :=
          TrackingRow.detach_of_kept fun id refers listed => kept id refers (planned id listed)
        exact List.mem_map.mpr ⟨row, here, fixed⟩

/-- **A session that deletes what is planned** thins the tables. -/
theorem applyAll {session : List Delete} (planned : ∀ delete ∈ session, Planned plan delete)
    (tables : Tables) : Thinned plan tables (tables.applyAll session) := by
  induction session generalizing tables with
  | nil => exact refl plan tables
  | cons delete rest ih =>
      have first := apply (planned delete List.mem_cons_self) tables
      exact first.trans (ih (fun other member => planned other (List.mem_cons_of_mem _ member)) _)

end Thinned

/-! ## The invariant -/

/-- How the stores relate to the plan.  `held` are persons with the points that were
theirs before anything was selected. -/
structure Follows (cutoff : Instant) (held : PointId → Uuid → Prop) (plan : Plan) (site : Site) :
    Prop where
  selected : site.selected = plan.persons
  fresh : plan.deleting = false → site.stores.session = []
  tracking : ∀ id ∈ plan.tracking, ∃ row ∈ site.stores.tables.tracking.rows,
    row.id = id ∧ row.timestamp < cutoff
  persons : ∀ person ∈ site.stores.tables.persons.rows, person.id ∈ plan.persons →
    person.lastSeen < cutoff
  events : ∀ row ∈ site.stores.tables.tracking.rows, ∀ id ∈ plan.persons,
    row.personId = some id → row.timestamp < cutoff
  session : ∀ delete ∈ site.stores.session, Planned plan delete
  vectors : ∀ point id, held point id → Qdrant.Names point id → id ∉ plan.persons →
    site.stores.qdrant.points point ≠ none

/-- Whoever is expired has no event that is not. -/
def Tables.Consistent (tables : Tables) (cutoff : Instant) : Prop :=
  ∀ person ∈ tables.persons.rows, person.lastSeen < cutoff → ∀ row ∈ tables.tracking.rows,
    row.personId = some person.id → row.timestamp < cutoff

/-- This is so when `last_seen` bounds the events. -/
theorem Tables.Bounded.consistent {tables : Tables} (bounded : tables.Bounded) (cutoff : Instant) :
    tables.Consistent cutoff :=
  fun person here old row there refers => (bounded person here row there refers).trans_lt old

section Answers

variable {cutoff : Instant} {held : PointId → Uuid → Prop} {plan : Plan} {site : Site}
  {failures : Failures} {engine : Engine}

/-- A statement raises and changes nothing, or is carried out. -/
theorem unlessRaised_cases {α : Type} (raised : Bool) (stores : Stores) (done : α × Stores) :
    unlessRaised raised stores done = (.error .sqlError, stores) ∨
      unlessRaised raised stores done = (.ok done.1, done.2) := by
  cases raised with
  | true => exact Or.inl rfl
  | false => exact Or.inr rfl

/-- Only the points of the other stores matter. -/
theorem Follows.setQdrant (follows : Follows cutoff held plan site) {qdrant : Qdrant}
    (kept : ∀ point (id : Uuid), Qdrant.Names point id → id ∉ plan.persons →
      site.stores.qdrant.points point ≠ none → qdrant.points point ≠ none) :
    Follows cutoff held plan { site with stores := site.stores.setQdrant qdrant } :=
  { follows with
    vectors := fun point id was named out =>
      kept point id named out (follows.vectors point id was named out) }

/-- One more planned deletion. -/
theorem Follows.collect (follows : Follows cutoff held plan site) {delete : Delete}
    (planned : Planned plan delete) :
    Follows cutoff held { plan with deleting := true }
      { site with stores := site.stores.collect delete } :=
  { follows with
    fresh := fun wrong => by cases wrong
    session := by
      intro other member
      rcases List.mem_append.mp member with before | this
      · have same := follows.session other before
        cases other <;> exact same
      · rw [List.mem_singleton.mp this]
        cases delete <;> exact planned }

/-- …that fails. -/
theorem Follows.deleting (follows : Follows cutoff held plan site) :
    Follows cutoff held { plan with deleting := true } site :=
  { follows with
    fresh := fun wrong => by cases wrong
    session := fun delete member => by
      have same := follows.session delete member
      cases delete <;> exact same }

/-- …so one that is sent, whether or not it raises. -/
theorem Follows.send {α : Type} {raised : Bool} {answer : α} {delete : Delete}
    (follows : Follows cutoff held plan site) (planned : Planned plan delete) :
    Follows cutoff held { plan with deleting := true }
      { site with stores :=
          (unlessRaised raised site.stores (answer, site.stores.collect delete)).2 } := by
  rcases unlessRaised_cases raised site.stores (answer, site.stores.collect delete) with
    failed | done
  · rw [failed]
    exact follows.deleting
  · rw [done]
    exact follows.collect planned

/-- A call to Qdrant that the plan allows takes only points of the plan. -/
theorem points_handler {request : QdrantCall} (allowed : plan.Allows cutoff (.qdrant request))
    (qdrant : Qdrant) (point : PointId) (id : Uuid) (named : Qdrant.Names point id)
    (out : id ∉ plan.persons) (was : qdrant.points point ≠ none) :
    (Qdrant.handler failures.qdrant engine request qdrant).2.points point ≠ none := by
  cases request with
  | collectionChecked | markCollectionChecked => exact was
  | getCollections | queryPoints _ _ _ _ =>
      simp only [Qdrant.handler]
      split <;> exact was
  | createCollection _ =>
      simp only [Qdrant.handler, Program.Faults.carryOut_refusing]
      split <;> exact was
  | upsert _ _ _ => exact False.elim allowed
  | delete collection points =>
      simp only [Qdrant.handler, Program.Faults.carryOut_refusing]
      split
      · exact was
      · show (if _ then _ else _) ≠ _
        rw [if_neg]
        · exact was
        · intro listed
          obtain ⟨other, planned, same⟩ := allowed _ listed
          rcases named with own | noText
          · rw [own, PointId.str.injEq] at same
            exact out (Uuid.toText_injective same ▸ planned)
          · exact noText _ same

/-- Tracking events selected. -/
theorem Follows.selectTracking (follows : Follows cutoff held plan site) {ids : List Uuid}
    (reading : plan.deleting = false)
    (expired : ∀ id ∈ ids, ∃ row ∈ site.stores.tables.tracking.rows,
      row.id = id ∧ row.timestamp < cutoff) :
    Follows cutoff held { plan with tracking := ids } site := by
  refine { follows with tracking := expired, session := ?_ }
  intro delete member
  rw [follows.fresh reading] at member
  cases member

/-- Persons selected; what they are expired by holds for their events too. -/
theorem Follows.selectPersons (follows : Follows cutoff held plan site) {ids : List Uuid}
    (reading : plan.deleting = false) (blank : plan.persons = [])
    (expired : ∀ id ∈ ids, ∃ person ∈ site.stores.tables.persons.rows,
      person.id = id ∧ person.lastSeen < cutoff)
    (consistent : site.stores.tables.Consistent cutoff) :
    Follows cutoff held { plan with persons := ids } { site with selected := ids } := by
  refine ⟨rfl, follows.fresh, follows.tracking, ?_, ?_, ?_, ?_⟩
  · intro person here listed
    obtain ⟨other, there, same, old⟩ := expired _ listed
    rw [← Table.eq_of_key_eq there here same]
    exact old
  · intro row here id listed refers
    obtain ⟨person, there, rfl, old⟩ := expired id listed
    exact consistent person there old row here refers
  · intro delete member
    rw [follows.fresh reading] at member
    cases member
  · -- nobody was selected before, so every held point is still there
    intro point id was named _
    refine follows.vectors point id was named ?_
    rw [blank]
    exact List.not_mem_nil

/-- The planned deletions carried out. -/
theorem Follows.commit (follows : Follows cutoff held plan site) :
    Follows cutoff held { plan with tracking := [] }
      { site with stores := site.stores.committed } := by
  have thinned : Thinned plan site.stores.tables site.stores.view :=
    Thinned.applyAll follows.session site.stores.tables
  refine ⟨follows.selected, fun _ => rfl, ?_, ?_, ?_, ?_, follows.vectors⟩
  · intro id member
    cases member
  · intro person here listed
    exact follows.persons person (thinned.persons person here) listed
  · intro row here id listed refers
    obtain ⟨old, was, same, referred⟩ := thinned.tracking row here
    rw [← same]
    exact follows.events old was id listed (referred id refers)
  · intro delete member
    cases member

/-- A session without deletions. -/
theorem Follows.clear (follows : Follows cutoff held plan site) :
    Follows cutoff held plan { site with stores := site.stores.cleared } := by
  refine { follows with fresh := fun _ => rfl, session := ?_ }
  intro delete member
  cases member

/-- The ids of the rows that are selected for being old are those of old rows. -/
theorem exists_of_mem_select {ρ τ : Type} {key : ρ → Uuid} {table : Table Uuid ρ key}
    {old : ρ → Bool} {shown : ρ → τ} {idOf : τ → Uuid}
    (identified : ∀ row, idOf (shown row) = key row) {id : Uuid}
    (member : id ∈ ((table.select old).map shown).map idOf) :
    ∃ row ∈ table.rows, key row = id ∧ old row = true := by
  obtain ⟨_, listed, rfl⟩ := List.mem_map.mp member
  obtain ⟨row, chosen, rfl⟩ := List.mem_map.mp listed
  obtain ⟨here, meets⟩ := Table.mem_select.mp chosen
  exact ⟨row, here, (identified row).symm, meets⟩

/-- **An answered call keeps stores and plan in step.** -/
theorem follows_answer {request : Call} (follows : Follows cutoff held plan site)
    (allowed : plan.Allows cutoff request)
    (consistent : ∀ c, request = .selectPersons c → site.stores.tables.Consistent cutoff) :
    Follows cutoff held
      (plan.next request (Stores.handler failures engine request site.stores).1)
      { stores := (Stores.handler failures engine request site.stores).2
        selected := selectedAfter site.selected request
          (Stores.handler failures engine request site.stores).1 } := by
  have sees : plan.deleting = false → site.stores.view = site.stores.tables :=
    fun reading => view_of_blank (follows.fresh reading)
  cases request with
  | openClients =>
      cases allowed
      exact { follows.clear with }
  | rollback => exact follows.clear
  | close => exact follows.clear
  | qdrant request => exact follows.setQdrant (points_handler allowed site.stores.qdrant)
  | minio request => exact { follows with }
  | selectTracking c =>
      obtain ⟨rfl, reading⟩ := allowed
      simp only [Stores.handler]
      rcases unlessRaised_cases (failures.raises (.selectTracking c)) site.stores
        ((site.stores.view.tracking.select fun row => row.timestamp < c).map
          fun row => (row.id, row.personId, row.cropPath), site.stores) with failed | done
      · rw [failed]
        exact follows
      · rw [done, sees reading]
        refine follows.selectTracking reading fun id member => ?_
        obtain ⟨row, here, same, old⟩ := exists_of_mem_select (fun _ => rfl) member
        exact ⟨row, here, same, of_decide_eq_true old⟩
  | selectFire c =>
      simp only [Stores.handler]
      rcases unlessRaised_cases (failures.raises (.selectFire c)) site.stores
        ((site.stores.view.fire.select fun row => row.timestamp < c).map
          fun row => (row.id, row.cropPath), site.stores) with failed | done
      · rw [failed]
        exact follows
      · rw [done]
        exact follows
  | selectPersons c =>
      obtain ⟨rfl, reading, blank⟩ := allowed
      simp only [Stores.handler]
      rcases unlessRaised_cases (failures.raises (.selectPersons c)) site.stores
        ((site.stores.view.persons.select fun row => row.lastSeen < c).map PersonRow.id,
          site.stores) with failed | done
      · rw [failed]
        exact follows
      · rw [done, sees reading]
        refine follows.selectPersons reading blank (fun id member => ?_) (consistent c rfl)
        rw [← List.map_id (List.map _ _)] at member
        obtain ⟨row, here, same, old⟩ := exists_of_mem_select (fun _ => rfl) member
        exact ⟨row, here, same, of_decide_eq_true old⟩
  | deleteTracking ids => exact follows.send allowed
  | deleteFire ids => exact follows.send trivial
  | deleteAlerts c => exact follows.send trivial
  | deletePersons ids => exact follows.send allowed
  | commit =>
      simp only [Stores.handler]
      rcases unlessRaised_cases (failures.raises .commit) site.stores
        ((), site.stores.committed) with failed | done
      · rw [failed]
        exact follows
      · rw [done]
        exact follows.commit

end Answers

/-! ## Runs -/

/-- What a run must meet: when the persons are selected, nobody expired has an
event that is not, and no person is seen again once selected. -/
def Unseen (cutoff : Instant) (pool : JobPool) : PoolMove Unit Failures Meanwhile → Prop
  | .answer _ _ => ∀ c next, pool.residual () = .call (.selectPersons c) next →
      pool.shared.stores.tables.Consistent cutoff
  | .happen (.sighting sighting) =>
      sighting.personId ∈ pool.shared.selected → sighting.timestamp < cutoff
  | .happen (.index _ _ _) => True

/-- Stores and plan are in step, and the job keeps to its calculus. -/
abbrev InStep (cutoff : Instant) (held : PointId → Uuid → Prop) : JobPool → Prop :=
  Pool.Tracked (planning cutoff) (fun _ _ => True)
    (fun plans site => Follows cutoff held (plans ()) site)

section Runs

variable {cutoff : Instant} {held : PointId → Uuid → Prop} {engine : Engine}

/-- A sighting that meets the condition keeps stores and plan in step. -/
theorem follows_sighting {plan : Plan} {site : Site} (follows : Follows cutoff held plan site)
    {sighting : Sighting} {tables : Tables}
    (recorded : site.stores.tables.record sighting = some tables)
    (unseen : sighting.personId ∈ site.selected → sighting.timestamp < cutoff) :
    Follows cutoff held plan { site with stores := site.stores.setTables tables } := by
  obtain ⟨rows, persons⟩ := Tables.record_spec recorded
  rw [follows.selected] at unseen
  refine { follows with tracking := ?_, persons := ?_, events := ?_ }
  · intro id member
    obtain ⟨row, here, same, old⟩ := follows.tracking id member
    exact ⟨row, (rows row).mpr (Or.inl here), same, old⟩
  · intro person here listed
    rcases persons person here with was | ⟨same, last | ⟨old, was, theirs, last⟩⟩
    · exact follows.persons person was listed
    · -- the sighting moved `last_seen`: by the condition it is itself expired
      rw [last]
      exact unseen (same ▸ listed)
    · rw [last]
      exact follows.persons old was (theirs ▸ same ▸ listed)
  · intro row here id listed refers
    rcases (rows row).mp here with was | rfl
    · exact follows.events row was id listed refers
    · have same : sighting.personId = id := Option.some_inj.mp refers
      exact unseen (same ▸ listed)

/-- **The run lemma.** -/
theorem inStep_of_unseen {pool after : JobPool} {moves : List (PoolMove Unit Failures Meanwhile)}
    (start : InStep cutoff held pool)
    (unseen : Meets (Unseen cutoff) (surroundings engine).step pool moves)
    (reached : runFrom (surroundings engine).step pool moves = some after) :
    InStep cutoff held after := by
  refine Surroundings.tracked ?_ ?_ start unseen reached
  · intro pool plans worker failures request next reply site follows _ waiting allowed consistent
      answered
    cases answered
    refine ⟨trivial, ?_⟩
    rw [Function.update_self]
    refine follows_answer follows allowed fun c same => ?_
    subst same
    exact consistent c next waiting
  · rintro pool event after ⟨plans, follows, holds⟩ met happened
    cases event with
    | sighting sighting =>
        simp only [surroundings] at happened
        split at happened
        · cases happened
        · obtain ⟨tables, recorded, rfl⟩ := Option.map_eq_some_iff.mp happened
          exact ⟨plans, follows_sighting follows recorded met, holds⟩
    | index id embedding metadata =>
        simp only [surroundings] at happened
        split at happened
        · rename_i present
          cases happened
          refine ⟨plans, follows.setQdrant fun point other named out was => ?_, holds⟩
          -- an upsert takes no point away
          by_cases same : point = .str id.toText
          · rw [same]
            exact fun none => Option.some_ne_none _ (Qdrant.points_put_self.symm.trans none)
          · rwa [Qdrant.points_put_of_ne same]
        · cases happened

end Runs

/-- The job waits for its commit. -/
def Committing (pool : JobPool) : Prop :=
  ∃ next, pool.residual () = .call .commit next

/-- The job's commit spares whoever is not expired: the row, the vectors that were
there `earlier` in the run, and the attribution of every event that is not expired. -/
structure SeenKept (cutoff : Instant) (earlier before after : Stores) : Prop where
  persons : ∀ person ∈ before.tables.persons.rows, cutoff ≤ person.lastSeen →
    person ∈ after.tables.persons.rows
  vectors : ∀ person ∈ before.tables.persons.rows, cutoff ≤ person.lastSeen →
    ∀ point, earlier.qdrant.IsOf point person.id → after.qdrant.points point ≠ none
  tracking : ∀ row ∈ before.tables.tracking.rows, cutoff ≤ row.timestamp →
    row ∈ after.tables.tracking.rows

/-- A commit in step spares whoever is not expired. -/
theorem seenKept_of_follows {cutoff : Instant} {plan : Plan} {site : Site} {earlier : Stores}
    {failures : Failures} {engine : Engine}
    (follows : Follows cutoff earlier.qdrant.IsOf plan site) :
    SeenKept cutoff earlier site.stores
      (Stores.handler failures engine .commit site.stores).2 := by
  have out : ∀ person ∈ site.stores.tables.persons.rows, cutoff ≤ person.lastSeen →
      person.id ∉ plan.persons :=
    fun person here seen listed => absurd (follows.persons person here listed) (not_lt.mpr seen)
  have unplanned : ∀ row ∈ site.stores.tables.tracking.rows, cutoff ≤ row.timestamp →
      row.id ∉ plan.tracking := by
    intro row here recent listed
    obtain ⟨other, there, same, old⟩ := follows.tracking _ listed
    rw [Table.eq_of_key_eq there here same] at old
    exact absurd old (not_lt.mpr recent)
  simp only [Stores.handler]
  rcases unlessRaised_cases (failures.raises .commit) site.stores
    ((), site.stores.committed) with failed | done
  · rw [failed]
    exact ⟨fun _ here _ => here,
      fun person here seen point was =>
        follows.vectors point _ was was.named (out person here seen),
      fun _ here _ => here⟩
  · rw [done]
    have thinned : Thinned plan site.stores.tables site.stores.view :=
      Thinned.applyAll follows.session site.stores.tables
    refine ⟨fun person here seen => thinned.personsKept person here (out person here seen),
      fun person here seen point was =>
        follows.vectors point _ was was.named (out person here seen),
      fun row here recent => thinned.trackingKept row here (unplanned row here recent) ?_⟩
    intro id refers listed
    exact absurd (follows.events row here id listed refers) (not_lt.mpr recent)

/-- **Who is seen again is spared**, in every run in which nobody is seen again
after being selected. -/
theorem seenKept_of_unseen (settings : Settings) (now : Instant) (engine : Engine) (stores : Stores)
    (first second : List (PoolMove Unit Failures Meanwhile)) (earlier before after : JobPool)
    (failures : Failures)
    (unseen : Meets (Unseen (settings.retentionCutoff now)) (surroundings engine).step
      (beginJob settings now stores) (first ++ second))
    (passed : runFrom (surroundings engine).step (beginJob settings now stores)
      first = some earlier)
    (reached : runFrom (surroundings engine).step earlier second = some before)
    (committing : Committing before)
    (committed : (surroundings engine).step before (.answer () failures) = some after) :
    SeenKept (settings.retentionCutoff now) earlier.shared.stores before.shared.stores
      after.shared.stores := by
  obtain ⟨unseenFirst, unseenSecond⟩ := meets_append.mp unseen
  have start : InStep (settings.retentionCutoff now) (fun _ _ => False)
      (beginJob settings now stores) := by
    refine ⟨fun _ => .blank, ⟨rfl, fun _ => rfl, ?_, ?_, ?_, ?_, fun _ _ wrong => wrong.elim⟩, ?_⟩
    · exact fun _ member => by cases member
    · exact fun _ _ member => by cases member
    · exact fun _ _ _ member => by cases member
    · exact fun _ member => by cases member
    · intro worker
      refine Program.wp_mono (fun _ _ _ => trivial) (executeCleanupJob_plans settings now)
  -- what is held is what was there earlier
  have middle : InStep (settings.retentionCutoff now) earlier.shared.stores.qdrant.IsOf
      earlier := by
    obtain ⟨plans, follows, holds⟩ := inStep_of_unseen start unseenFirst passed
    exact ⟨plans, { follows with vectors := fun _ _ was _ _ => was.stored }, holds⟩
  obtain ⟨plans, follows, -⟩ := inStep_of_unseen middle (unseenSecond earlier passed) reached
  obtain ⟨request, next, reply, site, waiting, answered, rfl⟩ :=
    Surroundings.step_answer_eq_some.mp committed
  obtain ⟨next', commits⟩ := committing
  rw [waiting] at commits
  cases commits
  cases answered
  exact seenKept_of_follows follows

/-- Every sighting counts the row it finds, and none is of a selected person. -/
def Regular (cutoff : Instant) (pool : JobPool) : PoolMove Unit Failures Meanwhile → Prop
  | .happen (.sighting sighting) => sighting.Counts pool.shared.stores.tables ∧
      (sighting.personId ∈ pool.shared.selected → sighting.timestamp < cutoff)
  | _ => True

/-- **From tables in which `last_seen` bounds the events**, counted sightings keep
the first part of the condition by themselves. -/
theorem unseen_of_regular {cutoff : Instant} {engine : Engine} {pool : JobPool}
    {moves : List (PoolMove Unit Failures Meanwhile)}
    (bounded : pool.shared.stores.tables.Bounded)
    (regular : Meets (Regular cutoff) (surroundings engine).step pool moves) :
    Meets (Unseen cutoff) (surroundings engine).step pool moves := by
  refine meets_of_invariant (I := fun pool : JobPool => pool.shared.stores.tables.Bounded)
    (fun pool move after bounded met moved => ?_) (fun pool move bounded met => ?_) bounded regular
  · cases move with
    | answer worker failures =>
        obtain ⟨request, next, reply, site, -, answered, rfl⟩ :=
          Surroundings.step_answer_eq_some.mp moved
        cases answered
        exact bounded_handler bounded
    | happen event =>
        cases event with
        | sighting sighting =>
            simp only [Surroundings.step, surroundings] at moved
            split at moved
            · cases moved
            · obtain ⟨tables, recorded, rfl⟩ := Option.map_eq_some_iff.mp moved
              exact bounded.record met.1 recorded
        | index id embedding metadata =>
            simp only [Surroundings.step, surroundings] at moved
            split at moved
            · cases moved
              exact bounded
            · cases moved
  · cases move with
    | answer worker failures => exact fun _ _ _ => bounded.consistent cutoff
    | happen event =>
        cases event with
        | sighting sighting => exact met.2
        | index _ _ _ => exact trivial

/-- A sighting of a known person. -/
def seenAt (n person : ℕ) (timestamp : Instant) : Sighting where
  personId := exampleUuid person
  known := true
  event := sightingOf n person timestamp

/-- That many calls of the job are answered. -/
def answers (n : ℕ) : List (PoolMove Unit Failures Meanwhile) :=
  List.replicate n (.answer () .never)

theorem seenKept_of_unseen_example :
    ∃ before after,
      runFrom (surroundings Engine.silent).step
        (beginJob exampleSettings exampleNow exampleStores)
        (.happen (.sighting (seenAt 14 2 150)) :: answers 13) = some before ∧
      (surroundings Engine.silent).step before (.answer () .never) = some after ∧
      SeenKept (exampleSettings.retentionCutoff exampleNow) exampleStores.cleared
        before.shared.stores after.shared.stores := by
  have unseen : Meets (Unseen (exampleSettings.retentionCutoff exampleNow))
      (surroundings Engine.silent).step (beginJob exampleSettings exampleNow exampleStores)
      ([] ++ .happen (.sighting (seenAt 14 2 150)) :: answers 13) := by
    refine unseen_of_regular bounded_exampleTables ⟨⟨Or.inl rfl, fun wrong => ?_⟩, fun pool _ => ?_⟩
    · cases wrong
    · exact meets_replicate (fun _ => trivial) 13 pool
  exact ⟨_, _, rfl, rfl, seenKept_of_unseen exampleSettings exampleNow
    Engine.silent exampleStores []
    _ _ _ _ .never unseen rfl rfl ⟨_, rfl⟩ rfl⟩

/-- **A person who is seen again is deleted**: person 1 is selected, then seen at
a time that is not expired, and still loses row and vector with the job's
commit, and the new event its person. -/
theorem seenAgain_deleted :
    ∃ before after,
      runFrom (surroundings Engine.silent).step
        (beginJob exampleSettings exampleNow exampleStores)
        (answers 4 ++ .happen (.sighting (seenAt 14 1 150)) :: answers 9) = some before ∧
      Committing before ∧
      (surroundings Engine.silent).step before (.answer () .never) = some after ∧
      ¬ SeenKept (exampleSettings.retentionCutoff exampleNow) exampleStores.cleared
        before.shared.stores after.shared.stores := by
  refine ⟨_, _, rfl, ⟨_, rfl⟩, rfl, ?_⟩
  intro kept
  have spared := kept.persons ((personSeen 1 10).updateAppearance 150) (by decide +kernel)
    (by decide +kernel)
  exact absurd spared (by decide +kernel)

end PersonTracking.Scheduler
