import PersonTracking.Scheduler.Sightings

/-!
# What the job has planned at a call

Whatever its calls are answered, the job deletes the rows it has selected, and
takes no vectors but those of the persons it has selected.  A `Plan` is what it
has selected, `planning` the calculus that holds it to that, and
`executeCleanupJob_plans` the result.
-/

namespace PersonTracking.Scheduler

open Library Python Shared

/-- The tracking events and persons the job has selected, and whether it has
begun to delete rows. -/
structure Plan where
  tracking : List Uuid
  persons : List Uuid
  deleting : Bool
deriving DecidableEq

namespace Plan

/-- Nothing selected. -/
def blank : Plan where
  tracking := []
  persons := []
  deleting := false

/-- What an answered call adds to the plan; a commit ends what was planned for
the tracking events. -/
def next (plan : Plan) : (request : Call) → Reply request → Plan
  | .selectTracking _, .ok rows => { plan with tracking := rows.map Prod.fst }
  | .selectPersons _, .ok ids => { plan with persons := ids }
  | .deleteTracking _, _ | .deleteFire _, _ | .deleteAlerts _, _ | .deletePersons _, _ =>
      { plan with deleting := true }
  | .commit, .ok () => { plan with tracking := [] }
  | _, _ => plan

end Plan

/-- A deletion of what was selected. -/
def Planned (plan : Plan) : Delete → Prop
  | .tracking ids => ∀ id ∈ ids, id ∈ plan.tracking
  | .persons ids => ∀ id ∈ ids, id ∈ plan.persons
  | .fire _ | .alerts _ => True

/-- The calls a plan allows. -/
def Plan.Allows (cutoff : Instant) (plan : Plan) : Call → Prop
  | .openClients => plan = .blank
  | .selectTracking c => c = cutoff ∧ plan.deleting = false
  | .selectPersons c => c = cutoff ∧ plan.deleting = false ∧ plan.persons = []
  | .qdrant (.delete _ points) => ∀ point ∈ points, ∃ id ∈ plan.persons, point = .str id.toText
  | .qdrant (.upsert _ _ _) => False
  | .deleteTracking ids => Planned plan (.tracking ids)
  | .deletePersons ids => Planned plan (.persons ids)
  | _ => True

/-- The calculus of the job. -/
def planning (cutoff : Instant) : Program.Rules Call Reply Plan where
  allowed plan request := plan.Allows cutoff request
  admits _ _ _ := True
  after plan request answer := plan.next request answer

section Specifications

variable {cutoff : Instant} {plan : Plan}

/-- The plan asks for nothing of how a part ends. -/
abbrev anyEnd {α : Type} (_ : α) (_ : Plan) : Prop := True

theorem deleteVectors_spec {ids : List Uuid} {post : Unit → Plan → Prop}
    (selected : ∀ id ∈ ids, id ∈ plan.persons) (reached : post () plan) :
    Fallible.wpe (planning cutoff) post anyEnd (deleteVectors ids) plan := by
  rw [deleteVectors]
  split
  · exact reached
  · rw [Fallible.wpe_swallow, Fallible.wpe_relabel, QdrantVectorStore.deleteEmbeddings,
      Fallible.wpe_bind]
    refine QdrantVectorStore.ensureCollection_spec (fun request checks => ?_) ?_ fun _ => reached
    · cases request with
      | collectionChecked | markCollectionChecked | getCollections => exact ⟨trivial, fun _ => rfl⟩
      | createCollection name => exact ⟨trivial, fun _ => rfl⟩
      | upsert _ _ _ | queryPoints _ _ _ _ | delete _ _ => cases checks
    · rw [Fallible.wpe_attempt]
      refine ⟨fun point member => ?_, fun deleted _ => ?_⟩
      · obtain ⟨id, listed, rfl⟩ := List.mem_map.mp member
        exact ⟨id, selected id listed, rfl⟩
      · cases deleted with
        | error error => exact reached
        | ok _ => exact reached

theorem deleteCrops_spec (settings : Settings) (cropPaths : List String)
    {post : Unit → Plan → Prop} (reached : post () plan) :
    Fallible.wpe (planning cutoff) post anyEnd (deleteCrops settings cropPaths) plan := by
  induction cropPaths with
  | nil => exact reached
  | cons cropPath rest ih =>
      rw [deleteCrops, Fallible.wpe_bind, Fallible.wpe_swallow, Fallible.wpe_relabel]
      refine ⟨trivial, fun removed _ => ?_⟩
      cases removed with
      | error error => exact ih
      | ok _ => exact ih

/-- A statement that deletes what was selected, or is skipped. -/
theorem unlessEmpty_spec {ids : List Uuid} {statement : Job Unit} {post : Unit → Plan → Prop}
    (skipped : post () plan)
    (sent : Fallible.wpe (planning cutoff) post anyEnd statement plan) :
    Fallible.wpe (planning cutoff) post anyEnd (unlessEmpty ids statement) plan := by
  rw [unlessEmpty]
  split
  · exact skipped
  · exact sent

/-- A plan may delete what is its own. -/
structure Plan.Selects (trackingIds expiredPersonIds : List Uuid) (plan : Plan) : Prop where
  tracking : ∀ id ∈ trackingIds, id ∈ plan.tracking
  persons : ∀ id ∈ expiredPersonIds, id ∈ plan.persons

theorem deleteRows_spec (trackingIds fireIds expiredPersonIds : List Uuid)
    (selects : plan.Selects trackingIds expiredPersonIds) :
    Fallible.wpe (planning cutoff) anyEnd anyEnd
      (deleteRows cutoff trackingIds fireIds expiredPersonIds) plan := by
  -- from the last deletion to the first: each is followed by what is shown before
  have ends : ∀ {later : Plan}, Fallible.wpe (planning cutoff) anyEnd anyEnd
      (Fallible.attempt (ask .commit) : Job Unit) later := by
    intro later
    refine ⟨trivial, fun committed _ => ?_⟩
    cases committed <;> exact trivial
  have persons : ∀ {later : Plan}, later.Selects trackingIds expiredPersonIds →
      Fallible.wpe (planning cutoff) anyEnd anyEnd (do
        unlessEmpty expiredPersonIds (Fallible.attempt (ask (.deletePersons expiredPersonIds)))
        Fallible.attempt (ask .commit) : Job Unit) later := by
    intro later selects
    rw [Fallible.wpe_bind]
    refine unlessEmpty_spec ends ⟨selects.persons, fun deleted _ => ?_⟩
    cases deleted with
    | error error => exact trivial
    | ok _ => exact ends
  have alerts : ∀ {later : Plan}, later.Selects trackingIds expiredPersonIds →
      Fallible.wpe (planning cutoff) anyEnd anyEnd (do
        let _rowcount : ℕ ← Fallible.attempt (ask (.deleteAlerts cutoff))
        unlessEmpty expiredPersonIds (Fallible.attempt (ask (.deletePersons expiredPersonIds)))
        Fallible.attempt (ask .commit) : Job Unit) later := by
    intro later selects
    rw [Fallible.wpe_bind]
    refine ⟨trivial, fun deleted _ => ?_⟩
    cases deleted with
    | error error => exact trivial
    | ok _ => exact persons ⟨selects.tracking, selects.persons⟩
  have fire : ∀ {later : Plan}, later.Selects trackingIds expiredPersonIds →
      Fallible.wpe (planning cutoff) anyEnd anyEnd (do
        unlessEmpty fireIds (Fallible.attempt (ask (.deleteFire fireIds)))
        let _rowcount : ℕ ← Fallible.attempt (ask (.deleteAlerts cutoff))
        unlessEmpty expiredPersonIds (Fallible.attempt (ask (.deletePersons expiredPersonIds)))
        Fallible.attempt (ask .commit) : Job Unit) later := by
    intro later selects
    rw [Fallible.wpe_bind]
    refine unlessEmpty_spec (alerts selects) ⟨trivial, fun deleted _ => ?_⟩
    cases deleted with
    | error error => exact trivial
    | ok _ => exact alerts ⟨selects.tracking, selects.persons⟩
  rw [deleteRows, Fallible.wpe_bind]
  refine unlessEmpty_spec (fire selects) ⟨selects.tracking, fun deleted _ => ?_⟩
  cases deleted with
  | error error => exact trivial
  | ok _ => exact fire ⟨selects.tracking, selects.persons⟩

theorem cleanUp_spec (settings : Settings) :
    Fallible.wpe (planning cutoff) anyEnd anyEnd (cleanUp settings cutoff) .blank := by
  rw [cleanUp, Fallible.wpe_bind]
  refine ⟨⟨rfl, rfl⟩, fun trackingRows _ => ?_⟩
  cases trackingRows with
  | error error => exact trivial
  | ok trackingRows =>
      show Fallible.wpe _ _ _ (Fallible.attempt (ask (.selectFire cutoff)) >>= _) _
      rw [Fallible.wpe_bind]
      refine ⟨trivial, fun fireRows _ => ?_⟩
      cases fireRows with
      | error error => exact trivial
      | ok fireRows =>
          show Fallible.wpe _ _ _ (Fallible.attempt (ask (.selectPersons cutoff)) >>= _) _
          rw [Fallible.wpe_bind]
          refine ⟨⟨rfl, rfl, rfl⟩, fun expired _ => ?_⟩
          cases expired with
          | error error => exact trivial
          | ok expired =>
              show Fallible.wpe _ _ _ (deleteVectors expired >>= _) _
              rw [Fallible.wpe_bind]
              refine deleteVectors_spec (fun id member => member) ?_
              rw [Fallible.wpe_bind]
              refine deleteCrops_spec settings _ ?_
              exact deleteRows_spec _ _ _ ⟨fun id member => member, fun id member => member⟩

/-- **Whatever the calls are answered**, the job deletes what it has selected. -/
theorem executeCleanupJob_plans (settings : Settings) (now : Instant) :
    Fallible.wpe (planning (settings.retentionCutoff now)) anyEnd anyEnd
      (executeCleanupJob settings now) .blank := by
  have closes : ∀ {error : PyError} {later : Plan},
      Fallible.wpe (planning (settings.retentionCutoff now)) anyEnd anyEnd (do
        Fallible.lift (ask .close)
        throw error : Job Unit) later := by
    intro error later
    rw [Fallible.wpe_bind, Fallible.wpe_lift]
    exact ⟨trivial, fun _ _ => trivial⟩
  rw [executeCleanupJob, Fallible.wpe_bind, Fallible.wpe_lift]
  refine ⟨rfl, fun _ _ => ?_⟩
  rw [Program.wp_done, inSession, Fallible.wpe_bind, Fallible.wpe_tryCatch, Fallible.wpe_tryCatch]
  refine Fallible.wpe_mono (fun _ later _ => ?_) (fun error later _ => ?_) (cleanUp_spec settings)
  · rw [Fallible.wpe_lift]
    exact ⟨trivial, fun _ _ => trivial⟩
  · rw [Fallible.wpe_bind, Fallible.wpe_attempt]
    refine ⟨trivial, fun rolledBack _ => ?_⟩
    cases rolledBack with
    | error error => exact closes
    | ok _ => exact closes

end Specifications

end PersonTracking.Scheduler
