import PersonTracking.Analytics.Outcomes

/-!
# One person event across PostgreSQL and Qdrant

The SQL writes of an event are collected and sent with the commit, its vector
is written at once.  So an exception undoes the rows of the event and nothing
else: the event is atomic unless it raises after it has changed Qdrant.

`Exposed` says when that is, from the way the calls fail and the stores as they
were: the event carries a vector to search with, and the missing collection is
created by a call that raises, or nobody is found, and either the collection had
to be created and anything after that raises, or the vector is written and its
own call or the commit raises.  `atomic_iff` proves this exact, for commits that
are not carried out when they raise (`RollsBack`).
-/

namespace PersonTracking.Analytics

open Library Python Shared Domain

/-- The tables and the collection are as they were. -/
structure Untouched (world after : World) : Prop where
  database : after.database = world.database
  points : after.qdrant.points = world.qdrant.points
  collections : after.qdrant.collections = world.qdrant.collections

/-- When the event carries a vector to search with, its person has one in the
collection, an older one or that of the event. -/
def HasVector (detection : Detection) (world : World) (qdrant : Qdrant) (id : Uuid) : Prop :=
  ∀ embedding, detection.detection.getD "embedding" (.arr []) = .ok embedding →
    isReidVector embedding = .ok true →
    ∃ point entry, qdrant.points point = some entry ∧
      QdrantVectorStore.personOfPoint point = .ok id ∧
      (world.qdrant.points point = some entry ∨ entry.point.vector = embedding)

/-- A person of the event is there: with its row, with the tracking row and with
its vector. -/
def Recorded (detection : Detection) (world after : World) : Prop :=
  ∃ (person : Person) (eventId : Uuid),
    after.database.persons person.id = some person ∧
    after.database.events =
      world.database.events ++ [detection.trackingEvent eventId person.id] ∧
    HasVector detection world after.qdrant person.id

/-- A call of `process_message_callback` is atomic: when it raises, nothing has
changed, and when it returns, everything is there. -/
def Atomic (faults : Program.Faults Call) (engine : Engine) (payload : Json) (detection : Detection)
    (world : World) : Prop :=
  match Fallible.exec (World.handler faults engine) (processMessageCallback payload) world with
  | (.error _, after) => Untouched world after
  | (.ok (), after) => Recorded detection world after

/-! ## When an event is exposed -/

/-- The check of the collection does not raise. -/
def Checks (faults : Program.Faults Call) (world : World) : Prop :=
  world.qdrant.checked = true ∨
    (faults.raises (.qdrant .getCollections) = false ∧
      (world.qdrant.Present ∨
        faults.raises (.qdrant (.createCollection QdrantVectorStore.collectionName)) = false))

/-- `upsert_person` raises for the UUID minted next. -/
def ReadRaises (faults : Program.Faults Call) (world : World) : Prop :=
  faults.raises (.selectPerson .upsertPerson (world.entropy 0)) = true

/-- Writing the vector of the UUID minted next raises. -/
def IndexRaises (faults : Program.Faults Call) (world : World) (embedding : Json)
    (timestamp : DateTime) : Prop :=
  faults.raises (.qdrant (.upsert QdrantVectorStore.collectionName (world.entropy 0)
    (vectorPoint (world.entropy 0) embedding timestamp))) = true

/-- …after it was written. -/
def IndexedUnheard (faults : Program.Faults Call) (world : World) (embedding : Json)
    (timestamp : DateTime) : Prop :=
  IndexRaises faults world embedding timestamp ∧
    faults.applied (.qdrant (.upsert QdrantVectorStore.collectionName (world.entropy 0)
      (vectorPoint (world.entropy 0) embedding timestamp))) = true

/-- The check of the collection raises after the collection was created. -/
def CreatesUnheard (faults : Program.Faults Call) (world : World) : Prop :=
  world.qdrant.checked = false ∧ Qdrant.CreatedUnheard (qdrantFaults faults) world.qdrant

/-- When nobody is found, an exception comes after a change of Qdrant. -/
def Late (faults : Program.Faults Call) (world : World) (embedding : Json)
    (timestamp : DateTime) : Prop :=
  (world.qdrant.Missing ∧ (ReadRaises faults world ∨
    IndexRaises faults world embedding timestamp ∨ faults.raises .commit = true)) ∨
  (world.qdrant.Present ∧ ¬ ReadRaises faults world ∧
    (IndexedUnheard faults world embedding timestamp ∨
      (¬ IndexRaises faults world embedding timestamp ∧ faults.raises .commit = true)))

/-- An exception comes after a change of Qdrant. -/
structure Exposed (faults : Program.Faults Call) (engine : Engine) (detection : Detection)
    (world : World) (embedding : Json) : Prop where
  carried : detection.detection.getD "embedding" (.arr []) = .ok embedding
  reid : isReidVector embedding = .ok true
  changes : CreatesUnheard faults world ∨
    (Checks faults world ∧
      Qdrant.answered (qdrantFaults faults) engine world.qdrant embedding 1 matchThreshold = [] ∧
      Late faults world embedding detection.timestamp)

/-- A commit that raises is not carried out, so that the rollback restores the tables. -/
def RollsBack (faults : Program.Faults Call) : Prop :=
  faults.raises .commit = true → faults.applied .commit = false

theorem checks_iff {faults : Program.Faults Call} {world : World} :
    Checks faults world ↔
      ∃ after, Qdrant.ensured (qdrantFaults faults) world.qdrant = some after := by
  by_cases checked : world.qdrant.checked = true
  · exact iff_of_true (Or.inl checked) ⟨_, Qdrant.ensured_of_checked checked⟩
  · rw [← Option.ne_none_iff_exists', Ne,
      Qdrant.ensured_eq_none_iff (Bool.not_eq_true _ ▸ checked), not_or, not_and_or, not_not]
    simp [Checks, checked, Program.Faults.within]

/-- A check that raises leaves the collections unless it has created the missing one. -/
theorem collections_halted_iff {faults : Program.Faults Call} {world : World}
    (unchecked : Qdrant.ensured (qdrantFaults faults) world.qdrant = none) :
    (Qdrant.halted (qdrantFaults faults) world.qdrant).collections = world.qdrant.collections ↔
      ¬ CreatesUnheard faults world := by
  have looks : world.qdrant.checked = false := by
    by_contra checked
    rw [Qdrant.ensured_of_checked (by simpa using checked)] at unchecked
    cases unchecked
  rw [CreatesUnheard, Qdrant.halted]
  by_cases created : Qdrant.CreatedUnheard (qdrantFaults faults) world.qdrant
  · rw [if_pos created]
    exact iff_of_false (fun same => absurd (congrArg List.length same) (by simp [Qdrant.create]))
      fun unheard => unheard ⟨looks, created⟩
  · rw [if_neg created]
    exact iff_of_true rfl fun unheard => created unheard.2

/-! ## Raising and returning -/

section Transaction

variable {faults : Program.Faults Call} {engine : Engine} {payload : Json} {detection : Detection}
  {world after : World} {qdrant : Qdrant}

/-- Qdrant holds the collection it held before. -/
def SameCollection (world : World) (qdrant : Qdrant) : Prop :=
  qdrant.points = world.qdrant.points ∧ qdrant.collections = world.qdrant.collections

theorem untouched_iff (kept : Kept world.cleared qdrant after) :
    Untouched world after.cleared ↔ SameCollection world qdrant := by
  obtain ⟨database, rfl⟩ := kept
  exact ⟨fun untouched => ⟨untouched.points, untouched.collections⟩,
    fun same => ⟨database, same.1, same.2⟩⟩

/-- An event that raises is atomic when it has not changed Qdrant. -/
theorem atomic_iff_of_raised {error : PyError}
    (raised : Fallible.exec (World.handler faults engine) (execute payload) world.cleared =
      (.error error, after)) (kept : Kept world.cleared qdrant after) :
    Atomic faults engine payload detection world ↔ SameCollection world qdrant := by
  have transaction : Fallible.exec (World.handler faults engine) (executeAndCommit payload)
      world.cleared = (.error error, after) := Fallible.exec_bind_error raised
  obtain ⟨error, outcome⟩ := exec_processMessageCallback_error transaction
  rw [Atomic, outcome]
  exact untouched_iff kept

/-- …and so is one whose commit raises. -/
theorem atomic_iff_of_commit_raises
    (executed : Fallible.exec (World.handler faults engine) (execute payload) world.cleared =
      (.ok (), after)) (kept : Kept world.cleared qdrant after) (restores : RollsBack faults)
    (fails : faults.raises .commit = true) :
    Atomic faults engine payload detection world ↔ SameCollection world qdrant := by
  have transaction := exec_executeAndCommit executed
  rw [if_pos fails, restores fails, if_neg Bool.false_ne_true] at transaction
  obtain ⟨error, outcome⟩ := exec_processMessageCallback_error transaction
  rw [Atomic, outcome]
  exact untouched_iff kept

/-- An event whose sighting is committed is atomic when its person has a vector. -/
theorem atomic_of_commits {person : Person} {n : ℕ} (fresh : world.Fresh)
    (executed : Fallible.exec (World.handler faults engine) (execute payload) world.cleared =
      (.ok (), after)) (sighting : Sighting detection world.cleared qdrant person n after)
    (commits : ¬ faults.raises .commit = true)
    (vector : HasVector detection world qdrant person.id) :
    Atomic faults engine payload detection world := by
  obtain ⟨final, outcome, rfl, persons, events⟩ :=
    exec_processMessageCallback_commits fresh executed sighting commits
  rw [Atomic, outcome]
  refine ⟨person, world.entropy n, ?_, events, vector⟩
  rw [persons, Function.update_self]

end Transaction

/-! ## The branches of an event -/

section Branches

variable {faults : Program.Faults Call} {engine : Engine} {payload : Json} {detection : Detection}
  {world : World} {embedding : Json} (read : readEvent payload = .ok detection)
  (person : detection.kind = .person) (finds : engine.Finds) (fresh : world.Fresh)
  (restores : RollsBack faults)
  (carried : detection.detection.getD "embedding" (.arr []) = .ok embedding)

include read person carried

include fresh restores in
/-- Without a vector to search with, Qdrant is not touched. -/
theorem atomic_of_plain (plain : isReidVector embedding = .ok false) :
    Atomic faults engine payload detection world := by
  have unchanged : SameCollection world world.cleared.qdrant := ⟨rfl, rfl⟩
  have searched := @exec_findPerson_plain faults engine world.cleared embedding plain
  by_cases reads : faults.raises (.selectPerson .upsertPerson (world.cleared.entropy 0)) = true
  · have raised := (exec_execute_person read person carried).trans
      (exec_handlePersonDetection_unread searched reads)
    exact (atomic_iff_of_raised raised ⟨rfl, rfl⟩).mpr unchanged
  · obtain ⟨after, handled, sighting⟩ := exec_handlePersonDetection_plain searched reads plain
    have executed := (exec_execute_person read person carried).trans handled
    by_cases fails : faults.raises .commit = true
    · exact (atomic_iff_of_commit_raises executed sighting.toKept restores fails).mpr unchanged
    · refine atomic_of_commits fresh executed sighting fails fun other same reid => ?_
      rw [carried, Except.ok.injEq] at same
      rw [← same, plain] at reid
      cases reid

/-- A re-identification vector whose collection cannot be checked. -/
theorem atomic_iff_of_unchecked (reid : isReidVector embedding = .ok true)
    (unchecked : Qdrant.ensured (qdrantFaults faults) world.qdrant = none) :
    Atomic faults engine payload detection world ↔ ¬ CreatesUnheard faults world := by
  have raised := (exec_execute_person read person carried).trans
    (@exec_handlePersonDetection_unchecked faults engine world.cleared detection embedding reid
      unchecked)
  have halts : Kept world.cleared (Qdrant.halted (qdrantFaults faults) world.qdrant)
      (world.cleared.setQdrant (Qdrant.halted (qdrantFaults faults) world.qdrant)) := ⟨rfl, rfl⟩
  rw [atomic_iff_of_raised raised halts, SameCollection, collections_halted_iff unchecked]
  exact ⟨And.right, fun kept => ⟨Qdrant.points_halted _ _, kept⟩⟩

section Reid

variable {qdrant : Qdrant} (reid : isReidVector embedding = .ok true)
  (checked : Qdrant.ensured (qdrantFaults faults) world.qdrant = some qdrant)

include reid checked

include finds fresh restores in
/-- A match leaves the collection alone, and its person has a vector there. -/
theorem atomic_of_matched {first : QdrantVectorStore.Match} {others : List QdrantVectorStore.Match}
    (found : Qdrant.answered (qdrantFaults faults) engine qdrant embedding 1 matchThreshold =
      first :: others) : Atomic faults engine payload detection world := by
  have present : world.qdrant.Present := by
    by_contra absent
    rw [Qdrant.answered_ensured finds checked] at found
    exact absurd found (by rw [Qdrant.answered_of_not_present finds absent]; simp)
  have unchanged : SameCollection world qdrant :=
    ⟨Qdrant.ensured_points checked,
      (Qdrant.collections_ensured_iff checked).mpr fun missing => missing.2 present⟩
  obtain ⟨after, ⟨⟨error, handled⟩, kept⟩ | ⟨saved, same, handled, sighting⟩⟩ :=
    @exec_handlePersonDetection_matched faults engine world.cleared detection embedding qdrant
      first others reid checked found
  · have raised := (exec_execute_person read person carried).trans handled
    exact (atomic_iff_of_raised raised kept).mpr unchanged
  · have executed := (exec_execute_person read person carried).trans handled
    by_cases fails : faults.raises .commit = true
    · exact (atomic_iff_of_commit_raises executed sighting.toKept restores fails).mpr unchanged
    · refine atomic_of_commits fresh executed sighting fails fun other _ _ => ?_
      obtain ⟨point, entry, stored, reads⟩ := Qdrant.exists_point_of_answered finds
        (show first ∈ Qdrant.answered _ engine qdrant embedding 1 matchThreshold by
          rw [found]; exact List.mem_cons_self)
      rw [same]
      exact ⟨point, entry, stored, reads, Or.inl (by rw [← unchanged.1]; exact stored)⟩

omit read person carried reid in
/-- The check of the collection changes it just in case it was missing. -/
theorem sameCollection_iff_of_ensured : SameCollection world qdrant ↔ ¬ world.qdrant.Missing := by
  rw [SameCollection, ← Qdrant.collections_ensured_iff checked]
  exact ⟨fun unchanged => unchanged.2,
    fun unchanged => ⟨Qdrant.ensured_points checked, unchanged⟩⟩

omit read person carried reid checked in
include fresh in
/-- A vector under the UUID minted next changes the collection. -/
theorem not_sameCollection_put (present : qdrant.Present) (point : PointStruct)
    (own : point.id = .str (world.entropy 0).toText) :
    ¬ SameCollection world (qdrant.put present (world.entropy 0) point) := by
  intro unchanged
  have unused := fresh.points 0
  rw [← unchanged.1, ← own, Qdrant.points_put_self] at unused
  cases unused

section Unmatched

variable (unmatched : Qdrant.answered (qdrantFaults faults) engine qdrant embedding 1
  matchThreshold = [])

include unmatched

include fresh in
/-- A write of the vector that raises may have stored it all the same. -/
theorem atomic_iff_of_unindexed (reads : ¬ ReadRaises faults world)
    (refused : IndexRaises faults world embedding detection.timestamp ∨ ¬ qdrant.Present) :
    Atomic faults engine payload detection world ↔
      ¬ Late faults world embedding detection.timestamp := by
  have searched := @exec_findPerson_unmatched faults engine world.cleared embedding qdrant reid
    checked unmatched
  have looked := (Qdrant.ensured_spec checked).1
  have same := sameCollection_iff_of_ensured checked
  have there := Qdrant.present_of_ensured checked
  obtain ⟨after, handled, kept⟩ :=
    exec_handlePersonDetection_unindexed searched reads reid looked refused
  have raised := (exec_execute_person read person carried).trans handled
  rw [atomic_iff_of_raised raised kept]
  by_cases present : qdrant.Present
  · -- the upsert has raised, and whether the vector is there is up to the server
    have raises : IndexRaises faults world embedding detection.timestamp :=
      refused.resolve_right (not_not.mpr present)
    by_cases applied : faults.applied (.qdrant (.upsert QdrantVectorStore.collectionName
        (world.entropy 0) (vectorPoint (world.entropy 0) embedding detection.timestamp))) = true
    · have put : Qdrant.putUnheard (qdrantFaults faults) qdrant (world.entropy 0)
          (vectorPoint (world.entropy 0) embedding detection.timestamp) =
          qdrant.put present (world.entropy 0)
            (vectorPoint (world.entropy 0) embedding detection.timestamp) :=
        (dif_pos present).trans (if_pos applied)
      have changed := not_sameCollection_put fresh present
        (vectorPoint (world.entropy 0) embedding detection.timestamp) rfl
      refine iff_of_false (fun unchanged => changed (put ▸ unchanged)) (not_not.mpr ?_)
      rcases there.mp present with was | missing
      · exact Or.inr ⟨was, reads, Or.inl ⟨raises, applied⟩⟩
      · exact Or.inl ⟨missing, Or.inr (Or.inl raises)⟩
    · have unheard : ¬ IndexedUnheard faults world embedding detection.timestamp :=
        fun unheard => applied unheard.2
      have put : Qdrant.putUnheard (qdrantFaults faults) qdrant (world.cleared.entropy 0)
          (vectorPoint (world.cleared.entropy 0) embedding detection.timestamp) = qdrant :=
        Qdrant.putUnheard_of_not_applied applied
      rw [put, same]
      simp [Late, reads, raises, unheard]
  · -- without the collection no upsert stores anything
    have put : Qdrant.putUnheard (qdrantFaults faults) qdrant (world.cleared.entropy 0)
        (vectorPoint (world.cleared.entropy 0) embedding detection.timestamp) = qdrant :=
      dif_neg present
    rw [there, not_or] at present
    rw [put, same]
    simp [Late, present.1, present.2]

include fresh restores in
/-- A vector that is written stays, whatever the commit does. -/
theorem atomic_iff_of_indexed (reads : ¬ ReadRaises faults world)
    (writes : ¬ IndexRaises faults world embedding detection.timestamp)
    (present : qdrant.Present) :
    Atomic faults engine payload detection world ↔
      ¬ Late faults world embedding detection.timestamp := by
  have searched := @exec_findPerson_unmatched faults engine world.cleared embedding qdrant reid
    checked unmatched
  have looked := (Qdrant.ensured_spec checked).1
  obtain ⟨after, handled, sighting⟩ :=
    exec_handlePersonDetection_indexed searched reads reid looked writes present
  have executed := (exec_execute_person read person carried).trans handled
  by_cases fails : faults.raises .commit = true
  · -- the rows are rolled back, and the vector under the minted UUID stays
    rw [atomic_iff_of_commit_raises executed sighting.toKept restores fails]
    refine iff_of_false (not_sameCollection_put fresh present _ rfl) (not_not.mpr ?_)
    rcases (Qdrant.present_of_ensured checked).mp present with was | missing
    · exact Or.inr ⟨was, reads, Or.inr ⟨writes, fails⟩⟩
    · exact Or.inl ⟨missing, Or.inr (Or.inr fails)⟩
  · have atomic : Atomic faults engine payload detection world := by
      refine atomic_of_commits fresh executed sighting fails fun other same _ => ?_
      rw [carried, Except.ok.injEq] at same
      subst same
      refine ⟨_, _, Qdrant.points_put_self, ?_, Or.inr rfl⟩
      simp only [QdrantVectorStore.personOfPoint, Uuid.parse_toText]
    have heard : ¬ IndexedUnheard faults world embedding detection.timestamp :=
      fun unheard => writes unheard.1
    simp [Late, atomic, reads, writes, fails, heard]

include fresh restores in
/-- What an event without a match leaves depends on when it raises. -/
theorem atomic_iff_of_unmatched :
    Atomic faults engine payload detection world ↔
      ¬ Late faults world embedding detection.timestamp := by
  by_cases reads : ReadRaises faults world
  · -- before the vector, so only a created collection is left behind
    have searched := @exec_findPerson_unmatched faults engine world.cleared embedding qdrant reid
      checked unmatched
    have raised := (exec_execute_person read person carried).trans
      (exec_handlePersonDetection_unread searched reads)
    have kept : Kept world.cleared qdrant (world.cleared.setQdrant qdrant).minted := ⟨rfl, rfl⟩
    rw [atomic_iff_of_raised raised kept, sameCollection_iff_of_ensured checked]
    simp [Late, reads]
  · by_cases refused : IndexRaises faults world embedding detection.timestamp ∨ ¬ qdrant.Present
    · exact atomic_iff_of_unindexed read person fresh carried reid checked unmatched reads refused
    · obtain ⟨writes, present⟩ := not_or.mp refused
      exact atomic_iff_of_indexed read person fresh restores carried reid checked unmatched reads
        writes (not_not.mp present)

end Unmatched

end Reid

end Branches

/-- **When a person event is atomic across PostgreSQL and Qdrant**: exactly when
no exception comes after a change of Qdrant. -/
theorem atomic_iff (faults : Program.Faults Call) (engine : Engine) (payload : Json)
    (detection : Detection) (world : World) (read : readEvent payload = .ok detection)
    (person : detection.kind = .person) (finds : engine.Finds) (fresh : world.Fresh)
    (restores : RollsBack faults) :
    Atomic faults engine payload detection world ↔
      ¬ ∃ embedding, Exposed faults engine detection world embedding := by
  have unchanged : SameCollection world world.cleared.qdrant := ⟨rfl, rfl⟩
  have kept : Kept world.cleared world.cleared.qdrant world.cleared := ⟨rfl, rfl⟩
  cases carried : detection.detection.getD "embedding" (.arr []) with
  | error error =>
      have raised := @exec_execute_unreadable faults engine world.cleared detection payload error
        read person carried
      refine iff_of_true ((atomic_iff_of_raised raised kept).mpr unchanged) ?_
      rintro ⟨embedding, exposed⟩
      rw [exposed.carried] at carried
      cases carried
  | ok embedding =>
      have executes := @exec_execute_person faults engine world.cleared detection embedding payload
        read person carried
      -- the embedding is determined by the event
      have exposedHere : (∃ other, Exposed faults engine detection world other) ↔
          Exposed faults engine detection world embedding := by
        refine ⟨?_, fun exposed => ⟨embedding, exposed⟩⟩
        rintro ⟨other, exposed⟩
        have same := exposed.carried
        rw [carried, Except.ok.injEq] at same
        rwa [same]
      rw [exposedHere]
      match reid : isReidVector embedding with
      | .error error =>
          have raised := executes.trans (exec_handlePersonDetection_unsized reid)
          refine iff_of_true ((atomic_iff_of_raised raised kept).mpr unchanged) fun exposed => ?_
          rw [exposed.reid] at reid
          cases reid
      | .ok false =>
          refine iff_of_true (atomic_of_plain read person fresh restores carried reid)
            fun exposed => ?_
          rw [exposed.reid] at reid
          cases reid
      | .ok true =>
          cases checked : Qdrant.ensured (qdrantFaults faults) world.qdrant with
          | none =>
              rw [atomic_iff_of_unchecked read person carried reid checked]
              refine not_congr ⟨fun unheard => ⟨carried, reid, Or.inl unheard⟩, fun exposed => ?_⟩
              refine exposed.changes.resolve_right fun ⟨checks, _⟩ => ?_
              obtain ⟨after, outcome⟩ := checks_iff.mp checks
              rw [checked] at outcome
              cases outcome
          | some qdrant =>
              have checks := checks_iff.mpr ⟨qdrant, checked⟩
              have heard : ¬ CreatesUnheard faults world := by
                rintro ⟨looks, listed, absent, raises, -⟩
                have halts := (Qdrant.ensured_eq_none_iff looks).mpr (Or.inr ⟨absent, raises⟩)
                rw [halts] at checked
                cases checked
              -- creating a missing collection does not change what a search finds
              have answers : Qdrant.answered (qdrantFaults faults) engine qdrant embedding 1
                  matchThreshold = Qdrant.answered (qdrantFaults faults) engine world.qdrant
                    embedding 1 matchThreshold :=
                Qdrant.answered_ensured finds checked embedding 1 _
              cases found : Qdrant.answered (qdrantFaults faults) engine qdrant embedding 1
                matchThreshold with
              | cons first others =>
                  refine iff_of_true (atomic_of_matched read person finds fresh restores carried
                    reid checked found) fun exposed => ?_
                  obtain ⟨-, unmatched, -⟩ := exposed.changes.resolve_left heard
                  rw [answers, unmatched] at found
                  cases found
              | nil =>
                  rw [atomic_iff_of_unmatched read person fresh restores carried reid checked found]
                  refine not_congr ⟨fun late => ?_,
                    fun exposed => (exposed.changes.resolve_left heard).2.2⟩
                  exact ⟨carried, reid, Or.inr ⟨checks, answers ▸ found, late⟩⟩

/-! ### A vector without a person -/

/-- Only the commit raises, uncommitted. -/
def onlyCommitRaises : Program.Faults Call := .refusing fun
  | .commit => true
  | _ => false

/-- Only the write of a vector raises, unwritten. -/
def onlyUpsertRaises : Program.Faults Call := .refusing fun
  | .qdrant (.upsert _ _ _) => true
  | _ => false

/-- An event whose vector is refused leaves nothing behind. -/
theorem atomic_iff_sighting :
    ∃ detection, readEvent (exampleSighting "30") = .ok detection ∧
      Atomic onlyUpsertRaises Engine.silent (exampleSighting "30") detection World.empty := by
  obtain ⟨detection, read, person, -⟩ := exists_readEvent_exampleSighting
  have restores : RollsBack onlyUpsertRaises := fun _ => rfl
  refine ⟨detection, read, ?_⟩
  rw [atomic_iff onlyUpsertRaises Engine.silent (exampleSighting "30") detection World.empty read
    person Engine.finds_silent World.fresh_empty restores]
  rintro ⟨embedding, exposed⟩
  rcases exposed.changes with ⟨looks, -⟩ | ⟨-, -, ⟨missing, -⟩ | ⟨-, -, ⟨-, applied⟩ | ⟨-, fails⟩⟩⟩
  · cases looks
  · cases missing.1
  · cases applied
  · cases fails

/-- **A failed commit leaves a vector behind**: nobody matches, the vector of the
new identity is written, and the commit that would store its person raises. -/
theorem not_atomic_commit_raises :
    ∃ detection, readEvent (exampleSighting "30") = .ok detection ∧ detection.kind = .person ∧
      Engine.silent.Finds ∧ World.empty.Fresh ∧
      ¬ Atomic onlyCommitRaises Engine.silent (exampleSighting "30") detection World.empty := by
  obtain ⟨detection, read, person, carried⟩ := exists_readEvent_exampleSighting
  refine ⟨detection, read, person, Engine.finds_silent, World.fresh_empty, ?_⟩
  have checked : Qdrant.ensured (qdrantFaults onlyCommitRaises) World.empty.qdrant =
      some Qdrant.empty := rfl
  have unmatched : Qdrant.answered (qdrantFaults onlyCommitRaises) Engine.silent Qdrant.empty
      exampleEmbedding 1 matchThreshold = [] := rfl
  have restores : RollsBack onlyCommitRaises := fun _ => rfl
  rw [atomic_iff_of_unmatched read person World.fresh_empty restores carried
    isReidVector_exampleEmbedding checked unmatched, not_not]
  exact Or.inr ⟨Qdrant.present_empty, Bool.false_ne_true, Or.inr ⟨Bool.false_ne_true, rfl⟩⟩

end PersonTracking.Analytics
