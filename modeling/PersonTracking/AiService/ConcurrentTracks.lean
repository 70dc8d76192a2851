import PersonTracking.AiService.MtmcAssociator
import PersonTracking.Library.Pool

/-!
# Concurrent callers of the track association

Any number of threads are inside `associate`, and others sweep.  Each critical
section is one step: two calls for one track may both find it unresolved before
either has remembered what the gallery said.

`consistent_of_alone` says that nothing else goes wrong: as long as no call looks
a track up while another one is about to remember it, two calls for one track
agree whenever no sweep has removed it in between.  `two_new_persons` is a run in
which they do not.
-/

namespace PersonTracking.AiService

open Library Python

/-- What a call of `associate` is made for. -/
structure TrackCall where
  key : TrackKey
  embedding : Embedding

/-- What the log notes: a critical section of a call, or a sweep with the tracks it
has removed. -/
inductive LogEntry (ι : Type)
  | block (call : ι)
  | cleanup (removed : List TrackKey)
deriving DecidableEq, Repr

/-- The associator with the log, oldest entry first. -/
structure SharedTracks (ι : Type) where
  associator : Associator
  log : List (LogEntry ι)

/-- The calls that are on their way, with what they share. -/
abbrev TrackPool (ι : Type) : Type :=
  Pool ι Section SectionReply (Except PyError (String × Bool)) (SharedTracks ι)

/-- The next critical section, of a call or of a sweep with its active keys. -/
abbrev TrackMove (ι : Type) : Type := PoolMove ι Uuid (List TrackKey)

variable {ι : Type}

/-- Critical sections and sweeps, one at a time. -/
def trackSurroundings (numpy : Numpy) :
    Surroundings ι Section SectionReply (Except PyError (String × Bool)) (SharedTracks ι) Uuid
      (List TrackKey) where
  answer minted call request shared :=
    let answered := Associator.answer numpy minted request shared.associator
    some (answered.1, { associator := answered.2, log := shared.log ++ [.block call] })
  happen activeKeys pool :=
    some { pool with shared := {
      associator := pool.shared.associator.cleanupLostTracks activeKeys
      log := pool.shared.log ++ [.cleanup (pool.shared.associator.stale activeKeys)] } }

/-- Every call before its first critical section. -/
def TrackPool.start (associator : Associator) (calls : ι → TrackCall) : TrackPool ι where
  shared := { associator, log := [] }
  residual call := (associate (calls call).key (calls call).embedding).run

/-! ## What is claimed of two calls -/

section Log

variable (log : List (LogEntry ι))

/-- One call starts before another. -/
def StartsBefore [DecidableEq ι] (first second : ι) : Prop :=
  log.idxOf (.block first) < log.idxOf (.block second)

/-- A sweep removes the track after a critical section of a call. -/
def RemovedSince (key : TrackKey) (call : ι) : Prop :=
  ∃ removed, key ∈ removed ∧ [.block call, .cleanup removed].Sublist log

/-- A sweep removes the track between a critical section of one call and one of
another. -/
def Disturbed (key : TrackKey) (first second : ι) : Prop :=
  ∃ removed, key ∈ removed ∧ [.block first, .cleanup removed, .block second].Sublist log

end Log

/-- What a call has returned. -/
def returnedBy (pool : TrackPool ι) (call : ι) : Option (String × Bool) :=
  match pool.residual call with
  | .done (.ok found) => some found
  | _ => none

/-- **Calls for one track agree**: where no sweep has removed the track between the
start of the first and the end of the second, both have returned the same person,
and not both as a new one. -/
def Consistent [DecidableEq ι] (calls : ι → TrackCall) (pool : TrackPool ι) : Prop :=
  ∀ first second found other, (calls first).key = (calls second).key →
    StartsBefore pool.shared.log first second →
      ¬ Disturbed pool.shared.log (calls first).key first second →
        returnedBy pool first = some found → returnedBy pool second = some other →
          other.1 = found.1 ∧ ¬ (found.2 = true ∧ other.2 = true)

/-- A call that has looked its track up in vain and has not remembered it yet. -/
def inFlight (pool : TrackPool ι) (call : ι) : Bool :=
  match pool.residual call with
  | .done _ => false
  | .call (.lookup _) _ => false
  | .call _ _ => true

/-- A call that starts is alone: no other one for its track is in flight. -/
def Alone (calls : ι → TrackCall) (pool : TrackPool ι) : TrackMove ι → Prop
  | .happen _ => True
  | .answer call _ => inFlight pool call = false →
      ∀ other, (calls other).key = (calls call).key → inFlight pool other = false

/-! ## The log grows -/

section Growth

variable {log : List (LogEntry ι)} {entry : LogEntry ι} {first second call : ι} {key : TrackKey}

theorem RemovedSince.append (removed : RemovedSince log key call) :
    RemovedSince (log ++ [entry]) key call := by
  obtain ⟨keys, member, inside⟩ := removed
  exact ⟨keys, member, inside.trans (List.sublist_append_left _ _)⟩

theorem Disturbed.append (disturbed : Disturbed log key first second) :
    Disturbed (log ++ [entry]) key first second := by
  obtain ⟨keys, member, inside⟩ := disturbed
  exact ⟨keys, member, inside.trans (List.sublist_append_left _ _)⟩

theorem Disturbed.removedSince (disturbed : Disturbed log key first second) :
    RemovedSince log key first := by
  obtain ⟨keys, member, inside⟩ := disturbed
  exact ⟨keys, member, (List.sublist_append_left [_, _] [_]).trans inside⟩

/-- A critical section after a removal. -/
theorem RemovedSince.disturbed (removed : RemovedSince log key first) (second : ι) :
    Disturbed (log ++ [.block second]) key first second := by
  obtain ⟨keys, member, inside⟩ := removed
  exact ⟨keys, member, inside.append (List.Sublist.refl [LogEntry.block second])⟩

/-- A sweep that removes the track. -/
theorem removedSince_cleanup {removed : List TrackKey} (started : .block call ∈ log)
    (member : key ∈ removed) : RemovedSince (log ++ [.cleanup removed]) key call :=
  ⟨removed, member, (List.singleton_sublist.mpr started).append
    (List.Sublist.refl [LogEntry.cleanup removed])⟩

variable [DecidableEq ι]

theorem StartsBefore.mem (before : StartsBefore log first second) : .block first ∈ log :=
  List.idxOf_lt_length_iff.mp (lt_of_lt_of_le before List.idxOf_le_length)

/-- What comes later does not change the order of two calls, if the second has started. -/
theorem startsBefore_append (started : .block second ∈ log) :
    StartsBefore (log ++ [entry]) first second ↔ StartsBefore log first second := by
  unfold StartsBefore
  rw [List.idxOf_append_of_mem started]
  by_cases known : .block first ∈ log
  · rw [List.idxOf_append_of_mem known]
  · have late := List.idxOf_lt_length_of_mem started
    rw [List.idxOf_append_of_notMem known, List.idxOf_eq_length known]
    omega

/-- A call that starts comes after those that have. -/
theorem startsBefore_of_notMem (started : .block first ∈ log) (new : .block second ∉ log) :
    StartsBefore (log ++ [entry]) first second := by
  have early := List.idxOf_lt_length_of_mem started
  unfold StartsBefore
  rw [List.idxOf_append_of_mem started, List.idxOf_append_of_notMem new]
  omega

end Growth

/-! ## What a call is about to do -/

/-- How far a call has come. -/
inductive Progress
  | waiting
  | missed
  | found (answer : String × Bool)
  | returned (answer : String × Bool)
  | raised
deriving DecidableEq

namespace Progress

/-- What a lookup makes of a call. -/
def ofLookup : Option String → Progress
  | some personId => returned (personId, false)
  | none => missed

/-- What an answer of the gallery makes of it. -/
def ofGallery : Except PyError (String × Bool) → Progress
  | .ok answer => found answer
  | .error _ => raised

/-- The track is looked up and not remembered yet. -/
def Open : Progress → Prop
  | missed | found _ => True
  | waiting | returned _ | raised => False

theorem Open.ne_waiting {progress : Progress} (isOpen : progress.Open) : progress ≠ .waiting := by
  rintro rfl
  exact isOpen

/-- The call does not contradict one that has returned this person before. -/
def Agrees (personId : String) : Progress → Prop
  | waiting | raised => True
  | missed | found _ => False
  | returned answer => answer = (personId, false)

theorem not_agrees_of_open {progress : Progress} {personId : String} (isOpen : progress.Open) :
    ¬ progress.Agrees personId := by
  cases progress with
  | missed | found _ => exact id
  | waiting | returned _ | raised => exact isOpen.elim

end Progress

/-- The rules a call keeps to. -/
def trackRules : Program.Rules Section SectionReply (TrackCall × Progress) where
  allowed phase request :=
    match phase.2, request with
    | .waiting, .lookup key => key = phase.1.key
    | .missed, .matchOrCreate embedding => embedding = phase.1.embedding
    | .found answer, .remember key personId => key = phase.1.key ∧ personId = answer.1
    | _, _ => False
  admits _ _ _ := True
  after phase request reply :=
    (phase.1, match request, reply with
      | .lookup _, known => .ofLookup known
      | .matchOrCreate _, result => .ofGallery result
      | .remember _ _, () =>
          match phase.2 with
          | .found answer => .returned answer
          | other => other)

/-- What a call has come to when it is over. -/
def Over (result : Except PyError (String × Bool)) (phase : TrackCall × Progress) : Prop :=
  match result with
  | .ok answer => phase.2 = .returned answer
  | .error _ => phase.2 = .raised

/-- `associate` keeps to the rules. -/
theorem associate_keeps (call : TrackCall) :
    Program.wp trackRules Over (associate call.key call.embedding).run (call, .waiting) := by
  refine ⟨rfl, fun found _ => ?_⟩
  cases found with
  | some personId => exact rfl
  | none =>
      refine ⟨rfl, fun asked _ => ?_⟩
      cases asked with
      | error error => exact rfl
      | ok answer => exact ⟨⟨rfl, rfl⟩, fun _ _ => rfl⟩

/-- A call that has returned is in the phase that says so. -/
theorem phase_of_returnedBy {pool : TrackPool ι} {call : ι} {phase : TrackCall × Progress}
    {found : String × Bool} (keeps : Program.wp trackRules Over (pool.residual call) phase)
    (returned : returnedBy pool call = some found) : phase.2 = .returned found := by
  unfold returnedBy at returned
  split at returned
  · rename_i answer done
    cases returned
    rw [done] at keeps
    exact keeps
  · cases returned

/-- A call in flight is one whose phase is open. -/
theorem inFlight_iff {pool : TrackPool ι} {call : ι} {phase : TrackCall × Progress}
    (keeps : Program.wp trackRules Over (pool.residual call) phase) :
    inFlight pool call = true ↔ phase.2.Open := by
  obtain ⟨made, progress⟩ := phase
  unfold inFlight
  cases left : pool.residual call with
  | done result =>
      rw [left] at keeps
      cases result with
      | ok answer =>
          cases (keeps : progress = .returned answer)
          simp [Progress.Open]
      | error error =>
          cases (keeps : progress = .raised)
          simp [Progress.Open]
  | call request next =>
      rw [left] at keeps
      obtain ⟨allowed, -⟩ := keeps
      cases request with
      | lookup key =>
          cases progress with
          | waiting => simp [Progress.Open]
          | missed | found _ | returned _ | raised => cases allowed
      | matchOrCreate embedding =>
          cases progress with
          | missed => simp [Progress.Open]
          | waiting | found _ | returned _ | raised => cases allowed
      | remember key personId =>
          cases progress with
          | found answer => simp [Progress.Open]
          | waiting | missed | returned _ | raised => cases allowed

/-- **The invariant.**  Calls in flight are alone with their track and started last
of all; a call that has returned leaves its answer in the cache until a sweep removes
it; and no later call contradicts it. -/
structure Settled [DecidableEq ι] (calls : ι → TrackCall) (phases : ι → TrackCall × Progress)
    (shared : SharedTracks ι) : Prop where
  made : ∀ call, (phases call).1 = calls call
  started : ∀ call, .block call ∈ shared.log ↔ (phases call).2 ≠ .waiting
  latest : ∀ call other, (calls other).key = (calls call).key → (phases call).2.Open →
    .block other ∈ shared.log → other ≠ call →
      ¬ (phases other).2.Open ∧ StartsBefore shared.log other call
  cached : ∀ call answer, (phases call).2 = .returned answer →
    shared.associator.trackToPerson.get? (calls call).key = some answer.1 ∨
      RemovedSince shared.log (calls call).key call
  kept : ∀ first second answer, (calls first).key = (calls second).key →
    StartsBefore shared.log first second → (phases first).2 = .returned answer →
      Disturbed shared.log (calls first).key first second ∨ (phases second).2.Agrees answer.1

namespace Settled

variable [DecidableEq ι] {calls : ι → TrackCall} {phases : ι → TrackCall × Progress}
  {shared : SharedTracks ι} {call : ι} {progress : Progress}

/-- Nothing has started. -/
theorem start (associator : Associator) (calls : ι → TrackCall) :
    Settled calls (fun call => (calls call, .waiting)) { associator, log := [] } where
  made _ := rfl
  started _ := by simp
  latest _ _ _ wrong := by cases wrong
  cached _ _ wrong := by cases wrong
  kept _ _ _ _ _ wrong := by cases wrong

/-- A call that is not in the log waits. -/
theorem waiting_of_notMem (settled : Settled calls phases shared)
    (unstarted : LogEntry.block call ∉ shared.log) : (phases call).2 = .waiting :=
  not_not.mp (mt (settled.started call).mpr unstarted)

/-- A call that may act and is in the log is in flight. -/
theorem open_of_mem (settled : Settled calls phases shared)
    (acts : (phases call).2 = .waiting ∨ (phases call).2.Open)
    (started : LogEntry.block call ∈ shared.log) : (phases call).2.Open :=
  acts.resolve_left ((settled.started call).mp started)

/-- A sweep. -/
theorem cleanup (settled : Settled calls phases shared) (activeKeys : List TrackKey) :
    Settled calls phases {
      associator := shared.associator.cleanupLostTracks activeKeys
      log := shared.log ++ [.cleanup (shared.associator.stale activeKeys)] } where
  made := settled.made
  started call := by simpa using settled.started call
  latest call other same isOpen member different := by
    have inside : LogEntry.block other ∈ shared.log := by simpa using member
    obtain ⟨closed, before⟩ := settled.latest call other same isOpen inside different
    exact ⟨closed, (startsBefore_append ((settled.started call).mpr isOpen.ne_waiting)).mpr before⟩
  cached call answer returned := by
    rcases settled.cached call answer returned with known | removed
    · rw [Associator.get?_cleanupLostTracks]
      split
      · exact Or.inl known
      · rename_i inactive
        refine Or.inr (removedSince_cleanup ((settled.started call).mpr (by simp [returned])) ?_)
        refine List.mem_filter.mpr ⟨?_, by simpa using inactive⟩
        by_contra unknown
        rw [OrderedDict.get?_of_notMem unknown] at known
        cases known
    · exact Or.inr removed.append
  kept first second answer same before returned := by
    by_cases started : LogEntry.block second ∈ shared.log
    · rcases settled.kept first second answer same ((startsBefore_append started).mp before)
        returned with disturbed | agrees
      · exact Or.inl disturbed.append
      · exact Or.inr agrees
    · rw [settled.waiting_of_notMem started]
      exact Or.inr trivial

/-- After a critical section, calls in flight are alone with their track and started
last of all. -/
theorem latest_block (settled : Settled calls phases shared)
    (acts : (phases call).2 = .waiting ∨ (phases call).2.Open)
    (alone : (phases call).2 = .waiting → ∀ other, (calls other).key = (calls call).key →
      ¬ (phases other).2.Open)
    {opened other : ι} (sameKey : (calls other).key = (calls opened).key)
    (isOpen : (Function.update phases call (calls call, progress) opened).2.Open)
    (member : LogEntry.block other ∈ shared.log ++ [.block call]) (different : other ≠ opened) :
    ¬ (Function.update phases call (calls call, progress) other).2.Open ∧
      StartsBefore (shared.log ++ [.block call]) other opened := by
  by_cases own : opened = call
  · subst own
    have inside : LogEntry.block other ∈ shared.log := by simpa [different] using member
    rw [Function.update_of_ne different]
    rcases acts with waits | open'
    · have new : LogEntry.block opened ∉ shared.log := fun started =>
        (settled.started opened).mp started waits
      exact ⟨alone waits other sameKey, startsBefore_of_notMem inside new⟩
    · obtain ⟨closed, before⟩ := settled.latest opened other sameKey open' inside different
      have started := (settled.started opened).mpr open'.ne_waiting
      exact ⟨closed, (startsBefore_append started).mpr before⟩
  · rw [Function.update_of_ne own] at isOpen
    have started := (settled.started opened).mpr isOpen.ne_waiting
    by_cases acting : other = call
    · -- beside a call in flight, the acting one has started, and is not in flight itself
      subst acting
      rcases acts with waits | open'
      · exact absurd isOpen (alone waits opened sameKey.symm)
      · have inside := (settled.started other).mpr open'.ne_waiting
        exact absurd open' (settled.latest opened other sameKey isOpen inside different).1
    · have inside : LogEntry.block other ∈ shared.log := by simpa [acting] using member
      obtain ⟨closed, before⟩ := settled.latest opened other sameKey isOpen inside different
      rw [Function.update_of_ne acting]
      exact ⟨closed, (startsBefore_append started).mpr before⟩

/-- After a critical section, no later call contradicts one that has returned. -/
theorem kept_block (settled : Settled calls phases shared)
    (acts : (phases call).2 = .waiting ∨ (phases call).2.Open)
    (agrees : (phases call).2 = .waiting → ∀ first answer, (calls first).key = (calls call).key →
      (phases first).2 = .returned answer →
        RemovedSince shared.log (calls first).key first ∨ progress.Agrees answer.1)
    {first second : ι} {answer : String × Bool} (sameKey : (calls first).key = (calls second).key)
    (before : StartsBefore (shared.log ++ [.block call]) first second)
    (returned : (Function.update phases call (calls call, progress) first).2 = .returned answer) :
    Disturbed (shared.log ++ [.block call]) (calls first).key first second ∨
      (Function.update phases call (calls call, progress) second).2.Agrees answer.1 := by
  have different : first ≠ second := by
    rintro rfl
    exact lt_irrefl _ before
  by_cases started : LogEntry.block second ∈ shared.log
  · replace before := (startsBefore_append started).mp before
    by_cases acting : first = call
    · -- the acting call would have started first, and a call in flight has started last
      subst acting
      have isOpen := settled.open_of_mem acts before.mem
      exact absurd before (lt_asymm
        (settled.latest first second sameKey.symm isOpen started different.symm).2)
    · rw [Function.update_of_ne acting] at returned
      rcases settled.kept first second answer sameKey before returned with disturbed | agree
      · exact Or.inl disturbed.append
      · by_cases own : second = call
        · subst own
          exact absurd agree (Progress.not_agrees_of_open (settled.open_of_mem acts started))
        · rw [Function.update_of_ne own]
          exact Or.inr agree
  · have waits := settled.waiting_of_notMem started
    by_cases own : second = call
    · subst own
      rw [Function.update_of_ne different] at returned
      rw [Function.update_self]
      exact (agrees waits first answer sameKey returned).imp_left fun removed =>
        removed.disturbed second
    · rw [Function.update_of_ne own, waits]
      exact Or.inr trivial

/-- **A critical section of a call.**  A call that starts is alone with its track and
agrees with what the cache still has of those before it. -/
theorem block (settled : Settled calls phases shared) {associator : Associator}
    (acts : (phases call).2 = .waiting ∨ (phases call).2.Open)
    (alone : (phases call).2 = .waiting → ∀ other, (calls other).key = (calls call).key →
      ¬ (phases other).2.Open)
    (agrees : (phases call).2 = .waiting → ∀ first answer, (calls first).key = (calls call).key →
      (phases first).2 = .returned answer →
        RemovedSince shared.log (calls first).key first ∨ progress.Agrees answer.1)
    (advances : progress ≠ .waiting)
    (ownCache : ∀ answer, progress = .returned answer →
      associator.trackToPerson.get? (calls call).key = some answer.1)
    (otherCache : ∀ other answer, other ≠ call → (phases other).2 = .returned answer →
      associator.trackToPerson.get? (calls other).key =
          shared.associator.trackToPerson.get? (calls other).key ∨
        RemovedSince shared.log (calls other).key other) :
    Settled calls (Function.update phases call (calls call, progress))
      { associator, log := shared.log ++ [.block call] } where
  made := (Function.forall_update_iff phases fun other phase => phase.1 = calls other).mpr
    ⟨rfl, fun other _ => settled.made other⟩
  started := by
    refine (Function.forall_update_iff phases fun other phase =>
      LogEntry.block other ∈ shared.log ++ [.block call] ↔ phase.2 ≠ .waiting).mpr ⟨?_, ?_⟩
    · simp [advances]
    · intro other different
      rw [← settled.started other]
      simp [different]
  latest _ _ := settled.latest_block acts alone
  cached other answer returned := by
    by_cases same : other = call
    · subst same
      rw [Function.update_self] at returned
      exact Or.inl (ownCache answer returned)
    · rw [Function.update_of_ne same] at returned
      rcases otherCache other answer same returned with unchanged | removed
      · rcases settled.cached other answer returned with known | removed
        · exact Or.inl (unchanged.trans known)
        · exact Or.inr removed.append
      · exact Or.inr removed.append
  kept _ _ _ := settled.kept_block acts agrees

/-- A call looks its track up. -/
theorem lookup (settled : Settled calls phases shared) (waits : (phases call).2 = .waiting)
    (alone : ∀ other, (calls other).key = (calls call).key → ¬ (phases other).2.Open) :
    Settled calls
      (Function.update phases call (calls call,
        .ofLookup (shared.associator.trackToPerson.get? (calls call).key)))
      { shared with log := shared.log ++ [.block call] } := by
  refine settled.block (Or.inl waits) (fun _ => alone) (fun _ first answer same returned => ?_) ?_
    (fun answer returned => ?_) fun other answer _ _ => Or.inl rfl
  · rcases settled.cached first answer returned with known | removed
    · rw [same] at known
      rw [known]
      exact Or.inr rfl
    · exact Or.inl removed
  · cases shared.associator.trackToPerson.get? (calls call).key <;> nofun
  · cases known : shared.associator.trackToPerson.get? (calls call).key with
    | none =>
        rw [known] at returned
        cases returned
    | some personId =>
        rw [known] at returned
        cases returned
        rfl

/-- A call asks the gallery. -/
theorem ask (settled : Settled calls phases shared) (missed : (phases call).2 = .missed)
    {associator : Associator} {result : Except PyError (String × Bool)}
    (tracks : associator.trackToPerson = shared.associator.trackToPerson) :
    Settled calls
      (Function.update phases call (calls call, .ofGallery result))
      { associator, log := shared.log ++ [.block call] } := by
  have isOpen : (phases call).2.Open := by
    rw [missed]
    exact trivial
  refine settled.block (Or.inr isOpen) (fun waits => absurd waits isOpen.ne_waiting)
    (fun waits => absurd waits isOpen.ne_waiting) ?_ (fun answer returned => ?_)
    fun other answer _ _ => Or.inl (by rw [tracks])
  · cases result <;> nofun
  · cases result <;> cases returned

/-- A call remembers what the gallery said. -/
theorem remember (settled : Settled calls phases shared) {answer : String × Bool}
    (found : (phases call).2 = .found answer) :
    Settled calls (Function.update phases call (calls call, .returned answer))
      { associator := { shared.associator with
          trackToPerson := shared.associator.trackToPerson.set (calls call).key answer.1 }
        log := shared.log ++ [.block call] } := by
  have isOpen : (phases call).2.Open := by
    rw [found]
    exact trivial
  refine settled.block (Or.inr isOpen) (fun waits => absurd waits isOpen.ne_waiting)
    (fun waits => absurd waits isOpen.ne_waiting) nofun (fun own returned => ?_)
    fun other earlier different returned => ?_
  · cases returned
    rw [OrderedDict.get?_set, if_pos rfl]
  · by_cases same : (calls other).key = (calls call).key
    · -- the track was unresolved when the call looked it up, so a sweep has removed it since
      have started := (settled.started other).mpr (by simp [returned])
      obtain ⟨-, before⟩ := settled.latest call other same isOpen started different
      rcases settled.kept other call earlier same before returned with disturbed | agree
      · exact Or.inr disturbed.removedSince
      · exact absurd agree (Progress.not_agrees_of_open isOpen)
    · rw [OrderedDict.get?_set, if_neg (Ne.symm same)]
      exact Or.inl rfl

/-- **What an answer does**: a call that is alone when it starts keeps the invariant
in each of its critical sections. -/
theorem answer (settled : Settled calls phases shared) {numpy : Numpy} {minted : Uuid}
    {request : Section} (allowed : trackRules.allowed (phases call) request)
    (alone : (phases call).2 = .waiting → ∀ other, (calls other).key = (calls call).key →
      ¬ (phases other).2.Open) :
    Settled calls
      (Function.update phases call (trackRules.after (phases call) request
        (Associator.answer numpy minted request shared.associator).1))
      { associator := (Associator.answer numpy minted request shared.associator).2
        log := shared.log ++ [.block call] } := by
  have made := settled.made call
  cases here : phases call with
  | mk own progress =>
      rw [here] at made allowed alone
      cases made
      cases request with
      | lookup key =>
          cases progress with
          | missed | found _ | returned _ | raised => cases allowed
          | waiting =>
              cases (allowed : key = (calls call).key)
              exact settled.lookup (congrArg Prod.snd here) (alone rfl)
      | matchOrCreate embedding =>
          cases progress with
          | waiting | found _ | returned _ | raised => cases allowed
          | missed =>
              refine settled.ask (congrArg Prod.snd here) ?_
              rw [Associator.answer]
              split <;> rfl
      | remember key personId =>
          cases progress with
          | waiting | missed | returned _ | raised => cases allowed
          | found answer =>
              obtain ⟨rfl, rfl⟩ := allowed
              exact settled.remember (congrArg Prod.snd here)

end Settled

/-- **Calls for one track agree** in every state that calls and sweeps come to, in
whatever order their critical sections are made, as long as no call looks its track
up while another one for it is in flight. -/
theorem consistent_of_alone [DecidableEq ι] (numpy : Numpy) (associator : Associator)
    (calls : ι → TrackCall) {moves : List (TrackMove ι)} {after : TrackPool ι}
    (alone : Meets (Alone calls) (trackSurroundings numpy).step (TrackPool.start associator calls)
      moves)
    (reached : runFrom (trackSurroundings numpy).step (TrackPool.start associator calls) moves =
      some after) :
    Consistent calls after := by
  have start : (TrackPool.start associator calls).Tracked trackRules Over (Settled calls) :=
    ⟨_, Settled.start associator calls, fun call => associate_keeps (calls call)⟩
  have tracked : after.Tracked trackRules Over (Settled calls) := by
    refine Surroundings.tracked ?_ ?_ start alone reached
    · intro pool phases call minted request next reply shared settled keeps waiting allowed met
        answered
      cases answered
      refine ⟨trivial, settled.answer allowed fun waits other same isOpen => ?_⟩
      have idle : inFlight pool call = false := by
        rw [← Bool.not_eq_true, inFlight_iff (keeps call), waits]
        exact id
      have closed := met idle other same
      rw [(inFlight_iff (keeps other)).mpr isOpen] at closed
      cases closed
    · rintro pool activeKeys next ⟨phases, settled, keeps⟩ - happened
      cases happened
      exact ⟨phases, settled.cleanup activeKeys, keeps⟩
  obtain ⟨phases, settled, keeps⟩ := tracked
  intro first second found other same before undisturbed returned returned'
  rcases settled.kept first second found same before (phase_of_returnedBy (keeps first) returned)
    with disturbed | agrees
  · exact absurd disturbed undisturbed
  · rw [phase_of_returnedBy (keeps second) returned'] at agrees
    cases agrees
    exact ⟨rfl, nofun⟩

/-! ## Two calls for one track -/

/-- Two calls for track 7 of camera 0, with orthogonal embeddings. -/
def exampleTrackCalls : Fin 2 → TrackCall
  | 0 => { key := ("0", 7), embedding := firstUnit }
  | 1 => { key := ("0", 7), embedding := secondUnit }

/-- Both calls are about to start. -/
def exampleTrackPool : TrackPool (Fin 2) :=
  TrackPool.start (Associator.start (PersonGallery.empty matchThreshold)) exampleTrackCalls

/-- The next critical section of a call; each would mint a UUID of its own. -/
def blockOf (call : Fin 2) : TrackMove (Fin 2) :=
  .answer call (match call with
    | 0 => .ofNat 1
    | 1 => .ofNat 2)

instance {n : ℕ} (calls : Fin n → TrackCall) (pool : TrackPool (Fin n)) :
    ∀ move, Decidable (Alone calls pool move)
  | .happen _ => isTrue trivial
  | .answer call _ => inferInstanceAs (Decidable (inFlight pool call = false →
      ∀ other, (calls other).key = (calls call).key → inFlight pool other = false))

theorem consistent_of_alone_example :
    ∃ after, runFrom (trackSurroundings exampleNumpy).step exampleTrackPool
        [blockOf 0, blockOf 0, blockOf 0, blockOf 1] = some after ∧
      Consistent exampleTrackCalls after := by
  have returns : (runFrom (trackSurroundings exampleNumpy).step exampleTrackPool
      [blockOf 0, blockOf 0, blockOf 0, blockOf 1]).isSome = true := by decide +kernel
  obtain ⟨after, reached⟩ := Option.isSome_iff_exists.mp returns
  exact ⟨after, reached, consistent_of_alone exampleNumpy _ exampleTrackCalls (by decide +kernel)
    reached⟩

/-- **Two new persons for one track**: both calls look it up before either remembers
it, and nobody sweeps. -/
theorem two_new_persons :
    ∃ after, runFrom (trackSurroundings exampleNumpy).step exampleTrackPool
        [blockOf 0, blockOf 1, blockOf 0, blockOf 1, blockOf 0, blockOf 1] = some after ∧
      ¬ Consistent exampleTrackCalls after := by
  have both : ∃ pool ∈ runFrom (trackSurroundings exampleNumpy).step exampleTrackPool
      [blockOf 0, blockOf 1, blockOf 0, blockOf 1, blockOf 0, blockOf 1],
      returnedBy pool 0 = some ((Uuid.ofNat 1).toText, true) ∧
        returnedBy pool 1 = some ((Uuid.ofNat 2).toText, true) ∧
          StartsBefore pool.shared.log 0 1 ∧
            ∀ entry ∈ pool.shared.log, entry = .block 0 ∨ entry = .block 1 := by
    unfold StartsBefore
    decide +kernel
  obtain ⟨after, reached, first, second, before, blocks⟩ := both
  refine ⟨after, reached, fun consistent => ?_⟩
  have undisturbed : ¬ Disturbed after.shared.log ("0", 7) 0 1 := by
    rintro ⟨removed, -, inside⟩
    have member : LogEntry.cleanup removed ∈ after.shared.log := inside.subset (by simp)
    rcases blocks _ member with wrong | wrong <;> cases wrong
  have agree := consistent 0 1 _ _ rfl before undisturbed first second
  exact agree.2 ⟨rfl, rfl⟩

end PersonTracking.AiService
