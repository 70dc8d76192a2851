import PersonTracking.Library.OrderedDict
import PersonTracking.Library.Transition

/-!
# The stream watchdog

`_run_watchdog` takes a snapshot of the registered sources, checks the active ones of it
one after the other in a thread pool, and reports each that does not answer.  The
registry may change while it waits for a check or for the callback.

A `StreamManager` carries two things the code does not keep: the cameras registered or
deregistered since the last snapshot, and the reports made, with what was registered at
that moment.

`reports_current_iff` says when every report of a run is about the present.
-/

namespace PersonTracking.AiService

open Library

/-- `RTSPSource`, without what only a check reads. -/
structure RTSPSource where
  cameraId : String
  uri : String
  name : String
  isActive : Bool

/-- Where `_run_watchdog` waits: for its next scan, for the check of a source, or for a
callback.  The rest of the snapshot comes with it. -/
inductive Watchdog
  | off
  | sleeping
  | checking (cameraId : String) (source : ℕ) (rest : List (String × ℕ))
  | calling (rest : List (String × ℕ))

/-- The part of the snapshot that has not been dealt with. -/
def Watchdog.pending : Watchdog → List (String × ℕ)
  | .off | .sleeping => []
  | .checking cameraId source rest => (cameraId, source) :: rest
  | .calling rest => rest

/-- A call of the disconnect callback: the camera, the source whose check failed, and
what was registered for the camera at that moment. -/
structure Report where
  cameraId : String
  failed : ℕ
  registered : Option ℕ
  isActive : Bool
deriving DecidableEq, Repr

/-- The report is about the source registered now, and that source is active. -/
def Report.Current (report : Report) : Prop :=
  report.registered = some report.failed ∧ report.isActive = true

/-- `StreamManager`.  A source is a number, its place in the list of all objects. -/
structure StreamManager where
  objects : List RTSPSource
  sources : OrderedDict String ℕ
  onDisconnectCallback : Bool
  watchdog : Watchdog
  touched : List String
  reports : List Report

/-- How a check ends.  `check_connectivity` catches the errors of a socket, no others. -/
inductive CheckResult
  | reachable
  | unreachable
  | raised
deriving DecidableEq, Repr

/-- What can happen while the watchdog waits. -/
inductive StreamEvent
  | registerSource (cameraId uri name : String)
  | deregisterSource (cameraId : String)
  | setActive (source : ℕ) (isActive : Bool)
  | registerDisconnectCallback
  | startWatchdog
  | stopWatchdog
  | wake
  | checked (result : CheckResult)
  | callbackDone
deriving DecidableEq, Repr

namespace StreamManager

/-! ## The operations -/

/-- `__init__`. -/
def init : StreamManager where
  objects := []
  sources := .empty
  onDisconnectCallback := false
  watchdog := .off
  touched := []
  reports := []

/-- `register_source`: a new object, also where the camera has one. -/
def registerSource (manager : StreamManager) (cameraId uri name : String) : StreamManager :=
  { manager with
    objects := manager.objects ++ [{ cameraId, uri, name, isActive := true }]
    sources := manager.sources.set cameraId manager.objects.length
    touched := cameraId :: manager.touched }

/-- `deregister_source`. -/
def deregisterSource (manager : StreamManager) (cameraId : String) : StreamManager :=
  { manager with
    sources := manager.sources.pop cameraId
    touched := cameraId :: manager.touched }

/-- `source.is_active = isActive`. -/
def setActive (manager : StreamManager) (source : ℕ) (isActive : Bool) : StreamManager :=
  { manager with
    objects := manager.objects.modify source fun object => { object with isActive } }

/-- `source.is_active`. -/
def active (manager : StreamManager) (source : ℕ) : Bool :=
  manager.objects[source]?.any RTSPSource.isActive

/-- The `for` loop over the rest of the snapshot, up to the next check. -/
def scan (manager : StreamManager) : List (String × ℕ) → Watchdog
  | [] => .sleeping
  | (cameraId, source) :: rest =>
      if manager.active source then .checking cameraId source rest else manager.scan rest

/-- Go on with the scan. -/
def resume (manager : StreamManager) (rest : List (String × ℕ)) : StreamManager :=
  { manager with watchdog := manager.scan rest }

/-- The interval is over: take a snapshot and start with it. -/
def startScan (manager : StreamManager) : StreamManager :=
  { manager with
    touched := []
    watchdog := manager.scan manager.sources.entries }

/-- Call the callback with the camera's id. -/
def report (manager : StreamManager) (cameraId : String) (failed : ℕ)
    (rest : List (String × ℕ)) : StreamManager :=
  { manager with
    watchdog := .calling rest
    reports :=
      { cameraId
        failed
        registered := manager.sources.get? cameraId
        isActive := manager.active failed } :: manager.reports }

/-- `_run_watchdog` after a check. -/
def checked (manager : StreamManager) (cameraId : String) (source : ℕ)
    (rest : List (String × ℕ)) : CheckResult → StreamManager
  | .reachable => manager.resume rest
  | .unreachable =>
      if manager.onDisconnectCallback then manager.report cameraId source rest
      else manager.resume rest
  -- the handler around the scan logs the error, and the loop goes back to its sleep
  | .raised => { manager with watchdog := .sleeping }

/-- One step, of the watchdog or of somebody else while it waits. -/
def step (manager : StreamManager) : StreamEvent → Option StreamManager
  | .registerSource cameraId uri name => some (manager.registerSource cameraId uri name)
  | .deregisterSource cameraId => some (manager.deregisterSource cameraId)
  | .setActive source isActive => some (manager.setActive source isActive)
  | .registerDisconnectCallback => some { manager with onDisconnectCallback := true }
  | .startWatchdog =>
      match manager.watchdog with
      | .off => some { manager with watchdog := .sleeping }
      -- a task that is running is left alone
      | _ => some manager
  | .stopWatchdog => some { manager with watchdog := .off }
  | .wake =>
      match manager.watchdog with
      | .sleeping => some manager.startScan
      | _ => none
  | .checked result =>
      match manager.watchdog with
      | .checking cameraId source rest => some (manager.checked cameraId source rest result)
      | _ => none
  | .callbackDone =>
      match manager.watchdog with
      | .calling rest => some (manager.resume rest)
      | _ => none

/-! ## What is reported -/

/-- **Only current failures are reported.** -/
def ReportsCurrent (manager : StreamManager) : Prop :=
  ∀ report ∈ manager.reports, report.Current

/-- The condition on a step: where a check fails and there is a callback, its camera was
neither registered nor deregistered since the snapshot, and its source is active. -/
def Undisturbed (manager : StreamManager) : StreamEvent → Prop
  | .checked .unreachable =>
      match manager.watchdog with
      | .checking cameraId source _ => manager.onDisconnectCallback = true →
          cameraId ∉ manager.touched ∧ manager.active source = true
      | _ => True
  | _ => True

/-- An entry of the snapshot is still registered just in case nobody touched its camera. -/
def Tracked (manager : StreamManager) (entry : String × ℕ) : Prop :=
  entry.2 < manager.objects.length ∧
    (entry.1 ∉ manager.touched ↔ manager.sources.get? entry.1 = some entry.2)

/-- What every step keeps. -/
structure Consistent (manager : StreamManager) : Prop where
  current : manager.ReportsCurrent
  registered : ∀ cameraId source, manager.sources.get? cameraId = some source →
    source < manager.objects.length
  tracked : ∀ entry ∈ manager.watchdog.pending, manager.Tracked entry

variable {manager after : StreamManager} {entry : String × ℕ}

theorem consistent_init : init.Consistent where
  current _ member := absurd member List.not_mem_nil
  registered _ _ found := absurd found (Option.some_ne_none _).symm
  tracked _ member := absurd member List.not_mem_nil

/-- The loop skips sources and adds none. -/
theorem mem_of_mem_pending_scan {rest : List (String × ℕ)}
    (member : entry ∈ (manager.scan rest).pending) : entry ∈ rest := by
  induction rest with
  | nil => exact absurd member List.not_mem_nil
  | cons next rest ih =>
      rw [scan] at member
      split at member
      · exact member
      · exact List.mem_cons_of_mem _ (ih member)

/-- Going on with a part of what was pending keeps everything. -/
theorem consistent_resume {rest : List (String × ℕ)} (consistent : manager.Consistent)
    (pending : ∀ entry ∈ rest, entry ∈ manager.watchdog.pending) :
    (manager.resume rest).Consistent where
  current := consistent.current
  registered := consistent.registered
  tracked entry member := consistent.tracked entry (pending entry (mem_of_mem_pending_scan member))

/-- A registration is of a new object. -/
theorem consistent_registerSource (consistent : manager.Consistent) (cameraId uri name : String) :
    (manager.registerSource cameraId uri name).Consistent := by
  have longer : (manager.registerSource cameraId uri name).objects.length =
      manager.objects.length + 1 := List.length_append
  refine ⟨consistent.current, fun other source found => ?_, fun entry member => ?_⟩
  · rw [longer]
    rw [registerSource, OrderedDict.get?_set] at found
    split at found
    · cases found
      exact Nat.lt_succ_self _
    · exact Nat.lt_succ_of_lt (consistent.registered other source found)
  · obtain ⟨older, still⟩ := consistent.tracked entry member
    refine ⟨longer ▸ Nat.lt_succ_of_lt older, ?_⟩
    show entry.1 ∉ cameraId :: manager.touched ↔
      (manager.sources.set cameraId manager.objects.length).get? entry.1 = some entry.2
    rw [OrderedDict.get?_set, List.mem_cons, not_or, still]
    by_cases same : cameraId = entry.1
    · -- the snapshot holds older objects only
      have newer : manager.objects.length ≠ entry.2 := Nat.ne_of_gt older
      simp [same, newer]
    · simp [same, Ne.symm same]

theorem consistent_deregisterSource (consistent : manager.Consistent) (cameraId : String) :
    (manager.deregisterSource cameraId).Consistent := by
  have kept : ∀ other source, (manager.sources.pop cameraId).get? other = some source ↔
      other ≠ cameraId ∧ manager.sources.get? other = some source := by
    intro other source
    by_cases same : other = cameraId
    · simp [same, OrderedDict.get?_pop_self]
    · simp [same, OrderedDict.get?_pop_of_ne]
  refine ⟨consistent.current, fun other source found => ?_, fun entry member => ?_⟩
  · exact consistent.registered other source ((kept other source).mp found).2
  · obtain ⟨older, still⟩ := consistent.tracked entry member
    refine ⟨older, ?_⟩
    show entry.1 ∉ cameraId :: manager.touched ↔ (manager.sources.pop cameraId).get? entry.1 = _
    rw [kept, List.mem_cons, not_or, still]

theorem consistent_setActive (consistent : manager.Consistent) (source : ℕ) (isActive : Bool) :
    (manager.setActive source isActive).Consistent := by
  have same : (manager.setActive source isActive).objects.length = manager.objects.length :=
    List.length_modify ..
  refine ⟨consistent.current, fun other found registered => ?_, fun entry member => ?_⟩
  · exact same ▸ consistent.registered other found registered
  · obtain ⟨older, still⟩ := consistent.tracked entry member
    exact ⟨same ▸ older, still⟩

/-- A snapshot is of what is registered. -/
theorem consistent_startScan (consistent : manager.Consistent) :
    manager.startScan.Consistent := by
  refine ⟨consistent.current, consistent.registered, fun entry member => ?_⟩
  have found : manager.sources.get? entry.1 = some entry.2 :=
    OrderedDict.get?_of_mem (mem_of_mem_pending_scan member)
  exact ⟨consistent.registered entry.1 entry.2 found,
    fun _ => found, fun _ => List.not_mem_nil⟩

/-- The report of a source that is still registered is about the present. -/
theorem report_current_iff {cameraId : String} {source : ℕ} {rest : List (String × ℕ)}
    (consistent : manager.Consistent) (tracked : manager.Tracked (cameraId, source)) :
    (manager.report cameraId source rest).ReportsCurrent ↔
      cameraId ∉ manager.touched ∧ manager.active source = true := by
  rw [tracked.2, ReportsCurrent, report, List.forall_mem_cons]
  exact and_iff_left consistent.current

/-- What a check does, if its report is about the present. -/
theorem consistent_checked {cameraId : String} {source : ℕ} {rest : List (String × ℕ)}
    {result : CheckResult} (consistent : manager.Consistent)
    (waiting : manager.watchdog = .checking cameraId source rest)
    (undisturbed : manager.Undisturbed (.checked result)) :
    (manager.checked cameraId source rest result).Consistent := by
  have pending : manager.watchdog.pending = (cameraId, source) :: rest := by rw [waiting]; rfl
  have later : ∀ entry ∈ rest, entry ∈ manager.watchdog.pending :=
    fun entry member => pending ▸ List.mem_cons_of_mem _ member
  have tracked : manager.Tracked (cameraId, source) :=
    consistent.tracked _ (pending ▸ List.mem_cons_self)
  cases result with
  | reachable => exact consistent_resume consistent later
  | raised =>
      exact ⟨consistent.current, consistent.registered, fun _ none => absurd none List.not_mem_nil⟩
  | unreachable =>
      rw [checked]
      split
      · rename_i callback
        rw [Undisturbed, waiting] at undisturbed
        exact ⟨(report_current_iff consistent tracked).mpr (undisturbed callback),
          consistent.registered, fun entry member => consistent.tracked entry (later entry member)⟩
      · exact consistent_resume consistent later

/-- **One step.** -/
theorem consistent_step {event : StreamEvent} (consistent : manager.Consistent)
    (undisturbed : manager.Undisturbed event) (moved : manager.step event = some after) :
    after.Consistent := by
  cases event with
  | registerSource cameraId uri name =>
      cases moved
      exact consistent_registerSource consistent cameraId uri name
  | deregisterSource cameraId =>
      cases moved
      exact consistent_deregisterSource consistent cameraId
  | setActive source isActive =>
      cases moved
      exact consistent_setActive consistent source isActive
  | registerDisconnectCallback =>
      cases moved
      exact ⟨consistent.current, consistent.registered, consistent.tracked⟩
  | startWatchdog =>
      rw [step] at moved
      split at moved
      · cases moved
        exact ⟨consistent.current, consistent.registered,
          fun _ none => absurd none List.not_mem_nil⟩
      · cases moved
        exact consistent
  | stopWatchdog =>
      cases moved
      exact ⟨consistent.current, consistent.registered, fun _ none => absurd none List.not_mem_nil⟩
  | wake =>
      rw [step] at moved
      split at moved
      · cases moved
        exact consistent_startScan consistent
      · cases moved
  | checked result =>
      rw [step] at moved
      split at moved
      · rename_i cameraId source rest waiting
        cases moved
        exact consistent_checked consistent waiting undisturbed
      · cases moved
  | callbackDone =>
      rw [step] at moved
      split at moved
      · rename_i rest waiting
        cases moved
        exact consistent_resume consistent fun entry member => waiting ▸ member
      · cases moved

/-- A report that is disturbed is about the past. -/
theorem not_current_of_not_undisturbed {event : StreamEvent} (consistent : manager.Consistent)
    (disturbed : ¬ manager.Undisturbed event) :
    ∃ after, manager.step event = some after ∧ ¬ after.ReportsCurrent := by
  unfold Undisturbed at disturbed
  split at disturbed
  · split at disturbed
    · rename_i cameraId source rest waiting
      rw [Classical.not_imp] at disturbed
      obtain ⟨callback, stale⟩ := disturbed
      have tracked : manager.Tracked (cameraId, source) :=
        consistent.tracked _ (by rw [waiting]; exact List.mem_cons_self)
      refine ⟨manager.report cameraId source rest, ?_, fun current => ?_⟩
      · rw [step, waiting]
        simp only [checked, if_pos callback]
      · exact stale ((report_current_iff consistent tracked).mp current)
    · exact absurd trivial disturbed
  · exact absurd trivial disturbed

/-- **When reports are about the present.**  Along a run of the watchdog, whatever else
happens in between, every report is about a source that is registered and active at that
moment if and only if every failing check of the run is undisturbed. -/
theorem reports_current_iff (events : List StreamEvent) :
    (∀ taken after, taken <+: events → runFrom step init taken = some after →
        after.ReportsCurrent) ↔
      Meets Undisturbed step init events :=
  forall_prefix_iff_meets (fun _ => Consistent.current) (fun _ _ _ => consistent_step)
    (fun _ _ => not_current_of_not_undisturbed) consistent_init

/-- Events up to the first check of a registered camera. -/
def firstCheck : List StreamEvent :=
  [.registerSource "cam_01" "rtsp://192.168.1.100/live" "camera", .registerDisconnectCallback,
    .startWatchdog, .wake]

example : (runFrom step init (firstCheck ++ [.checked .unreachable])).map reports =
    some [⟨"cam_01", 0, some 0, true⟩] := by decide +kernel

theorem not_current_of_reports {events : List StreamEvent} {report : Report}
    (reached : (runFrom step init events).map reports = some [report])
    (stale : ¬ report.Current) :
    ∃ after, runFrom step init events = some after ∧ ¬ after.ReportsCurrent := by
  obtain ⟨after, ran, made⟩ := Option.map_eq_some_iff.mp reached
  exact ⟨after, ran, fun current => stale (current report (made ▸ List.mem_singleton_self _))⟩

/-- **A camera that is gone is reported**, and so is one whose old address fails. -/
theorem reported_though_replaced :
    (∃ after, runFrom step init (firstCheck ++
        [.deregisterSource "cam_01", .checked .unreachable]) = some after ∧
          ¬ after.ReportsCurrent) ∧
      ∃ after, runFrom step init (firstCheck ++
        [.registerSource "cam_01" "rtsp://192.168.1.101/live" "camera",
          .checked .unreachable]) = some after ∧ ¬ after.ReportsCurrent := by
  have gone : ¬ (Report.mk "cam_01" 0 none true).Current := fun current => by cases current.1
  have replaced : ¬ (Report.mk "cam_01" 0 (some 1) true).Current :=
    fun current => by cases current.1
  exact ⟨not_current_of_reports (by decide +kernel) gone,
    not_current_of_reports (by decide +kernel) replaced⟩

end StreamManager

end PersonTracking.AiService
