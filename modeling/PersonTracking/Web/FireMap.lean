import PersonTracking.Library.Transition
import PersonTracking.Python.Text
import PersonTracking.Web.SharedWebSocketClient
import PersonTracking.Web.Values

/-!
# The fire map

The two pieces of state of `FireDetectionPage` and the handlers that write them.  A
handler of a resolve button belongs to the render that drew the button: it writes to the
lists as they are, but decides with the list of events of that render.  The model keeps
the lists that a handler may have captured.

`shown_iff_decided` says exactly in which runs a camera burns on the map just in case it
has an unresolved event: no alert arrives resolved for a camera that does not burn, and
every resolve click is decided as the current list would have it.  `lit_and_dark` are two
runs in which one or the other fails.
-/

namespace PersonTracking.Web

open Library

/-- `FireSeverity`. -/
inductive FireSeverity
  | critical
  | warning
  | resolved
deriving DecidableEq, Repr

/-- The members of the enumeration. -/
def FireSeverity.ofString : String → Option FireSeverity
  | "CRITICAL" => some .critical
  | "WARNING" => some .warning
  | "RESOLVED" => some .resolved
  | _ => none

/-- `FireEvent`. -/
structure FireEvent where
  id : String
  cameraId : String
  cameraName : String
  timestamp : String
  severity : FireSeverity
deriving DecidableEq, Repr

/-- `FireAlertPayload`, as `toFireAlertPayload` fills it. -/
structure FireAlertPayload where
  eventType : Option String
  alertId : Option String
  cameraId : Option String
  severity : Option FireSeverity
deriving DecidableEq, Repr

/-- `toFireAlertPayload`. -/
def toFireAlertPayload (payload : JsValue) : Option FireAlertPayload :=
  if payload.isRecord then
    let data := ((payload.property "data").filter JsValue.isRecord).getD (.object [])
    some {
      eventType := (payload.property "event_type").bind JsValue.asString
      alertId := (data.property "alert_id").bind JsValue.asString
      cameraId := (data.property "camera_id").bind JsValue.asString
      severity := ((data.property "severity").bind JsValue.asString).bind FireSeverity.ofString }
  else none

/-- The ids and names of `FACILITY_CAMERAS`. -/
def facilityCameras : List (String × String) :=
  [("cam_1", "Main Lobby Entrance"), ("cam_2", "Loading Dock A"), ("cam_3", "Zone B Aisle 5"),
    ("cam_4", "HQ Server Room")]

/-- The name of a camera of the facility. -/
def facilityName (camera : String) : Option String :=
  (facilityCameras.find? fun known => known.1 = camera).map Prod.snd

/-- `text || default`. -/
def orElse (text : Option String) (default : String) : String :=
  if isMissing text then default else text.getD ""

/-- `alarm-${Date.now()}`. -/
def alarmId (now : ℕ) : String := "alarm-" ++ String.ofList (Python.digits now)

/-- The page's state, with the lists of events it has had. -/
structure FireMap where
  activeFires : List String
  events : List FireEvent
  /-- The values of `events` so far, which a render may have captured. -/
  renders : List (List FireEvent)
deriving DecidableEq, Repr

/-- What can happen next.  `Date.now()` and `toLocaleTimeString()` come with the steps
that read them. -/
inductive FireStep
  | message (payload : JsValue) (now : ℕ) (time : String)
  | mockAlarm (cameraId : String) (now : ℕ) (time : String)
  /-- A click on the resolve button of an event, in a render that has captured these. -/
  | resolve (id : String) (captured : List FireEvent)
  | clearAll

namespace FireMap

/-- The page when it mounts. -/
def start : FireMap where
  activeFires := []
  events := []
  renders := [[]]

variable (map : FireMap)

/-! ## The handlers -/

/-- `setEvents`. -/
def setEvents (events : List FireEvent) : FireMap :=
  { map with events := events, renders := map.renders ++ [events] }

/-- `setActiveFires((prev) => (prev.includes(camId) ? prev : [...prev, camId]))`. -/
def light (camId : String) : FireMap :=
  { map with activeFires :=
      if camId ∈ map.activeFires then map.activeFires else map.activeFires ++ [camId] }

/-- Put a new event first and light its camera. -/
def report (newEvent : FireEvent) : FireMap :=
  (map.setEvents (newEvent :: map.events)).light newEvent.cameraId

/-- The event that `handleRealtimeMessage` makes of a payload, if it is a fire alert. -/
def toEvent (payload : JsValue) (now : ℕ) (time : String) : Option FireEvent :=
  match toFireAlertPayload payload with
  | none => none
  | some alertPayload =>
      if alertPayload.eventType = some "fire_alarm" ∨ alertPayload.eventType = some "fire" then
        let camId := orElse alertPayload.cameraId "cam_2"
        some {
          id := orElse alertPayload.alertId (alarmId now)
          cameraId := camId
          cameraName := (facilityName camId).getD "Unknown Zone"
          timestamp := time
          severity := alertPayload.severity.getD .critical }
      else none

/-- `handleRealtimeMessage`. -/
def handleRealtimeMessage (payload : JsValue) (now : ℕ) (time : String) : FireMap :=
  match toEvent payload now time with
  | none => map
  | some newEvent => map.report newEvent

/-- `triggerMockAlarm`. -/
def triggerMockAlarm (cameraId : String) (now : ℕ) (time : String) : FireMap :=
  match facilityName cameraId with
  | none => map
  | some name => map.report {
      id := alarmId now
      cameraId := cameraId
      cameraName := name
      timestamp := time
      severity := .critical }

/-- The alerts of a camera that are not resolved and have another id. -/
def remainingAlerts (events : List FireEvent) (cameraId id : String) : List FireEvent :=
  events.filter fun e => e.cameraId = cameraId ∧ e.id ≠ id ∧ e.severity ≠ .resolved

/-- An event after its id has been resolved. -/
def resolveEvent (id : String) (e : FireEvent) : FireEvent :=
  if e.id = id then { e with severity := .resolved } else e

/-- `setActiveFires((prev) => prev.filter(cId => cId !== …))`. -/
def darken (camId : String) : FireMap :=
  { map with activeFires := map.activeFires.filter (· ≠ camId) }

/-- `handleResolveEvent`, of a render that has captured these events. -/
def handleResolveEvent (id : String) (captured : List FireEvent) : FireMap :=
  let resolved := map.setEvents (map.events.map (resolveEvent id))
  match captured.find? fun e => e.id = id with
  | none => resolved
  | some resolvedEvent =>
      if (remainingAlerts captured resolvedEvent.cameraId id).length = 0 then
        resolved.darken resolvedEvent.cameraId
      else resolved

/-- `clearAllAlarms`. -/
def clearAllAlarms : FireMap := { map with activeFires := [] }.setEvents []

/-- A render that has captured these events draws a button with this id. -/
def HasButton (id : String) (captured : List FireEvent) : Prop :=
  captured ∈ map.renders ∧ ∃ e ∈ captured, e.id = id ∧ e.severity ≠ .resolved

instance (id : String) (captured : List FireEvent) : Decidable (map.HasButton id captured) :=
  inferInstanceAs (Decidable (_ ∧ _))

/-- One step. -/
def step : FireStep → Option FireMap
  | .message payload now time => some (map.handleRealtimeMessage payload now time)
  | .mockAlarm cameraId now time => some (map.triggerMockAlarm cameraId now time)
  | .resolve id captured =>
      if map.HasButton id captured then some (map.handleResolveEvent id captured) else none
  | .clearAll => some map.clearAllAlarms

/-- A camera has an event that is not resolved. -/
def Burns (camera : String) : Prop :=
  ∃ e ∈ map.events, e.cameraId = camera ∧ e.severity ≠ .resolved

/-- **The map shows the unresolved fires**, and no others. -/
def Shown : Prop := ∀ camera, camera ∈ map.activeFires ↔ map.Burns camera

/-- The condition on a step.  An alert that arrives resolved is for a camera that burns
already.  A resolve click is decided as the current list would have it: for the camera of
its event, if it is lit, the captured list has another unresolved alert if and only if the
current list has; and a second camera with an event of this id burns for another reason
too. -/
def Decided : FireStep → Prop
  | .message payload now time => ∀ newEvent, toEvent payload now time = some newEvent →
      newEvent.severity = .resolved → newEvent.cameraId ∈ map.activeFires
  | .resolve id captured => map.HasButton id captured →
      ∀ resolvedEvent, captured.find? (fun e => e.id = id) = some resolvedEvent →
        (resolvedEvent.cameraId ∈ map.activeFires →
          (remainingAlerts captured resolvedEvent.cameraId id = [] ↔
            remainingAlerts map.events resolvedEvent.cameraId id = [])) ∧
        ∀ e ∈ map.events, e.id = id → e.severity ≠ .resolved →
          e.cameraId ≠ resolvedEvent.cameraId → remainingAlerts map.events e.cameraId id ≠ []
  | _ => True

variable {map} {after : FireMap}

/-! ## A new event -/

@[simp] theorem mem_light {camera camId : String} :
    camera ∈ (map.light camId).activeFires ↔ camera ∈ map.activeFires ∨ camera = camId := by
  unfold light
  dsimp only
  split
  · next lit => exact ⟨.inl, fun either => either.elim id fun same => same ▸ lit⟩
  · rw [List.mem_append, List.mem_singleton]

@[simp] theorem burns_report {camera : String} (newEvent : FireEvent) :
    (map.report newEvent).Burns camera ↔
      (newEvent.cameraId = camera ∧ newEvent.severity ≠ .resolved) ∨ map.Burns camera := by
  simp only [Burns, report, light, setEvents, List.mem_cons, or_and_right, exists_or,
    exists_eq_left]

/-- **A report** keeps the map right if and only if it is not of a resolved fire at a
camera that is dark. -/
theorem Shown.report_iff (shown : map.Shown) (newEvent : FireEvent) :
    (map.report newEvent).Shown ↔
      (newEvent.severity = .resolved → newEvent.cameraId ∈ map.activeFires) := by
  have lit : ∀ camera, camera ∈ (map.report newEvent).activeFires ↔
      camera ∈ map.activeFires ∨ camera = newEvent.cameraId := fun _ => mem_light
  constructor
  · intro kept resolved
    have burns := (kept newEvent.cameraId).mp ((lit _).mpr (.inr rfl))
    rcases (burns_report newEvent).mp burns with ⟨-, unresolved⟩ | before
    · exact absurd resolved unresolved
    · exact (shown _).mpr before
  · intro right camera
    rw [lit, burns_report, shown]
    constructor
    · rintro (before | rfl)
      · exact .inr before
      · by_cases resolved : newEvent.severity = .resolved
        · exact .inr ((shown _).mp (right resolved))
        · exact .inl ⟨rfl, resolved⟩
    · rintro (⟨rfl, -⟩ | before)
      · exact .inr rfl
      · exact .inl before

/-! ## A resolve click -/

theorem remainingAlerts_eq_nil {events : List FireEvent} {cameraId id : String} :
    remainingAlerts events cameraId id = [] ↔
      ∀ e ∈ events, e.cameraId = cameraId → e.severity ≠ .resolved → e.id = id := by
  simp only [remainingAlerts, List.filter_eq_nil_iff, decide_eq_true_eq]
  refine forall₂_congr fun e _ => ⟨fun none camera severity => ?_, ?_⟩
  · by_contra other
    exact none ⟨camera, other, severity⟩
  · rintro only ⟨camera, other, severity⟩
    exact other (only camera severity)

/-- After the click the fires left are those of the other ids. -/
theorem burns_handleResolveEvent {camera id : String} {captured : List FireEvent} :
    (map.handleResolveEvent id captured).Burns camera ↔
      remainingAlerts map.events camera id ≠ [] := by
  have events : (map.handleResolveEvent id captured).events = map.events.map (resolveEvent id) := by
    unfold handleResolveEvent
    dsimp only
    split
    · rfl
    · split <;> rfl
  rw [Burns, events, ne_eq, remainingAlerts_eq_nil]
  simp only [List.mem_map, not_forall]
  constructor
  · rintro ⟨_, ⟨e, member, rfl⟩, camera, unresolved⟩
    by_cases same : e.id = id
    · rw [resolveEvent, if_pos same] at unresolved
      exact absurd rfl unresolved
    · rw [resolveEvent, if_neg same] at camera unresolved
      exact ⟨e, member, camera, unresolved, same⟩
  · rintro ⟨e, member, camera, unresolved, other⟩
    refine ⟨e, ⟨e, member, if_neg other⟩, camera, unresolved⟩

/-- The click darkens at most the camera of the first captured event with its id. -/
theorem mem_handleResolveEvent {camera id : String} {captured : List FireEvent}
    {resolvedEvent : FireEvent} (found : captured.find? (fun e => e.id = id) = some resolvedEvent) :
    camera ∈ (map.handleResolveEvent id captured).activeFires ↔ camera ∈ map.activeFires ∧
      (camera = resolvedEvent.cameraId →
        remainingAlerts captured resolvedEvent.cameraId id ≠ []) := by
  unfold handleResolveEvent
  simp only [found, List.length_eq_zero_iff]
  split
  · next none =>
      simp only [darken, List.mem_filter, decide_eq_true_eq, none, ne_eq, not_true_eq_false,
        imp_false]
      rfl
  · next some => exact ⟨fun lit => ⟨lit, fun _ => some⟩, fun lit => lit.1⟩

/-- **A resolve click** keeps the map right if and only if it is decided as the current
list would have it. -/
theorem Shown.handleResolveEvent_iff (shown : map.Shown) {id : String} {captured : List FireEvent}
    {resolvedEvent : FireEvent} (found : captured.find? (fun e => e.id = id) = some resolvedEvent) :
    (map.handleResolveEvent id captured).Shown ↔
      (resolvedEvent.cameraId ∈ map.activeFires →
        (remainingAlerts captured resolvedEvent.cameraId id = [] ↔
          remainingAlerts map.events resolvedEvent.cameraId id = [])) ∧
      ∀ e ∈ map.events, e.id = id → e.severity ≠ .resolved →
        e.cameraId ≠ resolvedEvent.cameraId → remainingAlerts map.events e.cameraId id ≠ [] := by
  unfold Shown
  simp only [mem_handleResolveEvent found, burns_handleResolveEvent]
  constructor
  · intro kept
    refine ⟨fun lit => ?_, fun e member _ unresolved elsewhere => ?_⟩
    · have own := kept resolvedEvent.cameraId
      simp only [lit, true_and, true_imp_iff] at own
      exact not_iff_not.mp own
    · have burns : map.Burns e.cameraId := ⟨e, member, rfl, unresolved⟩
      exact (kept e.cameraId).mp ⟨(shown _).mpr burns, fun same => absurd same elsewhere⟩
  · rintro ⟨own, others⟩ camera
    constructor
    · rintro ⟨lit, left⟩
      by_cases same : camera = resolvedEvent.cameraId
      · subst same
        exact mt (own lit).mpr (left rfl)
      · obtain ⟨e, member, rfl, unresolved⟩ := (shown camera).mp lit
        -- Either this event is left, or it has the id that is resolved.
        by_cases named : e.id = id
        · exact others e member named unresolved same
        · exact fun none => named (remainingAlerts_eq_nil.mp none e member rfl unresolved)
    · intro left
      have lit : camera ∈ map.activeFires := by
        refine (shown camera).mpr ?_
        obtain ⟨e, kept⟩ := List.exists_mem_of_ne_nil _ left
        simp only [remainingAlerts, List.mem_filter, decide_eq_true_eq] at kept
        exact ⟨e, kept.1, kept.2.1, kept.2.2.2⟩
      refine ⟨lit, ?_⟩
      rintro rfl
      exact mt (own lit).mp left

/-! ## Runs -/

theorem shown_start : start.Shown := fun camera => by simp [start, Burns]

theorem shown_clearAllAlarms : map.clearAllAlarms.Shown := fun camera => by
  simp [clearAllAlarms, setEvents, Burns]

/-- **One step** keeps the map right if and only if it meets the condition. -/
theorem Shown.step_iff (shown : map.Shown) {next : FireStep} (moved : map.step next = some after) :
    after.Shown ↔ map.Decided next := by
  cases next with
  | message payload now time =>
      cases moved
      simp only [handleRealtimeMessage, Decided]
      cases toEvent payload now time with
      | none => exact iff_of_true shown fun _ made => by cases made
      | some newEvent =>
          rw [shown.report_iff]
          simp only [Option.some.injEq, forall_eq']
  | mockAlarm cameraId now time =>
      cases moved
      simp only [triggerMockAlarm, Decided]
      cases facilityName cameraId with
      | none => exact iff_of_true shown trivial
      | some name =>
          rw [shown.report_iff]
          exact iff_of_true (fun resolved => by cases resolved) trivial
  | resolve id captured =>
      obtain ⟨button, ⟨⟩⟩ := Option.ite_none_right_eq_some.mp moved
      obtain ⟨e, member, named, -⟩ := button.2
      obtain ⟨resolvedEvent, found⟩ : ∃ e, captured.find? (fun e => e.id = id) = some e := by
        rw [← Option.isSome_iff_exists, List.find?_isSome]
        exact ⟨e, member, decide_eq_true named⟩
      rw [shown.handleResolveEvent_iff found]
      simp only [Decided, found, button, Option.some.injEq, forall_eq', true_imp_iff]
  | clearAll =>
      cases moved
      exact iff_of_true shown_clearAllAlarms trivial

/-- A step that does not meet the condition can be taken. -/
theorem Shown.exists_step (shown : map.Shown) {next : FireStep} (undecided : ¬ map.Decided next) :
    ∃ after, map.step next = some after ∧ ¬ after.Shown := by
  have taken : ∃ after, map.step next = some after := by
    cases next with
    | resolve id captured =>
        have button : map.HasButton id captured := by
          by_contra none
          exact undecided fun button => absurd button none
        exact ⟨_, if_pos button⟩
    | _ => exact ⟨_, rfl⟩
  obtain ⟨after, moved⟩ := taken
  exact ⟨after, moved, mt (shown.step_iff moved).mp undecided⟩

/-- **The map shows the unresolved fires and no others**, after every step of a run in any
order, if and only if no alert arrives resolved for a camera that does not burn and every
resolve click is decided as the current list of events would have it. -/
theorem shown_iff_decided (steps : List FireStep) :
    (∀ taken after, taken <+: steps → runFrom step start taken = some after → after.Shown) ↔
      Meets Decided step start steps :=
  forall_prefix_iff_meets (fun _ => id)
    (fun _ _ _ shown decided moved => (shown.step_iff moved).mpr decided)
    (fun _ _ shown undecided => shown.exists_step undecided) shown_start

/-! ## Two maps that are wrong -/

/-- The payload of an alert at the main entrance. -/
def lobbyAlert (alert severity : String) : JsValue :=
  .object [("event_type", .string "fire_alarm"), ("data", .object [("alert_id", .string alert),
    ("camera_id", .string "cam_1"), ("severity", .string severity)])]

/-- The event that it becomes. -/
def lobbyEvent (alert : String) : FireEvent :=
  ⟨alert, "cam_1", "Main Lobby Entrance", "09:00:00", .critical⟩

/-- **Lit and dark**: an alert that arrives resolved lights its camera; and a second alert
that arrives between the render of a resolve button and the click goes dark with the
first. -/
theorem lit_and_dark :
    (∃ map, runFrom step start [.message (lobbyAlert "a" "RESOLVED") 0 "09:00:00"] = some map ∧
      "cam_1" ∈ map.activeFires ∧ ¬ map.Shown) ∧
    ∃ map, runFrom step start [.message (lobbyAlert "a" "CRITICAL") 0 "09:00:00",
        .message (lobbyAlert "b" "CRITICAL") 0 "09:00:00", .resolve "a" [lobbyEvent "a"]] =
        some map ∧
      lobbyEvent "b" ∈ map.events ∧ map.activeFires = [] ∧ ¬ map.Shown := by
  have lit : ∃ map ∈ runFrom step start [.message (lobbyAlert "a" "RESOLVED") 0 "09:00:00"],
      "cam_1" ∈ map.activeFires ∧ ∀ e ∈ map.events, e.severity = .resolved := by
    decide
  have dark : ∃ map ∈ runFrom step start [.message (lobbyAlert "a" "CRITICAL") 0 "09:00:00",
      .message (lobbyAlert "b" "CRITICAL") 0 "09:00:00", .resolve "a" [lobbyEvent "a"]],
      lobbyEvent "b" ∈ map.events ∧ map.activeFires = [] := by
    decide
  obtain ⟨map, reached, there, resolved⟩ := lit
  refine ⟨⟨map, reached, there, fun shown => ?_⟩, ?_⟩
  · obtain ⟨e, member, -, unresolved⟩ := (shown "cam_1").mp there
    exact unresolved (resolved e member)
  obtain ⟨map, reached, burning, empty⟩ := dark
  refine ⟨map, reached, burning, empty, fun shown => ?_⟩
  have burns : map.Burns "cam_1" := ⟨lobbyEvent "b", burning, rfl, by decide⟩
  have there := (shown "cam_1").mpr burns
  rw [empty] at there
  cases there

end FireMap

end PersonTracking.Web
