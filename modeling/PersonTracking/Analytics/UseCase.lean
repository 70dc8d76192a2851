import PersonTracking.Domain.Entities
import PersonTracking.Shared.Qdrant

/-!
# Processing one detection event

`ProcessTrackingEventUseCase` and the transaction callback around it, as
programs over the calls they make: the vector store, the SQL session, the alert
producer and `uuid4`.

* `readEvent` — the part of `execute` that reads the event, with everything it
  can raise.
* `handlePersonDetection`, `handleFireDetection` — the handlers of the two
  object types that have one.
* `processMessageCallback` — the transaction: execute, commit, and on any
  exception roll back and raise again.

The session collects writes (`addPerson`, `updatePerson`, `addTrackingEvent`)
and sends them when it commits, so constraint errors surface there.
-/

namespace PersonTracking.Analytics

open Library Python Shared Domain

/-! ## Calls -/

/-- The two places that select a person row `FOR UPDATE`. -/
inductive ReadSite
  | getById
  | upsertPerson
deriving DecidableEq, Repr

/-- The external calls of the analytics service while it processes an event. -/
inductive Call
  | openSession
  | qdrant (request : QdrantCall)
  | uuid4
  | selectPerson (site : ReadSite) (id : Uuid)
  | addPerson (person : Person)
  | updatePerson (person : Person)
  | addTrackingEvent (event : TrackingEvent)
  | dumps (event : Json)
  | produce (topic key : String) (event : Json)
  | pollProducer
  | commit
  | rollback

/-- Their answers.  Opening a session, adding to it and minting a UUID cannot fail. -/
abbrev Reply : Call → Type
  | .openSession => Unit
  | .qdrant request => QdrantReply request
  | .uuid4 => Uuid
  | .selectPerson _ _ => Except PyError (Option Person)
  | .addPerson _ => Unit
  | .updatePerson _ => Unit
  | .addTrackingEvent _ => Unit
  | .dumps _ => Except PyError Unit
  | .produce _ _ _ => Except PyError Unit
  | .pollProducer => Except PyError Unit
  | .commit => Except PyError Unit
  | .rollback => Except PyError Unit

/-- A part of the service that may raise. -/
abbrev Service (α : Type) : Type := Fallible Call Reply PyError α

/-- Make a call. -/
def ask (request : Call) : Program Call Reply (Reply request) := Program.perform request

/-- An operation of the vector store. -/
def vectorStore {α : Type} (operation : Store α) : Service α :=
  Fallible.relabel Call.qdrant operation

/-- Raise what a plain Python expression raised. -/
def evaluate {α : Type} (value : Except PyError α) : Service α := Fallible.attempt (pure value)

/-! ## Reading an event -/

/-- What `execute` reads from an event. -/
structure Detection where
  cameraId : Uuid
  timestamp : DateTime
  objectType : Json
  confidence : Json
  cropPath : Json
  bbox : BoundingBox Json
  detection : Json

/-- `uuid.UUID(value)`. -/
def readUuid : Json → Except PyError Uuid
  | .str text =>
      match Uuid.parse text with
      | some u => .ok u
      | none => .error .valueError
  | .null => .error .typeError
  | _ => .error .attributeError

/-- `datetime.fromisoformat(value.replace("Z", "+00:00"))`. -/
def readTimestamp (value : Json) : Except PyError DateTime := do
  let text ← value.asStr
  match DateTime.fromisoformat (replaceChar 'Z' "+00:00".toList text.toList) with
  | some timestamp => .ok timestamp
  | none => .error .valueError

/-- The reading part of `execute`. -/
def readEvent (eventData : Json) : Except PyError Detection := do
  let cameraId ← (← eventData.getItem "camera_id") |> readUuid
  let timestamp ← (← eventData.getItem "timestamp") |> readTimestamp
  let detection ← eventData.getItem "detection"
  let objectType ← detection.getItem "type"
  let confidence ← detection.getItem "confidence"
  let cropPath ← detection.getD "crop_path" .null
  let bboxRaw ← detection.getItem "bbox"
  let left ← bboxRaw.getItem "left"
  let top ← bboxRaw.getItem "top"
  let width ← bboxRaw.getItem "width"
  let height ← bboxRaw.getItem "height"
  return { cameraId, timestamp, objectType, confidence, cropPath,
           bbox := { left, top, width, height }, detection }

/-- The object type that is read is the one in the event. -/
theorem objectType_of_readEvent {eventData : Json} {detection : Detection}
    (read : readEvent eventData = .ok detection) :
    ∃ inner, eventData.getItem "detection" = .ok inner ∧
      inner.getItem "type" = .ok detection.objectType := by
  unfold readEvent at read
  obtain ⟨_, -, read⟩ := exists_of_bind_eq_ok read
  obtain ⟨_, -, read⟩ := exists_of_bind_eq_ok read
  obtain ⟨_, -, read⟩ := exists_of_bind_eq_ok read
  obtain ⟨_, -, read⟩ := exists_of_bind_eq_ok read
  obtain ⟨inner, found, read⟩ := exists_of_bind_eq_ok read
  obtain ⟨objectType, typed, read⟩ := exists_of_bind_eq_ok read
  refine ⟨inner, found, ?_⟩
  obtain ⟨_, -, read⟩ := exists_of_bind_eq_ok read
  obtain ⟨_, -, read⟩ := exists_of_bind_eq_ok read
  obtain ⟨_, -, read⟩ := exists_of_bind_eq_ok read
  obtain ⟨_, -, read⟩ := exists_of_bind_eq_ok read
  obtain ⟨_, -, read⟩ := exists_of_bind_eq_ok read
  obtain ⟨_, -, read⟩ := exists_of_bind_eq_ok read
  obtain ⟨_, -, read⟩ := exists_of_bind_eq_ok read
  cases read
  exact typed

/-! ## Persons -/

/-- `get_by_id(person_id, for_update=True)`. -/
def getById (id : Uuid) : Service (Option Person) :=
  Fallible.attempt (ask (.selectPerson .getById id))

/-- `upsert_person`: read the row again under lock, then add or overwrite it. -/
def upsertPerson (person : Person) : Service Unit := do
  let row : Option Person ← Fallible.attempt (ask (.selectPerson .upsertPerson person.id))
  match row with
  | none => Fallible.lift (ask (.addPerson person))
  | some _ => Fallible.lift (ask (.updatePerson person))

/-- `if embedding and len(embedding) == 512`. -/
def isReidVector (embedding : Json) : Except PyError Bool :=
  if embedding.truthy then do
    let length ← embedding.len
    return length = 512
  else .ok false

/-- A list of 512 numbers, or of whatever else, is searched with. -/
theorem isReidVector_arr {items : List Json} (long : items.length = 512) :
    isReidVector (.arr items) = .ok true := by
  cases items with
  | nil => cases long
  | cons first rest =>
      show Except.ok (decide ((first :: rest).length = 512)) = _
      rw [long]
      rfl

/-- The least score of a match. -/
def matchThreshold : PyFloat := .finite false 75 (-2)

/-- Step 1: the best match of the embedding, if there is one to search with. -/
def findPerson (embedding : Json) : Service (Option Uuid) := do
  let searches ← evaluate (isReidVector embedding)
  if searches then do
    let found ← vectorStore (QdrantVectorStore.searchSimilar embedding 1 matchThreshold)
    return found.head?.map QdrantVectorStore.Match.personId
  else return none

/-- Step 2 for a matched id whose row was read: count the appearance, or start
over when the SQL row is missing. -/
def countAppearance (id : Uuid) (timestamp : DateTime) : Option Person → Service Unit
  | some person => do
      let updated ← evaluate (person.updateAppearance timestamp)
      upsertPerson updated
  | none => upsertPerson { id, firstSeen := timestamp, lastSeen := timestamp }

/-- Step 2 for a matched id. -/
def updateMatched (id : Uuid) (timestamp : DateTime) : Service Unit := do
  let row ← getById id
  countAppearance id timestamp row

/-- The payload of a new identity's vector. -/
def vectorMetadata (timestamp : DateTime) : Json :=
  .obj [("first_seen", .str (String.ofList timestamp.isoformat))]

/-- Index the embedding of a new identity, if it is one to search with. -/
def indexEmbedding (id : Uuid) (embedding : Json) (timestamp : DateTime) : Service Unit := do
  let indexes ← evaluate (isReidVector embedding)
  if indexes then
    vectorStore (QdrantVectorStore.upsertEmbedding id embedding (vectorMetadata timestamp))
  else pure ()

/-- Step 2 without a match: a new identity, its vector indexed for later matches. -/
def createPerson (embedding : Json) (timestamp : DateTime) : Service Uuid := do
  let id : Uuid ← Fallible.lift (ask .uuid4)
  upsertPerson { id, firstSeen := timestamp, lastSeen := timestamp }
  indexEmbedding id embedding timestamp
  return id

/-- The tracking row of a detection. -/
def Detection.trackingEvent (detection : Detection) (id personId : Uuid) : TrackingEvent where
  id := id
  personId := some personId
  cameraId := detection.cameraId
  confidence := detection.confidence
  bbox := detection.bbox
  cropPath := detection.cropPath
  timestamp := detection.timestamp

/-- Step 3: save the tracking row. -/
def saveEvent (personId : Uuid) (detection : Detection) : Service Unit := do
  let id : Uuid ← Fallible.lift (ask .uuid4)
  Fallible.lift (ask (.addTrackingEvent (detection.trackingEvent id personId)))

/-- `_handle_person_detection`. -/
def handlePersonDetection (detection : Detection) (embedding : Json) : Service Unit := do
  match ← findPerson embedding with
  | some id => do
      updateMatched id detection.timestamp
      saveEvent id detection
  | none => do
      let id ← createPerson embedding detection.timestamp
      saveEvent id detection

/-! ## Fire and smoke -/

/-- The topic of the alerts. -/
def alertTopic : String := "alert-events"

/-- The alert of a fire; `description` already holds the formatted confidence. -/
def alertPayload (alertId : Uuid) (detection : Detection) (description : String) : Json :=
  .obj [("alert_id", .str alertId.toText), ("type", .str "fire"), ("severity", .str "emergency"),
    ("title", .str "🚨 Cảnh Báo Hỏa Hoạn!"), ("description", .str description),
    ("camera_id", .str detection.cameraId.toText), ("crop_path", detection.cropPath),
    ("timestamp", .str (String.ofList detection.timestamp.isoformat ++ "Z"))]

/-- `KafkaEventProducer.send_event`: whatever encoding or queueing raises is
logged and forgotten. -/
def sendEvent (topic key : String) (eventData : Json) : Service Unit :=
  tryCatch
    (do
      Fallible.attempt (ask (.dumps eventData))
      Fallible.attempt (ask (.produce topic key eventData))
      Fallible.attempt (ask .pollProducer))
    fun _ => pure ()

/-- `_handle_fire_detection`. -/
def handleFireDetection (detection : Detection) : Service Unit := do
  let alertId : Uuid ← Fallible.lift (ask .uuid4)
  let confidence ← evaluate detection.confidence.fixed2
  sendEvent alertTopic detection.cameraId.toText
    (alertPayload alertId detection
      ("Phát hiện dấu hiệu lửa/khói với độ tin cậy " ++ confidence ++ "!"))

/-! ## The use case and its transaction -/

/-- What an event is about, as far as the use case tells object types apart. -/
inductive Kind
  | fire
  | person
  | general
deriving DecidableEq, Repr

/-- `object_type in ["fire", "smoke"]`, `object_type == "person"`. -/
def Detection.kind (detection : Detection) : Kind :=
  match detection.objectType with
  | .str text =>
      if text = "fire" ∨ text = "smoke" then .fire
      else if text = "person" then .person
      else .general
  | _ => .general

/-- `execute`, after the event has been read. -/
def handleDetection (detection : Detection) : Service Unit :=
  match detection.kind with
  | .fire => handleFireDetection detection
  | .person => do
      let embedding ← evaluate (detection.detection.getD "embedding" (.arr []))
      handlePersonDetection detection embedding
  | .general => pure ()

/-- `execute`. -/
def execute (eventData : Json) : Service Unit := do
  let detection ← evaluate (readEvent eventData)
  handleDetection detection

/-- The `try` of `process_message_callback`. -/
def executeAndCommit (payload : Json) : Service Unit := do
  execute payload
  Fallible.attempt (ask .commit)

/-- `process_message_callback`, with a session of its own. -/
def processMessageCallback (payload : Json) : Service Unit := do
  Fallible.lift (ask .openSession)
  tryCatch (executeAndCommit payload) fun error => do
    Fallible.attempt (ask .rollback)
    throw error

/-! ### A sighting -/

/-- A vector to search with. -/
def exampleEmbedding : Json := .arr (List.replicate 512 (.int 1))

/-- A person in front of camera 1, seen at a second of one minute. -/
def exampleSighting (second : String) : Json :=
  .obj [("camera_id", .str "00000000-0000-0000-0000-000000000001"),
    ("timestamp", .str ("2024-01-15T10:20:" ++ second ++ "+00:00")),
    ("detection", .obj [("type", .str "person"), ("confidence", .float (.finite false 9 (-1))),
      ("crop_path", .str "crops/1.jpg"),
      ("bbox", .obj [("left", .int 0), ("top", .int 0), ("width", .int 10), ("height", .int 20)]),
      ("embedding", exampleEmbedding)])]

theorem isReidVector_exampleEmbedding : isReidVector exampleEmbedding = .ok true :=
  isReidVector_arr List.length_replicate

/-- What is read from it. -/
theorem exists_readEvent_exampleSighting :
    ∃ detection, readEvent (exampleSighting "30") = .ok detection ∧ detection.kind = .person ∧
      detection.detection.getD "embedding" (.arr []) = .ok exampleEmbedding := ⟨_, rfl, rfl, rfl⟩

end PersonTracking.Analytics
