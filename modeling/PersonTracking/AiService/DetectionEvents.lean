import PersonTracking.Analytics.UseCase

/-!
# The detection events the probe publishes

`processObject` builds the event of one detected object as the probe does; the
embedding, the person UUID and the crop path come from the components it calls.
The analytics service reads it back with `Analytics.readEvent`.

The two ends disagree on the timestamp: the probe appends `Z` to the text of an
aware time, which already ends in an offset, and the reader turns that `Z` into
a second one.  `readEvent_processObject` is the outcome, for every object.
-/

namespace PersonTracking.AiService

open Library Python Shared Domain Analytics

/-- `CLASS_MAPPING.get(class_id, "unknown")`. -/
def objectType : Int → String
  | 0 => "person"
  | 1 => "fire"
  | 2 => "smoke"
  | 3 => "object"
  | _ => "unknown"

/-- What the probe reads of an object's metadata. -/
structure ObjectMeta where
  classId : Int
  confidence : PyFloat
  objectId : Int
  rect : BoundingBox PyFloat

/-- The components the probe calls for an object: the ReID extractor, the track
association and the crop saver, which has no frame to save from at times. -/
structure ProbeComponents where
  extract : ObjectMeta → List PyFloat
  associate : String → Int → List PyFloat → String
  saveCrop : ObjectMeta → Option String

/-- `str(n)`. -/
def intText (n : Int) : String := String.ofList (intDigits n)

/-- `camera_id` of a frame. -/
def cameraId (sourceId : Int) : String := intText sourceId

/-- `datetime.now(timezone.utc).isoformat() + "Z"`. -/
def frameTimestamp (now : DateTime) : String := String.ofList now.isoformat ++ "Z"

/-- `DetectionPayload.to_dict()`. -/
def detectionPayload (object : ObjectMeta) (embedding : List PyFloat) (cropPath : String) :
    List (String × Json) :=
  [("class_id", .int object.classId), ("type", .str (objectType object.classId)),
    ("confidence", .float object.confidence), ("tracking_id", .int object.objectId),
    ("bbox", .obj [("left", .float object.rect.left), ("top", .float object.rect.top),
      ("width", .float object.rect.width), ("height", .float object.rect.height)]),
    ("embedding", .arr (embedding.map .float)), ("crop_path", .str cropPath)]

/-- `_process_object`: the event it publishes. -/
def processObject (components : ProbeComponents) (object : ObjectMeta) (cameraId : String)
    (frameNumber : Int) (timestamp : String) : Json :=
  let embedding := if object.classId = 0 then components.extract object else []
  let personUuid := if embedding = [] then ""
    else components.associate cameraId object.objectId embedding
  let detection := detectionPayload object embedding ((components.saveCrop object).getD "")
  .obj [("event_id", .str (cameraId ++ "_" ++ intText frameNumber ++ "_" ++
      intText object.objectId ++ "_" ++ intText object.classId)),
    ("timestamp", .str timestamp), ("camera_id", .str cameraId),
    ("frame_number", .int frameNumber),
    ("detection", .obj
      (if personUuid = "" then detection else detection ++ [("person_uuid", .str personUuid)]))]

/-- **The event arrives**: the consumer reads it, its timestamp denotes the
instant the probe took, and it goes to the handler of the object's type. -/
def Accepted (published : Json) (now : DateTime) (object : ObjectMeta) : Prop :=
  ∃ detection, readEvent published = .ok detection ∧ detection.timestamp.isAware = true ∧
    detection.timestamp.instant = now.instant ∧
    detection.objectType = .str (objectType object.classId)

/-! ## What the consumer makes of it -/

/-- Replacing the `Z` leaves two offsets behind each other. -/
theorem fromisoformat_frameTimestamp {now : DateTime} (utc : now.utcoffset = some 0) :
    DateTime.fromisoformat (replaceChar 'Z' "+00:00".toList (frameTimestamp now).toList) =
      none := by
  have offset : DateTime.formatOffset now.utcoffset = '+' :: "00:00".toList := by
    rw [utc]
    decide
  have replaced : replaceChar 'Z' "+00:00".toList (frameTimestamp now).toList =
      now.formatDate ++ 'T' :: (now.formatTime ++ '+' :: "00:00+00:00".toList) := by
    have printed : (frameTimestamp now).toList = now.isoformat ++ ['Z'] := by
      simp [frameTimestamp]
    have two : "00:00+00:00".toList = "00:00".toList ++ "+00:00".toList := by decide
    rw [printed, replaceChar_append, replaceChar_of_notMem (DateTime.notMem_isoformat utc),
      replaceChar_cons_self, replaceChar_of_notMem List.not_mem_nil, DateTime.isoformat, offset,
        two]
    simp only [List.append_assoc, List.cons_append, List.append_nil]
  rw [replaced]
  exact DateTime.fromisoformat_of_zone_eq_none now (by decide) (by decide)

/-- The consumer cannot read the timestamp of a frame. -/
theorem readTimestamp_frameTimestamp {now : DateTime} (utc : now.utcoffset = some 0) :
    readTimestamp (.str (frameTimestamp now)) = .error .valueError := by
  simp only [readTimestamp, Json.asStr, bind, Except.bind, fromisoformat_frameTimestamp utc]

/-- Whatever the object is, reading its event raises `ValueError`. -/
theorem readEvent_processObject (components : ProbeComponents) (object : ObjectMeta)
    (camera : String) (frameNumber : Int) {now : DateTime} (utc : now.utcoffset = some 0) :
    readEvent (processObject components object camera frameNumber (frameTimestamp now)) =
      .error .valueError := by
  have cameraField : (processObject components object camera frameNumber
      (frameTimestamp now)).getItem "camera_id" = .ok (.str camera) := rfl
  have timestampField : (processObject components object camera frameNumber
      (frameTimestamp now)).getItem "timestamp" = .ok (.str (frameTimestamp now)) := rfl
  rw [readEvent, cameraField, timestampField]
  simp only [bind, Except.bind, readTimestamp_frameTimestamp utc, readUuid]
  cases Uuid.parse camera <;> rfl

/-- **No detection event is accepted.**  For every object, source, frame and
instant, the published event does not survive the reading end. -/
theorem event_never_accepted {Text : Type} (codec : JsonCodec Text)
    (components : ProbeComponents) (object : ObjectMeta) (sourceId frameNumber : Int)
    {now : DateTime} (utc : now.utcoffset = some 0) :
    ¬ ∃ payload, codec.loads (codec.dumps (processObject components object (cameraId sourceId)
        frameNumber (frameTimestamp now))) = some payload ∧ Accepted payload now object := by
  rintro ⟨payload, loaded, detection, read, -⟩
  rw [codec.loads_dumps, Option.some.injEq] at loaded
  rw [← loaded, readEvent_processObject components object (cameraId sourceId) frameNumber utc]
    at read
  cases read

/-! ### A fire on camera `10 ^ 31` -/

/-- JSON values as their own text. -/
def jsonValues : JsonCodec Json where
  dumps := id
  loads := some
  loads_dumps _ := rfl

/-- 2024-01-15 10:20:30 UTC. -/
def exampleNow : DateTime where
  year := 2024
  month := 1
  day := 15
  hour := 10
  minute := 20
  second := 30
  microsecond := 0
  utcoffset := some 0
  validDate := by decide
  validTime := by decide
  validOffset := by decide

/-- Components that have nothing to add. -/
def exampleComponents : ProbeComponents where
  extract _ := []
  associate _ _ _ := ""
  saveCrop _ := none

/-- A fire, seen with confidence 0.9 in a box of 10 by 10. -/
def exampleFire : ObjectMeta where
  classId := 1
  confidence := .finite false 9 (-1)
  objectId := 7
  rect := ⟨.finite false 0 0, .finite false 0 0, .finite false 1 1, .finite false 1 1⟩

theorem event_never_accepted_fire :
    ¬ ∃ payload, jsonValues.loads (jsonValues.dumps (processObject exampleComponents exampleFire
        (cameraId 0) 512 (frameTimestamp exampleNow))) = some payload ∧
      Accepted payload exampleNow exampleFire :=
  event_never_accepted jsonValues exampleComponents exampleFire 0 512 rfl

/-- **A fire alarm the consumer cannot read.**  Its camera id has the 32 digits
that make it a UUID, so it is the timestamp that raises. -/
theorem fire_event_rejected :
    (Uuid.parse (cameraId (10 ^ 31))).isSome = true ∧
      frameTimestamp exampleNow = "2024-01-15T10:20:30+00:00Z" ∧
      readTimestamp (.str (frameTimestamp exampleNow)) = .error .valueError ∧
      ¬ ∃ payload, jsonValues.loads (jsonValues.dumps (processObject exampleComponents exampleFire
          (cameraId (10 ^ 31)) 512 (frameTimestamp exampleNow))) = some payload ∧
        Accepted payload exampleNow exampleFire := by
  refine ⟨by decide, by decide, by decide, ?_⟩
  rintro ⟨payload, loaded, detection, read, -⟩
  cases loaded
  have rejected := readEvent_processObject exampleComponents exampleFire (cameraId (10 ^ 31)) 512
    (show exampleNow.utcoffset = some 0 from rfl)
  cases rejected.symm.trans read

end PersonTracking.AiService
