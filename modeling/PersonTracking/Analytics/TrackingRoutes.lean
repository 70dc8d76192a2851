import PersonTracking.Domain.Entities
import PersonTracking.Shared.Http

/-!
# The tracking routes

What `get_recent_tracking_events` and `get_person_trail` make of a row, and how the
first of them reads its cursor.
-/

namespace PersonTracking.Analytics

open Python Shared Domain

/-- `BBoxDTO`, over what a row holds. -/
abbrev BBoxDTO := BoundingBox Json

/-- `TrackingEventResponse`. -/
structure TrackingEventResponse where
  id : String
  personId : Option String
  cameraId : String
  confidence : Json
  bbox : BBoxDTO
  cropPath : Json
  timestamp : String

/-- `TrailPointDTO`. -/
structure TrailPointDTO where
  eventId : String
  cameraId : String
  timestamp : String
  bbox : BBoxDTO
  cropPath : Json

/-- The response to a row of `get_recent_tracking_events`. -/
def trackingEventResponse (event : TrackingEvent) : TrackingEventResponse where
  id := event.id.toText
  personId := event.personId.map Uuid.toText
  cameraId := event.cameraId.toText
  confidence := event.confidence
  bbox := event.bbox
  cropPath := event.cropPath
  timestamp := String.ofList event.timestamp.isoformat ++ "Z"

/-- The point of a row in `get_person_trail`. -/
def trailPoint (event : TrackingEvent) : TrailPointDTO where
  eventId := event.id.toText
  cameraId := event.cameraId.toText
  timestamp := String.ofList event.timestamp.isoformat ++ "Z"
  bbox := event.bbox
  cropPath := event.cropPath

/-- The cursor of `get_recent_tracking_events`; an empty one is none. -/
def readBefore : Option String → Except HTTPException (Option DateTime)
  | none | some "" => .ok none
  | some before =>
      match DateTime.fromisoformat (replaceChar 'Z' "+00:00".toList before.toList) with
      | some timestamp => .ok (some timestamp)
      | none => .error { statusCode := 400, detail := "Invalid before timestamp format" }

end PersonTracking.Analytics
