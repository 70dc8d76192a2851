import PersonTracking.AiService.DetectionEvents
import PersonTracking.AiService.SpatialConstraints
import PersonTracking.Analytics.TrackingRoutes
import PersonTracking.CameraService.Cameras

/-!
# Timestamps between the services

Five places print a date-time with a `Z` of their own behind it, and three read one
after replacing the `Z` by an offset.  A date-time that knows its offset prints it,
so what is read has two: `timestamps_never_agree` says that no emitter's text is
read by any parser, and that a transition between timestamps of the probe is always
feasible.
-/

namespace PersonTracking.Contracts

open Python Shared Domain AiService Analytics CameraService

/-- A place where a date-time is printed, with what it is printed from. -/
inductive Emission
  | probe (now : DateTime)
  | fireAlert (alertId : Uuid) (detection : Detection) (description : String)
  | trackingEvent (event : TrackingEvent)
  | trailPoint (event : TrackingEvent)
  | camera (row : Camera)

namespace Emission

/-- The date-time. -/
def time : Emission → DateTime
  | probe now => now
  | fireAlert _ detection _ => detection.timestamp
  | trackingEvent event | trailPoint event => event.timestamp
  | camera row => row.createdAt

/-- Its text in the event, the alert or the response. -/
def text : Emission → Option String
  | probe now => some (frameTimestamp now)
  | fireAlert alertId detection description =>
      match (alertPayload alertId detection description).get? "timestamp" with
      | some (.str text) => some text
      | _ => none
  | trackingEvent event => some (trackingEventResponse event).timestamp
  | trailPoint event => some (Analytics.trailPoint event).timestamp
  | camera row => some (toResponseDto row).createdAt

/-- All of them print like the probe. -/
theorem text_eq (emission : Emission) : emission.text = some (frameTimestamp emission.time) := by
  cases emission <;> rfl

end Emission

/-- A place where a text is read as a date-time. -/
inductive Parser
  | execute
  | before
  | isFeasible
deriving DecidableEq, Repr

/-- What it reads, if it reads the text at all. -/
def Parser.parse : Parser → String → Option DateTime
  | execute, text => (readTimestamp (.str text)).toOption
  | before, text => (readBefore (some text)).toOption.join
  | isFeasible, text => (parseTimestamp text).toOption

/-- The parser reads the instant that the emitter has printed. -/
def RoundTrip (emission : Emission) (parser : Parser) : Prop :=
  ∃ text parsed, emission.text = some text ∧ parser.parse text = some parsed ∧
    parsed.isAware = true ∧ parsed.instant = emission.time.instant

/-- The validator does not read what the probe prints for a UTC date-time. -/
theorem parseTimestamp_frameTimestamp {t : DateTime} (utc : t.utcoffset = some 0) :
    parseTimestamp (frameTimestamp t) = .error .valueError := by
  rw [parseTimestamp, fromisoformat_frameTimestamp utc]

/-- No parser reads what the probe prints for a UTC date-time. -/
theorem parse_frameTimestamp {t : DateTime} (utc : t.utcoffset = some 0) (parser : Parser) :
    parser.parse (frameTimestamp t) = none := by
  have unparsed := fromisoformat_frameTimestamp utc
  cases parser with
  | execute => rw [Parser.parse, readTimestamp_frameTimestamp utc, Except.toOption]
  | before =>
      rw [Parser.parse, readBefore, unparsed]
      · rfl
      · intro empty
        have letters := congrArg String.toList empty
        simp [frameTimestamp] at letters
  | isFeasible => rw [Parser.parse, parseTimestamp_frameTimestamp utc, Except.toOption]

/-- **Emitters and parsers never agree** on a UTC date-time: whatever is printed, no
parser reads it, and the spatial constraint lets every transition between two frames
pass, however far the cameras are apart. -/
theorem timestamps_never_agree (emission : Emission) (parser : Parser)
    (utc : emission.time.utcoffset = some 0) :
    ¬ RoundTrip emission parser ∧
      ∀ (math : FloatMath) (validator : SpatialConstraintValidator) (fromCamera toCamera : String)
        (arrived : DateTime), validator.isFeasible math fromCamera (frameTimestamp emission.time)
          toCamera (frameTimestamp arrived) = .ok true := by
  refine ⟨?_, fun math validator fromCamera toCamera arrived => ?_⟩
  · rintro ⟨text, parsed, printed, read, -⟩
    rw [emission.text_eq, Option.some.injEq] at printed
    rw [← printed, parse_frameTimestamp utc] at read
    cases read
  · exact validator.isFeasible_of_unparsed math (parseTimestamp_frameTimestamp utc)

/-! ## Two cameras on opposite sides of the earth -/

/-- The arithmetic of two points of the equator, 180 degrees apart: all angles are
0 or `π`, and all divisions are by two. -/
def antipodes : FloatMath where
  add a b := if a = .finite false 0 0 then b else a
  sub a b := if a = b then .finite false 0 0 else a
  mul
    | .finite s m e, .finite s' m' e' => .finite (s != s') (m * m') (e + e')
    | _, _ => .nan
  div
    | .finite s m e, _ => .ok (.finite s (m * 5) (e - 1))
    | x, _ => .ok x
  square x := .ok x
  totalSeconds n := .finite false n (-6)
  radians x := if x = .finite false 0 0 then x else .finite false 3141592653589793 (-15)
  sin x := .ok (if x.lt (.finite false 1 0) then .finite false 0 0 else .finite false 1 0)
  cos _ := .ok (.finite false 1 0)
  asin _ := .ok (.finite false 15707963267948965 (-16))
  sqrt x := .ok x

/-- The two cameras. -/
def oppositeCameras : SpatialConstraintValidator :=
  ((SpatialConstraintValidator.start SpatialConstraintValidator.defaultMaxSpeedMps).registerCamera
    { cameraId := "0", lat := .finite false 0 0, lon := .finite false 0 0 }).registerCamera
    { cameraId := "1", lat := .finite false 0 0, lon := .finite false 180 0 }

theorem timestamps_never_agree_probe :
    ¬ RoundTrip (.probe exampleNow) .execute ∧
      oppositeCameras.isFeasible antipodes "0" (frameTimestamp exampleNow) "1"
        (frameTimestamp exampleNow) = .ok true := by
  obtain ⟨unread, feasible⟩ := timestamps_never_agree (.probe exampleNow) .execute rfl
  exact ⟨unread, feasible antipodes oppositeCameras "0" "1" exampleNow⟩

/-- The frame of 2024-01-15 10:20:30 UTC is read by nobody, and a person may have been
in front of both cameras in the same microsecond, twenty thousand kilometres apart. -/
theorem everywhere_at_once :
    ¬ RoundTrip (.probe exampleNow) .execute ∧ ¬ RoundTrip (.probe exampleNow) .before ∧
      ¬ RoundTrip (.probe exampleNow) .isFeasible ∧
        (SpatialConstraintValidator.haversineM antipodes (.finite false 0 0) (.finite false 0 0)
          (.finite false 0 0) (.finite false 180 0)).toOption =
            some (.finite false 200150867960205712030000 (-16)) ∧
          oppositeCameras.isFeasible antipodes "0" (frameTimestamp exampleNow) "1"
            (frameTimestamp exampleNow) = .ok true := by
  have unread : ∀ parser, ¬ RoundTrip (.probe exampleNow) parser := by
    rintro parser ⟨text, parsed, printed, read, -⟩
    cases printed
    rw [parse_frameTimestamp rfl] at read
    cases read
  refine ⟨unread _, unread _, unread _, by decide +kernel, ?_⟩
  exact oppositeCameras.isFeasible_of_unparsed antipodes (parseTimestamp_frameTimestamp rfl)

end PersonTracking.Contracts
