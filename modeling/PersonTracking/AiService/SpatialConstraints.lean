import PersonTracking.Library.OrderedDict
import PersonTracking.Python.DateTime

/-!
# Spatial constraints

`SpatialConstraintValidator.is_feasible` compares the time between two sightings
with the time the way between their cameras takes.  Float arithmetic and the
`math` module are an argument.  What it cannot tell it lets pass: a camera without a
location, and a timestamp that does not parse.
-/

namespace PersonTracking.AiService

open Library Python

/-- Float arithmetic, `timedelta.total_seconds` of so many microseconds, and the
functions of `math`.  A division by zero and an argument outside the domain raise. -/
structure FloatMath where
  add : PyFloat → PyFloat → PyFloat
  sub : PyFloat → PyFloat → PyFloat
  mul : PyFloat → PyFloat → PyFloat
  div : PyFloat → PyFloat → Except PyError PyFloat
  square : PyFloat → Except PyError PyFloat
  totalSeconds : ℕ → PyFloat
  radians : PyFloat → PyFloat
  sin : PyFloat → Except PyError PyFloat
  cos : PyFloat → Except PyError PyFloat
  asin : PyFloat → Except PyError PyFloat
  sqrt : PyFloat → Except PyError PyFloat

/-- `datetime.fromisoformat(value.replace("Z", "+00:00"))`. -/
def parseTimestamp (value : String) : Except PyError DateTime :=
  match DateTime.fromisoformat (replaceChar 'Z' "+00:00".toList value.toList) with
  | some timestamp => .ok timestamp
  | none => .error .valueError

/-- `CameraLocation`, as far as the validator reads it. -/
structure CameraLocation where
  cameraId : String
  lat : PyFloat
  lon : PyFloat
deriving DecidableEq, Repr

/-- `SpatialConstraintValidator`. -/
structure SpatialConstraintValidator where
  locations : OrderedDict String CameraLocation
  maxSpeedMps : PyFloat

namespace SpatialConstraintValidator

variable (math : FloatMath)

/-- `DEFAULT_MAX_SPEED_MPS`. -/
def defaultMaxSpeedMps : PyFloat := .finite false 30 (-1)

/-- A validator that knows no camera. -/
def start (maxSpeedMps : PyFloat) : SpatialConstraintValidator where
  locations := OrderedDict.empty
  maxSpeedMps := maxSpeedMps

/-- `register_camera`. -/
def registerCamera (validator : SpatialConstraintValidator) (location : CameraLocation) :
    SpatialConstraintValidator :=
  { validator with locations := validator.locations.set location.cameraId location }

/-- `_haversine_m`. -/
def haversineM (lat1 lon1 lat2 lon2 : PyFloat) : Except PyError PyFloat := do
  let two : PyFloat := .finite false 2 0
  let earthRadius : PyFloat := .finite false 6371000 0
  let phi1 := math.radians lat1
  let phi2 := math.radians lat2
  let dphi := math.radians (math.sub lat2 lat1)
  let dlambda := math.radians (math.sub lon2 lon1)
  let sinPhi ← math.square (← math.sin (← math.div dphi two))
  let sinLambda ← math.square (← math.sin (← math.div dlambda two))
  let a := math.add sinPhi (math.mul (math.mul (← math.cos phi1) (← math.cos phi2)) sinLambda)
  return math.mul (math.mul two earthRadius) (← math.asin (← math.sqrt a))

/-- The `try` of `is_feasible`: the seconds between two timestamps.  Subtracting an
aware from a naive time raises. -/
def elapsedSeconds (fromTimestamp toTimestamp : String) : Except PyError PyFloat := do
  let t1 ← parseTimestamp fromTimestamp
  let t2 ← parseTimestamp toTimestamp
  if t1.isAware = t2.isAware then return math.totalSeconds (t2.instant - t1.instant).natAbs
  else .error .typeError

/-- `is_feasible`. -/
def isFeasible (validator : SpatialConstraintValidator)
    (fromCamera fromTimestamp toCamera toTimestamp : String) : Except PyError Bool :=
  if fromCamera = toCamera then .ok true
  else
    match validator.locations.get? fromCamera, validator.locations.get? toCamera with
    | some locA, some locB =>
        match elapsedSeconds math fromTimestamp toTimestamp with
        | .error _ => .ok true
        | .ok elapsedS => do
            let distanceM ← haversineM math locA.lat locA.lon locB.lat locB.lon
            let minTravelS ← math.div distanceM validator.maxSpeedMps
            return minTravelS.le elapsedS
    | _, _ => .ok true

/-- A transition whose first timestamp does not parse is feasible. -/
theorem isFeasible_of_unparsed {validator : SpatialConstraintValidator}
    {fromCamera fromTimestamp toCamera toTimestamp : String} {error : PyError}
    (unparsed : parseTimestamp fromTimestamp = .error error) :
    validator.isFeasible math fromCamera fromTimestamp toCamera toTimestamp = .ok true := by
  have unknown : elapsedSeconds math fromTimestamp toTimestamp = .error error := by
    rw [elapsedSeconds, unparsed]
    rfl
  rw [isFeasible, unknown]
  split
  · rfl
  · split <;> rfl

end SpatialConstraintValidator

end PersonTracking.AiService
