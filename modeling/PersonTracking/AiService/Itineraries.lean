import PersonTracking.AiService.SpatialConstraints
import PersonTracking.Library.GreatCircle

/-!
# Itineraries

`Arithmetic.isFeasible` is `is_feasible` over any kind of number.  Over floats it is
`SpatialConstraintValidator.isFeasible`; over the reals it never raises, and it compares
the elapsed time with the way along a great circle.

`hops_iff_pairwise` is about a person seen by one camera after the other: the validator
lets every hop pass just in case it lets every transition pass, from any sighting to any
later one.  A chain of associations made hop by hop never leads to a place that is out of
reach from where the chain began.
-/

namespace PersonTracking.AiService

open Library Python

/-- The numbers the validator computes with, and what it computes. -/
structure Arithmetic (α : Type) where
  ofNat : ℕ → α
  add : α → α → α
  sub : α → α → α
  mul : α → α → α
  div : α → α → Except PyError α
  square : α → Except PyError α
  totalSeconds : ℕ → α
  radians : α → α
  sin : α → Except PyError α
  cos : α → Except PyError α
  asin : α → Except PyError α
  sqrt : α → Except PyError α
  le : α → α → Bool

/-- Where a camera is, in degrees. -/
structure Position (α : Type) where
  lat : α
  lon : α

namespace Arithmetic

variable {α : Type} (math : Arithmetic α)

/-- `_haversine_m`. -/
def haversineM (lat1 lon1 lat2 lon2 : α) : Except PyError α := do
  let two := math.ofNat 2
  let earthRadius := math.ofNat 6371000
  let phi1 := math.radians lat1
  let phi2 := math.radians lat2
  let dphi := math.radians (math.sub lat2 lat1)
  let dlambda := math.radians (math.sub lon2 lon1)
  let sinPhi ← math.square (← math.sin (← math.div dphi two))
  let sinLambda ← math.square (← math.sin (← math.div dlambda two))
  let a := math.add sinPhi (math.mul (math.mul (← math.cos phi1) (← math.cos phi2)) sinLambda)
  return math.mul (math.mul two earthRadius) (← math.asin (← math.sqrt a))

/-- The `try` of `is_feasible`. -/
def elapsedSeconds (fromTimestamp toTimestamp : String) : Except PyError α := do
  let t1 ← parseTimestamp fromTimestamp
  let t2 ← parseTimestamp toTimestamp
  if t1.isAware = t2.isAware then return math.totalSeconds (t2.instant - t1.instant).natAbs
  else .error .typeError

/-- `is_feasible`. -/
def isFeasible (locations : String → Option (Position α)) (maxSpeedMps : α)
    (fromCamera fromTimestamp toCamera toTimestamp : String) : Except PyError Bool :=
  if fromCamera = toCamera then .ok true
  else
    match locations fromCamera, locations toCamera with
    | some locA, some locB =>
        match math.elapsedSeconds fromTimestamp toTimestamp with
        | .error _ => .ok true
        | .ok elapsedS => do
            let distanceM ← math.haversineM locA.lat locA.lon locB.lat locB.lon
            let minTravelS ← math.div distanceM maxSpeedMps
            return math.le minTravelS elapsedS
    | _, _ => .ok true

end Arithmetic

/-! ## Floats -/

/-- Float arithmetic. -/
def FloatMath.arithmetic (math : FloatMath) : Arithmetic PyFloat where
  ofNat n := .finite false n 0
  add := math.add
  sub := math.sub
  mul := math.mul
  div := math.div
  square := math.square
  totalSeconds := math.totalSeconds
  radians := math.radians
  sin := math.sin
  cos := math.cos
  asin := math.asin
  sqrt := math.sqrt
  le := PyFloat.le

/-- `self._locations`, as far as distances go. -/
def SpatialConstraintValidator.position (validator : SpatialConstraintValidator)
    (camera : String) : Option (Position PyFloat) :=
  (validator.locations.get? camera).map fun location => ⟨location.lat, location.lon⟩

theorem FloatMath.haversineM_arithmetic (math : FloatMath) (lat1 lon1 lat2 lon2 : PyFloat) :
    math.arithmetic.haversineM lat1 lon1 lat2 lon2 =
      SpatialConstraintValidator.haversineM math lat1 lon1 lat2 lon2 := rfl

theorem FloatMath.elapsedSeconds_arithmetic (math : FloatMath)
    (fromTimestamp toTimestamp : String) :
    math.arithmetic.elapsedSeconds fromTimestamp toTimestamp =
      SpatialConstraintValidator.elapsedSeconds math fromTimestamp toTimestamp := rfl

/-- **Over floats it is the validator's check.** -/
theorem SpatialConstraintValidator.isFeasible_eq (math : FloatMath)
    (validator : SpatialConstraintValidator)
    (fromCamera fromTimestamp toCamera toTimestamp : String) :
    validator.isFeasible math fromCamera fromTimestamp toCamera toTimestamp =
      math.arithmetic.isFeasible validator.position validator.maxSpeedMps
        fromCamera fromTimestamp toCamera toTimestamp := by
  unfold SpatialConstraintValidator.isFeasible Arithmetic.isFeasible position
  simp only [FloatMath.haversineM_arithmetic, FloatMath.elapsedSeconds_arithmetic]
  cases validator.locations.get? fromCamera with
  | none => rfl
  | some locA =>
      cases validator.locations.get? toCamera with
      | none => rfl
      | some locB =>
          cases SpatialConstraintValidator.elapsedSeconds math fromTimestamp toTimestamp <;> rfl

/-! ## The reals -/

namespace Arithmetic

open Real

/-- Exact arithmetic.  Outside of its domain a function raises, as those of `math` do. -/
noncomputable def exact : Arithmetic ℝ where
  ofNat n := n
  add x y := x + y
  sub x y := x - y
  mul x y := x * y
  div x y := if y = 0 then .error .valueError else .ok (x / y)
  square x := .ok (x ^ 2)
  totalSeconds microseconds := microseconds / (10 ^ 6 : ℕ)
  radians x := x * (π / (180 : ℕ))
  sin x := .ok (Real.sin x)
  cos x := .ok (Real.cos x)
  asin x := if -1 ≤ x ∧ x ≤ 1 then .ok (arcsin x) else .error .valueError
  sqrt x := if 0 ≤ x then .ok √x else .error .valueError
  le x y := decide (x ≤ y)

end Arithmetic

/-- The angle between two cameras, seen from the middle of the earth. -/
noncomputable def Position.arc (a b : Position ℝ) : ℝ :=
  centralAngle (Arithmetic.exact.radians a.lat) (Arithmetic.exact.radians a.lon)
    (Arithmetic.exact.radians b.lat) (Arithmetic.exact.radians b.lon)

@[simp] theorem Position.arc_self (a : Position ℝ) : a.arc a = 0 := centralAngle_self _ _

theorem Position.arc_triangle (a b c : Position ℝ) : a.arc c ≤ a.arc b + b.arc c :=
  centralAngle_triangle _ _ _ _ _ _

/-- **The distance never raises**, and it is a distance along a great circle. -/
theorem Arithmetic.haversineM_exact (a b : Position ℝ) :
    exact.haversineM a.lat a.lon b.lat b.lon = .ok ((6371000 : ℕ) * a.arc b) := by
  have difference : ∀ x y : ℝ, exact.radians (exact.sub y x) = exact.radians y - exact.radians x :=
    fun x y => sub_mul y x _
  have halved : ∀ x : ℝ, exact.div x (exact.ofNat 2) = .ok (x / (2 : ℕ)) := fun x =>
    if_neg (Nat.cast_ne_zero.mpr two_ne_zero)
  have root : ∀ φ₁ θ₁ φ₂ θ₂ : ℝ, exact.sqrt (haversine φ₁ θ₁ φ₂ θ₂) =
      .ok √(haversine φ₁ θ₁ φ₂ θ₂) := fun φ₁ θ₁ φ₂ θ₂ =>
    if_pos (haversine_nonneg φ₁ θ₁ φ₂ θ₂)
  have inverse : ∀ φ₁ θ₁ φ₂ θ₂ : ℝ, exact.asin √(haversine φ₁ θ₁ φ₂ θ₂) =
      .ok (Real.arcsin √(haversine φ₁ θ₁ φ₂ θ₂)) := fun φ₁ θ₁ φ₂ θ₂ =>
    if_pos ⟨by linarith [Real.sqrt_nonneg (haversine φ₁ θ₁ φ₂ θ₂)],
      sqrt_haversine_le_one φ₁ θ₁ φ₂ θ₂⟩
  simp only [Arithmetic.haversineM, difference, halved]
  change (exact.sqrt (haversine _ _ _ _) >>= fun x => exact.asin x >>= _) = _
  rw [root]
  change (exact.asin √(haversine _ _ _ _) >>= _) = _
  rw [inverse]
  have doubled := two_mul_arcsin_sqrt_haversine (exact.radians a.lat) (exact.radians a.lon)
    (exact.radians b.lat) (exact.radians b.lon)
  refine congrArg Except.ok ?_
  change ((2 : ℕ) : ℝ) * ((6371000 : ℕ) : ℝ) * Real.arcsin _ = _
  rw [Position.arc, ← doubled]
  push_cast
  ring

/-- **The check never raises** for a speed that is not zero, whatever it is asked about. -/
theorem Arithmetic.exists_isFeasible_exact (locations : String → Option (Position ℝ))
    {maxSpeedMps : ℝ} (moves : maxSpeedMps ≠ 0)
    (fromCamera fromTimestamp toCamera toTimestamp : String) :
    ∃ accepted, exact.isFeasible locations maxSpeedMps fromCamera fromTimestamp toCamera
      toTimestamp = .ok accepted := by
  unfold Arithmetic.isFeasible
  split
  · exact ⟨_, rfl⟩
  split
  · rename_i locA locB _ _
    cases exact.elapsedSeconds fromTimestamp toTimestamp with
    | error error => exact ⟨_, rfl⟩
    | ok elapsedS =>
        have divided : exact.div ((6371000 : ℕ) * locA.arc locB) maxSpeedMps =
            .ok ((6371000 : ℕ) * locA.arc locB / maxSpeedMps) := if_neg moves
        dsimp only
        rw [haversineM_exact]
        change ∃ accepted, (exact.div _ maxSpeedMps >>= _) = _
        rw [divided]
        exact ⟨_, rfl⟩
  · exact ⟨_, rfl⟩

/-! ## Sightings -/

/-- A sighting by a camera whose place is known, at a time that can be read.  All times
are `aware`, or none is. -/
structure Sighting (locations : String → Option (Position ℝ)) (aware : Bool) where
  camera : String
  timestamp : String
  position : Position ℝ
  time : DateTime
  located : locations camera = some position
  parsed : parseTimestamp timestamp = .ok time
  awareness : time.isAware = aware

namespace Sighting

variable {locations : String → Option (Position ℝ)} {aware : Bool}

/-- The microseconds between two sightings. -/
def elapsed (s t : Sighting locations aware) : ℕ := (t.time.instant - s.time.instant).natAbs

/-- Not earlier. -/
def Before (s t : Sighting locations aware) : Prop := s.time.instant ≤ t.time.instant

/-- What `is_feasible` answers about two sightings. -/
noncomputable def answer (maxSpeedMps : ℝ) (s t : Sighting locations aware) : Except PyError Bool :=
  Arithmetic.exact.isFeasible locations maxSpeedMps s.camera s.timestamp t.camera t.timestamp

/-- The second sighting is within reach of the first one. -/
def Reaches (maxSpeedMps : ℝ) (s t : Sighting locations aware) : Prop :=
  (6371000 : ℕ) * s.position.arc t.position / maxSpeedMps ≤ s.elapsed t / (10 ^ 6 : ℕ)

theorem position_eq {s t : Sighting locations aware} (same : s.camera = t.camera) :
    s.position = t.position := by
  have located := s.located
  rw [same, t.located] at located
  exact (Option.some.inj located).symm

theorem reaches_of_camera_eq {maxSpeedMps : ℝ} {s t : Sighting locations aware}
    (same : s.camera = t.camera) : s.Reaches maxSpeedMps t := by
  rw [Reaches, position_eq same, Position.arc_self, mul_zero, zero_div]
  positivity

theorem elapsedSeconds_eq (s t : Sighting locations aware) :
    Arithmetic.exact.elapsedSeconds s.timestamp t.timestamp =
      .ok (s.elapsed t / (10 ^ 6 : ℕ) : ℝ) := by
  have alike : s.time.isAware = t.time.isAware := s.awareness.trans t.awareness.symm
  rw [Arithmetic.elapsedSeconds, s.parsed, t.parsed]
  exact if_pos alike

open Classical in
/-- **What the validator answers with exact arithmetic.** -/
theorem answer_eq {maxSpeedMps : ℝ} (moves : 0 < maxSpeedMps) (s t : Sighting locations aware) :
    s.answer maxSpeedMps t = .ok (decide (s.Reaches maxSpeedMps t)) := by
  by_cases same : s.camera = t.camera
  · rw [answer, Arithmetic.isFeasible, if_pos same, decide_eq_true (reaches_of_camera_eq same)]
  · have divided : Arithmetic.exact.div ((6371000 : ℕ) * s.position.arc t.position) maxSpeedMps =
        .ok ((6371000 : ℕ) * s.position.arc t.position / maxSpeedMps) := if_neg moves.ne'
    rw [answer, Arithmetic.isFeasible, if_neg same, s.located, t.located]
    simp only [elapsedSeconds_eq, Arithmetic.haversineM_exact]
    change (Arithmetic.exact.div _ maxSpeedMps >>= _) = _
    rw [divided]
    rfl

open Classical in
theorem answer_eq_true_iff {maxSpeedMps : ℝ} (moves : 0 < maxSpeedMps)
    {s t : Sighting locations aware} :
    s.answer maxSpeedMps t = .ok true ↔ s.Reaches maxSpeedMps t := by
  rw [answer_eq moves, Except.ok.injEq, decide_eq_true_iff]

/-- Time adds up along an itinerary. -/
theorem elapsed_add {s t u : Sighting locations aware} (st : s.Before t) (tu : t.Before u) :
    s.elapsed u = s.elapsed t + t.elapsed u := by
  unfold Before at st tu
  unfold elapsed
  omega

/-- The way to a third place is not longer than the way by the second one. -/
theorem reaches_trans {maxSpeedMps : ℝ} (moves : 0 < maxSpeedMps)
    {s t u : Sighting locations aware} (st : s.Before t) (tu : t.Before u)
    (first : s.Reaches maxSpeedMps t) (second : t.Reaches maxSpeedMps u) :
    s.Reaches maxSpeedMps u := by
  have shorter := s.position.arc_triangle t.position u.position
  unfold Reaches at *
  calc (6371000 : ℕ) * s.position.arc u.position / maxSpeedMps
      ≤ (6371000 : ℕ) * (s.position.arc t.position + t.position.arc u.position) / maxSpeedMps := by
        gcongr
    _ = (6371000 : ℕ) * s.position.arc t.position / maxSpeedMps +
          (6371000 : ℕ) * t.position.arc u.position / maxSpeedMps := by rw [mul_add, add_div]
    _ ≤ s.elapsed t / (10 ^ 6 : ℕ) + t.elapsed u / (10 ^ 6 : ℕ) := add_le_add first second
    _ = s.elapsed u / (10 ^ 6 : ℕ) := by rw [elapsed_add st tu, Nat.cast_add, add_div]

/-- Feasible hops make every transition feasible. -/
theorem pairwise_of_hops {maxSpeedMps : ℝ} (moves : 0 < maxSpeedMps)
    {itinerary : List (Sighting locations aware)} (ordered : itinerary.IsChain Before)
    (hops : itinerary.IsChain fun s t => s.answer maxSpeedMps t = .ok true) :
    itinerary.Pairwise fun s t => s.answer maxSpeedMps t = .ok true := by
  let Onward (s t : Sighting locations aware) : Prop := s.Before t ∧ s.Reaches maxSpeedMps t
  have onward : itinerary.IsChain Onward :=
    List.isChain_iff_getElem.mpr fun i inside =>
      ⟨List.isChain_iff_getElem.mp ordered i inside,
        (answer_eq_true_iff moves).mp (List.isChain_iff_getElem.mp hops i inside)⟩
  have : IsTrans (Sighting locations aware) Onward :=
    ⟨fun s t u st tu => ⟨st.1.trans tu.1, reaches_trans moves st.1 tu.1 st.2 tu.2⟩⟩
  exact onward.pairwise.imp fun ⟨_, reaches⟩ => (answer_eq_true_iff moves).mpr reaches

/-- **Feasible hops make a feasible itinerary.**  With exact arithmetic the check never
raises, and of sightings in the order of time it lets every hop pass just in case it lets
every transition pass; over floats the same function is the validator's. -/
theorem hops_iff_pairwise {maxSpeedMps : ℝ} (moves : 0 < maxSpeedMps)
    {itinerary : List (Sighting locations aware)} (ordered : itinerary.IsChain Before) :
    (∀ fromCamera fromTimestamp toCamera toTimestamp, ∃ accepted,
        Arithmetic.exact.isFeasible locations maxSpeedMps fromCamera fromTimestamp toCamera
          toTimestamp = .ok accepted) ∧
      (itinerary.IsChain (fun s t => s.answer maxSpeedMps t = .ok true) ↔
        itinerary.Pairwise fun s t => s.answer maxSpeedMps t = .ok true) ∧
      ∀ (math : FloatMath) (validator : SpatialConstraintValidator)
        (fromCamera fromTimestamp toCamera toTimestamp : String),
        validator.isFeasible math fromCamera fromTimestamp toCamera toTimestamp =
          math.arithmetic.isFeasible validator.position validator.maxSpeedMps
            fromCamera fromTimestamp toCamera toTimestamp :=
  ⟨Arithmetic.exists_isFeasible_exact locations moves.ne',
    ⟨pairwise_of_hops moves ordered, List.Pairwise.isChain⟩,
    SpatialConstraintValidator.isFeasible_eq⟩

end Sighting

/-! ### Around the globe -/

/-- Three cameras, far from each other. -/
noncomputable def exampleLocations (camera : String) : Option (Position ℝ) :=
  if camera = "hanoi" then some ⟨21, 105⟩
  else if camera = "lima" then some ⟨-12, -77⟩
  else if camera = "oslo" then some ⟨60, 11⟩
  else none

/-- A sighting on the first day of 1970. -/
noncomputable def exampleDeparture : Sighting exampleLocations true where
  camera := "hanoi"
  timestamp := "1970-01-01T00:00:00Z"
  position := ⟨21, 105⟩
  time := .epoch
  located := rfl
  parsed := by decide +kernel
  awareness := rfl

/-- A sighting a hundred days later. -/
noncomputable def exampleStop : Sighting exampleLocations true where
  camera := "lima"
  timestamp := "1970-04-11T00:00:00Z"
  position := ⟨-12, -77⟩
  time := { DateTime.epoch with month := 4, day := 11, validDate := by decide }
  located := rfl
  parsed := by decide +kernel
  awareness := rfl

/-- …and one after two hundred days. -/
noncomputable def exampleArrival : Sighting exampleLocations true where
  camera := "oslo"
  timestamp := "1970-07-20T00:00:00Z"
  position := ⟨60, 11⟩
  time := { DateTime.epoch with month := 7, day := 20, validDate := by decide }
  located := rfl
  parsed := by decide +kernel
  awareness := rfl

/-- At three metres a second, a hundred days reach everywhere. -/
theorem Sighting.reaches_of_elapsed {locations : String → Option (Position ℝ)} {aware : Bool}
    {s t : Sighting locations aware} (long : s.elapsed t = 8640000000000) : s.Reaches 3 t := by
  have half := centralAngle_le_pi (Arithmetic.exact.radians s.position.lat)
    (Arithmetic.exact.radians s.position.lon) (Arithmetic.exact.radians t.position.lat)
    (Arithmetic.exact.radians t.position.lon)
  have circle := Real.pi_le_four
  rw [Reaches, long, Position.arc]
  push_cast
  linarith

/-- One hop after the other is feasible, so the arrival is from the departure. -/
theorem hops_iff_pairwise_example :
    [exampleDeparture, exampleStop, exampleArrival].Pairwise
      fun s t => s.answer 3 t = .ok true := by
  have moves : (0 : ℝ) < 3 := by norm_num
  have left : exampleDeparture.time.instant = 62135683200000000 := by decide +kernel
  have stopped : exampleStop.time.instant = 62144323200000000 := by decide +kernel
  have arrived : exampleArrival.time.instant = 62152963200000000 := by decide +kernel
  have first : exampleDeparture.Before exampleStop := by
    rw [Sighting.Before, left, stopped]
    decide
  have second : exampleStop.Before exampleArrival := by
    rw [Sighting.Before, stopped, arrived]
    decide
  have hops : [exampleDeparture, exampleStop, exampleArrival].IsChain
      fun s t => s.answer 3 t = .ok true := by
    refine .cons_cons ?_ (.cons_cons ?_ (.singleton _))
    · refine (Sighting.answer_eq_true_iff moves).mpr (Sighting.reaches_of_elapsed ?_)
      rw [Sighting.elapsed, left, stopped]
      decide
    · refine (Sighting.answer_eq_true_iff moves).mpr (Sighting.reaches_of_elapsed ?_)
      rw [Sighting.elapsed, stopped, arrived]
      decide
  exact (Sighting.hops_iff_pairwise moves
    (.cons_cons first (.cons_cons second (.singleton _)))).2.1.mp hops

end PersonTracking.AiService
