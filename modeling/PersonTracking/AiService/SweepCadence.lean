import PersonTracking.AiService.Probe
import PersonTracking.Library.Transition

/-!
# The cadence of the sweep

The probe forgets lost tracks where its frame counter is a multiple of 300 at the end
of a buffer.  The counter moves by a whole buffer at a time, so it can step over the
multiple, and a sweep keeps what the whole of its buffer shows.

`Watched` follows a probe over a run and remembers the frames it has counted and where
the last sweep was made.  `inCadence_iff` says when the sweep keeps its cadence, and
when the tracks are those of the last frames.
-/

namespace PersonTracking.AiService

open Library Python Shared

/-! ## What a buffer counts -/

/-- The frames of a buffer that are counted: an exception ends the loop in its frame. -/
def framesReached (numpy : Numpy) : List Frame → ProbeState → List Frame
  | [], _ => []
  | frame :: rest, state =>
      match probeObjects numpy frame frame.objects
          { state with frameCount := state.frameCount + 1 } with
      | (.error _, _) => [frame]
      | (.ok _, after) => frame :: framesReached numpy rest after

/-- Every frame of the buffer is gone through without an exception. -/
def GoesThrough (numpy : Numpy) (state : ProbeState) (buffer : List Frame) : Prop :=
  (probeFrames numpy buffer { state with activeTrackKeys := [] }).1.isOk = true

instance (numpy : Numpy) (state : ProbeState) (buffer : List Frame) :
    Decidable (GoesThrough numpy state buffer) :=
  inferInstanceAs (Decidable (_ = true))

/-- The frames that a buffer adds to the counter. -/
def counted (numpy : Numpy) (state : ProbeState) (buffer : List Frame) : List Frame :=
  framesReached numpy buffer { state with activeTrackKeys := [] }

/-- The buffer is gone through and ends on a multiple of 300. -/
def Sweeps (numpy : Numpy) (state : ProbeState) (buffer : List Frame) : Prop :=
  GoesThrough numpy state buffer ∧
    (state.frameCount + (counted numpy state buffer).length) % 300 = 0

instance (numpy : Numpy) (state : ProbeState) (buffer : List Frame) :
    Decidable (Sweeps numpy state buffer) :=
  inferInstanceAs (Decidable (_ ∧ _))

section Buffers

variable {numpy : Numpy} {frame : Frame} {frames buffer : List Frame}
  {objects : List DetectedObject} {state after : ProbeState} {result : Except PyError Unit}
  {key : TrackKey}

/-- The objects of a frame leave the counter alone. -/
theorem frameCount_of_probeObjects
    (done : probeObjects numpy frame objects state = (result, after)) :
    after.frameCount = state.frameCount :=
  probeObjects_invariant (I := fun s => s.frameCount = state.frameCount)
    (fun _ _ _ _ _ same one => (noted_of_probeObject one).2.trans same) rfl done

/-- The counter moves by the frames that are reached, and what follows them changes
nothing. -/
theorem probeFrames_framesReached (done : probeFrames numpy frames state = (result, after)) :
    probeFrames numpy (framesReached numpy frames state) state = (result, after) ∧
      after.frameCount = state.frameCount + (framesReached numpy frames state).length := by
  induction frames generalizing state with
  | nil =>
      cases done
      exact ⟨rfl, rfl⟩
  | cons frame rest ih =>
      rw [probeFrames] at done
      cases one : probeObjects numpy frame frame.objects
          { state with frameCount := state.frameCount + 1 } with
      | mk outcome next =>
          have count : next.frameCount = state.frameCount + 1 := frameCount_of_probeObjects one
          rw [one] at done
          simp only [framesReached, one]
          cases outcome with
          | error error =>
              cases done
              refine ⟨?_, count⟩
              simp only [probeFrames, one]
          | ok _ =>
              obtain ⟨same, counter⟩ := ih done
              refine ⟨?_, ?_⟩
              · simp only [probeFrames, one]
                exact same
              · rw [counter, count, List.length_cons]
                omega

/-- A track that is noted appears in a frame that is reached. -/
theorem appears_of_active (done : probeFrames numpy frames state = (result, after))
    (active : key ∈ after.activeTrackKeys) :
    key ∈ state.activeTrackKeys ∨ Appears key frames := by
  have from_frames : ∀ key ∈ after.activeTrackKeys,
      key ∈ state.activeTrackKeys ∨ Appears key frames := by
    refine probeFrames_invariant
      (I := fun s => ∀ key ∈ s.activeTrackKeys, key ∈ state.activeTrackKeys ∨ Appears key frames)
      (fun s before => before) ?_ (fun key member => Or.inl member) done
    intro frame member object inside s r t before one key noted
    rw [(noted_of_probeObject one).1] at noted
    rcases List.mem_append.mp noted with earlier | here
    · exact before key earlier
    · rw [List.mem_singleton.mp here]
      exact Or.inr ⟨frame, member, object, inside, rfl⟩
  exact from_frames key active

/-- The probe forgets the tracks that are not in a buffer just where it is swept. -/
theorem probeBuffer_of_done (done : probeFrames numpy buffer { state with activeTrackKeys := [] } =
    (result, after)) :
    probeBuffer numpy state buffer = if Sweeps numpy state buffer then
      { after with associator := after.associator.cleanupLostTracks after.activeTrackKeys }
    else after := by
  have count : after.frameCount = state.frameCount + (counted numpy state buffer).length :=
    (probeFrames_framesReached done).2
  simp only [probeBuffer, Sweeps, GoesThrough, done]
  cases result with
  | error error => exact (if_neg fun sweeps => Bool.false_ne_true sweeps.1).symm
  | ok _ =>
      simp only [count]
      exact if_congr (and_iff_right rfl).symm rfl rfl

/-- **What a buffer does to the counter and the tracks.**  The tracks resolved
afterwards were so before or appear in the buffer; after a sweep they appear in it. -/
theorem probeBuffer_counted (numpy : Numpy) (state : ProbeState) (buffer : List Frame) :
    (probeBuffer numpy state buffer).frameCount =
        state.frameCount + (counted numpy state buffer).length ∧
      (∀ key, (probeBuffer numpy state buffer).associator.trackToPerson.get? key ≠ none →
        Appears key (counted numpy state buffer) ∨
          ¬ Sweeps numpy state buffer ∧ state.associator.trackToPerson.get? key ≠ none) := by
  obtain ⟨result, after, done, -⟩ := probeBuffer_cases numpy state buffer
  obtain ⟨same, count⟩ := probeFrames_framesReached done
  rw [probeBuffer_of_done done]
  by_cases sweeps : Sweeps numpy state buffer
  · rw [if_pos sweeps]
    refine ⟨count, fun key resolved => Or.inl ?_⟩
    rw [Associator.get?_cleanupLostTracks] at resolved
    by_cases active : key ∈ after.activeTrackKeys
    · exact (appears_of_active same active).resolve_left List.not_mem_nil
    · exact absurd (if_neg active) resolved
  · rw [if_neg sweeps]
    refine ⟨count, fun key resolved => ?_⟩
    by_cases seen : Appears key (counted numpy state buffer)
    · exact Or.inl seen
    · rw [(untouched_of_probeFrames seen same).resolvedTo] at resolved
      exact Or.inr ⟨sweeps, resolved⟩

end Buffers

/-! ## Runs -/

/-- A probe with the frames it has counted, how many of them the last buffer holds,
how many there were at the last sweep, and how many before the buffer of that sweep. -/
structure Watched where
  probe : ProbeState
  seen : List Frame
  current : ℕ
  sweptAt : ℕ
  sweptFrom : ℕ

namespace Watched

/-- A probe on which no buffer has been. -/
def start (gallery : PersonGallery) : Watched where
  probe := ProbeState.start gallery
  seen := []
  current := 0
  sweptAt := 0
  sweptFrom := 0

/-- A buffer of at least one frame. -/
def step (numpy : Numpy) (run : Watched) (buffer : List Frame) : Option Watched :=
  if buffer = [] then none
  else
    let frames := counted numpy run.probe buffer
    let sweeps := Sweeps numpy run.probe buffer
    some
      { probe := probeBuffer numpy run.probe buffer
        seen := run.seen ++ frames
        current := frames.length
        sweptAt := if sweeps then run.seen.length + frames.length else run.sweptAt
        sweptFrom := if sweeps then run.seen.length else run.sweptFrom }

/-- Fewer than 300 frames have been counted since the last sweep. -/
def InCadence (run : Watched) : Prop := run.seen.length < run.sweptAt + 300

/-- The last 300 frames and those of the current buffer. -/
def window (run : Watched) : List Frame :=
  run.seen.drop (run.seen.length - (300 + run.current))

/-- Every resolved track was seen in the window. -/
def InWindow (run : Watched) : Prop :=
  ∀ key ∈ run.probe.associator.trackToPerson.keys, Appears key run.window

/-- The buffer stays below the next multiple of 300, or is swept on one. -/
def OnTime (numpy : Numpy) (run : Watched) (buffer : List Frame) : Prop :=
  run.probe.frameCount % 300 + (counted numpy run.probe buffer).length < 300 ∨
    Sweeps numpy run.probe buffer

/-- The buffer is swept, or the buffer of the last sweep began at most 300 frames before. -/
def Recent (numpy : Numpy) (run : Watched) (buffer : List Frame) : Prop :=
  run.seen.length ≤ run.sweptFrom + 300 ∨ Sweeps numpy run.probe buffer

instance (numpy : Numpy) (run : Watched) (buffer : List Frame) :
    Decidable (OnTime numpy run buffer) :=
  inferInstanceAs (Decidable (_ ∨ _))

instance (numpy : Numpy) (run : Watched) (buffer : List Frame) :
    Decidable (Recent numpy run buffer) :=
  inferInstanceAs (Decidable (_ ∨ _))

instance (run : Watched) : Decidable run.InCadence :=
  inferInstanceAs (Decidable (_ < _))

/-- The last sweep was made on the last multiple of 300. -/
structure Timed (run : Watched) : Prop where
  count : run.probe.frameCount = run.seen.length
  sweptAt : run.sweptAt + run.seen.length % 300 = run.seen.length

/-- The resolved tracks appear since the buffer of the last sweep. -/
structure Bounded (run : Watched) : Prop where
  sweptFrom : run.sweptFrom ≤ run.seen.length
  tracks : ∀ key, run.probe.associator.trackToPerson.get? key ≠ none →
    Appears key (run.seen.drop run.sweptFrom)

section Runs

variable {numpy : Numpy} {run next : Watched} {buffer : List Frame}

/-- What a buffer of at least one frame leads to. -/
theorem step_of_ne_nil (numpy : Numpy) (run : Watched) (held : buffer ≠ []) :
    step numpy run buffer = some
      { probe := probeBuffer numpy run.probe buffer
        seen := run.seen ++ counted numpy run.probe buffer
        current := (counted numpy run.probe buffer).length
        sweptAt := if Sweeps numpy run.probe buffer
          then run.seen.length + (counted numpy run.probe buffer).length else run.sweptAt
        sweptFrom := if Sweeps numpy run.probe buffer then run.seen.length else run.sweptFrom } :=
  if_neg held

/-- Only a buffer of at least one frame is a step. -/
theorem ne_nil_of_step (moved : step numpy run buffer = some next) : buffer ≠ [] := by
  rintro rfl
  cases moved

theorem timed_start (gallery : PersonGallery) : (start gallery).Timed := ⟨rfl, rfl⟩

theorem bounded_start (gallery : PersonGallery) : (start gallery).Bounded :=
  ⟨le_refl _, fun _ resolved => absurd rfl resolved⟩

/-- Where the last sweep was made on the last multiple of 300, the sweep is in cadence. -/
theorem Timed.inCadence (timed : run.Timed) : run.InCadence := by
  have last := timed.sweptAt
  have below : run.seen.length % 300 < 300 := Nat.mod_lt _ (by decide)
  unfold InCadence
  omega

/-- **A buffer on time** leaves the last sweep on the last multiple of 300. -/
theorem Timed.step (timed : run.Timed) (onTime : OnTime numpy run buffer)
    (moved : Watched.step numpy run buffer = some next) : next.Timed := by
  rw [step_of_ne_nil numpy run (ne_nil_of_step moved), Option.some.injEq] at moved
  subst moved
  have count := (probeBuffer_counted numpy run.probe buffer).1
  constructor
  · rw [count, timed.count]
    exact List.length_append.symm
  · have last := timed.sweptAt
    simp only [List.length_append]
    by_cases sweeps : Sweeps numpy run.probe buffer
    · have due := sweeps.2
      rw [timed.count] at due
      rw [if_pos sweeps, due, Nat.add_zero]
    · have short := onTime.resolve_right sweeps
      rw [timed.count] at short
      rw [if_neg sweeps]
      omega

/-- A buffer that is not on time leaves 300 frames without a sweep. -/
theorem Timed.late (timed : run.Timed) (late : ¬ OnTime numpy run buffer) :
    ∃ next, Watched.step numpy run buffer = some next ∧ ¬ next.InCadence := by
  obtain ⟨reaches, unswept⟩ := not_or.mp late
  have held : buffer ≠ [] := by
    rintro rfl
    exact reaches (Nat.mod_lt _ (by decide))
  refine ⟨_, step_of_ne_nil numpy run held, fun inCadence => reaches ?_⟩
  have last := timed.sweptAt
  simp only [InCadence, if_neg unswept, List.length_append] at inCadence
  rw [timed.count]
  omega

/-- **A buffer keeps the tracks bounded**, on time or not. -/
theorem Bounded.step (bounded : run.Bounded)
    (moved : Watched.step numpy run buffer = some next) : next.Bounded := by
  rw [step_of_ne_nil numpy run (ne_nil_of_step moved), Option.some.injEq] at moved
  subst moved
  obtain ⟨-, tracks⟩ := probeBuffer_counted numpy run.probe buffer
  by_cases sweeps : Sweeps numpy run.probe buffer
  · refine ⟨?_, fun key resolved => ?_⟩
    · simp only [if_pos sweeps, List.length_append]
      exact Nat.le_add_right _ _
    · simp only [if_pos sweeps, List.drop_left]
      exact (tracks key resolved).resolve_right fun kept => kept.1 sweeps
  · refine ⟨?_, fun key resolved => ?_⟩
    · simp only [if_neg sweeps, List.length_append]
      exact bounded.sweptFrom.trans (Nat.le_add_right _ _)
    · simp only [if_neg sweeps, List.drop_append_of_le_length bounded.sweptFrom]
      rcases tracks key resolved with ⟨frame, member, shows⟩ | ⟨-, before⟩
      · exact ⟨frame, List.mem_append_right _ member, shows⟩
      · obtain ⟨frame, member, shows⟩ := bounded.tracks key before
        exact ⟨frame, List.mem_append_left _ member, shows⟩

/-- **The window.**  After a buffer that is swept, or that began at most 300 frames
after the buffer of the last sweep, every resolved track was seen in the window. -/
theorem Bounded.inWindow (bounded : run.Bounded) (recent : Recent numpy run buffer)
    (moved : Watched.step numpy run buffer = some next) : next.InWindow := by
  have after := bounded.step moved
  have reaches : next.seen.length - (300 + next.current) ≤ next.sweptFrom := by
    rw [step_of_ne_nil numpy run (ne_nil_of_step moved), Option.some.injEq] at moved
    subst moved
    simp only [List.length_append]
    by_cases sweeps : Sweeps numpy run.probe buffer
    · rw [if_pos sweeps]
      omega
    · have near := recent.resolve_right sweeps
      rw [if_neg sweeps]
      omega
  intro key member
  obtain ⟨personId, resolved⟩ := OrderedDict.mem_keys.mp member
  have known : next.probe.associator.trackToPerson.get? key ≠ none := by
    rw [OrderedDict.get?_of_mem resolved]
    exact Option.some_ne_none _
  obtain ⟨frame, inside, shows⟩ := after.tracks key known
  exact ⟨frame, (List.drop_sublist_drop_left next.seen reaches).subset inside, shows⟩

end Runs

/-- Tracks that are bounded and seen in the window stay so along a run whose buffers
are recent. -/
theorem inWindow_of_meets {numpy : Numpy} {gallery : PersonGallery} {buffers : List (List Frame)}
    {run : Watched} (recent : Meets (Recent numpy) (step numpy) (start gallery) buffers)
    (reached : runFrom (step numpy) (start gallery) buffers = some run) : run.InWindow := by
  have both : run.Bounded ∧ run.InWindow :=
    runFrom_invariant_of_meets (I := fun run => run.Bounded ∧ run.InWindow)
      (fun _ _ _ kept recent moved => ⟨kept.1.step moved, kept.1.inWindow recent moved⟩)
      ⟨bounded_start gallery, fun _ member => absurd member List.not_mem_nil⟩ recent reached
  exact both.2

/-- **When the sweep keeps its cadence.**  For every sequence of buffers of at least one
frame, whatever they show and wherever an exception ends one: after every buffer fewer
than 300 frames have been counted since the last sweep if and only if every buffer
stays below the next multiple of 300 or is swept on one.  Where every buffer is swept
or begins at most 300 frames after the buffer of the last sweep, the tracks resolved
after every buffer were seen in the last 300 frames or in the current buffer. -/
theorem inCadence_iff (numpy : Numpy) (gallery : PersonGallery) (buffers : List (List Frame)) :
    ((∀ taken run, taken <+: buffers → runFrom (step numpy) (start gallery) taken = some run →
        run.InCadence) ↔ Meets (OnTime numpy) (step numpy) (start gallery) buffers) ∧
      (Meets (Recent numpy) (step numpy) (start gallery) buffers →
        ∀ taken run, taken <+: buffers → runFrom (step numpy) (start gallery) taken = some run →
          run.InWindow) := by
  constructor
  · exact forall_prefix_iff_meets (fun _ timed => timed.inCadence)
      (fun _ _ _ timed onTime moved => timed.step onTime moved)
      (fun _ _ timed late => timed.late late) (timed_start gallery)
  · rintro recent taken run ⟨rest, rfl⟩ reached
    exact inWindow_of_meets (meets_append.mp recent).1 reached

/-! ### Buffers of 100 and of 7 frames -/

/-- One frame of a person, then none, in buffers of 100 frames. -/
def hundreds : List (List Frame) :=
  (sighting firstUnit (.ofNat 1) :: List.replicate 99 quietFrame) ::
    List.replicate 3 (List.replicate 100 quietFrame)

/-- Buffers of 100 frames hit the multiple. -/
theorem inCadence_hundreds : ∀ taken run, taken <+: hundreds →
    runFrom (step exampleNumpy) (start (PersonGallery.empty matchThreshold)) taken = some run →
      run.InCadence ∧ run.InWindow := by
  obtain ⟨cadence, window⟩ :=
    inCadence_iff exampleNumpy (PersonGallery.empty matchThreshold) hundreds
  intro taken run initial reached
  exact ⟨cadence.mpr (by decide +kernel) taken run initial reached,
    window (by decide +kernel) taken run initial reached⟩

/-- The same in buffers of 7 frames. -/
def sevenCameras : List (List Frame) :=
  (sighting firstUnit (.ofNat 1) :: List.replicate 6 quietFrame) ::
    List.replicate 43 (List.replicate 7 quietFrame)

/-- The run of seven cameras. -/
def sevenRun : Watched :=
  (runFrom (step exampleNumpy) (start (PersonGallery.empty matchThreshold)) sevenCameras).getD
    (start (PersonGallery.empty matchThreshold))

instance (run : Watched) : Decidable run.InWindow :=
  inferInstanceAs (Decidable (∀ key ∈ run.probe.associator.trackToPerson.keys,
    ∃ frame ∈ run.window, frame.Shows key))

/-- Buffers of seven frames step over 300. -/
theorem multiple_stepped_over :
    (∀ buffer ∈ sevenCameras, buffer.length = 7) ∧
      runFrom (step exampleNumpy) (start (PersonGallery.empty matchThreshold)) sevenCameras =
        some sevenRun ∧
      sevenRun.seen.length = 308 ∧ ¬ sevenRun.InCadence ∧ ¬ sevenRun.InWindow := by
  have runs : (runFrom (step exampleNumpy) (start (PersonGallery.empty matchThreshold))
      sevenCameras).isSome = true := by decide +kernel
  refine ⟨by decide +kernel, ?_, by decide +kernel, by decide +kernel, by decide +kernel⟩
  obtain ⟨run, reached⟩ := Option.isSome_iff_exists.mp runs
  rw [sevenRun, reached, Option.getD_some]

end Watched

end PersonTracking.AiService
