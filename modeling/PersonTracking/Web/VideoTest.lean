import Mathlib.Algebra.BigOperators.Group.List.Basic
import Mathlib.Algebra.Order.Ring.Rat
import Mathlib.Tactic.Linarith
import PersonTracking.Library.Transition
import PersonTracking.Web.Values

/-!
# The trial page

`useVideoAnalysisSimulation` plays the analysis of a video: a timer fires every half
second, and from the twentieth percentage on frames are analysed.  `VideoTestPage` starts
it together with a request to the backend, which a later start, a reset and leaving the
page abort.

A `VideoTestPage` carries one thing the code does not keep: which requests have failed, and
with what message.

`results_complete` is about what is shown at the end, `banner_current` about the answer of
the backend.
-/

namespace PersonTracking.Web

open Library

/-! ## The constants -/

namespace VideoTestSimulation

def initialProgressPercent : ℕ := 5
def progressStepPercent : ℕ := 5
def uploadCompletePercent : ℕ := 20
def decoderReadyPercent : ℕ := 40
def analysisCompletePercent : ℕ := 80
def finalProgressPercent : ℕ := 100
def frameCountMultiplier : ℕ := 25
def totalFrames : ℕ := 2500
def analysisSecondsDivisor : ℕ := 4
def personDetectionChance : ℚ := toNumber (4 / 10)
def objectDetectionChance : ℚ := toNumber (7 / 10)
def fireDetectionProgressMarks : List ℕ := [60, 75]
def baseFps : ℚ := 285 / 10
def fpsJitter : ℚ := 2
def maxPersonCrops : ℕ := 4

end VideoTestSimulation

open VideoTestSimulation

/-! ## The data -/

/-- `VideoTestPhase`. -/
inductive VideoTestPhase
  | idle
  | processing
  | success
deriving DecidableEq, Repr

/-- `VideoTestTab`. -/
inductive VideoTestTab
  | upload
  | url
deriving DecidableEq, Repr

/-- `DetectionClass`. -/
inductive DetectionClass
  | person
  | fire
  | object
deriving DecidableEq, Repr

/-- `DetectionStats`. -/
structure DetectionStats where
  persons : ℕ
  fires : ℕ
  objects : ℕ
  fps : ℚ
deriving DecidableEq, Repr

/-- `VIDEO_TEST_SIMULATION.initialStats`. -/
def initialStats : DetectionStats := ⟨0, 0, 0, 0⟩

/-- `TimelineEntry`. -/
structure TimelineEntry where
  second : ℕ
  persons : ℕ
  fires : ℕ
  objects : ℕ
deriving DecidableEq, Repr

/-- `CropDetail`. -/
structure CropDetail where
  id : String
  timestamp : String
  className : DetectionClass
  confidence : ℚ
  cropUrl : String
deriving DecidableEq, Repr

/-- `VideoTestReport`, with its summary in line. -/
structure VideoTestReport where
  testName : String
  totalPersons : ℕ
  totalFires : ℕ
  totalObjects : ℕ
  averageFps : ℚ
  detectionsTimeline : List TimelineEntry
  capturedKeyframeCrops : List CropDetail

/-- The texts a run shows, in the language it was started in. -/
structure TrialTexts where
  uploading : String
  initDecoder : String
  analyzing : String
  aggregating : String
  error401 : String
  error403 : String
  error429 : String
  error500 : String
  errorGeneric : String
deriving DecidableEq, Repr

/-- A value of `Math.random()`: a number from 0 on and below 1. -/
abbrev Draw : Type := {x : ℚ // (0 ≤ x ∧ x < 1) ∧ toNumber x = x}

/-- The three draws of one analysed frame. -/
structure Draws where
  person : Draw
  object : Draw
  fps : Draw

/-- `MutableSimulationState`. -/
structure MutableSimulationState where
  progressPercent : ℕ
  personCount : ℕ
  fireCount : ℕ
  objectCount : ℕ
  timeline : List TimelineEntry
deriving DecidableEq, Repr

namespace MutableSimulationState

/-- Before the first tick. -/
def initial : MutableSimulationState where
  progressPercent := initialProgressPercent
  personCount := 0
  fireCount := 0
  objectCount := 0
  timeline := []

/-- The next percentage. -/
def advance (simulation : MutableSimulationState) : MutableSimulationState :=
  { simulation with progressPercent := simulation.progressPercent + progressStepPercent }

/-- What is found in one frame. -/
def entry (simulation : MutableSimulationState) (draws : Draws) : TimelineEntry where
  second := (simulation.progressPercent - decoderReadyPercent) / analysisSecondsDivisor
  persons := if personDetectionChance < draws.person.1 then 1 else 0
  fires := if simulation.progressPercent ∈ fireDetectionProgressMarks then 1 else 0
  objects := if objectDetectionChance < draws.object.1 then 1 else 0

/-- Count it, and put it at the end of the timeline. -/
def record (simulation : MutableSimulationState) (entry : TimelineEntry) :
    MutableSimulationState :=
  { simulation with
    personCount := simulation.personCount + entry.persons
    fireCount := simulation.fireCount + entry.fires
    objectCount := simulation.objectCount + entry.objects
    timeline := simulation.timeline ++ [entry] }

end MutableSimulationState

/-- `createCropUrl`. -/
def createCropUrl (seed : String) : String :=
  "https://api.dicebear.com/7.x/identicon/svg?seed=" ++ seed

/-- A crop of a person. -/
def personCrop (index : ℕ) : CropDetail where
  id := "p-" ++ toString index
  timestamp := "00:0" ++ toString (index + 1)
  className := .person
  confidence := toNumber (toNumber (88 / 100) + toNumber (index * toNumber (2 / 100)))
  cropUrl := createCropUrl ("person-" ++ toString index)

/-- The crop of the fire. -/
def fireCrop : CropDetail where
  id := "f-0"
  timestamp := "00:05"
  className := .fire
  confidence := toNumber (94 / 100)
  cropUrl := createCropUrl "fire-0"

/-- `buildCropGallery`. -/
def buildCropGallery (personCount fireCount : ℕ) : List CropDetail :=
  (List.range (min personCount maxPersonCrops)).map personCrop ++
    if 0 < fireCount then [fireCrop] else []

/-! ## The hook -/

/-- The state of `useVideoAnalysisSimulation`, and the timers of the browser: those that
are set, with the texts their callbacks close over. -/
structure VideoAnalysis where
  phase : VideoTestPhase
  statusText : String
  progressPercent : ℕ
  stats : DetectionStats
  timelineData : List TimelineEntry
  crops : List CropDetail
  intervalRef : Option ℕ
  simulationRef : MutableSimulationState
  intervals : List (ℕ × TrialTexts)
  nextInterval : ℕ

namespace VideoAnalysis

/-- The hook when the page mounts. -/
def start : VideoAnalysis where
  phase := .idle
  statusText := ""
  progressPercent := 0
  stats := initialStats
  timelineData := []
  crops := []
  intervalRef := none
  simulationRef := .initial
  intervals := []
  nextInterval := 1

/-- `clearSimulationInterval`. -/
def clearSimulationInterval (view : VideoAnalysis) : VideoAnalysis :=
  match view.intervalRef with
  | some interval =>
      { view with
        intervals := view.intervals.filter fun timer => timer.1 ≠ interval
        intervalRef := none }
  | none => view

/-- `finishSimulation`. -/
def finishSimulation (view : VideoAnalysis) : VideoAnalysis :=
  { view.clearSimulationInterval with
    phase := .success
    progressPercent := finalProgressPercent
    timelineData := view.simulationRef.timeline
    crops := buildCropGallery view.simulationRef.personCount view.simulationRef.fireCount }

/-- `startSimulation`. -/
def startSimulation (view : VideoAnalysis) (texts : TrialTexts) : VideoAnalysis :=
  let cleared := view.clearSimulationInterval
  { phase := .processing
    statusText := texts.uploading
    progressPercent := initialProgressPercent
    stats := initialStats
    timelineData := []
    crops := []
    intervalRef := some cleared.nextInterval
    simulationRef := .initial
    intervals := (cleared.nextInterval, texts) :: cleared.intervals
    nextInterval := cleared.nextInterval + 1 }

/-- `resetSimulation`. -/
def resetSimulation (view : VideoAnalysis) : VideoAnalysis :=
  { view.clearSimulationInterval with
    phase := .idle
    statusText := ""
    progressPercent := 0
    stats := initialStats
    timelineData := []
    crops := [] }

/-- The branch of the callback in which a frame is analysed. -/
def analyze (view : VideoAnalysis) (texts : TrialTexts) (simulation : MutableSimulationState)
    (draws : Draws) : VideoAnalysis :=
  let simulation := simulation.record (simulation.entry draws)
  { view with
    simulationRef := simulation
    statusText := texts.analyzing ++ " " ++
      toString (simulation.progressPercent * frameCountMultiplier) ++ "/" ++ toString totalFrames
    stats := {
      persons := simulation.personCount
      fires := simulation.fireCount
      objects := simulation.objectCount
      -- twice a number is a number, so that only the sum is rounded
      fps := toNumber (baseFps + draws.fps.1 * fpsJitter) } }

/-- The callback of the timer. -/
def tick (view : VideoAnalysis) (texts : TrialTexts) (draws : Draws) : VideoAnalysis :=
  let simulation := view.simulationRef.advance
  let percent := simulation.progressPercent
  let advanced :=
    if percent ≤ uploadCompletePercent then
      { view with simulationRef := simulation, statusText := texts.uploading }
    else if percent ≤ decoderReadyPercent then
      { view with simulationRef := simulation, statusText := texts.initDecoder }
    else if percent ≤ analysisCompletePercent then view.analyze texts simulation draws
    else if percent < finalProgressPercent then
      { view with simulationRef := simulation, statusText := texts.aggregating }
    else { view with simulationRef := simulation }.finishSimulation
  { advanced with progressPercent := min percent finalProgressPercent }

end VideoAnalysis

/-! ## The page -/

/-- A request to the backend that is under way, with the texts its handlers close over. -/
structure TrialRequest where
  id : ℕ
  aborted : Bool
  texts : TrialTexts

/-- How a request ends.  An error may come without a response. -/
inductive BackendAnswer
  | accepted
  | failed (status : Option ℕ)
deriving DecidableEq, Repr

/-- `formatSecureError`. -/
def formatSecureError (texts : TrialTexts) : Option ℕ → String
  | some 401 => texts.error401
  | some 403 => texts.error403
  | some 429 => texts.error429
  | some 500 => texts.error500
  | _ => texts.errorGeneric

/-- The state of `VideoTestPage`. -/
structure VideoTestPage where
  analysis : VideoAnalysis
  activeTab : VideoTestTab
  backendMessage : Option String
  isSubmittingBackendJob : Bool
  backendRequestRef : Option ℕ
  requests : List TrialRequest
  nextRequest : ℕ
  failures : List (ℕ × String)
  mounted : Bool

/-- What can happen on the page.  A video is submitted as a file or as a URL. -/
inductive TrialEvent
  | changeTab (tab : VideoTestTab)
  | submit (texts : TrialTexts)
  | tick (interval : ℕ) (draws : Draws)
  | answered (request : ℕ) (answer : BackendAnswer)
  | reset
  | unmount

namespace VideoTestPage

/-- The page when it mounts. -/
def start : VideoTestPage where
  analysis := .start
  activeTab := .upload
  backendMessage := none
  isSubmittingBackendJob := false
  backendRequestRef := none
  requests := []
  nextRequest := 0
  failures := []
  mounted := true

/-- `backendRequestRef.current?.abort()`. -/
def abortRequest (page : VideoTestPage) : VideoTestPage :=
  { page with
    requests := page.requests.map fun request =>
      if page.backendRequestRef = some request.id then { request with aborted := true }
      else request }

/-- `beginBackendRequest`, and the request that is sent with its signal. -/
def beginBackendRequest (page : VideoTestPage) (texts : TrialTexts) : VideoTestPage :=
  let aborted := page.abortRequest
  { aborted with
    backendRequestRef := some aborted.nextRequest
    backendMessage := none
    isSubmittingBackendJob := true
    requests := { id := aborted.nextRequest, aborted := false, texts } :: aborted.requests
    nextRequest := aborted.nextRequest + 1 }

/-- `endBackendRequest`. -/
def endBackendRequest (page : VideoTestPage) (request : ℕ) : VideoTestPage :=
  if page.backendRequestRef = some request then
    { page with backendRequestRef := none, isSubmittingBackendJob := false }
  else page

/-- `handleFileSelected` and `handleUrlSubmitted`. -/
def submit (page : VideoTestPage) (texts : TrialTexts) : VideoTestPage :=
  { page with analysis := page.analysis.startSimulation texts }.beginBackendRequest texts

/-- `then`, `catch` and `finally` of a request that has come to an end. -/
def settle (page : VideoTestPage) (request : TrialRequest) (answer : BackendAnswer) :
    VideoTestPage :=
  let ended := { page with requests := page.requests.filter fun other => other.id ≠ request.id }
  let shown :=
    match answer with
    | .accepted => { ended with backendMessage := none }
    | .failed status =>
        if request.aborted then ended
        else
          { ended with
            backendMessage := some (formatSecureError request.texts status)
            failures := (request.id, formatSecureError request.texts status) :: ended.failures }
  shown.endBackendRequest request.id

/-- `handleReset`. -/
def handleReset (page : VideoTestPage) : VideoTestPage :=
  { page.abortRequest with
    backendRequestRef := none
    isSubmittingBackendJob := false
    backendMessage := none
    analysis := page.analysis.resetSimulation }

/-- What the effects do when the page is left. -/
def unmount (page : VideoTestPage) : VideoTestPage :=
  { page.abortRequest with
    analysis := page.analysis.clearSimulationInterval
    mounted := false }

/-- One step.  The inputs are on the page while it is idle and the button that resets it is
there otherwise, but nothing below depends on that. -/
def step (page : VideoTestPage) : TrialEvent → Option VideoTestPage
  | .changeTab tab => if page.mounted = true then some { page with activeTab := tab } else none
  | .submit texts => if page.mounted = true then some (page.submit texts) else none
  | .tick interval draws =>
      (page.analysis.intervals.find? fun timer => timer.1 = interval).map fun timer =>
        { page with analysis := page.analysis.tick timer.2 draws }
  | .answered id answer =>
      (page.requests.find? fun request => request.id = id).bind fun request =>
        -- a request that was aborted does not succeed any more
        if request.aborted = true ∧ answer = .accepted then none
        else some (page.settle request answer)
  | .reset => if page.mounted = true then some page.handleReset else none
  | .unmount => if page.mounted = true then some page.unmount else none

/-- Whether the page says that the video is being submitted: where it shows the progress. -/
def noticeShown (page : VideoTestPage) : Prop :=
  page.mounted = true ∧ page.analysis.phase = .processing ∧ page.isSubmittingBackendJob = true

/-- The message on the page, in the same place. -/
def messageShown (page : VideoTestPage) : Option String :=
  if page.mounted = true ∧ page.analysis.phase = .processing then
    page.backendMessage.filter fun text => text ≠ ""
  else none

/-- `buildVideoTestReport`. -/
def report (page : VideoTestPage) : VideoTestReport where
  testName := "Simulated Video Detections Run"
  totalPersons := page.analysis.stats.persons
  totalFires := page.analysis.stats.fires
  totalObjects := page.analysis.stats.objects
  averageFps := page.analysis.stats.fps
  detectionsTimeline := page.analysis.timelineData
  capturedKeyframeCrops := page.analysis.crops

end VideoTestPage

/-! ## The frames that are analysed -/

/-- The percentages up to a given one at which a frame is analysed. -/
def analysisMarks (percent : ℕ) : List ℕ :=
  (List.range ((min percent analysisCompletePercent - decoderReadyPercent) /
    progressStepPercent)).map fun k => decoderReadyPercent + progressStepPercent * (k + 1)

example : analysisMarks 100 = [45, 50, 55, 60, 65, 70, 75, 80] := by decide

theorem analysisMarks_of_analysed {k : ℕ} (after : 7 < k) (before : k ≤ 15) :
    analysisMarks (5 + 5 * k) = analysisMarks (5 * k) ++ [5 + 5 * k] := by
  have next : (min (5 + 5 * k) 80 - 40) / 5 = (min (5 * k) 80 - 40) / 5 + 1 := by omega
  have last : 40 + 5 * ((min (5 * k) 80 - 40) / 5 + 1) = 5 + 5 * k := by omega
  unfold analysisMarks analysisCompletePercent decoderReadyPercent progressStepPercent
  rw [next, List.range_succ, List.map_append, List.map_singleton, last]

theorem analysisMarks_of_not_analysed {k : ℕ} (outside : k ≤ 7 ∨ 15 < k) :
    analysisMarks (5 + 5 * k) = analysisMarks (5 * k) := by
  have same : (min (5 + 5 * k) 80 - 40) / 5 = (min (5 * k) 80 - 40) / 5 := by omega
  unfold analysisMarks analysisCompletePercent decoderReadyPercent progressStepPercent
  rw [same]

namespace MutableSimulationState

/-- The counts are those of the timeline, and the timeline has one entry for each frame
that was to be analysed so far. -/
structure Consistent (simulation : MutableSimulationState) : Prop where
  percent : ∃ k ≤ 19, simulation.progressPercent = 5 + 5 * k
  persons : simulation.personCount = (simulation.timeline.map TimelineEntry.persons).sum
  fires : simulation.fireCount = (simulation.timeline.map TimelineEntry.fires).sum
  objects : simulation.objectCount = (simulation.timeline.map TimelineEntry.objects).sum
  seconds : simulation.timeline.map TimelineEntry.second =
    (analysisMarks simulation.progressPercent).map fun mark =>
      (mark - decoderReadyPercent) / analysisSecondsDivisor
  marks : simulation.timeline.map TimelineEntry.fires =
    (analysisMarks simulation.progressPercent).map fun mark =>
      if mark ∈ fireDetectionProgressMarks then 1 else 0

theorem consistent_initial : initial.Consistent where
  percent := ⟨0, Nat.zero_le _, rfl⟩
  persons := rfl
  fires := rfl
  objects := rfl
  seconds := rfl
  marks := rfl

variable {simulation : MutableSimulationState}

/-- A tick without a frame. -/
theorem Consistent.advance (consistent : simulation.Consistent)
    (more : simulation.progressPercent < finalProgressPercent)
    (outside : simulation.advance.progressPercent ≤ decoderReadyPercent ∨
      analysisCompletePercent < simulation.advance.progressPercent) :
    simulation.advance.Consistent := by
  obtain ⟨k, small, percent⟩ := consistent.percent
  change simulation.progressPercent < 100 at more
  change simulation.progressPercent + 5 ≤ 40 ∨ 80 < simulation.progressPercent + 5 at outside
  have next : simulation.progressPercent + 5 = 5 + 5 * (k + 1) := by omega
  have same : analysisMarks (simulation.progressPercent + 5) =
      analysisMarks simulation.progressPercent := by
    rw [next, analysisMarks_of_not_analysed (by omega), percent, Nat.mul_add_one, Nat.add_comm]
  exact
    { percent := ⟨k + 1, by omega, next⟩
      persons := consistent.persons
      fires := consistent.fires
      objects := consistent.objects
      seconds := consistent.seconds.trans (by rw [← same]; rfl)
      marks := consistent.marks.trans (by rw [← same]; rfl) }

/-- A tick with a frame. -/
theorem Consistent.record (consistent : simulation.Consistent) (draws : Draws)
    (after : decoderReadyPercent < simulation.advance.progressPercent)
    (before : simulation.advance.progressPercent ≤ analysisCompletePercent) :
    (simulation.advance.record (simulation.advance.entry draws)).Consistent := by
  obtain ⟨k, small, percent⟩ := consistent.percent
  change 40 < simulation.progressPercent + 5 at after
  change simulation.progressPercent + 5 ≤ 80 at before
  have next : simulation.progressPercent + 5 = 5 + 5 * (k + 1) := by omega
  have longer : analysisMarks (simulation.progressPercent + 5) =
      analysisMarks simulation.progressPercent ++ [simulation.progressPercent + 5] := by
    rw [next, analysisMarks_of_analysed (by omega) (by omega), percent, Nat.mul_add_one,
      Nat.add_comm (5 * k)]
  exact
    { percent := ⟨k + 1, by omega, next⟩
      persons := by simp [MutableSimulationState.record, MutableSimulationState.advance,
        consistent.persons]
      fires := by simp [MutableSimulationState.record, MutableSimulationState.advance,
        consistent.fires]
      objects := by simp [MutableSimulationState.record, MutableSimulationState.advance,
        consistent.objects]
      seconds := by
        simp [MutableSimulationState.record, MutableSimulationState.advance,
          MutableSimulationState.entry, progressStepPercent, longer, consistent.seconds]
      marks := by
        simp [MutableSimulationState.record, MutableSimulationState.advance,
          MutableSimulationState.entry, progressStepPercent, longer, consistent.marks]
        rfl }

/-- What is shown of the counts. -/
structure Counted (simulation : MutableSimulationState) (stats : DetectionStats) : Prop where
  persons : stats.persons = simulation.personCount
  fires : stats.fires = simulation.fireCount
  objects : stats.objects = simulation.objectCount
  fps : simulation.timeline ≠ [] → baseFps ≤ stats.fps ∧ stats.fps ≤ baseFps + fpsJitter

theorem counted_initial : Counted initial initialStats where
  persons := rfl
  fires := rfl
  objects := rfl
  fps nonempty := absurd rfl nonempty

end MutableSimulationState

/-! ## The timer -/

namespace VideoAnalysis

/-- At most one timer is set, the one that is known, and only while a video is processed. -/
structure Timed (view : VideoAnalysis) : Prop where
  known : view.intervals.map Prod.fst = view.intervalRef.toList
  running : view.intervalRef ≠ none → view.phase = .processing

/-- While it is processed. -/
structure Underway (view : VideoAnalysis) : Prop where
  percent : view.simulationRef.progressPercent < finalProgressPercent
  progress : view.progressPercent = view.simulationRef.progressPercent
  timeline : view.timelineData = []
  crops : view.crops = []
  counted : view.simulationRef.Counted view.stats

/-- When it has been processed. -/
structure Finished (view : VideoAnalysis) : Prop where
  percent : view.simulationRef.progressPercent = finalProgressPercent
  progress : view.progressPercent = finalProgressPercent
  timeline : view.timelineData = view.simulationRef.timeline
  crops : view.crops =
    buildCropGallery view.simulationRef.personCount view.simulationRef.fireCount
  counted : view.simulationRef.Counted view.stats

/-- Before, and after a reset. -/
structure Blank (view : VideoAnalysis) : Prop where
  statusText : view.statusText = ""
  progress : view.progressPercent = 0
  stats : view.stats = initialStats
  timeline : view.timelineData = []
  crops : view.crops = []

/-- What every step keeps. -/
structure Sound (view : VideoAnalysis) : Prop extends Timed view where
  consistent : view.simulationRef.Consistent
  underway : view.phase = .processing → view.Underway
  finished : view.phase = .success → view.Finished
  blank : view.phase = .idle → view.Blank

variable {view : VideoAnalysis}

theorem sound_start : start.Sound where
  known := rfl
  running known := absurd rfl known
  consistent := MutableSimulationState.consistent_initial
  underway phase := by cases phase
  finished phase := by cases phase
  blank _ := ⟨rfl, rfl, rfl, rfl, rfl⟩

/-- The only timer that can be set is cleared. -/
theorem Timed.cleared (timed : view.Timed) :
    view.clearSimulationInterval = { view with intervals := [], intervalRef := none } := by
  obtain ⟨phase, statusText, progressPercent, stats, timelineData, crops, intervalRef,
    simulationRef,
    intervals, nextInterval⟩ := view
  have known : intervals.map Prod.fst = intervalRef.toList := timed.known
  cases intervalRef with
  | none =>
      cases List.map_eq_nil_iff.mp known
      rfl
  | some interval =>
      have alone : ∀ timer ∈ intervals, timer.1 = interval := fun timer member => by
        have id : timer.1 ∈ intervals.map Prod.fst := List.mem_map_of_mem member
        rw [known] at id
        exact List.mem_singleton.mp id
      have gone : (intervals.filter fun timer => timer.1 ≠ interval) = [] :=
        List.filter_eq_nil_iff.mpr fun timer member => by simp [alone timer member]
      simp only [clearSimulationInterval, gone]

theorem Sound.startSimulation (sound : view.Sound) (texts : TrialTexts) :
    (view.startSimulation texts).Sound := by
  have begun : initialProgressPercent < finalProgressPercent := by decide
  rw [VideoAnalysis.startSimulation, sound.toTimed.cleared]
  exact
    { known := rfl
      running := fun _ => rfl
      consistent := MutableSimulationState.consistent_initial
      underway := fun _ => ⟨begun, rfl, rfl, rfl, MutableSimulationState.counted_initial⟩
      finished := fun phase => by cases phase
      blank := fun phase => by cases phase }

theorem Sound.resetSimulation (sound : view.Sound) : view.resetSimulation.Sound := by
  rw [VideoAnalysis.resetSimulation, sound.toTimed.cleared]
  exact
    { known := rfl
      running := fun known => absurd rfl known
      consistent := sound.consistent
      underway := fun phase => by cases phase
      finished := fun phase => by cases phase
      blank := fun _ => ⟨rfl, rfl, rfl, rfl, rfl⟩ }

theorem Sound.clearSimulationInterval (sound : view.Sound) :
    view.clearSimulationInterval.Sound := by
  rw [sound.toTimed.cleared]
  exact
    { known := rfl
      running := fun known => absurd rfl known
      consistent := sound.consistent
      underway := fun phase => ⟨(sound.underway phase).percent, (sound.underway phase).progress,
        (sound.underway phase).timeline, (sound.underway phase).crops,
        (sound.underway phase).counted⟩
      finished := fun phase => ⟨(sound.finished phase).percent, (sound.finished phase).progress,
        (sound.finished phase).timeline, (sound.finished phase).crops,
        (sound.finished phase).counted⟩
      blank := fun phase => ⟨(sound.blank phase).statusText, (sound.blank phase).progress,
        (sound.blank phase).stats, (sound.blank phase).timeline, (sound.blank phase).crops⟩ }

/-- A tick between two others at which no frame is analysed. -/
theorem Sound.wait (sound : view.Sound) (phase : view.phase = .processing) (statusText : String)
    (more : view.simulationRef.advance.progressPercent < finalProgressPercent)
    (outside : view.simulationRef.advance.progressPercent ≤ decoderReadyPercent ∨
      analysisCompletePercent < view.simulationRef.advance.progressPercent) :
    ({ view with
        simulationRef := view.simulationRef.advance
        statusText
        progressPercent :=
          min view.simulationRef.advance.progressPercent finalProgressPercent } :
      VideoAnalysis).Sound := by
  have underway := sound.underway phase
  exact
    { known := sound.known
      running := sound.running
      consistent := sound.consistent.advance underway.percent outside
      underway := fun _ => ⟨more, Nat.min_eq_left more.le, underway.timeline, underway.crops,
        underway.counted.persons, underway.counted.fires, underway.counted.objects,
        underway.counted.fps⟩
      finished := fun done => by rw [phase] at done; cases done
      blank := fun idle => by rw [phase] at idle; cases idle }

/-- The frames per second that are drawn; the largest draws are rounded up to the bound. -/
theorem fps_between (draw : Draw) :
    baseFps ≤ toNumber (baseFps + draw.1 * fpsJitter) ∧
      toNumber (baseFps + draw.1 * fpsJitter) ≤ baseFps + fpsJitter := by
  obtain ⟨⟨nonneg, below⟩, -⟩ := draw.2
  -- both bounds are numbers themselves: between 16 and 32 the unit is `2 ^ (4 - 52)`
  have least : baseFps = (57 * 2 ^ 47 : ℕ) / 2 ^ (52 - 4) := by norm_num [baseFps]
  have most : baseFps + fpsJitter = (61 * 2 ^ 47 : ℕ) / 2 ^ (52 - 4) := by
    norm_num [baseFps, fpsJitter]
  have above : baseFps ≤ baseFps + draw.1 * fpsJitter := by
    unfold fpsJitter
    linarith
  have within : baseFps + draw.1 * fpsJitter ≤ baseFps + fpsJitter := by
    unfold fpsJitter
    linarith
  rw [most] at within ⊢
  nth_rewrite 1 [least] at above ⊢
  refine toNumber_between (by decide) (le_trans ?_ above) (lt_of_le_of_lt within ?_) above within
  · norm_num
  · norm_num

/-- A tick at which a frame is analysed. -/
theorem Sound.analyze (sound : view.Sound) (phase : view.phase = .processing) (texts : TrialTexts)
    (draws : Draws) (after : decoderReadyPercent < view.simulationRef.advance.progressPercent)
    (before : view.simulationRef.advance.progressPercent ≤ analysisCompletePercent) :
    ({ view.analyze texts view.simulationRef.advance draws with
        progressPercent :=
          min view.simulationRef.advance.progressPercent finalProgressPercent } :
      VideoAnalysis).Sound := by
  have underway := sound.underway phase
  have more : view.simulationRef.advance.progressPercent < finalProgressPercent :=
    before.trans_lt (by decide)
  exact
    { known := sound.known
      running := sound.running
      consistent := sound.consistent.record draws after before
      underway := fun _ => ⟨more, Nat.min_eq_left more.le, underway.timeline, underway.crops,
        rfl, rfl, rfl, fun _ => fps_between draws.fps⟩
      finished := fun done => by
        have same : view.phase = .success := done
        rw [phase] at same
        cases same
      blank := fun idle => by
        have same : view.phase = .idle := idle
        rw [phase] at same
        cases same }

/-- The last tick. -/
theorem Sound.finish (sound : view.Sound) (phase : view.phase = .processing)
    (full : finalProgressPercent ≤ view.simulationRef.advance.progressPercent) :
    ({ ({ view with simulationRef := view.simulationRef.advance } :
        VideoAnalysis).finishSimulation with
        progressPercent :=
          min view.simulationRef.advance.progressPercent finalProgressPercent } :
      VideoAnalysis).Sound := by
  have underway := sound.underway phase
  have timed : ({ view with simulationRef := view.simulationRef.advance } : VideoAnalysis).Timed :=
    ⟨sound.known, sound.running⟩
  have consistent : view.simulationRef.advance.Consistent :=
    sound.consistent.advance underway.percent (.inr (lt_of_lt_of_le (by decide) full))
  have exactly : view.simulationRef.advance.progressPercent = finalProgressPercent := by
    obtain ⟨k, small, percent⟩ := consistent.percent
    change 100 ≤ view.simulationRef.advance.progressPercent at full
    change view.simulationRef.advance.progressPercent = 100
    omega
  rw [finishSimulation, timed.cleared]
  exact
    { known := rfl
      running := fun known => absurd rfl known
      consistent := consistent
      underway := fun running => by cases running
      finished := fun _ => ⟨exactly, Nat.min_eq_right full, rfl, rfl, underway.counted.persons,
        underway.counted.fires, underway.counted.objects, underway.counted.fps⟩
      blank := fun idle => by cases idle }

/-- **A tick.** -/
theorem Sound.tick (sound : view.Sound) (phase : view.phase = .processing) (texts : TrialTexts)
    (draws : Draws) : (view.tick texts draws).Sound := by
  unfold VideoAnalysis.tick
  dsimp only
  split
  · rename_i uploading
    exact sound.wait phase texts.uploading (uploading.trans_lt (by decide))
      (.inl (uploading.trans (by decide)))
  · split
    · rename_i ready
      exact sound.wait phase texts.initDecoder (ready.trans_lt (by decide)) (.inl ready)
    · rename_i decoded
      split
      · rename_i analysed
        exact sound.analyze phase texts draws (Nat.lt_of_not_le decoded) analysed
      · rename_i complete
        split
        · rename_i more
          exact sound.wait phase texts.aggregating more (.inr (Nat.lt_of_not_le complete))
        · rename_i full
          exact sound.finish phase (Nat.le_of_not_lt full)

/-- A timer that is set is the one that is known, and a video is processed. -/
theorem Timed.of_mem (timed : view.Timed) {timer : ℕ × TrialTexts}
    (member : timer ∈ view.intervals) :
    view.intervalRef = some timer.1 ∧ view.phase = .processing := by
  have id : timer.1 ∈ view.intervals.map Prod.fst := List.mem_map_of_mem member
  rw [timed.known] at id
  have known : view.intervalRef = some timer.1 := Option.mem_toList.mp id
  exact ⟨known, timed.running (known ▸ Option.some_ne_none _)⟩

/-- A tick before the last one leaves its timer set. -/
theorem tick_of_more (texts : TrialTexts) (draws : Draws)
    (more : view.simulationRef.advance.progressPercent < finalProgressPercent) :
    (view.tick texts draws).phase = view.phase ∧
      (view.tick texts draws).intervalRef = view.intervalRef ∧
      (view.tick texts draws).intervals = view.intervals ∧
      (view.tick texts draws).simulationRef.progressPercent =
        view.simulationRef.progressPercent + progressStepPercent := by
  unfold tick
  dsimp only
  split_ifs <;> exact ⟨rfl, rfl, rfl, rfl⟩

/-- The last tick ends the phase. -/
theorem tick_of_full (texts : TrialTexts) (draws : Draws)
    (full : finalProgressPercent ≤ view.simulationRef.advance.progressPercent) :
    (view.tick texts draws).phase = .success := by
  have complete : ¬ view.simulationRef.advance.progressPercent ≤ analysisCompletePercent :=
    fun less => absurd (full.trans less) (by decide)
  have decoded : ¬ view.simulationRef.advance.progressPercent ≤ decoderReadyPercent :=
    fun less => absurd (full.trans less) (by decide)
  have uploaded : ¬ view.simulationRef.advance.progressPercent ≤ uploadCompletePercent :=
    fun less => absurd (full.trans less) (by decide)
  unfold tick
  simp only [if_neg uploaded, if_neg decoded, if_neg complete, if_neg (Nat.not_lt.mpr full)]
  rfl

end VideoAnalysis

/-! ## The request -/

namespace VideoTestPage

/-- What every step keeps. -/
structure Sound (page : VideoTestPage) : Prop where
  analysis : page.analysis.Sound
  live : page.mounted = true → page.analysis.phase = .processing →
    page.analysis.intervalRef ≠ none
  left : page.mounted = false → page.analysis.intervalRef = none ∧
    ∀ request ∈ page.requests, request.aborted = true
  current : ∀ request ∈ page.requests, request.aborted = false →
    page.backendRequestRef = some request.id ∧ request.id + 1 = page.nextRequest ∧
      page.analysis.phase ≠ .idle
  known : page.mounted = true → ∀ id, page.backendRequestRef = some id →
    ∃ request ∈ page.requests, request.id = id ∧ request.aborted = false
  unaborted : page.mounted = true → ∀ request ∈ page.requests,
    page.backendRequestRef = some request.id → request.aborted = false
  submitting : page.mounted = true →
    (page.isSubmittingBackendJob = true ↔ page.backendRequestRef ≠ none)
  fresh : ∀ request ∈ page.requests, request.id < page.nextRequest
  banner : ∀ text, page.backendMessage = some text → page.analysis.phase ≠ .idle ∧
    ∃ id, id + 1 = page.nextRequest ∧ (id, text) ∈ page.failures
  ended : ∀ failure ∈ page.failures, failure.1 < page.nextRequest ∧
    ∀ request ∈ page.requests, request.id ≠ failure.1
  once : (page.failures.map Prod.fst).Nodup

variable {page : VideoTestPage}

theorem sound_start : start.Sound where
  analysis := VideoAnalysis.sound_start
  live _ phase := by cases phase
  left mounted := by cases mounted
  current _ member := by cases member
  known _ _ ref := by cases ref
  unaborted _ _ member := by cases member
  submitting _ := ⟨fun submitting => (by cases submitting), fun known => absurd rfl known⟩
  fresh _ member := by cases member
  banner _ shown := by cases shown
  ended _ member := by cases member
  once := List.nodup_nil

/-- After an abort no request is left that could still show anything. -/
theorem Sound.aborted (sound : page.Sound) :
    ∀ request ∈ page.abortRequest.requests, request.aborted = true := by
  intro request member
  obtain ⟨before, listed, rfl⟩ := List.mem_map.mp member
  split
  · rfl
  · rename_i other
    by_contra live
    exact other (sound.current before listed (Bool.eq_false_of_not_eq_true live)).1

theorem Sound.changeTab (sound : page.Sound) (tab : VideoTestTab) :
    ({ page with activeTab := tab } : VideoTestPage).Sound :=
  { sound with }

/-- An abort does not change what a request is called. -/
theorem exists_of_mem_abortRequest {request : TrialRequest}
    (member : request ∈ page.abortRequest.requests) :
    ∃ before ∈ page.requests, before.id = request.id := by
  obtain ⟨before, listed, rfl⟩ := List.mem_map.mp member
  exact ⟨before, listed, by split <;> rfl⟩

theorem Sound.submit (sound : page.Sound) (mounted : page.mounted = true) (texts : TrialTexts) :
    (page.submit texts).Sound := by
  have aborted := sound.aborted
  exact
    { analysis := sound.analysis.startSimulation texts
      live := fun _ _ => Option.some_ne_none _
      left := fun left => by
        have away : page.mounted = false := left
        rw [mounted] at away
        cases away
      current := fun request member live => by
        rcases List.mem_cons.mp member with rfl | older
        · exact ⟨rfl, rfl, fun idle => by cases idle⟩
        · rw [aborted request older] at live
          cases live
      known := fun _ id known => ⟨_, List.mem_cons_self, Option.some.inj known, rfl⟩
      unaborted := fun _ request member known => by
        rcases List.mem_cons.mp member with rfl | older
        · rfl
        · obtain ⟨before, listed, same⟩ := exists_of_mem_abortRequest older
          have new : page.nextRequest = request.id := Option.some.inj known
          exact absurd (same.trans new.symm) (sound.fresh before listed).ne
      submitting := fun _ => ⟨fun _ => Option.some_ne_none _, fun _ => rfl⟩
      fresh := fun request member => by
        rcases List.mem_cons.mp member with rfl | older
        · exact Nat.lt_succ_self _
        · obtain ⟨before, listed, same⟩ := exists_of_mem_abortRequest older
          exact same ▸ (sound.fresh before listed).trans (Nat.lt_succ_self _)
      banner := fun _ shown => by cases shown
      ended := fun failure member => ⟨(sound.ended failure member).1.trans (Nat.lt_succ_self _),
        fun request listed => by
          rcases List.mem_cons.mp listed with rfl | older
          · exact (sound.ended failure member).1.ne'
          · obtain ⟨before, found, same⟩ := exists_of_mem_abortRequest older
            exact same ▸ (sound.ended failure member).2 before found⟩
      once := sound.once }

theorem Sound.handleReset (sound : page.Sound) (mounted : page.mounted = true) :
    page.handleReset.Sound := by
  have aborted := sound.aborted
  exact
    { analysis := sound.analysis.resetSimulation
      live := fun _ phase => by cases phase
      left := fun left => by
        have away : page.mounted = false := left
        rw [mounted] at away
        cases away
      current := fun request member live => by
        rw [aborted request member] at live
        cases live
      known := fun _ id known => by cases known
      unaborted := fun _ _ _ known => by cases known
      submitting := fun _ =>
        ⟨fun submitting => (by cases submitting), fun known => absurd rfl known⟩
      fresh := fun request member => by
        obtain ⟨before, listed, same⟩ := exists_of_mem_abortRequest member
        exact same ▸ sound.fresh before listed
      banner := fun _ shown => by cases shown
      ended := fun failure member => ⟨(sound.ended failure member).1, fun request listed => by
        obtain ⟨before, found, same⟩ := exists_of_mem_abortRequest listed
        exact same ▸ (sound.ended failure member).2 before found⟩
      once := sound.once }

theorem Sound.unmount (sound : page.Sound) : page.unmount.Sound := by
  have aborted := sound.aborted
  have cleared := sound.analysis.toTimed.cleared
  exact
    { analysis := sound.analysis.clearSimulationInterval
      live := fun mounted => by cases mounted
      left := fun _ => ⟨congrArg VideoAnalysis.intervalRef cleared, aborted⟩
      current := fun request member live => by
        rw [aborted request member] at live
        cases live
      known := fun mounted => by cases mounted
      unaborted := fun mounted => by cases mounted
      submitting := fun mounted => by cases mounted
      fresh := fun request member => by
        obtain ⟨before, listed, same⟩ := exists_of_mem_abortRequest member
        exact same ▸ sound.fresh before listed
      banner := fun text shown => by
        obtain ⟨phase, failed⟩ := sound.banner text shown
        exact ⟨(congrArg VideoAnalysis.phase cleared).trans_ne phase, failed⟩
      ended := fun failure member => ⟨(sound.ended failure member).1, fun request listed => by
        obtain ⟨before, found, same⟩ := exists_of_mem_abortRequest listed
        exact same ▸ (sound.ended failure member).2 before found⟩
      once := sound.once }

theorem Sound.tick (sound : page.Sound) {timer : ℕ × TrialTexts}
    (member : timer ∈ page.analysis.intervals) (draws : Draws) :
    ({ page with analysis := page.analysis.tick timer.2 draws } : VideoTestPage).Sound := by
  obtain ⟨known, phase⟩ := sound.analysis.toTimed.of_mem member
  have shown : (page.analysis.tick timer.2 draws).phase ≠ .idle := by
    by_cases more : page.analysis.simulationRef.advance.progressPercent < finalProgressPercent
    · rw [(VideoAnalysis.tick_of_more timer.2 draws more).1, phase]
      decide
    · rw [VideoAnalysis.tick_of_full timer.2 draws (Nat.le_of_not_lt more)]
      decide
  exact
    { sound with
      analysis := sound.analysis.tick phase timer.2 draws
      live := fun mounted running => by
        by_cases more : page.analysis.simulationRef.advance.progressPercent < finalProgressPercent
        · exact (VideoAnalysis.tick_of_more timer.2 draws more).2.1.trans_ne
            (sound.live mounted phase)
        · have done := VideoAnalysis.tick_of_full timer.2 draws (Nat.le_of_not_lt more)
          exact absurd (done.symm.trans running) (by decide)
      left := fun left => by
        have off := (sound.left left).1
        rw [known] at off
        cases off
      current := fun request listed live =>
        ⟨(sound.current request listed live).1, (sound.current request listed live).2.1, shown⟩
      banner := fun text displayed => ⟨shown, (sound.banner text displayed).2⟩ }

/-- A request that was not aborted comes to its end. -/
theorem Sound.finish (sound : page.Sound) {request : TrialRequest}
    (member : request ∈ page.requests) (live : request.aborted = false)
    {message : Option String} {failures : List (ℕ × String)}
    (banner : ∀ text, message = some text → (request.id, text) ∈ failures)
    (ended : ∀ failure ∈ failures, failure ∈ page.failures ∨ failure.1 = request.id)
    (once : (failures.map Prod.fst).Nodup) :
    ({ page with
        requests := page.requests.filter fun other => other.id ≠ request.id
        backendMessage := message
        failures
        backendRequestRef := none
        isSubmittingBackendJob := false } : VideoTestPage).Sound := by
  obtain ⟨known, newest, shown⟩ := sound.current request member live
  have kept : ∀ other ∈ page.requests.filter fun other => other.id ≠ request.id,
      other ∈ page.requests ∧ other.id ≠ request.id := fun other listed => by
    obtain ⟨before, different⟩ := List.mem_filter.mp listed
    exact ⟨before, of_decide_eq_true different⟩
  exact
    { analysis := sound.analysis
      live := sound.live
      left := fun left => by
        rw [(sound.left left).2 request member] at live
        cases live
      current := fun other listed waiting => by
        have same := (sound.current other (kept other listed).1 waiting).1
        rw [known] at same
        exact absurd (Option.some.inj same).symm (kept other listed).2
      known := fun _ id ref => by cases ref
      unaborted := fun _ _ _ ref => by cases ref
      submitting := fun _ =>
        ⟨fun submitting => (by cases submitting), fun ref => absurd rfl ref⟩
      fresh := fun other listed => sound.fresh other (kept other listed).1
      banner := fun text displayed => ⟨shown, request.id, newest, banner text displayed⟩
      ended := fun failure listed => by
        rcases ended failure listed with earlier | same
        · exact ⟨(sound.ended failure earlier).1, fun other found =>
            (sound.ended failure earlier).2 other (kept other found).1⟩
        · rw [same]
          exact ⟨sound.fresh request member, fun other found => (kept other found).2⟩
      once := once }

/-- A request that was aborted comes to its end. -/
theorem Sound.discard (sound : page.Sound) {request : TrialRequest}
    (member : request ∈ page.requests) (aborted : request.aborted = true) :
    (({ page with requests := page.requests.filter fun other => other.id ≠ request.id } :
      VideoTestPage).endBackendRequest request.id).Sound := by
  have other : page.mounted = true → page.backendRequestRef ≠ some request.id :=
    fun mounted known => by
      rw [sound.unaborted mounted request member known] at aborted
      cases aborted
  have kept : ∀ other ∈ page.requests.filter fun other => other.id ≠ request.id,
      other ∈ page.requests := fun other listed => (List.mem_filter.mp listed).1
  have ended : ∀ failure ∈ page.failures, failure.1 < page.nextRequest ∧
      ∀ other ∈ page.requests.filter fun other => other.id ≠ request.id, other.id ≠ failure.1 :=
    fun failure listed => ⟨(sound.ended failure listed).1, fun other found =>
      (sound.ended failure listed).2 other (kept other found)⟩
  unfold endBackendRequest
  split
  · rename_i known
    have away : page.mounted = false := Bool.eq_false_of_not_eq_true fun mounted =>
      other mounted known
    exact
      { sound with
        left := fun left => ⟨(sound.left left).1, fun other listed =>
          (sound.left left).2 other (kept other listed)⟩
        current := fun other listed live => by
          rw [(sound.left away).2 other (kept other listed)] at live
          cases live
        known := fun _ id ref => by cases ref
        unaborted := fun _ _ _ ref => by cases ref
        submitting := fun _ =>
          ⟨fun submitting => (by cases submitting), fun ref => absurd rfl ref⟩
        fresh := fun other listed => sound.fresh other (kept other listed)
        ended := ended }
  · exact
      { sound with
        left := fun left => ⟨(sound.left left).1, fun other listed =>
          (sound.left left).2 other (kept other listed)⟩
        current := fun other listed => sound.current other (kept other listed)
        known := fun mounted id ref => by
          obtain ⟨found, listed, same, live⟩ := sound.known mounted id ref
          refine ⟨found, List.mem_filter.mpr ⟨listed, decide_eq_true fun equal => ?_⟩, same, live⟩
          exact other mounted (by rw [ref, ← same, equal])
        unaborted := fun mounted other listed => sound.unaborted mounted other (kept other listed)
        fresh := fun other listed => sound.fresh other (kept other listed)
        ended := ended }

theorem Sound.settle (sound : page.Sound) {request : TrialRequest}
    (member : request ∈ page.requests) {answer : BackendAnswer}
    (possible : request.aborted = true → answer ≠ .accepted) :
    (page.settle request answer).Sound := by
  by_cases aborted : request.aborted = true
  · cases answer with
    | accepted => exact absurd rfl (possible aborted)
    | failed status =>
        simp only [VideoTestPage.settle, if_pos aborted]
        exact sound.discard member aborted
  · have live : request.aborted = false := Bool.eq_false_of_not_eq_true aborted
    have known := (sound.current request member live).1
    have new : request.id ∉ page.failures.map Prod.fst := fun listed => by
      obtain ⟨failure, found, same⟩ := List.mem_map.mp listed
      exact (sound.ended failure found).2 request member same.symm
    cases answer with
    | accepted =>
        simp only [VideoTestPage.settle, endBackendRequest, if_pos known]
        exact sound.finish member live (fun _ shown => by cases shown) (fun _ => .inl) sound.once
    | failed status =>
        simp only [VideoTestPage.settle, if_neg aborted, endBackendRequest, if_pos known]
        refine sound.finish member live (fun text shown => ?_) (fun failure listed => ?_)
          (List.nodup_cons.mpr ⟨new, sound.once⟩)
        · exact Option.some.inj shown ▸ List.mem_cons_self
        · rcases List.mem_cons.mp listed with rfl | earlier
          · exact .inr rfl
          · exact .inl earlier

/-- **One step.** -/
theorem Sound.step (sound : page.Sound) {event : TrialEvent} {after : VideoTestPage}
    (stepped : page.step event = some after) : after.Sound := by
  cases event with
  | changeTab tab =>
      rw [VideoTestPage.step, Option.ite_none_right_eq_some] at stepped
      obtain ⟨-, ⟨⟩⟩ := stepped
      exact sound.changeTab tab
  | submit texts =>
      rw [VideoTestPage.step, Option.ite_none_right_eq_some] at stepped
      obtain ⟨mounted, ⟨⟩⟩ := stepped
      exact sound.submit mounted texts
  | tick interval draws =>
      rw [VideoTestPage.step, Option.map_eq_some_iff] at stepped
      obtain ⟨timer, found, rfl⟩ := stepped
      exact sound.tick (List.mem_of_find?_eq_some found) draws
  | answered id answer =>
      rw [VideoTestPage.step, Option.bind_eq_some_iff] at stepped
      obtain ⟨request, found, stepped⟩ := stepped
      rw [Option.ite_none_left_eq_some] at stepped
      obtain ⟨possible, ⟨⟩⟩ := stepped
      exact sound.settle (List.mem_of_find?_eq_some found) fun aborted accepted =>
        possible ⟨aborted, accepted⟩
  | reset =>
      rw [VideoTestPage.step, Option.ite_none_right_eq_some] at stepped
      obtain ⟨mounted, ⟨⟩⟩ := stepped
      exact sound.handleReset mounted
  | unmount =>
      rw [VideoTestPage.step, Option.ite_none_right_eq_some] at stepped
      obtain ⟨-, ⟨⟩⟩ := stepped
      exact sound.unmount

/-- **A run.** -/
theorem sound_of_run {events : List TrialEvent} (reached : runFrom step start events = some page) :
    page.Sound :=
  runFrom_invariant (fun _ _ _ sound stepped => sound.step stepped) sound_start reached

end VideoTestPage

/-! ## What is shown -/

/-- **A complete report**: one entry for each analysed frame, two of them with a fire, and
totals that are the sums of the entries. -/
structure VideoTestReport.Complete (report : VideoTestReport) : Prop where
  seconds : report.detectionsTimeline.map TimelineEntry.second = [1, 2, 3, 5, 6, 7, 8, 10]
  persons : report.totalPersons = (report.detectionsTimeline.map TimelineEntry.persons).sum
  fires : report.totalFires = (report.detectionsTimeline.map TimelineEntry.fires).sum
  objects : report.totalObjects = (report.detectionsTimeline.map TimelineEntry.objects).sum
  twoFires : report.totalFires = 2
  fps : baseFps ≤ report.averageFps ∧ report.averageFps ≤ baseFps + fpsJitter
  crops : report.capturedKeyframeCrops = buildCropGallery report.totalPersons report.totalFires

theorem VideoAnalysis.Sound.complete {page : VideoTestPage} (sound : page.analysis.Sound)
    (success : page.analysis.phase = .success) : page.report.Complete := by
  have finished := sound.finished success
  have consistent := sound.consistent
  have seconds : page.analysis.simulationRef.timeline.map TimelineEntry.second =
      [1, 2, 3, 5, 6, 7, 8, 10] := by
    rw [consistent.seconds, finished.percent]
    decide
  have marks : page.analysis.simulationRef.timeline.map TimelineEntry.fires =
      [0, 0, 0, 1, 0, 0, 1, 0] := by
    rw [consistent.marks, finished.percent]
    decide
  have nonempty : page.analysis.simulationRef.timeline ≠ [] := fun empty => by
    rw [empty] at seconds
    cases seconds
  have fires := finished.counted.fires.trans consistent.fires
  unfold VideoTestPage.report
  exact
    { seconds := by rw [finished.timeline, seconds]
      persons := by rw [finished.timeline, finished.counted.persons, consistent.persons]
      fires := by rw [finished.timeline, fires]
      objects := by rw [finished.timeline, finished.counted.objects, consistent.objects]
      twoFires := by
        rw [fires, marks]
        rfl
      fps := finished.counted.fps nonempty
      crops := by rw [finished.crops, finished.counted.persons, finished.counted.fires] }

namespace VideoTestPage

/-- **The results are complete**, and a timer is set only while a video is processed. -/
structure ResultsComplete (page : VideoTestPage) : Prop where
  oneTimer : page.analysis.intervals.length ≤ 1
  ticking : page.analysis.intervals ≠ [] ↔
    page.mounted = true ∧ page.analysis.phase = .processing
  progress : page.analysis.phase = .success → page.analysis.progressPercent = 100
  report : page.analysis.phase = .success → page.report.Complete

/-- **The banner is about the run on display.**  While the page is there, a request is
remembered just in case one is under way that was not aborted, and that is the newest one;
it is announced while the video is processed.  A message is how the newest request has
failed. -/
structure BannerCurrent (page : VideoTestPage) : Prop where
  notice : page.noticeShown ↔ (page.mounted = true ∧ page.analysis.phase = .processing) ∧
    ∃ request ∈ page.requests, request.aborted = false
  shown : ∀ text, page.messageShown = some text →
    ∃ id, id + 1 = page.nextRequest ∧ (id, text) ∈ page.failures
  submitting : page.mounted = true → (page.isSubmittingBackendJob = true ↔
    ∃ request ∈ page.requests, request.aborted = false)
  newest : ∀ request ∈ page.requests, request.aborted = false →
    request.id + 1 = page.nextRequest
  message : ∀ text, page.backendMessage = some text → page.analysis.phase ≠ .idle ∧
    ∃ id, id + 1 = page.nextRequest ∧ (id, text) ∈ page.failures
  once : (page.failures.map Prod.fst).Nodup

variable {page : VideoTestPage} {events : List TrialEvent}

theorem results_complete (reached : runFrom step start events = some page) :
    page.ResultsComplete := by
  have sound := sound_of_run reached
  have known := sound.analysis.known
  refine ⟨?_, ⟨fun set => ?_, fun ⟨mounted, phase⟩ empty => ?_⟩, fun success => ?_,
    sound.analysis.complete⟩
  · rw [← List.length_map Prod.fst, known]
    cases page.analysis.intervalRef <;> simp
  · obtain ⟨timer, member⟩ := List.exists_mem_of_ne_nil _ set
    obtain ⟨ref, phase⟩ := sound.analysis.toTimed.of_mem member
    refine ⟨Bool.eq_true_of_not_eq_false fun left => ?_, phase⟩
    rw [(sound.left left).1] at ref
    cases ref
  · rw [empty] at known
    exact sound.live mounted phase (Option.toList_eq_nil_iff.mp known.symm)
  · exact (sound.analysis.finished success).progress

/-- While the page is there, a request is remembered just in case one is under way. -/
theorem Sound.submitting_iff (sound : page.Sound) (mounted : page.mounted = true) :
    page.isSubmittingBackendJob = true ↔
      ∃ request ∈ page.requests, request.aborted = false := by
  rw [sound.submitting mounted]
  refine ⟨fun known => ?_, fun ⟨request, member, live⟩ => ?_⟩
  · obtain ⟨id, ref⟩ := Option.ne_none_iff_exists'.mp known
    obtain ⟨request, member, -, live⟩ := sound.known mounted id ref
    exact ⟨request, member, live⟩
  · rw [(sound.current request member live).1]
    exact Option.some_ne_none _

theorem banner_current (reached : runFrom step start events = some page) :
    page.BannerCurrent := by
  have sound := sound_of_run reached
  exact
    { notice := by
        rw [noticeShown, ← and_assoc]
        exact and_congr_right fun there => sound.submitting_iff there.1
      shown := fun text displayed => by
        rw [messageShown, Option.ite_none_right_eq_some, Option.filter_eq_some_iff] at displayed
        exact (sound.banner text displayed.2.1).2
      submitting := sound.submitting_iff
      newest := fun request member live => (sound.current request member live).2.1
      message := sound.banner
      once := sound.once }

/-- Ticks of the timer that is set, up to the last one. -/
theorem exists_runFrom_ticks {interval : ℕ} {texts : TrialTexts} (draws : List Draws)
    (sound : page.Sound) (phase : page.analysis.phase = .processing)
    (set : page.analysis.intervals = [(interval, texts)])
    (within : 5 * draws.length + page.analysis.simulationRef.progressPercent ≤ 100) :
    ∃ after, runFrom step page (draws.map (.tick interval)) = some after ∧
      (after.analysis.phase = .success ↔
        5 * draws.length + page.analysis.simulationRef.progressPercent = 100) := by
  induction draws generalizing page with
  | nil =>
      have more : page.analysis.simulationRef.progressPercent < 100 :=
        (sound.analysis.underway phase).percent
      refine ⟨page, rfl, ⟨fun success => ?_, fun full => ?_⟩⟩
      · rw [phase] at success
        cases success
      · rw [List.length_nil] at full
        omega
  | cons first rest ih =>
      have member : (interval, texts) ∈ page.analysis.intervals := set ▸ List.mem_cons_self
      have stepped : page.step (.tick interval first) =
          some { page with analysis := page.analysis.tick texts first } := by
        simp [step, set]
      have next := sound.tick member first
      rw [List.length_cons] at within
      rw [List.map_cons, runFrom_cons, stepped, Option.bind_some, List.length_cons]
      by_cases more : page.analysis.simulationRef.advance.progressPercent < finalProgressPercent
      · obtain ⟨same, -, timers, percent⟩ := VideoAnalysis.tick_of_more texts first more
        change (page.analysis.tick texts first).simulationRef.progressPercent =
          page.analysis.simulationRef.progressPercent + 5 at percent
        obtain ⟨after, reached, success⟩ := ih next (same.trans phase) (timers.trans set)
          (by rw [percent]; omega)
        refine ⟨after, reached, success.trans ?_⟩
        rw [percent]
        omega
      · have full : 100 ≤ page.analysis.simulationRef.progressPercent + 5 :=
          Nat.le_of_not_lt more
        have last : rest = [] := List.length_eq_zero_iff.mp (by omega)
        subst last
        rw [List.length_nil] at within ⊢
        have done := VideoAnalysis.tick_of_full texts first (Nat.le_of_not_lt more)
        exact ⟨_, rfl, ⟨fun _ => by omega, fun _ => done⟩⟩

/-- **The analysis ends**: the timer of a video that is processed brings the results with
its next tick at which the percentage is full, whatever is drawn, and not before. -/
theorem analysis_ends (reached : runFrom step start events = some page)
    (mounted : page.mounted = true) (phase : page.analysis.phase = .processing) :
    ∃ interval, ∀ draws : List Draws,
      5 * draws.length + page.analysis.progressPercent ≤ 100 →
        ∃ after, runFrom step page (draws.map (.tick interval)) = some after ∧
          (after.analysis.phase = .success ↔
            5 * draws.length + page.analysis.progressPercent = 100) := by
  have sound := sound_of_run reached
  have known := sound.analysis.known
  obtain ⟨interval, ref⟩ := Option.ne_none_iff_exists'.mp (sound.live mounted phase)
  rw [ref] at known
  obtain ⟨timer, set, same⟩ := List.map_eq_singleton_iff.mp known
  refine ⟨interval, fun draws within => ?_⟩
  rw [(sound.analysis.underway phase).progress] at within ⊢
  obtain ⟨id, texts⟩ := timer
  cases same
  exact exists_runFrom_ticks draws sound phase set within

end VideoTestPage

/-- The texts in English, shortened. -/
def exampleTexts : TrialTexts where
  uploading := "Uploading"
  initDecoder := "Decoder"
  analyzing := "Analyzing"
  aggregating := "Aggregating"
  error401 := "401"
  error403 := "403"
  error429 := "429"
  error500 := "500"
  errorGeneric := "Failed"

/-- A person and no object in a frame. -/
def exampleDraws : Draws where
  person := ⟨1 / 2, by decide +kernel⟩
  object := ⟨1 / 2, by decide +kernel⟩
  fps := ⟨0, by decide +kernel⟩

/-- A video is submitted, reset and submitted again; the second request fails. -/
def exampleTrial : List TrialEvent :=
  [.submit exampleTexts, .tick 1 exampleDraws, .reset, .submit exampleTexts,
    .answered 1 (.failed (some 429)), .answered 0 (.failed none)]

theorem runFrom_exampleTrial :
    ∃ page, runFrom VideoTestPage.step .start exampleTrial = some page ∧
      page.mounted = true ∧ page.analysis.phase = .processing := by
  have ended : ∃ page ∈ runFrom VideoTestPage.step .start exampleTrial,
      page.mounted = true ∧ page.analysis.phase = .processing := by decide +kernel
  obtain ⟨page, reached, shown⟩ := ended
  exact ⟨page, reached, shown⟩

theorem results_complete_example :
    ∃ page, runFrom VideoTestPage.step .start
        (exampleTrial ++ List.replicate 19 (.tick 2 exampleDraws)) = some page ∧
      page.analysis.phase = .success ∧ page.ResultsComplete := by
  have ended : ∃ page ∈ runFrom VideoTestPage.step .start
      (exampleTrial ++ List.replicate 19 (.tick 2 exampleDraws)),
      page.analysis.phase = .success := by decide +kernel
  obtain ⟨page, reached, success⟩ := ended
  exact ⟨page, reached, success, VideoTestPage.results_complete reached⟩

theorem banner_current_example :
    ∃ page, runFrom VideoTestPage.step .start exampleTrial = some page ∧
      page.messageShown = some "429" ∧ page.BannerCurrent := by
  have ended : ∃ page ∈ runFrom VideoTestPage.step .start exampleTrial,
      page.messageShown = some "429" := by decide +kernel
  obtain ⟨page, reached, shown⟩ := ended
  exact ⟨page, reached, shown, VideoTestPage.banner_current reached⟩

theorem analysis_ends_example :
    ∃ page, runFrom VideoTestPage.step .start exampleTrial = some page ∧
      ∃ interval, ∀ draws : List Draws,
        5 * draws.length + page.analysis.progressPercent ≤ 100 →
          ∃ after, runFrom VideoTestPage.step page (draws.map (.tick interval)) = some after ∧
            (after.analysis.phase = .success ↔
              5 * draws.length + page.analysis.progressPercent = 100) := by
  obtain ⟨page, reached, mounted, phase⟩ := runFrom_exampleTrial
  exact ⟨page, reached, VideoTestPage.analysis_ends reached mounted phase⟩

end PersonTracking.Web
