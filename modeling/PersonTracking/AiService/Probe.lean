import PersonTracking.AiService.DetectionEvents
import PersonTracking.AiService.MtmcAssociator

/-!
# The probe

`tracking_src_pad_buffer_probe` goes through the frames of a buffer, associates
every person that has an embedding and publishes an event for every object.  After
every 300th frame it forgets the tracks that are not in *this* buffer, which holds
frames of some cameras only.

`one_identity` says when a track that is never lost keeps its person all the same:
the buffers at which the probe forgets hold a frame of the track's camera.
-/

namespace PersonTracking.AiService

open Library Python Shared

/-- An object of a frame: its metadata, the embedding the extractor returns, what
the crop saver answers, and the UUID a new person would get. -/
structure DetectedObject where
  info : ObjectMeta
  embedding : Embedding
  crop : Except PyError (Option String)
  minted : Uuid

/-- A frame of a buffer. -/
structure Frame where
  sourceId : Int
  frameNumber : Int
  now : DateTime
  objects : List DetectedObject

/-- The probe with the events it has published. -/
structure ProbeState where
  associator : Associator
  frameCount : ℕ
  activeTrackKeys : List TrackKey
  published : List Json

/-- A probe on which no buffer has been. -/
def ProbeState.start (gallery : PersonGallery) : ProbeState where
  associator := Associator.start gallery
  frameCount := 0
  activeTrackKeys := []
  published := []

/-- The track of an object. -/
def trackKey (frame : Frame) (object : DetectedObject) : TrackKey :=
  (cameraId frame.sourceId, object.info.objectId)

/-- The person of an object, if it is one and has an embedding; the upsert of the
embedding that follows swallows its errors. -/
def resolve (numpy : Numpy) (frame : Frame) (object : DetectedObject) (state : ProbeState) :
    Except PyError String × ProbeState :=
  if object.info.classId = 0 ∧ object.embedding ≠ [] then
    match state.associator.associate numpy object.minted (trackKey frame object)
        object.embedding with
    | (.ok found, associator) => (.ok found.1, { state with associator })
    | (.error error, associator) => (.error error, { state with associator })
  else (.ok "", state)

/-- The event of an object whose person is resolved. -/
def eventOf (frame : Frame) (object : DetectedObject) (personUuid : String)
    (cropPath : Option String) : Json :=
  processObject
    { extract := fun _ => object.embedding
      associate := fun _ _ _ => personUuid
      saveCrop := fun _ => cropPath }
    object.info (cameraId frame.sourceId) frame.frameNumber (frameTimestamp frame.now)

/-- `_process_object`. -/
def probeObject (numpy : Numpy) (frame : Frame) (object : DetectedObject) (state : ProbeState) :
    Except PyError Unit × ProbeState :=
  let noted := { state with
    activeTrackKeys := state.activeTrackKeys ++ [trackKey frame object] }
  match resolve numpy frame object noted with
  | (.error error, resolved) => (.error error, resolved)
  | (.ok personUuid, resolved) =>
      match object.crop with
      | .error error => (.error error, resolved)
      | .ok cropPath => (.ok (), { resolved with
          published := resolved.published ++ [eventOf frame object personUuid cropPath] })

/-- The loop over the objects of a frame; an exception ends it. -/
def probeObjects (numpy : Numpy) (frame : Frame) :
    List DetectedObject → ProbeState → Except PyError Unit × ProbeState
  | [], state => (.ok (), state)
  | object :: rest, state =>
      match probeObject numpy frame object state with
      | (.error error, after) => (.error error, after)
      | (.ok _, after) => probeObjects numpy frame rest after

/-- The loop over the frames of a buffer. -/
def probeFrames (numpy : Numpy) : List Frame → ProbeState → Except PyError Unit × ProbeState
  | [], state => (.ok (), state)
  | frame :: rest, state =>
      match probeObjects numpy frame frame.objects
          { state with frameCount := state.frameCount + 1 } with
      | (.error error, after) => (.error error, after)
      | (.ok _, after) => probeFrames numpy rest after

/-- `tracking_src_pad_buffer_probe`; an exception leaves it before the sweep. -/
def probeBuffer (numpy : Numpy) (state : ProbeState) (buffer : List Frame) : ProbeState :=
  match probeFrames numpy buffer { state with activeTrackKeys := [] } with
  | (.error _, after) => after
  | (.ok _, after) =>
      if after.frameCount % 300 = 0 then
        { after with
          associator := after.associator.cleanupLostTracks after.activeTrackKeys }
      else after

/-- A run over a sequence of buffers. -/
def probeBuffers (numpy : Numpy) (state : ProbeState) (buffers : List (List Frame)) : ProbeState :=
  buffers.foldl (probeBuffer numpy) state

/-! ## Tracks -/

/-- The event is about a track. -/
def IsOf (key : TrackKey) (event : Json) : Prop :=
  event.get? "camera_id" = some (.str key.1) ∧
    (event.get? "detection").bind (fun detection => detection.get? "tracking_id") =
      some (.int key.2)

/-- `event["detection"]["person_uuid"]`. -/
def personUuidOf (event : Json) : Option Json :=
  (event.get? "detection").bind fun detection => detection.get? "person_uuid"

/-- The track is in a frame. -/
def Frame.Shows (frame : Frame) (key : TrackKey) : Prop :=
  ∃ object ∈ frame.objects, trackKey frame object = key

/-- The track is in one of some frames. -/
def Appears (key : TrackKey) (frames : List Frame) : Prop := ∃ frame ∈ frames, frame.Shows key

/-- **A live track**: wherever it is, it is a person with an embedding, and it is in
every frame of its camera between two that it is in. -/
structure Live (key : TrackKey) (frames : List Frame) : Prop where
  embedded : ∀ frame ∈ frames, ∀ object ∈ frame.objects, trackKey frame object = key →
    object.info.classId = 0 ∧ object.embedding ≠ []
  throughout : ∀ before frame after, frames = before ++ frame :: after →
    cameraId frame.sourceId = key.1 → Appears key before → Appears key after → frame.Shows key

/-- Every event of the track carries the same person. -/
def OneIdentity (key : TrackKey) (state : ProbeState) : Prop :=
  ∀ event ∈ state.published, ∀ other ∈ state.published, IsOf key event → IsOf key other →
    personUuidOf event = personUuidOf other

/-- Where a sweep is due between two appearances of the track, its camera is in the
buffer. -/
def SweptInSight (numpy : Numpy) (start : ProbeState) (key : TrackKey)
    (buffers : List (List Frame)) : Prop :=
  ∀ before buffer later, buffers = before ++ buffer :: later →
    ((probeBuffers numpy start before).frameCount + buffer.length) % 300 = 0 →
      Appears key (before ++ [buffer]).flatten → Appears key later.flatten →
        ∃ frame ∈ buffer, cameraId frame.sourceId = key.1

/-! ## One object -/

/-- Every event of the track carries the person it is resolved to. -/
structure Steady (key : TrackKey) (state : ProbeState) : Prop where
  events : ∀ event ∈ state.published, IsOf key event → ∃ personId,
    state.associator.trackToPerson.get? key = some personId ∧
      personUuidOf event = some (.str personId)
  named : state.associator.trackToPerson.get? key ≠ some ""

section Objects

variable {numpy : Numpy} {key : TrackKey} {frame : Frame} {object : DetectedObject}
  {state after : ProbeState} {result : Except PyError Unit}

/-- The fields of an event. -/
theorem fields_eventOf (frame : Frame) (object : DetectedObject) (personUuid : String)
    (cropPath : Option String) :
    (eventOf frame object personUuid cropPath).get? "camera_id" =
        some (.str (cameraId frame.sourceId)) ∧
      ∃ detection, (eventOf frame object personUuid cropPath).get? "detection" = some detection ∧
        detection.get? "tracking_id" = some (.int object.info.objectId) ∧
        (object.info.classId = 0 → object.embedding ≠ [] → personUuid ≠ "" →
          detection.get? "person_uuid" = some (.str personUuid)) := by
  have tracked : ∀ (embedding : Embedding) (path : String) (person : String),
      (Json.obj (if person = "" then detectionPayload object.info embedding path
        else detectionPayload object.info embedding path ++ [("person_uuid", .str person)])).get?
          "tracking_id" = some (.int object.info.objectId) := by
    intro embedding path person
    split
    · rfl
    · rw [Json.get?_obj_append_singleton, if_neg (by decide)]
      rfl
  refine ⟨rfl, _, rfl, tracked _ _ _, fun person embedded named => ?_⟩
  simp only [person, if_true, if_neg embedded, if_neg named]
  rw [Json.get?_obj_append_singleton, if_pos rfl]

/-- An event is about the track of its object. -/
theorem isOf_eventOf {personUuid : String} {cropPath : Option String}
    (about : IsOf key (eventOf frame object personUuid cropPath)) :
    trackKey frame object = key := by
  obtain ⟨camera, detection, found, tracking, -⟩ := fields_eventOf frame object personUuid cropPath
  obtain ⟨ownCamera, ownTracking⟩ := about
  rw [camera, Option.some.injEq, Json.str.injEq] at ownCamera
  rw [found, Option.bind_some, tracking, Option.some.injEq, Json.int.injEq] at ownTracking
  exact Prod.ext ownCamera ownTracking

/-- The event of an identified person carries it. -/
theorem personUuidOf_eventOf {personUuid : String} (cropPath : Option String)
    (person : object.info.classId = 0) (embedded : object.embedding ≠ [])
    (named : personUuid ≠ "") :
    personUuidOf (eventOf frame object personUuid cropPath) = some (.str personUuid) := by
  obtain ⟨-, detection, found, -, carries⟩ := fields_eventOf frame object personUuid cropPath
  rw [personUuidOf, found, Option.bind_some, carries person embedded named]

/-- What an association does to the tracks. -/
theorem associate_cases {minted : Uuid} {associator next : Associator} {embedding : Embedding}
    {result : Except PyError (String × Bool)}
    (associated : associator.associate numpy minted key embedding = (result, next)) :
    (next.trackToPerson = associator.trackToPerson ∧
        ∀ found, result = .ok found → associator.trackToPerson.get? key = some found.1) ∨
      ∃ found, result = .ok found ∧ found.1 ≠ "" ∧
        associator.trackToPerson.get? key = none ∧
        next.trackToPerson = associator.trackToPerson.set key found.1 := by
  cases known : associator.trackToPerson.get? key with
  | some personId =>
      rw [Associator.associate_of_known known, Prod.mk.injEq] at associated
      obtain ⟨rfl, rfl⟩ := associated
      exact Or.inl ⟨rfl, fun found same => by cases same; rfl⟩
  | none =>
      rw [Associator.associate_of_unknown known] at associated
      cases asks : associator.gallery.matchOrCreate numpy minted embedding with
      | error error =>
          rw [asks, Prod.mk.injEq] at associated
          obtain ⟨rfl, rfl⟩ := associated
          exact Or.inl ⟨rfl, fun found same => by cases same⟩
      | ok matched =>
          obtain ⟨⟨personId, isNew⟩, gallery⟩ := matched
          rw [asks, Prod.mk.injEq] at associated
          obtain ⟨rfl, rfl⟩ := associated
          exact Or.inr ⟨_, rfl, ne_empty_of_matchOrCreate asks, rfl, rfl⟩

/-- **What resolving an object does**: the events and the counters stay, and the
track of a person with an embedding is resolved afterwards, to what is returned. -/
theorem resolve_cases {next : ProbeState} {result : Except PyError String}
    (resolved : resolve numpy frame object state = (result, next)) :
    next.published = state.published ∧ next.activeTrackKeys = state.activeTrackKeys ∧
      next.frameCount = state.frameCount ∧
      (next.associator.trackToPerson = state.associator.trackToPerson ∨
        ∃ personId, personId ≠ "" ∧
          state.associator.trackToPerson.get? (trackKey frame object) = none ∧
          next.associator.trackToPerson =
            state.associator.trackToPerson.set (trackKey frame object) personId) ∧
      ∀ personId, result = .ok personId → object.info.classId = 0 → object.embedding ≠ [] →
        next.associator.trackToPerson.get? (trackKey frame object) = some personId := by
  unfold resolve at resolved
  split at resolved
  · cases associated : state.associator.associate numpy object.minted (trackKey frame object)
        object.embedding with
    | mk outcome associator =>
        rw [associated] at resolved
        rcases associate_cases associated with ⟨same, known⟩ | ⟨found, rfl, named, unknown, set⟩
        · cases outcome with
          | error error =>
              cases resolved
              exact ⟨rfl, rfl, rfl, Or.inl same, fun personId wrong => by cases wrong⟩
          | ok found =>
              cases resolved
              refine ⟨rfl, rfl, rfl, Or.inl same, fun personId returned _ _ => ?_⟩
              cases returned
              exact (congrArg (fun tracks => tracks.get? (trackKey frame object)) same).trans
                (known found rfl)
        · cases resolved
          refine ⟨rfl, rfl, rfl, Or.inr ⟨found.1, named, unknown, set⟩,
            fun personId returned _ _ => ?_⟩
          cases returned
          show associator.trackToPerson.get? _ = _
          rw [set, OrderedDict.get?_set, if_pos rfl]
  · rename_i skipped
    cases resolved
    exact ⟨rfl, rfl, rfl, Or.inl rfl, fun personId _ person embedded =>
      absurd ⟨person, embedded⟩ skipped⟩

/-- The tracks and events of a steady track may change like this. -/
theorem Steady.resolve {next : ProbeState} {result : Except PyError String}
    (steady : Steady key state) (resolved : resolve numpy frame object state = (result, next)) :
    Steady key next := by
  obtain ⟨published, -, -, tracks, -⟩ := resolve_cases resolved
  rcases tracks with same | ⟨personId, named, unknown, set⟩
  · exact ⟨published ▸ same ▸ steady.events, same ▸ steady.named⟩
  · by_cases own : trackKey frame object = key
    · rw [own] at unknown set
      constructor
      · intro event member about
        rw [published] at member
        obtain ⟨known, resolvedTo, -⟩ := steady.events event member about
        rw [unknown] at resolvedTo
        cases resolvedTo
      · rw [set, OrderedDict.get?_set, if_pos rfl]
        exact fun same => named (Option.some.inj same)
    · have kept : next.associator.trackToPerson.get? key =
          state.associator.trackToPerson.get? key := by
        rw [set, OrderedDict.get?_set, if_neg own]
      exact ⟨published ▸ kept ▸ steady.events, kept ▸ steady.named⟩

/-- **One object keeps a track steady.** -/
theorem Steady.probeObject (steady : Steady key state)
    (person : trackKey frame object = key → object.info.classId = 0 ∧ object.embedding ≠ [])
    (done : probeObject numpy frame object state = (result, after)) : Steady key after := by
  simp only [AiService.probeObject] at done
  cases resolved : AiService.resolve numpy frame object { state with
      activeTrackKeys := state.activeTrackKeys ++ [trackKey frame object] } with
  | mk outcome next =>
      have noted : Steady key { state with
          activeTrackKeys := state.activeTrackKeys ++ [trackKey frame object] } :=
        ⟨steady.events, steady.named⟩
      have still := noted.resolve resolved
      obtain ⟨-, -, -, -, known⟩ := resolve_cases resolved
      rw [resolved] at done
      cases outcome with
      | error error =>
          cases done
          exact still
      | ok personId =>
          simp only at done
          split at done
          · cases done
            exact still
          · rename_i cropPath saved
            cases done
            refine ⟨fun event member about => ?_, still.named⟩
            rcases List.mem_append.mp member with before | here
            · exact still.events event before about
            · rw [List.mem_singleton.mp here] at about ⊢
              have own := isOf_eventOf about
              obtain ⟨isPerson, embedded⟩ := person own
              have cached := known personId rfl isPerson embedded
              rw [own] at cached
              refine ⟨personId, cached, personUuidOf_eventOf cropPath isPerson embedded ?_⟩
              rintro rfl
              exact still.named cached

/-- An object is noted, whatever becomes of it. -/
theorem noted_of_probeObject (done : probeObject numpy frame object state = (result, after)) :
    after.activeTrackKeys = state.activeTrackKeys ++ [trackKey frame object] ∧
      after.frameCount = state.frameCount := by
  simp only [AiService.probeObject] at done
  cases resolved : AiService.resolve numpy frame object { state with
      activeTrackKeys := state.activeTrackKeys ++ [trackKey frame object] } with
  | mk outcome next =>
      obtain ⟨-, active, count, -, -⟩ := resolve_cases resolved
      rw [resolved] at done
      cases outcome with
      | error error =>
          cases done
          exact ⟨active, count⟩
      | ok personId =>
          simp only at done
          split at done
          · cases done
            exact ⟨active, count⟩
          · cases done
            exact ⟨active, count⟩

/-- What is left alone for a track: its person and its events. -/
structure Untouched (key : TrackKey) (state after : ProbeState) : Prop where
  resolvedTo : after.associator.trackToPerson.get? key = state.associator.trackToPerson.get? key
  events : ∀ event ∈ after.published, IsOf key event → event ∈ state.published

theorem Untouched.refl (key : TrackKey) (state : ProbeState) : Untouched key state state :=
  ⟨rfl, fun _ member _ => member⟩

theorem Untouched.trans {middle : ProbeState} (first : Untouched key state middle)
    (second : Untouched key middle after) : Untouched key state after :=
  ⟨second.resolvedTo.trans first.resolvedTo, fun event member about =>
    first.events event (second.events event member about) about⟩

/-- An object of another track leaves a track alone. -/
theorem untouched_of_probeObject (done : probeObject numpy frame object state = (result, after))
    (other : trackKey frame object ≠ key) : Untouched key state after := by
  simp only [AiService.probeObject] at done
  cases resolved : AiService.resolve numpy frame object { state with
      activeTrackKeys := state.activeTrackKeys ++ [trackKey frame object] } with
  | mk outcome next =>
      obtain ⟨published, -, -, tracks, -⟩ := resolve_cases resolved
      have same : next.associator.trackToPerson.get? key =
          state.associator.trackToPerson.get? key := by
        rcases tracks with same | ⟨personId, -, -, set⟩
        · rw [same]
        · rw [set, OrderedDict.get?_set, if_neg other]
      have before : ∀ event ∈ next.published, IsOf key event → event ∈ state.published :=
        fun event member _ => published ▸ member
      rw [resolved] at done
      cases outcome with
      | error error =>
          cases done
          exact ⟨same, before⟩
      | ok personId =>
          simp only at done
          split at done
          · cases done
            exact ⟨same, before⟩
          · cases done
            refine ⟨same, fun event member about => ?_⟩
            rcases List.mem_append.mp member with earlier | here
            · exact before event earlier about
            · rw [List.mem_singleton.mp here] at about
              exact absurd (isOf_eventOf about) other

end Objects

/-! ## The loops -/

section Loops

variable {numpy : Numpy} {frame : Frame} {frames : List Frame} {objects : List DetectedObject}
  {state after : ProbeState} {result : Except PyError Unit}

/-- What every object keeps, a frame keeps. -/
theorem probeObjects_invariant {I : ProbeState → Prop}
    (keeps : ∀ object ∈ objects, ∀ s r t, I s → probeObject numpy frame object s = (r, t) → I t)
    (start : I state) (done : probeObjects numpy frame objects state = (result, after)) :
    I after := by
  induction objects generalizing state with
  | nil =>
      cases done
      exact start
  | cons object rest ih =>
      rw [probeObjects] at done
      cases one : probeObject numpy frame object state with
      | mk outcome next =>
          have kept := keeps object List.mem_cons_self state outcome next start one
          rw [one] at done
          cases outcome with
          | error error =>
              cases done
              exact kept
          | ok _ =>
              exact ih (fun other member => keeps other (List.mem_cons_of_mem _ member)) kept done

/-- What every object keeps, a buffer keeps up to the sweep. -/
theorem probeFrames_invariant {I : ProbeState → Prop}
    (counts : ∀ s, I s → I { s with frameCount := s.frameCount + 1 })
    (keeps : ∀ frame ∈ frames, ∀ object ∈ frame.objects, ∀ s r t, I s →
      probeObject numpy frame object s = (r, t) → I t)
    (start : I state) (done : probeFrames numpy frames state = (result, after)) : I after := by
  induction frames generalizing state with
  | nil =>
      cases done
      exact start
  | cons frame rest ih =>
      rw [probeFrames] at done
      cases one : probeObjects numpy frame frame.objects
          { state with frameCount := state.frameCount + 1 } with
      | mk outcome next =>
          have kept := probeObjects_invariant (keeps frame List.mem_cons_self) (counts state start)
            one
          rw [one] at done
          cases outcome with
          | error error =>
              cases done
              exact kept
          | ok _ =>
              exact ih (fun other member => keeps other (List.mem_cons_of_mem _ member)) kept done

/-- A frame that is gone through has noted its objects. -/
theorem noted_of_probeObjects (done : probeObjects numpy frame objects state = (.ok (), after)) :
    (∀ key ∈ state.activeTrackKeys, key ∈ after.activeTrackKeys) ∧
      (∀ object ∈ objects, trackKey frame object ∈ after.activeTrackKeys) ∧
      after.frameCount = state.frameCount := by
  induction objects generalizing state with
  | nil =>
      cases done
      exact ⟨fun key member => member, fun object wrong => absurd wrong List.not_mem_nil, rfl⟩
  | cons object rest ih =>
      rw [probeObjects] at done
      cases one : probeObject numpy frame object state with
      | mk outcome next =>
          obtain ⟨noted, count⟩ := noted_of_probeObject one
          rw [one] at done
          cases outcome with
          | error error => cases done
          | ok _ =>
              obtain ⟨before, later, counted⟩ := ih done
              refine ⟨fun key member => before key (noted ▸ List.mem_append_left _ member),
                fun other member => ?_, counted.trans count⟩
              rcases List.mem_cons.mp member with rfl | inRest
              · exact before _ (noted ▸ List.mem_append_right _ (List.mem_singleton_self _))
              · exact later other inRest

/-- **A buffer that is gone through** has noted what it shows and counted its frames. -/
theorem noted_of_probeFrames (done : probeFrames numpy frames state = (.ok (), after)) :
    (∀ key ∈ state.activeTrackKeys, key ∈ after.activeTrackKeys) ∧
      (∀ key, Appears key frames → key ∈ after.activeTrackKeys) ∧
      after.frameCount = state.frameCount + frames.length := by
  induction frames generalizing state with
  | nil =>
      cases done
      refine ⟨fun key member => member, ?_, rfl⟩
      rintro key ⟨shown, wrong, -⟩
      cases wrong
  | cons frame rest ih =>
      rw [probeFrames] at done
      cases one : probeObjects numpy frame frame.objects
          { state with frameCount := state.frameCount + 1 } with
      | mk outcome next =>
          rw [one] at done
          cases outcome with
          | error error => cases done
          | ok _ =>
              obtain ⟨kept, noted, count⟩ := noted_of_probeObjects one
              replace count : next.frameCount = state.frameCount + 1 := count
              obtain ⟨before, later, counted⟩ := ih done
              refine ⟨fun key member => before key (kept key member), ?_, ?_⟩
              · rintro key ⟨shown, member, object, inside, rfl⟩
                rcases List.mem_cons.mp member with rfl | inRest
                · exact before _ (noted object inside)
                · exact later _ ⟨shown, inRest, object, inside, rfl⟩
              · rw [counted, count, List.length_cons, Nat.add_assoc, Nat.add_comm 1]

end Loops

/-! ## Runs -/

section Runs

variable {numpy : Numpy} {key : TrackKey} {buffer : List Frame} {buffers : List (List Frame)}
  {state start : ProbeState}

/-- **What a buffer does**: its frames are gone through, and where that succeeds
after a multiple of 300 frames, the tracks it does not show are forgotten. -/
theorem probeBuffer_cases (numpy : Numpy) (state : ProbeState) (buffer : List Frame) :
    ∃ result after,
      probeFrames numpy buffer { state with activeTrackKeys := [] } = (result, after) ∧
      (probeBuffer numpy state buffer = after ∨
        result = .ok () ∧ (state.frameCount + buffer.length) % 300 = 0 ∧
          probeBuffer numpy state buffer = { after with
            associator := after.associator.cleanupLostTracks after.activeTrackKeys }) := by
  unfold probeBuffer
  cases done : probeFrames numpy buffer { state with activeTrackKeys := [] } with
  | mk result after =>
      refine ⟨result, after, rfl, ?_⟩
      cases result with
      | error error => exact Or.inl rfl
      | ok _ =>
          obtain ⟨-, -, count⟩ := noted_of_probeFrames done
          by_cases due : after.frameCount % 300 = 0
          · exact Or.inr ⟨rfl, count ▸ due, if_pos due⟩
          · exact Or.inl (if_neg due)

/-- A steady track has one identity. -/
theorem Steady.oneIdentity (steady : Steady key state) : OneIdentity key state := by
  intro event member other member' about about'
  obtain ⟨personId, known, carried⟩ := steady.events event member about
  obtain ⟨personId', known', carried'⟩ := steady.events other member' about'
  rw [known, Option.some.injEq] at known'
  rw [carried, carried', known']

/-- The frames of a buffer keep a track steady. -/
theorem Steady.probeFrames {frames : List Frame} {result : Except PyError Unit}
    {after : ProbeState} (steady : Steady key state)
    (embedded : ∀ frame ∈ frames, ∀ object ∈ frame.objects, trackKey frame object = key →
      object.info.classId = 0 ∧ object.embedding ≠ [])
    (done : probeFrames numpy frames state = (result, after)) : Steady key after :=
  probeFrames_invariant (fun _ steady => ⟨steady.events, steady.named⟩)
    (fun frame member object inside _ _ _ steady one =>
      steady.probeObject (embedded frame member object inside) one) steady done

/-- Frames that do not show a track leave it alone. -/
theorem untouched_of_probeFrames {frames : List Frame} {result : Except PyError Unit}
    {after : ProbeState} (unseen : ¬ Appears key frames)
    (done : AiService.probeFrames numpy frames state = (result, after)) :
    Untouched key state after :=
  probeFrames_invariant (I := Untouched key state)
    (fun _ untouched => ⟨untouched.resolvedTo, untouched.events⟩)
    (fun frame member object inside _ _ _ untouched one => untouched.trans
      (untouched_of_probeObject one fun own => unseen ⟨frame, member, object, inside, own⟩))
    (Untouched.refl key state) done

/-- Buffers that do not show a track publish nothing about it. -/
theorem oneIdentity_of_unseen (unseen : ¬ Appears key buffers.flatten)
    (one : OneIdentity key state) : OneIdentity key (probeBuffers numpy state buffers) := by
  induction buffers generalizing state with
  | nil => exact one
  | cons buffer rest ih =>
      have notHere : ¬ Appears key buffer := fun ⟨frame, member, shows⟩ =>
        unseen ⟨frame, List.mem_append_left _ member, shows⟩
      have notLater : ¬ Appears key rest.flatten := fun ⟨frame, member, shows⟩ =>
        unseen ⟨frame, List.mem_append_right _ member, shows⟩
      refine ih notLater ?_
      obtain ⟨result, after, done, outcome⟩ := probeBuffer_cases numpy state buffer
      have untouched := untouched_of_probeFrames notHere done
      have kept : OneIdentity key after := fun event member other member' about about' =>
        one event (untouched.events event member about) other
          (untouched.events other member' about') about about'
      rcases outcome with same | ⟨-, -, swept⟩
      · rw [same]
        exact kept
      · rw [swept]
        exact kept

/-- What a sweep leaves of a steady track that it shows. -/
theorem Steady.swept (steady : Steady key state) (active : key ∈ state.activeTrackKeys) :
    Steady key { state with
      associator := state.associator.cleanupLostTracks state.activeTrackKeys } := by
  have kept := state.associator.get?_cleanupLostTracks state.activeTrackKeys key
  rw [if_pos active] at kept
  refine ⟨fun event member about => ?_, fun wrong => steady.named (kept.symm.trans wrong)⟩
  obtain ⟨personId, known, carried⟩ := steady.events event member about
  exact ⟨personId, kept.trans known, carried⟩

/-- What a sweep leaves of a track that is not resolved. -/
theorem Steady.swept_of_unresolved (steady : Steady key state)
    (unresolved : state.associator.trackToPerson.get? key = none) :
    Steady key { state with
      associator := state.associator.cleanupLostTracks state.activeTrackKeys } := by
  have kept := state.associator.get?_cleanupLostTracks state.activeTrackKeys key
  rw [unresolved, ite_self] at kept
  refine ⟨fun event member about => ?_, fun wrong => by cases kept.symm.trans wrong⟩
  obtain ⟨personId, known, -⟩ := steady.events event member about
  rw [unresolved] at known
  cases known

/-- A live track is in the buffer where its camera is, if it was there before and
comes back. -/
theorem Live.appears {before later : List (List Frame)}
    (live : Live key (before ++ buffer :: later).flatten)
    (inBuffer : ∃ frame ∈ buffer, cameraId frame.sourceId = key.1)
    (seen : Appears key before.flatten) (back : Appears key later.flatten) :
    Appears key buffer := by
  obtain ⟨frame, member, camera⟩ := inBuffer
  obtain ⟨front, rest, rfl⟩ := List.append_of_mem member
  refine ⟨frame, member, live.throughout (before.flatten ++ front) frame (rest ++ later.flatten)
    (by simp) camera ?_ ?_⟩
  · obtain ⟨shown, inside, shows⟩ := seen
    exact ⟨shown, List.mem_append_left _ inside, shows⟩
  · obtain ⟨shown, inside, shows⟩ := back
    exact ⟨shown, List.mem_append_right _ inside, shows⟩

/-- **A sweep in sight keeps a track steady.**  The buffers so far are `before`, the
ones to come `later`. -/
theorem oneIdentity_of_steady {before later : List (List Frame)}
    (live : Live key (before ++ later).flatten)
    (inSight : SweptInSight numpy start key (before ++ later))
    (reached : probeBuffers numpy start before = state) (steady : Steady key state)
    (shown : state.associator.trackToPerson.get? key ≠ none → Appears key before.flatten) :
    OneIdentity key (probeBuffers numpy state later) := by
  induction later generalizing before state with
  | nil => exact steady.oneIdentity
  | cons buffer rest ih =>
      have split : before ++ buffer :: rest = (before ++ [buffer]) ++ rest := by simp
      have next : probeBuffers numpy start (before ++ [buffer]) =
          probeBuffer numpy state buffer := by
        rw [probeBuffers, List.foldl_append]
        exact congrArg (fun state => probeBuffer numpy state buffer) reached
      obtain ⟨result, after, done, outcome⟩ := probeBuffer_cases numpy state buffer
      have blank : Steady key { state with activeTrackKeys := [] } := ⟨steady.events, steady.named⟩
      have through : Steady key after := by
        refine blank.probeFrames (fun frame member => live.embedded frame ?_) done
        simp only [List.flatten_append, List.flatten_cons, List.mem_append]
        exact Or.inr (Or.inl member)
      have shownAfter : after.associator.trackToPerson.get? key ≠ none →
          Appears key before.flatten ∨ Appears key buffer := by
        intro resolved
        by_cases here : Appears key buffer
        · exact Or.inr here
        · rw [(untouched_of_probeFrames here done).resolvedTo] at resolved
          exact Or.inl (shown resolved)
      have soFar : Appears key before.flatten ∨ Appears key buffer →
          Appears key (before ++ [buffer]).flatten := by
        rintro (⟨frame, member, shows⟩ | ⟨frame, member, shows⟩)
        · exact ⟨frame, by simp [member], shows⟩
        · exact ⟨frame, by simp [member], shows⟩
      show OneIdentity key (probeBuffers numpy (probeBuffer numpy state buffer) rest)
      rcases outcome with same | ⟨rfl, due, swept⟩
      · rw [split] at live inSight
        rw [same] at next ⊢
        exact ih live inSight next through fun resolved => soFar (shownAfter resolved)
      · have cleaned := after.associator.get?_cleanupLostTracks after.activeTrackKeys key
        rw [swept] at next ⊢
        by_cases active : key ∈ after.activeTrackKeys
        · rw [split] at live inSight
          rw [if_pos active] at cleaned
          exact ih live inSight next (through.swept active)
            fun resolved => soFar (shownAfter (cleaned ▸ resolved))
        · have unseen : ¬ Appears key buffer := fun here =>
            active ((noted_of_probeFrames done).2.1 key here)
          rw [if_neg active] at cleaned
          cases resolved : after.associator.trackToPerson.get? key with
          | none =>
              rw [split] at live inSight
              exact ih live inSight next (through.swept_of_unresolved resolved)
                fun wrong => absurd cleaned wrong
          | some personId =>
              -- forgotten although resolved: the track has been here, so it must not come back
              have seen := (shownAfter (by simp [resolved])).resolve_right unseen
              by_cases back : Appears key rest.flatten
              · have camera := inSight before buffer rest rfl (by rw [reached]; exact due)
                  (soFar (Or.inl seen)) back
                exact absurd (live.appears camera seen back) unseen
              · exact oneIdentity_of_unseen back through.oneIdentity

end Runs

/-- **When a live track keeps one identity.**  For every run on a new probe, whatever
the buffers hold and however embeddings compare: a live track has one person in all
its events when every sweep between two of its appearances is made with a frame of
its camera in the buffer. -/
theorem one_identity (numpy : Numpy) (gallery : PersonGallery) (key : TrackKey)
    (buffers : List (List Frame)) (live : Live key buffers.flatten)
    (inSight : SweptInSight numpy (ProbeState.start gallery) key buffers) :
    OneIdentity key (probeBuffers numpy (ProbeState.start gallery) buffers) := by
  have blank : (ProbeState.start gallery).associator.trackToPerson.get? key = none := rfl
  refine @oneIdentity_of_steady numpy key (ProbeState.start gallery) (ProbeState.start gallery) []
    buffers live inSight rfl ⟨fun event member => ?_, ?_⟩ fun resolved => absurd blank resolved
  · cases member
  · rw [blank]
    exact nofun

/-! ## One person in front of camera 0 -/

instance (value : Option Json) (text : String) : Decidable (value = some (.str text)) :=
  match value with
  | some (.str other) => decidable_of_iff (other = text) (by simp)
  | none | some .null | some (.bool _) | some (.int _) | some (.float _) | some (.arr _)
  | some (.obj _) => isFalse nofun

instance (value : Option Json) (n : Int) : Decidable (value = some (.int n)) :=
  match value with
  | some (.int other) => decidable_of_iff (other = n) (by simp)
  | none | some .null | some (.bool _) | some (.float _) | some (.str _) | some (.arr _)
  | some (.obj _) => isFalse nofun

instance (key : TrackKey) (event : Json) : Decidable (IsOf key event) :=
  inferInstanceAs (Decidable (_ ∧ _))

instance (frame : Frame) (key : TrackKey) : Decidable (frame.Shows key) :=
  inferInstanceAs (Decidable (∃ object ∈ frame.objects, trackKey frame object = key))

/-- A track that is in every frame of its camera, always with an embedding, is live. -/
theorem live_of_shows {key : TrackKey} {frames : List Frame}
    (embedded : ∀ frame ∈ frames, ∀ object ∈ frame.objects, trackKey frame object = key →
      object.info.classId = 0 ∧ object.embedding ≠ [])
    (shows : ∀ frame ∈ frames, cameraId frame.sourceId = key.1 → frame.Shows key) :
    Live key frames where
  embedded := embedded
  throughout _ frame _ split camera _ _ :=
    shows frame (split ▸ List.mem_append_right _ List.mem_cons_self) camera

/-- Where every buffer holds a frame of the camera, every sweep is in sight. -/
theorem sweptInSight_of_forall {numpy : Numpy} {start : ProbeState} {key : TrackKey}
    {buffers : List (List Frame)}
    (present : ∀ buffer ∈ buffers, ∃ frame ∈ buffer, cameraId frame.sourceId = key.1) :
    SweptInSight numpy start key buffers :=
  fun _ buffer _ split _ _ _ =>
    present buffer (split ▸ List.mem_append_right _ List.mem_cons_self)

/-- Person 7 in front of camera 0. -/
def sighting (embedding : Embedding) (minted : Uuid) : Frame where
  sourceId := 0
  frameNumber := 1
  now := exampleNow
  objects := [{
    info := { exampleFire with classId := 0 }
    embedding := embedding
    crop := .ok none
    minted := minted }]

/-- A frame of camera 1 with nobody in it. -/
def quietFrame : Frame where
  sourceId := 1
  frameNumber := 1
  now := exampleNow
  objects := []

/-- The person turns round; camera 0 is in every buffer. -/
def steadyBuffers : List (List Frame) :=
  [[sighting firstUnit (.ofNat 1)],
    List.replicate 298 quietFrame ++ [sighting firstUnit (.ofNat 2)],
    [sighting secondUnit (.ofNat 3)]]

/-- The person turns round; the sweep is made on a buffer of camera 1. -/
def sweptBuffers : List (List Frame) :=
  [[sighting firstUnit (.ofNat 1)], List.replicate 299 quietFrame,
    [sighting secondUnit (.ofNat 2)]]

/-- The probe of the examples. -/
def exampleProbe : ProbeState := ProbeState.start (PersonGallery.empty matchThreshold)

theorem one_identity_steady :
    OneIdentity ("0", 7) (probeBuffers exampleNumpy exampleProbe steadyBuffers) :=
  one_identity exampleNumpy (PersonGallery.empty matchThreshold) ("0", 7) steadyBuffers
    (live_of_shows (by decide +kernel) (by decide +kernel))
    (sweptInSight_of_forall (by decide +kernel))

/-- The track is forgotten while its camera is not in the buffer, and comes back as
somebody else. -/
theorem identity_lost :
    Live ("0", 7) sweptBuffers.flatten ∧
      ¬ OneIdentity ("0", 7) (probeBuffers exampleNumpy exampleProbe sweptBuffers) := by
  refine ⟨live_of_shows (by decide +kernel) (by decide +kernel), fun one => ?_⟩
  have differ : ∃ event ∈ (probeBuffers exampleNumpy exampleProbe sweptBuffers).published,
      ∃ other ∈ (probeBuffers exampleNumpy exampleProbe sweptBuffers).published,
        IsOf ("0", 7) event ∧ IsOf ("0", 7) other ∧
          personUuidOf event = some (.str ((Uuid.ofNat 1).toText)) ∧
            personUuidOf other = some (.str ((Uuid.ofNat 2).toText)) := by
    decide +kernel
  obtain ⟨event, member, other, member', about, about', first, second⟩ := differ
  have same := one event member other member' about about'
  rw [first, second, Option.some.injEq, Json.str.injEq] at same
  exact absurd same (by decide +kernel)

end PersonTracking.AiService
