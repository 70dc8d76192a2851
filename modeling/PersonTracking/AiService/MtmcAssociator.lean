import PersonTracking.AiService.PersonGallery
import PersonTracking.Library.Program

/-!
# The association of tracks with persons

`MTMCAssociator.associate` is written once as a program of its three critical
sections: it looks the track up, asks the gallery, and remembers the answer.  Run
without interruption it is `Associator.associate`; `associate_of_known` and
`associate_of_unknown` say what that does.
-/

namespace PersonTracking.AiService

open Library Python

/-- A track: the camera and the id its tracker has given. -/
abbrev TrackKey := String × Int

/-- The critical sections of `associate`. -/
inductive Section
  | lookup (key : TrackKey)
  | matchOrCreate (embedding : Embedding)
  | remember (key : TrackKey) (personId : String)
deriving DecidableEq

/-- What a critical section gives back. -/
abbrev SectionReply : Section → Type
  | .lookup _ => Option String
  | .matchOrCreate _ => Except PyError (String × Bool)
  | .remember _ _ => Unit

/-- Look a track up. -/
def lookup (key : TrackKey) : Program Section SectionReply (Option String) :=
  Program.perform (Section.lookup key)

/-- Ask the gallery. -/
def askGallery (embedding : Embedding) :
    Program Section SectionReply (Except PyError (String × Bool)) :=
  Program.perform (Section.matchOrCreate embedding)

/-- Remember the person of a track. -/
def remember (key : TrackKey) (personId : String) : Program Section SectionReply Unit :=
  Program.perform (Section.remember key personId)

/-- `associate`. -/
def associate (key : TrackKey) (embedding : Embedding) :
    Fallible Section SectionReply PyError (String × Bool) := do
  match ← Fallible.lift (lookup key) with
  | some personId => return (personId, false)
  | none =>
      let found ← Fallible.attempt (askGallery embedding)
      Fallible.lift (remember key found.1)
      return found

/-- `MTMCAssociator`: the gallery and the tracks that are resolved. -/
structure Associator where
  gallery : PersonGallery
  trackToPerson : OrderedDict TrackKey String

namespace Associator

/-- No track resolved yet. -/
def start (gallery : PersonGallery) : Associator where
  gallery := gallery
  trackToPerson := OrderedDict.empty

/-- A critical section, with the UUID `uuid.uuid4` has to give. -/
def answer (numpy : Numpy) (minted : Uuid) : Program.Handler Section SectionReply Associator
  | .lookup key, associator => (associator.trackToPerson.get? key, associator)
  | .matchOrCreate embedding, associator =>
      match associator.gallery.matchOrCreate numpy minted embedding with
      | .error error => (.error error, associator)
      | .ok (found, gallery) => (.ok found, { associator with gallery })
  | .remember key personId, associator =>
      ((), { associator with trackToPerson := associator.trackToPerson.set key personId })

/-- The resolved tracks that are not active. -/
def stale (associator : Associator) (activeKeys : List TrackKey) : List TrackKey :=
  associator.trackToPerson.keys.filter fun key => key ∉ activeKeys

/-- `cleanup_lost_tracks`. -/
def cleanupLostTracks (associator : Associator) (activeKeys : List TrackKey) : Associator :=
  { associator with
    trackToPerson := (associator.stale activeKeys).foldl OrderedDict.pop associator.trackToPerson }

/-- A call of `associate` that nobody interrupts. -/
def associate (numpy : Numpy) (minted : Uuid) (associator : Associator) (key : TrackKey)
    (embedding : Embedding) : Except PyError (String × Bool) × Associator :=
  Fallible.exec (answer numpy minted) (AiService.associate key embedding) associator

section Operations

variable {numpy : Numpy} {minted : Uuid} {associator : Associator} {key other : TrackKey}
  {embedding : Embedding} {personId : String}

/-- A sweep keeps the tracks that are active. -/
theorem get?_cleanupLostTracks (associator : Associator) (activeKeys : List TrackKey)
    (key : TrackKey) :
    (associator.cleanupLostTracks activeKeys).trackToPerson.get? key =
      if key ∈ activeKeys then associator.trackToPerson.get? key else none := by
  rw [cleanupLostTracks, OrderedDict.get?_foldl_pop, stale]
  simp only [List.mem_filter, decide_eq_true_eq]
  by_cases active : key ∈ activeKeys
  · simp [active]
  · by_cases known : key ∈ associator.trackToPerson.keys
    · simp [active, known]
    · simp [active, known, OrderedDict.get?_of_notMem known]

/-- A resolved track keeps its person. -/
theorem associate_of_known (known : associator.trackToPerson.get? key = some personId) :
    associator.associate numpy minted key embedding = (.ok (personId, false), associator) := by
  have found : Program.run (answer numpy minted) (lookup key) associator =
      (some personId, associator) := by
    rw [← known]
    rfl
  rw [associate, AiService.associate, Fallible.exec_bind, Fallible.exec_lift, found]
  rfl

/-- An unresolved track gets the person the gallery says. -/
theorem associate_of_unknown (unknown : associator.trackToPerson.get? key = none) :
    associator.associate numpy minted key embedding =
      match associator.gallery.matchOrCreate numpy minted embedding with
      | .error error => (.error error, associator)
      | .ok (found, gallery) =>
          (.ok found, { gallery, trackToPerson := associator.trackToPerson.set key found.1 }) := by
  have missed : Program.run (answer numpy minted) (lookup key) associator =
      (none, associator) := by
    rw [← unknown]
    rfl
  rw [associate, AiService.associate, Fallible.exec_bind, Fallible.exec_lift, missed]
  have asked : Program.run (answer numpy minted) (askGallery embedding) associator =
      answer numpy minted (.matchOrCreate embedding) associator := rfl
  simp only [Fallible.exec_bind, Fallible.exec_attempt, asked]
  cases asks : associator.gallery.matchOrCreate numpy minted embedding with
  | error error => simp only [answer, asks]
  | ok matched =>
      obtain ⟨found, gallery⟩ := matched
      simp only [answer, asks, Fallible.exec_lift, Fallible.exec_pure]
      rfl

end Operations

end Associator

end PersonTracking.AiService
