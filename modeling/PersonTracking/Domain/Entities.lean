import PersonTracking.Python.DateTime
import PersonTracking.Python.Uuid

/-!
# Domain entities

The dataclasses the services share.  Python checks none of their field types:
what an event carries as confidence, box or crop path is whatever its JSON held,
so those fields stay JSON values here.
-/

namespace PersonTracking.Domain

open Python

/-- `BoundingBox`, over whatever its corners are measured in. -/
structure BoundingBox (α : Type) where
  left : α
  top : α
  width : α
  height : α
deriving DecidableEq, Repr

/-- `Person`: an identity with the span of its appearances and their number. -/
structure Person where
  id : Uuid
  displayName : Option String := none
  firstSeen : DateTime
  lastSeen : DateTime
  totalAppearances : ℕ := 1
deriving DecidableEq, Repr

/-- `Person.update_appearance`: comparing an aware with a naive time raises. -/
def Person.updateAppearance (person : Person) (timestamp : DateTime) : Except PyError Person := do
  let earlier ← timestamp.lt person.firstSeen
  let firstSeen := if earlier then timestamp else person.firstSeen
  let later ← person.lastSeen.lt timestamp
  let lastSeen := if later then timestamp else person.lastSeen
  return { person with firstSeen, lastSeen, totalAppearances := person.totalAppearances + 1 }

/-- An appearance that is counted: the identity stays, and each end of the span
moves exactly when the comparison says so. -/
theorem Person.updateAppearance_eq_ok {person updated : Person} {timestamp : DateTime}
    (counted : person.updateAppearance timestamp = .ok updated) :
    ∃ earlier later, timestamp.lt person.firstSeen = .ok earlier ∧
      person.lastSeen.lt timestamp = .ok later ∧
      updated = { person with
        firstSeen := if earlier then timestamp else person.firstSeen
        lastSeen := if later then timestamp else person.lastSeen
        totalAppearances := person.totalAppearances + 1 } := by
  unfold Person.updateAppearance at counted
  obtain ⟨earlier, first, counted⟩ := exists_of_bind_eq_ok counted
  obtain ⟨later, last, counted⟩ := exists_of_bind_eq_ok counted
  cases counted
  exact ⟨earlier, later, first, last, rfl⟩

/-- `TrackingEvent`: one sighting by a camera, and the person it is attributed to. -/
structure TrackingEvent where
  id : Uuid
  personId : Option Uuid
  cameraId : Uuid
  confidence : Json
  bbox : BoundingBox Json
  cropPath : Json
  timestamp : DateTime

end PersonTracking.Domain
