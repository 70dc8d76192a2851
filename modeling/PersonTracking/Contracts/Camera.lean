import PersonTracking.Python.Json
import PersonTracking.Python.Netloc

/-!
# The fields of a camera

`CameraCreate` and `CameraUpdate`: the length limits of their fields and the validators
that run on what keeps them.
-/

namespace PersonTracking.Contracts

open Python

/-- Why a field is refused: by its constraint, by the `ValueError` of a validator, or by
one that `urllib` raises in it. -/
inductive FieldError
  | constraint
  | message (text : String)
  | urllib
deriving DecidableEq, Repr

/-- `CameraCreate.validate_rtsp_url`. -/
def validateRtspUrl (lib : UrlLib) (value : List Char) : Except FieldError (List Char) :=
  let url := strip value
  if url.any isSpace then .error (.message "URL must not contain whitespace")
  else
    match urlsplit lib url with
    | none => .error .urllib
    | some parsed =>
        if parsed.scheme ≠ "rtsp".toList ∧ parsed.scheme ≠ "rtsps".toList then
          .error (.message "URL must start with 'rtsp://' or 'rtsps://'")
        else if hostname lib parsed.netloc = none then
          .error (.message "URL must include a hostname")
        else if parsed.fragment ≠ [] then .error (.message "URL fragments are not allowed")
        else
          match port parsed.netloc with
          | none => .error .urllib
          | some none => .ok url
          | some (some value) =>
              if 1 ≤ value ∧ value ≤ 65535 then .ok url
              else .error (.message "URL port must be between 1 and 65535")

/-- What is known of the parts of a URL that is accepted. -/
structure AcceptedParts (lib : UrlLib) (url : List Char) where
  parsed : SplitResult
  host : List Char
  port : Option Int
  split : urlsplit lib url = some parsed
  scheme : parsed.scheme = "rtsp".toList ∨ parsed.scheme = "rtsps".toList
  hosted : hostname lib parsed.netloc = some host
  fragment : parsed.fragment = []
  ported : Python.port parsed.netloc = some port

/-- **What the validator accepts**: a stripped text without whitespace, whose parts are
as they should be. -/
theorem acceptedParts_of_validate {lib : UrlLib} {value url : List Char}
    (accepted : validateRtspUrl lib value = .ok url) :
    url = strip value ∧ url.any isSpace = false ∧ Nonempty (AcceptedParts lib url) := by
  simp only [validateRtspUrl] at accepted
  split at accepted
  · cases accepted
  · rename_i unspaced
    split at accepted
    · cases accepted
    · rename_i parsed split
      split at accepted
      · cases accepted
      · rename_i scheme
        split at accepted
        · cases accepted
        · rename_i hosted
          split at accepted
          · cases accepted
          · rename_i fragment
            obtain ⟨host, known⟩ := Option.ne_none_iff_exists'.mp hosted
            have schemes : parsed.scheme = "rtsp".toList ∨ parsed.scheme = "rtsps".toList := by
              by_contra neither
              exact scheme (not_or.mp neither)
            have parts : ∀ port, Python.port parsed.netloc = some port →
                Nonempty (AcceptedParts lib (strip value)) := fun port ported =>
              ⟨{ parsed, host, port, split, scheme := schemes, hosted := known
                 fragment := not_not.mp fragment, ported }⟩
            split at accepted
            · cases accepted
            · rename_i ported
              cases accepted
              exact ⟨rfl, by simpa using unspaced, parts none ported⟩
            · rename_i port ported
              split at accepted
              · cases accepted
                exact ⟨rfl, by simpa using unspaced, parts (some port) ported⟩
              · cases accepted

/-! ## All fields -/

/-- `Field(min_length=low, max_length=high)`. -/
def lengthWithin (low high : ℕ) (value : List Char) : Except FieldError (List Char) :=
  if low ≤ value.length ∧ value.length ≤ high then .ok value else .error .constraint

/-- `CameraCreate.strip_text_fields`, of a text. -/
def stripTextField (value : List Char) : Except FieldError (List Char) :=
  if strip value = [] then .error (.message "Field cannot be blank") else .ok (strip value)

/-- `Field(ge=low, le=high)`. -/
def valueWithin (low high value : Int) : Except FieldError Int :=
  if low ≤ value ∧ value ≤ high then .ok value else .error .constraint

/-- An optional field: `None` passes. -/
def optional {α : Type} (check : α → Except FieldError α) :
    Option α → Except FieldError (Option α)
  | none => .ok none
  | some value => (check value).map some

section Fields

variable {low high : ℕ} {value kept : List Char}

/-- A length that is within its limits. -/
theorem lengthWithin_eq_ok (passed : lengthWithin low high value = .ok kept) :
    kept = value ∧ value.length ≤ high := by
  unfold lengthWithin at passed
  split at passed
  · rename_i within
    cases passed
    exact ⟨rfl, within.2⟩
  · cases passed

/-- **A text field** is stripped, so it begins with a visible character, and not longer
than its limit. -/
theorem textField_eq_ok (passed : lengthWithin low high value >>= stripTextField = .ok kept) :
    kept.length ≤ high ∧ ∃ c ∈ kept, isSpace c = false := by
  obtain ⟨whole, within, stripped⟩ := exists_of_bind_eq_ok passed
  obtain ⟨rfl, bounded⟩ := lengthWithin_eq_ok within
  unfold stripTextField at stripped
  split at stripped
  · cases stripped
  · rename_i held
    cases stripped
    exact ⟨(length_strip_le whole).trans bounded, exists_visible_of_strip held⟩

/-- A value that is within its limits. -/
theorem valueWithin_eq_ok {low high value kept : Int}
    (passed : valueWithin low high value = .ok kept) : low ≤ kept ∧ kept ≤ high := by
  unfold valueWithin at passed
  split at passed
  · rename_i within
    cases passed
    exact within
  · cases passed

/-- An optional field that is there has been checked. -/
theorem optional_eq_ok {α : Type} {check : α → Except FieldError α} {sent : Option α} {kept : α}
    (passed : optional check sent = .ok (some kept)) :
    ∃ value, sent = some value ∧ check value = .ok kept := by
  cases sent with
  | none => cases passed
  | some value =>
      cases checked : check value with
      | error error =>
          rw [optional, checked] at passed
          cases passed
      | ok found =>
          rw [optional, checked] at passed
          cases passed
          exact ⟨value, rfl, checked⟩

end Fields

/-- `CameraCreate`, as it is sent and as it is validated; an `fps` that is not sent is 30. -/
structure CameraCreate where
  name : List Char
  rtspUrl : List Char
  location : Option (List Char)
  fps : Option Int
deriving DecidableEq, Repr

namespace CameraCreate

/-- The validation of the fields. -/
def validate (lib : UrlLib) (input : CameraCreate) : Except FieldError CameraCreate := do
  let name ← lengthWithin 1 100 input.name >>= stripTextField
  let rtspUrl ← lengthWithin 0 500 input.rtspUrl >>= validateRtspUrl lib
  let location ← optional (fun text => lengthWithin 0 255 text >>= stripTextField) input.location
  let fps ← optional (valueWithin 1 120) input.fps
  return { name, rtspUrl, location, fps }

/-- What is known of the fields of a camera that is accepted. -/
structure Accepted (lib : UrlLib) (data : CameraCreate) : Prop where
  name : data.name.length ≤ 100 ∧ ∃ c ∈ data.name, isSpace c = false
  rtspUrl : ∃ value, value.length ≤ 500 ∧ validateRtspUrl lib value = .ok data.rtspUrl
  location : ∀ text, data.location = some text → text.length ≤ 255
  fps : ∀ value, data.fps = some value → 1 ≤ value ∧ value ≤ 120

/-- **What the validation accepts.** -/
theorem accepted_of_validate {lib : UrlLib} {input data : CameraCreate}
    (accepted : validate lib input = .ok data) : data.Accepted lib := by
  obtain ⟨name, named, rest⟩ := exists_of_bind_eq_ok accepted
  obtain ⟨rtspUrl, addressed, rest⟩ := exists_of_bind_eq_ok rest
  obtain ⟨location, located, rest⟩ := exists_of_bind_eq_ok rest
  obtain ⟨fps, paced, rest⟩ := exists_of_bind_eq_ok rest
  cases rest
  constructor
  · exact textField_eq_ok named
  · obtain ⟨value, within, validated⟩ := exists_of_bind_eq_ok addressed
    obtain ⟨rfl, bounded⟩ := lengthWithin_eq_ok within
    exact ⟨_, bounded, validated⟩
  · rintro text rfl
    obtain ⟨sent, -, checked⟩ := optional_eq_ok located
    exact (textField_eq_ok checked).1
  · rintro value rfl
    obtain ⟨sent, -, checked⟩ := optional_eq_ok paced
    exact valueWithin_eq_ok checked

end CameraCreate

/-- `CameraUpdate`, as it is sent and as it is validated. -/
structure CameraUpdate where
  name : Option (List Char)
  location : Option (List Char)
  fps : Option Int
deriving DecidableEq, Repr

/-- The validation of its fields. -/
def CameraUpdate.validate (input : CameraUpdate) : Except FieldError CameraUpdate := do
  let name ← optional (fun text => lengthWithin 1 100 text >>= stripTextField) input.name
  let location ← optional (fun text => lengthWithin 0 255 text >>= stripTextField) input.location
  let fps ← optional (valueWithin 1 120) input.fps
  return { name, location, fps }

end PersonTracking.Contracts
