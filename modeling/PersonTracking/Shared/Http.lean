import PersonTracking.Library.OrderedDict
import PersonTracking.Python.Json

/-!
# HTTP as the services see it

* `Headers` — a received header list.  The server lower-cases the names and
  keeps order and duplicates; a read by name ignores case and takes the first
  match (`Headers.get?`).
* `Headers.toDict` — `dict(request.headers)`: one entry per name, first value.
* `sentHeaders` — what the HTTP client puts on the wire for a dict of headers:
  every entry in insertion order, names that differ only in case kept apart.
  A value that is not an ASCII string is refused before anything is sent.
* `HTTPException`, `Failure` — the two ways a request handler fails.
-/

namespace PersonTracking.Shared

open Library Python

/-- An error answered to the HTTP client. -/
structure HTTPException where
  statusCode : ℕ
  detail : String
  headers : List (String × String) := []
deriving DecidableEq, Repr

/-- How a request handler can fail: with an answer of its own, or with an
exception nobody catches, which the server turns into a 500. -/
inductive Failure
  | http (exception : HTTPException)
  | unhandled (error : PyError)
deriving DecidableEq, Repr

/-- The status code a failed handler answers. -/
def Failure.statusCode : Failure → ℕ
  | http exception => exception.statusCode
  | unhandled _ => 500

/-- A received header list: names are lower-case. -/
structure Headers where
  raw : List (String × String)
  lowered : ∀ header ∈ raw, lower header.1 = header.1

namespace Headers

/-- The server receives a header list as the client wrote it. -/
def receive (wire : List (String × String)) : Headers where
  raw := wire.map fun header => (lower header.1, header.2)
  lowered := by
    intro header member
    obtain ⟨original, -, rfl⟩ := List.mem_map.mp member
    exact lower_lower original.1

/-- `headers.get(name)`: the first value whose name matches, ignoring case. -/
def get? (headers : Headers) (name : String) : Option String :=
  (headers.raw.find? fun header => header.1 = lower name).map Prod.snd

/-- `Header(default="", alias=name)` of a route dependency. -/
def param (headers : Headers) (name : String) : String := (headers.get? name).getD ""

/-- `dict(headers)`. -/
def toDict (headers : Headers) : OrderedDict String Json :=
  OrderedDict.ofKeys (headers.raw.map Prod.fst) fun name => .str (headers.param name)

theorem lower_of_mem_keys_toDict {headers : Headers} {name : String}
    (member : name ∈ headers.toDict.keys) : lower name = name := by
  rw [toDict, OrderedDict.mem_keys_ofKeys, List.mem_map] at member
  obtain ⟨header, inRaw, rfl⟩ := member
  exact headers.lowered header inRaw

theorem get?_isSome_iff {headers : Headers} {name : String} (lowerCase : lower name = name) :
    (headers.get? name).isSome ↔ name ∈ headers.raw.map Prod.fst := by
  rw [get?, lowerCase, Option.isSome_map, List.find?_isSome]
  simp

/-- The dict holds the value a read by the same lower-case name returns. -/
theorem get?_toDict (headers : Headers) {name : String} (lowerCase : lower name = name) :
    headers.toDict.get? name = (headers.get? name).map Json.str := by
  rw [toDict, OrderedDict.get?_ofKeys]
  by_cases present : name ∈ headers.raw.map Prod.fst
  · obtain ⟨value, found⟩ := Option.isSome_iff_exists.mp ((get?_isSome_iff lowerCase).mpr present)
    simp [present, param, found]
  · have absent : headers.get? name = none := by
      rw [← Option.not_isSome_iff_eq_none, get?_isSome_iff lowerCase]
      exact present
    rw [if_neg present, absent, Option.map_none]

end Headers

/-- The value of one header as the HTTP client encodes it. -/
def sentValue : Json → Except PyError String
  | .str text => if text.toList.all fun c => c.toNat < 128 then .ok text else .error .unicodeError
  | _ => .error .typeError

/-- The header list on the wire for a dict of headers. -/
def sentHeaders : List (String × Json) → Except PyError (List (String × String))
  | [] => .ok []
  | (name, value) :: rest => do
      let text ← sentValue value
      let texts ← sentHeaders rest
      return (name, text) :: texts

theorem eq_str_of_sentValue {value : Json} {text : String} (sent : sentValue value = .ok text) :
    value = .str text := by
  cases value with
  | str written =>
      simp only [sentValue] at sent
      split at sent
      · cases sent; rfl
      · cases sent
  | null | bool _ | int _ | float _ | arr _ | obj _ => simp [sentValue] at sent

theorem sentHeaders_cons_eq_ok {name : String} {value : Json} {rest : List (String × Json)}
    {wire : List (String × String)} (sent : sentHeaders ((name, value) :: rest) = .ok wire) :
    ∃ text texts, value = .str text ∧ sentHeaders rest = .ok texts ∧
      wire = (name, text) :: texts := by
  rw [sentHeaders] at sent
  cases first : sentValue value with
  | error e => rw [first] at sent; cases sent
  | ok text =>
      cases later : sentHeaders rest with
      | error e => rw [first, later] at sent; cases sent
      | ok texts =>
          rw [first, later] at sent
          cases sent
          exact ⟨text, texts, eq_str_of_sentValue first, rfl, rfl⟩

/-- **Headers survive the wire unmerged.**  What was sent is the list of
entries, values unchanged. -/
theorem map_str_of_sentHeaders {entries : List (String × Json)} {wire : List (String × String)}
    (sent : sentHeaders entries = .ok wire) :
    wire.map (fun header => (header.1, Json.str header.2)) = entries := by
  induction entries generalizing wire with
  | nil => cases sent; rfl
  | cons entry rest ih =>
      obtain ⟨name, value⟩ := entry
      obtain ⟨text, texts, rfl, later, rfl⟩ := sentHeaders_cons_eq_ok sent
      rw [List.map_cons, ih later]

end PersonTracking.Shared
