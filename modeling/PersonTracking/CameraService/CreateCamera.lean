import PersonTracking.CameraService.Cameras
import PersonTracking.Contracts.Camera
import PersonTracking.Shared.Http

/-!
# Registering a camera

`create_camera` stores what `CameraCreate` accepts, if the table does: its columns are
shorter than the fields, and its pattern for the URL begins at the first character,
where `urlparse` drops control characters.  A constraint that refuses the row is
answered as if the URL were registered, and any other refusal is not answered at all.

`createCamera_iff` says when the answer is the right one.
-/

namespace PersonTracking.CameraService

open Python Shared Contracts

/-! ## The table -/

/-- What is left open of PostgreSQL: the characters of its class `space`, all of which
Python takes for whitespace. -/
structure Postgres where
  isSpace : Char → Bool
  isSpace_le : ∀ c, isSpace c = true → Python.isSpace c = true

/-- How a statement fails: on its data, or on a constraint. -/
inductive SqlError
  | dataError
  | integrityError
deriving DecidableEq, Repr

/-- `VARCHAR(n)`: too long a text is refused, spaces at its end apart. -/
def varchar (n : ℕ) (text : List Char) : Option (List Char) :=
  if text.length ≤ n then some text
  else if (text.drop n).all fun c => c = ' ' then some (text.take n)
  else none

/-- `INTEGER`. -/
def isInteger (value : Int) : Bool := -2147483648 ≤ value ∧ value ≤ 2147483647

/-- `length(trim(name)) > 0`. -/
def nameNotBlank (name : List Char) : Bool := stripBy (fun c => c = ' ') name ≠ []

/-- `rtsp_url ~* '^rtsps?://[^[:space:]]+$'`. -/
def rtspScheme (pg : Postgres) (rtspUrl : List Char) : Bool :=
  ["rtsp".toList, "rtsps".toList].any fun scheme =>
    let start := scheme ++ "://".toList
    (rtspUrl.take start.length).map Char.toLower = start ∧ rtspUrl.drop start.length ≠ [] ∧
      (rtspUrl.drop start.length).all fun c => !pg.isSpace c

/-- `fps BETWEEN 1 AND 120`. -/
def fpsRange (fps : Int) : Bool := 1 ≤ fps ∧ fps ≤ 120

/-- The row of a new camera. -/
def newRow (id : Uuid) (now : DateTime) (name rtspUrl : List Char) (location : Option (List Char))
    (fps : Int) : Camera where
  id := id
  name := String.ofList name
  rtspUrl := String.ofList rtspUrl
  location := location.map String.ofList
  status := .disconnected
  fps := fps
  createdAt := now

/-- `get_by_rtsp_url`. -/
def getByRtspUrl (table : CameraTable) (rtspUrl : List Char) : Except SqlError (Option Camera) :=
  if hasNul rtspUrl then .error .dataError
  else .ok (table.rows.find? fun row => row.rtspUrl = String.ofList rtspUrl)

/-- The `INSERT` of `CameraService.create_camera`. -/
def insertCamera (pg : Postgres) (table : CameraTable) (id : Uuid) (now : DateTime)
    (name rtspUrl : List Char) (location : Option (List Char)) (fps : Int) :
    Except SqlError (Camera × CameraTable) :=
  if hasNul name ∨ hasNul rtspUrl ∨ location.any hasNul ∨ isInteger fps = false then
    .error .dataError
  else
    match varchar 100 name, varchar 255 rtspUrl, location.mapM (varchar 255) with
    | some name, some rtspUrl, some location =>
        let row := newRow id now name rtspUrl location fps
        if nameNotBlank name ∧ rtspScheme pg rtspUrl ∧ fpsRange fps then
          match table.createCamera row with
          | some after => .ok (row, after)
          | none => .error .integrityError
        else .error .integrityError
    | _, _, _ => .error .dataError

/-! ## The route -/

/-- `data.fps or 30`. -/
def fpsOrDefault : Option Int → Int
  | some 0 | none => 30
  | some value => value

/-- The answer to a URL that is registered. -/
def alreadyRegistered : HTTPException where
  statusCode := 409
  detail := "A camera with this RTSP URL is already registered."

/-- The route `create_camera`; a new row gets `id` and `now`. -/
def createCamera (pg : Postgres) (table : CameraTable) (id : Uuid) (now : DateTime)
    (data : CameraCreate) : Except Failure CameraResponse × CameraTable :=
  match getByRtspUrl table data.rtspUrl with
  | .error _ => (.error (.unhandled .sqlError), table)
  | .ok (some _) => (.error (.http alreadyRegistered), table)
  | .ok none =>
      match insertCamera pg table id now data.name data.rtspUrl data.location
          (fpsOrDefault data.fps) with
      | .ok (row, after) => (.ok (toResponseDto row), after)
      | .error .integrityError => (.error (.http alreadyRegistered), table)
      | .error .dataError => (.error (.unhandled .sqlError), table)

/-! ## The right answer -/

/-- The row that a camera should become. -/
def rowOf (id : Uuid) (now : DateTime) (data : CameraCreate) : Camera :=
  newRow id now data.name data.rtspUrl data.location (fpsOrDefault data.fps)

/-- The URL is in the table. -/
def Registered (table : CameraTable) (data : CameraCreate) : Prop :=
  ∃ row ∈ table.rows, row.rtspUrl = String.ofList data.rtspUrl

/-- The camera is stored and answered, or it is a conflict with a camera of its URL. -/
def AnsweredRightly (pg : Postgres) (table : CameraTable) (id : Uuid) (now : DateTime)
    (data : CameraCreate) : Prop :=
  (∃ after, createCamera pg table id now data = (.ok (toResponseDto (rowOf id now data)), after) ∧
      after.rows = table.rows ++ [rowOf id now data]) ∨
    ((createCamera pg table id now data).1 = .error (.http alreadyRegistered) ∧
      Registered table data)

/-- The fields keep the lengths of the columns and the `CHECK` constraints. -/
structure KeepsConstraints (pg : Postgres) (data : CameraCreate) : Prop where
  name : data.name.length ≤ 100
  rtspUrl : data.rtspUrl.length ≤ 255
  location : ∀ text, data.location = some text → text.length ≤ 255
  nameNotBlank : nameNotBlank data.name = true
  rtspScheme : rtspScheme pg data.rtspUrl = true
  fpsRange : fpsRange (fpsOrDefault data.fps) = true

/-- The URL does not begin with a control character. -/
def BeginsVisibly (data : CameraCreate) : Prop :=
  ∀ c, data.rtspUrl.head? = some c → isC0OrSpace c = false

/-- The table can store the camera under the id. -/
structure Storable (table : CameraTable) (id : Uuid) (data : CameraCreate) : Prop where
  short : data.rtspUrl.length ≤ 255
  visible : BeginsVisibly data
  name : hasNul data.name = false
  location : data.location.any hasNul = false
  fresh : id ∉ table.rows.map Camera.id

/-! ### The pattern -/

section Pattern

variable {lib : UrlLib} {pg : Postgres} {url : List Char}

/-- A URL that begins with a control character does not match. -/
theorem rtspScheme_of_control {c : Char} {rest : List Char} (control : isC0OrSpace c = true) :
    rtspScheme pg (c :: rest) = false := by
  have low : c.toNat ≤ 32 := of_decide_eq_true control
  have kept : c.toLower = c := toLower_of_not_upper fun upper => by
    have above : 65 ≤ c.toNat := upper.1
    omega
  have noLetter : c ≠ 'r' := by
    rintro rfl
    exact absurd low (by decide)
  simp [rtspScheme, kept, noLetter]

/-- What is behind the scheme of a URL matches. -/
theorem rtspScheme_of_split {head scheme more : List Char}
    (known : scheme = "rtsp".toList ∨ scheme = "rtsps".toList)
    (lowered : head.map Char.toLower = scheme) (held : more ≠ [])
    (visible : ∀ c ∈ more, pg.isSpace c = false) :
    rtspScheme pg (head ++ ':' :: '/' :: '/' :: more) = true := by
  have cut : head ++ ':' :: '/' :: '/' :: more = (head ++ "://".toList) ++ more := by simp
  have size : (scheme ++ "://".toList).length = (head ++ "://".toList).length := by
    rw [← lowered, List.length_append, List.length_append, List.length_map]
  have all : more.all (fun c => !pg.isSpace c) = true :=
    List.all_eq_true.mpr fun c member => by rw [visible c member]; rfl
  have start : (head ++ "://".toList).map Char.toLower = scheme ++ "://".toList := by
    rw [List.map_append, lowered]
    rfl
  refine List.any_eq_true.mpr ⟨scheme, ?_, ?_⟩
  · rcases known with rfl | rfl
    · exact List.mem_cons_self
    · exact List.mem_cons_of_mem _ List.mem_cons_self
  · have front : ((head ++ "://".toList) ++ more).take (scheme ++ "://".toList).length =
        head ++ "://".toList := by rw [size, List.take_left]
    have back : ((head ++ "://".toList) ++ more).drop (scheme ++ "://".toList).length = more := by
      rw [size, List.drop_left]
    rw [cut]
    simp only [front, back]
    exact decide_eq_true ⟨start, held, all⟩

/-- **The pattern of the table** matches the URLs the validator accepts, except those
that begin with a control character. -/
theorem rtspScheme_iff {value : List Char} (accepted : validateRtspUrl lib value = .ok url) :
    rtspScheme pg url = true ↔ ∀ c, url.head? = some c → isC0OrSpace c = false := by
  obtain ⟨-, unspaced, ⟨parts⟩⟩ := acceptedParts_of_validate accepted
  constructor
  · intro whole c first
    obtain ⟨rest, rfl⟩ : ∃ rest, url = c :: rest := by
      cases url with
      | nil => cases first
      | cons d rest => exact ⟨rest, by rw [Option.some.inj first]⟩
    by_contra control
    rw [rtspScheme_of_control (by simpa using control)] at whole
    cases whole
  · intro visible
    have clean : cleanUrl url = url := by
      rw [cleanUrl_of_unspaced unspaced]
      cases url with
      | nil => rfl
      | cons c rest =>
          exact List.dropWhile_cons_of_neg (by rw [visible c rfl]; exact Bool.false_ne_true)
    obtain ⟨schemed, located⟩ := parts_of_urlsplit parts.split
    rw [clean] at schemed located
    have found : (splitScheme url).1 ≠ [] := by
      rw [← schemed]
      rcases parts.scheme with same | same <;> rw [same] <;> decide
    have hosted : (splitNetloc (splitScheme url).2).1 ≠ [] := by
      rw [← located]
      exact fun empty => (lower_hostname parts.hosted).1 (by rw [empty]; rfl)
    obtain ⟨head, lowered, split⟩ := split_of_splitScheme found
    obtain ⟨more, held, slashes⟩ := split_of_splitNetloc hosted
    rw [slashes] at split
    rw [← schemed] at lowered
    rw [split] at unspaced ⊢
    refine rtspScheme_of_split parts.scheme lowered held fun c member => ?_
    have seen := List.any_eq_false.mp unspaced c (by simp [member])
    exact Bool.eq_false_iff.mpr fun space => seen (pg.isSpace_le c space)

end Pattern

/-! ### The columns -/

section Columns

variable {lib : UrlLib} {pg : Postgres} {table after : CameraTable} {id : Uuid} {now : DateTime}
  {data : CameraCreate}

/-- A text that is not too long is stored as it is. -/
theorem varchar_of_le {n : ℕ} {text : List Char} (short : text.length ≤ n) :
    varchar n text = some text := if_pos short

/-- A text that is too long is refused if its characters are visible. -/
theorem varchar_of_visible {n : ℕ} {text : List Char} (long : ¬ text.length ≤ n)
    (visible : text.any isSpace = false) : varchar n text = none := by
  rw [varchar, if_neg long, if_neg]
  intro spaces
  have held : text.drop n ≠ [] := by
    rw [ne_eq, List.drop_eq_nil_iff]
    exact long
  have space := of_decide_eq_true (List.all_eq_true.mp spaces _ (List.head_mem held))
  refine List.any_eq_false.mp visible _ (List.mem_of_mem_drop (List.head_mem held)) ?_
  rw [space]
  decide

/-- A name with a visible character is not blank. -/
theorem nameNotBlank_of_visible {name : List Char} (visible : ∃ c ∈ name, isSpace c = false) :
    nameNotBlank name = true := by
  obtain ⟨c, member, seen⟩ := visible
  have notSpace : decide (c = ' ') = false :=
    decide_eq_false fun same => by rw [same] at seen; cases seen
  exact decide_eq_true (List.ne_nil_of_mem (mem_stripBy member notSpace))

/-- Every frame rate that is accepted is one the table admits. -/
theorem fpsOrDefault_of_accepted (accepted : data.Accepted lib) :
    1 ≤ fpsOrDefault data.fps ∧ fpsOrDefault data.fps ≤ 120 := by
  unfold fpsOrDefault
  split
  · exact ⟨by decide, by decide⟩
  · exact ⟨by decide, by decide⟩
  · rename_i value _ sent
    exact accepted.fps value sent

/-- **The columns and the constraints** hold what is accepted, if the URL is short enough
and begins with a visible character. -/
theorem keepsConstraints_iff (accepted : data.Accepted lib) :
    KeepsConstraints pg data ↔ data.rtspUrl.length ≤ 255 ∧ BeginsVisibly data := by
  obtain ⟨value, -, validated⟩ := accepted.rtspUrl
  constructor
  · intro kept
    exact ⟨kept.rtspUrl, (rtspScheme_iff validated).mp kept.rtspScheme⟩
  · rintro ⟨short, visible⟩
    exact
      { name := accepted.name.1
        rtspUrl := short
        location := accepted.location
        nameNotBlank := nameNotBlank_of_visible accepted.name.2
        rtspScheme := (rtspScheme_iff validated).mpr visible
        fpsRange := decide_eq_true (fpsOrDefault_of_accepted accepted) }

/-- **What the `INSERT` comes to**, of a camera that is accepted and has no NUL. -/
theorem insertCamera_of_accepted (accepted : data.Accepted lib)
    (plain : hasNul data.name = false ∧ hasNul data.rtspUrl = false ∧
      data.location.any hasNul = false) :
    insertCamera pg table id now data.name data.rtspUrl data.location (fpsOrDefault data.fps) =
      if data.rtspUrl.length ≤ 255 then
        if rtspScheme pg data.rtspUrl then
          match table.createCamera (rowOf id now data) with
          | some after => .ok (rowOf id now data, after)
          | none => .error .integrityError
        else .error .integrityError
      else .error .dataError := by
  obtain ⟨value, -, validated⟩ := accepted.rtspUrl
  obtain ⟨-, unspaced, -⟩ := acceptedParts_of_validate validated
  obtain ⟨low, high⟩ := fpsOrDefault_of_accepted accepted
  have integer : isInteger (fpsOrDefault data.fps) = true := decide_eq_true ⟨by omega, by omega⟩
  have located : data.location.mapM (varchar 255) = some data.location := by
    cases found : data.location with
    | none => rfl
    | some text =>
        rw [Option.mapM_some, varchar_of_le (accepted.location text found)]
        rfl
  have inRange : fpsRange (fpsOrDefault data.fps) = true := decide_eq_true ⟨low, high⟩
  rw [insertCamera, if_neg (by simp [plain, integer]), varchar_of_le accepted.name.1, located]
  by_cases short : data.rtspUrl.length ≤ 255
  · rw [varchar_of_le short, if_pos short]
    simp only [nameNotBlank_of_visible accepted.name.2, inRange, true_and, and_true]
    rfl
  · rw [varchar_of_visible short unspaced, if_neg short]

/-- Where the URL is new, the table takes a row under a new id. -/
theorem createCamera_of_fresh {row : Camera} (fresh : row.id ∉ table.rows.map Camera.id)
    (unknown : row.rtspUrl ∉ table.rows.map Camera.rtspUrl) (offline : row.status = .disconnected) :
    ∃ after, table.createCamera row = some after ∧ after.rows = table.rows ++ [row] := by
  rw [CameraTable.createCamera, dif_pos fresh, if_neg unknown]
  have same : { row with status := .disconnected } = row := by rw [← offline]
  exact ⟨_, rfl, congrArg (fun stored => table.rows ++ [stored]) same⟩

/-- A row that the table takes has a new id. -/
theorem fresh_of_createCamera {row : Camera} (stored : table.createCamera row = some after) :
    row.id ∉ table.rows.map Camera.id := by
  intro taken
  rw [CameraTable.createCamera, dif_neg (not_not.mpr taken)] at stored
  cases stored

/-- A row is stored only where its texts have no NUL. -/
theorem plain_of_insertCamera {stored : Camera × CameraTable}
    (inserted : insertCamera pg table id now data.name data.rtspUrl data.location
      (fpsOrDefault data.fps) = .ok stored) :
    hasNul data.name = false ∧ hasNul data.rtspUrl = false ∧
      data.location.any hasNul = false := by
  by_contra refused
  rw [insertCamera, if_pos] at inserted
  · cases inserted
  · by_contra none_of_them
    simp only [not_or, Bool.not_eq_true] at none_of_them
    exact refused ⟨none_of_them.1, none_of_them.2.1, none_of_them.2.2.1⟩

/-- **An `INSERT` that succeeds** stores the camera as it is, and the table could store it. -/
theorem storable_of_insertCamera (accepted : data.Accepted lib) {row : Camera}
    (inserted : insertCamera pg table id now data.name data.rtspUrl data.location
      (fpsOrDefault data.fps) = .ok (row, after)) :
    row = rowOf id now data ∧ Storable table id data := by
  obtain ⟨value, -, validated⟩ := accepted.rtspUrl
  have plain := plain_of_insertCamera inserted
  rw [insertCamera_of_accepted accepted plain] at inserted
  split at inserted
  · rename_i short
    split at inserted
    · rename_i matched
      split at inserted
      · rename_i next taken
        cases inserted
        exact ⟨rfl, short, (rtspScheme_iff validated).mp matched, plain.1, plain.2.2,
          fresh_of_createCamera taken⟩
      · cases inserted
    · cases inserted
  · cases inserted

/-- **A camera that the table can store** is stored where its URL is new. -/
theorem insertCamera_of_storable (accepted : data.Accepted lib)
    (plain : hasNul data.rtspUrl = false) (unknown : ¬ Registered table data)
    (storable : Storable table id data) :
    ∃ after, insertCamera pg table id now data.name data.rtspUrl data.location
        (fpsOrDefault data.fps) = .ok (rowOf id now data, after) ∧
      after.rows = table.rows ++ [rowOf id now data] := by
  obtain ⟨value, -, validated⟩ := accepted.rtspUrl
  have urlNew : (rowOf id now data).rtspUrl ∉ table.rows.map Camera.rtspUrl := fun member => by
    obtain ⟨row, inside, same⟩ := List.mem_map.mp member
    exact unknown ⟨row, inside, same⟩
  obtain ⟨after, stored, rows⟩ :=
    @createCamera_of_fresh table (rowOf id now data) storable.fresh urlNew rfl
  refine ⟨after, ?_, rows⟩
  rw [insertCamera_of_accepted accepted ⟨storable.name, plain, storable.location⟩,
    if_pos storable.short, if_pos ((rtspScheme_iff validated).mpr storable.visible), stored]

/-! ### The answer -/

/-- A URL with a NUL in it is not even looked up. -/
theorem createCamera_of_nul (nul : hasNul data.rtspUrl = true) :
    createCamera pg table id now data = (.error (.unhandled .sqlError), table) := by
  rw [createCamera, getByRtspUrl, if_pos nul]

/-- A URL that is registered is a conflict. -/
theorem createCamera_of_registered (plain : hasNul data.rtspUrl = false)
    (registered : Registered table data) :
    createCamera pg table id now data = (.error (.http alreadyRegistered), table) := by
  obtain ⟨row, member, same⟩ := registered
  have found :
      (table.rows.find? fun row => row.rtspUrl = String.ofList data.rtspUrl).isSome = true :=
    List.find?_isSome.mpr ⟨row, member, decide_eq_true same⟩
  obtain ⟨first, located⟩ := Option.isSome_iff_exists.mp found
  rw [createCamera, getByRtspUrl, if_neg (by simp [plain]), located]

/-- A URL that is not registered is left to the `INSERT`. -/
theorem createCamera_of_unknown (plain : hasNul data.rtspUrl = false)
    (unknown : ¬ Registered table data) :
    createCamera pg table id now data =
      match insertCamera pg table id now data.name data.rtspUrl data.location
          (fpsOrDefault data.fps) with
      | .ok (row, after) => (.ok (toResponseDto row), after)
      | .error .integrityError => (.error (.http alreadyRegistered), table)
      | .error .dataError => (.error (.unhandled .sqlError), table) := by
  have nobody : (table.rows.find? fun row => row.rtspUrl = String.ofList data.rtspUrl) = none :=
    List.find?_eq_none.mpr fun row member same => unknown ⟨row, member, of_decide_eq_true same⟩
  rw [createCamera, getByRtspUrl, if_neg (by simp [plain]), nobody]

/-- **A URL that is too long** for its column ends in an exception nobody catches. -/
theorem createCamera_of_long (accepted : data.Accepted lib)
    (plain : hasNul data.name = false ∧ hasNul data.rtspUrl = false ∧
      data.location.any hasNul = false)
    (unknown : ¬ Registered table data) (long : ¬ data.rtspUrl.length ≤ 255) :
    createCamera pg table id now data = (.error (.unhandled .sqlError), table) := by
  rw [createCamera_of_unknown plain.2.1 unknown, insertCamera_of_accepted accepted plain,
    if_neg long]

/-- **A URL behind a control character** is answered as if it were registered. -/
theorem createCamera_of_control (accepted : data.Accepted lib)
    (plain : hasNul data.name = false ∧ hasNul data.rtspUrl = false ∧
      data.location.any hasNul = false)
    (unknown : ¬ Registered table data) (short : data.rtspUrl.length ≤ 255)
    (control : ¬ BeginsVisibly data) :
    createCamera pg table id now data = (.error (.http alreadyRegistered), table) := by
  obtain ⟨value, -, validated⟩ := accepted.rtspUrl
  have refused : ¬ rtspScheme pg data.rtspUrl = true := fun matched =>
    control ((rtspScheme_iff validated).mp matched)
  rw [createCamera_of_unknown plain.2.1 unknown, insertCamera_of_accepted accepted plain,
    if_pos short, if_neg refused]

/-- The answer to a camera that is accepted. -/
theorem answeredRightly_iff (accepted : data.Accepted lib) :
    AnsweredRightly pg table id now data ↔
      hasNul data.rtspUrl = false ∧ (Registered table data ∨ Storable table id data) := by
  cases nul : hasNul data.rtspUrl with
  | true =>
      refine iff_of_false ?_ fun wrong => Bool.false_ne_true wrong.1.symm
      rw [AnsweredRightly, createCamera_of_nul nul]
      rintro (⟨after, answer, -⟩ | ⟨answer, -⟩) <;> cases answer
  | false =>
      rw [and_iff_right rfl]
      by_cases registered : Registered table data
      · refine iff_of_true (Or.inr ⟨?_, registered⟩) (Or.inl registered)
        rw [createCamera_of_registered nul registered]
      · rw [or_iff_right registered, AnsweredRightly, createCamera_of_unknown nul registered]
        constructor
        · rintro (⟨after, answer, -⟩ | ⟨-, wrong⟩)
          · split at answer
            · rename_i row next inserted
              exact (storable_of_insertCamera accepted inserted).2
            · cases answer
            · cases answer
          · exact absurd wrong registered
        · intro storable
          obtain ⟨after, inserted, rows⟩ :=
            insertCamera_of_storable accepted nul registered storable
          exact Or.inl ⟨after, by rw [inserted], rows⟩

end Columns

/-- **When a camera is answered rightly.**  For every input that is accepted and every
table, whatever is left open of the libraries: the camera is stored and answered, or it is
a conflict with a camera of its URL, if and only if its URL has no NUL and is registered,
or the table can store the camera.  The columns and the constraints hold it if and only if
its URL has at most 255 characters and does not begin with a control character. -/
theorem createCamera_iff (lib : UrlLib) (pg : Postgres) (table : CameraTable) (id : Uuid)
    (now : DateTime) (input data : CameraCreate)
    (accepted : CameraCreate.validate lib input = .ok data) :
    (AnsweredRightly pg table id now data ↔
        hasNul data.rtspUrl = false ∧ (Registered table data ∨ Storable table id data)) ∧
      (KeepsConstraints pg data ↔ data.rtspUrl.length ≤ 255 ∧ BeginsVisibly data) := by
  have fields := CameraCreate.accepted_of_validate accepted
  exact ⟨answeredRightly_iff fields, keepsConstraints_iff fields⟩

/-! ## A camera in the lobby -/

/-- PostgreSQL where only ASCII characters are whitespace. -/
def Postgres.ascii : Postgres where
  isSpace c := 9 ≤ c.toNat && c.toNat ≤ 13 || c.toNat = 32
  isSpace_le c space := by
    simp only [Bool.or_eq_true, Bool.and_eq_true, decide_eq_true_eq] at space
    simp only [Python.isSpace, Bool.or_eq_true, Bool.and_eq_true, decide_eq_true_eq, beq_iff_eq]
    omega

/-- The camera with some URL. -/
def lobby (rtspUrl : List Char) : CameraCreate where
  name := "Lobby".toList
  rtspUrl := rtspUrl
  location := none
  fps := some 25

/-- A URL of 14 characters. -/
def shortUrl : List Char := "rtsp://camera/".toList

/-- It begins with the letter of its scheme. -/
theorem beginsVisibly_shortUrl : BeginsVisibly (lobby shortUrl) := by
  intro c first
  cases first
  decide

theorem createCamera_shortUrl :
    AnsweredRightly .ascii .empty (.ofNat 1) .epoch (lobby shortUrl) ∧
      KeepsConstraints .ascii (lobby shortUrl) := by
  obtain ⟨answered, kept⟩ := createCamera_iff UrlLib.ascii .ascii .empty (.ofNat 1) .epoch
    (lobby shortUrl) (lobby shortUrl) rfl
  refine ⟨answered.mpr ⟨by decide, Or.inr ?_⟩, kept.mpr ⟨by decide, beginsVisibly_shortUrl⟩⟩
  exact ⟨by decide, beginsVisibly_shortUrl, by decide, rfl, List.not_mem_nil⟩

/-- A URL of 256 characters. -/
def longUrl : List Char := shortUrl ++ List.replicate 242 'a'

/-- A URL behind a control character. -/
def controlUrl : List Char := Char.ofNat 1 :: shortUrl

/-- The table is empty.  The long URL ends in an exception, and the other is answered as
if it were registered. -/
theorem accepted_and_refused :
    (CameraCreate.validate UrlLib.ascii (lobby longUrl) = .ok (lobby longUrl) ∧
        createCamera .ascii .empty (.ofNat 1) .epoch (lobby longUrl) =
          (.error (.unhandled .sqlError), .empty) ∧
        ¬ AnsweredRightly .ascii .empty (.ofNat 1) .epoch (lobby longUrl) ∧
        ¬ KeepsConstraints .ascii (lobby longUrl)) ∧
      (CameraCreate.validate UrlLib.ascii (lobby controlUrl) = .ok (lobby controlUrl) ∧
        createCamera .ascii .empty (.ofNat 1) .epoch (lobby controlUrl) =
          (.error (.http alreadyRegistered), .empty) ∧
        ¬ AnsweredRightly .ascii .empty (.ofNat 1) .epoch (lobby controlUrl) ∧
        ¬ KeepsConstraints .ascii (lobby controlUrl)) := by
  have longAccepted : CameraCreate.validate UrlLib.ascii (lobby longUrl) = .ok (lobby longUrl) := by
    decide +kernel
  have controlAccepted : CameraCreate.validate UrlLib.ascii (lobby controlUrl) =
      .ok (lobby controlUrl) := rfl
  have nobody : ∀ data, ¬ Registered .empty data := fun data ⟨row, member, _⟩ => by cases member
  have hidden : ¬ BeginsVisibly (lobby controlUrl) := fun visible =>
    absurd (visible (Char.ofNat 1) rfl) (by decide)
  have failed := @createCamera_of_long UrlLib.ascii .ascii .empty (.ofNat 1) .epoch _
    (CameraCreate.accepted_of_validate longAccepted) (by decide +kernel) (nobody _)
    (by decide +kernel)
  have conflict := @createCamera_of_control UrlLib.ascii .ascii .empty (.ofNat 1) .epoch _
    (CameraCreate.accepted_of_validate controlAccepted) (by decide) (nobody _) (by decide) hidden
  refine ⟨⟨longAccepted, failed, ?_, fun kept => absurd kept.rtspUrl (by decide +kernel)⟩,
    ⟨controlAccepted, conflict, ?_, fun kept => absurd kept.rtspScheme (by decide)⟩⟩
  · rw [AnsweredRightly, failed]
    rintro (⟨after, answer, -⟩ | ⟨answer, -⟩)
    · cases answer
    · cases answer
  · rw [AnsweredRightly, conflict]
    rintro (⟨after, answer, -⟩ | ⟨-, registered⟩)
    · cases answer
    · exact nobody _ registered

end PersonTracking.CameraService
