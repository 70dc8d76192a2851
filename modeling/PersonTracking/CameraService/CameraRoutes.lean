import Mathlib.Data.List.Sort
import PersonTracking.CameraService.CreateCamera
import PersonTracking.Library.OffsetPaging
import PersonTracking.Library.Transition
import PersonTracking.Shared.Security

/-!
# The camera routes

All routes of the camera service on one table, next to the health monitor, which writes
the status of a row.  An `Exchange` is a request with its answer, or such a write.

`remembered` computes the registered cameras from the exchanges alone: what has been answered
to a registration or an update is what the service has, until a deletion is answered.
`trueToAnswers_of_run` says that the table is what the exchanges say, over every run, and
with it what every reading route answers.  `reads_every_camera` is about a client that
reads the list page by page while others change it.
-/

namespace PersonTracking.CameraService

open Library Python Shared Contracts

/-! ## The routes -/

/-- What the routes use: the libraries, the database, and the settings. -/
structure CameraRoutes where
  lib : UrlLib
  pg : Postgres
  internalServiceKey : String
  cameraListMaxLimit : Int

/-- A request; a new row gets `id` and `now`. -/
inductive CameraCall
  | create (id : Uuid) (now : DateTime) (input : CameraCreate)
  | update (cameraId : String) (input : CameraUpdate)
  | delete (cameraId : String)
  | get (cameraId : String)
  | list (limit offset : Int)
  | statusSummary

/-- What is answered to a request that succeeds. -/
inductive CameraAnswer
  | camera (response : CameraResponse)
  | cameras (responses : List CameraResponse)
  | summary (total online offline : Int)
  | noContent
deriving DecidableEq, Repr

/-- A body or a query that does not pass its validation. -/
def unprocessable : HTTPException where
  statusCode := 422
  detail := "Unprocessable Entity"

/-- An id that is no UUID. -/
def invalidCameraId : HTTPException where
  statusCode := 400
  detail := "Invalid camera ID format"

/-- An id that is not in the table. -/
def cameraNotFound : HTTPException where
  statusCode := 404
  detail := "Camera not found"

/-- `require_admin` or `require_operator`. -/
def CameraCall.allowedRoles : CameraCall → List Role
  | .create _ _ _ | .update _ _ | .delete _ => [.admin]
  | .get _ | .list _ _ | .statusSummary => [.admin, .operator]

/-- The row with the id in a path. -/
def readCamera (table : CameraTable) (cameraId : String) : Except Failure Camera :=
  match Uuid.parse cameraId with
  | none => .error (.http invalidCameraId)
  | some id =>
      match table.getById id with
      | none => .error (.http cameraNotFound)
      | some row => .ok row

/-- The `UPDATE` of `CameraService.update_camera`: the fields that are given, as the columns
and the constraints take them. -/
def updateColumns (data : CameraUpdate) :
    Except SqlError (Option (List Char) × Option (List Char) × Option Int) :=
  if data.name.any hasNul ∨ data.location.any hasNul ∨
      (data.fps.any fun fps => !isInteger fps) then .error .dataError
  else
    match data.name.mapM (varchar 100), data.location.mapM (varchar 255) with
    | some name, some location =>
        if name.all nameNotBlank ∧ data.fps.all fpsRange then .ok (name, location, data.fps)
        else .error .integrityError
    | _, _ => .error .dataError

/-- The route `update_camera`, after the validation; what is raised is not caught. -/
def updateCamera (table : CameraTable) (cameraId : String) (data : CameraUpdate) :
    Except Failure CameraResponse × CameraTable :=
  match readCamera table cameraId with
  | .error failure => (.error failure, table)
  | .ok row =>
      match updateColumns data with
      | .error _ => (.error (.unhandled .sqlError), table)
      | .ok (name, location, fps) =>
          let after := table.updateCamera row.id (name.map String.ofList)
            (location.map String.ofList) fps
          -- `db.refresh(camera)`
          match after.getById row.id with
          | some stored => (.ok (toResponseDto stored), after)
          | none => (.error (.unhandled .runtimeError), after)

/-- The route `delete_camera`. -/
def deleteCamera (table : CameraTable) (cameraId : String) : Except Failure Unit × CameraTable :=
  match readCamera table cameraId with
  | .error failure => (.error failure, table)
  | .ok row => (.ok (), table.deleteCamera row.id)

/-- The route `get_camera`. -/
def getCamera (table : CameraTable) (cameraId : String) : Except Failure CameraResponse :=
  (readCamera table cameraId).map toResponseDto

/-- `get_status_counts`. -/
def getStatusCounts (table : CameraTable) : ℕ × ℕ :=
  (table.rows.length, table.rows.countP fun row => row.status = .connected)

/-- The route `get_status_summary`. -/
def getStatusSummary (table : CameraTable) : CameraAnswer :=
  let counts := getStatusCounts table
  .summary counts.1 counts.2 (counts.1 - counts.2)

namespace CameraRoutes

variable (routes : CameraRoutes)

/-- The route `list_cameras`. -/
def listCameras (table : CameraTable) (limit offset : Int) :
    Except Failure (List CameraResponse) :=
  if 1 ≤ limit ∧ limit ≤ routes.cameraListMaxLimit ∧ 0 ≤ offset then
    .ok ((table.listAllCameras (some limit.toNat) offset.toNat).map toResponseDto)
  else .error (.http unprocessable)

/-- A request that is let in. -/
def route (table : CameraTable) : CameraCall → Except Failure CameraAnswer × CameraTable
  | .create id now input =>
      match CameraCreate.validate routes.lib input with
      | .error _ => (.error (.http unprocessable), table)
      | .ok data =>
          let answered := createCamera routes.pg table id now data
          (answered.1.map .camera, answered.2)
  | .update cameraId input =>
      match input.validate with
      | .error _ => (.error (.http unprocessable), table)
      | .ok data =>
          let answered := updateCamera table cameraId data
          (answered.1.map .camera, answered.2)
  | .delete cameraId =>
      let answered := deleteCamera table cameraId
      (answered.1.map fun _ => .noContent, answered.2)
  | .get cameraId => ((getCamera table cameraId).map .camera, table)
  | .list limit offset => ((routes.listCameras table limit offset).map .cameras, table)
  | .statusSummary => (.ok (getStatusSummary table), table)

/-- A request: who may not make it is refused before anything is read. -/
def handle (table : CameraTable) (headers : Headers) (call : CameraCall) :
    Except Failure CameraAnswer × CameraTable :=
  match requireRoles routes.internalServiceKey call.allowedRoles headers with
  | .error exception => (.error (.http exception), table)
  | .ok _ => routes.route table call

end CameraRoutes

/-! ## The order of the list -/

/-- What the list is ordered by. -/
abbrev ListKey : Type := Int × Uuid

/-- `ORDER BY created_at DESC, id`. -/
def KeyBefore (a b : ListKey) : Prop := b.1 < a.1 ∨ (b.1 = a.1 ∧ a.2.int ≤ b.2.int)

instance : DecidableRel KeyBefore := fun _ _ => inferInstanceAs (Decidable (_ ∨ _))

instance : Std.Total KeyBefore where
  total a b := by
    unfold KeyBefore
    omega

instance : Std.Antisymm KeyBefore where
  antisymm a b first second := by
    unfold KeyBefore at first second
    refine Prod.ext (by omega) (Uuid.ext ?_)
    omega

instance : IsTrans ListKey KeyBefore where
  trans a b c first second := by
    unfold KeyBefore at *
    omega

/-- The key of a row. -/
def Camera.listKey (row : Camera) : ListKey := (row.createdAt.instant, row.id)

/-- The keys in the order of the list. -/
def CameraTable.listed (table : CameraTable) : List ListKey :=
  (table.rows.map Camera.listKey).mergeSort fun a b => KeyBefore a b

/-- The keys are listed as the rows are. -/
theorem map_listKey_mergeSort (table : CameraTable) :
    (table.rows.mergeSort CameraTable.listedBefore).map Camera.listKey = table.listed := by
  refine List.map_mergeSort fun a _ b _ => ?_
  rw [Bool.eq_iff_iff, decide_eq_true_iff]
  simp [CameraTable.listedBefore, KeyBefore, Camera.listKey]

theorem pairwise_listed (keys : List ListKey) :
    (keys.mergeSort fun a b => KeyBefore a b).Pairwise KeyBefore := by
  refine (List.pairwise_mergeSort (fun a b c first second => ?_) (fun a b => ?_) keys).imp
    fun before => of_decide_eq_true before
  · exact decide_eq_true
      (IsTrans.trans a b c (of_decide_eq_true first) (of_decide_eq_true second))
  · simpa using total_of KeyBefore a b

/-! ## Exchanges -/

/-- A request with its answer, or a status that the monitor has written. -/
inductive Exchange
  | answered (call : CameraCall) (result : Except Failure CameraAnswer)
  | monitored (id : Uuid) (status : CameraStatus)

/-- The registered cameras, as the clients know them. -/
abbrev Registry : Type := Uuid → Option CameraResponse

/-- What an exchange says about the registered cameras. -/
def Exchange.tell (registry : Registry) : Exchange → Registry
  | .answered (.create _ _ _) (.ok (.camera response))
  | .answered (.update _ _) (.ok (.camera response)) =>
      match Uuid.parse response.id with
      | some id => Function.update registry id (some response)
      | none => registry
  | .answered (.delete cameraId) (.ok .noContent) =>
      match Uuid.parse cameraId with
      | some id => Function.update registry id none
      | none => registry
  | .answered _ _ => registry
  | .monitored id status =>
      Function.update registry id
        ((registry id).map fun response => { response with status := status.text })

/-- When the cameras were registered, as the clients know it. -/
abbrev Dates : Type := Uuid → Option DateTime

/-- What an exchange says about when the cameras were registered: an answered registration,
when its own was. -/
def Exchange.date (dates : Dates) : Exchange → Dates
  | .answered (.create _ now _) (.ok (.camera response)) =>
      match Uuid.parse response.id with
      | some id => Function.update dates id (some now)
      | none => dates
  | _ => dates

/-- A failed request says nothing. -/
theorem Exchange.tell_error (registry : Registry) (call : CameraCall) (failure : Failure) :
    tell registry (.answered call (.error failure)) = registry := by
  cases call <;> rfl

theorem Exchange.date_error (dates : Dates) (call : CameraCall) (failure : Failure) :
    date dates (.answered call (.error failure)) = dates := by
  cases call <;> rfl

theorem Exchange.date_create {dates : Dates} {id new : Uuid} {now : DateTime}
    {input : CameraCreate} {response : CameraResponse} (parsed : Uuid.parse response.id = some id) :
    date dates (.answered (.create new now input) (.ok (.camera response))) =
      Function.update dates id (some now) := by
  simp only [date, parsed]

/-- A camera that is answered is known under its id. -/
theorem Exchange.tell_create {registry : Registry} {id new : Uuid} {now : DateTime}
    {input : CameraCreate} {response : CameraResponse} (parsed : Uuid.parse response.id = some id) :
    tell registry (.answered (.create new now input) (.ok (.camera response))) =
      Function.update registry id (some response) := by
  simp only [tell, parsed]

theorem Exchange.tell_update {registry : Registry} {id : Uuid} {cameraId : String}
    {input : CameraUpdate} {response : CameraResponse} (parsed : Uuid.parse response.id = some id) :
    tell registry (.answered (.update cameraId input) (.ok (.camera response))) =
      Function.update registry id (some response) := by
  simp only [tell, parsed]

theorem Exchange.tell_delete {registry : Registry} {id : Uuid} {cameraId : String}
    (parsed : Uuid.parse cameraId = some id) :
    tell registry (.answered (.delete cameraId) (.ok .noContent)) =
      Function.update registry id none := by
  simp only [tell, parsed]

/-- The registered cameras, from the exchanges. -/
def remembered (exchanges : List Exchange) : Registry := exchanges.foldl Exchange.tell fun _ => none

/-- When they were registered, from the exchanges. -/
def registeredAt (exchanges : List Exchange) : Dates := exchanges.foldl Exchange.date fun _ => none

/-- The table with the exchanges so far. -/
structure CameraApi where
  table : CameraTable
  exchanges : List Exchange

/-- What happens next. -/
inductive CameraStep
  | request (headers : Headers) (call : CameraCall)
  | monitor (id : Uuid) (status : CameraStatus)

namespace CameraApi

/-- No cameras. -/
def start : CameraApi where
  table := .empty
  exchanges := []

/-- One step. -/
def step (routes : CameraRoutes) (api : CameraApi) : CameraStep → Option CameraApi
  | .request headers call =>
      let answered := routes.handle api.table headers call
      some { table := answered.2, exchanges := api.exchanges ++ [.answered call answered.1] }
  | .monitor id status =>
      some {
        table := api.table.updateStatus id status
        exchanges := api.exchanges ++ [.monitored id status] }

end CameraApi

/-- What a table admits of a camera, as it is answered. -/
structure CameraResponse.Constrained (pg : Postgres) (response : CameraResponse) : Prop where
  name : response.name.toList.length ≤ 100 ∧ nameNotBlank response.name.toList = true
  rtspUrl : response.rtspUrl.toList.length ≤ 255 ∧ rtspScheme pg response.rtspUrl.toList = true
  location : ∀ text, response.location = some text → text.toList.length ≤ 255
  fps : 1 ≤ response.fps ∧ response.fps ≤ 120
  status : response.status ∈ ["CONNECTED", "DISCONNECTED"]

section Requests

variable {pg : Postgres} {table after : CameraTable} {id : Uuid} {now : DateTime}

/-- A text that a column takes is not longer than the column. -/
theorem length_of_varchar {n : ℕ} {text stored : List Char} (taken : varchar n text = some stored) :
    stored.length ≤ n := by
  unfold varchar at taken
  split at taken
  · cases taken
    assumption
  · split at taken
    · cases taken
      exact List.length_take_le n text
    · cases taken

/-- An optional text, too. -/
theorem length_of_mapM_varchar {n : ℕ} {text : Option (List Char)} {stored : List Char}
    (taken : text.mapM (varchar n) = some (some stored)) : stored.length ≤ n := by
  cases text with
  | none => cases taken
  | some text =>
      rw [Option.mapM_some] at taken
      obtain ⟨kept, checked, same⟩ := Option.map_eq_some_iff.mp taken
      cases same
      exact length_of_varchar checked

/-- **What an insert leaves**: one more row, within the constraints. -/
theorem of_insertCamera {name rtspUrl : List Char} {location : Option (List Char)} {fps : Int}
    {row : Camera}
    (inserted : insertCamera pg table id now name rtspUrl location fps = .ok (row, after)) :
    after.rows = table.rows ++ [row] ∧ row.id ∉ table.rows.map Camera.id ∧
      row.rtspUrl ∉ table.rows.map Camera.rtspUrl ∧
      row.createdAt = now ∧ (toResponseDto row).Constrained pg := by
  unfold insertCamera at inserted
  split at inserted
  · cases inserted
  split at inserted
  · rename_i keptName keptUrl keptLocation named addressed located
    dsimp only at inserted
    split at inserted
    · rename_i kept
      obtain ⟨visible, scheme, paced⟩ := kept
      split at inserted
      · rename_i next stored
        cases inserted
        have fresh := fresh_of_createCamera stored
        unfold CameraTable.createCamera at stored
        rw [dif_pos fresh] at stored
        split at stored
        · cases stored
        · rename_i unknown
          cases stored
          refine ⟨rfl, fresh, unknown, rfl, ?_⟩
          constructor
          case name =>
            show (String.ofList keptName).toList.length ≤ 100 ∧
              nameNotBlank (String.ofList keptName).toList = true
            rw [String.toList_ofList]
            exact ⟨length_of_varchar named, visible⟩
          case rtspUrl =>
            show (String.ofList keptUrl).toList.length ≤ 255 ∧
              rtspScheme pg (String.ofList keptUrl).toList = true
            rw [String.toList_ofList]
            exact ⟨length_of_varchar addressed, scheme⟩
          case location =>
            intro text there
            obtain ⟨chars, same, rfl⟩ := Option.map_eq_some_iff.mp there
            rw [String.toList_ofList]
            exact length_of_mapM_varchar (same ▸ located)
          case fps => exact of_decide_eq_true paced
          case status => exact List.mem_cons_of_mem _ List.mem_cons_self
      · cases inserted
    · cases inserted
  · cases inserted

/-- One more row is found under its id. -/
theorem getById_append {row : Camera} (rows : after.rows = table.rows ++ [row])
    (fresh : row.id ∉ table.rows.map Camera.id) (other : Uuid) :
    after.getById other = if other = row.id then some row else table.getById other := by
  rw [CameraTable.getById, rows, List.find?_append]
  split
  · rename_i same
    have nobody : (table.rows.find? fun stored => stored.id = other) = none :=
      List.find?_eq_none.mpr fun stored member found =>
        fresh (List.mem_map.mpr ⟨stored, member, (of_decide_eq_true found).trans same⟩)
    rw [nobody, Option.none_or, List.find?_singleton, if_pos (decide_eq_true same.symm)]
  · rename_i different
    rw [List.find?_singleton, if_neg (by simpa using Ne.symm different), Option.or_none]
    rfl

/-- A row that is deleted is not found any more. -/
theorem getById_deleteCamera (table : CameraTable) (id other : Uuid) :
    (table.deleteCamera id).getById other = if other = id then none else table.getById other := by
  show ((table.rows.filter fun row => row.id ≠ id).find? fun row => row.id = other) = _
  rw [List.find?_filter]
  split
  · rename_i same
    refine List.find?_eq_none.mpr fun row _ found => ?_
    simp only [ne_eq, decide_not, Bool.not_eq_true', decide_eq_false_iff_not,
      decide_eq_true_eq] at found
    exact found.1 (found.2.trans same)
  · rename_i different
    refine congrArg (fun found => table.rows.find? found) (funext fun row => ?_)
    by_cases own : row.id = other
    · simp [own, different]
    · simp [own]

/-- The row a path asks for. -/
theorem readCamera_eq_ok {cameraId : String} {row : Camera}
    (read : readCamera table cameraId = .ok row) :
    Uuid.parse cameraId = some row.id ∧ table.getById row.id = some row := by
  unfold readCamera at read
  split at read
  · cases read
  · rename_i id parsed
    split at read
    · cases read
    · rename_i stored found
      cases read
      have own := CameraTable.id_of_getById found
      rw [own]
      exact ⟨parsed, found⟩

/-- **What an exchange does to the table**: one more row, one row less, one row changed in
what may change, or nothing. -/
inductive Effect (pg : Postgres) (table after : CameraTable) : Exchange → Prop
  | created (id : Uuid) (now : DateTime) (input : CameraCreate) (row : Camera)
      (rows : after.rows = table.rows ++ [row]) (fresh : row.id ∉ table.rows.map Camera.id)
      (unknown : row.rtspUrl ∉ table.rows.map Camera.rtspUrl) (dated : row.createdAt = now)
      (constrained : (toResponseDto row).Constrained pg) :
      Effect pg table after
        (.answered (.create id now input) (.ok (.camera (toResponseDto row))))
  | deleted (cameraId : String) (row : Camera) (parsed : Uuid.parse cameraId = some row.id)
      (gone : after = table.deleteCamera row.id) :
      Effect pg table after (.answered (.delete cameraId) (.ok .noContent))
  | written (exchange : Exchange) (id : Uuid) (f : Camera → Camera)
      (ids : ∀ row, (f row).id = row.id) (urls : ∀ row, (f row).rtspUrl = row.rtspUrl)
      (createdAt : ∀ row, (f row).createdAt = row.createdAt)
      (others : ∀ row, row.id ≠ id → f row = row)
      (constrained : ∀ row, (toResponseDto row).Constrained pg →
        (toResponseDto (f row)).Constrained pg)
      (changed : after = table.change f ids)
      (told : ∀ registry : Registry, registry id = (table.getById id).map toResponseDto →
        exchange.tell registry =
          Function.update registry id ((after.getById id).map toResponseDto))
      (undated : ∀ dates, exchange.date dates = dates) :
      Effect pg table after exchange
  | silent (exchange : Exchange) (quiet : ∀ registry, exchange.tell registry = registry)
      (undated : ∀ dates, exchange.date dates = dates) (same : after = table) :
      Effect pg table after exchange

/-- What is kept of the fields that `update_camera` is given. -/
theorem updateColumns_eq_ok {data : CameraUpdate} {name location : Option (List Char)}
    {fps : Option Int} (taken : updateColumns data = .ok (name, location, fps)) :
    (∀ text, name = some text → text.length ≤ 100 ∧ nameNotBlank text = true) ∧
      (∀ text, location = some text → text.length ≤ 255) ∧
        ∀ value, fps = some value → 1 ≤ value ∧ value ≤ 120 := by
  unfold updateColumns at taken
  split at taken
  · cases taken
  split at taken
  · rename_i keptName keptLocation named located
    split at taken
    · rename_i passed
      cases taken
      refine ⟨?_, ?_, ?_⟩
      · rintro text rfl
        exact ⟨length_of_mapM_varchar named, by simpa using passed.1⟩
      · rintro text rfl
        exact length_of_mapM_varchar located
      · rintro value same
        have inRange : fpsRange value = true := by simpa [same] using passed.2
        exact of_decide_eq_true inRange
    · cases taken
  · cases taken

/-- The row with an id, its given fields changed. -/
def Camera.withFields (id : Uuid) (name location : Option String) (fps : Option Int)
    (row : Camera) : Camera :=
  if row.id = id then
    { row with
      name := name.getD row.name
      location := location.orElse fun _ => row.location
      fps := fps.getD row.fps }
  else row

/-- Fields that the columns have taken keep a row within the constraints. -/
theorem constrained_withFields {name location : Option (List Char)} {fps : Option Int}
    (named : ∀ text, name = some text → text.length ≤ 100 ∧ nameNotBlank text = true)
    (located : ∀ text, location = some text → text.length ≤ 255)
    (paced : ∀ value, fps = some value → 1 ≤ value ∧ value ≤ 120) (id : Uuid) {row : Camera}
    (constrained : (toResponseDto row).Constrained pg) :
    (toResponseDto (row.withFields id (name.map String.ofList) (location.map String.ofList)
      fps)).Constrained pg := by
  by_cases own : row.id = id
  · rw [Camera.withFields, if_pos own]
    constructor
    case name =>
      cases name with
      | none => exact constrained.name
      | some text =>
          show (String.ofList text).toList.length ≤ 100 ∧
            nameNotBlank (String.ofList text).toList = true
          rw [String.toList_ofList]
          exact named text rfl
    case rtspUrl => exact constrained.rtspUrl
    case location =>
      cases location with
      | none => exact constrained.location
      | some text =>
          rintro stored ⟨⟩
          rw [String.toList_ofList]
          exact located text rfl
    case fps =>
      cases fps with
      | none => exact constrained.fps
      | some value => exact paced value rfl
    case status => exact constrained.status
  · rw [Camera.withFields, if_neg own]
    exact constrained

/-- An update that is answered changes the row it answers with. -/
theorem effect_of_updateCamera (table : CameraTable) (cameraId : String)
    (input data : CameraUpdate) :
    Effect pg table (updateCamera table cameraId data).2
      (.answered (.update cameraId input) ((updateCamera table cameraId data).1.map .camera)) := by
  unfold updateCamera
  cases read : readCamera table cameraId with
  | error failure => exact .silent _ (fun _ => rfl) (fun _ => rfl) rfl
  | ok row =>
      cases taken : updateColumns data with
      | error error => exact .silent _ (fun _ => rfl) (fun _ => rfl) rfl
      | ok fields =>
          obtain ⟨name, location, fps⟩ := fields
          obtain ⟨named, located, paced⟩ := updateColumns_eq_ok taken
          obtain ⟨-, found⟩ := readCamera_eq_ok read
          have ids : ∀ stored : Camera, (stored.withFields row.id (name.map String.ofList)
              (location.map String.ofList) fps).id = stored.id := by
            intro stored
            unfold Camera.withFields
            split <;> rfl
          have stored : (table.updateCamera row.id (name.map String.ofList)
              (location.map String.ofList) fps).getById row.id =
                some (row.withFields row.id (name.map String.ofList) (location.map String.ofList)
                  fps) := by
            have changed := @CameraTable.getById_change table _ ids row.id
            rw [found, Option.map_some] at changed
            exact changed
          simp only [stored]
          refine .written _ row.id (Camera.withFields row.id _ _ _) ids ?_ ?_ ?_
            (fun _ => constrained_withFields named located paced row.id) rfl ?_ fun _ => rfl
          · intro stored
            unfold Camera.withFields
            split <;> rfl
          · intro stored
            unfold Camera.withFields
            split <;> rfl
          · exact fun stored other => if_neg other
          · intro registry _
            rw [stored]
            refine Exchange.tell_update ?_
            show Uuid.parse (Camera.id _).toText = _
            rw [Uuid.parse_toText, ids row]

/-- **What a request does.** -/
theorem effect_of_route (routes : CameraRoutes) (table : CameraTable) (call : CameraCall) :
    Effect routes.pg table (routes.route table call).2
      (.answered call (routes.route table call).1) := by
  cases call with
  | create id now input =>
      simp only [CameraRoutes.route]
      split
      · exact .silent _ (fun _ => rfl) (fun _ => rfl) rfl
      · rename_i data validated
        simp only [createCamera]
        split
        · exact .silent _ (fun _ => rfl) (fun _ => rfl) rfl
        · exact .silent _ (fun _ => rfl) (fun _ => rfl) rfl
        · split
          · rename_i row after inserted
            obtain ⟨rows, fresh, unknown, dated, constrained⟩ := of_insertCamera inserted
            exact .created id now input row rows fresh unknown dated constrained
          · exact .silent _ (fun _ => rfl) (fun _ => rfl) rfl
          · exact .silent _ (fun _ => rfl) (fun _ => rfl) rfl
  | update cameraId input =>
      simp only [CameraRoutes.route]
      split
      · exact .silent _ (fun _ => rfl) (fun _ => rfl) rfl
      · rename_i data validated
        dsimp only
        exact effect_of_updateCamera table cameraId input data
  | delete cameraId =>
      cases read : readCamera table cameraId with
      | error failure =>
          simp only [CameraRoutes.route, deleteCamera, read, Except.map]
          exact .silent _ (fun registry => Exchange.tell_error registry _ _)
            (fun dates => Exchange.date_error dates _ _) rfl
      | ok row =>
          simp only [CameraRoutes.route, deleteCamera, read, Except.map]
          exact .deleted cameraId row (readCamera_eq_ok read).1 rfl
  | get cameraId =>
      simp only [CameraRoutes.route]
      exact .silent _ (fun _ => by cases getCamera table cameraId <;> rfl) (fun _ => rfl) rfl
  | list limit offset =>
      simp only [CameraRoutes.route]
      exact .silent _ (fun _ => by cases routes.listCameras table limit offset <;> rfl)
        (fun _ => rfl) rfl
  | statusSummary => exact .silent _ (fun _ => rfl) (fun _ => rfl) rfl

/-- A request that is not let in does nothing. -/
theorem effect_of_handle (routes : CameraRoutes) (table : CameraTable) (headers : Headers)
    (call : CameraCall) :
    Effect routes.pg table (routes.handle table headers call).2
      (.answered call (routes.handle table headers call).1) := by
  unfold CameraRoutes.handle
  split
  · exact .silent _ (fun registry => Exchange.tell_error registry _ _)
      (fun dates => Exchange.date_error dates _ _) rfl
  · exact effect_of_route routes table call

/-- A status that is written. -/
theorem effect_of_updateStatus (table : CameraTable) (id : Uuid) (status : CameraStatus) :
    Effect pg table (table.updateStatus id status) (.monitored id status) := by
  have ids : ∀ row : Camera, (if row.id = id then { row with status } else row).id = row.id := by
    intro row
    split <;> rfl
  refine .written _ id (fun row => if row.id = id then { row with status } else row) ids ?_ ?_ ?_ ?_
    rfl ?_ fun _ => rfl
  · intro row
    split <;> rfl
  · intro row
    split <;> rfl
  · exact fun row other => if_neg other
  · intro row constrained
    split
    · refine ⟨constrained.name, constrained.rtspUrl, constrained.location, constrained.fps, ?_⟩
      cases status
      · exact List.mem_cons_self
      · exact List.mem_cons_of_mem _ List.mem_cons_self
    · exact constrained
  · intro registry known
    rw [CameraTable.getById_updateStatus, Exchange.tell, known, Option.map_map, Option.map_map]
    refine congrArg (Function.update registry id) ?_
    cases table.getById id with
    | none => simp only [Option.map_none]
    | some row => simp only [Option.map_some, Function.comp_apply, if_true, toResponseDto]

/-- **What one step does.** -/
theorem effect_of_step {routes : CameraRoutes} {api next : CameraApi} {step : CameraStep}
    (moved : api.step routes step = some next) :
    ∃ exchange, next.exchanges = api.exchanges ++ [exchange] ∧
      Effect routes.pg api.table next.table exchange := by
  cases step with
  | request headers call =>
      cases moved
      exact ⟨_, rfl, effect_of_handle routes api.table headers call⟩
  | monitor id status =>
      cases moved
      exact ⟨_, rfl, effect_of_updateStatus api.table id status⟩

end Requests

/-! ## The table over a run -/

/-- The invariant: the table is what the exchanges say, within its constraints. -/
structure Kept (routes : CameraRoutes) (api : CameraApi) : Prop where
  table : ∀ id, (api.table.getById id).map toResponseDto = remembered api.exchanges id
  rows : ∀ row ∈ api.table.rows, (toResponseDto row).Constrained routes.pg
  urls : (api.table.rows.map Camera.rtspUrl).Nodup
  dates : ∀ row ∈ api.table.rows, registeredAt api.exchanges row.id = some row.createdAt

namespace Kept

variable {routes : CameraRoutes} {api next : CameraApi} {steps : List CameraStep}

theorem start : Kept routes .start := ⟨fun _ => rfl, nofun, List.nodup_nil, nofun⟩

/-- One more exchange. -/
theorem remembered_append {exchanges : List Exchange} {exchange : Exchange} :
    remembered (exchanges ++ [exchange]) = exchange.tell (remembered exchanges) := by
  unfold remembered
  rw [List.foldl_append, List.foldl_cons, List.foldl_nil]

theorem registeredAt_append {exchanges : List Exchange} {exchange : Exchange} :
    registeredAt (exchanges ++ [exchange]) = exchange.date (registeredAt exchanges) := by
  unfold registeredAt
  rw [List.foldl_append, List.foldl_cons, List.foldl_nil]

/-- An exchange tells of the rows it leaves what they are. -/
theorem tells_of_effect {pg : Postgres} {table after : CameraTable} {exchange : Exchange}
    (effect : Effect pg table after exchange) {registry : Registry}
    (known : ∀ id, (table.getById id).map toResponseDto = registry id) (id : Uuid) :
    (after.getById id).map toResponseDto = exchange.tell registry id := by
  cases effect with
  | created _ now input row rows fresh =>
      have own : Uuid.parse (toResponseDto row).id = some row.id := Uuid.parse_toText row.id
      rw [Exchange.tell_create own, getById_append rows fresh, Function.update_apply]
      split
      · rfl
      · exact known id
  | deleted cameraId row parsed gone =>
      rw [Exchange.tell_delete parsed, gone, getById_deleteCamera, Function.update_apply]
      split
      · rfl
      · exact known id
  | written _ written f ids _ _ others _ changed told =>
      rw [told _ (known written).symm, Function.update_apply]
      split
      · rename_i same
        rw [same]
      · rename_i different
        rw [← known id, changed, CameraTable.getById_change ids]
        cases found : table.getById id with
        | none => rfl
        | some row =>
            have elsewhere : row.id ≠ written := by
              rw [CameraTable.id_of_getById found]
              exact different
            rw [Option.map_some, others row elsewhere]
  | silent _ quiet _ same =>
      rw [quiet, same]
      exact known id

/-- The rows it leaves keep the constraints. -/
theorem constrained_of_effect {pg : Postgres} {table after : CameraTable} {exchange : Exchange}
    (effect : Effect pg table after exchange)
    (constrained : ∀ row ∈ table.rows, (toResponseDto row).Constrained pg) :
    ∀ row ∈ after.rows, (toResponseDto row).Constrained pg := by
  intro stored member
  cases effect with
  | created _ _ _ row rows _ _ _ fits =>
      rw [rows] at member
      rcases List.mem_append.mp member with before | this
      · exact constrained stored before
      · rwa [List.mem_singleton.mp this]
  | deleted _ row _ gone =>
      rw [gone] at member
      exact constrained stored (List.mem_of_mem_filter member)
  | written _ _ _ _ _ _ _ fits changed =>
      rw [changed] at member
      obtain ⟨row, before, rfl⟩ := List.mem_map.mp member
      exact fits row (constrained row before)
  | silent _ _ _ same =>
      rw [same] at member
      exact constrained stored member

/-- No two of them share a URL. -/
theorem urls_of_effect {pg : Postgres} {table after : CameraTable} {exchange : Exchange}
    (effect : Effect pg table after exchange) (urls : (table.rows.map Camera.rtspUrl).Nodup) :
    (after.rows.map Camera.rtspUrl).Nodup := by
  cases effect with
  | created _ _ _ row rows _ unknown =>
      rw [rows, List.map_append, List.map_singleton, ← List.concat_eq_append]
      exact urls.concat unknown
  | deleted _ row _ gone =>
      rw [gone]
      exact urls.sublist (List.filter_sublist.map Camera.rtspUrl)
  | written _ _ f _ same _ _ _ changed =>
      rw [changed]
      show ((table.rows.map f).map Camera.rtspUrl).Nodup
      rw [List.map_map, show Camera.rtspUrl ∘ f = Camera.rtspUrl from funext same]
      exact urls
  | silent _ _ _ same =>
      rw [same]
      exact urls

/-- And each is dated as it was registered. -/
theorem dates_of_effect {pg : Postgres} {table after : CameraTable} {exchange : Exchange}
    (effect : Effect pg table after exchange) {dates : Uuid → Option DateTime}
    (known : ∀ row ∈ table.rows, dates row.id = some row.createdAt) :
    ∀ row ∈ after.rows, exchange.date dates row.id = some row.createdAt := by
  intro stored member
  cases effect with
  | created _ _ _ row rows fresh _ dated =>
      have own : Uuid.parse (toResponseDto row).id = some row.id := Uuid.parse_toText row.id
      rw [Exchange.date_create own]
      rw [rows] at member
      rcases List.mem_append.mp member with before | this
      · have other : stored.id ≠ row.id := fun same =>
          fresh (List.mem_map.mpr ⟨stored, before, same⟩)
        rw [Function.update_of_ne other]
        exact known stored before
      · rw [List.mem_singleton.mp this, Function.update_self, dated]
  | deleted _ row _ gone =>
      rw [gone] at member
      exact known stored (List.mem_of_mem_filter member)
  | written _ _ _ ids _ createdAt _ _ changed _ undated =>
      rw [changed] at member
      obtain ⟨row, before, rfl⟩ := List.mem_map.mp member
      rw [undated, ids, createdAt]
      exact known row before
  | silent _ _ undated same =>
      rw [same] at member
      rw [undated]
      exact known stored member

/-- **One step keeps the invariant.** -/
theorem step (kept : Kept routes api) {step : CameraStep}
    (moved : api.step routes step = some next) : Kept routes next := by
  obtain ⟨exchange, exchanges, effect⟩ := effect_of_step moved
  constructor
  case table =>
    rw [exchanges, remembered_append]
    exact tells_of_effect effect kept.table
  case rows => exact constrained_of_effect effect kept.rows
  case urls => exact urls_of_effect effect kept.urls
  case dates =>
    rw [exchanges, registeredAt_append]
    exact dates_of_effect effect kept.dates

/-- **Every run keeps it.** -/
theorem run (reached : runFrom (CameraApi.step routes) .start steps = some api) :
    Kept routes api :=
  runFrom_invariant (fun _ _ _ held moved => held.step moved) start reached

/-- The two texts of a status differ. -/
theorem text_injective : Function.Injective CameraStatus.text := by
  intro status other same
  cases status <;> cases other
  all_goals first | rfl | exact absurd same (by decide)

end Kept

section Listed

variable {pg : Postgres} {table after : CameraTable}

/-- More rows, more keys; the others stay in their order. -/
theorem listed_sublist_of_append {row : Camera} (rows : after.rows = table.rows ++ [row]) :
    table.listed.Sublist after.listed := by
  refine List.sublist_of_subperm_of_pairwise ?_ (pairwise_listed _) (pairwise_listed _)
  refine (List.mergeSort_perm _ _).subperm.trans (List.Subperm.trans ?_
    (List.mergeSort_perm _ _).symm.subperm)
  rw [rows, List.map_append]
  exact (List.sublist_append_left _ _).subperm

/-- A row less, a key less. -/
theorem listed_deleteCamera (table : CameraTable) (id : Uuid) :
    (table.deleteCamera id).listed = table.listed.filter fun key => key.2 ≠ id := by
  refine List.Perm.eq_of_pairwise' (pairwise_listed _) ((pairwise_listed _).filter _) ?_
  refine (List.mergeSort_perm _ _).trans (.trans ?_ ((List.mergeSort_perm _ _).symm.filter _))
  rw [List.filter_map]
  exact .refl _

/-- Rows that change keep their keys. -/
theorem listed_change {f : Camera → Camera} (ids : ∀ row, (f row).id = row.id)
    (createdAt : ∀ row, (f row).createdAt = row.createdAt) :
    (table.change f ids).listed = table.listed := by
  show ((table.rows.map f).map Camera.listKey).mergeSort _ = _
  rw [List.map_map, show Camera.listKey ∘ f = Camera.listKey from funext fun row => by
    rw [Function.comp_apply, Camera.listKey, Camera.listKey, ids, createdAt]]
  rfl

/-- **What an exchange does to the list**: a deletion takes the key of its camera away, and
any other exchange leaves the keys in their order. -/
theorem listed_of_effect {exchange : Exchange} (effect : Effect pg table after exchange) :
    table.listed.Sublist after.listed ∨
      ∃ cameraId id, exchange = .answered (.delete cameraId) (.ok .noContent) ∧
        Uuid.parse cameraId = some id ∧
          after.listed = table.listed.filter fun key => key.2 ≠ id := by
  cases effect with
  | created id now input row rows fresh unknown dated constrained =>
      exact Or.inl (listed_sublist_of_append rows)
  | deleted cameraId row parsed gone =>
      subst gone
      exact Or.inr ⟨cameraId, row.id, rfl, parsed, listed_deleteCamera table row.id⟩
  | written _ id f ids urls createdAt others constrained changed told undated =>
      subst changed
      exact Or.inl (listed_change ids createdAt ▸ List.Sublist.refl _)
  | silent _ quiet undated same =>
      subst same
      exact Or.inl (List.Sublist.refl _)

/-- A page of the list is a page of the keys. -/
theorem ids_of_listCameras {routes : CameraRoutes} {limit offset : ℕ}
    {responses : List CameraResponse}
    (listed : routes.listCameras table limit offset = .ok responses) :
    responses.map CameraResponse.id =
      ((table.listed.drop offset).take limit).map fun key => key.2.toText := by
  unfold CameraRoutes.listCameras at listed
  split at listed
  · cases listed
    rw [Int.toNat_natCast, Int.toNat_natCast, CameraTable.listAllCameras,
      ← map_listKey_mergeSort, List.map_take, List.map_take, List.map_take, List.map_drop,
      List.map_drop, List.map_drop, List.map_map, List.map_map]
    rfl
  · cases listed

end Listed

/-- The service, and a client that reads the list. -/
structure Listing where
  api : CameraApi
  offset : ℕ
  given : List CameraResponse

/-- What happens next: anything else, or the next page, which begins behind all that the
client has been given. -/
inductive ListingStep
  | other (step : CameraStep)
  | page (limit : ℕ)

namespace Listing

/-- One step. -/
def step (routes : CameraRoutes) (listing : Listing) : ListingStep → Option Listing
  | .other step => (listing.api.step routes step).map fun api => { listing with api }
  | .page limit =>
      match routes.listCameras listing.api.table limit listing.offset with
      | .error _ => none
      | .ok responses =>
          some { listing with
            offset := listing.offset + limit
            given := listing.given ++ responses }

/-- The condition on a step: the camera is not deleted, nor is one that the client has
already gone past. -/
def DeletesAhead (routes : CameraRoutes) (id : Uuid) (listing : Listing) : ListingStep → Prop
  | .other (.request headers (.delete cameraId)) =>
      (routes.handle listing.api.table headers (.delete cameraId)).1 = .ok .noContent →
        ∀ other, Uuid.parse cameraId = some other →
          other ≠ id ∧ ∀ key ∈ listing.api.table.listed.take listing.offset, key.2 ≠ other
  | _ => True

variable {routes : CameraRoutes} {listing next : Listing} {steps : List ListingStep} {id : Uuid}

/-- The client as a reader of ids. -/
def reader (listing : Listing) : PageReader String where
  offset := listing.offset
  given := listing.given.map CameraResponse.id

/-- The ids in the order of the list. -/
def ids (table : CameraTable) : List String := table.listed.map fun key => key.2.toText

/-- A camera is given to the client, or in front of it. -/
abbrev Reachable (id : Uuid) (listing : Listing) : Prop :=
  listing.reader.Reachable (ids listing.api.table) id.toText

/-- Ids are told apart by their texts. -/
theorem toText_inj {one other : Uuid} : one.toText = other.toText ↔ one = other :=
  ⟨Uuid.toText_injective, congrArg Uuid.toText⟩

/-- Ids without one of them. -/
theorem ids_filter {table after : CameraTable} {other : Uuid}
    (shorter : after.listed = table.listed.filter fun key => key.2 ≠ other) :
    ids after = (ids table).filter fun text => text ≠ other.toText := by
  rw [ids, shorter, ids, List.filter_map]
  refine congrArg _ (List.filter_congr fun key _ => ?_)
  simp [toText_inj]

/-- **One step keeps a camera reachable.** -/
theorem reachable_step (reachable : Reachable id listing) {action : ListingStep}
    (ahead : DeletesAhead routes id listing action)
    (moved : listing.step routes action = some next) :
    Reachable id next := by
  cases action with
  | page limit =>
      simp only [step] at moved
      split at moved
      · cases moved
      · rename_i responses listed
        cases moved
        have page := PageReader.Reachable.page reachable limit
        simp only [PageReader.next, reader, ids, ← List.map_drop, ← List.map_take,
          ← ids_of_listCameras listed, ← List.map_append] at page
        exact page
  | other step =>
      obtain ⟨api, made, rfl⟩ := Option.map_eq_some_iff.mp moved
      obtain ⟨exchange, exchanges, effect⟩ := effect_of_step made
      rcases listed_of_effect effect with grown | ⟨cameraId, other, same, parsed, shorter⟩
      · exact PageReader.Reachable.grow reachable (grown.map _)
      · subst same
        cases step with
        | monitor other status =>
            simp only [CameraApi.step, Option.some.injEq] at made
            rw [← made] at exchanges
            simp at exchanges
        | request headers call =>
            simp only [CameraApi.step, Option.some.injEq] at made
            rw [← made] at exchanges
            obtain ⟨rfl, carried⟩ : call = .delete cameraId ∧ _ := by simpa using exchanges
            -- the row that goes is behind the offset, so no other one moves in front of it
            obtain ⟨stays, front⟩ := ahead carried other parsed
            show PageReader.Reachable _ (ids api.table) _
            rw [ids_filter shorter]
            refine PageReader.Reachable.remove reachable (fun text member => ?_) ?_
            · rw [ids, ← List.map_take] at member
              obtain ⟨key, passed, rfl⟩ := List.mem_map.mp member
              simpa [toText_inj] using front key passed
            · simpa [toText_inj] using stays.symm

/-- **A client reads every camera**, while cameras are registered, updated and deleted and
the monitor writes: it asks for page after page of any sizes until one has fewer cameras
than it has asked for.  Then it has been given every camera that was registered when it
began and has not been deleted, if of those that it had gone past none was deleted. -/
theorem reads_every_camera {api : CameraApi} {before : Listing} {row : Camera}
    (there : row ∈ api.table.rows)
    (ahead : Meets (DeletesAhead routes row.id) (step routes) ⟨api, 0, []⟩ steps)
    (reached : runFrom (step routes) ⟨api, 0, []⟩ steps = some before)
    {limit : ℕ} {last : List CameraResponse}
    (page : routes.listCameras before.api.table limit before.offset = .ok last)
    (short : last.length < limit) :
    ∃ response ∈ before.given ++ last, response.id = row.id.toText := by
  have start : Reachable row.id ⟨api, 0, []⟩ := by
    refine Or.inr ?_
    show row.id.toText ∈ (ids api.table).drop 0
    rw [List.drop_zero, ids, ← map_listKey_mergeSort, List.map_map]
    exact List.mem_map.mpr ⟨row, (List.mergeSort_perm _ _).mem_iff.mpr there, rfl⟩
  have still : Reachable row.id before := runFrom_invariant_of_meets
    (fun _ _ _ held met moved => reachable_step held met moved) start ahead reached
  have done := PageReader.Reachable.page still limit
  have read := ids_of_listCameras page
  -- a short page reaches the end of the list
  have ended : (ids before.api.table).length ≤ before.offset + limit := by
    have size := congrArg List.length read
    rw [List.length_map, List.length_map, List.length_take, List.length_drop] at size
    rw [ids, List.length_map]
    omega
  have given := PageReader.Reachable.given done ended
  simp only [PageReader.next, reader, ids, ← List.map_drop, ← List.map_take, ← read,
    ← List.map_append] at given
  exact List.mem_map.mp given

end Listing

/-! ## Two cameras -/

/-- The routes with a key of their own. -/
def exampleRoutes : CameraRoutes where
  lib := .ascii
  pg := .ascii
  internalServiceKey := "shared-internal-key"
  cameraListMaxLimit := 100

/-- What the gateway sends for an administrator. -/
def adminHeaders : Headers :=
  .receive [("X-Internal-Service-Key", "shared-internal-key"), ("X-User-Id", "1"),
    ("X-User-Role", "1")]

/-- The registration of a camera. -/
def registers (id : ℕ) (rtspUrl : String) : CameraStep :=
  .request adminHeaders (.create (.ofNat id) .epoch (lobby rtspUrl.toList))

/-- The camera is read, another one comes in before it, and the next page has it again. -/
theorem reads_every_camera_example :
    ∃ api before last, ∃ row ∈ api.table.rows,
      runFrom (CameraApi.step exampleRoutes) .start [registers 2 "rtsp://camera/"] = some api ∧
        runFrom (Listing.step exampleRoutes) ⟨api, 0, []⟩
          [.page 1, .other (registers 1 "rtsp://other/")] = some before ∧
        exampleRoutes.listCameras before.api.table (5 : ℕ) before.offset = .ok last ∧
        ∃ response ∈ before.given ++ last, response.id = row.id.toText := by
  have runs : ∃ api ∈ runFrom (CameraApi.step exampleRoutes) .start
      [registers 2 "rtsp://camera/"], api.table.rows.length = 1 ∧
        ∃ before ∈ runFrom (Listing.step exampleRoutes) ⟨api, 0, []⟩
          [.page 1, .other (registers 1 "rtsp://other/")],
          before.api.table.rows.length = 2 ∧ before.offset = 1 := by
    decide +kernel
  obtain ⟨api, registered, one, before, reached, two, behind⟩ := runs
  obtain ⟨row, there⟩ := List.exists_mem_of_length_pos (one ▸ Nat.one_pos)
  have page : exampleRoutes.listCameras before.api.table (5 : ℕ) before.offset =
      .ok ((before.api.table.listAllCameras (some 5) 1).map toResponseDto) := by
    rw [behind]
    rfl
  have short : ((before.api.table.listAllCameras (some 5) 1).map toResponseDto).length < 5 := by
    rw [List.length_map, CameraTable.listAllCameras, List.length_take, List.length_drop,
      List.length_mergeSort, two]
    decide
  have ahead : Meets
      (Listing.DeletesAhead exampleRoutes row.id) (Listing.step exampleRoutes) ⟨api, 0, []⟩
      [.page 1, .other (registers 1 "rtsp://other/")] :=
    ⟨trivial, fun _ _ => ⟨trivial, fun _ _ => trivial⟩⟩
  exact ⟨api, before, _, row, there, registered, reached, page,
    Listing.reads_every_camera there ahead reached page short⟩

end PersonTracking.CameraService
