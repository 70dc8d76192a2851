import Mathlib.Algebra.Order.Floor.Ring
import Mathlib.Data.Rat.Floor
import PersonTracking.Domain.Entities
import PersonTracking.Library.Transition
import PersonTracking.Library.WorkQueue
import PersonTracking.Scheduler.Retention

/-!
# Uploads of crops

`save_crop_async` answers with a path and leaves the crop to one of the saver's
workers, who cuts the box out of a copy of the frame, encodes it and writes it to
MinIO, and logs whatever goes wrong.  The copy is made at once; the box stays where
the pipeline has it.

`isCrop_crop` says which pixels a crop has, however the machine adds floats, and
`crops_arrive` which of the paths lead to a crop once the saver has been shut down.
-/

namespace PersonTracking.AiService

open Library Python Shared Domain

/-! ## Frames -/

/-- A frame, as rows of equally many pixels. -/
structure Image (π : Type) where
  rows : List (List π)
  width : ℕ
  uniform : ∀ row ∈ rows, row.length = width

namespace Image

variable {π : Type} (image : Image π)

/-- How many rows there are. -/
def height : ℕ := image.rows.length

/-- The pixel in a row and a column. -/
def pixel (y x : ℕ) : Option π := (image.rows[y]?).bind fun row => row[x]?

/-- `image[yMin:yMax, xMin:xMax]`. -/
def slice (yMin yMax xMin xMax : ℕ) : Image π where
  rows := ((image.rows.take yMax).drop yMin).map fun row => (row.take xMax).drop xMin
  width := min xMax image.width - xMin
  uniform := by
    intro row here
    obtain ⟨whole, inside, rfl⟩ := List.mem_map.mp here
    have own := image.uniform whole (List.mem_of_mem_take (List.mem_of_mem_drop inside))
    rw [List.length_drop, List.length_take, own]

variable {image}

theorem pixel_isSome {y x : ℕ} : (image.pixel y x).isSome ↔ y < image.height ∧ x < image.width := by
  rw [pixel, height]
  by_cases there : y < image.rows.length
  · rw [List.getElem?_eq_getElem there, Option.bind_some,
      ← image.uniform _ (List.getElem_mem there)]
    simp [there]
  · rw [List.getElem?_eq_none (by omega)]
    simp [there]

/-- The pixels of a slice. -/
theorem pixel_slice {yMin yMax xMin xMax y x : ℕ} :
    (image.slice yMin yMax xMin xMax).pixel y x =
      if yMin + y < yMax ∧ xMin + x < xMax then image.pixel (yMin + y) (xMin + x) else none := by
  rw [pixel, slice, List.getElem?_map, List.getElem?_drop, List.getElem?_take, pixel]
  by_cases rowInside : yMin + y < yMax
  · rw [if_pos rowInside]
    cases found : image.rows[yMin + y]? with
    | none => simp
    | some row =>
        rw [Option.map_some, Option.bind_some, Option.bind_some, List.getElem?_drop,
          List.getElem?_take]
        simp [rowInside]
  · rw [if_neg rowInside, if_neg fun inside => rowInside inside.1]
    rfl

end Image

/-! ## The box -/

/-- `int(x)`: truncation towards zero. -/
def truncate (x : ℚ) : Int := if 0 ≤ x then ⌊x⌋ else ⌈x⌉

theorem truncate_le_iff {x : ℚ} {n : ℕ} : truncate x ≤ n ↔ x < n + 1 := by
  rw [truncate]
  split
  · rw [← Int.lt_add_one_iff, Int.floor_lt]
    norm_num
  · rename_i negative
    have below : x < 0 := not_le.mp negative
    have nonneg : (0 : ℚ) ≤ n := Nat.cast_nonneg n
    refine iff_of_true ?_ (by linarith)
    exact (Int.ceil_le.mpr (by simpa using below.le)).trans (Int.natCast_nonneg n)

theorem lt_truncate_iff {x : ℚ} {n : ℕ} : (n : Int) < truncate x ↔ (n : ℚ) + 1 ≤ x := by
  rw [truncate]
  split
  · rw [← Int.add_one_le_iff, Int.le_floor]
    norm_num
  · rename_i negative
    have below : x < 0 := not_le.mp negative
    have nonneg : (0 : ℚ) ≤ n := Nat.cast_nonneg n
    refine iff_of_false (fun less => ?_) (by intro reaches; linarith)
    have small : ⌈x⌉ ≤ 0 := Int.ceil_le.mpr (by simpa using below.le)
    omega

/-- The rows and columns of a crop. -/
structure Region where
  xMin : Int
  yMin : Int
  xMax : Int
  yMax : Int

/-- The box, cut to the frame.  Its numbers are finite floats, and `plus` is how the machine
adds two of them, whatever it rounds to. -/
def region {π : Type} (plus : ℚ → ℚ → ℚ) (frame : Image π) (bbox : BoundingBox ℚ) : Region where
  xMin := max 0 (truncate bbox.left)
  yMin := max 0 (truncate bbox.top)
  xMax := min frame.width (truncate (plus bbox.left bbox.width))
  yMax := min frame.height (truncate (plus bbox.top bbox.height))

/-- Nothing is left of the box. -/
def Region.Empty (region : Region) : Prop := region.xMax ≤ region.xMin ∨ region.yMax ≤ region.yMin

instance (region : Region) : Decidable region.Empty := inferInstanceAs (Decidable (_ ∨ _))

/-- `frame_np[y_min:y_max, x_min:x_max]`. -/
def cropOf {π : Type} (plus : ℚ → ℚ → ℚ) (frame : Image π) (bbox : BoundingBox ℚ) : Image π :=
  let region := region plus frame bbox
  frame.slice region.yMin.toNat region.yMax.toNat region.xMin.toNat region.xMax.toNat

/-- A pixel is in a box: the corner of the pixel away from the origin is, the border at
the box's own origin left out.  The far edges are where the machine's sums put them. -/
def Covers (plus : ℚ → ℚ → ℚ) (bbox : BoundingBox ℚ) (y x : ℕ) : Prop :=
  bbox.left < x + 1 ∧ (x : ℚ) + 1 ≤ plus bbox.left bbox.width ∧
    bbox.top < y + 1 ∧ (y : ℚ) + 1 ≤ plus bbox.top bbox.height

/-- An image holds the pixels of the frame that are in the box, all of them and no
others, as they lie to each other. -/
def IsCrop {π : Type} (plus : ℚ → ℚ → ℚ) (frame : Image π) (bbox : BoundingBox ℚ)
    (image : Image π) : Prop :=
  ∃ yMin xMin : ℕ,
    (∀ y x pixel, image.pixel y x = some pixel ↔
      frame.pixel (yMin + y) (xMin + x) = some pixel ∧ Covers plus bbox (yMin + y) (xMin + x)) ∧
    ∀ y x, (frame.pixel y x).isSome → Covers plus bbox y x → yMin ≤ y ∧ xMin ≤ x

section Crops

variable {π : Type} {plus : ℚ → ℚ → ℚ} {frame : Image π} {bbox : BoundingBox ℚ}

/-- A pixel of the frame is in the region just in case it is in the box. -/
theorem inside_iff {y x : ℕ} (there : (frame.pixel y x).isSome) :
    ((region plus frame bbox).xMin ≤ x ∧ (x : Int) < (region plus frame bbox).xMax ∧
      (region plus frame bbox).yMin ≤ y ∧ (y : Int) < (region plus frame bbox).yMax) ↔
        Covers plus bbox y x := by
  obtain ⟨row, column⟩ := Image.pixel_isSome.mp there
  have column' : (x : Int) < frame.width := by exact_mod_cast column
  have row' : (y : Int) < frame.height := by exact_mod_cast row
  simp only [region, Covers, max_le_iff, lt_min_iff, truncate_le_iff, lt_truncate_iff, column',
    row', Int.natCast_nonneg, true_and]

/-- **What a crop shows**: the pixels of the frame that are in the box. -/
theorem isCrop_crop : IsCrop plus frame bbox (cropOf plus frame bbox) := by
  have xNonneg : 0 ≤ (region plus frame bbox).xMin := le_max_left _ _
  have yNonneg : 0 ≤ (region plus frame bbox).yMin := le_max_left _ _
  refine ⟨(region plus frame bbox).yMin.toNat, (region plus frame bbox).xMin.toNat,
    fun y x pixel => ?_, fun y x there covered => ?_⟩
  · rw [cropOf, Image.pixel_slice]
    have inside (there : (frame.pixel ((region plus frame bbox).yMin.toNat + y)
        ((region plus frame bbox).xMin.toNat + x)).isSome) :=
      @inside_iff _ plus frame bbox _ _ there
    constructor
    · intro found
      split at found
      · rename_i within
        refine ⟨found, (inside (by rw [found]; rfl)).mp ⟨?_, ?_, ?_, ?_⟩⟩ <;> omega
      · cases found
    · rintro ⟨found, covered⟩
      obtain ⟨-, right, -, bottom⟩ := (inside (by rw [found]; rfl)).mpr covered
      rw [if_pos (by omega), found]
  · obtain ⟨left, -, top, -⟩ := (inside_iff there).mpr covered
    omega

/-- Nothing is left of the box just in case it has no pixel of the frame. -/
theorem empty_iff :
    (region plus frame bbox).Empty ↔ ∀ y x, (frame.pixel y x).isSome → ¬ Covers plus bbox y x := by
  constructor
  · intro empty y x there covered
    obtain ⟨left, right, top, bottom⟩ := (inside_iff there).mpr covered
    rcases empty with narrow | flat <;> omega
  · intro none
    by_contra some
    obtain ⟨wide, high⟩ := not_or.mp some
    have xNonneg : 0 ≤ (region plus frame bbox).xMin := le_max_left _ _
    have yNonneg : 0 ≤ (region plus frame bbox).yMin := le_max_left _ _
    have xBound : (region plus frame bbox).xMax ≤ frame.width := min_le_left _ _
    have yBound : (region plus frame bbox).yMax ≤ frame.height := min_le_left _ _
    -- the first pixel of the region
    have there : (frame.pixel (region plus frame bbox).yMin.toNat
        (region plus frame bbox).xMin.toNat).isSome := Image.pixel_isSome.mpr (by omega)
    exact none _ _ there ((inside_iff there).mp (by omega))

end Crops

/-! ## One upload -/

/-- What an upload asks OpenCV and MinIO for. -/
inductive UploadCall (π : Type)
  | imencode (image : Image π)
  | bucketExists (bucket : String)
  | makeBucket (bucket : String)
  | putObject (object : ObjectRef) (data : List UInt8)

/-- What they raise. -/
inductive UploadError
  | cv2Error
  | minio (error : MinioError)

/-- Their answers; `imencode` may fail without raising. -/
abbrev UploadReply {π : Type} : UploadCall π → Type
  | .imencode _ => Except UploadError (Option (List UInt8))
  | .bucketExists _ => Except UploadError Bool
  | .makeBucket _ => Except UploadError Unit
  | .putObject _ _ => Except UploadError Unit

variable {π : Type}

/-- Part of an upload. -/
abbrev Uploading (π α : Type) : Type := Fallible (UploadCall π) UploadReply UploadError α

/-- Make a call. -/
def upload (request : UploadCall π) : Program (UploadCall π) UploadReply (UploadReply request) :=
  Program.perform request

namespace MinioStorageClient

/-- `ensure_bucket`: what is raised is logged and raised again. -/
def ensureBucket (bucketName : String) : Uploading π Unit := do
  let present : Bool ← Fallible.attempt (upload (.bucketExists bucketName))
  if present then pure () else Fallible.attempt (upload (.makeBucket bucketName))

/-- `upload_bytes`, whose answer nobody reads. -/
def uploadBytes (bucketName objectName : String) (data : List UInt8) : Uploading π Unit := do
  ensureBucket bucketName
  Fallible.attempt (upload (.putObject { bucket := bucketName, name := objectName } data))

end MinioStorageClient

/-- The `try` of `_crop_encode_upload`. -/
def cropAndUpload (plus : ℚ → ℚ → ℚ) (bucketName : String) (frame : Image π) (bbox : BoundingBox ℚ)
    (objectName : String) : Uploading π Unit :=
  if (region plus frame bbox).Empty then pure ()
  else do
    let encoded : Option (List UInt8) ← Fallible.attempt
      (upload (.imencode (cropOf plus frame bbox)))
    match encoded with
    | none => pure ()
    | some jpegBytes => MinioStorageClient.uploadBytes bucketName objectName jpegBytes

/-- `_crop_encode_upload`: whatever is raised is logged. -/
def cropEncodeUpload (plus : ℚ → ℚ → ℚ) (bucketName : String) (frame : Image π)
    (bbox : BoundingBox ℚ)
    (objectName : String) : Uploading π Unit :=
  Fallible.swallow (cropAndUpload plus bucketName frame bbox objectName)

/-- Buckets and the bytes of the objects in them. -/
structure ObjectStore where
  buckets : Finset String
  objects : ObjectRef → Option (List UInt8)

namespace ObjectStore

/-- An object written, or written over. -/
def put (store : ObjectStore) (object : ObjectRef) (data : List UInt8) : ObjectStore :=
  { store with objects := Function.update store.objects object (some data) }

/-- What the calls do, given how they fail and what the encoder returns.  A call that raises
may have been carried out. -/
def handler (jpeg : Image π → Option (List UInt8)) (faults : Program.Faults (UploadCall π)) :
    Program.Handler (UploadCall π) UploadReply ObjectStore
  | .imencode image, store =>
      (if faults.raises (.imencode image) then .error .cv2Error else .ok (jpeg image), store)
  | .bucketExists bucket, store =>
      (if faults.raises (.bucketExists bucket) then .error (.minio .s3Error)
        else .ok (bucket ∈ store.buckets), store)
  | .makeBucket bucket, store =>
      faults.carryOut (.makeBucket bucket) (.minio .s3Error) store
        (if bucket ∈ store.buckets then (.error (.minio .s3Error), store)
        else (.ok (), { store with buckets := insert bucket store.buckets }))
  | .putObject object data, store =>
      faults.carryOut (.putObject object data) (.minio .s3Error) store
        (if object.bucket ∈ store.buckets then (.ok (), store.put object data)
        else (.error (.minio .s3Error), store))

end ObjectStore

/-- The bytes an upload writes, if its box has a pixel of the frame, nothing fails before
they are sent and MinIO stores them. -/
def uploaded (plus : ℚ → ℚ → ℚ) (jpeg : Image π → Option (List UInt8))
    (faults : Program.Faults (UploadCall π))
    (object : ObjectRef) (frame : Image π) (bbox : BoundingBox ℚ) : Option (List UInt8) :=
  if (region plus frame bbox).Empty ∨ faults.raises (.imencode (cropOf plus frame bbox)) then none
  else (jpeg (cropOf plus frame bbox)).filter fun data =>
    !faults.raises (.bucketExists object.bucket) && faults.carriesOut (.putObject object data)

section Upload

variable {plus : ℚ → ℚ → ℚ} {jpeg : Image π → Option (List UInt8)}
  {faults : Program.Faults (UploadCall π)}
  {object : ObjectRef} {frame : Image π} {bbox : BoundingBox ℚ} {store : ObjectStore}

/-- Into a bucket that is there the bytes are written, if MinIO carries the call out. -/
theorem exec_uploadBytes (present : object.bucket ∈ store.buckets) (data : List UInt8) :
    (Fallible.exec (ObjectStore.handler jpeg faults)
      (MinioStorageClient.uploadBytes object.bucket object.name data) store).2 =
        if !faults.raises (.bucketExists object.bucket) &&
            faults.carriesOut (.putObject object data) then
          store.put object data
        else store := by
  have looked : Fallible.exec (ObjectStore.handler jpeg faults)
      (Fallible.attempt (upload (.bucketExists object.bucket))) store =
    (if faults.raises (.bucketExists object.bucket) then .error (.minio .s3Error)
      else .ok (decide (object.bucket ∈ store.buckets)), store) := rfl
  have written : Fallible.exec (ObjectStore.handler jpeg faults)
      (Fallible.attempt (upload (.putObject object data))) store =
    faults.carryOut (.putObject object data) (.minio .s3Error) store
      (if object.bucket ∈ store.buckets then (.ok (), store.put object data)
      else (.error (.minio .s3Error), store)) := rfl
  rw [decide_eq_true present] at looked
  rw [MinioStorageClient.uploadBytes]
  by_cases unseen : faults.raises (.bucketExists object.bucket) = true
  · rw [if_pos unseen] at looked
    have ensured : Fallible.exec (ObjectStore.handler jpeg faults)
        (MinioStorageClient.ensureBucket object.bucket) store =
          (.error (.minio .s3Error), store) := by
      rw [MinioStorageClient.ensureBucket, Fallible.exec_bind_error looked]
    rw [Fallible.exec_bind_error ensured, unseen]
    rfl
  · rw [if_neg unseen] at looked
    have ensured : Fallible.exec (ObjectStore.handler jpeg faults)
        (MinioStorageClient.ensureBucket object.bucket) store = (.ok (), store) := by
      rw [MinioStorageClient.ensureBucket, Fallible.exec_bind_ok looked]
      rfl
    rw [Fallible.exec_bind_ok ensured, written, Program.Faults.carryOut_snd, if_pos present,
      Bool.eq_false_of_not_eq_true unseen, Bool.not_false, Bool.true_and]

/-- **What an upload leaves** in a store that has the bucket. -/
theorem exec_cropEncodeUpload (present : object.bucket ∈ store.buckets) :
    (Fallible.exec (ObjectStore.handler jpeg faults)
      (cropEncodeUpload plus object.bucket frame bbox object.name) store).2 =
        match uploaded plus jpeg faults object frame bbox with
        | some data => store.put object data
        | none => store := by
  rw [cropEncodeUpload, Fallible.exec_swallow, cropAndUpload, uploaded]
  by_cases empty : (region plus frame bbox).Empty
  · rw [if_pos empty, if_pos (Or.inl empty)]
    rfl
  rw [if_neg empty]
  have encoded : Fallible.exec (ObjectStore.handler jpeg faults)
      (Fallible.attempt (upload (.imencode (cropOf plus frame bbox)))) store =
    (if faults.raises (.imencode (cropOf plus frame bbox)) then .error .cv2Error
      else .ok (jpeg (cropOf plus frame bbox)), store) := rfl
  by_cases raised : faults.raises (.imencode (cropOf plus frame bbox)) = true
  · rw [if_pos raised] at encoded
    rw [if_pos (Or.inr raised), Fallible.exec_bind_error encoded]
  · rw [if_neg raised] at encoded
    rw [if_neg fun either => either.elim empty raised, Fallible.exec_bind_ok encoded]
    cases jpeg (cropOf plus frame bbox) with
    | none => rfl
    | some data =>
        dsimp only
        rw [exec_uploadBytes present, Option.filter_some]
        split
        · rfl
        · rfl

/-- When an upload writes its crop, and what it writes. -/
theorem uploaded_eq_some_iff {data : List UInt8} :
    uploaded plus jpeg faults object frame bbox = some data ↔
      (∃ y x, (frame.pixel y x).isSome ∧ Covers plus bbox y x) ∧
        jpeg (cropOf plus frame bbox) = some data ∧
        faults.raises (.imencode (cropOf plus frame bbox)) = false ∧
        faults.raises (.bucketExists object.bucket) = false ∧
        faults.carriesOut (.putObject object data) = true := by
  have some : (∃ y x, (frame.pixel y x).isSome ∧ Covers plus bbox y x) ↔
      ¬ (region plus frame bbox).Empty := by
    rw [empty_iff]
    push Not
    rfl
  rw [some, uploaded]
  split
  · rename_i fails
    refine iff_of_false (fun same => by cases same) ?_
    rintro ⟨covers, -, encodes, -⟩
    exact fails.elim covers (by simp [encodes])
  · rename_i succeeds
    obtain ⟨covers, encodes⟩ := not_or.mp succeeds
    rw [Option.filter_eq_some_iff]
    simp only [covers, not_false_eq_true, true_and, Bool.not_eq_true] at encodes ⊢
    simp [encodes]

end Upload

/-! ## The saver -/

/-- What is submitted to the saver's workers: a copy of the frame, where the pipeline
has the box, and the name of the crop.  A note says what the box was at that time. -/
structure CropUpload (π : Type) where
  frame : Image π
  rect : ℕ
  crop : SavedCrop
  box : BoundingBox ℚ

/-- The saver's executor, the boxes of the pipeline and the object store. -/
structure CropSaver (π : Type) where
  queue : WorkQueue (CropUpload π) (Program.Faults (UploadCall π))
  rects : ℕ → BoundingBox ℚ
  store : ObjectStore

/-- What happens: a crop is saved, the pipeline writes a box, a worker takes an upload or
is done with one, in which some calls failed, and the saver is shut down. -/
inductive SaverStep (π : Type)
  | save (frame : Image π) (rect : ℕ) (objectType : String) (minted : Uuid)
  | rewrite (rect : ℕ) (box : BoundingBox ℚ)
  | take
  | finish (index : ℕ) (faults : Program.Faults (UploadCall π))
  | shutdown

namespace CropSaver

/-- A saver whose constructor has found or made the bucket. -/
def start (maxWorkers : ℕ) (rects : ℕ → BoundingBox ℚ) (store : ObjectStore) : CropSaver π where
  queue := .start maxWorkers
  rects := rects
  store := store

/-- `save_crop_async`: the path is answered at once; an executor that is shut down raises. -/
def saveCropAsync (bucketName : String) (bucketed : '/' ∉ bucketName.toList) (saver : CropSaver π)
    (frame : Image π) (rect : ℕ) (objectType : String) (minted : Uuid) :
    Except PyError String × CropSaver π :=
  let crop : SavedCrop := { bucketName, objectType, objectId := minted, bucketed }
  match saver.queue.submit { frame, rect, crop, box := saver.rects rect } with
  | none => (.error .runtimeError, saver)
  | some queue => (.ok crop.path, { saver with queue })

variable (bucketName : String) (bucketed : '/' ∉ bucketName.toList) (plus : ℚ → ℚ → ℚ)
  (jpeg : Image π → Option (List UInt8))

/-- One step; `shutdown` waits until the queue is settled. -/
def step (saver : CropSaver π) : SaverStep π → Option (CropSaver π)
  | .save frame rect objectType minted =>
      some (saveCropAsync bucketName bucketed saver frame rect objectType minted).2
  | .rewrite rect box => some { saver with rects := Function.update saver.rects rect box }
  | .take => saver.queue.take.map fun queue => { saver with queue }
  | .finish index faults =>
      (saver.queue.finish index fun _ => faults).map fun (job, queue) => { saver with
        queue
        store := (Fallible.exec (ObjectStore.handler jpeg faults)
          (cropEncodeUpload plus job.crop.bucketName job.frame (saver.rects job.rect)
            job.crop.objectName) saver.store).2 }
  | .shutdown => some { saver with queue := saver.queue.close }

/-- A new crop has a name of its own, and a box is not written while an upload needs it. -/
def Undisturbed (saver : CropSaver π) : SaverStep π → Prop
  | .save _ _ objectType minted =>
      let crop : SavedCrop := { bucketName, objectType, objectId := minted, bucketed }
      crop.object ∉ saver.queue.submitted.map (fun job => job.crop.object) ∧
        saver.store.objects crop.object = none
  | .rewrite rect _ =>
      ∀ job ∈ saver.queue.running ++ saver.queue.queued, job.rect ≠ rect
  | .take | .finish _ _ | .shutdown => True

/-- What the workers know and have done: the boxes are as they were, and the objects of the
store are what finished uploads have written. -/
structure Faithful (first : ObjectStore) (saver : CropSaver π) : Prop where
  present : bucketName ∈ saver.store.buckets
  named : ∀ job ∈ saver.queue.submitted, job.crop.bucketName = bucketName
  distinct : (saver.queue.submitted.map fun job => job.crop.object).Nodup
  boxes : ∀ job ∈ saver.queue.running ++ saver.queue.queued, saver.rects job.rect = job.box
  written : ∀ job faults, (job, faults) ∈ saver.queue.finished →
    saver.store.objects job.crop.object =
      uploaded plus jpeg faults job.crop.object job.frame job.box
  others : ∀ object, (∀ job ∈ saver.queue.finished, job.1.crop.object ≠ object) →
    saver.store.objects object = first.objects object
  absent : ∀ job ∈ saver.queue.submitted, first.objects job.crop.object = none

variable {bucketName bucketed plus jpeg} {first : ObjectStore} {saver next : CropSaver π}

theorem faithful_start (maxWorkers : ℕ) (rects : ℕ → BoundingBox ℚ)
    (present : bucketName ∈ first.buckets) :
    (start maxWorkers rects first : CropSaver π).Faithful bucketName plus jpeg first where
  present := present
  named _ member := absurd member List.not_mem_nil
  distinct := List.nodup_nil
  boxes _ member := absurd member List.not_mem_nil
  written _ _ done := absurd done List.not_mem_nil
  others _ _ := rfl
  absent _ member := absurd member List.not_mem_nil

/-- What has no finished upload is as it was. -/
theorem Faithful.objects_of_unfinished (faithful : saver.Faithful bucketName plus jpeg first)
    {job : CropUpload π} (running : job ∈ saver.queue.running) :
    saver.store.objects job.crop.object = none := by
  rw [faithful.others _ fun other done =>
    WorkQueue.ne_of_running faithful.distinct running done]
  exact faithful.absent job (WorkQueue.mem_submitted_of_running running)

/-- A saved crop is submitted, or nothing has changed. -/
theorem faithful_save (faithful : saver.Faithful bucketName plus jpeg first) {frame : Image π}
    {rect : ℕ} {objectType : String} {minted : Uuid}
    (fresh : saver.Undisturbed bucketName bucketed (.save frame rect objectType minted)) :
    (saveCropAsync bucketName bucketed saver frame rect objectType minted).2.Faithful bucketName
      plus jpeg first := by
  rw [saveCropAsync]
  split
  · exact faithful
  rename_i queue moved
  obtain ⟨submitted, finished, waiting⟩ := WorkQueue.submit_eq_some moved
  -- no upload before has written under the new name, so the object is as it was
  have unknown : ∀ job ∈ saver.queue.finished, job.1.crop.object ≠
      SavedCrop.object { bucketName, objectType, objectId := minted, bucketed } := by
    rintro ⟨job, faults⟩ done same
    refine fresh.1 (List.mem_map.mpr ⟨job, ?_, same⟩)
    exact WorkQueue.mem_submitted_of_finished done
  constructor
  case present => exact faithful.present
  case named =>
    rw [submitted]
    intro job member
    rcases List.mem_append.mp member with before | new
    · exact faithful.named job before
    · rw [List.mem_singleton.mp new]
  case distinct =>
    rw [submitted, List.map_append, List.map_singleton]
    exact List.Nodup.append faithful.distinct (List.nodup_singleton _)
      (List.disjoint_singleton.mpr fresh.1)
  case boxes =>
    rw [waiting]
    intro job member
    rcases List.mem_append.mp member with before | new
    · exact faithful.boxes job before
    · rw [List.mem_singleton.mp new]
  case written =>
    rw [finished]
    exact faithful.written
  case others =>
    rw [finished]
    exact faithful.others
  case absent =>
    rw [submitted]
    intro job member
    rcases List.mem_append.mp member with before | new
    · exact faithful.absent job before
    · rw [List.mem_singleton.mp new]
      exact (faithful.others _ unknown).symm.trans fresh.2

/-- A finished upload has written its crop, if it has written anything. -/
theorem faithful_finish (faithful : saver.Faithful bucketName plus jpeg first) {index : ℕ}
    {faults : Program.Faults (UploadCall π)}
    (moved : saver.step bucketName bucketed plus jpeg (.finish index faults) = some next) :
    next.Faithful bucketName plus jpeg first := by
  obtain ⟨⟨job, queue⟩, done, rfl⟩ := Option.map_eq_some_iff.mp moved
  obtain ⟨running, submitted, finished, waiting⟩ := WorkQueue.finish_eq_some done
  have known := WorkQueue.mem_submitted_of_running running
  have present : job.crop.object.bucket ∈ saver.store.buckets := by
    show job.crop.bucketName ∈ _
    rw [faithful.named job known]
    exact faithful.present
  have left := @exec_cropEncodeUpload π plus jpeg faults job.crop.object job.frame job.box
    saver.store present
  rw [← faithful.boxes job (List.mem_append_left _ running)] at left
  have unwritten := faithful.objects_of_unfinished running
  have named : ∀ other ∈ saver.queue.finished, other.1.crop.object ≠ job.crop.object :=
    fun other before => WorkQueue.ne_of_running faithful.distinct running before
  -- the upload touches its own object only
  have store : (Fallible.exec (ObjectStore.handler jpeg faults) (cropEncodeUpload plus
        job.crop.bucketName job.frame (saver.rects job.rect) job.crop.objectName)
          saver.store).2.buckets = saver.store.buckets ∧
      ∀ object, (Fallible.exec (ObjectStore.handler jpeg faults) (cropEncodeUpload plus
        job.crop.bucketName job.frame (saver.rects job.rect) job.crop.objectName)
          saver.store).2.objects object =
        if object = job.crop.object then uploaded plus jpeg faults job.crop.object job.frame job.box
        else saver.store.objects object := by
    have left := @exec_cropEncodeUpload π plus jpeg faults job.crop.object job.frame job.box
      saver.store present
    rw [faithful.boxes job (List.mem_append_left _ running)]
    refine ⟨(congrArg ObjectStore.buckets left).trans ?_, fun object =>
      (congrArg (fun store => ObjectStore.objects store object) left).trans ?_⟩
    · split <;> rfl
    · cases outcome : uploaded plus jpeg faults job.crop.object job.frame job.box with
      | none =>
          dsimp only
          split
          · rename_i same
            rw [same, unwritten]
          · rfl
      | some data => exact Function.update_apply _ _ _ _
  constructor
  case present => exact store.1 ▸ faithful.present
  case named => exact submitted ▸ faithful.named
  case distinct => exact submitted ▸ faithful.distinct
  case boxes => exact fun other member => faithful.boxes other (waiting member)
  case written =>
    intro other result before
    rw [store.2]
    rw [finished] at before
    rcases List.mem_append.mp before with earlier | new
    · rw [if_neg (named _ earlier)]
      exact faithful.written other result earlier
    · cases List.mem_singleton.mp new
      rw [if_pos rfl]
  case others =>
    intro object unnamed
    rw [finished] at unnamed
    rw [store.2, if_neg]
    · exact faithful.others object fun other before =>
        unnamed other (List.mem_append_left _ before)
    · intro same
      exact unnamed (job, faults) (List.mem_append_right _ (List.mem_singleton_self _)) same.symm
  case absent => exact submitted ▸ faithful.absent

theorem faithful_step (saver : CropSaver π) (label : SaverStep π) (next : CropSaver π)
    (faithful : saver.Faithful bucketName plus jpeg first)
    (met : saver.Undisturbed bucketName bucketed label)
    (moved : saver.step bucketName bucketed plus jpeg label = some next) :
    next.Faithful bucketName plus jpeg first := by
  cases label with
  | save frame rect objectType minted =>
      cases moved
      exact faithful_save faithful met
  | rewrite rect box =>
      cases moved
      refine { faithful with boxes := fun job member => ?_ }
      exact (Function.update_of_ne (met job member) _ _).trans (faithful.boxes job member)
  | take =>
      obtain ⟨queue, taken, rfl⟩ := Option.map_eq_some_iff.mp moved
      obtain ⟨submitted, finished, waiting⟩ := WorkQueue.take_eq_some taken
      constructor
      case present => exact faithful.present
      case named => exact submitted ▸ faithful.named
      case distinct => exact submitted ▸ faithful.distinct
      case boxes => exact fun job member => faithful.boxes job (waiting ▸ member)
      case written => exact finished ▸ faithful.written
      case others => exact finished ▸ faithful.others
      case absent => exact submitted ▸ faithful.absent
  | finish index raises => exact faithful_finish faithful moved
  | shutdown =>
      cases moved
      exact ⟨faithful.present, faithful.named, faithful.distinct, faithful.boxes,
        faithful.written, faithful.others, faithful.absent⟩

/-- **Crops arrive.**  Once the saver is shut down and has waited for its workers, every path
that it has answered names an object, as the retention job reads the path; the object is
there just in case a pixel of the frame was in the box, neither the encoder nor MinIO's
answer about the bucket failed, and MinIO has stored the bytes, whether or not it said so; it
is then the encoded crop of the frame at that box.  Nothing else is written. -/
theorem crops_arrive {maxWorkers : ℕ} {rects : ℕ → BoundingBox ℚ} {steps : List (SaverStep π)}
    (present : bucketName ∈ first.buckets)
    (guarded : Meets (Undisturbed bucketName bucketed) (step bucketName bucketed plus jpeg)
      (start maxWorkers rects first) steps)
    (reached : runFrom (step bucketName bucketed plus jpeg) (start maxWorkers rects first) steps =
      some saver)
    (settled : saver.queue.Settled) (settings : Scheduler.Settings) :
    (∀ job ∈ saver.queue.submitted, IsCrop plus job.frame job.box (cropOf plus job.frame job.box) ∧
      ∃ faults, (job, faults) ∈ saver.queue.finished ∧
        ∀ data, saver.store.objects (settings.cropObject job.crop.path) = some data ↔
          (∃ y x, (job.frame.pixel y x).isSome ∧ Covers plus job.box y x) ∧
            jpeg (cropOf plus job.frame job.box) = some data ∧
            faults.raises (.imencode (cropOf plus job.frame job.box)) = false ∧
            faults.raises (.bucketExists bucketName) = false ∧
            faults.carriesOut (.putObject job.crop.object data) = true) ∧
      ∀ object, (∀ job ∈ saver.queue.submitted, job.crop.object ≠ object) →
        saver.store.objects object = first.objects object := by
  have faithful : saver.Faithful bucketName plus jpeg first :=
    runFrom_invariant_of_meets faithful_step (faithful_start maxWorkers rects present) guarded
      reached
  have all := WorkQueue.finished_perm settled
  refine ⟨fun job member => ⟨isCrop_crop, ?_⟩, fun object unnamed => ?_⟩
  · obtain ⟨⟨job, faults⟩, done, rfl⟩ := List.mem_map.mp (all.mem_iff.mpr member)
    refine ⟨faults, done, fun data => ?_⟩
    rw [Scheduler.cropObject_path, faithful.written job faults done, uploaded_eq_some_iff,
      show job.crop.object.bucket = bucketName from faithful.named job member]
  · exact faithful.others object fun job done =>
      unnamed job.1 (all.mem_iff.mp (List.mem_map_of_mem done))

/-! ### Three crops -/

/-- A frame of two rows. -/
def exampleFrame : Image ℕ where
  rows := [[1, 2], [3, 4]]
  width := 2
  uniform := by decide

/-- A column of the frame. -/
def exampleBox (column : ℕ) : BoundingBox ℚ where
  left := column
  top := 0
  width := 1
  height := 2

/-- Pixels of one byte, row after row. -/
def exampleJpeg (image : Image ℕ) : Option (List UInt8) := some (image.rows.flatten.map UInt8.ofNat)

def exampleStart : CropSaver ℕ :=
  start 2 exampleBox { buckets := {"detection-crops"}, objects := fun _ => none }

theorem bucketed_example : '/' ∉ "detection-crops".toList := by decide +kernel

/-- What is submitted. -/
def exampleUpload (rect id : ℕ) : CropUpload ℕ where
  frame := exampleFrame
  rect := rect
  crop := ⟨"detection-crops", "person", .ofNat id, bucketed_example⟩
  box := exampleBox rect

/-- MinIO stores the second crop and does not say so, and refuses the third one. -/
def exampleFaults (id : Uuid) : Program.Faults (UploadCall ℕ) where
  raises
    | .putObject _ _ => id = .ofNat 8 || id = .ofNat 9
    | _ => false
  applied _ := id = .ofNat 8

/-- Two workers have three uploads, and the first of these is done last. -/
def exampleSteps : List (SaverStep ℕ) :=
  [.save exampleFrame 0 "person" (.ofNat 7), .save exampleFrame 1 "person" (.ofNat 8),
    .take, .take, .finish 1 (exampleFaults (.ofNat 8)),
    .save exampleFrame 0 "person" (.ofNat 9), .take,
    .finish 1 (exampleFaults (.ofNat 9)), .finish 0 (exampleFaults (.ofNat 7)), .shutdown]

instance (saver : CropSaver ℕ) (label : SaverStep ℕ) :
    Decidable (saver.Undisturbed "detection-crops" bucketed_example label) :=
  match label with
  | .save _ _ _ _ => inferInstanceAs (Decidable (_ ∧ _))
  | .rewrite rect _ =>
      inferInstanceAs
        (Decidable (∀ job ∈ saver.queue.running ++ saver.queue.queued, job.rect ≠ rect))
  | .take | .finish _ _ | .shutdown => isTrue trivial

/-- They are run to their ends. -/
theorem runFrom_exampleSteps :
    ∃ saver, runFrom (step "detection-crops" bucketed_example (· + ·) exampleJpeg) exampleStart
        exampleSteps = some saver ∧ saver.queue.Settled ∧
      saver.queue.submitted = [exampleUpload 0 7, exampleUpload 1 8, exampleUpload 0 9] ∧
      ∀ job faults, (job, faults) ∈ saver.queue.finished →
        faults = exampleFaults job.crop.objectId := by
  refine ⟨_, rfl, ⟨rfl, rfl, rfl⟩, rfl, fun job faults done => ?_⟩
  rcases List.mem_cons.mp done with same | done
  · cases same
    rfl
  rcases List.mem_cons.mp done with same | done
  · cases same
    rfl
  · cases List.mem_singleton.mp done
    rfl

theorem crops_arrive_example :
    ∃ saver, runFrom (step "detection-crops" bucketed_example (· + ·) exampleJpeg) exampleStart
        exampleSteps = some saver ∧
      saver.store.objects (Scheduler.exampleSettings.cropObject (exampleUpload 0 7).crop.path) =
        some [1, 3] ∧
      saver.store.objects (Scheduler.exampleSettings.cropObject (exampleUpload 1 8).crop.path) =
        some [2, 4] ∧
      saver.store.objects (Scheduler.exampleSettings.cropObject (exampleUpload 0 9).crop.path) =
        none := by
  have guarded : Meets (Undisturbed "detection-crops" bucketed_example)
      (step "detection-crops" bucketed_example (· + ·) exampleJpeg) exampleStart exampleSteps := by
    decide +kernel
  obtain ⟨saver, reached, settled, submitted, known⟩ := runFrom_exampleSteps
  have present : "detection-crops" ∈ exampleStart.store.buckets := Finset.mem_singleton_self _
  have arrive := (crops_arrive present guarded reached settled Scheduler.exampleSettings).1
  rw [submitted] at arrive
  refine ⟨saver, reached, ?_, ?_, ?_⟩
  · obtain ⟨-, faults, done, stored⟩ := arrive (exampleUpload 0 7) List.mem_cons_self
    rw [known _ _ done] at stored
    refine (stored [1, 3]).mpr ⟨⟨0, 0, by decide +kernel, ?_⟩, by decide +kernel, rfl, rfl,
      by decide +kernel⟩
    norm_num [Covers, exampleUpload, exampleBox]
  · obtain ⟨-, faults, done, stored⟩ := arrive (exampleUpload 1 8)
      (List.mem_cons_of_mem _ List.mem_cons_self)
    rw [known _ _ done] at stored
    refine (stored [2, 4]).mpr ⟨⟨0, 1, by decide +kernel, ?_⟩, by decide +kernel, rfl, rfl,
      by decide +kernel⟩
    norm_num [Covers, exampleUpload, exampleBox]
  · obtain ⟨-, faults, done, stored⟩ := arrive (exampleUpload 0 9)
      (List.mem_cons_of_mem _ (List.mem_cons_of_mem _ List.mem_cons_self))
    rw [known _ _ done] at stored
    refine Option.eq_none_iff_forall_ne_some.mpr fun data here => ?_
    have carried := ((stored data).mp here).2.2.2.2
    exact absurd carried (Bool.eq_false_iff.mp rfl)

end CropSaver

end PersonTracking.AiService
