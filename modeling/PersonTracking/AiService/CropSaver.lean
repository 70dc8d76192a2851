import PersonTracking.Python.Uuid
import PersonTracking.Shared.Minio

/-!
# Saved crops

`CropSaver.save_crop_async` mints a UUID, names the object after it, and returns
the bucket and the name as one path before the upload has run.  A bucket name
has no slash, so the first slash of the path divides the two again.
-/

namespace PersonTracking.AiService

open Python Shared

/-- What a path of `save_crop_async` is made of. -/
structure SavedCrop where
  bucketName : String
  objectType : String
  objectId : Uuid
  bucketed : '/' ∉ bucketName.toList

namespace SavedCrop

/-- `f"{object_type}/{object_id}.jpg"`. -/
def objectName (crop : SavedCrop) : String :=
  crop.objectType ++ "/" ++ crop.objectId.toText ++ ".jpg"

/-- The object `_crop_encode_upload` writes. -/
def object (crop : SavedCrop) : ObjectRef where
  bucket := crop.bucketName
  name := crop.objectName

/-- `f"{self.bucket_name}/{object_name}"`. -/
def path (crop : SavedCrop) : String := crop.bucketName ++ "/" ++ crop.objectName

theorem toList_path (crop : SavedCrop) :
    crop.path.toList = crop.bucketName.toList ++ '/' :: crop.objectName.toList := by
  have slash : "/".toList = ['/'] := by decide +kernel
  rw [path, String.toList_append, String.toList_append, slash, List.append_assoc]
  rfl

theorem path_ne_empty (crop : SavedCrop) : crop.path ≠ "" := by
  intro empty
  have same := crop.toList_path
  rw [empty] at same
  exact absurd same.symm (List.append_ne_nil_of_right_ne_nil _ (List.cons_ne_nil _ _))

end SavedCrop

end PersonTracking.AiService
