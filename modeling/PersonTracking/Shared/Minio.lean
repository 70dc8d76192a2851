import Mathlib.Data.Finset.Basic
import PersonTracking.Library.Program

/-!
# The object store

`MinioStorageClient.delete_object` as a program over the calls of the MinIO SDK,
and what the calls do to a store that holds objects under a bucket and a name.
One object may be removed twice, so which removals fail is given by their number.
-/

namespace PersonTracking.Shared

open Library

/-- Where an object lies. -/
structure ObjectRef where
  bucket : String
  name : String
deriving DecidableEq, Repr

/-- What the SDK raises. -/
inductive MinioError
  | valueError
  | s3Error
  | connectionError
deriving DecidableEq, Repr

/-- The calls of the SDK. -/
inductive MinioCall
  | removeObject (bucket name : String)
deriving DecidableEq, Repr

/-- Their answers. -/
abbrev MinioReply : MinioCall → Type
  | .removeObject _ _ => Except MinioError Unit

namespace MinioStorageClient

/-- `delete_object`: whatever the SDK raises is logged and raised again. -/
def deleteObject (bucket name : String) : Fallible MinioCall MinioReply MinioError Unit :=
  Fallible.attempt (Program.perform (.removeObject bucket name))

end MinioStorageClient

/-- The objects, and how many removals were asked for. -/
structure Minio where
  objects : Finset ObjectRef
  asked : ℕ

namespace Minio

/-- One more removal asked for. -/
def count (minio : Minio) : Minio := { minio with asked := minio.asked + 1 }

/-- One object less; removing what is not there is no error. -/
def remove (minio : Minio) (object : ObjectRef) : Minio :=
  { minio with objects := minio.objects.erase object }

/-- What the calls do, given which removals raise. -/
def handler (raises : ℕ → Bool) : Program.Handler MinioCall MinioReply Minio
  | .removeObject bucket name, minio =>
      if raises minio.asked then (.error .s3Error, minio.count)
      else (.ok (), (minio.remove { bucket, name }).count)

/-- The objects that go when removals are asked for one after the other. -/
def removed (raises : ℕ → Bool) : ℕ → List ObjectRef → List ObjectRef
  | _, [] => []
  | asked, object :: rest =>
      if raises asked then removed raises (asked + 1) rest
      else object :: removed raises (asked + 1) rest

theorem subset_of_mem_removed {raises : ℕ → Bool} {asked : ℕ} {objects : List ObjectRef} :
    ∀ object ∈ removed raises asked objects, object ∈ objects := by
  induction objects generalizing asked with
  | nil => exact fun object member => member
  | cons first rest ih =>
      intro object member
      rw [removed] at member
      split at member
      · exact List.mem_cons_of_mem _ (ih object member)
      · rcases List.mem_cons.mp member with rfl | later
        · exact List.mem_cons_self
        · exact List.mem_cons_of_mem _ (ih object later)

/-- When no removal raises, all objects go. -/
theorem removed_never (asked : ℕ) (objects : List ObjectRef) :
    removed (fun _ => false) asked objects = objects := by
  induction objects generalizing asked with
  | nil => rfl
  | cons first rest ih => rw [removed, if_neg Bool.false_ne_true, ih]

/-- The store after removals were asked for one after the other. -/
def removeEach (raises : ℕ → Bool) : List ObjectRef → Minio → Minio
  | [], minio => minio
  | object :: rest, minio =>
      removeEach raises rest
        (if raises minio.asked then minio.count else (minio.remove object).count)

/-- **Exactly the removed objects are gone.** -/
theorem mem_objects_removeEach {raises : ℕ → Bool} {objects : List ObjectRef} {minio : Minio}
    {object : ObjectRef} :
    object ∈ (removeEach raises objects minio).objects ↔
      object ∈ minio.objects ∧ object ∉ removed raises minio.asked objects := by
  induction objects generalizing minio with
  | nil => simp [removeEach, removed]
  | cons first rest ih =>
      rw [removeEach, removed, ih]
      by_cases raised : raises minio.asked = true
      · rw [if_pos raised, if_pos raised]
        rfl
      · rw [if_neg raised, if_neg raised, List.mem_cons, not_or]
        show object ∈ minio.objects.erase first ∧ object ∉ removed raises (minio.asked + 1) rest ↔ _
        rw [Finset.mem_erase]
        tauto

/-- A removal raises or is carried out. -/
theorem run_deleteObject (raises : ℕ → Bool) (object : ObjectRef) (minio : Minio) :
    (Fallible.exec (handler raises) (MinioStorageClient.deleteObject object.bucket object.name)
      minio).2 = if raises minio.asked then minio.count else (minio.remove object).count := by
  show (handler raises (.removeObject object.bucket object.name) minio).2 = _
  rw [handler]
  split <;> rfl

end Minio

end PersonTracking.Shared
