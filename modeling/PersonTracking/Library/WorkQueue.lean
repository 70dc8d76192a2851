import Mathlib.Data.List.Basic
import Mathlib.Data.List.Perm.Basic

/-!
# Work queues

A `WorkQueue` takes jobs until it is closed and gives them, first come first
served, to a fixed number of workers.  What a job's future holds is noted beside
the job when it is finished.

That no more jobs run than there are workers, and that every job submitted is
queued, running or finished, are fields: no queue loses a job or runs one twice.
`finished_perm` is what a caller waits for who closes the queue.
-/

namespace PersonTracking.Library

universe u v

/-- Jobs in the hands of workers; `ρ` is what a finished job leaves in its future. -/
structure WorkQueue (ω : Type u) (ρ : Type v) where
  workers : ℕ
  accepting : Bool
  submitted : List ω
  queued : List ω
  running : List ω
  finished : List (ω × ρ)
  fits : running.length ≤ workers
  conserved : (finished.map Prod.fst ++ running ++ queued).Perm submitted

namespace WorkQueue

variable {ω : Type u} {ρ : Type v}

/-- A queue no job has come to. -/
def start (workers : ℕ) : WorkQueue ω ρ where
  workers := workers
  accepting := true
  submitted := []
  queued := []
  running := []
  finished := []
  fits := Nat.zero_le _
  conserved := .nil

variable (queue : WorkQueue ω ρ)

/-- One more job; a closed queue takes none. -/
def submit (job : ω) : Option (WorkQueue ω ρ) :=
  if queue.accepting then
    some { queue with
      submitted := queue.submitted ++ [job]
      queued := queue.queued ++ [job]
      conserved := by
        rw [← List.append_assoc]
        exact queue.conserved.append_right [job] }
  else none

/-- A free worker takes the job that has waited longest. -/
def take : Option (WorkQueue ω ρ) :=
  match waiting : queue.queued with
  | [] => none
  | job :: rest =>
      if room : queue.running.length < queue.workers then
        some { queue with
          queued := rest
          running := queue.running ++ [job]
          fits := by
            rw [List.length_append, List.length_singleton]
            exact room
          conserved := by
            have conserved := queue.conserved
            rw [waiting] at conserved
            simpa using conserved }
      else none

/-- A worker is done with its job. -/
def finish (index : ℕ) (result : ω → ρ) : Option (ω × WorkQueue ω ρ) :=
  if held : index < queue.running.length then
    some (queue.running[index], { queue with
      running := queue.running.eraseIdx index
      finished := queue.finished ++ [(queue.running[index], result queue.running[index])]
      fits := Nat.le_trans (List.length_eraseIdx_le _ _) queue.fits
      conserved := by
        refine List.Perm.trans ?_ queue.conserved
        rw [List.map_append, List.map_singleton, List.append_assoc (queue.finished.map Prod.fst)]
        exact ((List.getElem_cons_eraseIdx_perm held).append_left _).append_right _ })
  else none

/-- No more jobs are taken. -/
def close : WorkQueue ω ρ := { queue with accepting := false }

/-- Whoever has closed the queue and waits for the jobs waits no longer. -/
def Settled : Prop := queue.accepting = false ∧ queue.running = [] ∧ queue.queued = []

variable {queue}

/-- **Every job is finished, once**, when the wait is over. -/
theorem finished_perm (settled : queue.Settled) :
    (queue.finished.map Prod.fst).Perm queue.submitted := by
  have conserved := queue.conserved
  rwa [settled.2.1, settled.2.2, List.append_nil, List.append_nil] at conserved

/-- Who is running or queued has been submitted. -/
theorem mem_submitted_of_running {job : ω} (running : job ∈ queue.running) :
    job ∈ queue.submitted :=
  queue.conserved.subset (List.mem_append_left _ (List.mem_append_right _ running))

theorem mem_submitted_of_finished {job : ω} {result : ρ} (done : (job, result) ∈ queue.finished) :
    job ∈ queue.submitted :=
  queue.conserved.subset
    (List.mem_append_left _ (List.mem_append_left _ (List.mem_map_of_mem done)))

/-- A job with a name of its own is not both running and finished. -/
theorem ne_of_running {ν : Type*} {name : ω → ν} (distinct : (queue.submitted.map name).Nodup)
    {job other : ω} {result : ρ} (running : job ∈ queue.running)
    (done : (other, result) ∈ queue.finished) : name other ≠ name job := by
  have apart : ((queue.finished.map Prod.fst ++ queue.running ++ queue.queued).map name).Nodup :=
    (queue.conserved.map name).nodup_iff.mpr distinct
  rw [List.map_append, List.map_append] at apart
  have disjoint := (List.nodup_append.mp (List.nodup_append.mp apart).1).2.2
  exact disjoint _ (List.mem_map_of_mem (List.mem_map_of_mem done)) _ (List.mem_map_of_mem running)

/-! ## What a move leaves -/

theorem submit_eq_some {job : ω} {next : WorkQueue ω ρ} (moved : queue.submit job = some next) :
    next.submitted = queue.submitted ++ [job] ∧ next.finished = queue.finished ∧
      next.running ++ next.queued = queue.running ++ queue.queued ++ [job] := by
  rw [submit] at moved
  split at moved
  · cases moved
    exact ⟨rfl, rfl, (List.append_assoc _ _ _).symm⟩
  · cases moved

theorem take_eq_some {next : WorkQueue ω ρ} (moved : queue.take = some next) :
    next.submitted = queue.submitted ∧ next.finished = queue.finished ∧
      next.running ++ next.queued = queue.running ++ queue.queued := by
  rw [take] at moved
  split at moved
  · cases moved
  · rename_i job rest waiting
    split at moved
    · cases moved
      refine ⟨rfl, rfl, ?_⟩
      show queue.running ++ [job] ++ rest = queue.running ++ queue.queued
      rw [waiting, List.append_assoc]
      rfl
    · cases moved

theorem finish_eq_some {index : ℕ} {result : ω → ρ} {job : ω} {next : WorkQueue ω ρ}
    (moved : queue.finish index result = some (job, next)) :
    job ∈ queue.running ∧ next.submitted = queue.submitted ∧
      next.finished = queue.finished ++ [(job, result job)] ∧
      next.running ++ next.queued ⊆ queue.running ++ queue.queued := by
  rw [finish] at moved
  split at moved
  · cases moved
    refine ⟨List.getElem_mem _, rfl, rfl, ?_⟩
    exact List.append_subset.mpr
      ⟨fun _ member => List.mem_append_left _ (List.mem_of_mem_eraseIdx member),
        List.subset_append_right _ _⟩
  · cases moved

end WorkQueue

end PersonTracking.Library
