import Mathlib.Tactic.Linarith
import PersonTracking.Shared.Redis

/-!
# The login lockout

`proxy_request` asks before it forwards a login whether the client is locked
out, and audits the status it gets back.  What is known of a client is a counter
with a time to live in Redis, or a pair of a count and a deadline in
`gateway_lockouts`; both functions are given here for both backends.

`admissions_agree_iff` says for which attempts the backends decide alike.
-/

namespace PersonTracking.Gateway

open Shared

/-- What the audit makes of an answer of the auth service. -/
inductive LoginOutcome
  | success
  | unauthorized
  | other
deriving DecidableEq, Repr

/-- Failures a client may make before it is locked out. -/
def maxAttempts : ℕ := 5

/-- The seconds a lockout lasts. -/
def lockoutSeconds : ℚ := 900

/-! ## Redis -/

/-- `redis_client.get(lockout_key)` and the comparison. -/
def lockedRedis (counter : Redis.Key ℕ) (now : ℚ) : Bool :=
  match counter.live now with
  | some attempts => maxAttempts ≤ attempts
  | none => false

/-- The audit of an answer. -/
def auditRedis (counter : Redis.Key ℕ) (now : ℚ) : LoginOutcome → Redis.Key ℕ
  | .success => none
  | .unauthorized => Redis.incr counter now lockoutSeconds
  | .other => counter

/-! ## Memory -/

/-- An entry of `gateway_lockouts`. -/
structure Lockout where
  attempts : ℕ
  lockUntil : ℚ
deriving Repr

/-- `gateway_lockouts.get(client_ip, (0, 0.0))`. -/
def lockoutOf (entry : Option Lockout) : Lockout := entry.getD { attempts := 0, lockUntil := 0 }

/-- The in-memory check. -/
def lockedMemory (entry : Option Lockout) (now : ℚ) : Bool :=
  maxAttempts ≤ (lockoutOf entry).attempts && (now < (lockoutOf entry).lockUntil : Bool)

/-- The audit of an answer. -/
def auditMemory (entry : Option Lockout) (now : ℚ) : LoginOutcome → Option Lockout
  | .success => none
  | .unauthorized =>
      let attempts := (lockoutOf entry).attempts + 1
      some { attempts, lockUntil := if maxAttempts ≤ attempts then now + lockoutSeconds else 0 }
  | .other => entry

/-! ## Attempts one after the other -/

/-- A login attempt: when it is checked, and when and how it is answered if it
is let through. -/
structure Attempt where
  checked : ℚ
  answered : ℚ
  outcome : LoginOutcome
deriving Repr

/-- Which attempts are let through, by what is known of the client. -/
def admissions {σ : Type} (locked : σ → ℚ → Bool) (audit : σ → ℚ → LoginOutcome → σ) :
    σ → List Attempt → List Bool
  | _, [] => []
  | s, attempt :: later =>
      if locked s attempt.checked then false :: admissions locked audit s later
      else true :: admissions locked audit (audit s attempt.answered attempt.outcome) later

/-- With Redis, nothing known at first. -/
def redisAdmissions (attempts : List Attempt) : List Bool :=
  admissions lockedRedis auditRedis none attempts

/-- With `gateway_lockouts`, nothing known at first. -/
def memoryAdmissions (attempts : List Attempt) : List Bool :=
  admissions lockedMemory auditMemory none attempts

/-! ## The failures since the last success -/

/-- How many of the latest failures follow each other within the lockout time. -/
def streak : List ℚ → ℕ
  | [] => 0
  | [_] => 1
  | latest :: previous :: older =>
      if latest < previous + lockoutSeconds then streak (previous :: older) + 1 else 1

/-- The latest failure is within the lockout time. -/
def Recent (failures : List ℚ) (now : ℚ) : Prop :=
  match failures with
  | latest :: _ => now < latest + lockoutSeconds
  | [] => False

instance (failures : List ℚ) (now : ℚ) : Decidable (Recent failures now) :=
  match failures with
  | latest :: _ => inferInstanceAs (Decidable (now < latest + lockoutSeconds))
  | [] => inferInstanceAs (Decidable False)

/-- A pause has interrupted the failures: there are enough of them for a
lockout, but not since the pause. -/
def Interrupted (failures : List ℚ) : Prop :=
  maxAttempts ≤ failures.length ∧ streak failures < maxAttempts

instance (failures : List ℚ) : Decidable (Interrupted failures) :=
  inferInstanceAs (Decidable (_ ∧ _))

/-- The failures after an answer, newest first. -/
def afterAnswer (failures : List ℚ) (answered : ℚ) : LoginOutcome → List ℚ
  | .success => []
  | .unauthorized => answered :: failures
  | .other => failures

/-- No attempt comes within the lockout time after interrupted failures.  The
walk keeps the failures since the last success; an attempt adds to them unless
it comes within the lockout time after at least `maxAttempts` of them. -/
def Undisturbed : List ℚ → List Attempt → Prop
  | _, [] => True
  | failures, attempt :: later =>
      ¬ (Recent failures attempt.checked ∧ Interrupted failures) ∧
        Undisturbed
          (if maxAttempts ≤ failures.length ∧ Recent failures attempt.checked then failures
            else afterAnswer failures attempt.answered attempt.outcome) later

theorem streak_le_length (failures : List ℚ) : streak failures ≤ failures.length := by
  induction failures with
  | nil => exact le_refl 0
  | cons latest older ih =>
      cases older with
      | nil => exact le_refl 1
      | cons previous oldest =>
          rw [streak, List.length_cons]
          split
          · omega
          · exact Nat.le_add_left 1 _

/-- What Redis knows of the failures. -/
def redisOf : List ℚ → Redis.Key ℕ
  | [] => none
  | latest :: older =>
      some { value := streak (latest :: older), deadline := latest + lockoutSeconds }

/-- What the dictionary knows of the failures. -/
def memoryOf : List ℚ → Option Lockout
  | [] => none
  | latest :: older => some {
      attempts := (latest :: older).length
      lockUntil := if maxAttempts ≤ (latest :: older).length then latest + lockoutSeconds else 0 }

section Views

variable {failures : List ℚ} {now : ℚ}

theorem lockedRedis_iff :
    lockedRedis (redisOf failures) now = true ↔
      Recent failures now ∧ maxAttempts ≤ streak failures := by
  cases failures with
  | nil => exact ⟨fun wrong => absurd wrong Bool.false_ne_true, fun wrong => wrong.1.elim⟩
  | cons latest older =>
      unfold redisOf lockedRedis
      by_cases recent : now < latest + lockoutSeconds
      · rw [Redis.Key.live_some recent]
        simp [Recent, recent]
      · rw [Redis.Key.live_expired (not_lt.mp recent)]
        simp [Recent, recent]

theorem lockedMemory_iff :
    lockedMemory (memoryOf failures) now = true ↔
      Recent failures now ∧ maxAttempts ≤ failures.length := by
  cases failures with
  | nil => exact ⟨fun wrong => absurd wrong Bool.false_ne_true, fun wrong => wrong.1.elim⟩
  | cons latest older =>
      unfold memoryOf lockedMemory lockoutOf
      by_cases many : maxAttempts ≤ (latest :: older).length
      · simp only [Option.getD_some, if_pos many, Bool.and_eq_true, decide_eq_true_eq]
        exact and_comm
      · simp only [Option.getD_some, Bool.and_eq_true, decide_eq_true_eq]
        exact ⟨fun both => absurd both.1 many, fun both => absurd both.2 many⟩

/-- Redis keeps to its view of the failures. -/
theorem auditRedis_redisOf (outcome : LoginOutcome) :
    auditRedis (redisOf failures) now outcome = redisOf (afterAnswer failures now outcome) := by
  cases outcome with
  | success => rfl
  | other => rfl
  | unauthorized =>
      cases failures with
      | nil => rfl
      | cons latest older =>
          have longer : streak (now :: latest :: older) =
              if now < latest + lockoutSeconds then streak (latest :: older) + 1 else 1 := rfl
          show Redis.incr (some ⟨streak (latest :: older), latest + lockoutSeconds⟩) now
              lockoutSeconds = some ⟨streak (now :: latest :: older), now + lockoutSeconds⟩
          rw [longer, Redis.incr]
          by_cases recent : now < latest + lockoutSeconds
          · rw [Redis.Key.live_some recent, if_pos recent]
            rfl
          · rw [Redis.Key.live_expired (not_lt.mp recent), if_neg recent]
            rfl

/-- …and so does the dictionary. -/
theorem auditMemory_memoryOf (outcome : LoginOutcome) :
    auditMemory (memoryOf failures) now outcome = memoryOf (afterAnswer failures now outcome) := by
  cases outcome with
  | success => rfl
  | other => rfl
  | unauthorized => cases failures <;> rfl

end Views

/-- From the same failures on, the backends agree exactly on what is undisturbed. -/
theorem admissions_agree_from (failures : List ℚ) (attempts : List Attempt) :
    admissions lockedRedis auditRedis (redisOf failures) attempts =
        admissions lockedMemory auditMemory (memoryOf failures) attempts ↔
      Undisturbed failures attempts := by
  induction attempts generalizing failures with
  | nil => exact ⟨fun _ => trivial, fun _ => rfl⟩
  | cons attempt later ih =>
      rw [admissions, admissions, Undisturbed, auditRedis_redisOf, auditMemory_memoryOf]
      by_cases full : maxAttempts ≤ failures.length ∧ Recent failures attempt.checked
      · obtain ⟨many, recent⟩ := full
        rw [if_pos (lockedMemory_iff.mpr ⟨recent, many⟩), if_pos (And.intro many recent)]
        by_cases long : maxAttempts ≤ streak failures
        · rw [if_pos (lockedRedis_iff.mpr ⟨recent, long⟩), List.cons.injEq]
          exact and_congr ⟨fun _ wrong => absurd long (not_le.mpr wrong.2.2), fun _ => rfl⟩
            (ih failures)
        · -- the one case in which the backends decide differently
          rw [if_neg fun locked => long (lockedRedis_iff.mp locked).2, List.cons.injEq]
          refine ⟨fun same => absurd same.1 (by decide), fun both => ?_⟩
          exact absurd ⟨recent, many, not_le.mp long⟩ both.1
      · have open' : ¬ lockedMemory (memoryOf failures) attempt.checked = true :=
          fun locked => full (lockedMemory_iff.mp locked).symm
        have openRedis : ¬ lockedRedis (redisOf failures) attempt.checked = true := by
          intro locked
          obtain ⟨recent, long⟩ := lockedRedis_iff.mp locked
          exact full ⟨le_trans long (streak_le_length failures), recent⟩
        rw [if_neg open', if_neg openRedis, if_neg full, List.cons.injEq]
        exact and_congr ⟨fun _ wrong => full ⟨wrong.2.1, wrong.1⟩, fun _ => rfl⟩ (ih _)

/-- **When the backends agree.**  Redis and the dictionary let the same attempts
of a client through exactly when none comes within the lockout time after
interrupted failures. -/
theorem admissions_agree_iff (attempts : List Attempt) :
    redisAdmissions attempts = memoryAdmissions attempts ↔ Undisturbed [] attempts :=
  admissions_agree_from [] attempts

/-- Four failures, a pause, a fifth failure, and an attempt soon after. -/
def interruptedAttempts : List Attempt :=
  ([0, 1, 2, 3, 1000, 1001] : List ℚ).map fun t => ⟨t, t, .unauthorized⟩

/-- **A pause makes Redis forget**, but not the dictionary: only the latter locks
the client out after its fifth failure. -/
theorem admissions_differ :
    redisAdmissions interruptedAttempts = [true, true, true, true, true, true] ∧
      memoryAdmissions interruptedAttempts = [true, true, true, true, true, false] := by
  decide +kernel

end PersonTracking.Gateway
