import PersonTracking.Gateway.Lockout
import PersonTracking.Library.Transition

/-!
# Concurrent logins of one client

A login is checked against the lockout before it is sent on, and its answer is
audited when it comes back; in between other logins of the same client run.
Redis may raise at every call, and a call of the rate limiter that raises
switches both the limiter and the lockout to memory for good.

`failures_le_of_guarded` is the brute-force bound: at most `maxAttempts`
failures in any lockout time without a success, as long as no login passes the
check beside others that may use up what the counter still allows, and Redis
loses no count.  `six_failures` shows a run that breaks the bound.
-/

namespace PersonTracking.Gateway

open Library Shared

/-- An answer of the auth service to a login. -/
structure Answer where
  time : ℚ
  outcome : LoginOutcome
deriving DecidableEq, Repr

/-- What concerns the logins of one client: the backend in use and both stores,
the logins that wait for their answer, the time, and the answers, newest first. -/
structure Logins where
  redisClient : Bool
  counter : Redis.Key ℕ
  lockout : Option Lockout
  inFlight : ℕ
  clock : ℚ
  answers : List Answer

/-- What happens to them.  A request passes the rate limiter (which may raise
and switch) before the lockout is checked; somebody else's request may switch, too. -/
inductive LoginStep
  | check (now : ℚ) (limiterRaises limited getRaises : Bool)
  | answer (now : ℚ) (outcome : LoginOutcome) (auditRaises : Bool)
  | fallBack (now : ℚ)
deriving DecidableEq, Repr

namespace Logins

/-- No login yet. -/
def start (redisClient : Bool) : Logins where
  redisClient := redisClient
  counter := none
  lockout := none
  inFlight := 0
  clock := 0
  answers := []

/-- The rate limiter gives Redis up when its pipeline raises. -/
def limit (logins : Logins) (now : ℚ) (raises : Bool) : Logins :=
  { logins with redisClient := logins.redisClient && !raises, clock := now }

/-- The lockout check; a Redis call that raises lets the login through. -/
def lockedOut (logins : Logins) (now : ℚ) (getRaises : Bool) : Bool :=
  if logins.redisClient then !getRaises && lockedRedis logins.counter now
  else lockedMemory logins.lockout now

/-- The audit of an answer; a Redis call that raises changes nothing. -/
def audit (logins : Logins) (now : ℚ) (outcome : LoginOutcome) (raises : Bool) : Logins :=
  if logins.redisClient then
    { logins with
      counter := if raises then logins.counter else auditRedis logins.counter now outcome }
  else { logins with lockout := auditMemory logins.lockout now outcome }

/-- One step, no earlier than the one before. -/
def step (logins : Logins) : LoginStep → Option Logins
  | .check now limiterRaises limited getRaises =>
      if logins.clock ≤ now then
        let limiter := logins.limit now limiterRaises
        if limited || limiter.lockedOut now getRaises then some limiter
        else some { limiter with inFlight := limiter.inFlight + 1 }
      else none
  | .answer now outcome auditRaises =>
      if logins.clock ≤ now ∧ 0 < logins.inFlight then
        let audited := logins.audit now outcome auditRaises
        some { audited with
          inFlight := logins.inFlight - 1
          clock := now
          answers := { time := now, outcome } :: logins.answers }
      else none
  | .fallBack now => if logins.clock ≤ now then some (logins.limit now true) else none

/-- The failures the backend in use has on record. -/
def onRecord (logins : Logins) (now : ℚ) : ℕ :=
  if logins.redisClient then (logins.counter.live now).getD 0
  else (lockoutOf logins.lockout).attempts

/-- Giving Redis up loses no count. -/
def KeepsCount (logins : Logins) (now : ℚ) (raises : Bool) : Prop :=
  logins.redisClient = true → raises = true → logins.counter.live now = none

/-- The condition on a step: a login that passes the check is alone and Redis
answers, or the failures on record leave room for it and those in flight; an
unauthorized answer is counted; and giving Redis up loses no count. -/
def Guarded (logins : Logins) : LoginStep → Prop
  | .check now limiterRaises limited getRaises =>
      let limiter := logins.limit now limiterRaises
      logins.KeepsCount now limiterRaises ∧
        (limited = false → limiter.lockedOut now getRaises = false →
          (logins.inFlight = 0 ∧ (limiter.redisClient = true → getRaises = false)) ∨
            limiter.onRecord now + logins.inFlight < maxAttempts)
  | .answer _ outcome auditRaises =>
      logins.redisClient = true → outcome = .unauthorized → auditRaises = false
  | .fallBack now => logins.KeepsCount now true

instance (logins : Logins) (now : ℚ) (raises : Bool) :
    Decidable (logins.KeepsCount now raises) :=
  inferInstanceAs (Decidable (_ = true → raises = true → _))

instance (logins : Logins) (move : LoginStep) : Decidable (Guarded logins move) :=
  match move with
  | .check _ _ _ _ => inferInstanceAs (Decidable (_ ∧ (_ = false → _ = false → _ ∨ _)))
  | .answer _ _ _ => inferInstanceAs (Decidable (_ = true → _ → _ = false))
  | .fallBack now => inferInstanceAs (Decidable (logins.KeepsCount now true))

/-- How many logins were answered 401 from a time on. -/
def failuresSince (logins : Logins) (start : ℚ) : ℕ :=
  logins.answers.countP fun answer => answer.outcome = .unauthorized && (start ≤ answer.time : Bool)

/-- How many logins were answered 401 in the lockout time from `start` on. -/
def failuresWithin (logins : Logins) (start : ℚ) : ℕ :=
  logins.answers.countP fun answer =>
    answer.outcome = .unauthorized && (start ≤ answer.time : Bool) &&
      (answer.time < start + lockoutSeconds : Bool)

/-- No login has succeeded in the lockout time from `start` on. -/
def NoSuccessWithin (logins : Logins) (start : ℚ) : Prop :=
  ∀ answer ∈ logins.answers, answer.outcome = .success →
    ¬ (start ≤ answer.time ∧ answer.time < start + lockoutSeconds)

instance (logins : Logins) (start : ℚ) : Decidable (logins.NoSuccessWithin start) :=
  inferInstanceAs (Decidable (∀ answer ∈ logins.answers, answer.outcome = .success →
    ¬ (start ≤ answer.time ∧ answer.time < start + lockoutSeconds)))

/-- No login has succeeded from a time on. -/
def NoSuccessSince (logins : Logins) (start : ℚ) : Prop :=
  ∀ answer ∈ logins.answers, answer.outcome = .success → answer.time < start

/-- What a backend has on record of the failures in a lockout time that is not over. -/
def Records (logins : Logins) (start : ℚ) : Prop :=
  if logins.redisClient then
    ∃ entry, logins.counter = some entry ∧ logins.failuresSince start ≤ entry.value ∧
      start + lockoutSeconds ≤ entry.deadline
  else
    ∃ entry, logins.lockout = some entry ∧ logins.failuresSince start ≤ entry.attempts ∧
      (maxAttempts ≤ entry.attempts → start + lockoutSeconds ≤ entry.lockUntil)

/-- The invariant: past and present lockout times keep the bound, the present
ones with the logins in flight, and the backend in use has their failures on record. -/
structure Bounded (logins : Logins) : Prop where
  past : ∀ answer ∈ logins.answers, answer.time ≤ logins.clock
  within : ∀ start, logins.NoSuccessWithin start → logins.failuresWithin start ≤ maxAttempts
  current : ∀ start, logins.clock < start + lockoutSeconds → logins.NoSuccessSince start →
    logins.failuresSince start + logins.inFlight ≤ maxAttempts
  recorded : ∀ start, logins.clock < start + lockoutSeconds → logins.NoSuccessSince start →
    0 < logins.failuresSince start → logins.Records start

theorem bounded_start (redisClient : Bool) : (start redisClient).Bounded where
  past _ member := by cases member
  within _ _ := Nat.zero_le _
  current _ _ _ := Nat.zero_le _
  recorded _ _ _ positive := by cases positive

section Steps

variable {logins after : Logins} {now start : ℚ}

/-- What is on record covers the failures of a lockout time that is not over. -/
theorem Records.le_onRecord (records : logins.Records start)
    (open' : now < start + lockoutSeconds) : logins.failuresSince start ≤ logins.onRecord now := by
  unfold Records at records
  unfold onRecord
  split at records
  · rename_i connected
    obtain ⟨entry, counter, counted, alive⟩ := records
    rw [if_pos connected, counter, Redis.Key.live_some (lt_of_lt_of_le open' alive)]
    exact counted
  · rename_i disconnected
    obtain ⟨entry, lockout, counted, -⟩ := records
    rw [if_neg disconnected, lockout]
    exact counted

/-- Five failures on record in a lockout time that is not over lock the client out. -/
theorem Records.lockedOut (records : logins.Records start) (open' : now < start + lockoutSeconds)
    (many : maxAttempts ≤ logins.onRecord now) : logins.lockedOut now false = true := by
  unfold Records at records
  unfold onRecord at many
  unfold Logins.lockedOut
  split at records
  · rename_i connected
    obtain ⟨entry, counter, -, alive⟩ := records
    have live := Redis.Key.live_some (lt_of_lt_of_le open' alive)
    rw [if_pos connected, counter, live] at many
    rw [if_pos connected, counter, lockedRedis, live]
    simpa using many
  · rename_i disconnected
    obtain ⟨entry, lockout, -, locked⟩ := records
    rw [if_neg disconnected, lockout] at many
    rw [if_neg disconnected, lockedMemory, lockout]
    simp only [lockoutOf, Option.getD_some] at many ⊢
    simp [many, lt_of_lt_of_le open' (locked many)]

/-- Passing the rate limiter keeps the invariant, if giving Redis up loses no count. -/
theorem Bounded.limit (bounded : logins.Bounded) (forward : logins.clock ≤ now) {raises : Bool}
    (keeps : logins.KeepsCount now raises) : (logins.limit now raises).Bounded := by
  refine ⟨fun answer member => le_trans (bounded.past answer member) forward, bounded.within,
    fun start open' clean => bounded.current start (lt_of_le_of_lt forward open') clean,
    fun start open' clean positive => ?_⟩
  have soon : now < start + lockoutSeconds := open'
  have records := bounded.recorded start (lt_of_le_of_lt forward soon) clean positive
  by_cases switches : logins.redisClient = true ∧ raises = true
  · -- a live count would be lost, which the condition excludes
    obtain ⟨connected, raised⟩ := switches
    unfold Records at records
    rw [if_pos connected] at records
    obtain ⟨entry, counter, -, alive⟩ := records
    have lost := keeps connected raised
    rw [counter, Redis.Key.live_some (lt_of_lt_of_le soon alive)] at lost
    cases lost
  · have same : (logins.redisClient && !raises) = logins.redisClient := by
      cases connected : logins.redisClient with
      | false => rfl
      | true =>
          cases raised : raises with
          | false => rfl
          | true => exact absurd ⟨connected, raised⟩ switches
    show Records { logins with redisClient := logins.redisClient && !raises, clock := now } start
    rw [same]
    exact records

/-- A login that passes the check leaves room for its answer. -/
theorem Bounded.pass (bounded : logins.Bounded) {getRaises : Bool}
    (passes : logins.lockedOut logins.clock getRaises = false)
    (room : (logins.inFlight = 0 ∧ (logins.redisClient = true → getRaises = false)) ∨
      logins.onRecord logins.clock + logins.inFlight < maxAttempts) :
    Bounded { logins with inFlight := logins.inFlight + 1 } := by
  refine ⟨bounded.past, bounded.within, fun start open' clean => ?_, bounded.recorded⟩
  show logins.failuresSince start + (logins.inFlight + 1) ≤ maxAttempts
  have recorded : logins.failuresSince start ≤ logins.onRecord logins.clock := by
    by_cases positive : 0 < logins.failuresSince start
    · exact (bounded.recorded start open' clean positive).le_onRecord open'
    · omega
  rcases room with ⟨alone, answers⟩ | room
  · -- alone in flight: five failures on record would have locked the client out
    by_contra tooMany
    have many : maxAttempts ≤ logins.failuresSince start := by omega
    have positive : 0 < logins.failuresSince start := lt_of_lt_of_le (by decide) many
    have locked := (bounded.recorded start open' clean positive).lockedOut open'
      (le_trans many recorded)
    have answered : logins.lockedOut logins.clock getRaises =
        logins.lockedOut logins.clock false := by
      unfold Logins.lockedOut
      split
      · rename_i connected
        rw [answers connected]
      · rfl
    rw [answered, locked] at passes
    cases passes
  · omega

/-- The failures from a time on, with one more answer. -/
theorem failuresSince_cons {answer : Answer} {answers : List Answer}
    (answered : after.answers = answer :: answers) (before : logins.answers = answers) :
    after.failuresSince start = logins.failuresSince start +
      if answer.outcome = .unauthorized ∧ start ≤ answer.time then 1 else 0 := by
  rw [failuresSince, failuresSince, answered, before, List.countP_cons]
  simp

theorem failuresSince_eq_zero (past : ∀ answer ∈ logins.answers, answer.time < start) :
    logins.failuresSince start = 0 := by
  rw [failuresSince, List.countP_eq_zero]
  intro answer member
  simp [not_le.mpr (past answer member)]

theorem failuresWithin_le_failuresSince :
    logins.failuresWithin start ≤ logins.failuresSince start := by
  unfold failuresWithin failuresSince
  refine List.countP_mono_left fun answer _ inside => ?_
  simp only [Bool.and_eq_true] at inside ⊢
  exact inside.1

/-- The failures within a lockout time, with one more answer. -/
theorem failuresWithin_cons {answer : Answer} {answers : List Answer}
    (answered : after.answers = answer :: answers) (before : logins.answers = answers) :
    after.failuresWithin start = logins.failuresWithin start +
      if answer.outcome = .unauthorized ∧ start ≤ answer.time ∧
        answer.time < start + lockoutSeconds then 1 else 0 := by
  rw [failuresWithin, failuresWithin, answered, before, List.countP_cons]
  simp [and_assoc]

section Audit

variable {outcome : LoginOutcome} {raises : Bool}

@[simp] theorem redisClient_audit :
    (logins.audit now outcome raises).redisClient = logins.redisClient := by
  unfold audit
  split <;> rfl

theorem counter_audit (connected : logins.redisClient = true) :
    (logins.audit now outcome raises).counter =
      if raises then logins.counter else auditRedis logins.counter now outcome := by
  rw [audit, if_pos connected]

theorem lockout_audit (disconnected : logins.redisClient = false) :
    (logins.audit now outcome raises).lockout = auditMemory logins.lockout now outcome := by
  rw [audit, if_neg (by simp [disconnected])]

end Audit

/-- An audited failure is on record with those before it. -/
theorem Records.audit (inside : start ≤ now)
    (open' : now < start + lockoutSeconds)
    (records : 0 < logins.failuresSince start → logins.Records start)
    (counted : after.failuresSince start = logins.failuresSince start + 1)
    (backend : after.redisClient = logins.redisClient)
    (counter : logins.redisClient = true →
      after.counter = auditRedis logins.counter now .unauthorized)
    (lockout : logins.redisClient = false →
      after.lockout = auditMemory logins.lockout now .unauthorized) : after.Records start := by
  unfold Records at records ⊢
  rw [backend]
  by_cases connected : logins.redisClient = true
  · rw [if_pos connected] at records ⊢
    refine ⟨_, counter connected, ?_, ?_⟩
    · show _ ≤ (logins.counter.live now).getD 0 + 1
      rw [counted]
      by_cases positive : 0 < logins.failuresSince start
      · obtain ⟨entry, found, enough, alive⟩ := records positive
        rw [found, Redis.Key.live_some (lt_of_lt_of_le open' alive)]
        exact Nat.add_le_add_right enough 1
      · omega
    · show _ ≤ now + lockoutSeconds
      linarith
  · rw [if_neg connected] at records ⊢
    refine ⟨_, lockout (by simpa using connected), ?_, fun many => ?_⟩
    · show _ ≤ (lockoutOf logins.lockout).attempts + 1
      rw [counted]
      by_cases positive : 0 < logins.failuresSince start
      · obtain ⟨entry, found, enough, -⟩ := records positive
        rw [found]
        exact Nat.add_le_add_right enough 1
      · omega
    · show _ ≤ if maxAttempts ≤ (lockoutOf logins.lockout).attempts + 1 then _ else _
      rw [if_pos (show maxAttempts ≤ (lockoutOf logins.lockout).attempts + 1 from many)]
      linarith

/-- An answer that is no failure and no success leaves the record alone. -/
theorem Records.other {raises : Bool} (records : logins.Records start)
    (same : after.failuresSince start = logins.failuresSince start)
    (backend : after.redisClient = logins.redisClient)
    (counter : after.counter = (logins.audit now .other raises).counter)
    (lockout : after.lockout = (logins.audit now .other raises).lockout) :
    after.Records start := by
  unfold Records at records ⊢
  rw [same, backend]
  split at records
  · rename_i connected
    rw [if_pos connected, counter, counter_audit connected]
    simpa [auditRedis] using records
  · rename_i disconnected
    rw [if_neg disconnected, lockout, lockout_audit (by simpa using disconnected)]
    exact records

/-- A failure that counts lies in the lockout time. -/
theorem le_of_failuresSince_pos {answer : Answer} (latest : ∀ other ∈ logins.answers,
    other.time ≤ answer.time) (positive : 0 < logins.failuresSince start) :
    start ≤ answer.time := by
  by_contra late
  have early : ∀ other ∈ logins.answers, other.time < start :=
    fun other member => lt_of_le_of_lt (latest other member) (not_le.mp late)
  rw [failuresSince_eq_zero early] at positive
  exact lt_irrefl 0 positive

/-- A lockout time that is not over, and in which no login has succeeded, has had
no success since it began. -/
theorem noSuccessSince_of_within (clean : logins.NoSuccessWithin start)
    (older : ∀ answer ∈ logins.answers, answer.time ≤ now) (open' : now < start + lockoutSeconds) :
    logins.NoSuccessSince start := by
  intro answer member success
  by_contra late
  exact clean answer member success
    ⟨not_lt.mp late, lt_of_le_of_lt (older answer member) open'⟩

/-- **An answer** keeps the invariant: it takes its own place among the failures. -/
theorem Bounded.answer (bounded : logins.Bounded) (forward : logins.clock ≤ now)
    (waiting : 0 < logins.inFlight) {outcome : LoginOutcome} {auditRaises : Bool}
    (counts : logins.redisClient = true → outcome = .unauthorized → auditRaises = false) :
    Bounded { logins.audit now outcome auditRaises with
      inFlight := logins.inFlight - 1
      clock := now
      answers := { time := now, outcome } :: logins.answers } := by
  set after : Logins := { logins.audit now outcome auditRaises with
    inFlight := logins.inFlight - 1
    clock := now
    answers := { time := now, outcome } :: logins.answers } with named
  have older : ∀ answer ∈ logins.answers, answer.time ≤ now :=
    fun answer member => le_trans (bounded.past answer member) forward
  have since := fun start => @failuresSince_cons logins after start ⟨now, outcome⟩ _ rfl rfl
  have within := fun start => @failuresWithin_cons logins after start ⟨now, outcome⟩ _ rfl rfl
  have latest : ∀ answer ∈ after.answers, answer.time ≤ now := by
    intro answer member
    rcases List.mem_cons.mp member with rfl | before
    · exact le_refl now
    · exact older answer before
  refine ⟨latest, fun start clean => ?_, fun start open' clean => ?_,
    fun start open' clean positive => ?_⟩
  · have before : logins.NoSuccessWithin start :=
      fun answer member => clean answer (List.mem_cons_of_mem _ member)
    rw [within]
    by_cases inside : outcome = .unauthorized ∧ start ≤ now ∧ now < start + lockoutSeconds
    · -- the lockout time is not over, so its failures leave room for the login in flight
      have cleanSince := noSuccessSince_of_within before older inside.2.2
      have room := bounded.current start (lt_of_le_of_lt forward inside.2.2) cleanSince
      have fewer := @failuresWithin_le_failuresSince logins start
      rw [if_pos inside]
      omega
    · rw [if_neg inside]
      exact bounded.within start before
  · have room := bounded.current start (lt_of_le_of_lt forward open')
      fun answer member => clean answer (List.mem_cons_of_mem _ member)
    show after.failuresSince start + (logins.inFlight - 1) ≤ maxAttempts
    rw [since]
    split <;> omega
  · have before := bounded.recorded start (lt_of_le_of_lt forward open')
      fun answer member => clean answer (List.mem_cons_of_mem _ member)
    have inside : start ≤ now := @le_of_failuresSince_pos after start ⟨now, outcome⟩ latest positive
    cases outcome with
    | success => exact absurd inside (not_le.mpr (clean _ List.mem_cons_self rfl))
    | other =>
        have same : after.failuresSince start = logins.failuresSince start := by
          rw [since, if_neg (by simp)]
          omega
        exact (before (same ▸ positive)).other same redisClient_audit rfl rfl
    | unauthorized =>
        refine Records.audit inside open' before ?_ ?_ ?_ ?_
        · rw [since, if_pos ⟨rfl, inside⟩]
        · exact redisClient_audit
        · intro connected
          rw [show after.counter = _ from counter_audit connected, counts connected rfl]
          rfl
        · exact fun disconnected => lockout_audit disconnected

/-- **One guarded step** keeps the invariant. -/
theorem Bounded.step (bounded : logins.Bounded) {move : LoginStep} (guarded : logins.Guarded move)
    (moved : logins.step move = some after) : after.Bounded := by
  cases move with
  | check now limiterRaises limited getRaises =>
      obtain ⟨keeps, room⟩ := guarded
      simp only [Logins.step] at moved
      split at moved
      · rename_i forward
        have limiter := bounded.limit forward keeps
        split at moved
        · cases moved
          exact limiter
        · rename_i passes
          cases moved
          rw [Bool.or_eq_true, not_or, Bool.not_eq_true, Bool.not_eq_true] at passes
          exact limiter.pass passes.2 (room passes.1 passes.2)
      · cases moved
  | answer now outcome auditRaises =>
      simp only [Logins.step] at moved
      split at moved
      · rename_i due
        cases moved
        exact bounded.answer due.1 due.2 guarded
      · cases moved
  | fallBack now =>
      simp only [Logins.step] at moved
      split at moved
      · rename_i forward
        cases moved
        exact bounded.limit forward guarded
      · cases moved

end Steps

/-- **The brute-force bound.**  In every run whose steps meet the condition, and
for every lockout time in which no login succeeds, at most `maxAttempts` logins
of the client are answered 401. -/
theorem failures_le_of_guarded (redisClient : Bool) (moves : List LoginStep) (logins : Logins)
    (guarded : Meets Guarded Logins.step (start redisClient) moves)
    (reached : runFrom Logins.step (start redisClient) moves = some logins) (opening : ℚ)
    (clean : logins.NoSuccessWithin opening) : logins.failuresWithin opening ≤ maxAttempts := by
  have bounded : logins.Bounded :=
    runFrom_invariant_of_meets (fun _ _ _ bounded met moved => bounded.step met moved)
      (bounded_start redisClient) guarded reached
  exact bounded.within opening clean

/-- Logins that are checked and sent on before any of them is answered. -/
def volley (n : ℕ) : List LoginStep :=
  List.replicate n (.check 0 false false false) ++ List.replicate n (.answer 0 .unauthorized false)

/-- Three logins at once, then two, all with the wrong password, and one more. -/
def attack : List LoginStep :=
  volley 3 ++ volley 2 ++ [.check 1 false false false]

theorem failures_le_attack :
    ∃ logins, runFrom Logins.step (start true) attack = some logins ∧
      logins.inFlight = 0 ∧ logins.failuresWithin 0 = maxAttempts ∧
        logins.failuresWithin 0 ≤ maxAttempts := by
  have finished : (runFrom Logins.step (start true) attack).isSome = true := by decide +kernel
  obtain ⟨logins, reached⟩ := Option.isSome_iff_exists.mp finished
  have outcome : ∀ logins ∈ runFrom Logins.step (start true) attack,
      logins.NoSuccessWithin 0 ∧ logins.inFlight = 0 ∧ logins.failuresWithin 0 = maxAttempts := by
    decide +kernel
  obtain ⟨clean, answered, failed⟩ := outcome logins reached
  exact ⟨logins, reached, answered, failed,
    failures_le_of_guarded true attack logins (by decide +kernel) reached 0 clean⟩

/-- **Six logins at once** pass the check before the first failure is counted. -/
theorem six_failures :
    ∃ logins, runFrom Logins.step (start true) (volley 6) = some logins ∧
      logins.NoSuccessWithin 0 ∧ ¬ logins.failuresWithin 0 ≤ maxAttempts :=
  ⟨_, rfl, by decide +kernel, by decide +kernel⟩

end Logins

end PersonTracking.Gateway
