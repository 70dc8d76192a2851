import Mathlib.Algebra.Order.Floor.Semiring
import Mathlib.Data.Rat.Floor
import Mathlib.Tactic.Linarith
import PersonTracking.Python.Text

/-!
# Requests that are sent again

The response interceptor of `axiosInstance` sends a failed request again, once after a
token refresh and otherwise up to a limit, through the same instance, so that the new
answer meets the interceptor again.  The marks it leaves in the config are carried over.

`next` is what the interceptor decides on one answer, `run` the sends of one request
against any sequence of answers.  `Config.budget` goes down with every send, so a request
settles.  `sends_bounded` says how many sends there are.
-/

namespace PersonTracking.Web

open Python

/-- The option `retry` of a request. -/
structure RetryOptions where
  retries : Option ℚ
  retryUnsafeMethods : Bool

/-- `RetriableRequestConfig`, as far as the interceptor reads it.  `isRetry` and
`retryCount` are `_retry` and `_retryCount`. -/
structure RequestConfig where
  method : Option String
  retry : Option RetryOptions
  isRetry : Bool
  retryCount : Option ℕ

/-- `AxiosError`: whether the request was cancelled, the status of the response if there
is one, and whether there is a config. -/
structure AxiosError where
  canceled : Bool
  status : Option ℕ
  hasConfig : Bool

/-- What a send comes back with: no error or one, and what `refreshAccessToken` resolves
to if the interceptor asks for it. -/
structure Answer where
  error : Option AxiosError
  refreshed : Option String

/-- `DEFAULT_RETRY_COUNT`. -/
def defaultRetryCount : ℚ := 2

/-- `RETRYABLE_STATUS_CODES`. -/
def retryableStatusCodes : List ℕ := [408, 429, 500, 502, 503, 504]

/-- `SAFE_RETRY_METHODS`. -/
def safeRetryMethods : List String := ["get", "head", "options"]

namespace RequestConfig

/-- A request as it is issued. -/
def issued (method : Option String) (retry : Option RetryOptions) : RequestConfig where
  method := method
  retry := retry
  isRetry := false
  retryCount := none

variable (request : RequestConfig)

/-- `request.method?.toLowerCase() || 'get'`. -/
def lowerMethod : String :=
  match request.method.map lower with
  | none | some "" => "get"
  | some method => method

/-- `originalRequest.retry?.retries ?? DEFAULT_RETRY_COUNT`. -/
def retryLimit : ℚ := (request.retry.bind RetryOptions.retries).getD defaultRetryCount

/-- `request.retry?.retryUnsafeMethods === true`. -/
def retryUnsafeMethods : Bool := (request.retry.map RetryOptions.retryUnsafeMethods).getD false

/-- The method may be sent again without asking. -/
def Safe : Prop := request.lowerMethod ∈ safeRetryMethods ∨ request.retryUnsafeMethods = true

instance : Decidable request.Safe := inferInstanceAs (Decidable (_ ∨ _))

end RequestConfig

/-- `shouldRetryRequest`. -/
def shouldRetryRequest (error : AxiosError) (request : RequestConfig) : Bool :=
  if error.canceled then false
  else if error.status = some 401 then false
  else if ¬ request.Safe then false
  else
    match error.status with
    | none => true
    | some status => status ∈ retryableStatusCodes

/-- Why a request is sent. -/
inductive Cause
  | issued
  | refreshed
  | retried
deriving DecidableEq

/-- The second half of the interceptor: send again after a delay, or reject. -/
def retry (error : AxiosError) (request : RequestConfig) : Option (RequestConfig × Cause) :=
  if shouldRetryRequest error request then
    let retryCount := request.retryCount.getD 0
    if (retryCount : ℚ) < request.retryLimit then
      some ({ request with retryCount := some (retryCount + 1) }, .retried)
    else none
  else none

/-- The interceptor: the request to send, or nothing when the request settles. -/
def next (request : RequestConfig) (answer : Answer) : Option (RequestConfig × Cause) :=
  match answer.error with
  | none => none
  | some error =>
      if ¬ error.hasConfig then none
      else if error.status = some 401 ∧ request.isRetry = false then
        let request := { request with isRetry := true }
        -- the empty token is as good as none
        if answer.refreshed.getD "" ≠ "" then some (request, .refreshed) else retry error request
      else retry error request

namespace RequestConfig

/-- How often a request may be sent again. -/
def budget (request : RequestConfig) : ℕ :=
  (if request.isRetry then 0 else 1) + (⌈request.retryLimit⌉₊ - request.retryCount.getD 0)

end RequestConfig

/-! ## One answer -/

section

variable {request after : RequestConfig} {answer : Answer} {error : AxiosError} {cause : Cause}

/-- **What a retry does**: it counts. -/
theorem retry_eq_some (again : retry error request = some (after, cause)) :
    cause = .retried ∧ shouldRetryRequest error request = true ∧
      (request.retryCount.getD 0 : ℚ) < request.retryLimit ∧
      after = { request with retryCount := some (request.retryCount.getD 0 + 1) } := by
  unfold retry at again
  split at again
  · rename_i should
    dsimp only at again
    split at again
    · rename_i room
      cases again
      exact ⟨rfl, should, room, rfl⟩
    · cases again
  · cases again

/-- A 401 is not retried. -/
theorem retry_unauthorized (unauthorized : error.status = some 401) :
    retry error request = none := by
  have refused : shouldRetryRequest error request = false := by
    simp [shouldRetryRequest, unauthorized]
  rw [retry, refused, if_neg Bool.false_ne_true]

/-- **What the interceptor does**: it sends again after a 401 and a refresh, the first
time this happens, or after a failure that may be retried, while the limit allows it. -/
theorem next_eq_some (again : next request answer = some (after, cause)) :
    ∃ error, answer.error = some error ∧
      ((cause = .refreshed ∧ error.status = some 401 ∧ request.isRetry = false ∧
          answer.refreshed.getD "" ≠ "" ∧ after = { request with isRetry := true }) ∨
        (cause = .retried ∧ shouldRetryRequest error request = true ∧
          (request.retryCount.getD 0 : ℚ) < request.retryLimit ∧
          after = { request with retryCount := some (request.retryCount.getD 0 + 1) })) := by
  unfold next at again
  split at again
  · cases again
  · rename_i error failed
    refine ⟨error, failed, ?_⟩
    split at again
    · cases again
    · split at again
      · rename_i expired
        dsimp only at again
        split at again
        · rename_i token
          cases again
          exact .inl ⟨rfl, expired.1, expired.2, token, rfl⟩
        · rw [retry_unauthorized expired.1] at again
          cases again
      · exact .inr (retry_eq_some again)

/-- **Every send uses up the budget.** -/
theorem budget_next (again : next request answer = some (after, cause)) :
    after.budget < request.budget := by
  obtain ⟨error, -, ⟨-, -, first, -, rfl⟩ | ⟨-, -, room, rfl⟩⟩ := next_eq_some again
  · unfold RequestConfig.budget
    rw [first]
    exact Nat.add_lt_add_right Nat.zero_lt_one _
  · have left : request.retryCount.getD 0 < ⌈request.retryLimit⌉₊ := Nat.lt_ceil.mpr room
    refine Nat.add_lt_add_left ?_ _
    show ⌈request.retryLimit⌉₊ - (request.retryCount.getD 0 + 1) <
      ⌈request.retryLimit⌉₊ - request.retryCount.getD 0
    omega

/-- Whether a method is safe does not change. -/
theorem safe_next (again : next request answer = some (after, cause)) :
    after.Safe ↔ request.Safe := by
  obtain ⟨error, -, ⟨-, -, -, -, rfl⟩ | ⟨-, -, -, rfl⟩⟩ := next_eq_some again
  · exact Iff.rfl
  · exact Iff.rfl

/-- A request that has been refreshed is marked for good. -/
theorem isRetry_next (again : next request answer = some (after, cause)) :
    (cause = .refreshed → request.isRetry = false ∧ after.isRetry = true) ∧
      (cause ≠ .refreshed → after.isRetry = request.isRetry) := by
  obtain ⟨error, -, ⟨rfl, -, first, -, rfl⟩ | ⟨rfl, -, -, rfl⟩⟩ := next_eq_some again
  · exact ⟨fun _ => ⟨first, rfl⟩, fun other => absurd rfl other⟩
  · exact ⟨fun other => (by cases other), fun _ => rfl⟩

/-- A method that is not safe is sent again after a refresh only. -/
theorem cause_of_not_safe (again : next request answer = some (after, cause))
    (unsafeMethod : ¬ request.Safe) : cause = .refreshed := by
  obtain ⟨error, -, ⟨rfl, -⟩ | ⟨-, should, -⟩⟩ := next_eq_some again
  · rfl
  · simp [shouldRetryRequest, unsafeMethod] at should

end

/-! ## All answers -/

/-- One send: the config, why it is made, and the answer. -/
structure Send where
  request : RequestConfig
  cause : Cause
  answer : Answer

/-- The sends of a request, the `sent`-th of which gets the `sent`-th answer. -/
def run (answers : ℕ → Answer) (sent : ℕ) (request : RequestConfig) (cause : Cause) : List Send :=
  { request, cause, answer := answers sent } ::
    match _ : next request (answers sent) with
    | none => []
    | some (again, because) => run answers (sent + 1) again because
termination_by request.budget
decreasing_by exact budget_next ‹_›

section

variable {answers : ℕ → Answer} {sent : ℕ} {request again : RequestConfig} {cause because : Cause}

theorem run_of_settled (settled : next request (answers sent) = none) :
    run answers sent request cause = [⟨request, cause, answers sent⟩] := by
  rw [run]
  split
  · rfl
  · rename_i sendAgain
    rw [settled] at sendAgain
    cases sendAgain

theorem run_of_again (sendAgain : next request (answers sent) = some (again, because)) :
    run answers sent request cause =
      ⟨request, cause, answers sent⟩ :: run answers (sent + 1) again because := by
  rw [run]
  split
  · rename_i settled
    rw [settled] at sendAgain
    cases sendAgain
  · rename_i found
    rw [found, Option.some.injEq, Prod.mk.injEq] at sendAgain
    rw [sendAgain.1, sendAgain.2]

/-- **A request settles** within its budget. -/
theorem length_run_le : (run answers sent request cause).length ≤ request.budget + 1 := by
  induction sent, request, cause using run.induct answers with
  | case1 sent request cause ih =>
      cases decided : next request (answers sent) with
      | none =>
          rw [run_of_settled decided]
          exact Nat.succ_le_succ (Nat.zero_le _)
      | some found =>
          rw [run_of_again decided, List.length_cons]
          exact Nat.succ_le_succ ((ih _ _ decided).trans (budget_next decided))

theorem exists_run_eq_cons (answers : ℕ → Answer) (sent : ℕ) (request : RequestConfig)
    (cause : Cause) : ∃ tail, run answers sent request cause =
      ⟨request, cause, answers sent⟩ :: tail := by
  cases decided : next request (answers sent) with
  | none => exact ⟨_, run_of_settled decided⟩
  | some found => exact ⟨_, run_of_again decided⟩

/-- A send after a refresh is the last of its kind. -/
theorem countP_refreshed_le :
    (run answers sent request cause).tail.countP (fun send => send.cause = .refreshed) ≤
      if request.isRetry then 0 else 1 := by
  induction sent, request, cause using run.induct answers with
  | case1 sent request cause ih =>
      cases decided : next request (answers sent) with
      | none =>
          rw [run_of_settled decided]
          exact Nat.zero_le _
      | some found =>
          obtain ⟨again, because⟩ := found
          have marked := isRetry_next decided
          have later := ih again because decided
          obtain ⟨tail, split⟩ := exists_run_eq_cons answers (sent + 1) again because
          rw [split, List.tail_cons] at later
          rw [run_of_again decided, List.tail_cons, split, List.countP_cons]
          by_cases refreshed : because = .refreshed
          · obtain ⟨first, second⟩ := marked.1 refreshed
            rw [second] at later
            rw [first]
            simpa [refreshed] using later
          · rw [marked.2 refreshed] at later
            simpa [refreshed] using later

/-- A method that is not safe is sent once more, right after a 401 and a refresh. -/
theorem run_of_not_safe (unsafeMethod : ¬ request.Safe) :
    run answers sent request cause = [⟨request, cause, answers sent⟩] ∨
      ∃ error again, (answers sent).error = some error ∧ error.status = some 401 ∧
        (answers sent).refreshed.getD "" ≠ "" ∧
          run answers sent request cause =
            [⟨request, cause, answers sent⟩, ⟨again, .refreshed, answers (sent + 1)⟩] := by
  cases decided : next request (answers sent) with
  | none => exact .inl (run_of_settled decided)
  | some found =>
      obtain ⟨again, because⟩ := found
      obtain rfl := cause_of_not_safe decided unsafeMethod
      obtain ⟨error, failed, ⟨-, unauthorized, -, token, -⟩ | ⟨other, -⟩⟩ := next_eq_some decided
      · have marked := ((isRetry_next decided).1 rfl).2
        have settled : next again (answers (sent + 1)) = none := by
          cases later : next again (answers (sent + 1)) with
          | none => rfl
          | some found =>
              have stillUnsafe : ¬ again.Safe :=
                fun safe => unsafeMethod ((safe_next decided).mp safe)
              obtain ⟨unmarked, -⟩ := (isRetry_next later).1 (cause_of_not_safe later stillUnsafe)
              rw [marked] at unmarked
              cases unmarked
        refine .inr ⟨error, again, failed, unauthorized, token, ?_⟩
        rw [run_of_again decided, run_of_settled settled]
      · cases other

end

/-- **Sends are bounded.**  A request settles, whatever the answers are, after at most two
sends more than its limit allows retries; at most one send follows a refresh; and a
request whose method is not safe is sent at most twice, the second time right after a 401
and a refresh. -/
theorem sends_bounded (method : Option String) (options : Option RetryOptions)
    (answers : ℕ → Answer) :
    (run answers 0 (.issued method options) .issued).length ≤
        ⌈(RequestConfig.issued method options).retryLimit⌉₊ + 2 ∧
      (run answers 0 (.issued method options) .issued).countP
          (fun send => send.cause = .refreshed) ≤ 1 ∧
      (¬ (RequestConfig.issued method options).Safe →
        (run answers 0 (.issued method options) .issued).length = 1 ∨
          ∃ first second error, run answers 0 (.issued method options) .issued = [first, second] ∧
            first.answer.error = some error ∧ error.status = some 401 ∧
              first.answer.refreshed.getD "" ≠ "" ∧ second.cause = .refreshed) := by
  refine ⟨?_, ?_, fun unsafeMethod => ?_⟩
  · refine length_run_le.trans (le_of_eq ?_)
    show 1 + (⌈(RequestConfig.issued method options).retryLimit⌉₊ - 0) + 1 = _
    omega
  · obtain ⟨tail, split⟩ := exists_run_eq_cons answers 0 (.issued method options) .issued
    have few := @countP_refreshed_le answers 0 (.issued method options) .issued
    rw [split, List.tail_cons] at few
    rw [split, List.countP_cons]
    simpa [RequestConfig.issued] using few
  · rcases @run_of_not_safe answers 0 _ .issued unsafeMethod with
      once | ⟨error, again, failed, unauthorized, token, twice⟩
    · exact .inl (by rw [once]; rfl)
    · exact .inr ⟨_, _, error, twice, failed, unauthorized, token, rfl⟩

/-- A 401 and a refresh, then a success. -/
def expiredOnce : ℕ → Answer
  | 0 => { error := some ⟨false, some 401, true⟩, refreshed := some "token" }
  | _ => { error := none, refreshed := none }

/-- **A limit below zero** does not count the send after a refresh: with `retries: -1`,
which allows one send and no more, a request is sent twice. -/
theorem sent_beyond_limit :
    (RequestConfig.issued none (some ⟨some (-1), false⟩)).retryLimit = -1 ∧
      ¬ ((run expiredOnce 0 (.issued none (some ⟨some (-1), false⟩)) .issued).length : ℚ) ≤
        -1 + 2 := by
  refine ⟨rfl, ?_⟩
  have again : next (.issued none (some ⟨some (-1), false⟩)) (expiredOnce 0) =
      some ({ RequestConfig.issued none (some ⟨some (-1), false⟩) with isRetry := true },
        .refreshed) := by
    simp [next, expiredOnce, RequestConfig.issued]
  rw [run_of_again again, run_of_settled rfl]
  norm_num

end PersonTracking.Web
