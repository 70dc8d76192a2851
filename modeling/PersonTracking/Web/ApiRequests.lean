import Mathlib.Algebra.Order.BigOperators.Group.List
import PersonTracking.Library.Settling
import PersonTracking.Web.AuthStore
import PersonTracking.Web.AxiosInstance

/-!
# The requests of a page

Every request of a page goes through the one `axiosInstance`.  The requests share the auth
store, and a request that is answered 401 waits for the refresh that `refreshAccessToken`
lets be under way, whoever began it.  An event is what runs without waiting: an action of
the store, the start of a request, an answer, a timer.  The events come in any order.

`requests_are_runs` says that sharing changes nothing for one request: its sends are those
of `run`, on the answers it has got.  `refreshes` counts the refresh requests, `calls` how
often the rest of the page asks for one.  `requests_settle` says that no request waits for
ever.
-/

namespace PersonTracking.Web

open Library

/-- The first condition of the interceptor: it waits for a refresh. -/
def AsksForRefresh (request : RequestConfig) (error : AxiosError) : Prop :=
  error.hasConfig = true ∧ error.status = some 401 ∧ request.isRetry = false

instance (request : RequestConfig) (error : AxiosError) :
    Decidable (AsksForRefresh request error) := inferInstanceAs (Decidable (_ ∧ _))

/-- The answer to this send makes the interceptor wait for a refresh. -/
def Send.asks (send : Send) : Bool :=
  send.answer.error.any fun error => decide (AsksForRefresh send.request error)

/-- Where a request is.  `token` is what its `Authorization` header carries. -/
inductive Phase
  /-- The server has it. -/
  | sent (request : RequestConfig) (cause : Cause) (token : Option String)
  /-- The interceptor waits for `refreshAccessToken`. -/
  | refreshing (request : RequestConfig) (cause : Cause) (token : Option String)
      (error : AxiosError) (asks : AsksForRefresh request error)
  /-- The interceptor waits for the timer of `delay`. -/
  | delayed (request : RequestConfig) (token : Option String)
  | settled

/-- The request interceptor: a token of the store replaces the one in the header. -/
def authorization (store : AuthStore) (token : Option String) : Option String :=
  if isMissing store.accessToken then token else store.accessToken

namespace Phase

/-- Where the response interceptor leaves a request after an answer. -/
def after (store : AuthStore) (request : RequestConfig) (token : Option String)
    (answer : Answer) : Phase :=
  match next request answer with
  | none => .settled
  | some (again, .refreshed) => .sent again .refreshed (authorization store answer.refreshed)
  | some (again, _) => .delayed again token

/-- The send that has no answer yet. -/
def due : Phase → Option (RequestConfig × Cause)
  | .sent request cause _ | .refreshing request cause _ _ _ => some (request, cause)
  | .delayed request _ => some (request, .retried)
  | .settled => none

/-- The interceptor waits for a refresh. -/
def waits : Phase → Bool
  | .refreshing .. => true
  | _ => false

/-- How many events it takes at most until the request settles, but for refreshes. -/
def work : Phase → ℕ
  | .sent request _ _ => 2 * request.budget + 1
  | .refreshing request _ _ _ _ => 2 * request.budget - 1
  | .delayed request _ => 2 * request.budget + 2
  | .settled => 0

end Phase

/-- A request: what the page has asked for, the sends that have been answered, and where it
is now. -/
structure PendingRequest where
  method : Option String
  options : Option RetryOptions
  past : List Send
  phase : Phase

namespace PendingRequest

/-- A call of `axiosInstance` by the page. -/
def issue (store : AuthStore) (method : Option String) (options : Option RetryOptions) :
    PendingRequest where
  method := method
  options := options
  past := []
  phase := .sent (.issued method options) .issued (authorization store none)

variable (pending : PendingRequest)

/-- The request as it was issued. -/
def issued : RequestConfig := .issued pending.method pending.options

/-- A send and its answer become part of the past. -/
def answered (store : AuthStore) (request : RequestConfig) (cause : Cause) (token : Option String)
    (answer : Answer) : PendingRequest :=
  { pending with
    past := pending.past ++ [⟨request, cause, answer⟩]
    phase := .after store request token answer }

/-- The response interceptor up to its first wait. -/
def receive (store : AuthStore) (error : Option AxiosError) : Option PendingRequest :=
  match pending.phase with
  | .sent request cause token =>
      match error with
      | none => some (pending.answered store request cause token ⟨none, none⟩)
      | some error =>
          if asks : AsksForRefresh request error then
            some { pending with phase := .refreshing request cause token error asks }
          else some (pending.answered store request cause token ⟨some error, none⟩)
  | _ => none

/-- The response interceptor after the refresh. -/
def resume (store : AuthStore) (refreshed : Option String) : PendingRequest :=
  match pending.phase with
  | .refreshing request cause token error _ =>
      pending.answered store request cause token ⟨some error, refreshed⟩
  | _ => pending

/-- The response interceptor after the delay. -/
def resend (store : AuthStore) : Option PendingRequest :=
  match pending.phase with
  | .delayed request token =>
      some { pending with phase := .sent request .retried (authorization store token) }
  | _ => none

/-- How many of its answers have asked for a refresh. -/
def asked : ℕ := pending.past.countP Send.asks + if pending.phase.waits then 1 else 0

end PendingRequest

/-- What the promise of the refresh resolves to when its request succeeds: an error of
`setAccessToken` is caught, a token that it does not accept is not an error. -/
def AuthStore.refreshed (browser : Browser) (store : AuthStore) (accessToken : Option String)
    (now : ℚ) : Option String :=
  (store.setAccessToken browser accessToken none now).bind fun _ => accessToken

/-- A page and its requests. -/
structure ApiPage where
  store : AuthStore
  requests : List PendingRequest
  /-- How many requests for a refresh have been sent. -/
  refreshes : ℕ
  /-- How often the page has called `refreshAccessToken` itself. -/
  calls : ℕ

/-- What can happen next. -/
inductive ApiEvent
  | act (action : AuthStep)
  | issue (method : Option String) (options : Option RetryOptions)
  /-- The server answers the request with this index. -/
  | answer (index : ℕ) (error : Option AxiosError)
  /-- The timer of the request with this index. -/
  | resend (index : ℕ)

/-- The event answers a request, or lets one go on. -/
def ApiEvent.Closing : ApiEvent → Prop
  | .answer _ _ | .resend _ | .act (.refreshSucceeds _ _) | .act .refreshFails => True
  | _ => False

namespace ApiPage

/-- The page as it loads. -/
def start (storedAccessToken storedRefreshToken : Option String) : ApiPage where
  store := .start storedAccessToken storedRefreshToken
  requests := []
  refreshes := 0
  calls := 0

variable (browser : Browser) (page : ApiPage)

/-- `refreshAccessToken` up to its request. -/
def refreshAccessToken : ApiPage :=
  { page with
    store := page.store.refreshAccessToken
    refreshes := page.refreshes + if page.store.refreshPromise then 0 else 1 }

/-- Who waits for a refresh has called `refreshAccessToken`. -/
def awaitRefresh (received : PendingRequest) : ApiPage :=
  if received.phase.waits then page.refreshAccessToken else page

/-- The refresh is over, and everything that waits for it goes on. -/
def resume (store : AuthStore) (refreshed : Option String) : ApiPage :=
  { page with
    store := store
    requests := page.requests.map fun pending => pending.resume store refreshed }

/-- One step of the store. -/
def act : AuthStep → Option ApiPage
  | .refreshAccessToken => some { page.refreshAccessToken with calls := page.calls + 1 }
  | .refreshSucceeds accessToken now =>
      (page.store.step browser (.refreshSucceeds accessToken now)).map fun store =>
        page.resume store (page.store.refreshed browser accessToken now)
  | .refreshFails => (page.store.step browser .refreshFails).map fun store => page.resume store none
  | action => (page.store.step browser action).map fun store => { page with store := store }

/-- One event. -/
def step : ApiEvent → Option ApiPage
  | .act action => page.act browser action
  | .issue method options =>
      some { page with requests := page.requests ++ [.issue page.store method options] }
  | .answer index error => do
      let pending ← page.requests[index]?
      let received ← pending.receive page.store error
      return { page.awaitRefresh received with requests := page.requests.set index received }
  | .resend index => do
      let pending ← page.requests[index]?
      let resent ← pending.resend page.store
      return { page with requests := page.requests.set index resent }

/-- Nothing is under way. -/
def Finished : Prop :=
  (∀ pending ∈ page.requests, pending.phase = .settled) ∧ page.store.refreshPromise = false

/-- How many events it takes at most until nothing is under way. -/
def work : ℕ :=
  (page.requests.map fun pending => pending.phase.work).sum +
    if page.store.refreshPromise then 1 else 0

end ApiPage

/-! ## One request -/

theorem Send.asks_iff {send : Send} : send.asks = true ↔
    ∃ error, send.answer.error = some error ∧ AsksForRefresh send.request error := by
  simp [Send.asks, Option.any_eq_true]

/-- Only a request that is not marked asks. -/
theorem Send.ite_asks_le (send : Send) :
    (if send.asks then 1 else 0) ≤ if send.request.isRetry then 0 else 1 := by
  by_cases asks : send.asks = true
  · obtain ⟨error, -, -, -, unmarked⟩ := Send.asks_iff.mp asks
    rw [if_pos asks, unmarked]
    exact Nat.le_refl 1
  · rw [if_neg asks]
    exact Nat.zero_le _

/-- The first send of a run and what comes after its answer. -/
theorem run_eq_cons {answers : ℕ → Answer} {sent : ℕ} {request : RequestConfig} {cause : Cause}
    {answer : Answer} (here : answers sent = answer) :
    run answers sent request cause = ⟨request, cause, answer⟩ ::
      (next request answer).elim [] fun due => run answers (sent + 1) due.1 due.2 := by
  subst here
  cases decided : next request (answers sent) with
  | none => exact run_of_settled decided
  | some found => exact run_of_again decided

section

variable {store : AuthStore} {request : RequestConfig} {cause : Cause} {token : Option String}
  {answer : Answer}

/-- **What is due after an answer** is what `next` says. -/
theorem Phase.due_after : (Phase.after store request token answer).due = next request answer := by
  rw [Phase.after]
  split
  · rename_i settled
    exact settled.symm
  · rename_i again refreshed
    exact refreshed.symm
  · rename_i again because other decided
    obtain ⟨error, -, ⟨rfl, -⟩ | ⟨rfl, -⟩⟩ := next_eq_some decided
    · exact absurd rfl other
    · exact decided.symm

/-- After an answer nothing waits for a refresh. -/
theorem Phase.waits_after : (Phase.after store request token answer).waits = false := by
  rw [Phase.after]
  split <;> rfl

/-- The work goes down with the budget. -/
theorem Phase.work_after_lt :
    (Phase.after store request token answer).work < 2 * request.budget + 1 := by
  rw [Phase.after]
  split
  · exact Nat.succ_pos _
  · rename_i again decided
    have lower := budget_next decided
    rw [Phase.work]
    omega
  · rename_i again because other decided
    have lower := budget_next decided
    rw [Phase.work]
    omega

/-- Someone who has waited for a refresh sends at once or settles. -/
theorem Phase.work_after_le {error : AxiosError} (asks : AsksForRefresh request error)
    (failed : answer.error = some error) :
    (Phase.after store request token answer).work ≤ 2 * request.budget - 1 := by
  rw [Phase.after]
  split
  · exact Nat.zero_le _
  · rename_i again decided
    have lower := budget_next decided
    rw [Phase.work]
    omega
  · rename_i again because other decided
    obtain ⟨found, given, ⟨rfl, -⟩ | ⟨-, should, -⟩⟩ := next_eq_some decided
    · exact absurd rfl other
    · obtain rfl : error = found := Option.some.inj (failed.symm.trans given)
      simp [shouldRetryRequest, asks.2.1] at should

end

namespace PendingRequest

variable {pending received : PendingRequest} {store : AuthStore} {refreshed : Option String}
  {error : Option AxiosError}

/-- **What an answer does**: the interceptor waits for a refresh, or the answer becomes part
of the past. -/
theorem receive_eq_some (moved : pending.receive store error = some received) :
    ∃ request cause token, pending.phase = .sent request cause token ∧
      ((∃ failure asks, error = some failure ∧
          received = { pending with phase := .refreshing request cause token failure asks }) ∨
        ((∀ failure, error = some failure → ¬ AsksForRefresh request failure) ∧
          received = pending.answered store request cause token ⟨error, none⟩)) := by
  unfold receive at moved
  split at moved
  · rename_i request cause token here
    refine ⟨request, cause, token, here, ?_⟩
    split at moved
    · cases moved
      exact .inr ⟨nofun, rfl⟩
    · rename_i failure
      split at moved
      · rename_i asks
        cases moved
        exact .inl ⟨failure, asks, rfl, rfl⟩
      · rename_i other
        cases moved
        exact .inr ⟨fun _ same => Option.some.inj same ▸ other, rfl⟩
  · cases moved

/-- **What a refresh does** to a request: it answers who waits for it. -/
theorem resume_eq (pending : PendingRequest) (store : AuthStore) (refreshed : Option String) :
    (∃ request cause token error asks,
        pending.phase = .refreshing request cause token error asks ∧
          pending.resume store refreshed =
            pending.answered store request cause token ⟨some error, refreshed⟩) ∨
      (pending.phase.waits = false ∧ pending.resume store refreshed = pending) := by
  obtain ⟨method, options, past, phase⟩ := pending
  cases phase with
  | refreshing request cause token error asks =>
      exact .inl ⟨request, cause, token, error, asks, rfl, rfl⟩
  | _ => exact .inr ⟨rfl, rfl⟩

/-- **What the timer does**: it sends. -/
theorem resend_eq_some (moved : pending.resend store = some received) :
    ∃ request token, pending.phase = .delayed request token ∧ received =
      { pending with phase := .sent request .retried (authorization store token) } := by
  unfold resend at moved
  split at moved
  · rename_i request token here
    cases moved
    exact ⟨request, token, here, rfl⟩
  · cases moved

/-! ### Its sends -/

/-- The answers in the past, and others from then on. -/
def answersOf (past : List Send) (later : ℕ → Answer) (sent : ℕ) : Answer :=
  (past[sent]?).elim (later sent) Send.answer

/-- However it is answered from now on, the sends of the request alone begin with the past
and go on with the one that is due. -/
def Replays (pending : PendingRequest) : Prop :=
  ∀ later, run (answersOf pending.past later) 0 pending.issued .issued =
    pending.past ++ pending.phase.due.elim [] fun due =>
      run (answersOf pending.past later) pending.past.length due.1 due.2

theorem answersOf_append (past : List Send) (send : Send) (later : ℕ → Answer) :
    answersOf past (answersOf (past ++ [send]) later) = answersOf (past ++ [send]) later := by
  funext sent
  unfold answersOf
  cases found : past[sent]? with
  | none => rfl
  | some earlier =>
      have inside := (List.getElem?_eq_some_iff.mp found).1
      rw [List.getElem?_append_left inside, found]
      rfl

theorem answersOf_length (past : List Send) (send : Send) (later : ℕ → Answer) :
    answersOf (past ++ [send]) later past.length = send.answer := by
  rw [answersOf, List.getElem?_concat_length]
  rfl

theorem replays_issue (store : AuthStore) (method : Option String)
    (options : Option RetryOptions) : (issue store method options).Replays := fun _ => rfl

/-- **One more answer.** -/
theorem Replays.answered {request : RequestConfig} {cause : Cause} {token : Option String}
    {answer : Answer} (replays : pending.Replays)
    (due : pending.phase.due = some (request, cause)) :
    (pending.answered store request cause token answer).Replays := by
  intro later
  let send : Send := ⟨request, cause, answer⟩
  have before := replays (answersOf (pending.past ++ [send]) later)
  have here : answersOf (pending.past ++ [send]) later pending.past.length = answer :=
    answersOf_length pending.past send later
  rw [answersOf_append, due] at before
  show run (answersOf (pending.past ++ [send]) later) 0 pending.issued .issued =
    (pending.past ++ [send]) ++ (Phase.after store request token answer).due.elim [] fun due =>
      run (answersOf (pending.past ++ [send]) later) (pending.past ++ [send]).length due.1 due.2
  rw [before, Phase.due_after, List.append_assoc, List.length_append, List.length_singleton]
  exact congrArg (pending.past ++ ·) (run_eq_cons here)

end PendingRequest

namespace PendingRequest

variable {pending received : PendingRequest} {store : AuthStore} {refreshed : Option String}
  {error : Option AxiosError}

theorem Replays.receive (replays : pending.Replays)
    (moved : pending.receive store error = some received) : received.Replays := by
  obtain ⟨request, cause, token, here, ⟨failure, asks, -, rfl⟩ | ⟨-, rfl⟩⟩ := receive_eq_some moved
  · intro later
    have before := replays later
    rw [here] at before
    exact before
  · exact replays.answered (by rw [here]; rfl)

theorem Replays.resume (replays : pending.Replays) : (pending.resume store refreshed).Replays := by
  rcases resume_eq pending store refreshed with
    ⟨request, cause, token, error, asks, here, resumed⟩ | ⟨-, same⟩
  · rw [resumed]
    exact replays.answered (by rw [here]; rfl)
  · rw [same]
    exact replays

theorem Replays.resend (replays : pending.Replays)
    (moved : pending.resend store = some received) : received.Replays := by
  obtain ⟨request, token, here, rfl⟩ := resend_eq_some moved
  intro later
  have before := replays later
  rw [here] at before
  exact before

/-- A request is sent twice more at most than its limit allows retries. -/
theorem Replays.length_le (replays : pending.Replays) :
    pending.past.length + pending.phase.due.toList.length ≤ ⌈pending.issued.retryLimit⌉₊ + 2 := by
  have all := @length_run_le (answersOf pending.past fun _ => ⟨none, none⟩) 0 pending.issued .issued
  have budget : pending.issued.budget = ⌈pending.issued.retryLimit⌉₊ + 1 := by
    show 1 + (⌈pending.issued.retryLimit⌉₊ - 0) = _
    omega
  rw [replays, List.length_append, budget] at all
  refine (Nat.add_le_add_left ?_ _).trans all
  cases pending.phase.due with
  | none => exact Nat.le_refl 0
  | some due =>
      rw [Option.elim_some, run_eq_cons rfl]
      exact Nat.succ_le_succ (Nat.zero_le _)

/-! ### Its refreshes -/

/-- **A run asks for a refresh once.** -/
theorem countP_asks_run_le {answers : ℕ → Answer} {sent : ℕ} {request : RequestConfig}
    {cause : Cause} :
    (run answers sent request cause).countP Send.asks ≤ if request.isRetry then 0 else 1 := by
  induction sent, request, cause using run.induct answers with
  | case1 sent request cause ih =>
      rw [run_eq_cons rfl, List.countP_cons]
      cases decided : next request (answers sent) with
      | none =>
          rw [Option.elim_none, List.countP_nil, Nat.zero_add]
          exact Send.ite_asks_le ⟨request, cause, answers sent⟩
      | some found =>
          obtain ⟨again, because⟩ := found
          have later := ih again because decided
          rw [Option.elim_some]
          obtain ⟨error, failed, ⟨-, -, -, -, rfl⟩ | ⟨-, should, -, rfl⟩⟩ := next_eq_some decided
          · have none := Nat.le_zero.mp later
            rw [none, Nat.zero_add]
            exact Send.ite_asks_le ⟨request, cause, answers sent⟩
          · have silent : (⟨request, cause, answers sent⟩ : Send).asks = false := by
              rw [Bool.eq_false_iff, ne_eq, Send.asks_iff]
              rintro ⟨found, given, asks⟩
              obtain rfl : error = found := Option.some.inj (failed.symm.trans given)
              simp [shouldRetryRequest, asks.2.1] at should
            rw [silent]
            exact later

/-- **One refresh**: a request asks for one at most. -/
theorem Replays.asked_le (replays : pending.Replays) : pending.asked ≤ 1 := by
  have bound : ∀ later, (run (answersOf pending.past later) 0 pending.issued .issued).countP
      Send.asks ≤ 1 := fun later => countP_asks_run_le
  obtain ⟨method, options, past, phase⟩ := pending
  cases phase with
  | refreshing request cause token error asks =>
      have loud : (⟨request, cause, ⟨some error, none⟩⟩ : Send).asks = true := decide_eq_true asks
      have all := bound fun _ => ⟨some error, none⟩
      have here :
          answersOf past (fun _ => ⟨some error, none⟩) past.length = ⟨some error, none⟩ := by
        rw [answersOf, List.getElem?_eq_none (Nat.le_refl _)]
        rfl
      rw [replays] at all
      simp only [Phase.due, Option.elim_some] at all
      rw [run_eq_cons here, List.countP_append, List.countP_cons_of_pos loud] at all
      show past.countP Send.asks + 1 ≤ 1
      omega
  | _ =>
      have all := bound fun _ => ⟨none, none⟩
      rw [replays, List.countP_append] at all
      exact (Nat.le_add_right _ _).trans all

theorem asked_answered {request : RequestConfig} {cause : Cause} {token : Option String}
    {answer : Answer} : (pending.answered store request cause token answer).asked =
      pending.past.countP Send.asks +
        if (⟨request, cause, answer⟩ : Send).asks then 1 else 0 := by
  rw [asked, answered, Phase.waits_after, List.countP_append, List.countP_singleton]
  rfl

theorem asked_receive (moved : pending.receive store error = some received) :
    received.asked = pending.asked + if received.phase.waits then 1 else 0 := by
  obtain ⟨request, cause, token, here, ⟨failure, asks, -, rfl⟩ | ⟨other, rfl⟩⟩ :=
    receive_eq_some moved
  · rw [asked, asked, here]
    rfl
  · have silent : (⟨request, cause, ⟨error, none⟩⟩ : Send).asks = false := by
      cases error with
      | none => rfl
      | some failure => exact decide_eq_false (other failure rfl)
    rw [asked_answered, silent, asked, here, answered, Phase.waits_after]
    rfl

theorem asked_resume : (pending.resume store refreshed).asked = pending.asked := by
  rcases resume_eq pending store refreshed with
    ⟨request, cause, token, error, asks, here, resumed⟩ | ⟨-, same⟩
  · have loud : (⟨request, cause, ⟨some error, refreshed⟩⟩ : Send).asks = true :=
      decide_eq_true asks
    rw [resumed, asked_answered, loud, asked, here]
    rfl
  · rw [same]

theorem asked_resend (moved : pending.resend store = some received) :
    received.asked = pending.asked := by
  obtain ⟨request, token, here, rfl⟩ := resend_eq_some moved
  rw [asked, asked, here]
  rfl

/-- After a refresh nothing waits for one. -/
theorem waits_resume : (pending.resume store refreshed).phase.waits = false := by
  rcases resume_eq pending store refreshed with
    ⟨request, cause, token, error, asks, here, resumed⟩ | ⟨goesOn, same⟩
  · rw [resumed]
    exact Phase.waits_after
  · rw [same]
    exact goesOn

/-! ### Its work -/

theorem work_receive (moved : pending.receive store error = some received) :
    received.phase.work + (if received.phase.waits then 1 else 0) < pending.phase.work := by
  obtain ⟨request, cause, token, here, ⟨failure, asks, -, rfl⟩ | ⟨other, rfl⟩⟩ :=
    receive_eq_some moved
  · have unmarked : 1 ≤ request.budget := by
      rw [RequestConfig.budget, asks.2.2]
      exact Nat.le_add_right 1 _
    rw [here]
    show 2 * request.budget - 1 + 1 < 2 * request.budget + 1
    omega
  · rw [here, answered, Phase.waits_after]
    exact Phase.work_after_lt

theorem work_resume : (pending.resume store refreshed).phase.work ≤ pending.phase.work := by
  rcases resume_eq pending store refreshed with
    ⟨request, cause, token, error, asks, here, resumed⟩ | ⟨-, same⟩
  · rw [resumed, here]
    exact Phase.work_after_le asks rfl
  · rw [same]

theorem work_resend (moved : pending.resend store = some received) :
    received.phase.work < pending.phase.work := by
  obtain ⟨request, token, here, rfl⟩ := resend_eq_some moved
  rw [here]
  exact Nat.lt_succ_self _

end PendingRequest

/-! ## The page -/

namespace AuthStore

variable {browser : Browser} {store : AuthStore}

theorem refreshPromise_refreshAccessToken (store : AuthStore) :
    store.refreshAccessToken.refreshPromise = true := by
  unfold refreshAccessToken
  split
  · assumption
  · rfl

theorem refreshPromise_login (accessToken refreshToken : Option String) (now : ℚ) :
    (store.login browser accessToken refreshToken now).refreshPromise = store.refreshPromise := by
  rcases login_eq browser store accessToken refreshToken now with ⟨-, user, signed⟩ | out | same
  · rw [signed]
    rfl
  · rw [out]
    rfl
  · rw [same]

theorem refreshPromise_initAuth (now : ℚ) :
    (store.initAuth browser now).refreshPromise = store.refreshPromise := by
  unfold initAuth
  cases browser.restored store.storedAccessToken now <;> rfl

theorem exampleToken_ne_empty : exampleToken ≠ "" := by
  intro empty
  have chars := congrArg String.toList empty
  rw [exampleToken, String.toList_ofList] at chars
  cases chars

end AuthStore

namespace ApiPage

variable {browser : Browser} {page after : ApiPage} {event : ApiEvent}

/-- What an event can do to a page. -/
inductive Change (browser : Browser) (page : ApiPage) : ApiEvent → ApiPage → Prop
  | store {action : AuthStep} {store : AuthStore} (stays : ¬ (ApiEvent.act action).Closing)
      (moved : page.store.step browser action = some store)
      (same : store.refreshPromise = page.store.refreshPromise) :
      Change browser page (.act action) { page with store := store }
  | call : Change browser page (.act .refreshAccessToken)
      { page.refreshAccessToken with calls := page.calls + 1 }
  | ended {action : AuthStep} {store : AuthStore} {refreshed : Option String}
      (under : page.store.refreshPromise = true)
      (moved : page.store.step browser action = some store)
      (cleared : store.refreshPromise = false) :
      Change browser page (.act action) (page.resume store refreshed)
  | issue (method : Option String) (options : Option RetryOptions) :
      Change browser page (.issue method options)
        { page with requests := page.requests ++ [.issue page.store method options] }
  | answer {index : ℕ} {error : Option AxiosError} {before rest : List PendingRequest}
      {pending received : PendingRequest} (found : page.requests = before ++ pending :: rest)
      (moved : pending.receive page.store error = some received) :
      Change browser page (.answer index error)
        { page.awaitRefresh received with requests := before ++ received :: rest }
  | resend {index : ℕ} {before rest : List PendingRequest} {pending resent : PendingRequest}
      (found : page.requests = before ++ pending :: rest)
      (moved : pending.resend page.store = some resent) :
      Change browser page (.resend index) { page with requests := before ++ resent :: rest }

theorem exists_split {requests : List PendingRequest} {index : ℕ} {pending : PendingRequest}
    (found : requests[index]? = some pending) (received : PendingRequest) :
    ∃ before rest, requests = before ++ pending :: rest ∧
      requests.set index received = before ++ received :: rest := by
  obtain ⟨inside, rfl⟩ := List.getElem?_eq_some_iff.mp found
  refine ⟨requests.take index, requests.drop (index + 1), ?_, ?_⟩
  · rw [← List.drop_eq_getElem_cons inside, List.take_append_drop]
  · rw [List.set_eq_take_append_cons_drop, if_pos inside]

theorem change_of_act {action : AuthStep} (moved : page.act browser action = some after) :
    Change browser page (.act action) after := by
  cases action with
  | login accessToken refreshToken now =>
      cases moved
      exact .store id rfl (AuthStore.refreshPromise_login accessToken refreshToken now)
  | logout =>
      cases moved
      exact .store id rfl rfl
  | initAuth now =>
      cases moved
      exact .store id rfl (AuthStore.refreshPromise_initAuth now)
  | refreshAccessToken =>
      cases moved
      exact .call
  | refreshSucceeds accessToken now =>
      obtain ⟨store, ended, rfl⟩ := Option.map_eq_some_iff.mp moved
      obtain ⟨under, ⟨⟩⟩ := Option.ite_none_right_eq_some.mp ended
      exact .ended under ended rfl
  | refreshFails =>
      obtain ⟨store, ended, rfl⟩ := Option.map_eq_some_iff.mp moved
      obtain ⟨under, ⟨⟩⟩ := Option.ite_none_right_eq_some.mp ended
      exact .ended under ended rfl

/-- **What an event does.** -/
theorem change_of_step (moved : page.step browser event = some after) :
    Change browser page event after := by
  cases event with
  | act action => exact change_of_act moved
  | issue method options =>
      cases moved
      exact .issue method options
  | answer index error =>
      obtain ⟨pending, found, later⟩ := Option.bind_eq_some_iff.mp moved
      obtain ⟨received, answered, rest⟩ := Option.bind_eq_some_iff.mp later
      cases rest
      obtain ⟨before, behind, split, replaced⟩ := exists_split found received
      rw [replaced]
      exact .answer split answered
  | resend index =>
      obtain ⟨pending, found, later⟩ := Option.bind_eq_some_iff.mp moved
      obtain ⟨resent, sent, rest⟩ := Option.bind_eq_some_iff.mp later
      cases rest
      obtain ⟨before, behind, split, replaced⟩ := exists_split found resent
      rw [replaced]
      exact .resend split sent

/-! ## Runs -/

/-- What holds of every page that is reached. -/
structure Consistent (page : ApiPage) : Prop where
  replays : ∀ pending ∈ page.requests, pending.Replays
  /-- Who waits for a refresh waits for one that is under way. -/
  waiting : ∀ pending ∈ page.requests, pending.phase.waits = true →
    page.store.refreshPromise = true
  counted : page.refreshes ≤ page.calls + (page.requests.map PendingRequest.asked).sum

theorem consistent_start (storedAccessToken storedRefreshToken : Option String) :
    (start storedAccessToken storedRefreshToken).Consistent where
  replays _ member := absurd member List.not_mem_nil
  waiting _ member := absurd member List.not_mem_nil
  counted := Nat.le_refl 0

theorem forall_replaced {P : PendingRequest → Prop} {before rest : List PendingRequest}
    {pending received : PendingRequest} (all : ∀ other ∈ before ++ pending :: rest, P other)
    (here : P received) : ∀ other ∈ before ++ received :: rest, P other := by
  rw [List.forall_mem_append, List.forall_mem_cons] at all ⊢
  exact ⟨all.1, here, all.2.2⟩

theorem sum_replaced (weight : PendingRequest → ℕ) (before rest : List PendingRequest)
    (received : PendingRequest) :
    ((before ++ received :: rest).map weight).sum =
      (before.map weight).sum + (weight received + (rest.map weight).sum) := by
  rw [List.map_append, List.sum_append, List.map_cons, List.sum_cons]

theorem refreshes_refreshAccessToken_le (page : ApiPage) :
    page.refreshAccessToken.refreshes ≤ page.refreshes + 1 := by
  show page.refreshes + _ ≤ page.refreshes + 1
  split
  · exact Nat.le_succ _
  · exact Nat.le_refl _

/-- Who waits has asked. -/
theorem refreshes_awaitRefresh_le (page : ApiPage) (received : PendingRequest) :
    (page.awaitRefresh received).refreshes ≤
      page.refreshes + if received.phase.waits then 1 else 0 := by
  unfold awaitRefresh
  split
  · exact page.refreshes_refreshAccessToken_le
  · exact Nat.le_refl _

theorem calls_awaitRefresh (page : ApiPage) (received : PendingRequest) :
    (page.awaitRefresh received).calls = page.calls := by
  unfold awaitRefresh
  split <;> rfl

/-- A refresh under way stays so, and who waits sees to it that one is. -/
theorem refreshPromise_awaitRefresh (page : ApiPage) (received : PendingRequest) :
    (page.awaitRefresh received).store.refreshPromise =
      (page.store.refreshPromise || received.phase.waits) := by
  unfold awaitRefresh
  split
  · rename_i waits
    rw [waits, Bool.or_true]
    exact page.store.refreshPromise_refreshAccessToken
  · rename_i goesOn
    rw [Bool.eq_false_iff.mpr goesOn, Bool.or_false]

/-- **One event.** -/
theorem consistent_step (consistent : page.Consistent)
    (moved : page.step browser event = some after) : after.Consistent := by
  have counted := consistent.counted
  cases change_of_step moved with
  | store stays moved same =>
      exact ⟨consistent.replays, fun pending member waits =>
        same.trans (consistent.waiting pending member waits), counted⟩
  | call =>
      refine ⟨consistent.replays, fun _ _ _ => page.store.refreshPromise_refreshAccessToken, ?_⟩
      refine page.refreshes_refreshAccessToken_le.trans ?_
      show page.refreshes + 1 ≤ page.calls + 1 + (page.requests.map PendingRequest.asked).sum
      omega
  | @ended action store refreshed under moved cleared =>
      refine ⟨?_, ?_, ?_⟩
      · exact List.forall_mem_map.mpr fun pending member =>
          (consistent.replays pending member).resume
      · refine List.forall_mem_map.mpr fun pending member waits => ?_
        rw [PendingRequest.waits_resume] at waits
        cases waits
      · have same : PendingRequest.asked ∘ (fun pending => pending.resume store refreshed) =
            PendingRequest.asked := funext fun _ => PendingRequest.asked_resume
        show page.refreshes ≤ page.calls + _
        rw [resume, List.map_map, same]
        exact counted
  | issue method options =>
      refine ⟨?_, ?_, ?_⟩
      · exact List.forall_mem_append.mpr ⟨consistent.replays,
          List.forall_mem_singleton.mpr (PendingRequest.replays_issue page.store method options)⟩
      · refine List.forall_mem_append.mpr ⟨consistent.waiting, List.forall_mem_singleton.mpr ?_⟩
        intro waits
        cases waits
      · rw [List.map_append, List.sum_append]
        exact counted.trans (Nat.add_le_add_left (Nat.le_add_right _ _) _)
  | @answer index error before rest pending received found answered =>
      have replays := consistent.replays
      have waiting := consistent.waiting
      rw [found] at replays waiting counted
      have here : pending.Replays := replays pending (List.mem_append_right _ List.mem_cons_self)
      refine ⟨forall_replaced replays (here.receive answered), ?_, ?_⟩
      · rw [refreshPromise_awaitRefresh]
        have stays : ∀ other ∈ before ++ pending :: rest, other.phase.waits = true →
            (page.store.refreshPromise || received.phase.waits) = true := by
          intro other member waits
          rw [waiting other member waits, Bool.true_or]
        exact forall_replaced stays fun waits => by rw [waits, Bool.or_true]
      · have asked := PendingRequest.asked_receive answered
        have one := page.refreshes_awaitRefresh_le received
        rw [sum_replaced] at counted ⊢
        show (page.awaitRefresh received).refreshes ≤ (page.awaitRefresh received).calls + _
        rw [calls_awaitRefresh]
        omega
  | @resend index before rest pending resent found sent =>
      have replays := consistent.replays
      have waiting := consistent.waiting
      rw [found] at replays waiting counted
      have here : pending.Replays := replays pending (List.mem_append_right _ List.mem_cons_self)
      refine ⟨forall_replaced replays (here.resend sent), forall_replaced waiting ?_, ?_⟩
      · intro waits
        obtain ⟨request, token, -, rfl⟩ := PendingRequest.resend_eq_some sent
        cases waits
      · rw [sum_replaced] at counted ⊢
        rw [PendingRequest.asked_resend sent]
        exact counted

theorem consistent_of_run {storedAccessToken storedRefreshToken : Option String}
    {events : List ApiEvent}
    (reached : runFrom (step browser) (start storedAccessToken storedRefreshToken) events =
      some page) : page.Consistent :=
  runFrom_invariant (fun _ _ _ => consistent_step)
    (consistent_start storedAccessToken storedRefreshToken) reached

/-- The store takes a step of its own, or none. -/
theorem exists_store_run (moved : page.step browser event = some after) :
    ∃ actions, runFrom (AuthStore.step browser) page.store actions = some after.store := by
  cases change_of_step moved with
  | @store action store stays stepped same =>
      exact ⟨[action], runFrom_cons_eq_some.mpr ⟨store, stepped, rfl⟩⟩
  | call => exact ⟨[.refreshAccessToken], rfl⟩
  | @ended action store refreshed under stepped cleared =>
      exact ⟨[action], runFrom_cons_eq_some.mpr ⟨store, stepped, rfl⟩⟩
  | @answer index error before rest pending received found answered =>
      show ∃ actions, runFrom (AuthStore.step browser) page.store actions =
        some (page.awaitRefresh received).store
      unfold awaitRefresh
      split
      · exact ⟨[.refreshAccessToken], rfl⟩
      · exact ⟨[], rfl⟩
  | issue method options => exact ⟨[], rfl⟩
  | resend found sent => exact ⟨[], rfl⟩

/-- **The store of a page** is one that its actions lead to. -/
theorem store_reached {storedAccessToken storedRefreshToken : Option String}
    {events : List ApiEvent}
    (reached : runFrom (step browser) (start storedAccessToken storedRefreshToken) events =
      some page) :
    ∃ actions, runFrom (AuthStore.step browser)
      (.start storedAccessToken storedRefreshToken) actions = some page.store := by
  refine @runFrom_invariant ApiPage ApiEvent (step browser)
    (fun page => ∃ actions, runFrom (AuthStore.step browser)
      (.start storedAccessToken storedRefreshToken) actions = some page.store)
    (fun page event after => ?_) _ _ _ ⟨[], rfl⟩ reached
  rintro ⟨earlier, before⟩ moved
  obtain ⟨actions, here⟩ := exists_store_run moved
  refine ⟨earlier ++ actions, ?_⟩
  rw [runFrom_append, before]
  exact here

/-- **Requests are runs.**  In whatever order the events of a page come, the sends of every
request are those it would make alone on the same answers, at most two more than its limit
allows retries, and at most one of its answers has asked for a refresh.  Whoever waits for a
refresh waits for one that is under way.  No more refreshes have been requested than the
page has called for and answers have asked for, and the store is one that a run of its own
leads to. -/
theorem requests_are_runs {storedAccessToken storedRefreshToken : Option String}
    {events : List ApiEvent}
    (reached : runFrom (step browser) (start storedAccessToken storedRefreshToken) events =
      some page) :
    (∀ pending ∈ page.requests, pending.Replays ∧
        pending.past.length + pending.phase.due.toList.length ≤
          ⌈pending.issued.retryLimit⌉₊ + 2 ∧
        pending.asked ≤ 1 ∧ (pending.phase.waits = true → page.store.refreshPromise = true)) ∧
      page.refreshes ≤ page.calls + (page.requests.map PendingRequest.asked).sum ∧
      ∃ actions, runFrom (AuthStore.step browser)
        (.start storedAccessToken storedRefreshToken) actions = some page.store := by
  have consistent := consistent_of_run reached
  refine ⟨fun pending member => ?_, consistent.counted, store_reached reached⟩
  have replays := consistent.replays pending member
  exact ⟨replays, replays.length_le, replays.asked_le, consistent.waiting pending member⟩

open AuthStore (exampleBrowser exampleToken exampleBrowser_accepts exampleToken_ne_empty)

/-- A 401. -/
def unauthorized : AxiosError where
  canceled := false
  status := some 401
  hasConfig := true

/-- Two requests are answered 401, and the refresh that the first has begun brings a token. -/
def expiredTwice : List ApiEvent :=
  [.issue (some "get") none, .issue (some "post") none, .answer 0 (some unauthorized),
    .answer 1 (some unauthorized), .act (.refreshSucceeds (some exampleToken) 0)]

/-- The two requests while the refresh is under way. -/
def waitingTwice : ApiPage where
  store := (AuthStore.start none none).refreshAccessToken
  requests := [
    ⟨some "get", none, [], .refreshing (.issued (some "get") none) .issued none unauthorized
      ⟨rfl, rfl, rfl⟩⟩,
    ⟨some "post", none, [], .refreshing (.issued (some "post") none) .issued none unauthorized
      ⟨rfl, rfl, rfl⟩⟩]
  refreshes := 1
  calls := 0

theorem exists_expiredTwice :
    ∃ page, runFrom (step exampleBrowser) (start none none) expiredTwice = some page ∧
      page.refreshes = 1 ∧ page.requests.map PendingRequest.asked = [1, 1] ∧ ¬ page.Finished := by
  obtain ⟨user, built⟩ := exampleBrowser_accepts
  let signedIn := (waitingTwice.store.signIn (some exampleToken) none user).settled
  have signed : waitingTwice.store.setAccessToken exampleBrowser (some exampleToken) none 0 =
      some (waitingTwice.store.signIn (some exampleToken) none user) := by
    rw [AuthStore.setAccessToken, built]
  have ended : waitingTwice.store.step exampleBrowser (.refreshSucceeds (some exampleToken) 0) =
      some signedIn := by
    rw [AuthStore.step, AuthStore.refreshSucceeds, signed]
    rfl
  have last : waitingTwice.step exampleBrowser (.act (.refreshSucceeds (some exampleToken) 0)) =
      some (waitingTwice.resume signedIn (some exampleToken)) := by
    rw [step, act, ended, AuthStore.refreshed, signed]
    rfl
  have before : runFrom (step exampleBrowser) (start none none)
      (expiredTwice.take 4) = some waitingTwice := rfl
  refine ⟨waitingTwice.resume signedIn (some exampleToken), ?_, rfl, ?_, ?_⟩
  · have reached := runFrom_append (step exampleBrowser) (start none none)
      (expiredTwice.take 4) [.act (.refreshSucceeds (some exampleToken) 0)]
    rw [before, Option.bind_some, runFrom_cons, last] at reached
    exact reached
  · have same : PendingRequest.asked ∘
        (fun pending => pending.resume signedIn (some exampleToken)) = PendingRequest.asked :=
      funext fun _ => PendingRequest.asked_resume
    rw [resume, List.map_map, same]
    rfl
  · rintro ⟨settled, -⟩
    have first : Phase.after signedIn (.issued (some "get") none) none
        ⟨some unauthorized, some exampleToken⟩ = .settled := settled _ List.mem_cons_self
    have due := congrArg Phase.due first
    rw [Phase.due_after] at due
    simp [next, unauthorized, RequestConfig.issued, exampleToken_ne_empty, Phase.due] at due

/-- Two requests have shared a refresh. -/
theorem requests_are_runs_example :
    ∃ page, runFrom (step exampleBrowser) (start none none) expiredTwice = some page ∧
      page.refreshes = 1 ∧ page.requests.map PendingRequest.asked = [1, 1] ∧
        ∀ pending ∈ page.requests, pending.Replays := by
  obtain ⟨page, reached, refreshes, asked, -⟩ := exists_expiredTwice
  exact ⟨page, reached, refreshes, asked, fun pending member =>
    ((requests_are_runs reached).1 pending member).1⟩

/-! ## The end -/

/-- **Closing events use up the work.** -/
theorem work_lt_of_closing (closing : event.Closing)
    (moved : page.step browser event = some after) : after.work < page.work := by
  cases change_of_step moved with
  | store stays stepped same => exact absurd closing stays
  | call => exact absurd closing id
  | @ended action store refreshed under stepped cleared =>
      have less : (page.requests.map fun pending =>
          (pending.resume store refreshed).phase.work).sum ≤
            (page.requests.map fun pending => pending.phase.work).sum :=
        List.sum_le_sum fun _ _ => PendingRequest.work_resume
      have resumed : (page.resume store refreshed).work =
          (page.requests.map fun pending => (pending.resume store refreshed).phase.work).sum +
            if store.refreshPromise then 1 else 0 := by
        rw [work, resume, List.map_map]
        rfl
      rw [resumed, work, under, cleared]
      exact Nat.lt_succ_of_le less
  | issue method options => exact absurd closing id
  | @answer index error before rest pending received found answered =>
      have lower := PendingRequest.work_receive answered
      have promise : (if (page.awaitRefresh received).store.refreshPromise then 1 else 0) ≤
          (if page.store.refreshPromise then 1 else 0) + if received.phase.waits then 1 else 0 := by
        rw [refreshPromise_awaitRefresh]
        cases page.store.refreshPromise <;> cases received.phase.waits <;> decide
      rw [work, work, found]
      simp only [sum_replaced]
      omega
  | @resend index before rest pending resent found sent =>
      have lower := PendingRequest.work_resend sent
      rw [work, work, found]
      simp only [sum_replaced]
      omega

theorem step_answer {index : ℕ} {error : Option AxiosError} {pending received : PendingRequest}
    (found : page.requests[index]? = some pending)
    (answered : pending.receive page.store error = some received) :
    page.step browser (.answer index error) =
      some { page.awaitRefresh received with requests := page.requests.set index received } :=
  Option.bind_eq_some_iff.mpr ⟨pending, found,
    Option.bind_eq_some_iff.mpr ⟨received, answered, rfl⟩⟩

theorem step_resend {index : ℕ} {pending resent : PendingRequest}
    (found : page.requests[index]? = some pending)
    (sent : pending.resend page.store = some resent) : page.step browser (.resend index) =
      some { page with requests := page.requests.set index resent } :=
  Option.bind_eq_some_iff.mpr ⟨pending, found, Option.bind_eq_some_iff.mpr ⟨resent, sent, rfl⟩⟩

/-- **Something can always go on**, until nothing is under way. -/
theorem exists_closing (consistent : page.Consistent) (unfinished : ¬ page.Finished) :
    ∃ event after, event.Closing ∧ page.step browser event = some after := by
  by_cases under : page.store.refreshPromise = true
  · have ends : page.store.step browser .refreshFails = some page.store.refreshFails := if_pos under
    exact ⟨.act .refreshFails, page.resume page.store.refreshFails none, trivial,
      Option.map_eq_some_iff.mpr ⟨_, ends, rfl⟩⟩
  · have someone : ∃ pending ∈ page.requests, pending.phase ≠ .settled := by
      by_contra nobody
      refine unfinished ⟨fun pending member => ?_, Bool.eq_false_iff.mpr under⟩
      by_contra unsettled
      exact nobody ⟨pending, member, unsettled⟩
    obtain ⟨pending, member, unsettled⟩ := someone
    obtain ⟨index, found⟩ := List.mem_iff_getElem?.mp member
    cases here : pending.phase with
    | sent request cause token =>
        have received : pending.receive page.store none =
            some (pending.answered page.store request cause token ⟨none, none⟩) := by
          rw [PendingRequest.receive, here]
        exact ⟨.answer index none, _, trivial, step_answer found received⟩
    | refreshing request cause token error asks =>
        exact absurd (consistent.waiting pending member (by rw [here]; rfl)) under
    | delayed request token =>
        have resent : pending.resend page.store = some { pending with
            phase := .sent request .retried (authorization page.store token) } := by
          rw [PendingRequest.resend, here]
        exact ⟨.resend index, _, trivial, step_resend found resent⟩
    | settled => exact absurd here unsettled

/-- **Requests settle.**  From every page that can be reached, answers, timers and ends of
refreshes alone go on for no longer than there is work, and when no more of them can come
every request has settled and no refresh is under way; so some of them lead there. -/
theorem requests_settle {storedAccessToken storedRefreshToken : Option String}
    {events : List ApiEvent}
    (reached : runFrom (step browser) (start storedAccessToken storedRefreshToken) events =
      some page) :
    (∀ closing after, (∀ event ∈ closing, ApiEvent.Closing event) →
        runFrom (step browser) page closing = some after →
          closing.length + after.work ≤ page.work ∧
            ((∀ event, event.Closing → after.step browser event = none) → after.Finished)) ∧
      ∃ closing after, (∀ event ∈ closing, ApiEvent.Closing event) ∧
        runFrom (step browser) page closing = some after ∧ after.Finished := by
  have consistent := consistent_of_run reached
  have keeps : ∀ (page : ApiPage) event after, page.Consistent → event.Closing →
      page.step browser event = some after → after.Consistent :=
    fun _ _ _ consistent _ moved => consistent_step consistent moved
  have lowers : ∀ (page : ApiPage) event after, page.Consistent → event.Closing →
      page.step browser event = some after → after.work < page.work :=
    fun _ _ _ _ closing moved => work_lt_of_closing closing moved
  refine ⟨fun closing after closes ran => ⟨?_, fun stuck => ?_⟩, ?_⟩
  · exact length_add_work_le keeps lowers consistent closes ran
  · by_contra unfinished
    have standing : after.Consistent :=
      runFrom_invariant (fun _ _ _ => consistent_step) consistent ran
    obtain ⟨event, later, closes, moved⟩ := @exists_closing browser after standing unfinished
    rw [stuck event closes] at moved
    cases moved
  · exact exists_closing_run keeps lowers (fun _ => exists_closing) consistent

/-- Two requests that have been sent again settle. -/
theorem requests_settle_example :
    ∃ page, runFrom (step exampleBrowser) (start none none) expiredTwice = some page ∧
      ¬ page.Finished ∧ ∃ closing after, (∀ event ∈ closing, ApiEvent.Closing event) ∧
        runFrom (step exampleBrowser) page closing = some after ∧ after.Finished := by
  obtain ⟨page, reached, -, -, unfinished⟩ := exists_expiredTwice
  exact ⟨page, reached, unfinished, (requests_settle reached).2⟩

end ApiPage

end PersonTracking.Web
