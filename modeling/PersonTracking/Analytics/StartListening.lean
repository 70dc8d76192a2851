import PersonTracking.Analytics.Consumer

/-!
# Commit safety of the listening loop

`KafkaEventConsumer.start_listening` for any callback.  An attempt of the
callback is one call here, with whatever outcome; `expand_turn` puts the
transaction callback of the analytics service in its place and gets the loop of
`Consumer` back.

A `Listener` is one run of the loop: every call is answered somehow, and the
task may be cancelled at an `await`, which no `except Exception` of the loop
catches.  Its log says what happened, newest first.  `commitSafe` is the
guarantee of the whole loop: each commit and each attempt in the log was
permitted by what the log held before it.
-/

namespace PersonTracking.Analytics.StartListening

open Library Python Shared

/-! ## The loop -/

/-- The calls of the loop.  `callback` is `await process_callback(payload)`, made
for a message; `produceDlq` is `produce` and `flush`. -/
inductive ListenCall
  | keepRunning
  | poll
  | callback (msg : KafkaMessage) (payload : Json)
  | sleep (seconds : ℕ)
  | produceDlq (msg : KafkaMessage) (record : DlqRecord)
  | commitOffset (msg : KafkaMessage)

/-- Their answers. -/
abbrev ListenReply : ListenCall → Type
  | .keepRunning => Bool
  | .poll => Except PyError Poll
  | .callback _ _ => Except PyError Unit
  | .sleep _ => Unit
  | .produceDlq _ _ => Except PyError Unit
  | .commitOffset _ => Except PyError Unit

/-- A part of the loop that may leave it by an exception. -/
abbrev Body (α : Type) : Type := Fallible ListenCall ListenReply PyError α

/-- Make a call of the loop. -/
def ask (request : ListenCall) : Program ListenCall ListenReply (ListenReply request) :=
  Program.perform request

/-- `await process_callback(payload)`; the value is what it raised. -/
def attempt (msg : KafkaMessage) (payload : Json) : Body (Option PyError) :=
  tryCatch
    (do
      Fallible.attempt (ask (.callback msg payload))
      pure none)
    fun error => pure (some error)

/-- The attempts: stop at the first that returns, wait longer after each other. -/
def attempts (msg : KafkaMessage) (payload : Json) :
    List ℕ → Option PyError → Body KafkaEventConsumer.Processing
  | [], lastError => pure (.failed lastError)
  | n :: rest, _ => do
      match ← attempt msg payload with
      | none => pure .processed
      | some error => do
          Fallible.lift (ask (.sleep (min (2 ^ n) 10)))
          attempts msg payload rest (some error)

def commitOffset (msg : KafkaMessage) : Body Unit := Fallible.attempt (ask (.commitOffset msg))

/-- `_send_to_dlq` and the commit after it. -/
def deadLetter (config : ConsumerConfig) (msg : KafkaMessage) (error : String) : Body Unit := do
  Fallible.attempt (ask (.produceDlq msg (rawDlqRecord config.codec config.topic msg error)))
  commitOffset msg

/-- What follows the attempts. -/
def conclude (config : ConsumerConfig) (msg : KafkaMessage) :
    KafkaEventConsumer.Processing → Body Unit
  | .processed => commitOffset msg
  | .failed lastError => deadLetter config msg (KafkaEventConsumer.describe config lastError)

/-- What the loop does with a polled message. -/
def handleMessage (config : ConsumerConfig) (msg : KafkaMessage) : Body Unit :=
  match config.codec.decode msg.value with
  | .error error => deadLetter config msg error
  | .ok payload => do
      let processing ← attempts msg payload ((List.range config.maxAttempts).map (· + 1)) none
      conclude config msg processing

/-- The body of the loop; the value is `false` where the source breaks. -/
def listen (config : ConsumerConfig) : Body Bool := do
  let polled : Poll ← Fallible.attempt (ask .poll)
  match polled with
  | .nothing | .partitionEof => pure true
  | .failed => pure false
  | .message msg => do
      handleMessage config msg
      pure true

/-- One turn of the loop. -/
def turn (config : ConsumerConfig) : Program ListenCall ListenReply Bool := do
  let keepRunning : Bool ← ask .keepRunning
  if keepRunning then
    match ← (listen config).run with
    | .ok goesOn => pure goesOn
    | .error _ => pure false
  else pure false

/-! ### With the transaction callback in it -/

/-- The calls of the loop when the callback is `process_message_callback`. -/
def transact : (request : ListenCall) → Program LoopCall LoopReply (ListenReply request)
  | .keepRunning => KafkaEventConsumer.ask .keepRunning
  | .poll => KafkaEventConsumer.ask .poll
  | .callback msg payload =>
      (Fallible.relabel (LoopCall.process msg) (processMessageCallback payload)).run
  | .sleep seconds => KafkaEventConsumer.ask (.sleep seconds)
  | .produceDlq msg record => KafkaEventConsumer.ask (.produceDlq msg record)
  | .commitOffset msg => KafkaEventConsumer.ask (.commitOffset msg)

theorem expand_attempt (msg : KafkaMessage) (payload : Json) :
    Fallible.expand transact (attempt msg payload) = KafkaEventConsumer.attempt msg payload := by
  rw [attempt, Fallible.expand_tryCatch, Fallible.expand_bind, Fallible.expand_attempt, ask,
    Program.expand_perform]
  rfl

theorem expand_attempts (msg : KafkaMessage) (payload : Json) (ns : List ℕ)
    (lastError : Option PyError) :
    Fallible.expand transact (attempts msg payload ns lastError) =
      KafkaEventConsumer.attempts msg payload ns lastError := by
  induction ns generalizing lastError with
  | nil => rfl
  | cons n rest ih =>
      rw [attempts, KafkaEventConsumer.attempts, Fallible.expand_bind, expand_attempt]
      refine congrArg (KafkaEventConsumer.attempt msg payload >>= ·) (funext fun outcome => ?_)
      cases outcome with
      | none => rfl
      | some error =>
          show Fallible.expand transact (Fallible.lift (ask (.sleep (min (2 ^ n) 10))) >>= _) = _
          rw [Fallible.expand_bind, Fallible.expand_lift, ask, Program.expand_perform]
          exact congrArg (Fallible.lift (transact (.sleep (min (2 ^ n) 10))) >>= ·)
            (funext fun _ => ih (some error))

theorem expand_commitOffset (msg : KafkaMessage) :
    Fallible.expand transact (commitOffset msg) = KafkaEventConsumer.commitOffset msg := by
  rw [commitOffset, Fallible.expand_attempt, ask, Program.expand_perform]
  rfl

theorem expand_deadLetter (config : ConsumerConfig) (msg : KafkaMessage) (error : String) :
    Fallible.expand transact (deadLetter config msg error) =
      KafkaEventConsumer.deadLetter config msg error := by
  rw [deadLetter, Fallible.expand_bind, Fallible.expand_attempt, ask, Program.expand_perform]
  exact congrArg (Fallible.attempt (KafkaEventConsumer.ask (.produceDlq msg _)) >>= ·)
    (funext fun _ => expand_commitOffset msg)

theorem expand_handleMessage (config : ConsumerConfig) (msg : KafkaMessage) :
    Fallible.expand transact (handleMessage config msg) =
      KafkaEventConsumer.handleMessage config msg := by
  rw [handleMessage, KafkaEventConsumer.handleMessage]
  cases config.codec.decode msg.value with
  | error error => exact expand_deadLetter config msg error
  | ok payload =>
      show Fallible.expand transact (attempts msg payload _ none >>= _) = _
      rw [Fallible.expand_bind, expand_attempts]
      refine congrArg (KafkaEventConsumer.attempts msg payload _ none >>= ·)
        (funext fun ended => ?_)
      cases ended with
      | processed => exact expand_commitOffset msg
      | failed lastError => exact expand_deadLetter config msg _

theorem expand_listen (config : ConsumerConfig) :
    Fallible.expand transact (listen config) = KafkaEventConsumer.listen config := by
  rw [listen, Fallible.expand_bind, Fallible.expand_attempt, ask, Program.expand_perform]
  refine congrArg (Fallible.attempt (transact .poll) >>= ·) (funext fun polled => ?_)
  cases polled with
  | nothing | partitionEof | failed => rfl
  | message msg =>
      show Fallible.expand transact (handleMessage config msg >>= _) = _
      rw [Fallible.expand_bind, expand_handleMessage]
      rfl

/-- **The loop of the service** is this loop with its callback in place. -/
theorem expand_turn (config : ConsumerConfig) :
    (turn config).expand transact = KafkaEventConsumer.turn config := by
  rw [turn, Program.expand_bind, ask, Program.expand_perform]
  refine congrArg (transact .keepRunning >>= ·) (funext fun keepRunning => ?_)
  cases keepRunning with
  | false => rfl
  | true =>
      show Program.expand transact ((listen config).run >>= _) = _
      rw [Program.expand_bind, show Program.expand transact (listen config).run =
        (KafkaEventConsumer.listen config).run from expand_listen config]
      refine congrArg ((KafkaEventConsumer.listen config).run >>= ·) (funext fun result => ?_)
      cases result <;> rfl

/-! ## Runs -/

/-- What happened in the loop.  `failed` is an exception nobody catches, an error
of the broker other than the end of a partition, or a cancellation. -/
inductive Event
  | polled (msg : KafkaMessage)
  | invoked (msg : KafkaMessage)
  | returned (msg : KafkaMessage)
  | raised (msg : KafkaMessage)
  | deadLettered (msg : KafkaMessage)
  | committed (msg : KafkaMessage)
  | failed
deriving DecidableEq, Repr

/-- What an answered call adds to the log, newest first.  A commit counts even
when it raises: the broker may have made it all the same. -/
def record : (request : ListenCall) → ListenReply request → List Event → List Event
  | .poll, .ok (.message msg), log => .polled msg :: log
  | .poll, .ok .failed, log => .failed :: log
  | .poll, .error _, log => .failed :: log
  | .callback msg _, .ok (), log => .returned msg :: .invoked msg :: log
  | .callback msg _, .error _, log => .raised msg :: .invoked msg :: log
  | .produceDlq msg _, .ok (), log => .deadLettered msg :: log
  | .produceDlq _ _, .error _, log => .failed :: log
  | .commitOffset msg, .ok (), log => .committed msg :: log
  | .commitOffset msg, .error _, log => .failed :: .committed msg :: log
  | _, _, log => log

/-- What a cancellation adds, if the call that is due is awaited. -/
def cancelled : ListenCall → List Event → Option (List Event)
  | .poll, log => some (.failed :: log)
  | .callback msg _, log => some (.failed :: .invoked msg :: log)
  | .sleep _, log => some (.failed :: log)
  | _, _ => none

/-- One run of the loop: what is left of its turn, and its log. -/
structure Listener where
  residual : Program ListenCall ListenReply Bool
  log : List Event

/-- What happens next: the call that is due is answered, or the task is cancelled. -/
inductive Occurrence
  | answer (answers : Program.Answers ListenCall ListenReply)
  | cancel

/-- The loop as it starts. -/
def start (config : ConsumerConfig) : Listener where
  residual := turn config
  log := []

/-- One step.  A loop that has ended makes none. -/
def step (config : ConsumerConfig) (listener : Listener) : Occurrence → Option Listener
  | .answer answers =>
      match listener.residual with
      | .done true => some { listener with residual := turn config }
      | .done false => none
      | .call request next =>
          some { residual := next (answers request)
                 log := record request (answers request) listener.log }
  | .cancel =>
      match listener.residual with
      | .done _ => none
      | .call request _ =>
          (cancelled request listener.log).map fun log => { residual := .done false, log }

/-! ## Commit safety -/

/-- The messages polled, newest first. -/
def polls (log : List Event) : List KafkaMessage :=
  log.filterMap fun event => match event with
    | .polled msg => some msg
    | _ => none

/-- The messages committed, newest first. -/
def commits (log : List Event) : List KafkaMessage :=
  log.filterMap fun event => match event with
    | .committed msg => some msg
    | _ => none

/-- How often the callback was invoked. -/
def invocations (log : List Event) : ℕ :=
  log.countP fun event => match event with
    | .invoked _ => true
    | _ => false

/-- What happened to a message since it was polled: `handling`, with no other
message polled and nothing committed since, after `before`. -/
structure Handled (msg : KafkaMessage) (handling before log : List Event) : Prop where
  split : log = handling ++ .polled msg :: before
  noPoll : ∀ other, .polled other ∉ handling
  noCommit : ∀ other, .committed other ∉ handling

/-- When a message may be committed: its callback has returned, or it is in the
DLQ; every message polled before it is committed, in the order of polling; and
nothing has failed. -/
def MayCommit (msg : KafkaMessage) (log : List Event) : Prop :=
  ∃ handling before, Handled msg handling before log ∧
    (.returned msg ∈ handling ∨ .deadLettered msg ∈ handling) ∧
    commits before = polls before ∧ .failed ∉ log

/-- When the callback may be invoked for a message: while it is handled and has
not been committed, and fewer than `maxAttempts` times before. -/
def MayInvoke (maxAttempts : ℕ) (msg : KafkaMessage) (log : List Event) : Prop :=
  ∃ handling before, Handled msg handling before log ∧ invocations handling < maxAttempts

/-- **Commit safety** of a log: each commit and each invocation was allowed when
it happened, and the commits follow the order of the polls without a gap. -/
structure CommitSafe (maxAttempts : ℕ) (log : List Event) : Prop where
  committed : ∀ later msg earlier, log = later ++ .committed msg :: earlier → MayCommit msg earlier
  invoked : ∀ later msg earlier, log = later ++ .invoked msg :: earlier →
    MayInvoke maxAttempts msg earlier
  ordered : commits log <:+ polls log

section Logs

variable {maxAttempts n : ℕ} {msg : KafkaMessage} {handling before log : List Event}

/-- Neither a poll nor a commit. -/
def Event.isInner : Event → Prop
  | .polled _ | .committed _ => False
  | _ => True

theorem handled_polled : Handled msg [] log (.polled msg :: log) where
  split := rfl
  noPoll _ member := by cases member
  noCommit _ member := by cases member

theorem Handled.cons (handled : Handled msg handling before log) (event : Event)
    (inner : event.isInner) : Handled msg (event :: handling) before (event :: log) where
  split := by rw [handled.split, List.cons_append]
  noPoll other member := by
    rcases List.mem_cons.mp member with rfl | earlier
    · exact inner
    · exact handled.noPoll other earlier
  noCommit other member := by
    rcases List.mem_cons.mp member with rfl | earlier
    · exact inner
    · exact handled.noCommit other earlier

/-- A message that is handled is the only one polled and not committed. -/
theorem Handled.counted (handled : Handled msg handling before log)
    (even : commits before = polls before) : polls log = msg :: commits log := by
  have noPolls : polls handling = [] := by
    refine List.filterMap_eq_nil_iff.mpr fun event member => ?_
    cases event with
    | polled other => exact absurd member (handled.noPoll other)
    | _ => rfl
  have noCommits : commits handling = [] := by
    refine List.filterMap_eq_nil_iff.mpr fun event member => ?_
    cases event with
    | committed other => exact absurd member (handled.noCommit other)
    | _ => rfl
  have polled : polls log = polls handling ++ msg :: polls before := by
    rw [handled.split, polls, List.filterMap_append]
    rfl
  have committed : commits log = commits handling ++ commits before := by
    rw [handled.split, commits, List.filterMap_append]
    rfl
  rw [polled, committed, noPolls, noCommits, even]
  rfl

/-- The empty log is safe. -/
theorem commitSafe_nil : CommitSafe maxAttempts [] where
  committed later msg earlier same := by simp at same
  invoked later msg earlier same := by simp at same
  ordered := List.suffix_refl _

/-- Where an event stands in a log that has grown by one. -/
theorem cons_eq_split {event first : Event} {later earlier : List Event}
    (same : first :: log = later ++ event :: earlier) :
    (first = event ∧ log = earlier) ∨ ∃ others, log = others ++ event :: earlier := by
  rcases List.cons_eq_append_iff.mp same with ⟨-, here⟩ | ⟨others, -, there⟩
  · rw [List.cons.injEq] at here
    exact Or.inl ⟨here.1.symm, here.2.symm⟩
  · exact Or.inr ⟨others, there⟩

/-- An event that is neither a commit nor an invocation leaves a log safe. -/
theorem CommitSafe.cons (safe : CommitSafe maxAttempts log) {event : Event}
    (noCommit : ∀ msg, event ≠ .committed msg) (noInvoke : ∀ msg, event ≠ .invoked msg) :
    CommitSafe maxAttempts (event :: log) where
  committed later msg earlier same := by
    rcases cons_eq_split same with ⟨here, -⟩ | ⟨others, there⟩
    · exact absurd here (noCommit msg)
    · exact safe.committed others msg earlier there
  invoked later msg earlier same := by
    rcases cons_eq_split same with ⟨here, -⟩ | ⟨others, there⟩
    · exact absurd here (noInvoke msg)
    · exact safe.invoked others msg earlier there
  ordered := by
    cases event with
    | committed msg => exact absurd rfl (noCommit msg)
    | polled msg => exact safe.ordered.trans (List.suffix_cons msg _)
    | _ => exact safe.ordered

/-- A commit that is allowed leaves a log safe… -/
theorem CommitSafe.commit (safe : CommitSafe maxAttempts log) (may : MayCommit msg log) :
    CommitSafe maxAttempts (.committed msg :: log) where
  committed later other earlier same := by
    rcases cons_eq_split same with ⟨here, rfl⟩ | ⟨others, there⟩
    · cases here
      exact may
    · exact safe.committed others other earlier there
  invoked later other earlier same := by
    rcases cons_eq_split same with ⟨here, -⟩ | ⟨others, there⟩
    · cases here
    · exact safe.invoked others other earlier there
  ordered := by
    obtain ⟨handling, before, handled, -, even, -⟩ := may
    have all : polls log = msg :: commits log := handled.counted even
    exact all ▸ List.suffix_refl _

/-- …and so does an invocation. -/
theorem CommitSafe.invoke (safe : CommitSafe maxAttempts log)
    (may : MayInvoke maxAttempts msg log) : CommitSafe maxAttempts (.invoked msg :: log) where
  committed later other earlier same := by
    rcases cons_eq_split same with ⟨here, -⟩ | ⟨others, there⟩
    · cases here
    · exact safe.committed others other earlier there
  invoked later other earlier same := by
    rcases cons_eq_split same with ⟨here, rfl⟩ | ⟨others, there⟩
    · cases here
      exact may
    · exact safe.invoked others other earlier there
  ordered := safe.ordered

end Logs

/-! ### What a turn does when -/

/-- Where a turn is: between messages, handling one after some attempts, done
with it, or ended. -/
inductive Phase
  | idle
  | handling (msg : KafkaMessage) (attempts : ℕ)
  | settled (msg : KafkaMessage)
  | ended

/-- What the log of a phase looks like. -/
def Phase.Describes : Phase → List Event → Prop
  | .idle, log => commits log = polls log ∧ .failed ∉ log
  | .handling msg n, log => ∃ handling before, Handled msg handling before log ∧
      invocations handling = n ∧ commits before = polls before ∧ .failed ∉ log
  | .settled msg, log => MayCommit msg log
  | .ended, _ => True

/-- The calls of each phase, and where they lead. -/
def discipline (maxAttempts : ℕ) : Program.Rules ListenCall ListenReply Phase where
  allowed
    | .idle, .keepRunning | .idle, .poll => True
    | .handling msg n, .callback other _ => other = msg ∧ n < maxAttempts
    | .handling _ _, .sleep _ => True
    | .handling msg _, .produceDlq other _ => other = msg
    | .settled msg, .commitOffset other => other = msg
    | _, _ => False
  admits _ _ _ := True
  after
    | .idle, .poll, .ok (.message msg) => .handling msg 0
    | .idle, .poll, .ok .failed | .idle, .poll, .error _ => .ended
    | .handling msg _, .callback _ _, .ok () => .settled msg
    | .handling msg n, .callback _ _, .error _ => .handling msg (n + 1)
    | .handling msg _, .produceDlq _ _, .ok () => .settled msg
    | .handling _ _, .produceDlq _ _, .error _ => .ended
    | .settled _, .commitOffset _, .ok () => .idle
    | .settled _, .commitOffset _, .error _ => .ended
    | phase, _, _ => phase

section Turn

variable {config : ConsumerConfig} {msg : KafkaMessage}

/-- What a body of the loop has to reach: normally the idle phase, by an
exception any phase. -/
def Ends (config : ConsumerConfig) {α : Type} (post : α → Phase → Prop) (body : Body α)
    (phase : Phase) : Prop :=
  Fallible.wpe (discipline config.maxAttempts) post (fun _ _ => True) body phase

theorem commitOffset_spec :
    Ends config (fun _ phase => phase = .idle) (commitOffset msg) (.settled msg) := by
  refine ⟨rfl, fun answer _ => ?_⟩
  cases answer with
  | ok _ => rfl
  | error _ => trivial

theorem deadLetter_spec (error : String) (n : ℕ) :
    Ends config (fun _ phase => phase = .idle) (deadLetter config msg error)
      (.handling msg n) := by
  refine ⟨rfl, fun answer _ => ?_⟩
  cases answer with
  | ok _ => exact commitOffset_spec
  | error _ => trivial

/-- Where the attempts end. -/
def Attempted (msg : KafkaMessage) : KafkaEventConsumer.Processing → Phase → Prop
  | .processed, phase => phase = .settled msg
  | .failed _, phase => ∃ n, phase = .handling msg n

/-- As many attempts as are left: none is one too many. -/
theorem attempts_spec (payload : Json) (ns : List ℕ) (lastError : Option PyError) (n : ℕ)
    (few : n + ns.length ≤ config.maxAttempts) :
    Ends config (Attempted msg) (attempts msg payload ns lastError) (.handling msg n) := by
  induction ns generalizing lastError n with
  | nil => exact ⟨n, rfl⟩
  | cons first rest ih =>
      rw [List.length_cons] at few
      refine ⟨⟨rfl, by omega⟩, fun answer _ => ?_⟩
      cases answer with
      | ok _ => exact rfl
      | error error => exact ⟨trivial, fun _ _ => ih (some error) (n + 1) (by omega)⟩

theorem handleMessage_spec :
    Ends config (fun _ phase => phase = .idle) (handleMessage config msg) (.handling msg 0) := by
  rw [handleMessage]
  cases config.codec.decode msg.value with
  | error error => exact deadLetter_spec error 0
  | ok payload =>
      refine (Fallible.wpe_bind).mpr (Fallible.wpe_mono (fun processing phase reached => ?_)
        (fun _ _ _ => trivial) (attempts_spec payload _ none 0 (by simp)))
      cases processing with
      | processed =>
          cases reached
          exact commitOffset_spec
      | failed lastError =>
          obtain ⟨n, rfl⟩ := reached
          exact deadLetter_spec _ n

theorem listen_spec :
    Ends config (fun goesOn phase => goesOn = true → phase = .idle) (listen config) .idle := by
  refine ⟨trivial, fun answer _ => ?_⟩
  cases answer with
  | error error => trivial
  | ok polled =>
      cases polled with
      | nothing | partitionEof => exact fun _ => rfl
      | failed => exact fun wrong => by cases wrong
      | message msg =>
          refine (Fallible.wpe_bind).mpr (Fallible.wpe_mono (fun _ phase reached => ?_)
            (fun _ _ _ => trivial) handleMessage_spec)
          exact fun _ => reached

/-- What the end of a turn promises the next one. -/
def Rests (goesOn : Bool) (phase : Phase) : Prop := goesOn = true → phase = .idle

theorem turn_spec : Program.wp (discipline config.maxAttempts) Rests (turn config) .idle := by
  refine ⟨trivial, fun keepRunning _ => ?_⟩
  cases keepRunning with
  | false => exact fun wrong => by cases wrong
  | true =>
      show Program.wp _ Rests ((listen config).run >>= _) .idle
      rw [Program.wp_bind]
      refine Program.wp_mono (fun result phase reached => ?_) listen_spec
      cases result with
      | ok goesOn => exact reached
      | error error => exact fun wrong => by cases wrong

end Turn

/-! ### Every run -/

/-- **An answered call keeps the log safe**, and its phase describes it. -/
theorem describes_record {maxAttempts : ℕ} {phase : Phase} {log : List Event}
    {request : ListenCall} (safe : CommitSafe maxAttempts log) (describes : phase.Describes log)
    (allowed : (discipline maxAttempts).allowed phase request) (reply : ListenReply request) :
    CommitSafe maxAttempts (record request reply log) ∧
      ((discipline maxAttempts).after phase request reply).Describes
        (record request reply log) := by
  cases phase with
  | idle =>
      obtain ⟨even, clean⟩ := describes
      cases request with
      | keepRunning => exact ⟨safe, even, clean⟩
      | poll =>
          match reply with
          | .error _ => exact ⟨safe.cons (by simp) (by simp), trivial⟩
          | .ok .nothing | .ok .partitionEof => exact ⟨safe, even, clean⟩
          | .ok .failed => exact ⟨safe.cons (by simp) (by simp), trivial⟩
          | .ok (.message msg) =>
              exact ⟨safe.cons (by simp) (by simp), [], log, handled_polled, rfl, even,
                by simpa [record] using clean⟩
      | callback _ _ | sleep _ | produceDlq _ _ | commitOffset _ => cases allowed
  | handling msg n =>
      obtain ⟨handling, before, handled, count, even, clean⟩ := describes
      cases request with
      | callback other payload =>
          obtain ⟨rfl, few⟩ := allowed
          -- the invocation is allowed in the log before it, whatever comes of it
          have invoked := safe.invoke ⟨handling, before, handled, count ▸ few⟩
          have inner := handled.cons (.invoked other) trivial
          match reply with
          | .ok () =>
              refine ⟨invoked.cons (by simp) (by simp), _, before,
                inner.cons (.returned other) trivial, Or.inl List.mem_cons_self, even, ?_⟩
              simpa [record] using clean
          | .error _ =>
              refine ⟨invoked.cons (by simp) (by simp), _, before,
                inner.cons (.raised other) trivial, ?_, even, ?_⟩
              · rw [← count]
                simp [invocations]
              · simpa [record] using clean
      | sleep seconds => exact ⟨safe, handling, before, handled, count, even, clean⟩
      | produceDlq other letter =>
          obtain rfl : other = msg := allowed
          match reply with
          | .ok () =>
              refine ⟨safe.cons (by simp) (by simp), .deadLettered other :: handling, before,
                handled.cons _ trivial, Or.inr List.mem_cons_self, even, ?_⟩
              simpa [record] using clean
          | .error _ => exact ⟨safe.cons (by simp) (by simp), trivial⟩
      | keepRunning | poll | commitOffset _ => cases allowed
  | settled msg =>
      cases request with
      | commitOffset other =>
          obtain rfl : other = msg := allowed
          have committed := safe.commit describes
          obtain ⟨handling, before, handled, -, even, clean⟩ := describes
          match reply with
          | .ok () =>
              refine ⟨committed, ?_, by simpa [record] using clean⟩
              show other :: commits log = polls log
              rw [handled.counted even]
          | .error _ => exact ⟨committed.cons (by simp) (by simp), trivial⟩
      | keepRunning | poll | callback _ _ | sleep _ | produceDlq _ _ => cases allowed
  | ended => cases request <;> cases allowed

/-- A cancellation keeps the log safe. -/
theorem commitSafe_cancelled {maxAttempts : ℕ} {phase : Phase} {log after : List Event}
    {request : ListenCall} (safe : CommitSafe maxAttempts log) (describes : phase.Describes log)
    (allowed : (discipline maxAttempts).allowed phase request)
    (awaited : cancelled request log = some after) : CommitSafe maxAttempts after := by
  cases request with
  | poll | sleep _ =>
      cases awaited
      exact safe.cons (by simp) (by simp)
  | callback msg payload =>
      cases awaited
      cases phase with
      | handling other n =>
          obtain ⟨rfl, few⟩ := allowed
          obtain ⟨handling, before, handled, count, -, -⟩ := describes
          exact (safe.invoke ⟨handling, before, handled, count ▸ few⟩).cons (by simp) (by simp)
      | idle | settled _ | ended => cases allowed
  | keepRunning | produceDlq _ _ | commitOffset _ => cases awaited

/-- A listener some phase describes. -/
def Listener.Tracked (config : ConsumerConfig) (listener : Listener) : Prop :=
  CommitSafe config.maxAttempts listener.log ∧ ∃ phase : Phase, phase.Describes listener.log ∧
    Program.wp (discipline config.maxAttempts) Rests listener.residual phase

/-- **One step** keeps a listener tracked. -/
theorem Listener.Tracked.step {config : ConsumerConfig} {listener next : Listener}
    {occurrence : Occurrence} (tracked : listener.Tracked config)
    (moved : StartListening.step config listener occurrence = some next) :
    next.Tracked config := by
  obtain ⟨residual, log⟩ := listener
  obtain ⟨safe, phase, describes, holds⟩ := tracked
  cases occurrence with
  | answer answers =>
      cases residual with
      | done goesOn =>
          cases goesOn with
          | false => cases moved
          | true =>
              cases moved
              obtain rfl := holds rfl
              exact ⟨safe, .idle, describes, turn_spec⟩
      | call request rest =>
          cases moved
          obtain ⟨allowed, continues⟩ := holds
          obtain ⟨still, describes⟩ := describes_record safe describes allowed (answers request)
          exact ⟨still, _, describes, continues _ trivial⟩
  | cancel =>
      cases residual with
      | done goesOn => cases moved
      | call request rest =>
          obtain ⟨after, awaited, rfl⟩ := Option.map_eq_some_iff.mp moved
          exact ⟨commitSafe_cancelled safe describes holds.1 awaited, .ended, trivial,
            fun wrong => by cases wrong⟩

/-- **Commit safety.**  In every run of the loop, whatever is polled, however
the attempts, the dead letters and the commits end, and wherever it is
cancelled: a committed message was handled or dead-lettered before, commits
follow the polls without a gap, no message is attempted more often than
configured or after its commit, and nothing is committed after a failure. -/
theorem commitSafe (config : ConsumerConfig) (occurrences : List Occurrence) (listener : Listener)
    (reached : runFrom (step config) (start config) occurrences = some listener) :
    CommitSafe config.maxAttempts listener.log := by
  have tracked : listener.Tracked config := by
    refine runFrom_invariant (fun _ _ _ tracked moved => tracked.step moved) ?_ reached
    exact ⟨commitSafe_nil, .idle, ⟨rfl, by simp [start]⟩, turn_spec⟩
  exact tracked.1

/-! ### Two messages -/

/-- A message is polled, and its callback ends as given. -/
def exampleAnswers (msg : KafkaMessage) (called : Except PyError Unit) :
    Program.Answers ListenCall ListenReply
  | .keepRunning => true
  | .poll => .ok (.message msg)
  | .callback _ _ => called
  | .sleep _ => ()
  | .produceDlq _ _ => .ok ()
  | .commitOffset _ => .ok ()

/-- The message after it, whose callback raises. -/
def refusedMessage : KafkaMessage := ⟨0, 1, none, some [1]⟩

/-- The second attempt at the first message succeeds, those at the next one fail. -/
def exampleOccurrences : List Occurrence :=
  (List.replicate 4 (exampleAnswers spelledMessage (.error .sqlError)) ++
    List.replicate 2 (exampleAnswers spelledMessage (.ok ())) ++
    List.replicate 11 (exampleAnswers refusedMessage (.error .sqlError))).map .answer

theorem commitSafe_example :
    ∃ listener, runFrom (step (.spelling .null)) (start (.spelling .null)) exampleOccurrences =
        some listener ∧
      listener.log = [.committed refusedMessage, .deadLettered refusedMessage,
        .raised refusedMessage, .invoked refusedMessage, .raised refusedMessage,
        .invoked refusedMessage, .raised refusedMessage, .invoked refusedMessage,
        .polled refusedMessage, .committed spelledMessage, .returned spelledMessage,
        .invoked spelledMessage, .raised spelledMessage, .invoked spelledMessage,
        .polled spelledMessage] ∧
      CommitSafe 3 listener.log :=
  ⟨_, rfl, rfl, commitSafe (.spelling .null) exampleOccurrences _ rfl⟩

end PersonTracking.Analytics.StartListening
