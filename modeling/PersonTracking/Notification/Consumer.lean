import PersonTracking.Library.Program
import PersonTracking.Library.Transition
import PersonTracking.Shared.Kafka

/-!
# The notification service's alert consumer

`consume_alerts` as a program: one `turn` of its loop polls, decodes, posts the
alert to the gateway up to three times and then commits the offset, directly
or after writing a dead letter.  What polling, posting, producing, committing
and the cancellation of the task come to is answered from outside, call by
call, so a run of the consumer is any list of answers.

Every message that is answered 200 or dead-lettered is *settled*.  A commit of
an offset covers all messages of the partition polled up to it, so the
invariant to carry is that at every commit all polled messages are settled
(`turn_settles`).  It needs the answers to keep out of the outer `except`,
which leaves a message behind unsettled and goes on polling: a post that
raises, a JSON value that is not an object, a dead letter that cannot be
produced (`KeepsMessages`).
-/

namespace PersonTracking.Notification

open Library Python Shared

/-- What ends a wait early: the task was cancelled, or the call raised. -/
inductive Interrupt
  | cancelled
  | raised (error : PyError)
deriving DecidableEq, Repr

/-- The external calls of the loop.  `post` and `produceDlq` also name the
message they are made for, which the source knows from its local variable. -/
inductive Call
  | keepRunning
  | poll
  | post (msg : KafkaMessage) (payload : Json)
  | sleep (seconds : ℕ)
  | produceDlq (msg : KafkaMessage) (record : DlqRecord)
  | commit (msg : KafkaMessage)

/-- Their answers.  A sleep answers whether the task was cancelled in it;
`produceDlq` is `produce` and `flush`. -/
abbrev Reply : Call → Type
  | .keepRunning => Bool
  | .poll => Except Interrupt Poll
  | .post _ _ => Except Interrupt ℕ
  | .sleep _ => Bool
  | .produceDlq _ _ => Except PyError Unit
  | .commit _ => Except PyError Unit

/-- A step of the loop that may leave it. -/
abbrev Step (α : Type) : Type := Fallible Call Reply Interrupt α

/-! ## The loop -/

/-- Make a call of the loop. -/
def ask (request : Call) : Program Call Reply (Reply request) := Program.perform request

def poll : Step Poll := Fallible.attempt (ask .poll)

def post (msg : KafkaMessage) (payload : Json) : Step ℕ :=
  Fallible.attempt (ask (.post msg payload))

/-- `await asyncio.sleep(seconds)`. -/
def sleep (seconds : ℕ) : Step Unit := do
  let cancelled : Bool ← Fallible.lift (ask (.sleep seconds))
  if cancelled then throw .cancelled

/-- Raise what a plain Python expression raised. -/
def evaluate {α : Type} : Except PyError α → Step α
  | .ok value => pure value
  | .error error => throw (.raised error)

def produceDlq (msg : KafkaMessage) (record : DlqRecord) : Step Unit := do
  let produced : Except PyError Unit ← Fallible.lift (ask (.produceDlq msg record))
  evaluate produced

def commit (msg : KafkaMessage) : Step Unit := do
  let committed : Except PyError Unit ← Fallible.lift (ask (.commit msg))
  evaluate committed

/-- The body posted to the gateway for an alert.  The log line before it reads
`alert_id`, so a value that is no object already fails there. -/
def gatewayPayload (alertData : Json) : Except PyError Json := do
  let _ ← alertData.getD "alert_id" (.str "unknown")
  let alertType ← alertData.getD "alert_type" .null
  let kind ← if alertType.truthy then .ok alertType
    else alertData.getD "type" (.str "general_alert")
  return .obj [("alert_type", kind), ("message", alertData)]

/-- The attempts to post: stop at the first 200, wait longer after each other answer. -/
def forward (msg : KafkaMessage) (payload : Json) : List ℕ → Step Bool
  | [] => pure false
  | attempt :: rest => do
      let status ← post msg payload
      if status = 200 then pure true
      else do
        sleep (min (2 ^ attempt) 8)
        forward msg payload rest

/-- The dead letter of an alert the gateway did not take. -/
def unforwardedRecord (topic : String) (msg : KafkaMessage) (alertData : Json) : DlqRecord where
  topic := topic ++ ".DLQ"
  key := msg.key
  value := .obj [("source_topic", .str topic), ("partition", .int msg.partition),
    ("offset", .int msg.offset), ("error", .str "Gateway forwarding failed after retries"),
    ("payload", alertData)]

/-- Write a dead letter, then commit past the message. -/
def deadLetter (msg : KafkaMessage) (record : DlqRecord) : Step Unit := do
  produceDlq msg record
  commit msg

/-- What the loop does with a polled message. -/
def handleMessage (codec : ByteCodec) (topic : String) (msg : KafkaMessage) : Step Unit :=
  match codec.decode msg.value with
  | .error error => deadLetter msg (rawDlqRecord codec topic msg error)
  | .ok alertData => do
      let payload ← evaluate (gatewayPayload alertData)
      let forwarded ← forward msg payload [1, 2, 3]
      if forwarded then commit msg
      else deadLetter msg (unforwardedRecord topic msg alertData)

/-- The body of the `try` of one turn. -/
def attemptTurn (codec : ByteCodec) (topic : String) : Step Unit := do
  match ← poll with
  | .nothing | .partitionEof => pure ()
  | .failed => sleep 2
  | .message msg => handleMessage codec topic msg

/-- One turn of the loop; the value tells whether there is a next one. -/
def turn (codec : ByteCodec) (topic : String) : Program Call Reply Bool := do
  let keepRunning : Bool ← ask .keepRunning
  if keepRunning then
    match ← (attemptTurn codec topic).run with
    | .ok () => pure true
    | .error .cancelled => pure false
    | .error (.raised _) => do
        -- a cancellation inside the handler of the exception leaves the loop, too
        let cancelled : Bool ← ask (.sleep 2)
        pure !cancelled
  else pure false

/-! ## Histories -/

/-- What happened to messages, newest first. -/
inductive Event
  | polled (msg : KafkaMessage)
  | answered (msg : KafkaMessage) (status : ℕ)
  | deadLettered (msg : KafkaMessage)
  | committed (msg : KafkaMessage)
deriving DecidableEq, Repr

/-- What one answered call adds.  A commit counts even when it raises: the
broker may have made it all the same. -/
def record : (request : Call) → Reply request → List Event → List Event
  | .poll, .ok (.message msg), history => .polled msg :: history
  | .post msg _, .ok status, history => .answered msg status :: history
  | .produceDlq msg _, .ok (), history => .deadLettered msg :: history
  | .commit msg, _, history => .committed msg :: history
  | _, _, history => history

/-- Answered 200 by the gateway, or written to the dead-letter topic. -/
def Settled (history : List Event) (msg : KafkaMessage) : Prop :=
  .answered msg 200 ∈ history ∨ .deadLettered msg ∈ history

/-- Whenever an offset was committed, every message of its partition polled at
or before that offset had been settled. -/
def CommitsSettled : List Event → Prop
  | [] => True
  | .committed msg :: earlier =>
      (∀ other, .polled other ∈ earlier → other.partition = msg.partition →
        other.offset ≤ msg.offset → Settled earlier other) ∧ CommitsSettled earlier
  | _ :: earlier => CommitsSettled earlier

/-- A running consumer: what is left of its turn and what happened so far. -/
structure Consumer where
  residual : Program Call Reply Bool
  history : List Event

/-- The consumer at its start. -/
def Consumer.start (codec : ByteCodec) (topic : String) : Consumer where
  residual := turn codec topic
  history := []

/-- One answered call; a turn that ended with `true` is followed by the next. -/
def Consumer.step (codec : ByteCodec) (topic : String) (consumer : Consumer)
    (answers : Program.Answers Call Reply) : Option Consumer :=
  match consumer.residual with
  | .done true => some { consumer with residual := turn codec topic }
  | .done false => none
  | .call request next =>
      some { residual := next (answers request)
             history := record request (answers request) consumer.history }

/-! ## The answers under which nothing is skipped -/

/-- The answers that keep out of the outer `except`: a message decodes to an
object or does not decode, no post raises, a dead letter is produced. -/
def KeepsMessages (codec : ByteCodec) : (request : Call) → Reply request → Prop
  | .poll, .ok (.message msg) => ∀ alertData, codec.decode msg.value = .ok alertData →
      alertData.isObject = true
  | .post _ _, .error (.raised _) => False
  | .produceDlq _ _, .error _ => False
  | _, _ => True

/-- Every polled message is settled. -/
def AllSettled (history : List Event) : Prop :=
  ∀ msg, .polled msg ∈ history → Settled history msg

/-- Every polled message but `msg` is settled. -/
def OthersSettled (msg : KafkaMessage) (history : List Event) : Prop :=
  ∀ other, .polled other ∈ history → other = msg ∨ Settled history other

theorem Settled.mono {history : List Event} {msg : KafkaMessage} {event : Event}
    (settled : Settled history msg) : Settled (event :: history) msg :=
  settled.imp (List.mem_cons_of_mem event) (List.mem_cons_of_mem event)

theorem AllSettled.polled {history : List Event} {msg : KafkaMessage}
    (settled : AllSettled history) : OthersSettled msg (.polled msg :: history) := by
  intro other polled
  rcases List.mem_cons.mp polled with same | before
  · exact Or.inl (Event.polled.inj same)
  · exact Or.inr (settled other before).mono

theorem OthersSettled.answered {history : List Event} {msg : KafkaMessage} (status : ℕ)
    (settled : OthersSettled msg history) :
    OthersSettled msg (.answered msg status :: history) := by
  intro other polled
  rcases List.mem_cons.mp polled with same | before
  · cases same
  · exact (settled other before).imp_right Settled.mono

/-- The last message is settled, too, once an event settles it. -/
theorem OthersSettled.allSettled {history : List Event} {msg : KafkaMessage} {event : Event}
    (settled : OthersSettled msg history) (noPoll : ∀ other, event ≠ .polled other)
    (settles : Settled (event :: history) msg) : AllSettled (event :: history) := by
  intro other polled
  rcases List.mem_cons.mp polled with same | before
  · exact absurd same.symm (noPoll other)
  · rcases settled other before with rfl | already
    · exact settles
    · exact already.mono

theorem AllSettled.committed {history : List Event} {msg : KafkaMessage}
    (settled : AllSettled history) : AllSettled (.committed msg :: history) := by
  intro other polled
  rcases List.mem_cons.mp polled with same | before
  · cases same
  · exact (settled other before).mono

/-- The calculus of the loop: the ghost phase is the history, a commit is
allowed when every polled message is settled. -/
def settling (codec : ByteCodec) : Program.Rules Call Reply (List Event) where
  allowed history request :=
    match request with
    | .commit _ => AllSettled history
    | _ => True
  admits _ request answer := KeepsMessages codec request answer
  after history request answer := record request answer history

/-- Leaving by an exception is harmless when everything is settled, and by a
cancellation in any case. -/
def HarmlessExit : Interrupt → List Event → Prop
  | .cancelled, _ => True
  | .raised _, history => AllSettled history

section Specifications

variable {codec : ByteCodec} {topic : String} {history : List Event} {msg : KafkaMessage}

theorem commit_spec (settled : AllSettled history) :
    Fallible.wpe (settling codec) (fun _ => AllSettled) HarmlessExit (commit msg) history := by
  rw [commit, Fallible.wpe_bind, Fallible.wpe_lift]
  refine ⟨settled, fun answer _ => ?_⟩
  cases answer with
  | ok value => exact settled.committed
  | error error => exact settled.committed

theorem deadLetter_spec {letter : DlqRecord} (settled : OthersSettled msg history) :
    Fallible.wpe (settling codec) (fun _ => AllSettled) HarmlessExit (deadLetter msg letter)
      history := by
  rw [deadLetter, Fallible.wpe_bind, produceDlq, Fallible.wpe_bind, Fallible.wpe_lift]
  refine ⟨trivial, fun answer admitted => ?_⟩
  cases answer with
  | error error => exact absurd admitted id
  | ok value =>
      refine commit_spec (settled.allSettled (fun _ same => by cases same) ?_)
      exact Or.inr List.mem_cons_self

theorem sleep_spec {seconds : ℕ} {post : Unit → List Event → Prop} (reached : post () history) :
    Fallible.wpe (settling codec) post HarmlessExit (sleep seconds) history := by
  rw [sleep, Fallible.wpe_bind, Fallible.wpe_lift]
  refine ⟨trivial, fun cancelled _ => ?_⟩
  cases cancelled with
  | true => exact trivial
  | false => exact reached

/-- Posting either settles the message or leaves only it unsettled. -/
theorem forward_spec {payload : Json} (attempts : List ℕ) (settled : OthersSettled msg history) :
    Fallible.wpe (settling codec)
      (fun forwarded history =>
        if forwarded then AllSettled history else OthersSettled msg history)
      HarmlessExit (forward msg payload attempts) history := by
  induction attempts generalizing history with
  | nil => exact settled
  | cons attempt rest ih =>
      rw [forward, Fallible.wpe_bind, post, Fallible.wpe_attempt]
      refine ⟨trivial, fun answer admitted => ?_⟩
      match answer with
      | .error .cancelled => exact trivial
      | .error (.raised _) => exact absurd admitted id
      | .ok status =>
          by_cases accepted : status = 200
          · subst accepted
            exact settled.allSettled (fun _ same => by cases same) (Or.inl List.mem_cons_self)
          · show Fallible.wpe _ _ _ (if status = 200 then _ else _) _
            rw [if_neg accepted, Fallible.wpe_bind]
            exact sleep_spec (ih (settled.answered status))

theorem gatewayPayload_ok {alertData : Json} (object : alertData.isObject = true) :
    ∃ payload, gatewayPayload alertData = .ok payload := by
  cases alertData with
  | obj fields =>
      simp only [gatewayPayload, Json.getD, bind, Except.bind]
      split <;> exact ⟨_, rfl⟩
  | null | bool _ | int _ | float _ | str _ | arr _ => cases object

theorem handleMessage_spec
    (readable : ∀ alertData, codec.decode msg.value = .ok alertData → alertData.isObject = true)
    (settled : OthersSettled msg history) :
    Fallible.wpe (settling codec) (fun _ => AllSettled) HarmlessExit
      (handleMessage codec topic msg) history := by
  rw [handleMessage]
  split
  · exact deadLetter_spec settled
  · rename_i alertData decoded
    obtain ⟨payload, built⟩ := gatewayPayload_ok (readable alertData decoded)
    rw [Fallible.wpe_bind, built]
    show Fallible.wpe _ _ _ (forward msg payload [1, 2, 3] >>= _) history
    rw [Fallible.wpe_bind]
    refine Fallible.wpe_mono (fun forwarded later reached => ?_) (fun _ _ => id)
      (forward_spec [1, 2, 3] settled)
    cases forwarded with
    | true => exact commit_spec reached
    | false => exact deadLetter_spec reached

theorem attemptTurn_spec (settled : AllSettled history) :
    Fallible.wpe (settling codec) (fun _ => AllSettled) HarmlessExit (attemptTurn codec topic)
      history := by
  rw [attemptTurn, Fallible.wpe_bind, poll, Fallible.wpe_attempt]
  refine ⟨trivial, fun answer admitted => ?_⟩
  match answer with
  | .error .cancelled => exact trivial
  | .error (.raised _) => exact settled
  | .ok .nothing => exact settled
  | .ok .partitionEof => exact settled
  | .ok .failed => exact sleep_spec settled
  | .ok (.message msg) => exact handleMessage_spec admitted settled.polled

/-- **One turn settles what it polls.**  Under answers that keep messages, a
turn that starts with everything settled commits only then and ends so, or is
the last one. -/
theorem turn_settles (settled : AllSettled history) :
    Program.wp (settling codec) (fun goesOn later => goesOn = true → AllSettled later)
      (turn codec topic) history := by
  rw [turn, Program.wp_bind]
  refine ⟨trivial, fun keepRunning _ => ?_⟩
  cases keepRunning with
  | false => exact fun goesOn => by cases goesOn
  | true =>
      rw [Program.wp_done, if_pos rfl, Program.wp_bind]
      refine Program.wp_mono (fun outcome later reached => ?_) (attemptTurn_spec settled)
      match outcome with
      | .ok () => exact fun _ => reached
      | .error .cancelled => exact fun goesOn => by cases goesOn
      | .error (.raised _) => exact ⟨trivial, fun _ _ _ => reached⟩

end Specifications

/-! ## Runs -/

/-- The invariant of a run: past commits were sound, and what is left of the
turn keeps it that way. -/
def Consumer.Sound (codec : ByteCodec) (consumer : Consumer) : Prop :=
  CommitsSettled consumer.history ∧
    Program.wp (settling codec) (fun goesOn later => goesOn = true → AllSettled later)
      consumer.residual consumer.history

/-- The condition on a step: the call that is due gets an answer that keeps messages. -/
def Consumer.Keeps (codec : ByteCodec) (consumer : Consumer)
    (answers : Program.Answers Call Reply) : Prop :=
  match consumer.residual with
  | .done _ => True
  | .call request _ => KeepsMessages codec request (answers request)

theorem commitsSettled_record {codec : ByteCodec} {request : Call} {answer : Reply request}
    {history : List Event} (allowed : (settling codec).allowed history request)
    (sound : CommitsSettled history) : CommitsSettled (record request answer history) := by
  unfold record
  split
  · exact sound
  · exact sound
  · exact sound
  · exact ⟨fun other polled _ _ => allowed other polled, sound⟩
  · exact sound

theorem Consumer.sound_step {codec : ByteCodec} {topic : String} (consumer : Consumer)
    (answers : Program.Answers Call Reply) (next : Consumer) (sound : consumer.Sound codec)
    (keeps : consumer.Keeps codec answers) (moved : consumer.step codec topic answers = some next) :
    next.Sound codec := by
  obtain ⟨residual, history⟩ := consumer
  obtain ⟨commits, continues⟩ := sound
  cases residual with
  | done goesOn =>
      cases goesOn with
      | false => cases moved
      | true =>
          cases moved
          exact ⟨commits, turn_settles (continues rfl)⟩
  | call request rest =>
      cases moved
      exact ⟨commitsSettled_record continues.1 commits, continues.2 _ keeps⟩

/-- **No alert is skipped.**  In every run of the consumer whose answers keep
messages, every committed offset covers only messages that were answered 200 or
dead-lettered. -/
theorem commits_settled_of_keeps (codec : ByteCodec) (topic : String)
    (answered : List (Program.Answers Call Reply)) (consumer : Consumer)
    (keeps : Meets (Consumer.Keeps codec) (Consumer.step codec topic)
      (Consumer.start codec topic) answered)
    (reached : runFrom (Consumer.step codec topic) (Consumer.start codec topic) answered =
      some consumer) : CommitsSettled consumer.history := by
  have atStart : (Consumer.start codec topic).Sound codec :=
    ⟨trivial, turn_settles fun _ polled => by cases polled⟩
  exact (runFrom_invariant_of_meets Consumer.sound_step atStart keeps reached).1

/-! ### A skipped alert -/

/-- A reader of the empty object. -/
def exampleCodec : ByteCodec where
  loads bytes := if bytes = [123, 125] then some (.obj []) else none
  errorText _ := "Expecting value: line 1 column 1 (char 0)"
  decodeReplacing _ := ""

/-- The alert `{}` at an offset of partition 0. -/
def exampleAlert (offset : ℕ) : KafkaMessage where
  partition := 0
  offset := offset
  key := none
  value := some [123, 125]

/-- A moment at which `poll` returns the alert at an offset and a post is answered as given. -/
def exampleAnswers (offset : ℕ) (posted : Except Interrupt ℕ) : Program.Answers Call Reply
  | .keepRunning => true
  | .poll => .ok (.message (exampleAlert offset))
  | .post _ _ => posted
  | .sleep _ => false
  | .produceDlq _ _ => .ok ()
  | .commit _ => .ok ()

/-- Such answers keep messages as long as no post raises. -/
theorem keeps_exampleAnswers (offset status : ℕ) (consumer : Consumer) :
    consumer.Keeps exampleCodec (exampleAnswers offset (.ok status)) := by
  obtain ⟨residual, history⟩ := consumer
  cases residual with
  | done goesOn => exact trivial
  | call request rest =>
      cases request with
      | poll =>
          intro alertData decoded
          cases decoded
          rfl
      | keepRunning | post _ _ | sleep _ | produceDlq _ _ | commit _ => exact trivial

/-- The first alert is answered 500 three times and becomes a dead letter, the second is
accepted. -/
theorem commits_settled_example :
    ∃ consumer, runFrom (Consumer.step exampleCodec "alert-events")
        (Consumer.start exampleCodec "alert-events")
        (List.replicate 10 (exampleAnswers 0 (.ok 500)) ++
          List.replicate 5 (exampleAnswers 1 (.ok 200))) = some consumer ∧
      .deadLettered (exampleAlert 0) ∈ consumer.history ∧
      .committed (exampleAlert 1) ∈ consumer.history ∧ CommitsSettled consumer.history := by
  refine ⟨_, rfl, by decide, by decide, ?_⟩
  refine commits_settled_of_keeps exampleCodec "alert-events"
    (List.replicate 10 (exampleAnswers 0 (.ok 500)) ++
      List.replicate 5 (exampleAnswers 1 (.ok 200))) _ (meets_append.mpr ⟨?_, ?_⟩) rfl
  · exact meets_replicate (keeps_exampleAnswers 0 500) 10 _
  · exact fun _ _ => meets_replicate (keeps_exampleAnswers 1 200) 5 _

/-- **A refused connection loses an alert**: the first post raises, its message
is left behind, and the next alert's commit moves the offset past it. -/
theorem commit_skips_unsettled :
    ∃ consumer, runFrom (Consumer.step exampleCodec "alert-events")
        (Consumer.start exampleCodec "alert-events")
        (List.replicate 5 (exampleAnswers 0 (.error (.raised .httpError))) ++
          List.replicate 4 (exampleAnswers 1 (.ok 200))) = some consumer ∧
      ¬ CommitsSettled consumer.history := by
  refine ⟨_, rfl, fun settled => ?_⟩
  rcases settled.1 (exampleAlert 0) (by decide) rfl (by decide) with answered | deadLettered
  · exact absurd answered (by decide)
  · exact absurd deadLettered (by decide)

end PersonTracking.Notification
