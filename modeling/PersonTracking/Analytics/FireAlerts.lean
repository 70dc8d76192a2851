import PersonTracking.Analytics.Consumer

/-!
# Fire alerts on their way to Kafka

A fire message is *accounted for* when an alert with its camera and its crop
was accepted by the producer, or when it was moved to the dead-letter topic.
The retry loop and the dead letters are there to ensure this before the offset
is committed, but `send_event` keeps every exception of encoding and queueing to
itself: the transaction of an attempt that lost its alert commits, and the
message counts as processed.

`accounted_of_keeps_alerts` proves that this is the only gap: in every run in
which no transaction commits for a message whose alert was lost, every
committed fire message is accounted for.
-/

namespace PersonTracking.Analytics

open Library Python Shared Domain

/-! ## What is to be kept -/

/-- The detection type is fire or smoke. -/
def IsFire (payload : Json) : Prop :=
  ∃ detection kind, payload.getItem "detection" = .ok detection ∧
    detection.getItem "type" = .ok (.str kind) ∧ (kind = "fire" ∨ kind = "smoke")

/-- A message whose JSON says so. -/
def FireMessage (codec : ByteCodec) (msg : KafkaMessage) : Prop :=
  ∃ payload, codec.decode msg.value = .ok payload ∧ IsFire payload

/-- An alert names the camera and the crop of a detection. -/
def Carries (event : Json) (detection : Detection) : Prop :=
  event.getItem "camera_id" = .ok (.str detection.cameraId.toText) ∧
    event.getItem "crop_path" = .ok detection.cropPath

/-- The producer has accepted an alert of a message. -/
def Alerted (codec : ByteCodec) (history : List Event) (msg : KafkaMessage) : Prop :=
  ∃ payload detection event, codec.decode msg.value = .ok payload ∧
    readEvent payload = .ok detection ∧ Carries event detection ∧
    .alertAccepted msg alertTopic event ∈ history

/-- Encoding or queueing an alert of a message has raised, and none was accepted. -/
def Lost (codec : ByteCodec) (history : List Event) (msg : KafkaMessage) : Prop :=
  .alertFailed msg ∈ history ∧ ¬ Alerted codec history msg

/-- Alerted, or moved to the dead-letter topic. -/
def AccountedFor (codec : ByteCodec) (history : List Event) (msg : KafkaMessage) : Prop :=
  Alerted codec history msg ∨ .deadLettered msg ∈ history

/-- Every fire message was accounted for when its offset was committed. -/
def CommitsAccounted (codec : ByteCodec) : List Event → Prop
  | [] => True
  | .committed msg :: earlier =>
      (FireMessage codec msg → AccountedFor codec earlier msg) ∧ CommitsAccounted codec earlier
  | _ :: earlier => CommitsAccounted codec earlier

/-- No transaction commits for a message whose alert is lost. -/
def KeepsAlerts (config : ConsumerConfig) (topic : Topic) (engine : Engine)
    (loop : Loop LoopCall LoopReply Outside) : Move Moment → Prop
  | .stop => True
  | .answer moment =>
      match loop.residual with
      | .call (.process msg .commit) _ =>
          (Outside.handler topic engine moment (.process msg .commit) loop.outside).1 = .ok () →
            ¬ Lost config.codec loop.outside.history msg
      | _ => True

/-! ## One message -/

/-- The calculus: an offset is committed for accounted messages, and no
transaction commits for a lost alert.  The phase is the history. -/
def accounting (codec : ByteCodec) : Program.Rules LoopCall LoopReply (List Event) where
  allowed history request :=
    match request with
    | .commitOffset msg => FireMessage codec msg → AccountedFor codec history msg
    | _ => True
  admits history request answer :=
    match request, answer with
    | .process msg .commit, .ok () => ¬ Lost codec history msg
    | _, _ => True
  after history request answer := record request answer history

/-- What a fire message is read as. -/
theorem kind_of_isFire {payload : Json} {detection : Detection} (fire : IsFire payload)
    (read : readEvent payload = .ok detection) : detection.kind = .fire := by
  obtain ⟨inner, kind, found, typed, isFire⟩ := fire
  obtain ⟨inner', found', typed'⟩ := objectType_of_readEvent read
  rw [found, Except.ok.injEq] at found'
  subst found'
  rw [typed, Except.ok.injEq] at typed'
  rw [Detection.kind, ← typed']
  exact if_pos isFire

theorem carries_alertPayload (alertId : Uuid) (detection : Detection) (description : String) :
    Carries (alertPayload alertId detection description) detection := ⟨rfl, rfl⟩

section Specifications

variable {codec : ByteCodec} {msg : KafkaMessage} {payload : Json} {detection : Detection}
  {history : List Event}

/-- The calculus for the calls of the callback. -/
abbrev inCallback (codec : ByteCodec) (msg : KafkaMessage) :
    Program.Rules Call Reply (List Event) := (accounting codec).within (LoopCall.process msg)

/-- The alert of this message was sent, or it is known to have failed. -/
def Reported (codec : ByteCodec) (msg : KafkaMessage) (history : List Event) : Prop :=
  Alerted codec history msg ∨ .alertFailed msg ∈ history

theorem Reported.failed : Reported codec msg (.alertFailed msg :: history) :=
  Or.inr List.mem_cons_self

/-- `send_event` returns in any case, and the alert is accepted or has failed. -/
theorem sendEvent_spec {key : String} {event : Json}
    (decoded : codec.decode msg.value = .ok payload) (read : readEvent payload = .ok detection)
    (carries : Carries event detection) :
    Fallible.wpe (inCallback codec msg) (fun _ => Reported codec msg) (fun _ _ => True)
      (sendEvent alertTopic key event) history := by
  have accepted : Reported codec msg (.alertAccepted msg alertTopic event :: history) :=
    Or.inl ⟨payload, detection, event, decoded, read, carries, List.mem_cons_self⟩
  rw [sendEvent, Fallible.wpe_tryCatch, Fallible.wpe_bind, Fallible.wpe_attempt]
  refine ⟨trivial, fun dumped _ => ?_⟩
  cases dumped with
  | error error => exact Reported.failed
  | ok value =>
      show Fallible.wpe _ _ _ (Fallible.attempt _ >>= _) history
      rw [Fallible.wpe_bind, Fallible.wpe_attempt]
      refine ⟨trivial, fun produced _ => ?_⟩
      cases produced with
      | error error => exact Reported.failed
      | ok value =>
          -- the queue has it, whatever the poll after it does
          show Fallible.wpe _ _ _ (Fallible.attempt _)
            (.alertAccepted msg alertTopic event :: history)
          rw [Fallible.wpe_attempt]
          refine ⟨trivial, fun polled _ => ?_⟩
          cases polled with
          | error error => exact accepted
          | ok value => exact accepted

theorem handleFireDetection_spec (decoded : codec.decode msg.value = .ok payload)
    (read : readEvent payload = .ok detection) :
    Fallible.wpe (inCallback codec msg) (fun _ => Reported codec msg) (fun _ _ => True)
      (handleFireDetection detection) history := by
  rw [handleFireDetection, Fallible.wpe_bind, Fallible.wpe_lift]
  refine ⟨trivial, fun alertId _ => ?_⟩
  rw [Program.wp_done, Fallible.wpe_bind]
  cases detection.confidence.fixed2 with
  | error error => exact trivial
  | ok confidence => exact sendEvent_spec decoded read (carries_alertPayload alertId detection _)

/-- Executing a fire event reports its alert; executing any other event says nothing. -/
theorem execute_spec (decoded : codec.decode msg.value = .ok payload) :
    Fallible.wpe (inCallback codec msg)
      (fun _ history => IsFire payload → Reported codec msg history) (fun _ _ => True)
      (execute payload) history := by
  by_cases fire : IsFire payload
  · rw [execute, Fallible.wpe_bind]
    cases read : readEvent payload with
    | error error => exact trivial
    | ok detection =>
        show Fallible.wpe _ _ _ (handleDetection detection) history
        rw [handleDetection, kind_of_isFire fire read]
        exact Fallible.wpe_mono (fun _ _ reported _ => reported) (fun _ _ => id)
          (handleFireDetection_spec decoded read)
  · refine Program.wp_of_allowed (fun _ _ => trivial) (fun result _ => ?_) _ _
    cases result with
    | error error => exact trivial
    | ok value => exact fun isFire => absurd isFire fire

/-- **A committed transaction has sent its alert**, where no transaction commits
for a lost one. -/
theorem processMessageCallback_spec (decoded : codec.decode msg.value = .ok payload) :
    Fallible.wpe (inCallback codec msg)
      (fun _ history => IsFire payload → Alerted codec history msg) (fun _ _ => True)
      (processMessageCallback payload) history := by
  rw [processMessageCallback, Fallible.wpe_bind, Fallible.wpe_lift]
  refine ⟨trivial, fun _ _ => ?_⟩
  rw [Program.wp_done, Fallible.wpe_tryCatch, executeAndCommit, Fallible.wpe_bind]
  have rescued : ∀ error later, Fallible.wpe (inCallback codec msg)
      (fun _ history => IsFire payload → Alerted codec history msg) (fun _ _ => True)
      (do
        Fallible.attempt (ask .rollback)
        throw error : Service Unit) later := by
    intro error later
    exact Fallible.wpe_rethrow ⟨trivial, fun _ _ _ => trivial⟩
  refine Fallible.wpe_mono (fun _ later reported => ?_) (fun error later _ => rescued error later)
    (execute_spec decoded)
  rw [Fallible.wpe_attempt]
  refine ⟨trivial, fun committed notLost => ?_⟩
  cases committed with
  | error error => exact rescued error later
  | ok value =>
      intro fire
      by_contra missing
      exact notLost ⟨(reported fire).resolve_left missing, missing⟩

/-! ## The loop -/

variable {config : ConsumerConfig}

open KafkaEventConsumer

theorem commitOffset_spec {post : Unit → List Event → Prop}
    (accounted : FireMessage codec msg → AccountedFor codec history msg)
    (reached : post () (.committed msg :: history)) :
    Fallible.wpe (accounting codec) post (fun _ _ => True) (commitOffset msg) history := by
  rw [commitOffset, Fallible.wpe_attempt]
  refine ⟨accounted, fun answer _ => ?_⟩
  cases answer with
  | error error => exact trivial
  | ok value => exact reached

theorem deadLetter_spec {error : String} :
    Fallible.wpe (accounting config.codec) (fun _ _ => True) (fun _ _ => True)
      (deadLetter config msg error) history := by
  rw [deadLetter, Fallible.wpe_bind, Fallible.wpe_attempt]
  refine ⟨trivial, fun produced _ => ?_⟩
  cases produced with
  | error error => exact trivial
  | ok value => exact commitOffset_spec (fun _ => Or.inr List.mem_cons_self) trivial

theorem attempt_spec (decoded : codec.decode msg.value = .ok payload) :
    Fallible.wpe (accounting codec)
      (fun raised history => raised = none → IsFire payload → Alerted codec history msg)
      (fun _ _ => True) (attempt msg payload) history := by
  rw [attempt, Fallible.wpe_tryCatch, Fallible.wpe_bind, Fallible.wpe_relabel]
  refine Fallible.wpe_mono (fun _ later alerted => ?_) (fun error later _ => ?_)
    (processMessageCallback_spec decoded)
  · exact fun _ => alerted
  · exact fun returned => by cases returned

/-- A message that counts as processed was alerted if it is a fire. -/
theorem attempts_spec (decoded : codec.decode msg.value = .ok payload) (numbers : List ℕ)
    (lastError : Option PyError) :
    Fallible.wpe (accounting codec)
      (fun processing history =>
        processing = .processed → IsFire payload → Alerted codec history msg)
      (fun _ _ => True) (attempts msg payload numbers lastError) history := by
  induction numbers generalizing history lastError with
  | nil => exact fun processed => by cases processed
  | cons n rest ih =>
      rw [attempts, Fallible.wpe_bind]
      refine Fallible.wpe_mono (fun raised later alerted => ?_) (fun _ _ => id)
        (attempt_spec decoded)
      cases raised with
      | none => exact fun _ => alerted rfl
      | some error =>
          show Fallible.wpe _ _ _ (Fallible.lift _ >>= _) later
          rw [Fallible.wpe_bind, Fallible.wpe_lift]
          exact ⟨trivial, fun _ _ => ih (some error)⟩

theorem handleMessage_spec :
    Fallible.wpe (accounting config.codec) (fun _ _ => True) (fun _ _ => True)
      (handleMessage config msg) history := by
  rw [handleMessage]
  split
  · exact deadLetter_spec
  · rename_i payload decoded
    rw [Fallible.wpe_bind]
    refine Fallible.wpe_mono (fun processing later alerted => ?_) (fun _ _ => id)
      (attempts_spec decoded _ none)
    cases processing with
    | failed lastError => exact deadLetter_spec
    | processed =>
        refine commitOffset_spec (fun fire => ?_) trivial
        obtain ⟨other, same, isFire⟩ := fire
        rw [decoded, Except.ok.injEq] at same
        exact Or.inl (alerted rfl (same ▸ isFire))

/-- One turn keeps to the calculus, whatever came before. -/
theorem turn_spec :
    Program.wp (accounting config.codec) (fun goesOn _ => goesOn = true → True) (turn config)
      history := by
  rw [turn, Program.wp_bind]
  refine ⟨trivial, fun keepRunning _ => ?_⟩
  cases keepRunning with
  | false => exact fun _ => trivial
  | true =>
      rw [Program.wp_done, if_pos rfl, Program.wp_bind]
      have listens : Fallible.wpe (accounting config.codec) (fun _ _ => True) (fun _ _ => True)
          (listen config) history := by
        rw [KafkaEventConsumer.listen, Fallible.wpe_bind, Fallible.wpe_attempt]
        refine ⟨trivial, fun polled _ => ?_⟩
        match polled with
        | .error error => exact trivial
        | .ok .nothing | .ok .partitionEof | .ok .failed => exact trivial
        | .ok (.message msg) =>
            show Fallible.wpe _ _ _ (handleMessage config msg >>= _) history
            rw [Fallible.wpe_bind]
            exact handleMessage_spec
      refine Program.wp_mono (fun outcome later _ => ?_) listens
      cases outcome with
      | error error => exact fun _ => trivial
      | ok goesOn => exact fun _ => trivial

end Specifications

/-! ## Runs -/

section Runs

variable {config : ConsumerConfig} {topic : Topic} {engine : Engine}

/-- An answered call keeps past commits accounted for. -/
theorem commitsAccounted_record {codec : ByteCodec} {request : LoopCall}
    {answer : LoopReply request} {history : List Event}
    (allowed : (accounting codec).allowed history request)
    (accounted : CommitsAccounted codec history) :
    CommitsAccounted codec (record request answer history) := by
  unfold record
  split
  · exact accounted
  · exact accounted
  · exact accounted
  · exact accounted
  · exact ⟨allowed, accounted⟩
  · exact accounted

/-- The condition on a move admits the answer it gives. -/
theorem admits_of_keepsAlerts {outside : Outside} {request : LoopCall}
    {next : LoopReply request → Program LoopCall LoopReply Bool} {moment : Moment}
    (kept : KeepsAlerts config topic engine ⟨outside, .call request next⟩ (.answer moment)) :
    (accounting config.codec).admits outside.history request
      (Outside.handler topic engine moment request outside).1 := by
  match request with
  | .process msg .commit =>
      have due : (Outside.handler topic engine moment (.process msg .commit) outside).1 = .ok () →
          ¬ Lost config.codec outside.history msg := kept
      revert due
      generalize (Outside.handler topic engine moment (.process msg .commit) outside).1 = answer
      intro due
      match answer with
      | .error error => exact trivial
      | .ok () => exact due rfl
  | .keepRunning | .poll | .sleep _ | .produceDlq _ _ | .commitOffset _ => exact trivial
  | .process _ .openSession | .process _ (.qdrant _) | .process _ .uuid4
  | .process _ (.selectPerson _ _) | .process _ (.addPerson _) | .process _ (.updatePerson _)
  | .process _ (.addTrackingEvent _) | .process _ (.dumps _) | .process _ (.produce _ _ _)
  | .process _ .pollProducer | .process _ .rollback => exact trivial

/-- **No fire alert is lost unseen.**  In every run of the consumer, with any
stops, in which no transaction commits for a message whose alert is lost, every
fire message was alerted or dead-lettered when its offset was committed. -/
theorem accounted_of_keeps_alerts (config : ConsumerConfig) (topic : Topic) (engine : Engine)
    (world : World) (committed : ℕ → ℕ) (moves : List (Move Moment))
    (loop : Loop LoopCall LoopReply Outside)
    (keeps : Meets (KeepsAlerts config topic engine) (consumer config topic engine).step
      ((consumer config topic engine).start (Outside.start world committed)) moves)
    (reached : runFrom (consumer config topic engine).step
      ((consumer config topic engine).start (Outside.start world committed)) moves = some loop) :
    CommitsAccounted config.codec loop.outside.history := by
  have tracked := @Machine.tracked LoopCall LoopReply Outside Moment (List Event)
    (consumer config topic engine) (accounting config.codec)
    (fun history outside => outside.history = history ∧ CommitsAccounted config.codec history)
    (fun _ => True) (KeepsAlerts config topic engine) ?_ (fun _ _ => turn_spec) ?_
    (Outside.start world committed) [] trivial ⟨rfl, trivial⟩ moves loop keeps reached
  · obtain ⟨history, ⟨same, accounted⟩, -⟩ := tracked
    exact same ▸ accounted
  · rintro history request next outside moment ⟨rfl, accounted⟩ allowed kept
    exact ⟨admits_of_keepsAlerts kept, rfl, commitsAccounted_record allowed accounted⟩
  · rintro history outside ⟨rfl, accounted⟩
    exact ⟨outside.history, trivial, rfl, accounted⟩

end Runs

/-! ### A swallowed alert -/

/-- A fire in front of camera 1. -/
def exampleFire : Json :=
  .obj [("camera_id", .str "00000000-0000-0000-0000-000000000001"),
    ("timestamp", .str "2024-01-15T10:20:30+00:00"),
    ("detection", .obj [("type", .str "fire"), ("confidence", .float (.finite false 9 (-1))),
      ("crop_path", .str "crops/1.jpg"),
      ("bbox", .obj [("left", .int 0), ("top", .int 0), ("width", .int 10), ("height", .int 20)])])]

/-- A consumer of one message that reports it. -/
def fireConsumer : Machine LoopCall LoopReply Outside Moment :=
  consumer (.spelling exampleFire) (.single spelledMessage) Engine.silent

theorem fireMessage_spelledMessage :
    FireMessage (ConsumerConfig.spelling exampleFire).codec spelledMessage :=
  ⟨exampleFire, rfl, _, "fire", rfl, rfl, Or.inl rfl⟩

/-- `produce` and the commit raise, and the second attempt succeeds. -/
def fireRetried : List (Move Moment) :=
  List.replicate 5 (dueCall false) ++ List.replicate 2 (dueCall true) ++
    List.replicate 9 (dueCall false)

theorem accounted_fire :
    ∃ loop, runFrom fireConsumer.step (fireConsumer.start (Outside.start World.empty fun _ => 0))
        fireRetried = some loop ∧
      .committed spelledMessage ∈ loop.outside.history ∧
      .alertFailed spelledMessage ∈ loop.outside.history ∧
      CommitsAccounted (ConsumerConfig.spelling exampleFire).codec loop.outside.history := by
  refine ⟨_, rfl, List.mem_cons_self, List.mem_cons_of_mem _ (List.mem_cons_of_mem _
    List.mem_cons_self), accounted_of_keeps_alerts (.spelling exampleFire)
    (.single spelledMessage) Engine.silent World.empty (fun _ => 0) fireRetried _ ?_ rfl⟩
  iterate 6 refine meets_cons_of_step trivial rfl ?_
  -- the commit that is due raises
  refine meets_cons_of_step (fun committed => by cases committed) rfl ?_
  iterate 7 refine meets_cons_of_step trivial rfl ?_
  refine meets_cons_of_step (fun _ lost => lost.2 ?_) rfl (meets_cons_of_step trivial rfl trivial)
  exact ⟨exampleFire, _, _, rfl, rfl, ⟨rfl, rfl⟩, List.mem_cons_self⟩

/-- **A full queue loses an alert**: `produce` raises, `send_event` returns, the
transaction commits, and so does the offset. -/
theorem fire_alert_swallowed :
    ∃ loop, runFrom fireConsumer.step (fireConsumer.start (Outside.start World.empty fun _ => 0))
        (List.replicate 5 (dueCall false) ++ dueCall true :: List.replicate 2 (dueCall false)) =
          some loop ∧
      ¬ CommitsAccounted (ConsumerConfig.spelling exampleFire).codec loop.outside.history := by
  have ran : (runFrom fireConsumer.step
      (fireConsumer.start (Outside.start World.empty fun _ => 0))
      (List.replicate 5 (dueCall false) ++ dueCall true :: List.replicate 2 (dueCall false))).map
        (fun loop => loop.outside.history) =
      some [.committed spelledMessage, .alertFailed spelledMessage] := rfl
  obtain ⟨loop, reached, history⟩ := Option.map_eq_some_iff.mp ran
  refine ⟨loop, reached, fun accounted => ?_⟩
  rw [history] at accounted
  rcases accounted.1 fireMessage_spelledMessage with ⟨_, _, event, -, -, -, accepted⟩ | deadLettered
  · cases List.mem_singleton.mp accepted
  · cases List.mem_singleton.mp deadLettered

end PersonTracking.Analytics
