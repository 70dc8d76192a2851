import PersonTracking.Gateway.Alerts
import PersonTracking.Notification.Consumer

/-!
# From an alert on Kafka to the dashboards

The consumer's program for one message, run against the gateway: every post it
makes is a request to `/api/v1/alerts/publish` of the gateway application,
every send to a dashboard succeeds or not as the deployment says, dead letters
and commits succeed.  The dashboards may come and go between two posts.

What the run comes to follows from `handle_publish`: the gateway answers no
such request with 200, and under answers other than 200 the consumer commits
only behind a dead letter (`handleMessage_undelivered`).
-/

namespace PersonTracking.Notification

open Library Python Shared Gateway

/-- The two services and what happens around them: the gateway, the key the
consumer sends, how its HTTP client encodes a body (`none` when the client
raises), the correlation ids, and the dashboards open when the k-th post
arrives. -/
structure AlertPath where
  gateway : Deployment
  internalServiceKey : String
  encodeBody : Json → Option (List UInt8)
  requestId : ℕ → String
  dashboards : ℕ → ConnectionManager

/-- What has become of the message so far, newest first. -/
structure PathState where
  outcomes : List Outcome
  dlq : List DlqRecord
  committed : List KafkaMessage

/-- The consumer's POST as the gateway receives it; the client's standing
headers, which nothing at the gateway reads, are left out. -/
def publishRequest (key : String) (body : List UInt8) : Except PyError Request := do
  let wire ← sentHeaders [("X-Internal-Service-Key", .str key),
    ("Content-Length", .str (String.ofList (digits body.length))),
    ("Content-Type", .str "application/json")]
  return { method := "POST", path := "/api/v1/alerts/publish", query := "",
           headers := Headers.receive wire, body, client := none }

/-- The k-th post: encode the body, send it, take the status of the answer. -/
def AlertPath.answerPost (path : AlertPath) (payload : Json) (state : PathState) :
    Except Interrupt ℕ × PathState :=
  match path.encodeBody payload with
  | none => (.error (.raised .valueError), state)
  | some body =>
      match publishRequest path.internalServiceKey body with
      | .error error => (.error (.raised error), state)
      | .ok request =>
          let k := state.outcomes.length
          let outcome := path.gateway.handle (path.dashboards k) (path.requestId k) request
          (.ok outcome.status, { state with outcomes := outcome :: state.outcomes })

/-- What answers the consumer's calls. -/
def AlertPath.handler (path : AlertPath) : Program.Handler Call Reply PathState
  | .keepRunning, state => (true, state)
  | .poll, state => (.ok .nothing, state)
  | .post _ payload, state => path.answerPost payload state
  | .sleep _, state => (false, state)
  | .produceDlq _ letter, state => (.ok (), { state with dlq := letter :: state.dlq })
  | .commit msg, state => (.ok (), { state with committed := msg :: state.committed })

/-- Process one polled message. -/
def AlertPath.process (path : AlertPath) (codec : ByteCodec) (topic : String)
    (msg : KafkaMessage) : PathState :=
  (Program.run path.handler (handleMessage codec topic msg).run
    { outcomes := [], dlq := [], committed := [] }).2

/-- The messages a dashboard received, newest first. -/
def PathState.received (state : PathState) (connection : ℕ) : List Json :=
  state.outcomes.flatMap fun outcome =>
    (outcome.deliveries.filter fun delivery => delivery.1 = connection).map Prod.snd

/-- **The alert got through**: the POST was dispatched to `publish_alert`, every
dashboard open throughout received it exactly once, and its offset was
committed without a dead letter. -/
structure AlertPath.Delivered (path : AlertPath) (msg : KafkaMessage) (alert : AlertPublishRequest)
    (state : PathState) : Prop where
  dispatched : ∃ outcome ∈ state.outcomes, outcome.endpoint = some .publishAlert
  received : ∀ connection, (∀ k, connection ∈ (path.dashboards k).activeConnections) →
    state.received connection = [eventMessage alert]
  committed : msg ∈ state.committed ∧ state.dlq = []

/-! ## Nothing gets through -/

/-- The answers of a gateway that takes no alert; a commit is due only behind a
dead letter.  The ghost phase tells whether one was written. -/
def undelivering : Program.Rules Call Reply Bool where
  allowed written request :=
    match request with
    | .commit _ => written = true
    | _ => True
  admits _ request answer :=
    match request, answer with
    | .post _ _, .ok status => status ≠ 200
    | _, _ => True
  after written request _ :=
    match request with
    | .produceDlq _ _ => true
    | _ => written

theorem forward_undelivered {msg : KafkaMessage} {payload : Json} (attempts : List ℕ)
    {written : Bool} :
    Fallible.wpe undelivering (fun forwarded later => forwarded = false ∧ later = written)
      (fun _ _ => True) (forward msg payload attempts) written := by
  induction attempts with
  | nil => exact ⟨rfl, rfl⟩
  | cons attempt rest ih =>
      rw [forward, Fallible.wpe_bind, post, Fallible.wpe_attempt]
      refine ⟨trivial, fun answer admitted => ?_⟩
      cases answer with
      | error interrupt => exact trivial
      | ok status =>
          show Fallible.wpe _ _ _ (if status = 200 then _ else _) _
          rw [if_neg admitted, Fallible.wpe_bind, sleep, Fallible.wpe_bind, Fallible.wpe_lift]
          refine ⟨trivial, fun cancelled _ => ?_⟩
          cases cancelled with
          | true => exact trivial
          | false => exact ih

theorem deadLetter_undelivered {msg : KafkaMessage} {letter : DlqRecord} {written : Bool} :
    Fallible.wpe undelivering (fun _ _ => True) (fun _ _ => True) (deadLetter msg letter)
      written := by
  rw [deadLetter, Fallible.wpe_bind, produceDlq, Fallible.wpe_bind, Fallible.wpe_lift]
  refine ⟨trivial, fun produced _ => ?_⟩
  cases produced with
  | error error => exact trivial
  | ok _ => exact ⟨rfl, fun committed _ => by cases committed <;> exact trivial⟩

/-- Without a 200 from the gateway the consumer commits only behind a dead letter. -/
theorem handleMessage_undelivered {codec : ByteCodec} {topic : String} {msg : KafkaMessage} :
    Fallible.wpe undelivering (fun _ _ => True) (fun _ _ => True) (handleMessage codec topic msg)
      false := by
  rw [handleMessage]
  split
  · exact deadLetter_undelivered
  · rename_i alertData _
    cases built : gatewayPayload alertData with
    | error error => exact trivial
    | ok payload =>
        show Fallible.wpe _ _ _ (forward msg payload [1, 2, 3] >>= _) false
        rw [Fallible.wpe_bind]
        refine Fallible.wpe_mono (fun forwarded later reached => ?_) (fun _ _ => id)
          (forward_undelivered [1, 2, 3])
        obtain ⟨rfl, rfl⟩ := reached
        exact deadLetter_undelivered

/-- What the run keeps: no post was dispatched to `publish_alert` or delivered
anything, and a commit has a dead letter before it. -/
def Tracks (written : Bool) (state : PathState) : Prop :=
  (∀ outcome ∈ state.outcomes,
    outcome.endpoint ≠ some .publishAlert ∧ outcome.deliveries = []) ∧
  (written = true → state.dlq ≠ []) ∧ (state.committed ≠ [] → state.dlq ≠ [])

theorem handle_publishRequest {key : String} {body : List UInt8} {request : Request}
    (gateway : Deployment) (manager : ConnectionManager) (requestId : String)
    (built : publishRequest key body = .ok request) :
    (gateway.handle manager requestId request).endpoint ≠ some .publishAlert ∧
      (gateway.handle manager requestId request).deliveries = [] ∧
      (gateway.handle manager requestId request).status ≠ 200 := by
  have posted : request.method = "POST" ∧ request.path = "/api/v1/alerts/publish" := by
    rw [publishRequest] at built
    cases sent : sentHeaders [("X-Internal-Service-Key", .str key),
        ("Content-Length", .str (String.ofList (digits body.length))),
        ("Content-Type", .str "application/json")] with
    | error error => rw [sent] at built; cases built
    | ok wire => rw [sent] at built; cases built; exact ⟨rfl, rfl⟩
  rcases handle_publish gateway manager requestId posted.1 posted.2 with refused | proxied
  · rw [refused]
    exact ⟨by simp [Outcome.plain], rfl, by simp [Outcome.plain]⟩
  · rw [proxied]
    exact ⟨by simp [Outcome.plain], rfl, by simp [Outcome.plain]⟩

/-- The gateway answers every call as `undelivering` admits. -/
theorem tracks_handler (path : AlertPath) (written : Bool) (request : Call) (state : PathState)
    (tracked : Tracks written state) (allowed : undelivering.allowed written request) :
    undelivering.admits written request (path.handler request state).1 ∧
      Tracks (undelivering.after written request (path.handler request state).1)
        (path.handler request state).2 := by
  obtain ⟨outcomes, dlqWritten, committed⟩ := tracked
  cases request with
  | keepRunning | poll | sleep seconds => exact ⟨trivial, outcomes, dlqWritten, committed⟩
  | produceDlq msg letter =>
      exact ⟨trivial, outcomes, fun _ => List.cons_ne_nil _ _, fun _ => List.cons_ne_nil _ _⟩
  | commit msg => exact ⟨trivial, outcomes, dlqWritten, fun _ => dlqWritten allowed⟩
  | post msg payload =>
      simp only [AlertPath.handler, AlertPath.answerPost]
      split
      · exact ⟨trivial, outcomes, dlqWritten, committed⟩
      · split
        · exact ⟨trivial, outcomes, dlqWritten, committed⟩
        · rename_i body _ request built
          obtain ⟨elsewhere, silent, refused⟩ := handle_publishRequest path.gateway
            (path.dashboards state.outcomes.length) (path.requestId state.outcomes.length) built
          refine ⟨refused, fun outcome member => ?_, dlqWritten, committed⟩
          rcases List.mem_cons.mp member with rfl | before
          · exact ⟨elsewhere, silent⟩
          · exact outcomes outcome before

/-- Of what the claimed delivery asks, nothing happens: no POST is dispatched to
`publish_alert`, no dashboard receives anything, and the message is never
committed without a dead letter. -/
theorem nothing_gets_through (path : AlertPath) (codec : ByteCodec) (topic : String)
    (msg : KafkaMessage) :
    (∀ outcome ∈ (path.process codec topic msg).outcomes,
        outcome.endpoint ≠ some .publishAlert) ∧
      (∀ connection, (path.process codec topic msg).received connection = []) ∧
      ¬ (msg ∈ (path.process codec topic msg).committed ∧
        (path.process codec topic msg).dlq = []) := by
  have start : Tracks false { outcomes := [], dlq := [], committed := [] } :=
    ⟨fun _ member => absurd member List.not_mem_nil, fun written => Bool.noConfusion written,
      fun committed => absurd rfl committed⟩
  obtain ⟨written, ⟨outcomes, -, committed⟩, -⟩ :=
    Program.run_of_wp (tracks_handler path) start
      (@handleMessage_undelivered codec topic msg)
  refine ⟨fun outcome member => (outcomes outcome member).1, fun connection => ?_, ?_⟩
  · rw [PathState.received, List.flatMap_eq_nil_iff]
    intro outcome member
    rw [(outcomes outcome member).2]
    rfl
  · rintro ⟨member, noLetter⟩
    exact committed (List.ne_nil_of_mem member) noLetter

/-- **No alert gets through**, whatever the alert, the deployment and the keys are. -/
theorem alert_never_delivered (path : AlertPath) (codec : ByteCodec) (topic : String)
    (msg : KafkaMessage) (alert : AlertPublishRequest) :
    ¬ path.Delivered msg alert (path.process codec topic msg) := by
  rintro ⟨⟨outcome, member, published⟩, -, -⟩
  exact (nothing_gets_through path codec topic msg).1 outcome member published

/-! ### A fire alert -/

/-- The bytes of an ASCII text. -/
def asciiBytes (text : String) : List UInt8 := text.toList.map fun c => c.toNat.toUInt8

/-- `{"type": "fire"}`, as the producer writes it. -/
def fireText : List UInt8 := asciiBytes "\x7b\"type\": \"fire\"\x7d"

/-- The body the consumer posts for it. -/
def fireBody : List UInt8 :=
  asciiBytes "\x7b\"alert_type\":\"fire\",\"message\":\x7b\"type\":\"fire\"\x7d\x7d"

/-- A reader of these two texts. -/
def fireCodec : ByteCodec where
  loads bytes :=
    if bytes = fireText then some (.obj [("type", .str "fire")])
    else if bytes = fireBody then
      some (.obj [("alert_type", .str "fire"), ("message", .obj [("type", .str "fire")])])
    else none
  errorText _ := "Expecting value: line 1 column 1 (char 0)"
  decodeReplacing _ := ""

/-- The fire alert as it is polled. -/
def fireMessage : KafkaMessage where
  partition := 0
  offset := 100
  key := none
  value := some fireText

/-- A gateway that is up, shares the consumer's key and has one dashboard open. -/
def firePath : AlertPath where
  gateway :=
    { settings := exampleSettings
      isProd := false
      admission := openAdmission
      loads := fireCodec.loads
      sendSucceeds _ := true
      upstream _ := some 200 }
  internalServiceKey := exampleSettings.internalServiceKey
  encodeBody _ := some fireBody
  requestId _ := "1"
  dashboards _ := { activeConnections := [7] }

/-- **A fire alert ends in the dead-letter topic**: both sides are up and agree
on the key, every send succeeds, and each of the three posts is answered 404 by
the proxy. -/
theorem fire_alert_dead_lettered :
    fireCodec.decode fireMessage.value = .ok (.obj [("type", .str "fire")]) ∧
      firePath.internalServiceKey = firePath.gateway.settings.internalServiceKey ∧
      (∀ connection, firePath.gateway.sendSucceeds connection = true) ∧
      (∀ k, 7 ∈ (firePath.dashboards k).activeConnections) ∧
      (firePath.process fireCodec "alert-events" fireMessage).outcomes.map
        (fun outcome => (outcome.endpoint, outcome.status)) =
          List.replicate 3 (some .proxyRequest, 404) ∧
      (firePath.process fireCodec "alert-events" fireMessage).committed = [fireMessage] ∧
      (firePath.process fireCodec "alert-events" fireMessage).dlq ≠ [] ∧
      ¬ firePath.Delivered fireMessage { alertType := "fire", message := [("type", .str "fire")] }
        (firePath.process fireCodec "alert-events" fireMessage) := by
  refine ⟨rfl, rfl, fun _ => rfl, fun _ => List.mem_cons_self, rfl, rfl,
    List.cons_ne_nil _ _, fun delivered => ?_⟩
  exact (nothing_gets_through firePath fireCodec "alert-events" fireMessage).2.2 delivered.committed

end PersonTracking.Notification
