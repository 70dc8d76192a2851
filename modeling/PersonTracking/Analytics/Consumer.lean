import PersonTracking.Analytics.Stores
import PersonTracking.Library.Loop
import PersonTracking.Shared.Kafka

/-!
# The analytics consumer

`KafkaEventConsumer.start_listening` with the transaction callback in it, as a
machine: one `turn` polls, decodes, attempts the message until an attempt
returns, and commits its offset, directly or after a dead letter.

The consumer may stop between any two calls, whether it crashes, is cancelled
or leaves its loop.  It then starts again at the committed offsets, with a new
vector-store client and without the session it had.

Beside the stores, the `Outside` keeps a history of what happened to messages
and a ledger of what their transactions did to the tables.
-/

namespace PersonTracking.Analytics

open Library Python Shared Domain

/-- What the consumer is configured with; `errorText` is `str(e)` of an exception. -/
structure ConsumerConfig where
  codec : ByteCodec
  topic : String
  maxAttempts : ℕ
  errorText : PyError → String

/-- The calls of the loop.  Those of the callback, and `produceDlq`, name the
message they are made for. -/
inductive LoopCall
  | keepRunning
  | poll
  | process (msg : KafkaMessage) (request : Call)
  | sleep (seconds : ℕ)
  | produceDlq (msg : KafkaMessage) (record : DlqRecord)
  | commitOffset (msg : KafkaMessage)

/-- Their answers; `produceDlq` is `produce` and `flush`. -/
abbrev LoopReply : LoopCall → Type
  | .keepRunning => Bool
  | .poll => Except PyError Poll
  | .process _ request => Reply request
  | .sleep _ => Unit
  | .produceDlq _ _ => Except PyError Unit
  | .commitOffset _ => Except PyError Unit

/-- A part of the loop that may leave it by an exception. -/
abbrev Listening (α : Type) : Type := Fallible LoopCall LoopReply PyError α

namespace KafkaEventConsumer

/-- Make a call of the loop. -/
def ask (request : LoopCall) : Program LoopCall LoopReply (LoopReply request) :=
  Program.perform request

/-- `await process_callback(payload)`; the value is what it raised. -/
def attempt (msg : KafkaMessage) (payload : Json) : Listening (Option PyError) :=
  tryCatch
    (do
      Fallible.relabel (LoopCall.process msg) (processMessageCallback payload)
      pure none)
    fun error => pure (some error)

/-- How the attempts end: `processed` with the last error. -/
inductive Processing
  | processed
  | failed (lastError : Option PyError)

/-- The attempts: stop at the first that returns, wait longer after each other. -/
def attempts (msg : KafkaMessage) (payload : Json) :
    List ℕ → Option PyError → Listening Processing
  | [], lastError => pure (.failed lastError)
  | n :: rest, _ => do
      match ← attempt msg payload with
      | none => pure .processed
      | some error => do
          Fallible.lift (ask (.sleep (min (2 ^ n) 10)))
          attempts msg payload rest (some error)

/-- `str(last_error or RuntimeError("Unknown processing failure"))`. -/
def describe (config : ConsumerConfig) : Option PyError → String
  | some error => config.errorText error
  | none => "Unknown processing failure"

def commitOffset (msg : KafkaMessage) : Listening Unit :=
  Fallible.attempt (ask (.commitOffset msg))

/-- `_send_to_dlq` and the commit after it. -/
def deadLetter (config : ConsumerConfig) (msg : KafkaMessage) (error : String) :
    Listening Unit := do
  Fallible.attempt (ask (.produceDlq msg (rawDlqRecord config.codec config.topic msg error)))
  commitOffset msg

/-- What follows the attempts. -/
def conclude (config : ConsumerConfig) (msg : KafkaMessage) : Processing → Listening Unit
  | .processed => commitOffset msg
  | .failed lastError => deadLetter config msg (describe config lastError)

/-- What the loop does with a polled message. -/
def handleMessage (config : ConsumerConfig) (msg : KafkaMessage) : Listening Unit :=
  match config.codec.decode msg.value with
  | .error error => deadLetter config msg error
  | .ok payload => do
      let processing ← attempts msg payload ((List.range config.maxAttempts).map (· + 1)) none
      conclude config msg processing

/-- The body of the loop; the value is `false` where the source breaks. -/
def listen (config : ConsumerConfig) : Listening Bool := do
  let polled : Poll ← Fallible.attempt (ask .poll)
  match polled with
  | .nothing | .partitionEof => pure true
  | .failed => pure false
  | .message msg => do
      handleMessage config msg
      pure true

/-- One turn of the loop.  An exception ends the consumer like a break does. -/
def turn (config : ConsumerConfig) : Program LoopCall LoopReply Bool := do
  let keepRunning : Bool ← ask .keepRunning
  if keepRunning then
    match ← (listen config).run with
    | .ok goesOn => pure goesOn
    | .error _ => pure false
  else pure false

end KafkaEventConsumer

/-! ## The outside -/

/-- What happened to messages. -/
inductive Event
  | alertAccepted (msg : KafkaMessage) (topic : String) (event : Json)
  | alertFailed (msg : KafkaMessage)
  | deadLettered (msg : KafkaMessage)
  | committed (msg : KafkaMessage)

/-- What an answered call adds, newest first.  A commit of an offset counts even
when it raises: the broker may have made it all the same. -/
def record : (request : LoopCall) → LoopReply request → List Event → List Event
  | .process msg (.dumps _), .error _, history => .alertFailed msg :: history
  | .process msg (.produce topic _ event), .ok (), history =>
      .alertAccepted msg topic event :: history
  | .process msg (.produce _ _ _), .error _, history => .alertFailed msg :: history
  | .produceDlq msg _, .ok (), history => .deadLettered msg :: history
  | .commitOffset msg, _, history => .committed msg :: history
  | _, _, history => history

/-- The times a person was seen, by its row. -/
def Database.appearances (db : Database) (id : Uuid) : ℕ :=
  match db.persons id with
  | some person => person.totalAppearances
  | none => 0

/-- The tracking rows among the writes of a session. -/
def rowsAdded : List Write → ℕ
  | [] => 0
  | .insertEvent _ :: rest => rowsAdded rest + 1
  | _ :: rest => rowsAdded rest

/-- By how much a write raises `total_appearances`. -/
def Database.raisedBy (db : Database) : Write → ℕ
  | .insertPerson person | .updatePerson person =>
      person.totalAppearances - db.appearances person.id
  | .insertEvent _ => 0

/-- By how much the writes of a session raise `total_appearances` in total. -/
def Database.raisedByAll (db : Database) : List Write → ℕ
  | [] => 0
  | write :: rest =>
      db.raisedBy write + match db.send write with
        | some next => next.raisedByAll rest
        | none => 0

/-- The books about messages: the tracking rows and the appearances their
transactions have added, the message whose transaction is committed and whose
offset is not, how often a stop hit a message in that state, and how often the
commit of a message was carried out and raised all the same. -/
structure Ledger where
  rows : KafkaMessage → ℕ
  raised : KafkaMessage → ℕ
  pending : Option KafkaMessage
  interrupted : KafkaMessage → ℕ
  unheard : KafkaMessage → ℕ

/-- Empty books. -/
def Ledger.empty : Ledger where
  rows _ := 0
  raised _ := 0
  pending := none
  interrupted _ := 0
  unheard _ := 0

/-- A transaction of a message booked. -/
def Ledger.transact (ledger : Ledger) (msg : KafkaMessage) (db : Database)
    (session : List Write) : Ledger where
  rows := Function.update ledger.rows msg (ledger.rows msg + rowsAdded session)
  raised := Function.update ledger.raised msg (ledger.raised msg + db.raisedByAll session)
  pending := some msg
  interrupted := ledger.interrupted
  unheard := ledger.unheard

/-- A transaction of a message booked of which the consumer does not hear. -/
def Ledger.transactUnheard (ledger : Ledger) (msg : KafkaMessage) (db : Database)
    (session : List Write) : Ledger where
  rows := Function.update ledger.rows msg (ledger.rows msg + rowsAdded session)
  raised := Function.update ledger.raised msg (ledger.raised msg + db.raisedByAll session)
  pending := ledger.pending
  interrupted := ledger.interrupted
  unheard := Function.update ledger.unheard msg (ledger.unheard msg + 1)

/-- A stop booked. -/
def Ledger.stop (ledger : Ledger) : Ledger :=
  match ledger.pending with
  | none => ledger
  | some msg =>
      { ledger with
        pending := none
        interrupted := Function.update ledger.interrupted msg (ledger.interrupted msg + 1) }

/-- The messages of a topic by partition and offset. -/
structure Topic where
  message : ℕ → ℕ → Option KafkaMessage
  located : ∀ partition offset msg, message partition offset = some msg →
    msg.partition = partition ∧ msg.offset = offset

/-- What the consumer runs against: the stores, its offsets, history and ledger. -/
structure Outside where
  world : World
  position : ℕ → ℕ
  committed : ℕ → ℕ
  history : List Event
  ledger : Ledger

/-- What `poll` is answered with. -/
inductive PollAnswer
  | raised
  | nothing
  | partitionEof
  | failed
  | next (partition : ℕ)
deriving DecidableEq, Repr

/-- A moment: whether the consumer is still to run, what it polls, whether the call
that is due raises, and whether it is carried out all the same. -/
structure Moment where
  running : Bool
  polled : PollAnswer
  raises : Bool
  applied : Bool
deriving DecidableEq, Repr

/-- How the call of the callback that is due fails. -/
def Moment.faults (moment : Moment) : Program.Faults Call where
  raises _ := moment.raises
  applied _ := moment.applied

namespace Outside

/-- The next message of a partition. -/
def poll (topic : Topic) (outside : Outside) (partition : ℕ) : Poll × Outside :=
  match topic.message partition (outside.position partition) with
  | none => (.nothing, outside)
  | some msg =>
      (.message msg, { outside with
        position := Function.update outside.position partition (outside.position partition + 1) })

/-- A commit that is due raises, and is carried out all the same. -/
def CommitsUnheard (outside : Outside) (moment : Moment) : Prop :=
  moment.raises = true ∧ moment.applied = true ∧
    (outside.world.database.sendAll outside.world.session).isSome = true

instance (outside : Outside) (moment : Moment) : Decidable (outside.CommitsUnheard moment) :=
  inferInstanceAs (Decidable (_ ∧ _))

/-- The ledger after a call of the callback: an SQL commit that is carried out is
booked, heard of or not. -/
def book (outside : Outside) (moment : Moment) (msg : KafkaMessage) :
    (request : Call) → Reply request → Ledger
  | .commit, .ok () =>
      outside.ledger.transact msg outside.world.database outside.world.session
  | .commit, .error _ =>
      if outside.CommitsUnheard moment then
        outside.ledger.transactUnheard msg outside.world.database outside.world.session
      else outside.ledger
  | _, _ => outside.ledger

/-- What the calls do at a moment. -/
def respond (topic : Topic) (engine : Engine) (moment : Moment) :
    Program.Handler LoopCall LoopReply Outside
  | .keepRunning, outside => (moment.running, outside)
  | .poll, outside =>
      match moment.polled with
      | .raised => (.error .kafkaError, outside)
      | .nothing => (.ok .nothing, outside)
      | .partitionEof => (.ok .partitionEof, outside)
      | .failed => (.ok .failed, outside)
      | .next partition =>
          (.ok (outside.poll topic partition).1, (outside.poll topic partition).2)
  | .process msg request, outside =>
      let outcome := World.handler moment.faults engine request outside.world
      (outcome.1, { outside with
        world := outcome.2
        ledger := outside.book moment msg request outcome.1 })
  | .sleep _, outside => ((), outside)
  | .produceDlq _ _, outside =>
      (if moment.raises then .error .kafkaError else .ok (), outside)
  | .commitOffset msg, outside =>
      if moment.raises then (.error .kafkaError, outside)
      else (.ok (), { outside with
        committed := Function.update outside.committed msg.partition (msg.offset + 1)
        ledger := { outside.ledger with pending := none } })

/-- …with the history written. -/
def handler (topic : Topic) (engine : Engine) (moment : Moment) :
    Program.Handler LoopCall LoopReply Outside :=
  fun request outside =>
    ((respond topic engine moment request outside).1,
      { (respond topic engine moment request outside).2 with
        history := record request (respond topic engine moment request outside).1
          outside.history })

/-- After a stop: a new client of the vector store, no session, and the offsets
the broker knows. -/
def restart (outside : Outside) : Outside where
  world := { outside.world.cleared with
    qdrant := { outside.world.qdrant with checked := false } }
  position := outside.committed
  committed := outside.committed
  history := outside.history
  ledger := outside.ledger.stop

/-- A consumer before its first message, at the offsets its group has committed. -/
def start (world : World) (committed : ℕ → ℕ) : Outside where
  world := world
  position := committed
  committed := committed
  history := []
  ledger := .empty

end Outside

/-! ## The books are right -/

namespace Database

variable {db after : Database}

/-- A write adds the tracking rows counted for it, and raises the appearances of
nobody by more than is counted. -/
theorem counted_send {write : Write} (sent : db.send write = some after) :
    after.events.length = db.events.length + rowsAdded [write] ∧
      ∀ id, after.appearances id ≤ db.appearances id + db.raisedBy write := by
  have put : ∀ person id, (db.putPerson person).appearances id ≤
      db.appearances id + (person.totalAppearances - db.appearances person.id) := by
    intro person id
    by_cases here : id = person.id
    · subst here
      have row : (db.putPerson person).appearances person.id = person.totalAppearances := by
        rw [appearances, putPerson]
        simp
      omega
    · have row : (db.putPerson person).appearances id = db.appearances id := by
        rw [appearances, appearances, putPerson]
        simp [here]
      omega
  cases write with
  | insertPerson person =>
      simp only [send] at sent
      split at sent
      · cases sent
      · cases sent
        exact ⟨rfl, put person⟩
  | updatePerson person =>
      simp only [send] at sent
      split at sent
      · cases sent
        exact ⟨rfl, put person⟩
      · cases sent
  | insertEvent event =>
      simp only [send] at sent
      split at sent
      · split at sent
        · cases sent
        · cases sent
          exact ⟨List.length_append, fun id => le_refl _⟩
      · cases sent

theorem rowsAdded_cons (write : Write) (rest : List Write) :
    rowsAdded (write :: rest) = rowsAdded [write] + rowsAdded rest := by
  cases write <;> simp only [rowsAdded] <;> omega

/-- …and so does a session. -/
theorem counted_sendAll {session : List Write} (sent : db.sendAll session = some after) :
    after.events.length = db.events.length + rowsAdded session ∧
      ∀ id, after.appearances id ≤ db.appearances id + db.raisedByAll session := by
  induction session generalizing db with
  | nil =>
      cases sent
      exact ⟨rfl, fun id => le_refl _⟩
  | cons write rest ih =>
      obtain ⟨next, first, later⟩ := Option.bind_eq_some_iff.mp (sendAll_cons ▸ sent)
      obtain ⟨rows, raised⟩ := counted_send first
      obtain ⟨rowsRest, raisedRest⟩ := ih later
      refine ⟨?_, fun id => ?_⟩
      · rw [rowsRest, rows, rowsAdded_cons write rest]
        omega
      · have one := raised id
        have others := raisedRest id
        have total : db.raisedByAll (write :: rest) =
            db.raisedBy write + next.raisedByAll rest := by
          rw [raisedByAll, first]
        omega

end Database

/-- **The books are right**: a call of the callback adds as many rows to the
table as to the ledger, and raises the appearances of nobody by more. -/
theorem Outside.process_booked (topic : Topic) (engine : Engine) (moment : Moment)
    (outside : Outside) (msg : KafkaMessage) (request : Call) :
    let after := (outside.respond topic engine moment (.process msg request)).2
    after.world.database.events.length + outside.ledger.rows msg =
        outside.world.database.events.length + after.ledger.rows msg ∧
      ∀ id, after.world.database.appearances id + outside.ledger.raised msg ≤
        outside.world.database.appearances id + after.ledger.raised msg := by
  intro after
  have unbooked : after.world.database = outside.world.database → after.ledger = outside.ledger →
      after.world.database.events.length + outside.ledger.rows msg =
          outside.world.database.events.length + after.ledger.rows msg ∧
        ∀ id, after.world.database.appearances id + outside.ledger.raised msg ≤
          outside.world.database.appearances id + after.ledger.raised msg := by
    intro database ledger
    rw [database, ledger]
    exact ⟨rfl, fun id => le_refl _⟩
  have booked : ∀ {database : Database},
      outside.world.database.sendAll outside.world.session = some database →
      database.events.length + outside.ledger.rows msg =
          outside.world.database.events.length +
            (outside.ledger.rows msg + rowsAdded outside.world.session) ∧
        ∀ id, database.appearances id + outside.ledger.raised msg ≤
          outside.world.database.appearances id + (outside.ledger.raised msg +
            outside.world.database.raisedByAll outside.world.session) := by
    intro database sent
    obtain ⟨rows, raised⟩ := Database.counted_sendAll sent
    exact ⟨by omega, fun id => by have := raised id; omega⟩
  -- only a commit that is carried out books anything
  by_cases commits : request = .commit
  · subst commits
    have outcome : World.handler moment.faults engine .commit outside.world =
      if moment.raises then (.error .sqlError,
        if moment.applied then outside.world.commitUnheard else outside.world)
      else outside.world.commit := rfl
    have reached : after = { outside with
      world := (World.handler moment.faults engine .commit outside.world).2
      ledger := outside.book moment msg .commit
        (World.handler moment.faults engine .commit outside.world).1 } := rfl
    rw [outcome] at reached
    cases sent : outside.world.database.sendAll outside.world.session with
    | none =>
        have refused : ¬ outside.CommitsUnheard moment := fun commits => by
          simp [CommitsUnheard, sent] at commits
        rw [World.commit, World.commitUnheard, sent] at reached
        refine unbooked ?_ ?_
        · rw [reached]
          split
          · simp
          · rfl
        · rw [reached]
          split <;> exact if_neg refused
    | some database =>
        obtain ⟨rows, raised⟩ := booked sent
        rw [World.commit, World.commitUnheard, sent] at reached
        by_cases raises : moment.raises = true
        · rw [if_pos raises] at reached
          by_cases applied : moment.applied = true
          · have unheard : outside.CommitsUnheard moment := ⟨raises, applied, by rw [sent]; rfl⟩
            rw [if_pos applied, book, if_pos unheard] at reached
            rw [reached]
            simpa [Ledger.transactUnheard] using And.intro rows raised
          · have refused : ¬ outside.CommitsUnheard moment := fun commits => applied commits.2.1
            rw [if_neg applied, book, if_neg refused] at reached
            exact unbooked (by rw [reached]) (by rw [reached])
        · rw [if_neg raises] at reached
          rw [reached]
          simpa [book, Ledger.transact] using And.intro rows raised
  · refine unbooked (World.database_handler commits) ?_
    cases request with
    | commit => exact absurd rfl commits
    | _ => rfl

/-- The consumer as a machine. -/
def consumer (config : ConsumerConfig) (topic : Topic) (engine : Engine) :
    Machine LoopCall LoopReply Outside Moment where
  turn := KafkaEventConsumer.turn config
  handler := Outside.handler topic engine
  restart := Outside.restart

/-! ### A consumer of one message -/

/-- A consumer for which one byte spells a payload. -/
def ConsumerConfig.spelling (payload : Json) : ConsumerConfig where
  codec := {
    loads := fun bytes => if bytes = [1] then some payload else none
    errorText := fun _ => "Expecting value: line 1 column 1 (char 0)"
    decodeReplacing := fun _ => "" }
  topic := "detection-events"
  maxAttempts := 3
  errorText _ := ""

/-- The message with that byte, the first of its partition. -/
def spelledMessage : KafkaMessage := ⟨0, 0, none, some [1]⟩

/-- A topic with one message. -/
def Topic.single (msg : KafkaMessage) : Topic where
  message partition offset :=
    if partition = msg.partition ∧ offset = msg.offset then some msg else none
  located := by
    intro partition offset found same
    split at same
    · rename_i here
      cases same
      exact ⟨here.1.symm, here.2.symm⟩
    · cases same

/-- A moment at which partition 0 is polled and the call that is due succeeds or raises. -/
def dueCall (raises : Bool) : Move Moment := .answer ⟨true, .next 0, raises, false⟩

end PersonTracking.Analytics
