import PersonTracking.Analytics.Consumer
import PersonTracking.Analytics.Summaries

/-!
# Redelivered messages

The SQL commit of a message and the commit of its offset are two steps, and no
row is derived from the message's own identity.  A stop between the two has the
message delivered and its effect made again; a commit that raises although it was
carried out has the message attempted again.

`effects_le` is what the consumer guarantees by design: the tracking rows of a
message, and the appearances it has raised, are at most one more than the stops
that hit it in between and its commits carried out unheard.  `effect_twice` shows
one such stop.
-/

namespace PersonTracking.Analytics

open Library Python Shared Domain

/-! ## The effect of one transaction -/

/-- A draft in step with the stores of the only consumer: the session is the one
collected, and the row read for the match has not counted more than the table. -/
structure Draft.Mirrors (draft : Draft) (world : World) : Prop where
  session : world.session = draft.session
  matched : ∀ id old, draft.matched = some (id, some old) →
    old.totalAppearances ≤ world.database.appearances id

theorem Draft.mirrors_empty {world : World} {committed : Bool} (blank : world.session = []) :
    Draft.Mirrors { Draft.empty with committed } world where
  session := blank
  matched _ _ read := by cases read

/-- Saving a prepared person raises its appearances by at most one. -/
theorem raisedBy_personWrite_le {draft : Draft} {world : World} {timestamp : DateTime}
    {person : Person} (mirrors : draft.Mirrors world)
    (prepared : draft.Prepares timestamp person) (row : Option Person) :
    world.database.raisedBy (Database.personWrite row person) ≤ 1 := by
  have bound : person.totalAppearances ≤ world.database.appearances person.id + 1 := by
    rcases prepared with ⟨old, read, counted⟩ | ⟨first, -⟩
    · obtain ⟨_, _, -, -, same⟩ := Person.updateAppearance_eq_ok counted
      have before := mirrors.matched person.id old read
      have counts : person.totalAppearances = old.totalAppearances + 1 := by rw [same]
      omega
    · rw [first]
      exact Nat.le_add_left 1 _
  have raised : world.database.raisedBy (Database.personWrite row person) =
      person.totalAppearances - world.database.appearances person.id := by
    cases row <;> rfl
  omega

/-- **One transaction has one effect at most.** -/
theorem complete_bounds {draft : Draft} {world : World} {payload : Json}
    (mirrors : draft.Mirrors world) (complete : draft.Complete payload) :
    rowsAdded world.session ≤ 1 ∧ world.database.raisedByAll world.session ≤ 1 := by
  rw [mirrors.session]
  rcases complete with blank | ⟨detection, person, event, -, -, sights⟩
  · rw [blank]
    exact ⟨Nat.zero_le 1, Nat.zero_le 1⟩
  · obtain ⟨row, -, written⟩ := sights.written
    have once := raisedBy_personWrite_le mirrors sights.prepared row
    have noMore : ∀ db : Database, db.raisedByAll [.insertEvent event] = 0 := by
      intro db
      rw [Database.raisedByAll, Database.raisedBy]
      cases db.send (.insertEvent event) <;> rfl
    rw [written]
    refine ⟨by cases row <;> exact le_refl 1, ?_⟩
    rw [Database.raisedByAll]
    cases world.database.send (Database.personWrite row person) with
    | none => exact once
    | some next =>
        simp only [noMore]
        exact once

/-- A commit carried out unheard leaves the draft in step: the row read for the match
is the one it has counted up. -/
theorem Draft.Mirrors.commitUnheard {draft : Draft} {world : World} {payload : Json}
    (mirrors : draft.Mirrors world) (complete : draft.Complete payload) :
    draft.Mirrors world.commitUnheard := by
  unfold World.commitUnheard
  split
  · rename_i database sent
    refine ⟨mirrors.session, fun id old read => ?_⟩
    have before := mirrors.matched id old read
    show old.totalAppearances ≤ database.appearances id
    rw [mirrors.session] at sent
    rcases complete with blank | ⟨detection, person, event, -, -, sights⟩
    · rw [blank, Database.sendAll_nil, Option.some.injEq] at sent
      rwa [← sent]
    · obtain ⟨row, -, written⟩ := sights.written
      have persons : database.persons =
          Function.update world.database.persons person.id (some person) := by
        rw [written] at sent
        exact (Database.sendAll_sights sent).1
      rcases sights.prepared with ⟨counted, found, counts⟩ | ⟨-, unread | missing⟩
      · rw [found, Option.some.injEq, Prod.mk.injEq, Option.some.injEq] at read
        obtain ⟨rfl, rfl⟩ := read
        obtain ⟨_, _, -, -, same⟩ := Person.updateAppearance_eq_ok counts
        rw [Database.appearances, persons, Function.update_self, same]
        exact Nat.le_succ _
      · rw [unread] at read
        cases read
      · rw [missing] at read
        cases read
  · exact mirrors

/-- A call of the callback keeps the draft in step. -/
theorem Draft.Mirrors.handler {draft : Draft} {world : World} {faults : Program.Faults Call}
    {engine : Engine} (mirrors : draft.Mirrors world) (request : Call)
    (complete : request = .commit → ∃ payload, draft.Complete payload) :
    Keyed request (World.handler faults engine request world).1 ∧
      (draft.next request (World.handler faults engine request world).1).Mirrors
        (World.handler faults engine request world).2 := by
  obtain ⟨session, matched⟩ := mirrors
  cases request with
  | openSession => exact ⟨trivial, mirrors_empty rfl⟩
  | qdrant request => exact ⟨trivial, session, matched⟩
  | uuid4 => exact ⟨trivial, session, matched⟩
  | selectPerson site id =>
      have outcome : World.handler faults engine (.selectPerson site id) world =
        if faults.raises (.selectPerson site id) then (.error .sqlError, world)
        else (.ok (world.database.persons id), world) := rfl
      split at outcome
      · rw [outcome]
        cases site <;> exact ⟨trivial, session, matched⟩
      · rw [outcome]
        cases site with
        | getById =>
            -- the row read here is the one that the update will be computed from
            refine ⟨world.database.keyed id, session, fun other old read => ?_⟩
            obtain ⟨rfl, here⟩ := Prod.mk.inj (Option.some.inj read)
            rw [Database.appearances, here]
        | upsertPerson => exact ⟨world.database.keyed id, session, matched⟩
  | addPerson person =>
      exact ⟨trivial, congrArg (· ++ [Write.insertPerson person]) session, matched⟩
  | updatePerson person =>
      exact ⟨trivial, congrArg (· ++ [Write.updatePerson person]) session, matched⟩
  | addTrackingEvent event =>
      exact ⟨trivial, congrArg (· ++ [Write.insertEvent event]) session, matched⟩
  | dumps event =>
      have outcome : World.handler faults engine (.dumps event) world =
        if faults.raises (.dumps event) then (.error .typeError, world)
        else (.ok (), world) := rfl
      split at outcome <;> (rw [outcome]; exact ⟨trivial, session, matched⟩)
  | produce topic key event =>
      have outcome : World.handler faults engine (.produce topic key event) world =
        if faults.raises (.produce topic key event) then (.error .kafkaError, world)
        else (.ok (), { world with alerts := world.alerts ++ [(topic, event)] }) := rfl
      split at outcome <;> (rw [outcome]; exact ⟨trivial, session, matched⟩)
  | pollProducer =>
      have outcome : World.handler faults engine .pollProducer world =
        if faults.raises .pollProducer then (.error .kafkaError, world)
        else (.ok (), world) := rfl
      split at outcome <;> (rw [outcome]; exact ⟨trivial, session, matched⟩)
  | commit =>
      have outcome : World.handler faults engine .commit world =
        if faults.raises .commit then
          (.error .sqlError, if faults.applied .commit then world.commitUnheard else world)
        else world.commit := rfl
      split at outcome
      · rw [outcome]
        refine ⟨trivial, ?_⟩
        show draft.Mirrors (if faults.applied .commit = true then world.commitUnheard else world)
        split
        · obtain ⟨payload, complete⟩ := complete rfl
          exact Draft.Mirrors.commitUnheard ⟨session, matched⟩ complete
        · exact ⟨session, matched⟩
      · -- the session is empty only after a commit that is accepted
        rw [outcome, World.commit]
        split
        · exact ⟨trivial, mirrors_empty rfl⟩
        · exact ⟨trivial, session, matched⟩
  | rollback => exact ⟨trivial, mirrors_empty rfl⟩

/-! ## Deliveries -/

/-- Where the consumer is: the message it handles and the draft of its transaction. -/
structure Delivery where
  draft : Draft
  stage : Option KafkaMessage

/-- The calculus of a delivery: a message is handled by transactions until one is
committed, and its offset is committed before the next message is polled. -/
def delivering : Program.Rules LoopCall LoopReply Delivery where
  allowed delivery request :=
    match request with
    | .keepRunning | .poll => delivery.stage = none
    | .process msg request =>
        delivery.stage = some msg ∧ delivery.draft.committed = false ∧
          match request with
          | .commit => ∃ payload, delivery.draft.Complete payload
          | _ => True
    | .sleep _ => True
    | .produceDlq _ _ => True
    | .commitOffset msg => delivery.stage = some msg
  admits _ request answer :=
    match request, answer with
    | .process _ request, answer => Keyed request answer
    | _, _ => True
  after delivery request answer :=
    match request, answer with
    | .poll, .ok (.message msg) =>
        { stage := some msg, draft := { delivery.draft with committed := false } }
    | .process _ request, answer => { delivery with draft := delivery.draft.next request answer }
    | .commitOffset _, .ok () => { delivery with stage := none }
    | _, _ => delivery

section Specifications

variable {config : ConsumerConfig} {msg : KafkaMessage} {payload : Json} {delivery : Delivery}

open KafkaEventConsumer

/-- A transaction of a message, inside its delivery. -/
theorem attempt_delivers (handling : delivery.stage = some msg)
    (uncommitted : delivery.draft.committed = false) :
    Fallible.wpe delivering
      (fun raised later => later.stage = some msg ∧
        (raised ≠ none → later.draft.committed = false))
      (fun _ _ => True) (attempt msg payload) delivery := by
  rw [attempt, Fallible.wpe_tryCatch, Fallible.wpe_bind, Fallible.wpe_relabel]
  refine @Fallible.wpe_refine Call Reply PyError Unit Draft (drafting payload) _ _ Delivery
    (delivering.within (LoopCall.process msg))
    (fun delivery draft => delivery.draft = draft ∧ delivery.stage = some msg) _ _ _ ?_ ?_ ?_ _ _
    (processMessageCallback_drafts uncommitted) ⟨rfl, handling⟩
  · rintro later draft request ⟨rfl, still⟩ ⟨open', complete⟩
    refine ⟨⟨still, open', ?_⟩, fun answer keyed => ⟨keyed, rfl, still⟩⟩
    cases request with
    | commit => exact ⟨payload, complete⟩
    | openSession | uuid4 | pollProducer | rollback => exact trivial
    | qdrant _ | addPerson _ | updatePerson _ | addTrackingEvent _ | dumps _ => exact trivial
    | selectPerson _ _ => exact trivial
    | produce _ _ _ => exact trivial
  · rintro _ later draft ⟨rfl, still⟩ -
    exact ⟨still, fun raised => absurd rfl raised⟩
  · rintro error later draft ⟨rfl, still⟩ still'
    exact ⟨still, fun _ => still'⟩

theorem attempts_delivers (handling : delivery.stage = some msg)
    (uncommitted : delivery.draft.committed = false) (numbers : List ℕ)
    (lastError : Option PyError) :
    Fallible.wpe delivering (fun _ later => later.stage = some msg) (fun _ _ => True)
      (attempts msg payload numbers lastError) delivery := by
  induction numbers generalizing delivery lastError with
  | nil => exact handling
  | cons n rest ih =>
      rw [attempts, Fallible.wpe_bind]
      refine Fallible.wpe_mono (fun raised later reached => ?_) (fun _ _ left => left)
        (attempt_delivers handling uncommitted)
      cases raised with
      | none => exact reached.1
      | some error =>
          show Fallible.wpe _ _ _ (Fallible.lift _ >>= _) later
          rw [Fallible.wpe_bind, Fallible.wpe_lift]
          exact ⟨trivial, fun _ _ => ih reached.1 (reached.2 (by simp)) (some error)⟩

theorem commitOffset_delivers (handling : delivery.stage = some msg) :
    Fallible.wpe delivering (fun _ later => later.stage = none) (fun _ _ => True)
      (commitOffset msg) delivery := by
  rw [commitOffset, Fallible.wpe_attempt]
  refine ⟨handling, fun answer _ => ?_⟩
  cases answer with
  | error error => exact trivial
  | ok value => exact rfl

theorem deadLetter_delivers {error : String} (handling : delivery.stage = some msg) :
    Fallible.wpe delivering (fun _ later => later.stage = none) (fun _ _ => True)
      (deadLetter config msg error) delivery := by
  rw [deadLetter, Fallible.wpe_bind, Fallible.wpe_attempt]
  refine ⟨trivial, fun produced _ => ?_⟩
  cases produced with
  | error error => exact trivial
  | ok value => exact commitOffset_delivers handling

/-- A message that is handled to the end has its offset committed. -/
theorem handleMessage_delivers (handling : delivery.stage = some msg)
    (uncommitted : delivery.draft.committed = false) :
    Fallible.wpe delivering (fun _ later => later.stage = none) (fun _ _ => True)
      (handleMessage config msg) delivery := by
  rw [handleMessage]
  split
  · exact deadLetter_delivers handling
  · rw [Fallible.wpe_bind]
    refine Fallible.wpe_mono (fun processing later still => ?_) (fun _ _ left => left)
      (attempts_delivers handling uncommitted _ none)
    cases processing with
    | processed => exact commitOffset_delivers still
    | failed lastError => exact deadLetter_delivers still

/-- One turn delivers one message at most, and goes on only after its offset. -/
theorem turn_delivers (idle : delivery.stage = none) :
    Program.wp delivering (fun goesOn later => goesOn = true → later.stage = none) (turn config)
      delivery := by
  rw [turn, Program.wp_bind]
  refine ⟨idle, fun keepRunning _ => ?_⟩
  cases keepRunning with
  | false => exact fun goesOn => by cases goesOn
  | true =>
      rw [Program.wp_done, if_pos rfl, Program.wp_bind]
      have listens : Fallible.wpe delivering (fun _ later => later.stage = none) (fun _ _ => True)
          (listen config) delivery := by
        rw [KafkaEventConsumer.listen, Fallible.wpe_bind, Fallible.wpe_attempt]
        refine ⟨idle, fun polled _ => ?_⟩
        match polled with
        | .error error => exact trivial
        | .ok .nothing | .ok .partitionEof | .ok .failed => exact idle
        | .ok (.message msg) =>
            show Fallible.wpe _ _ _ (handleMessage config msg >>= _) _
            rw [Fallible.wpe_bind]
            exact handleMessage_delivers rfl rfl
      refine Program.wp_mono (fun outcome later reached => ?_) listens
      cases outcome with
      | error error => exact fun goesOn => by cases goesOn
      | ok goesOn => exact fun _ => reached

end Specifications

/-! ## Runs -/

/-- The one effect a message may have had beyond the stops that hit it: its
offset is committed, or its transaction is and the offset is not. -/
def Outside.credit (outside : Outside) (msg : KafkaMessage) : ℕ :=
  if msg.offset < outside.committed msg.partition ∨ outside.ledger.pending = some msg then 1 else 0

/-- How often a message may have had its effect and be attempted again: the stops
that hit it, and its commits carried out unheard. -/
def Ledger.surplus (ledger : Ledger) (msg : KafkaMessage) : ℕ :=
  ledger.interrupted msg + ledger.unheard msg

/-- The effects of a message are bounded by its surplus and its credit. -/
def Outside.Bounded (outside : Outside) (msg : KafkaMessage) : Prop :=
  outside.ledger.rows msg ≤ outside.ledger.surplus msg + outside.credit msg ∧
    outside.ledger.raised msg ≤ outside.ledger.surplus msg + outside.credit msg

/-- The cursor of the consumer, by the message it handles. -/
def Outside.Cursor (outside : Outside) : Option KafkaMessage → Prop
  | none => outside.position = outside.committed
  | some msg =>
      outside.position = Function.update outside.committed msg.partition (msg.offset + 1) ∧
        outside.committed msg.partition = msg.offset

/-- What is outside, as the delivery sees it. -/
structure Follows (delivery : Delivery) (outside : Outside) : Prop where
  mirrors : delivery.draft.Mirrors outside.world
  cursor : outside.Cursor delivery.stage
  pending : outside.ledger.pending = if delivery.draft.committed then delivery.stage else none
  bounded : ∀ msg, outside.Bounded msg

theorem Outside.credit_le_one (outside : Outside) (msg : KafkaMessage) :
    outside.credit msg ≤ 1 := by
  unfold Outside.credit
  split <;> omega

theorem Outside.credit_of_due {outside : Outside} {msg : KafkaMessage}
    (due : msg.offset < outside.committed msg.partition ∨ outside.ledger.pending = some msg) :
    outside.credit msg = 1 :=
  if_pos due

/-- What is due to a message afterwards covers what was due to it before. -/
theorem Outside.credit_mono {outside after : Outside} {msg : KafkaMessage}
    (covered : msg.offset < outside.committed msg.partition ∨ outside.ledger.pending = some msg →
      msg.offset < after.committed msg.partition ∨ after.ledger.pending = some msg) :
    outside.credit msg ≤ after.credit msg := by
  by_cases due : msg.offset < outside.committed msg.partition ∨ outside.ledger.pending = some msg
  · rw [credit_of_due (covered due)]
    exact outside.credit_le_one msg
  · have none : outside.credit msg = 0 := if_neg due
    omega

/-- The bound survives what leaves the effects of a message and covers its credit. -/
theorem Outside.Bounded.mono {outside after : Outside} {msg : KafkaMessage}
    (bounded : outside.Bounded msg) (rows : after.ledger.rows msg = outside.ledger.rows msg)
    (raised : after.ledger.raised msg = outside.ledger.raised msg)
    (covered : outside.ledger.surplus msg + outside.credit msg ≤
      after.ledger.surplus msg + after.credit msg) : after.Bounded msg := by
  obtain ⟨rowsLe, raisedLe⟩ := bounded
  refine ⟨?_, ?_⟩
  · rw [rows]
    omega
  · rw [raised]
    omega

/-! ### Stops in the books -/

namespace Ledger

variable {ledger : Ledger} {msg : KafkaMessage}

@[simp] theorem rows_stop : ledger.stop.rows = ledger.rows := by
  unfold stop
  split <;> rfl

@[simp] theorem raised_stop : ledger.stop.raised = ledger.raised := by
  unfold stop
  split <;> rfl

@[simp] theorem pending_stop : ledger.stop.pending = none := by
  unfold stop
  split
  · assumption
  · rfl

@[simp] theorem unheard_stop : ledger.stop.unheard = ledger.unheard := by
  unfold stop
  split <;> rfl

theorem surplus_stop_of_ne (missed : ledger.pending ≠ some msg) :
    ledger.stop.surplus msg = ledger.surplus msg := by
  have same : ledger.stop.interrupted msg = ledger.interrupted msg := by
    unfold stop
    split
    · rfl
    · rename_i hit pending
      refine Function.update_of_ne (fun same => missed ?_) _ _
      rw [pending, same]
  rw [surplus, surplus, same, unheard_stop]

theorem surplus_stop_self (hit : ledger.pending = some msg) :
    ledger.stop.surplus msg = ledger.surplus msg + 1 := by
  have counted : ledger.stop.interrupted msg = ledger.interrupted msg + 1 := by
    rw [stop, hit]
    exact Function.update_self _ _ _
  rw [surplus, surplus, counted, unheard_stop]
  omega

end Ledger

section Steps

variable {topic : Topic} {engine : Engine} {moment : Moment} {outside : Outside}
  {delivery : Delivery} {msg : KafkaMessage}

/-- **A stop** leads back to the committed offsets; the message it hits between
its two commits loses its credit to the count of stops. -/
theorem Follows.restart (follows : Follows delivery outside) :
    Follows { draft := .empty, stage := none } outside.restart := by
  refine ⟨Draft.mirrors_empty rfl, rfl, Ledger.pending_stop, fun msg => ?_⟩
  refine (follows.bounded msg).mono (congrFun Ledger.rows_stop msg)
    (congrFun Ledger.raised_stop msg) ?_
  show _ ≤ outside.ledger.stop.surplus msg + _
  by_cases hit : outside.ledger.pending = some msg
  · have := outside.credit_le_one msg
    rw [Ledger.surplus_stop_self hit]
    omega
  · rw [Ledger.surplus_stop_of_ne hit]
    refine Nat.add_le_add_left (@Outside.credit_mono outside outside.restart msg fun due => ?_) _
    exact Or.inl (due.resolve_right hit)

/-- A message is polled at the offset its partition has committed. -/
theorem Follows.poll (follows : Follows delivery outside) (idle : delivery.stage = none)
    {partition : ℕ} {found : KafkaMessage}
    (next : topic.message partition (outside.position partition) = some found) :
    Follows { stage := some found, draft := { delivery.draft with committed := false } }
      { outside with
        position := Function.update outside.position partition
          (outside.position partition + 1) } := by
  obtain ⟨same, offset⟩ := topic.located partition _ found next
  have cursor : outside.position = outside.committed := by
    have here := follows.cursor
    rwa [idle] at here
  refine ⟨⟨follows.mirrors.session, follows.mirrors.matched⟩, ?_, ?_, follows.bounded⟩
  · rw [cursor] at offset
    refine ⟨?_, ?_⟩
    · show Function.update outside.position partition (outside.position partition + 1) = _
      rw [cursor, same, offset]
    · show outside.committed found.partition = found.offset
      rw [same, offset]
  · have pending := follows.pending
    rw [idle] at pending
    simpa using pending

/-- A committed offset is the credit of its message. -/
theorem Follows.commitOffset (follows : Follows delivery outside)
    (handling : delivery.stage = some msg) :
    Follows { delivery with stage := none }
      { outside with
        committed := Function.update outside.committed msg.partition (msg.offset + 1)
        ledger := { outside.ledger with pending := none } } := by
  have cursor := follows.cursor
  have pending := follows.pending
  rw [handling] at cursor pending
  obtain ⟨position, offset⟩ := cursor
  refine ⟨follows.mirrors, position, by simp, fun other => ?_⟩
  refine (follows.bounded other).mono rfl rfl (Nat.add_le_add_left ?_ _)
  refine Outside.credit_mono fun due => Or.inl ?_
  show other.offset < Function.update outside.committed msg.partition (msg.offset + 1)
    other.partition
  have same : outside.ledger.pending = some other → other = msg := by
    intro last
    rw [pending] at last
    split at last
    · exact (Option.some.inj last).symm
    · cases last
  -- offsets of other partitions are not touched
  by_cases here : other.partition = msg.partition
  · rw [here, Function.update_self]
    rcases due with before | last
    · rw [here, offset] at before
      omega
    · rw [same last]
      omega
  · rw [Function.update_of_ne here]
    exact due.resolve_right fun last => here (congrArg KafkaMessage.partition (same last))

/-- An SQL commit is what the books and the draft record, one carried out unheard
only the books; other calls of an open transaction leave both. -/
theorem book_cases {draft : Draft} (uncommitted : draft.committed = false) (request : Call)
    (answer : Reply request) :
    (request = .commit ∧ draft.next request answer = { Draft.empty with committed := true } ∧
      outside.book moment msg request answer =
        outside.ledger.transact msg outside.world.database outside.world.session) ∨
    (request = .commit ∧ (draft.next request answer).committed = false ∧
      outside.book moment msg request answer =
        outside.ledger.transactUnheard msg outside.world.database outside.world.session) ∨
    ((draft.next request answer).committed = false ∧
      outside.book moment msg request answer = outside.ledger) := by
  match request, answer with
  | .commit, .ok () => exact Or.inl ⟨rfl, rfl, rfl⟩
  | .commit, .error _ =>
      by_cases unheard : outside.CommitsUnheard moment
      · exact Or.inr (Or.inl ⟨rfl, uncommitted, if_pos unheard⟩)
      · exact Or.inr (Or.inr ⟨uncommitted, if_neg unheard⟩)
  | .openSession, _ | .rollback, _ => exact Or.inr (Or.inr ⟨rfl, rfl⟩)
  | .selectPerson .getById _, .ok _ | .selectPerson .getById _, .error _
  | .selectPerson .upsertPerson _, .ok _ | .selectPerson .upsertPerson _, .error _ =>
      exact Or.inr (Or.inr ⟨uncommitted, rfl⟩)
  | .qdrant _, _ | .uuid4, _ | .addPerson _, _ | .updatePerson _, _ | .addTrackingEvent _, _
  | .dumps _, _ | .produce _ _ _, _ | .pollProducer, _ => exact Or.inr (Or.inr ⟨uncommitted, rfl⟩)

/-- Books about one message leave the bounds of the others. -/
theorem Outside.Bounded.other {world : World} {ledger : Ledger} {other : KafkaMessage}
    (bounded : outside.Bounded other) (pending : outside.ledger.pending = none)
    (rows : ledger.rows other = outside.ledger.rows other)
    (raised : ledger.raised other = outside.ledger.raised other)
    (surplus : ledger.surplus other = outside.ledger.surplus other) :
    Outside.Bounded { outside with world, ledger } other := by
  refine bounded.mono rows raised ?_
  show _ ≤ ledger.surplus other + _
  rw [surplus]
  refine Nat.add_le_add_left (@Outside.credit_mono outside { outside with world, ledger } other
    fun due => Or.inl (due.resolve_right ?_)) _
  rw [pending]
  exact fun wrong => by cases wrong

/-- A commit that is carried out adds at most the credit of the message it is for. -/
theorem Outside.bounded_transact {world : World} {database : Database} {session : List Write}
    (bounded : ∀ other, outside.Bounded other) (pending : outside.ledger.pending = none)
    (spent : outside.credit msg = 0) (rowsLe : rowsAdded session ≤ 1)
    (raisedLe : database.raisedByAll session ≤ 1) (other : KafkaMessage) :
    Outside.Bounded { outside with world, ledger := outside.ledger.transact msg database session }
      other := by
  by_cases same : other = msg
  · subst same
    obtain ⟨rows, raised⟩ := bounded other
    rw [spent] at rows raised
    refine ⟨?_, ?_⟩
    · rw [Outside.credit_of_due (Or.inr rfl)]
      show Function.update outside.ledger.rows other _ other ≤ outside.ledger.surplus other + 1
      rw [Function.update_self]
      omega
    · rw [Outside.credit_of_due (Or.inr rfl)]
      show Function.update outside.ledger.raised other _ other ≤ outside.ledger.surplus other + 1
      rw [Function.update_self]
      omega
  · exact (bounded other).other pending (Function.update_of_ne same _ _)
      (Function.update_of_ne same _ _) rfl

/-- One that is carried out unheard adds at most to its surplus. -/
theorem Outside.bounded_transactUnheard {world : World} {database : Database}
    {session : List Write} (bounded : ∀ other, outside.Bounded other)
    (pending : outside.ledger.pending = none) (spent : outside.credit msg = 0)
    (rowsLe : rowsAdded session ≤ 1) (raisedLe : database.raisedByAll session ≤ 1)
    (other : KafkaMessage) :
    Outside.Bounded
      { outside with world, ledger := outside.ledger.transactUnheard msg database session }
      other := by
  by_cases same : other = msg
  · subst same
    obtain ⟨rows, raised⟩ := bounded other
    rw [spent] at rows raised
    have surplus : (outside.ledger.transactUnheard other database session).surplus other =
        outside.ledger.surplus other + 1 := by
      show outside.ledger.interrupted other +
        Function.update outside.ledger.unheard other _ other = _
      rw [Function.update_self, Ledger.surplus]
      omega
    refine ⟨?_, ?_⟩
    · show Function.update outside.ledger.rows other _ other ≤
        (outside.ledger.transactUnheard other _ _).surplus other + _
      rw [Function.update_self, surplus]
      omega
    · show Function.update outside.ledger.raised other _ other ≤
        (outside.ledger.transactUnheard other _ _).surplus other + _
      rw [Function.update_self, surplus]
      omega
  · refine (bounded other).other pending (Function.update_of_ne same _ _)
      (Function.update_of_ne same _ _) ?_
    show outside.ledger.interrupted other + Function.update outside.ledger.unheard msg _ other = _
    rw [Function.update_of_ne same]
    rfl

/-- **A call of the callback** for the message that is handled.  What its commit
adds is the credit of the message, or its surplus when the commit is unheard. -/
theorem Follows.process (follows : Follows delivery outside) (handling : delivery.stage = some msg)
    (uncommitted : delivery.draft.committed = false) (request : Call)
    (complete : request = .commit → ∃ payload, delivery.draft.Complete payload) :
    Follows
      { delivery with
        draft := delivery.draft.next request
          (outside.respond topic engine moment (.process msg request)).1 }
      (outside.respond topic engine moment (.process msg request)).2 := by
  set answer := (World.handler moment.faults engine request outside.world).1
  have cursor := follows.cursor
  have pending : outside.ledger.pending = none := by
    rw [follows.pending, uncommitted]
    rfl
  have mirrors := (@Draft.Mirrors.handler delivery.draft outside.world moment.faults engine
    follows.mirrors request complete).2
  show Follows { delivery with draft := delivery.draft.next request answer }
    { outside with
      world := (World.handler moment.faults engine request outside.world).2
      ledger := outside.book moment msg request answer }
  -- the message under way has no credit yet
  have spent : outside.credit msg = 0 := by
    rw [handling] at cursor
    refine if_neg ?_
    rw [pending, cursor.2]
    simp
  have unbooked : ∀ {draft : Draft}, draft.committed = false →
      outside.ledger.pending = if draft.committed then delivery.stage else none := by
    intro draft still
    rw [if_neg (by rw [still]; exact Bool.false_ne_true)]
    exact pending
  rcases @book_cases moment outside msg _ uncommitted request answer with
    ⟨commits, drafted, booked⟩ | ⟨commits, still, booked⟩ | ⟨still, booked⟩
  · obtain ⟨payload, complete⟩ := complete commits
    obtain ⟨rowsLe, raisedLe⟩ := complete_bounds follows.mirrors complete
    rw [booked]
    refine ⟨mirrors, cursor, ?_,
      Outside.bounded_transact follows.bounded pending spent rowsLe raisedLe⟩
    rw [drafted, handling]
    rfl
  · obtain ⟨payload, complete⟩ := complete commits
    obtain ⟨rowsLe, raisedLe⟩ := complete_bounds follows.mirrors complete
    rw [booked]
    exact ⟨mirrors, cursor, unbooked still,
      Outside.bounded_transactUnheard follows.bounded pending spent rowsLe raisedLe⟩
  · rw [booked]
    exact ⟨mirrors, cursor, unbooked still, follows.bounded⟩

/-- The history is no part of what the delivery follows. -/
theorem Follows.record (follows : Follows delivery outside) (history : List Event) :
    Follows delivery { outside with history } :=
  ⟨follows.mirrors, follows.cursor, follows.pending, follows.bounded⟩

/-- **Every answer** keeps the delivery in step. -/
theorem Follows.respond (follows : Follows delivery outside) (request : LoopCall)
    (allowed : delivering.allowed delivery request) :
    delivering.admits delivery request (outside.respond topic engine moment request).1 ∧
      Follows (delivering.after delivery request (outside.respond topic engine moment request).1)
        (outside.respond topic engine moment request).2 := by
  cases request with
  | keepRunning => exact ⟨trivial, follows⟩
  | sleep seconds => exact ⟨trivial, follows⟩
  | produceDlq msg record => exact ⟨trivial, follows⟩
  | poll =>
      refine ⟨trivial, ?_⟩
      show Follows (delivering.after delivery .poll (outside.respond topic engine moment .poll).1) _
      unfold Outside.respond
      cases moment.polled with
      | raised | nothing | partitionEof | failed => exact follows
      | next partition =>
          show Follows (delivering.after delivery .poll (.ok (outside.poll topic partition).1))
            (outside.poll topic partition).2
          unfold Outside.poll
          split
          · exact follows
          · exact follows.poll allowed ‹_›
  | commitOffset msg =>
      refine ⟨trivial, ?_⟩
      have outcome : outside.respond topic engine moment (.commitOffset msg) =
        if moment.raises then (.error .kafkaError, outside)
        else (.ok (), { outside with
          committed := Function.update outside.committed msg.partition (msg.offset + 1)
          ledger := { outside.ledger with pending := none } }) := rfl
      split at outcome
      · rw [outcome]
        exact follows
      · rw [outcome]
        exact follows.commitOffset allowed
  | process msg request =>
      obtain ⟨handling, uncommitted, complete⟩ := allowed
      have completes : request = .commit → ∃ payload, delivery.draft.Complete payload := by
        rintro rfl
        exact complete
      exact ⟨(follows.mirrors.handler request completes).1,
        follows.process handling uncommitted request completes⟩

end Steps

section Runs

variable {config : ConsumerConfig} {topic : Topic} {engine : Engine}

/-- A consumer that starts follows a delivery with nothing in it. -/
theorem follows_start (world : World) (committed : ℕ → ℕ) :
    Follows { draft := { Draft.empty with session := world.session }, stage := none }
      (Outside.start world committed) where
  mirrors := {
    session := rfl
    matched := fun _ _ read => by cases read }
  cursor := rfl
  pending := rfl
  bounded _ := ⟨Nat.zero_le _, Nat.zero_le _⟩

/-- **At most one effect beyond the stops in between and the unheard commits.**  In
every run of the consumer, with any answers and any stops, the tracking rows of a
message and the appearances it raised are at most one more than the stops that hit
it after the commit of its transaction and before that of its offset, and its
commits that were carried out and raised. -/
theorem effects_le (config : ConsumerConfig) (topic : Topic) (engine : Engine) (world : World)
    (committed : ℕ → ℕ) (moves : List (Move Moment)) (loop : Loop LoopCall LoopReply Outside)
    (reached : runFrom (consumer config topic engine).step
      ((consumer config topic engine).start (Outside.start world committed)) moves = some loop)
    (msg : KafkaMessage) :
    loop.outside.ledger.rows msg ≤
        loop.outside.ledger.interrupted msg + loop.outside.ledger.unheard msg + 1 ∧
      loop.outside.ledger.raised msg ≤
        loop.outside.ledger.interrupted msg + loop.outside.ledger.unheard msg + 1 := by
  have tracked := @Machine.tracked LoopCall LoopReply Outside Moment Delivery
    (consumer config topic engine) delivering Follows (fun delivery => delivery.stage = none)
    (fun _ _ => True) ?_ (fun _ idle => turn_delivers idle) ?_ (Outside.start world committed) _
    rfl (follows_start world committed) moves loop
    (meets_of_always (fun _ _ => trivial) _ _) reached
  · obtain ⟨delivery, follows, -⟩ := tracked
    obtain ⟨rows, raised⟩ := follows.bounded msg
    have := loop.outside.credit_le_one msg
    rw [Ledger.surplus] at rows raised
    exact ⟨by omega, by omega⟩
  · intro delivery request next outside moment follows allowed _
    obtain ⟨admitted, later⟩ := follows.respond request allowed
    exact ⟨admitted, later.record _⟩
  · exact fun delivery outside follows => ⟨_, rfl, follows.restart⟩

end Runs

/-! ### A stop between the commits -/

/-- A person in front of camera 1, without an embedding. -/
def exampleVisitor : Json :=
  .obj [("camera_id", .str "00000000-0000-0000-0000-000000000001"),
    ("timestamp", .str "2024-01-15T10:20:30+00:00"),
    ("detection", .obj [("type", .str "person"), ("confidence", .float (.finite false 9 (-1))),
      ("bbox", .obj [("left", .int 0), ("top", .int 0), ("width", .int 10), ("height", .int 20)])])]

/-- A consumer of one message that reports it. -/
def visitorConsumer : Machine LoopCall LoopReply Outside Moment :=
  consumer (.spelling exampleVisitor) (.single spelledMessage) Engine.silent

/-- A moment at which the call that is due is carried out and raises. -/
def unheardCall : Move Moment := .answer ⟨true, .next 0, true, true⟩

/-- The commit of the first attempt is carried out unheard, the second attempt is
stopped between its commits, and the third is not: the three rows are allowed. -/
theorem effects_le_visitor :
    ∃ loop, runFrom visitorConsumer.step
        (visitorConsumer.start (Outside.start World.empty fun _ => 0))
        (List.replicate 8 (dueCall false) ++ unheardCall :: List.replicate 9 (dueCall false) ++
          .stop :: List.replicate 10 (dueCall false)) = some loop ∧
      loop.outside.ledger.rows spelledMessage = 3 ∧
      loop.outside.ledger.rows spelledMessage ≤ loop.outside.ledger.interrupted spelledMessage +
        loop.outside.ledger.unheard spelledMessage + 1 ∧
      loop.outside.ledger.raised spelledMessage ≤ loop.outside.ledger.interrupted spelledMessage +
        loop.outside.ledger.unheard spelledMessage + 1 := by
  have counted : (runFrom visitorConsumer.step
      (visitorConsumer.start (Outside.start World.empty fun _ => 0))
      (List.replicate 8 (dueCall false) ++ unheardCall :: List.replicate 9 (dueCall false) ++
        .stop :: List.replicate 10 (dueCall false))).map
          (fun loop => loop.outside.ledger.rows spelledMessage) = some 3 := by decide +kernel
  obtain ⟨loop, reached, rows⟩ := Option.map_eq_some_iff.mp counted
  exact ⟨loop, reached, rows, effects_le (.spelling exampleVisitor) (.single spelledMessage)
    Engine.silent World.empty (fun _ => 0) _ loop reached spelledMessage⟩

/-- **One stop between the commits has the effect made twice**: two rows in the
tables and two appearances for one message. -/
theorem effect_twice :
    ∃ loop, runFrom visitorConsumer.step
        (visitorConsumer.start (Outside.start World.empty fun _ => 0))
        (List.replicate 9 (dueCall false) ++ .stop :: List.replicate 10 (dueCall false)) =
          some loop ∧
      loop.outside.world.database.events.length = 2 ∧
      loop.outside.ledger.rows spelledMessage = 2 ∧
      loop.outside.ledger.raised spelledMessage = 2 := by
  have counted : (runFrom visitorConsumer.step
      (visitorConsumer.start (Outside.start World.empty fun _ => 0))
      (List.replicate 9 (dueCall false) ++ .stop :: List.replicate 10 (dueCall false))).map
        (fun loop => (loop.outside.world.database.events.length,
          loop.outside.ledger.rows spelledMessage, loop.outside.ledger.raised spelledMessage)) =
      some (2, 2, 2) := by decide +kernel
  obtain ⟨loop, reached, counts⟩ := Option.map_eq_some_iff.mp counted
  simp only [Prod.mk.injEq] at counts
  exact ⟨loop, reached, counts⟩

end PersonTracking.Analytics
