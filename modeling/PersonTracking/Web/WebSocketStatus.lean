import PersonTracking.Web.SharedWebSocketClient

/-!
# What the status of the WebSocket says

The header of every page shows whether the shared client is open.  `Pending` says that the
client will move on by itself: its socket has not been closed, a `connect` waits for its
token, or the reconnect timer is set.

`honest_iff_leavesPending` says exactly in which runs the status is honest: a client with
subscribers for which nothing is pending says that it is closed or that there was an error,
one that says it is open has a socket and a heartbeat, and no heartbeat outlives its socket.
They are the runs in which no token lookup that rejects was all the client waited for.
-/

namespace PersonTracking.Web

open Library

namespace SharedWebSocketClient

variable (client : SharedWebSocketClient)

/-- The current socket has not been closed. -/
def Unclosed : Prop := ∃ state, client.readyState = some state ∧ state ≠ .closed

/-- The client will move on by itself. -/
def Pending : Prop := client.Unclosed ∨ 0 < client.lookups ∨ client.reconnectTimer = true

/-- The status says that nothing goes on. -/
def AtRest : Prop := client.status = .closed ∨ client.status = .error

/-- What the status and the heartbeat say of the socket. -/
structure Beating : Prop where
  opened : client.status = .opened → client.heartbeatTimer = true ∧ client.Unclosed
  heartbeat : client.heartbeatTimer = true → client.socket.isSome = true

/-- **The status is honest.** -/
structure Honest : Prop extends client.Beating where
  moves : 0 < client.subscribers → client.AtRest ∨ client.Pending

/-- The condition on a step: a lookup that rejects is not all that is pending. -/
def LeavesPending : WebSocketStep → Prop
  | .lookupRejects => 0 < client.lookups → 0 < client.subscribers →
      client.AtRest ∨ { client with lookups := client.lookups - 1 }.Pending
  | _ => True

variable {client} {after : SharedWebSocketClient}

theorem unclosed_of_hasSocket (has : client.HasSocket) : client.Unclosed := by
  rcases has with opened | connecting
  · exact ⟨.opened, opened, fun same => by cases same⟩
  · exact ⟨.connecting, connecting, fun same => by cases same⟩

/-- A socket that is moved on, but not closed, leaves the current one unclosed. -/
theorem Unclosed.become (unclosed : client.Unclosed) {socket : ℕ} {state : ReadyState}
    (alive : state ≠ .closed) : (client.become socket state).Unclosed := by
  obtain ⟨found, here, standing⟩ := unclosed
  obtain ⟨current, points, there⟩ := Option.bind_eq_some_iff.mp here
  by_cases same : socket = current
  · subst same
    refine ⟨state, Option.bind_eq_some_iff.mpr ⟨socket, points, ?_⟩, alive⟩
    exact List.getElem?_set_self (List.getElem?_eq_some_iff.mp there).1
  · refine ⟨found, Option.bind_eq_some_iff.mpr ⟨current, points, ?_⟩, standing⟩
    exact (List.getElem?_set_ne same).trans there

/-- Another socket does not matter. -/
theorem Unclosed.become_of_ne (unclosed : client.Unclosed) {socket : ℕ} {state : ReadyState}
    (other : client.socket ≠ some socket) : (client.become socket state).Unclosed := by
  obtain ⟨found, here, standing⟩ := unclosed
  obtain ⟨current, points, there⟩ := Option.bind_eq_some_iff.mp here
  have different : socket ≠ current := fun same => other (same ▸ points)
  refine ⟨found, Option.bind_eq_some_iff.mpr ⟨current, points, ?_⟩, standing⟩
  exact (List.getElem?_set_ne different).trans there

/-! ## What the methods keep -/

/-- Nothing else counts of a client. -/
theorem Honest.of_same (honest : client.Honest) (readyState : after.readyState = client.readyState)
    (socket : after.socket = client.socket) (status : after.status = client.status)
    (heartbeat : after.heartbeatTimer = client.heartbeatTimer)
    (subscribers : 0 < after.subscribers → 0 < client.subscribers)
    (lookups : after.lookups = client.lookups)
    (timer : after.reconnectTimer = client.reconnectTimer) : after.Honest where
  opened said := by
    rw [status] at said
    rw [heartbeat, Unclosed, readyState]
    exact honest.opened said
  heartbeat beats := by
    rw [heartbeat] at beats
    rw [socket]
    exact honest.heartbeat beats
  moves subscribed := by
    rw [AtRest, Pending, Unclosed, status, readyState, lookups, timer]
    exact honest.moves (subscribers subscribed)

@[simp] theorem disconnect_status : client.disconnect.status = .closed := rfl

@[simp] theorem disconnect_heartbeatTimer : client.disconnect.heartbeatTimer = false := by
  unfold disconnect cancelDeferredClose
  split <;> split <;> rfl

/-- Whoever disconnects says so. -/
theorem honest_disconnect : client.disconnect.Honest where
  opened said := by
    rw [disconnect_status] at said
    cases said
  heartbeat beats := by
    rw [disconnect_heartbeatTimer] at beats
    cases beats
  moves _ := .inl (.inl disconnect_status)

theorem Honest.scheduleReconnect (honest : client.Honest) : client.scheduleReconnect.Honest := by
  unfold SharedWebSocketClient.scheduleReconnect
  split
  · exact honest
  · exact ⟨⟨(fun said => by cases said), honest.heartbeat⟩, fun _ => .inr (.inr (.inr rfl))⟩

/-- **A subscriber who connects** has something to wait for. -/
theorem Beating.connect (beating : client.Beating) : client.connect.Honest := by
  unfold SharedWebSocketClient.connect
  split
  · next nobody =>
      exact ⟨beating, fun subscribed => absurd nobody (Nat.ne_of_gt subscribed)⟩
  split
  · next has => exact ⟨beating, fun _ => .inr (.inl (unclosed_of_hasSocket has))⟩
  · refine ⟨⟨fun said => ?_, beating.heartbeat⟩, fun _ => .inr (.inr (.inl (Nat.succ_pos _)))⟩
    have status : (if 0 < client.reconnectAttempt then WebSocketStatus.reconnecting
        else .connecting) = .opened := said
    split at status <;> cases status

theorem Beating.cancelDeferredClose (beating : client.Beating) :
    client.cancelDeferredClose.Beating := by
  unfold SharedWebSocketClient.cancelDeferredClose
  split
  · exact beating
  · exact ⟨beating.opened, beating.heartbeat⟩

theorem Honest.removeSubscriber (honest : client.Honest) : client.removeSubscriber.Honest := by
  have fewer : ∀ after : SharedWebSocketClient, after.subscribers = client.subscribers - 1 →
      0 < after.subscribers → 0 < client.subscribers := by
    intro after same positive
    omega
  unfold SharedWebSocketClient.removeSubscriber
  dsimp only
  split
  · exact honest.of_same rfl rfl rfl rfl (fewer _ rfl) rfl rfl
  · exact honest.of_same rfl rfl rfl rfl (fewer _ rfl) rfl rfl

/-- The rest of a `connect` whose token has come. -/
theorem Beating.connectWith (beating : client.Beating) (accessToken : Option String)
    (constructed : Bool) : (client.connectWith accessToken constructed).Honest := by
  unfold SharedWebSocketClient.connectWith
  split
  · exact honest_disconnect
  split
  · next nobody =>
      exact ⟨beating, fun subscribed => absurd nobody (Nat.ne_of_gt subscribed)⟩
  split
  · have new : client.createSocket.Unclosed :=
      ⟨.connecting, List.getElem?_concat_length, fun same => by cases same⟩
    exact ⟨⟨fun said => ⟨(beating.opened said).1, new⟩, fun _ => rfl⟩, fun _ => .inr (.inl new)⟩
  · exact ⟨⟨(fun said => by cases said), beating.heartbeat⟩, fun _ => .inl (.inr rfl)⟩

theorem Honest.deferredClose (honest : client.Honest) : client.deferredClose.Honest := by
  unfold SharedWebSocketClient.deferredClose
  split
  · exact honest_disconnect.of_same rfl rfl rfl rfl id rfl rfl
  · exact honest

theorem Honest.refreshed (honest : client.Honest) (token : Option String) :
    (client.refreshed token).Honest := by
  unfold SharedWebSocketClient.refreshed
  split
  · exact honest_disconnect
  · exact honest.scheduleReconnect

theorem Honest.become (honest : client.Honest) {socket : ℕ} {state : ReadyState}
    (alive : state ≠ .closed) : (client.become socket state).Honest where
  opened said := ⟨(honest.opened said).1, (honest.opened said).2.become alive⟩
  heartbeat := honest.heartbeat
  moves subscribed := (honest.moves subscribed).imp_right fun pending =>
    pending.imp_left fun unclosed => unclosed.become alive

/-- A socket that has just opened. -/
theorem Honest.onopen (honest : client.Honest) {socket : ℕ}
    (opened : client.sockets[socket]? = some .opened) : (client.onopen socket).Honest := by
  unfold SharedWebSocketClient.onopen
  split
  · exact honest
  · next current =>
      rw [ne_eq, not_not] at current
      have unclosed : client.Unclosed :=
        ⟨.opened, Option.bind_eq_some_iff.mpr ⟨socket, current, opened⟩, fun same => by cases same⟩
      refine ⟨⟨fun _ => ⟨rfl, unclosed⟩, fun _ => ?_⟩, fun _ => .inr (.inl unclosed)⟩
      show client.socket.isSome = true
      rw [current]
      rfl

theorem Honest.onerror (honest : client.Honest) (socket : ℕ) : (client.onerror socket).Honest := by
  unfold SharedWebSocketClient.onerror
  split
  · exact honest
  · exact ⟨⟨(fun said => by cases said), honest.heartbeat⟩, fun _ => .inl (.inr rfl)⟩

/-- **A socket that has closed**: if it is the current one, the client says so and tries
again, unless the close was a normal one. -/
theorem Honest.onclose (honest : client.Honest) (socket code : ℕ) :
    ((client.become socket .closed).onclose socket code).Honest := by
  unfold SharedWebSocketClient.onclose
  split
  · next other =>
      refine ⟨⟨fun said => ?_, honest.heartbeat⟩, fun subscribed => ?_⟩
      · exact ⟨(honest.opened said).1, (honest.opened said).2.become_of_ne other⟩
      · exact (honest.moves subscribed).imp_right fun pending =>
          pending.imp_left fun unclosed => unclosed.become_of_ne other
  · have gone : (({ client.become socket .closed with socket := none }.clearHeartbeat).setStatus
        .closed).Honest :=
      ⟨⟨(fun said => by cases said), fun beats => (by cases beats)⟩, fun _ => .inl (.inl rfl)⟩
    dsimp only
    split
    · split
      · exact gone.of_same rfl rfl rfl rfl id rfl rfl
      · exact gone.scheduleReconnect
    · exact gone

/-! ## Runs -/

theorem honest_start : start.Honest where
  opened said := by cases said
  heartbeat beats := by cases beats
  moves subscribed := absurd subscribed (Nat.lt_irrefl 0)

/-- **One step.** -/
theorem honest_step {next : WebSocketStep} (honest : client.Honest)
    (leaves : client.LeavesPending next) (moved : client.step next = some after) :
    after.Honest := by
  cases next with
  | addSubscriber =>
      cases moved
      exact Beating.connect (Beating.cancelDeferredClose ⟨honest.opened, honest.heartbeat⟩)
  | removeSubscriber =>
      cases moved
      exact honest.removeSubscriber
  | logout =>
      cases moved
      exact honest_disconnect
  | tokenArrives accessToken constructed =>
      obtain ⟨-, ⟨⟩⟩ := Option.ite_none_right_eq_some.mp moved
      have fewer : { client with lookups := client.lookups - 1 }.Beating :=
        ⟨honest.opened, honest.heartbeat⟩
      exact fewer.connectWith accessToken constructed
  | lookupRejects =>
      obtain ⟨waiting, ⟨⟩⟩ := Option.ite_none_right_eq_some.mp moved
      exact ⟨⟨honest.opened, honest.heartbeat⟩, leaves waiting⟩
  | refreshCompletes token =>
      obtain ⟨-, ⟨⟩⟩ := Option.ite_none_right_eq_some.mp moved
      have fewer : { client with refreshes := client.refreshes - 1 }.Honest :=
        honest.of_same rfl rfl rfl rfl id rfl rfl
      exact fewer.refreshed token
  | refreshRejects =>
      obtain ⟨-, ⟨⟩⟩ := Option.ite_none_right_eq_some.mp moved
      exact honest.of_same rfl rfl rfl rfl id rfl rfl
  | reconnectTimerFires =>
      obtain ⟨-, ⟨⟩⟩ := Option.ite_none_right_eq_some.mp moved
      exact Beating.connect ⟨honest.opened, honest.heartbeat⟩
  | closeTimerFires timer =>
      obtain ⟨-, ⟨⟩⟩ := Option.ite_none_right_eq_some.mp moved
      exact Honest.deferredClose (honest.of_same rfl rfl rfl rfl id rfl rfl)
  | socketOpens socket =>
      obtain ⟨connecting, ⟨⟩⟩ := Option.ite_none_right_eq_some.mp moved
      have moves : (client.become socket .opened).Honest := honest.become fun same => by cases same
      refine moves.onopen ?_
      exact List.getElem?_set_self (List.getElem?_eq_some_iff.mp connecting).1
  | socketErrors socket =>
      obtain ⟨-, ⟨⟩⟩ := Option.ite_none_right_eq_some.mp moved
      exact honest.onerror socket
  | socketCloses socket =>
      obtain ⟨-, ⟨⟩⟩ := Option.ite_none_right_eq_some.mp moved
      exact honest.become fun same => by cases same
  | socketClosed socket code =>
      obtain ⟨-, ⟨⟩⟩ := Option.ite_none_right_eq_some.mp moved
      exact honest.onclose socket code

/-- A client whose last lookup rejects says that it is connecting for good. -/
theorem not_honest_of_not_leavesPending {next : WebSocketStep}
    (last : ¬ client.LeavesPending next) :
    ∃ after, client.step next = some after ∧ ¬ after.Honest := by
  cases next with
  | lookupRejects =>
      simp only [LeavesPending, not_forall] at last
      obtain ⟨waiting, subscribed, nothing⟩ := last
      exact ⟨_, if_pos waiting, fun honest => nothing (honest.moves subscribed)⟩
  | _ => exact absurd trivial last

/-- **The status is honest** after every step of a run in any order, if and only if no token
lookup that rejects was all that a client with subscribers had to wait for. -/
theorem honest_iff_leavesPending (steps : List WebSocketStep) :
    (∀ taken after, taken <+: steps → runFrom step start taken = some after → after.Honest) ↔
      Meets LeavesPending step start steps :=
  forall_prefix_iff_meets (fun _ => id) (fun _ _ _ => honest_step)
    (fun _ _ _ => not_honest_of_not_leavesPending) honest_start

end SharedWebSocketClient

end PersonTracking.Web
