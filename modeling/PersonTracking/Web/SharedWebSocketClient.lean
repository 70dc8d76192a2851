import PersonTracking.Library.Transition

/-!
# The shared WebSocket of a page

`SharedWebSocketClient` as a transition system.  JavaScript runs a callback to its end,
so a step is what one callback does: a method a component calls, the rest of a
`connect` whose token has come, the rest of a refresh, a timer that fires, an event of
a socket.  They come in any order.

Sockets are numbered as they are created, and so are the timers of `removeSubscriber`;
a socket that the client has let go of is still there.

`oneSocket_iff_stillFree` says exactly which runs keep to one live socket: those in
which a `connect` that has got its token still finds no live socket, as it did before
it began to wait.  `two_sockets` is a run in which two components subscribe in the same
tick.
-/

namespace PersonTracking.Web

open Library

/-- `WebSocket.readyState`. -/
inductive ReadyState
  | connecting
  | opened
  | closing
  | closed
deriving DecidableEq, Repr

/-- What `WebSocket.close` makes of it. -/
def ReadyState.close : ReadyState → ReadyState
  | connecting | opened => closing
  | closing => closing
  | closed => closed

theorem ReadyState.close_ne (state : ReadyState) :
    state.close ≠ .opened ∧ state.close ≠ .connecting := by
  cases state <;> simp [close]

/-- `WebSocketStatus`. -/
inductive WebSocketStatus
  | idle
  | connecting
  | opened
  | reconnecting
  | closed
  | error
deriving DecidableEq, Repr

/-- The client with the sockets it has created, the timers that are due, and the calls
that wait. -/
structure SharedWebSocketClient where
  /-- The sockets created so far. -/
  sockets : List ReadyState
  /-- The field `socket`. -/
  socket : Option ℕ
  status : WebSocketStatus
  subscribers : ℕ
  reconnectAttempt : ℕ
  /-- `reconnectTimer` is not `null`.  Its callback and its only other user set it back. -/
  reconnectTimer : Bool
  heartbeatTimer : Bool
  /-- The handle `closeTimer`, which may be that of a timer that has fired. -/
  closeTimer : Option ℕ
  /-- The close timers that are due. -/
  closeTimers : List ℕ
  /-- How many close timers there have been. -/
  timers : ℕ
  /-- The calls of `connect` that wait for their token. -/
  lookups : ℕ
  /-- The refreshes after a close with the code 4001 that have not come back. -/
  refreshes : ℕ
  /-- A close timer has fired with no subscriber left, and none has come since. -/
  released : Bool
deriving DecidableEq, Repr

/-- What can happen next. -/
inductive WebSocketStep
  | addSubscriber
  | removeSubscriber
  /-- The store says that nobody is authenticated. -/
  | logout
  /-- A token lookup of `connect` comes back, and the constructor throws or not. -/
  | tokenArrives (accessToken : Option String) (constructed : Bool)
  | lookupRejects
  | refreshCompletes (token : Option String)
  | refreshRejects
  | reconnectTimerFires
  | closeTimerFires (timer : ℕ)
  | socketOpens (socket : ℕ)
  | socketErrors (socket : ℕ)
  /-- The other side has begun to close. -/
  | socketCloses (socket : ℕ)
  | socketClosed (socket : ℕ) (code : ℕ)
deriving DecidableEq, Repr

/-- `if (!token)`. -/
def isMissing (token : Option String) : Bool := token.getD "" = ""

namespace SharedWebSocketClient

/-- The client as the module creates it. -/
def start : SharedWebSocketClient where
  sockets := []
  socket := none
  status := .idle
  subscribers := 0
  reconnectAttempt := 0
  reconnectTimer := false
  heartbeatTimer := false
  closeTimer := none
  closeTimers := []
  timers := 0
  lookups := 0
  refreshes := 0
  released := false

variable (client : SharedWebSocketClient)

/-- The socket is connecting or open. -/
def Live (socket : ℕ) : Prop :=
  client.sockets[socket]? = some .opened ∨ client.sockets[socket]? = some .connecting

instance (socket : ℕ) : Decidable (client.Live socket) :=
  inferInstanceAs (Decidable (_ ∨ _))

/-- `this.socket?.readyState`. -/
def readyState : Option ReadyState := client.socket.bind fun socket => client.sockets[socket]?

/-- The current socket is open or connecting. -/
def HasSocket : Prop :=
  client.readyState = some .opened ∨ client.readyState = some .connecting

instance : Decidable client.HasSocket := inferInstanceAs (Decidable (_ ∨ _))

/-! ## The methods -/

/-- `setStatus`. -/
def setStatus (nextStatus : WebSocketStatus) : SharedWebSocketClient :=
  { client with status := nextStatus }

/-- `clearReconnectTimer`. -/
def clearReconnectTimer : SharedWebSocketClient := { client with reconnectTimer := false }

/-- `clearHeartbeat`. -/
def clearHeartbeat : SharedWebSocketClient := { client with heartbeatTimer := false }

/-- `startHeartbeat`. -/
def startHeartbeat : SharedWebSocketClient := { client with heartbeatTimer := true }

/-- `cancelDeferredClose`. -/
def cancelDeferredClose : SharedWebSocketClient :=
  match client.closeTimer with
  | none => client
  | some timer => { client with
      closeTimers := client.closeTimers.filter (· ≠ timer)
      closeTimer := none }

/-- Take the handlers off a socket and close it. -/
def closeSocket (socket : ℕ) : SharedWebSocketClient :=
  { client with sockets := client.sockets.modify socket ReadyState.close }

/-- `disconnect`. -/
def disconnect : SharedWebSocketClient :=
  let cleared := client.clearReconnectTimer.clearHeartbeat.cancelDeferredClose
  let released := { cleared with socket := none }
  (match client.socket with
  | none => released
  | some socket => released.closeSocket socket).setStatus .closed

/-- `useAuthStore.getState().logout()`, which calls the listener below the class. -/
def logout : SharedWebSocketClient := client.disconnect

/-- `scheduleReconnect`. -/
def scheduleReconnect : SharedWebSocketClient :=
  if client.reconnectTimer ∨ client.subscribers = 0 then client
  else { client with
    reconnectAttempt := client.reconnectAttempt + 1
    status := .reconnecting
    reconnectTimer := true }

/-- `connect` up to its `await`. -/
def connect : SharedWebSocketClient :=
  if client.subscribers = 0 then client
  else if client.HasSocket then client
  else
    let waiting := client.clearReconnectTimer.setStatus
      (if 0 < client.reconnectAttempt then .reconnecting else .connecting)
    { waiting with lookups := client.lookups + 1 }

/-- `this.socket = new WebSocket(…)`. -/
def createSocket : SharedWebSocketClient :=
  { client with
    sockets := client.sockets ++ [.connecting]
    socket := some client.sockets.length }

/-- `connect` from its `await` on. -/
def connectWith (accessToken : Option String) (constructed : Bool) : SharedWebSocketClient :=
  if isMissing accessToken then client.logout.disconnect
  else if client.subscribers = 0 then client
  else if constructed then client.createSocket
  else client.setStatus .error

/-- `addSubscriber`. -/
def addSubscriber : SharedWebSocketClient :=
  { client with subscribers := client.subscribers + 1, released := false }
    |>.cancelDeferredClose.connect

/-- `removeSubscriber`. -/
def removeSubscriber : SharedWebSocketClient :=
  let fewer := { client with subscribers := client.subscribers - 1 }
  if fewer.subscribers = 0 then { fewer with
    closeTimer := some client.timers
    closeTimers := client.closeTimers ++ [client.timers]
    timers := client.timers + 1 }
  else fewer

/-- The callback of a close timer. -/
def deferredClose : SharedWebSocketClient :=
  if client.subscribers = 0 then { client.disconnect with released := true } else client

/-- The rest of the handler of a close with the code 4001. -/
def refreshed (token : Option String) : SharedWebSocketClient :=
  if isMissing token then client.disconnect else client.scheduleReconnect

/-- `socket.onopen`. -/
def onopen (socket : ℕ) : SharedWebSocketClient :=
  if client.socket ≠ some socket then client
  else ({ client with reconnectAttempt := 0 }.setStatus .opened).startHeartbeat

/-- `socket.onerror`. -/
def onerror (socket : ℕ) : SharedWebSocketClient :=
  if client.socket ≠ some socket then client else client.setStatus .error

/-- `socket.onclose`. -/
def onclose (socket : ℕ) (code : ℕ) : SharedWebSocketClient :=
  if client.socket ≠ some socket then client
  else
    let gone := ({ client with socket := none }.clearHeartbeat).setStatus .closed
    if 0 < client.subscribers ∧ code ≠ 1000 then
      if code = 4001 then { gone with refreshes := gone.refreshes + 1 }
      else gone.scheduleReconnect
    else gone

/-- The browser moves a socket on. -/
def become (socket : ℕ) (state : ReadyState) : SharedWebSocketClient :=
  { client with sockets := client.sockets.set socket state }

/-- One step. -/
def step : WebSocketStep → Option SharedWebSocketClient
  | .addSubscriber => some client.addSubscriber
  | .removeSubscriber => some client.removeSubscriber
  | .logout => some client.logout
  | .tokenArrives accessToken constructed =>
      if 0 < client.lookups then
        some ({ client with lookups := client.lookups - 1 }.connectWith accessToken constructed)
      else none
  | .lookupRejects =>
      if 0 < client.lookups then some { client with lookups := client.lookups - 1 } else none
  | .refreshCompletes token =>
      if 0 < client.refreshes then
        some ({ client with refreshes := client.refreshes - 1 }.refreshed token)
      else none
  | .refreshRejects =>
      if 0 < client.refreshes then some { client with refreshes := client.refreshes - 1 } else none
  | .reconnectTimerFires =>
      if client.reconnectTimer then some client.clearReconnectTimer.connect else none
  | .closeTimerFires timer =>
      if timer ∈ client.closeTimers then
        some { client with closeTimers := client.closeTimers.erase timer }.deferredClose
      else none
  | .socketOpens socket =>
      if client.sockets[socket]? = some .connecting then
        some ((client.become socket .opened).onopen socket)
      else none
  | .socketErrors socket =>
      if client.sockets[socket]?.isSome then some (client.onerror socket) else none
  | .socketCloses socket =>
      if client.Live socket then some (client.become socket .closing) else none
  | .socketClosed socket code =>
      if client.sockets[socket]?.isSome ∧ client.sockets[socket]? ≠ some .closed then
        some ((client.become socket .closed).onclose socket code)
      else none

/-- **One socket**: no two of the sockets are live, and none is once a close timer has
found no subscriber and as long as none comes. -/
structure OneSocket : Prop where
  unique : ∀ socket other, client.Live socket → client.Live other → socket = other
  released : client.released = true → ∀ socket, ¬ client.Live socket

/-- The condition on a step: where a `connect` is about to create a socket, the current
one is not live. -/
def StillFree : WebSocketStep → Prop
  | .tokenArrives accessToken true =>
      0 < client.lookups → isMissing accessToken = false → 0 < client.subscribers →
        ¬ client.HasSocket
  | _ => True

/-- The invariant: a live socket is the current one, and a client that has been
released has neither a subscriber nor a socket. -/
structure Held : Prop where
  current : ∀ socket, client.Live socket → client.socket = some socket
  released : client.released = true → client.subscribers = 0 ∧ client.socket = none

variable {client} {after : SharedWebSocketClient}

theorem hasSocket_iff : client.HasSocket ↔ ∃ socket, client.socket = some socket ∧
    client.Live socket := by
  unfold HasSocket readyState Live
  cases client.socket <;> simp

theorem Live.lt_length {socket : ℕ} (live : client.Live socket) :
    socket < client.sockets.length := by
  rcases live with opened | connecting
  · exact (List.getElem?_eq_some_iff.mp opened).1
  · exact (List.getElem?_eq_some_iff.mp connecting).1

/-- The sockets that were live still are. -/
theorem Live.createSocket {socket : ℕ} (live : client.Live socket) :
    client.createSocket.Live socket := by
  rwa [Live, SharedWebSocketClient.createSocket, List.getElem?_append_left live.lt_length]

/-- And the new one is. -/
theorem live_createSocket : client.createSocket.Live client.sockets.length :=
  .inr List.getElem?_concat_length

/-- No other is. -/
theorem live_of_createSocket {socket : ℕ} (live : client.createSocket.Live socket) :
    client.Live socket ∨ socket = client.sockets.length := by
  rw [Live, createSocket] at live
  rcases Nat.lt_trichotomy socket client.sockets.length with before | same | beyond
  · simp only [List.getElem?_append_left before] at live
    exact .inl live
  · exact .inr same
  · have bound : (client.sockets ++ [ReadyState.connecting]).length ≤ socket := by
      rw [List.length_append, List.length_singleton]
      exact beyond
    simp [List.getElem?_eq_none bound] at live

/-! ## Letting go of the socket -/

@[simp] theorem cancelDeferredClose_sockets :
    client.cancelDeferredClose.sockets = client.sockets := by
  unfold cancelDeferredClose
  split <;> rfl

@[simp] theorem disconnect_socket : client.disconnect.socket = none := by
  unfold disconnect
  split <;> rfl

@[simp] theorem disconnect_subscribers : client.disconnect.subscribers = client.subscribers := by
  unfold disconnect cancelDeferredClose
  split <;> split <;> rfl

@[simp] theorem disconnect_released : client.disconnect.released = client.released := by
  unfold disconnect cancelDeferredClose
  split <;> split <;> rfl

theorem disconnect_sockets : client.disconnect.sockets =
    match client.socket with
    | none => client.sockets
    | some socket => client.sockets.modify socket ReadyState.close := by
  unfold disconnect
  split <;> simp [setStatus, closeSocket, clearHeartbeat, clearReconnectTimer]

/-- **A client that disconnects** leaves no live socket. -/
theorem Held.not_live_disconnect (held : client.Held) (socket : ℕ) :
    ¬ client.disconnect.Live socket := by
  intro live
  rw [Live, disconnect_sockets] at live
  cases current : client.socket with
  | none =>
      rw [current] at live
      have own := held.current socket live
      rw [current] at own
      cases own
  | some own =>
      rw [current] at live
      by_cases same : own = socket
      · subst same
        simp [ReadyState.close_ne] at live
      · simp only [List.getElem?_modify_ne _ _ same] at live
        exact same (Option.some.inj (current.symm.trans (held.current socket live)))

/-! ## What the methods keep -/

namespace Held

theorem oneSocket (held : client.Held) : client.OneSocket where
  unique socket other live too :=
    Option.some.inj ((held.current socket live).symm.trans (held.current other too))
  released released socket live := by
    have current := held.current socket live
    rw [(held.released released).2] at current
    cases current

/-- Nothing else counts of a client. -/
theorem of_same (held : client.Held) (sockets : after.sockets = client.sockets)
    (socket : after.socket = client.socket) (subscribers : after.subscribers = client.subscribers)
    (released : after.released = client.released) : after.Held where
  current other live := by
    rw [Live, sockets] at live
    exact socket.trans (held.current other live)
  released given := by
    rw [subscribers, socket]
    exact held.released (released.symm.trans given)

theorem cancelDeferredClose (held : client.Held) : client.cancelDeferredClose.Held := by
  unfold SharedWebSocketClient.cancelDeferredClose
  split
  · exact held
  · exact held.of_same rfl rfl rfl rfl

theorem scheduleReconnect (held : client.Held) : client.scheduleReconnect.Held := by
  unfold SharedWebSocketClient.scheduleReconnect
  split
  · exact held
  · exact held.of_same rfl rfl rfl rfl

theorem connect (held : client.Held) : client.connect.Held := by
  unfold SharedWebSocketClient.connect
  split
  · exact held
  · split
    · exact held
    · exact held.of_same rfl rfl rfl rfl

/-- A socket that was not live does not become so. -/
theorem become (held : client.Held) {socket : ℕ} {state : ReadyState}
    (live : state = .opened ∨ state = .connecting → client.Live socket) :
    (client.become socket state).Held where
  current other now := by
    refine held.current other ?_
    by_cases same : socket = other
    · subst same
      refine live ?_
      simp only [Live, SharedWebSocketClient.become, List.getElem?_set_self'] at now
      refine now.imp (fun opened => ?_) fun connecting => ?_
      · obtain ⟨_, -, same⟩ := Option.map_eq_some_iff.mp opened
        exact same
      · obtain ⟨_, -, same⟩ := Option.map_eq_some_iff.mp connecting
        exact same
    · simpa only [Live, SharedWebSocketClient.become, List.getElem?_set_ne same] using now
  released := held.released

theorem disconnect (held : client.Held) : client.disconnect.Held where
  current socket live := absurd live (held.not_live_disconnect socket)
  released given := by
    rw [disconnect_released] at given
    rw [disconnect_subscribers, disconnect_socket]
    exact ⟨(held.released given).1, rfl⟩

theorem deferredClose (held : client.Held) : client.deferredClose.Held := by
  unfold SharedWebSocketClient.deferredClose
  split
  · next nobody =>
      refine ⟨fun socket live => absurd live (held.not_live_disconnect socket), fun _ => ?_⟩
      exact ⟨disconnect_subscribers.trans nobody, disconnect_socket⟩
  · exact held

theorem refreshed (held : client.Held) (token : Option String) : (client.refreshed token).Held := by
  unfold SharedWebSocketClient.refreshed
  split
  · exact held.disconnect
  · exact held.scheduleReconnect

theorem onopen (held : client.Held) (socket : ℕ) : (client.onopen socket).Held := by
  unfold SharedWebSocketClient.onopen
  split
  · exact held
  · exact held.of_same rfl rfl rfl rfl

theorem onerror (held : client.Held) (socket : ℕ) : (client.onerror socket).Held := by
  unfold SharedWebSocketClient.onerror
  split
  · exact held
  · exact held.of_same rfl rfl rfl rfl

theorem addSubscriber (held : client.Held) : client.addSubscriber.Held := by
  refine connect (cancelDeferredClose ⟨held.current, fun given => ?_⟩)
  cases given

theorem removeSubscriber (held : client.Held) : client.removeSubscriber.Held := by
  have fewer : { client with subscribers := client.subscribers - 1 }.Held := by
    refine ⟨held.current, fun given => ⟨?_, (held.released given).2⟩⟩
    show client.subscribers - 1 = 0
    rw [(held.released given).1]
  unfold SharedWebSocketClient.removeSubscriber
  dsimp only
  split
  · exact fewer.of_same rfl rfl rfl rfl
  · exact fewer

/-- A socket that closes is let go of if it is the current one. -/
theorem onclose (held : client.Held) {socket : ℕ} (code : ℕ)
    (dead : ¬ client.Live socket) : (client.onclose socket code).Held := by
  unfold SharedWebSocketClient.onclose
  split
  · exact held
  · next current =>
      rw [ne_eq, not_not] at current
      have gone : { client with socket := none }.Held := by
        refine ⟨fun other live => ?_, fun given => ⟨(held.released given).1, rfl⟩⟩
        have same := Option.some.inj (current.symm.trans (held.current other live))
        exact absurd live (same ▸ dead)
      dsimp only
      split
      · split
        · exact gone.of_same rfl rfl rfl rfl
        · exact scheduleReconnect (gone.of_same rfl rfl rfl rfl)
      · exact gone.of_same rfl rfl rfl rfl

/-- The one step that needs the condition. -/
theorem connectWith (held : client.Held) (accessToken : Option String) (constructed : Bool)
    (free : constructed = true → isMissing accessToken = false → 0 < client.subscribers →
      ¬ client.HasSocket) : (client.connectWith accessToken constructed).Held := by
  unfold SharedWebSocketClient.connectWith
  split
  · exact held.disconnect.disconnect
  split
  · exact held
  split
  · next present subscribed made =>
      rw [Bool.not_eq_true] at present
      have none := free made present (Nat.pos_of_ne_zero subscribed)
      refine ⟨fun socket live => ?_, fun given => absurd (held.released given).1 subscribed⟩
      rcases live_of_createSocket live with old | rfl
      · exact absurd (hasSocket_iff.mpr ⟨socket, held.current socket old, old⟩) none
      · rfl
  · exact held.of_same rfl rfl rfl rfl

end Held

/-! ## Runs -/

/-- **One step.** -/
theorem held_step {next : WebSocketStep} (held : client.Held) (free : client.StillFree next)
    (moved : client.step next = some after) : after.Held := by
  cases next with
  | addSubscriber =>
      cases moved
      exact held.addSubscriber
  | removeSubscriber =>
      cases moved
      exact held.removeSubscriber
  | logout =>
      cases moved
      exact held.disconnect
  | tokenArrives accessToken constructed =>
      obtain ⟨waiting, ⟨⟩⟩ := Option.ite_none_right_eq_some.mp moved
      have fewer : { client with lookups := client.lookups - 1 }.Held :=
        held.of_same rfl rfl rfl rfl
      refine fewer.connectWith accessToken constructed ?_
      rintro rfl present subscribed
      exact free waiting present subscribed
  | lookupRejects =>
      obtain ⟨-, ⟨⟩⟩ := Option.ite_none_right_eq_some.mp moved
      exact held.of_same rfl rfl rfl rfl
  | refreshCompletes token =>
      obtain ⟨-, ⟨⟩⟩ := Option.ite_none_right_eq_some.mp moved
      have fewer : { client with refreshes := client.refreshes - 1 }.Held :=
        held.of_same rfl rfl rfl rfl
      exact fewer.refreshed token
  | refreshRejects =>
      obtain ⟨-, ⟨⟩⟩ := Option.ite_none_right_eq_some.mp moved
      exact held.of_same rfl rfl rfl rfl
  | reconnectTimerFires =>
      obtain ⟨-, ⟨⟩⟩ := Option.ite_none_right_eq_some.mp moved
      exact Held.connect (held.of_same rfl rfl rfl rfl)
  | closeTimerFires timer =>
      obtain ⟨-, ⟨⟩⟩ := Option.ite_none_right_eq_some.mp moved
      exact Held.deferredClose (held.of_same rfl rfl rfl rfl)
  | socketOpens socket =>
      obtain ⟨connecting, ⟨⟩⟩ := Option.ite_none_right_eq_some.mp moved
      exact Held.onopen (held.become fun _ => .inr connecting) socket
  | socketErrors socket =>
      obtain ⟨-, ⟨⟩⟩ := Option.ite_none_right_eq_some.mp moved
      exact held.onerror socket
  | socketCloses socket =>
      obtain ⟨live, ⟨⟩⟩ := Option.ite_none_right_eq_some.mp moved
      exact held.become fun _ => live
  | socketClosed socket code =>
      obtain ⟨⟨there, -⟩, ⟨⟩⟩ := Option.ite_none_right_eq_some.mp moved
      refine Held.onclose (held.become fun live => ?_) code ?_
      · simp at live
      · obtain ⟨state, found⟩ := Option.isSome_iff_exists.mp there
        simp [Live, become, List.getElem?_set_self', found]

/-- A `connect` that finds a live socket when its token has come makes a second one. -/
theorem two_of_not_stillFree {next : WebSocketStep} (taken : ¬ client.StillFree next) :
    ∃ after, client.step next = some after ∧ ¬ after.OneSocket := by
  cases next with
  | tokenArrives accessToken constructed =>
      cases constructed with
      | false => exact absurd trivial taken
      | true =>
          simp only [StillFree, not_forall, not_not] at taken
          obtain ⟨waiting, present, subscribed, live⟩ := taken
          obtain ⟨socket, -, live⟩ := hasSocket_iff.mp live
          refine ⟨_, if_pos waiting, fun one => ?_⟩
          rw [connectWith, if_neg (by simp [present]), if_neg (Nat.ne_of_gt subscribed),
            if_pos rfl] at one
          have fewer : { client with lookups := client.lookups - 1 }.Live socket := live
          exact absurd (one.unique socket _ fewer.createSocket live_createSocket)
            (Nat.ne_of_lt fewer.lt_length)
  | _ => exact absurd trivial taken

theorem held_start : start.Held where
  current socket live := by simp [Live, start] at live
  released given := by cases given

/-- **One live socket, and none once the client has been released**, after every step
of a run in any order, if and only if each `connect` that is about to create a socket
finds the current one not live. -/
theorem oneSocket_iff_stillFree (steps : List WebSocketStep) :
    (∀ taken after, taken <+: steps → runFrom step start taken = some after → after.OneSocket) ↔
      Meets StillFree step start steps :=
  forall_prefix_iff_meets (fun _ => Held.oneSocket) (fun _ _ _ => held_step)
    (fun _ _ _ => two_of_not_stillFree) held_start

/-! ## Two subscriptions in one tick -/

/-- Two components subscribe, and both lookups come back. -/
def subscribeTwice : List WebSocketStep :=
  [.addSubscriber, .addSubscriber, .tokenArrives (some "token") true,
    .tokenArrives (some "token") true]

/-- Both sockets open, the components go away, and the close timer fires. -/
def leave : List WebSocketStep :=
  [.socketOpens 0, .socketOpens 1, .removeSubscriber, .removeSubscriber, .closeTimerFires 0]

/-- **Two sockets**: the header and a page subscribe in the same tick, and two sockets
are live.  The first of them is still open when the client has been released. -/
theorem two_sockets :
    (∃ client, runFrom step start subscribeTwice = some client ∧ ¬ client.OneSocket) ∧
      ∃ client, runFrom step start (subscribeTwice ++ leave) = some client ∧
        client.released = true ∧ client.Live 0 := by
  have both : ∃ client ∈ runFrom step start subscribeTwice, client.Live 0 ∧ client.Live 1 := by
    decide
  have left : ∃ client ∈ runFrom step start (subscribeTwice ++ leave),
      client.released = true ∧ client.Live 0 := by
    decide
  obtain ⟨client, reached, first, second⟩ := both
  refine ⟨⟨client, reached, fun one => ?_⟩, left⟩
  exact absurd (one.unique 0 1 first second) Nat.zero_ne_one

end SharedWebSocketClient

end PersonTracking.Web
