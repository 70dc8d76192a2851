import Mathlib.Data.List.Nodup
import PersonTracking.Library.Transition

/-!
# The gateway's WebSocket pool

`ConnectionManager` at its await points.  A broadcast walks
`active_connections` with a list iterator, which is an index, and is suspended
in every send; a handshake is suspended between `can_accept` and the append.
While one task is suspended the others change the list.

`delivered_of_guarded` and `length_le_of_guarded` say under which condition on
these changes every live client is sent a broadcast once and the pool keeps its
cap; `broadcast_skips` and `cap_exceeded` are the runs that need it.
-/

namespace PersonTracking.Gateway

open Library

/-- `MAX_CONNECTIONS`. -/
def maxConnections : ℕ := 500

variable {Conn : Type} [DecidableEq Conn]

/-- `can_accept`. -/
def canAccept (activeConnections : List Conn) : Bool :=
  (activeConnections.length < maxConnections : Bool)

/-- `disconnect`. -/
def disconnect (activeConnections : List Conn) (websocket : Conn) : List Conn :=
  if websocket ∈ activeConnections then activeConnections.erase websocket else activeConnections

section Disconnect

variable {active : List Conn} {c d : Conn}

theorem disconnect_eq_erase : disconnect active c = active.erase c := by
  unfold disconnect
  split
  · rfl
  · rename_i absent
    exact (List.erase_of_not_mem absent).symm

/-- Several disconnects leave the connections not among them. -/
theorem mem_foldl_disconnect (nodup : active.Nodup) {stale : List Conn}
    (member : c ∈ stale.foldl disconnect active) : c ∈ active ∧ c ∉ stale := by
  induction stale generalizing active with
  | nil => exact ⟨member, List.not_mem_nil⟩
  | cons first rest ih =>
      rw [List.foldl_cons, disconnect_eq_erase] at member
      obtain ⟨kept, notLater⟩ := ih (nodup.erase first) member
      obtain ⟨different, before⟩ := nodup.mem_erase_iff.mp kept
      refine ⟨before, fun stale => ?_⟩
      rcases List.mem_cons.mp stale with here | later
      · exact different here
      · exact notLater later

end Disconnect

/-! ## A broadcast -/

/-- A broadcast under way: the pool, the connection whose `send_json` is awaited
(none after the end), the index of the list iterator, the connections whose send
has raised, and the sends so far.  `stayed` are those in the pool all along. -/
structure Broadcast (Conn : Type) where
  active : List Conn
  sending : Option Conn
  next : ℕ
  stale : List Conn
  sent : List Conn
  stayed : List Conn

/-- What can happen while the broadcast is suspended: its send returns or raises,
or another task connects or disconnects a client. -/
inductive BroadcastStep (Conn : Type)
  | resume (raises : Bool)
  | connect (websocket : Conn)
  | disconnect (websocket : Conn)
deriving DecidableEq, Repr

namespace Broadcast

/-- The head of the loop: send to the next connection, or clean up after the last. -/
def advance (state : Broadcast Conn) : Broadcast Conn :=
  match state.active[state.next]? with
  | some websocket => { state with
      sending := some websocket
      next := state.next + 1
      sent := state.sent ++ [websocket] }
  | none => { state with
      sending := none
      active := state.stale.foldl Gateway.disconnect state.active }

/-- `broadcast` up to its first suspension. -/
def start (active : List Conn) : Broadcast Conn :=
  let state : Broadcast Conn :=
    { active, sending := none, next := 0, stale := [], sent := [], stayed := active }
  if active = [] then state else state.advance

/-- One step, while a send is awaited.  A client connects once. -/
def step (state : Broadcast Conn) (move : BroadcastStep Conn) : Option (Broadcast Conn) :=
  match state.sending with
  | none => none
  | some websocket =>
      match move with
      | .resume raises =>
          some
            (if raises then { state with stale := state.stale ++ [websocket] } else state).advance
      | .connect c =>
          if c ∈ state.active then none else some { state with active := state.active ++ [c] }
      | .disconnect c => some { state with
          active := Gateway.disconnect state.active c
          stayed := state.stayed.erase c }

/-- Who stayed and whose send did not raise was sent the message once, and nobody
whose send raised is in the pool. -/
def Delivered (state : Broadcast Conn) : Prop :=
  (∀ c ∈ state.stayed, c ∉ state.stale → state.sent.count c = 1) ∧
    ∀ c ∈ state.stale, c ∉ state.active

/-- The condition on a step: a connection the iterator has passed is removed only
when none is left ahead of it. -/
def Guarded (state : Broadcast Conn) : BroadcastStep Conn → Prop
  | .disconnect c => c ∈ state.active.take state.next → state.active.length ≤ state.next
  | _ => True

/-- Of those that stayed, the ones behind the iterator were sent the message once
and the ones ahead not yet. -/
structure Fair (state : Broadcast Conn) : Prop where
  nodup : state.active.Nodup
  nodupStayed : state.stayed.Nodup
  stayed : ∀ c ∈ state.stayed, c ∈ state.active
  behind : ∀ c ∈ state.stayed, c ∈ state.active.take state.next → state.sent.count c = 1
  ahead : ∀ c ∈ state.stayed, c ∈ state.active.drop state.next → state.sent.count c = 0

/-- The invariant of a broadcast, under way or ended. -/
def Sound (state : Broadcast Conn) : Prop :=
  match state.sending with
  | some _ => state.Fair
  | none => state.Delivered

variable {state after : Broadcast Conn}

/-- **The loop head** sends to the connection at the index, or ends with everybody served. -/
theorem Fair.advance (fair : state.Fair) : state.advance.Sound := by
  unfold Broadcast.advance
  split
  · rename_i c here
    have nodup : (state.active.take state.next ++ state.active.drop state.next).Nodup := by
      rw [List.take_append_drop]
      exact fair.nodup
    have split : state.active.drop state.next = c :: state.active.drop (state.next + 1) := by
      obtain ⟨inside, found⟩ := List.getElem?_eq_some_iff.mp here
      rw [← found]
      exact List.drop_eq_getElem_cons inside
    -- the connection at the index moves from those ahead to those behind
    have taken : state.active.take (state.next + 1) = state.active.take state.next ++ [c] := by
      rw [List.take_add_one, here]
      rfl
    rw [split, List.nodup_append] at nodup
    obtain ⟨-, rest, apart⟩ := nodup
    show Fair _
    refine ⟨fair.nodup, fair.nodupStayed, fair.stayed, fun d stayed behind => ?_,
      fun d stayed later => ?_⟩
    · show (state.sent ++ [c]).count d = 1
      have either : d ∈ state.active.take state.next ++ [c] := taken ▸ behind
      rcases List.mem_append.mp either with before | this
      · have different : d ≠ c := apart d before c List.mem_cons_self
        rw [List.count_append, fair.behind d stayed before]
        simp [Ne.symm different]
      · rw [List.mem_singleton.mp this] at stayed ⊢
        rw [List.count_append, fair.ahead c stayed (split ▸ List.mem_cons_self)]
        simp
    · show (state.sent ++ [c]).count d = 0
      have different : d ≠ c := fun same =>
        (List.nodup_cons.mp rest).1 (same ▸ later)
      rw [List.count_append, fair.ahead d stayed (split ▸ List.mem_cons_of_mem _ later)]
      simp [Ne.symm different]
  · rename_i ended
    have passed : state.active.length ≤ state.next := List.getElem?_eq_none_iff.mp ended
    show Delivered _
    refine ⟨fun c stayed _ => ?_, fun c stale member => ?_⟩
    · refine fair.behind c stayed ?_
      rw [List.take_of_length_le passed]
      exact fair.stayed c stayed
    · exact (mem_foldl_disconnect fair.nodup member).2 stale

/-- A client that connects is none of those that were there from the start. -/
theorem Fair.connect (fair : state.Fair) {c : Conn} (new : c ∉ state.active) :
    Fair { state with active := state.active ++ [c] } := by
  have other : ∀ d ∈ state.stayed, d ≠ c := fun d stayed same => new (same ▸ fair.stayed d stayed)
  refine ⟨?_, fair.nodupStayed, fun d stayed => List.mem_append_left _ (fair.stayed d stayed),
    fun d stayed behind => fair.behind d stayed ?_, fun d stayed later => fair.ahead d stayed ?_⟩
  · exact List.nodup_append.mpr ⟨fair.nodup, List.nodup_singleton c, fun a before b this => by
      rw [List.mem_singleton.mp this]
      exact fun same => new (same ▸ before)⟩
  · have either : d ∈ (state.active ++ [c]).take state.next := behind
    rw [List.take_append] at either
    rcases List.mem_append.mp either with before | this
    · exact before
    · exact absurd (List.mem_singleton.mp (List.mem_of_mem_take this)) (other d stayed)
  · have either : d ∈ (state.active ++ [c]).drop state.next := later
    rw [List.drop_append] at either
    rcases List.mem_append.mp either with before | this
    · exact before
    · exact absurd (List.mem_singleton.mp (List.mem_of_mem_drop this)) (other d stayed)

/-- **A disconnect** ahead of the iterator, or behind it after the last
connection, moves nobody across its index. -/
theorem Fair.disconnect (fair : state.Fair) {c : Conn}
    (guarded : c ∈ state.active.take state.next → state.active.length ≤ state.next) :
    Fair { state with
      active := Gateway.disconnect state.active c
      stayed := state.stayed.erase c } := by
  rw [disconnect_eq_erase]
  have remains : ∀ d ∈ state.stayed.erase c, d ∈ state.stayed ∧ d ≠ c := fun d member =>
    let ⟨different, before⟩ := fair.nodupStayed.mem_erase_iff.mp member
    ⟨before, different⟩
  have kept : ∀ d ∈ state.stayed.erase c, d ∈ state.active.erase c := fun d member =>
    (List.mem_erase_of_ne (remains d member).2).mpr (fair.stayed d (remains d member).1)
  by_cases passed : state.active.length ≤ state.next
  · -- nobody is left ahead, so the removal moves nobody
    have short : (state.active.erase c).length ≤ state.next :=
      Nat.le_trans List.length_erase_le passed
    refine ⟨fair.nodup.erase c, fair.nodupStayed.erase c, kept, fun d member behind => ?_,
      fun d member later => ?_⟩
    · refine fair.behind d (remains d member).1 ?_
      rw [List.take_of_length_le passed]
      exact List.mem_of_mem_erase (List.mem_of_mem_take behind)
    · have later' : d ∈ (state.active.erase c).drop state.next := later
      rw [List.drop_eq_nil_of_le short] at later'
      cases later'
  · -- the removal is ahead, and what is behind keeps its place
    have notBehind : c ∉ state.active.take state.next := fun behind => passed (guarded behind)
    have length : (state.active.take state.next).length = state.next :=
      List.length_take_of_le (Nat.le_of_lt (Nat.lt_of_not_le passed))
    have erased : state.active.erase c =
        state.active.take state.next ++ (state.active.drop state.next).erase c := by
      rw [← List.erase_append_right _ notBehind, List.take_append_drop]
    refine ⟨fair.nodup.erase c, fair.nodupStayed.erase c, kept, fun d member behind => ?_,
      fun d member later => ?_⟩
    · have behind' : d ∈ (state.active.erase c).take state.next := behind
      rw [erased, List.take_left' length] at behind'
      exact fair.behind d (remains d member).1 behind'
    · have later' : d ∈ (state.active.erase c).drop state.next := later
      rw [erased, List.drop_left' length] at later'
      exact fair.ahead d (remains d member).1 (List.mem_of_mem_erase later')

theorem Fair.sound {websocket : Conn} (fair : state.Fair)
    (awaited : state.sending = some websocket) : state.Sound := by
  unfold Sound
  rw [awaited]
  exact fair

theorem sound_start {active : List Conn} (nodup : active.Nodup) : (start active).Sound := by
  unfold start
  split
  · rename_i nobody
    subst nobody
    refine ⟨fun c member => ?_, fun c member => ?_⟩
    · cases member
    · cases member
  · refine Fair.advance ⟨nodup, nodup, fun c stayed => stayed, ?_, fun c _ _ => rfl⟩
    intro c _ behind
    cases behind

/-- **One guarded step** keeps the invariant. -/
theorem Sound.step (sound : state.Sound) {move : BroadcastStep Conn} (guarded : state.Guarded move)
    (moved : state.step move = some after) : after.Sound := by
  unfold Broadcast.step at moved
  split at moved
  · cases moved
  · rename_i websocket awaited
    have fair : state.Fair := by
      unfold Sound at sound
      rwa [awaited] at sound
    cases move with
    | resume raises =>
        cases moved
        cases raises with
        | false => exact fair.advance
        | true =>
            exact Fair.advance
              ⟨fair.nodup, fair.nodupStayed, fair.stayed, fair.behind, fair.ahead⟩
    | connect c =>
        simp only at moved
        split at moved
        · cases moved
        · rename_i new
          cases moved
          exact (fair.connect new).sound awaited
    | disconnect c =>
        cases moved
        exact (fair.disconnect guarded).sound awaited

/-- **Every live client is served once.**  In every run of a broadcast in which
no task removes a connection behind the iterator while others are ahead of it,
whoever was in the pool all along and whose send did not raise was sent the
message exactly once when the broadcast has ended, and nobody whose send raised
is in the pool. -/
theorem delivered_of_guarded (active : List Conn) (nodup : active.Nodup)
    (moves : List (BroadcastStep Conn)) (state : Broadcast Conn)
    (guarded : Meets Guarded Broadcast.step (start active) moves)
    (reached : runFrom Broadcast.step (start active) moves = some state)
    (ended : state.sending = none) : state.Delivered := by
  have sound : state.Sound :=
    runFrom_invariant_of_meets (fun _ _ _ sound met moved => sound.step met moved)
      (sound_start nodup) guarded reached
  unfold Sound at sound
  rwa [ended] at sound

/-- Client 4 connects and client 3 leaves ahead of the iterator, the send to client 2
raises, and client 1 leaves while the last one is sent to. -/
def comingAndGoing : List (BroadcastStep ℕ) :=
  [.connect 4, .disconnect 3, .resume false, .resume true, .resume false, .disconnect 1,
    .resume false]

theorem delivered_comingAndGoing :
    ∃ state, runFrom Broadcast.step (start [1, 2, 3, 5]) comingAndGoing = some state ∧
      state.stayed = [2, 5] ∧ state.stale = [2] ∧ state.Delivered := by
  refine ⟨_, rfl, rfl, rfl, delivered_of_guarded [1, 2, 3, 5] (by decide) comingAndGoing _ ?_ rfl
    rfl⟩
  refine meets_cons_of_step trivial rfl (meets_cons_of_step (fun passed => ?_) rfl
    (meets_cons_of_step trivial rfl (meets_cons_of_step trivial rfl (meets_cons_of_step trivial rfl
      (meets_cons_of_step (fun _ => ?_) rfl (meets_cons_of_step trivial rfl trivial))))))
  · exact absurd passed (by decide)
  · exact Nat.le_refl 4

/-- **A client that leaves while it is sent to hides the next one**: client 2
stays in the pool and is never sent the message. -/
theorem broadcast_skips :
    ∃ state, runFrom Broadcast.step (start [1, 2, 3])
        [.disconnect 1, .resume false, .resume false] = some state ∧
      state.sending = none ∧ 2 ∈ state.stayed ∧ state.stale = [] ∧ state.sent.count 2 = 0 :=
  ⟨_, rfl, rfl, by decide, rfl, rfl⟩

end Broadcast

/-! ## Handshakes -/

/-- The pool and the tasks that have passed `can_accept` and await `accept`. -/
structure Handshakes (Conn : Type) where
  active : List Conn
  pending : List Conn

/-- What the tasks of the endpoint do; `arrive` is the check of the cap, and a
client that does not pass it is closed. -/
inductive HandshakeStep (Conn : Type)
  | arrive (websocket : Conn)
  | accepted (websocket : Conn)
  | acceptRaises (websocket : Conn)
  | disconnect (websocket : Conn)
deriving DecidableEq, Repr

namespace Handshakes

/-- One step. -/
def step (state : Handshakes Conn) : HandshakeStep Conn → Option (Handshakes Conn)
  | .arrive c =>
      some
        (if canAccept state.active then { state with pending := state.pending ++ [c] } else state)
  | .accepted c =>
      if c ∈ state.pending then
        some { active := state.active ++ [c], pending := state.pending.erase c }
      else none
  | .acceptRaises c =>
      if c ∈ state.pending then some { state with pending := state.pending.erase c } else none
  | .disconnect c => some { state with active := Gateway.disconnect state.active c }

/-- No client yet. -/
def start : Handshakes Conn := ⟨[], []⟩

/-- The condition on a step: who passes the check finds room beside those that
are in the pool and those that have passed it before. -/
def Guarded (state : Handshakes Conn) : HandshakeStep Conn → Prop
  | .arrive _ =>
      canAccept state.active = true → state.active.length + state.pending.length < maxConnections
  | _ => True

/-- **One guarded step** leaves room for every pending handshake. -/
theorem length_step {state after : Handshakes Conn} {move : HandshakeStep Conn}
    (room : state.active.length + state.pending.length ≤ maxConnections)
    (guarded : state.Guarded move) (moved : state.step move = some after) :
    after.active.length + after.pending.length ≤ maxConnections := by
  cases move with
  | arrive c =>
      cases moved
      by_cases passes : canAccept state.active = true
      · have more := guarded passes
        rw [if_pos passes]
        simp only [List.length_append, List.length_singleton]
        omega
      · rw [if_neg passes]
        exact room
  | accepted c =>
      simp only [step] at moved
      split at moved
      · rename_i waiting
        cases moved
        -- the handshake moves from the pending ones to the pool
        have fewer := List.length_erase_of_mem waiting
        have some' := List.length_pos_of_mem waiting
        simp only [List.length_append, List.length_singleton]
        omega
      · cases moved
  | acceptRaises c =>
      simp only [step] at moved
      split at moved
      · cases moved
        have fewer := @List.length_erase_le _ _ c state.pending
        show state.active.length + (state.pending.erase c).length ≤ _
        omega
      · cases moved
  | disconnect c =>
      cases moved
      have fewer := @List.length_erase_le _ _ c state.active
      show (Gateway.disconnect state.active c).length + state.pending.length ≤ _
      rw [disconnect_eq_erase]
      omega

/-- **The cap.**  In every run of the endpoint's tasks in which whoever passes the
check finds room beside the pending handshakes, the pool never exceeds it. -/
theorem length_le_of_guarded (moves : List (HandshakeStep Conn)) (state : Handshakes Conn)
    (guarded : Meets Guarded step start moves)
    (reached : runFrom step start moves = some state) : state.active.length ≤ maxConnections := by
  have room : state.active.length + state.pending.length ≤ maxConnections :=
    runFrom_invariant_of_meets (fun _ _ _ room met moved => length_step room met moved)
      (Nat.zero_le _) guarded reached
  omega

/-- Everybody passes the check of an empty pool. -/
theorem run_arrive (pending clients : List Conn) :
    runFrom step ⟨[], pending⟩ (clients.map .arrive) = some ⟨[], pending ++ clients⟩ := by
  induction clients generalizing pending with
  | nil => rw [List.map_nil, runFrom_nil, List.append_nil]
  | cons c rest ih =>
      rw [List.map_cons, runFrom_cons]
      show runFrom step ⟨[], pending ++ [c]⟩ (rest.map .arrive) = _
      rw [ih, List.append_assoc]
      rfl

/-- Everybody who waits is accepted. -/
theorem run_accepted (active clients : List Conn) :
    runFrom step ⟨active, clients⟩ (clients.map .accepted) = some ⟨active ++ clients, []⟩ := by
  induction clients generalizing active with
  | nil => rw [List.map_nil, runFrom_nil, List.append_nil]
  | cons c rest ih =>
      have first : step ⟨active, c :: rest⟩ (.accepted c) = some ⟨active ++ [c], rest⟩ := by
        rw [step, if_pos List.mem_cons_self, List.erase_cons_head]
      rw [List.map_cons, runFrom_cons, first, Option.bind_some, ih, List.append_assoc]
      rfl

/-- As many clients as the pool has room for pass the check with room to spare. -/
theorem meets_arrive {pending clients : List Conn}
    (room : pending.length + clients.length ≤ maxConnections) :
    Meets Guarded step ⟨[], pending⟩ (clients.map .arrive) := by
  induction clients generalizing pending with
  | nil => exact trivial
  | cons c rest ih =>
      rw [List.length_cons] at room
      refine meets_cons_of_step (fun _ => ?_) rfl (ih ?_)
      · show 0 + pending.length < maxConnections
        omega
      · show (pending ++ [c]).length + rest.length ≤ maxConnections
        rw [List.length_append, List.length_singleton]
        omega

/-- Nothing is asked of those who are accepted. -/
theorem meets_accepted (state : Handshakes Conn) (clients : List Conn) :
    Meets Guarded step state (clients.map .accepted) := by
  induction clients generalizing state with
  | nil => exact trivial
  | cons c rest ih => exact ⟨trivial, fun next _ => ih next⟩

/-- Everybody arrives before anybody is accepted. -/
def rush (n : ℕ) : List (HandshakeStep ℕ) :=
  (List.range n).map .arrive ++ (List.range n).map .accepted

theorem run_rush (n : ℕ) :
    runFrom step (start : Handshakes ℕ) (rush n) = some ⟨List.range n, []⟩ := by
  rw [rush, runFrom_append, start, run_arrive, Option.bind_some, List.nil_append, run_accepted,
    List.nil_append]

theorem meets_rush {n : ℕ} (room : n ≤ maxConnections) :
    Meets Guarded step (start : Handshakes ℕ) (rush n) := by
  refine meets_append.mpr ⟨meets_arrive ?_, fun state _ => meets_accepted state _⟩
  rw [List.length_range]
  exact Nat.le_trans (Nat.le_of_eq (Nat.zero_add n)) room

theorem length_le_full :
    ∃ state, runFrom step (start : Handshakes ℕ) (rush maxConnections) = some state ∧
      state.active.length = maxConnections ∧ state.active.length ≤ maxConnections := by
  obtain ⟨n, full⟩ : ∃ n, n = maxConnections := ⟨_, rfl⟩
  rw [← full]
  refine ⟨_, run_rush n, List.length_range, ?_⟩
  rw [full]
  exact length_le_of_guarded _ _ (meets_rush (Nat.le_of_eq full)) (full ▸ run_rush n)

/-- **One client too many** passes the check when all handshakes are pending. -/
theorem cap_exceeded :
    ∃ moves state, runFrom step (start : Handshakes ℕ) moves = some state ∧
      ¬ state.active.length ≤ maxConnections := by
  refine ⟨rush (maxConnections + 1), _, run_rush _, ?_⟩
  rw [List.length_range]
  omega

end Handshakes

end PersonTracking.Gateway
