import Mathlib.Data.Finset.Card
import Mathlib.Tactic.Linarith
import PersonTracking.Library.OrderedDict
import PersonTracking.Library.Transition
import PersonTracking.Shared.Redis

/-!
# The gateway's rate limiter

`RateLimiter.check_rate_limit` with both of its backends: a sorted set per
client in Redis, and a log in memory that is garbage collected when it holds
more than `maxInMemoryEntries` clients.  A Redis call that raises switches to
the log for good.

`allowed_iff` is what the log guarantees: a client is let in exactly when fewer
than the limit of its calls were let in during the last 60 seconds, as far as
no garbage collection has dropped them since.
-/

namespace PersonTracking.Gateway

open Library Shared

/-- `MAX_IN_MEMORY_ENTRIES`. -/
def maxInMemoryEntries : ℕ := 10000

/-- `window_seconds`. -/
def windowSeconds : ℚ := 60

/-- `in_memory_db`: the times at which each client was let in. -/
abbrev RequestLog (Ip : Type) : Type := OrderedDict Ip (List ℚ)

/-- `max(timestamps) if timestamps else 0`. -/
def latest : List ℚ → ℚ
  | [] => 0
  | first :: rest => rest.foldl max first

variable {Ip : Type} [DecidableEq Ip]

/-- `in_memory_db.get(ip, [])`. -/
def timestamps (db : RequestLog Ip) (ip : Ip) : List ℚ := (db.get? ip).getD []

/-- The clients, those that were let in last at the end. -/
def sortedIps (db : RequestLog Ip) : List Ip :=
  db.keys.mergeSort fun a b => latest (timestamps db a) ≤ latest (timestamps db b)

/-- The clients a garbage collection evicts: none while they are few, else the
half that was let in longest ago. -/
def evicted (db : RequestLog Ip) : List Ip :=
  if db.keys.length ≤ maxInMemoryEntries then []
  else (sortedIps db).take ((sortedIps db).length / 2)

/-- `_garbage_collect_in_memory`. -/
def garbageCollectInMemory (db : RequestLog Ip) : RequestLog Ip :=
  (evicted db).foldl OrderedDict.pop db

/-- The times within the window that ends now. -/
def validTimestamps (now : ℚ) (times : List ℚ) : List ℚ :=
  times.filter fun t => now - windowSeconds < t

/-- The in-memory branch of `check_rate_limit`. -/
def checkInMemory (limit : ℕ) (ip : Ip) (now : ℚ) (db : RequestLog Ip) : Bool × RequestLog Ip :=
  let db := garbageCollectInMemory db
  let valid := validTimestamps now (timestamps db ip)
  if limit ≤ valid.length then (false, db.set ip valid)
  else (true, db.set ip (valid ++ [now]))

/-- The Redis branch: prune, count, add, renew. -/
def checkRedis (limit : ℕ) (now : ℚ) (zset : Redis.Key (List ℚ)) :
    Bool × Redis.Key (List ℚ) :=
  let pruned := Redis.zremrangebyscore ((zset.live now).getD []) 0 (now - windowSeconds)
  (!(limit ≤ pruned.length : Bool),
    some { value := Redis.zadd pruned now, deadline := now + (windowSeconds + 5) })

/-- The limiter and the Redis server behind it. -/
structure RateLimiter (Ip : Type) where
  enabled : Bool
  redisClient : Bool
  zsets : Ip → Redis.Key (List ℚ)
  inMemoryDb : RequestLog Ip

/-- `check_rate_limit`, given whether the Redis pipeline raises. -/
def checkRateLimit (limit : ℕ) (raises : Bool) (ip : Ip) (now : ℚ) (limiter : RateLimiter Ip) :
    Bool × RateLimiter Ip :=
  if limiter.enabled then
    if limiter.redisClient && !raises then
      ((checkRedis limit now (limiter.zsets ip)).1, { limiter with
        zsets := Function.update limiter.zsets ip (checkRedis limit now (limiter.zsets ip)).2 })
    else
      ((checkInMemory limit ip now limiter.inMemoryDb).1, { limiter with
        redisClient := false
        inMemoryDb := (checkInMemory limit ip now limiter.inMemoryDb).2 })
  else (true, limiter)

/-- A limiter without Redis, before its first call. -/
def RateLimiter.inMemory : RateLimiter Ip where
  enabled := true
  redisClient := false
  zsets _ := none
  inMemoryDb := .empty

/-! ## The log -/

section Log

variable {db : RequestLog Ip} {limit : ℕ} {ip other : Ip} {now : ℚ}

theorem timestamps_garbageCollect :
    timestamps (garbageCollectInMemory db) ip =
      if ip ∈ evicted db then [] else timestamps db ip := by
  unfold timestamps garbageCollectInMemory
  rw [OrderedDict.get?_foldl_pop]
  split <;> rfl

theorem timestamps_set {times : List ℚ} :
    timestamps (db.set ip times) other = if ip = other then times else timestamps db other := by
  unfold timestamps
  rw [OrderedDict.get?_set]
  split <;> rfl

theorem checkInMemory_full
    (full : limit ≤ (validTimestamps now (timestamps (garbageCollectInMemory db) ip)).length) :
    checkInMemory limit ip now db = (false, (garbageCollectInMemory db).set ip
      (validTimestamps now (timestamps (garbageCollectInMemory db) ip))) := if_pos full

theorem checkInMemory_room
    (room : ¬ limit ≤ (validTimestamps now (timestamps (garbageCollectInMemory db) ip)).length) :
    checkInMemory limit ip now db = (true, (garbageCollectInMemory db).set ip
      (validTimestamps now (timestamps (garbageCollectInMemory db) ip) ++ [now])) := if_neg room

theorem checkInMemory_iff :
    (checkInMemory limit ip now db).1 = true ↔
      (validTimestamps now (timestamps (garbageCollectInMemory db) ip)).length < limit := by
  by_cases full : limit ≤ (validTimestamps now (timestamps (garbageCollectInMemory db) ip)).length
  · rw [checkInMemory_full full]
    exact ⟨fun wrong => absurd wrong Bool.false_ne_true, fun few => absurd few (not_lt.mpr full)⟩
  · rw [checkInMemory_room full]
    exact ⟨fun _ => not_le.mp full, fun _ => rfl⟩

/-- Only calls that are let in add to the log. -/
theorem timestamps_checkInMemory :
    timestamps (checkInMemory limit ip now db).2 other =
      if ip = other then
        validTimestamps now (timestamps (garbageCollectInMemory db) ip) ++
          if (checkInMemory limit ip now db).1 then [now] else []
      else timestamps (garbageCollectInMemory db) other := by
  by_cases full : limit ≤ (validTimestamps now (timestamps (garbageCollectInMemory db) ip)).length
  · rw [checkInMemory_full full, timestamps_set]
    simp
  · rw [checkInMemory_room full, timestamps_set]
    simp

theorem mem_keys_checkInMemory (member : other ∈ (checkInMemory limit ip now db).2.keys) :
    other = ip ∨ other ∈ db.keys := by
  have kept : other ∈ (garbageCollectInMemory db).keys → other ∈ db.keys :=
    OrderedDict.mem_keys_of_mem_keys_foldl_pop
  by_cases full : limit ≤ (validTimestamps now (timestamps (garbageCollectInMemory db) ip)).length
  · rw [checkInMemory_full full, OrderedDict.mem_keys_set] at member
    exact member.imp_right kept
  · rw [checkInMemory_room full, OrderedDict.mem_keys_set] at member
    exact member.imp_right kept

theorem validTimestamps_append {first second : List ℚ} :
    validTimestamps now (first ++ second) =
      validTimestamps now first ++ validTimestamps now second := List.filter_append first second

/-- A later window reads the log as if nothing had been dropped before. -/
theorem validTimestamps_validTimestamps {later : ℚ} (after : now ≤ later) (times : List ℚ) :
    validTimestamps later (validTimestamps now times) = validTimestamps later times := by
  unfold validTimestamps
  rw [List.filter_filter]
  congr 1
  funext t
  by_cases inside : later - windowSeconds < t
  · have : now - windowSeconds < t := by linarith
    simp [inside, this]
  · simp [inside]

end Log

/-! ## Runs in memory -/

/-- A call and what became of it. -/
structure Served (Ip : Type) where
  ip : Ip
  now : ℚ
  allowed : Bool
  evicted : List Ip

/-- A limiter and the calls it has served, newest first. -/
structure Traffic (Ip : Type) where
  limiter : RateLimiter Ip
  history : List (Served Ip)

/-- A client calls, no earlier than anybody before. -/
def Traffic.serve (limit : ℕ) (traffic : Traffic Ip) (call : Ip × ℚ) : Option (Traffic Ip) :=
  if ∀ served ∈ traffic.history, served.now ≤ call.2 then
    let outcome := checkRateLimit limit false call.1 call.2 traffic.limiter
    some {
      limiter := outcome.2
      history := {
        ip := call.1
        now := call.2
        allowed := outcome.1
        evicted := evicted traffic.limiter.inMemoryDb } :: traffic.history }
  else none

/-- Redis is unavailable, and nobody has called yet. -/
def Traffic.start : Traffic Ip where
  limiter := .inMemory
  history := []

/-- The calls since the last garbage collection that evicted a client. -/
def sinceEviction (ip : Ip) : List (Served Ip) → List (Served Ip)
  | [] => []
  | served :: older => served :: if ip ∈ served.evicted then [] else sinceEviction ip older

/-- How many calls of a client were let in during the 60 seconds before now. -/
def allowedInWindow (ip : Ip) (now : ℚ) (calls : List (Served Ip)) : ℕ :=
  calls.countP fun served =>
    served.ip = ip && served.allowed && (now - windowSeconds < served.now : Bool)

/-- The calls a client that calls now is measured by. -/
def Traffic.remembered (traffic : Traffic Ip) (ip : Ip) : List (Served Ip) :=
  if ip ∈ evicted traffic.limiter.inMemoryDb then [] else sinceEviction ip traffic.history

/-- The log counts what it remembers, whenever it is asked. -/
structure Traffic.Counts (traffic : Traffic Ip) : Prop where
  enabled : traffic.limiter.enabled = true
  redisClient : traffic.limiter.redisClient = false
  log : ∀ ip now, (∀ served ∈ traffic.history, served.now ≤ now) →
    (validTimestamps now (timestamps traffic.limiter.inMemoryDb ip)).length =
      allowedInWindow ip now (sinceEviction ip traffic.history)

section Runs

variable {limit : ℕ} {traffic after : Traffic Ip}

theorem counts_start : (Traffic.start : Traffic Ip).Counts where
  enabled := rfl
  redisClient := rfl
  log _ _ _ := rfl

/-- The log of a client after the garbage collection of its call. -/
theorem Traffic.Counts.collected (counts : traffic.Counts) {ip : Ip} {now : ℚ}
    (latest : ∀ served ∈ traffic.history, served.now ≤ now) :
    (validTimestamps now (timestamps (garbageCollectInMemory traffic.limiter.inMemoryDb) ip)).length
      = allowedInWindow ip now (traffic.remembered ip) := by
  rw [timestamps_garbageCollect, Traffic.remembered]
  split
  · rfl
  · exact counts.log ip now latest

/-- A call without Redis is decided by the log. -/
theorem Traffic.Counts.checkRateLimit (counts : traffic.Counts) (raises : Bool)
    (ip : Ip) (now : ℚ) :
    checkRateLimit limit raises ip now traffic.limiter =
      ((checkInMemory limit ip now traffic.limiter.inMemoryDb).1, { traffic.limiter with
        redisClient := false
        inMemoryDb := (checkInMemory limit ip now traffic.limiter.inMemoryDb).2 }) := by
  unfold Gateway.checkRateLimit
  rw [if_pos counts.enabled, counts.redisClient]
  rfl

/-- A client the table does not know is let in and remembered, and nobody is
evicted while the table is not over its limit. -/
theorem Traffic.Counts.serve_newcomer (counts : traffic.Counts) {ip : Ip} {now : ℚ}
    (absent : ip ∉ traffic.limiter.inMemoryDb.keys) (few : evicted traffic.limiter.inMemoryDb = [])
    (latest : ∀ served ∈ traffic.history, served.now ≤ now) (positive : 0 < limit) :
    traffic.serve limit (ip, now) = some
      { limiter := { traffic.limiter with
          redisClient := false
          inMemoryDb := traffic.limiter.inMemoryDb.set ip [now] }
        history := ⟨ip, now, true, []⟩ :: traffic.history } := by
  have collected : garbageCollectInMemory traffic.limiter.inMemoryDb =
      traffic.limiter.inMemoryDb := by
    rw [garbageCollectInMemory, few]
    rfl
  have unknown : timestamps traffic.limiter.inMemoryDb ip = [] := by
    rw [timestamps, OrderedDict.get?_of_notMem absent]
    rfl
  have letIn : checkInMemory limit ip now traffic.limiter.inMemoryDb =
      (true, traffic.limiter.inMemoryDb.set ip [now]) := by
    rw [checkInMemory_room]
    · rw [collected, unknown]
      rfl
    · rw [collected, unknown]
      exact not_le.mpr positive
  rw [Traffic.serve, if_pos latest, counts.checkRateLimit, letIn, few]

/-- **One call** keeps the count. -/
theorem Traffic.Counts.serve (counts : traffic.Counts) {call : Ip × ℚ}
    (served : traffic.serve limit call = some after) : after.Counts := by
  unfold Traffic.serve at served
  split at served
  · rename_i latest
    cases served
    simp only [counts.checkRateLimit]
    refine ⟨counts.enabled, rfl, fun ip now later => ?_⟩
    have here : call.2 ≤ now := later _ List.mem_cons_self
    have before : ∀ served ∈ traffic.history, served.now ≤ now :=
      fun served member => later served (List.mem_cons_of_mem _ member)
    -- what the log of `ip` holds for the later window, before this call is added
    have kept : (validTimestamps now
        (timestamps (garbageCollectInMemory traffic.limiter.inMemoryDb) ip)).length =
          allowedInWindow ip now (traffic.remembered ip) := counts.collected before
    show (validTimestamps now (timestamps
        (checkInMemory limit call.1 call.2 traffic.limiter.inMemoryDb).2 ip)).length = _
    rw [timestamps_checkInMemory]
    unfold allowedInWindow at kept ⊢
    rw [sinceEviction, List.countP_cons]
    show _ = List.countP _ (traffic.remembered ip) + _
    rw [← kept]
    by_cases same : call.1 = ip
    · subst same
      rw [if_pos rfl, validTimestamps_append, validTimestamps_validTimestamps here,
        List.length_append]
      congr 1
      cases (checkInMemory limit call.1 call.2 traffic.limiter.inMemoryDb).1 with
      | false => simp [validTimestamps]
      | true =>
          unfold validTimestamps
          rw [if_pos rfl, List.filter_singleton]
          by_cases inside : now - windowSeconds < call.2
          · simp [inside]
          · simp [inside]
    · rw [if_neg same]
      simp [same]
  · cases served

/-- …and a run does. -/
theorem counts_of_run {calls : List (Ip × ℚ)}
    (reached : runFrom (Traffic.serve limit) .start calls = some traffic) : traffic.Counts :=
  runFrom_invariant (fun _ _ _ counts served => counts.serve served) counts_start reached

/-! ### Few clients -/

/-- Whoever is in the log has called, and nobody was evicted while few had. -/
structure Traffic.Called (traffic : Traffic Ip) : Prop where
  counts : traffic.Counts
  called : ∀ ip ∈ traffic.limiter.inMemoryDb.keys, ip ∈ traffic.history.map Served.ip
  kept : (traffic.history.map Served.ip).toFinset.card ≤ maxInMemoryEntries →
    ∀ served ∈ traffic.history, served.evicted = []

theorem Traffic.Called.evicted_eq_nil (called : traffic.Called)
    (few : (traffic.history.map Served.ip).toFinset.card ≤ maxInMemoryEntries) :
    evicted traffic.limiter.inMemoryDb = [] := by
  refine if_pos (le_trans ?_ few)
  have different : traffic.limiter.inMemoryDb.keys.Nodup := traffic.limiter.inMemoryDb.nodup
  rw [← List.toFinset_card_of_nodup different]
  apply Finset.card_le_card
  intro ip member
  rw [List.mem_toFinset] at member ⊢
  exact called.called ip member

theorem Traffic.Called.serve (called : traffic.Called) {call : Ip × ℚ}
    (served : traffic.serve limit call = some after) : after.Called := by
  refine ⟨called.counts.serve served, ?_, ?_⟩
  · unfold Traffic.serve at served
    split at served
    · cases served
      simp only [called.counts.checkRateLimit]
      intro ip member
      rw [List.map_cons, List.mem_cons]
      rcases mem_keys_checkInMemory member with here | before
      · exact Or.inl here
      · exact Or.inr (called.called ip before)
    · cases served
  · unfold Traffic.serve at served
    split at served
    · cases served
      intro few other member
      have fewer : (traffic.history.map Served.ip).toFinset.card ≤ maxInMemoryEntries := by
        refine le_trans (Finset.card_le_card ?_) few
        intro ip here
        rw [List.mem_toFinset] at here ⊢
        exact List.mem_cons_of_mem _ here
      rcases List.mem_cons.mp member with rfl | older
      · exact called.evicted_eq_nil fewer
      · exact called.kept fewer other older
    · cases served

theorem called_of_run {calls : List (Ip × ℚ)}
    (reached : runFrom (Traffic.serve limit) .start calls = some traffic) : traffic.Called := by
  refine runFrom_invariant (fun _ _ _ called served => called.serve served) ?_ reached
  refine ⟨counts_start, fun _ member => ?_, fun _ _ member => ?_⟩
  · cases member
  · cases member

theorem sinceEviction_of_none {ip : Ip} {history : List (Served Ip)}
    (kept : ∀ served ∈ history, served.evicted = []) : sinceEviction ip history = history := by
  induction history with
  | nil => rfl
  | cons served older ih =>
      rw [sinceEviction, kept served List.mem_cons_self, if_neg List.not_mem_nil,
        ih fun other member => kept other (List.mem_cons_of_mem _ member)]

/-- **The log is exact up to garbage collection.**  After every run of calls at
non-decreasing times, a client is let in exactly when fewer than the limit of
its calls since it was last evicted were let in within the window; and while at
most `maxInMemoryEntries` different clients have called, all its calls count. -/
theorem allowed_iff (limit : ℕ) (calls : List (Ip × ℚ)) (traffic : Traffic Ip)
    (reached : runFrom (Traffic.serve limit) .start calls = some traffic) (ip : Ip) (now : ℚ)
    (latest : ∀ served ∈ traffic.history, served.now ≤ now) :
    ((checkRateLimit limit false ip now traffic.limiter).1 = true ↔
        allowedInWindow ip now (traffic.remembered ip) < limit) ∧
      ((traffic.history.map Served.ip).toFinset.card ≤ maxInMemoryEntries →
        traffic.remembered ip = traffic.history) := by
  have counts := counts_of_run reached
  refine ⟨?_, fun few => ?_⟩
  · rw [counts.checkRateLimit, checkInMemory_iff, counts.collected latest]
  · have called := called_of_run reached
    rw [Traffic.remembered, called.evicted_eq_nil few, if_neg List.not_mem_nil,
      sinceEviction_of_none (called.kept few)]

end Runs

theorem allowed_iff_second_call :
    ∃ traffic, runFrom (Traffic.serve 1) (Traffic.start : Traffic ℕ) [(0, 0)] = some traffic ∧
      (∀ served ∈ traffic.history, served.now ≤ 1) ∧
      ((checkRateLimit 1 false 0 1 traffic.limiter).1 = true ↔
          allowedInWindow 0 1 (traffic.remembered 0) < 1) ∧
      ((traffic.history.map Served.ip).toFinset.card ≤ maxInMemoryEntries →
        traffic.remembered 0 = traffic.history) := by
  have latest : ∀ served ∈ [(⟨0, 0, true, []⟩ : Served ℕ)], served.now ≤ 1 := by
    intro served member
    rw [List.mem_singleton.mp member]
    exact zero_le_one
  exact ⟨_, rfl, latest, allowed_iff 1 [(0, 0)] _ rfl 0 1 latest⟩

/-! ### A crowd -/

/-- One client calls, and then many others. -/
def crowd (n : ℕ) : List (ℕ × ℚ) := (0, 0) :: (List.range n).map fun i => (i + 1, 1)

theorem crowd_succ (n : ℕ) : crowd (n + 1) = crowd n ++ [(n + 1, 1)] := by
  rw [crowd, crowd, List.range_succ, List.map_append]
  rfl

theorem keys_crowd {n : ℕ} {db : OrderedDict ℕ (List ℚ)}
    (entries : db.entries = (0, [0]) :: (List.range n).map (fun i => (i + 1, [1]))) :
    db.keys = 0 :: (List.range n).map (· + 1) := by
  rw [OrderedDict.keys, entries]
  simp

theorem latest_crowd {n : ℕ} {history : List (Served ℕ)}
    (served : history = (List.range n).reverse.map (fun i => ⟨i + 1, 1, true, []⟩) ++
      [⟨0, 0, true, []⟩]) : ∀ served ∈ history, served.now ≤ 1 := by
  rw [served]
  intro served member
  rcases List.mem_append.mp member with other | first
  · obtain ⟨i, -, rfl⟩ := List.mem_map.mp other
    exact le_refl 1
  · rw [List.mem_singleton.mp first]
    exact zero_le_one

/-- Everybody in a crowd is let in once. -/
theorem exists_traffic_crowd (n : ℕ) (small : n ≤ maxInMemoryEntries) :
    ∃ traffic, runFrom (Traffic.serve 1) .start (crowd n) = some traffic ∧
      traffic.limiter.inMemoryDb.entries =
        (0, [0]) :: (List.range n).map (fun i => (i + 1, [1])) ∧
      traffic.history = (List.range n).reverse.map (fun i => ⟨i + 1, 1, true, []⟩) ++
        [⟨0, 0, true, []⟩] := by
  induction n with
  | zero => exact ⟨_, rfl, rfl, rfl⟩
  | succ n ih =>
      obtain ⟨traffic, reached, entries, history⟩ := ih (by omega)
      have counts := counts_of_run reached
      have keys := keys_crowd entries
      -- as long as the table is not over its limit nobody is evicted
      have few : evicted traffic.limiter.inMemoryDb = [] := by
        refine if_pos ?_
        rw [keys]
        simpa using small
      have absent : n + 1 ∉ traffic.limiter.inMemoryDb.keys := by
        rw [keys]
        simp
      have served := counts.serve_newcomer absent few (latest_crowd history) zero_lt_one
      have next : runFrom (Traffic.serve 1) .start (crowd (n + 1)) =
          traffic.serve 1 (n + 1, 1) := by
        rw [crowd_succ, runFrom_append, reached, Option.bind_some, runFrom_cons, served]
        rfl
      refine ⟨_, next.trans served, ?_, ?_⟩
      · show (traffic.limiter.inMemoryDb.set (n + 1) [1]).entries = _
        rw [OrderedDict.entries_set_of_notMem absent, entries, List.range_succ, List.map_append]
        rfl
      · rw [history, List.range_succ, List.reverse_append]
        rfl

/-- **The client that was let in longest ago goes first**: it is let in again
within its window once `maxInMemoryEntries` others have called. -/
theorem evicted_client_allowed :
    ∃ traffic, runFrom (Traffic.serve 1) .start (crowd maxInMemoryEntries) = some traffic ∧
      (∀ served ∈ traffic.history, served.now ≤ 2) ∧
      (checkRateLimit 1 false 0 2 traffic.limiter).1 = true ∧
      ¬ allowedInWindow 0 2 traffic.history < 1 := by
  obtain ⟨traffic, reached, entries, history⟩ := exists_traffic_crowd maxInMemoryEntries (le_refl _)
  have counts := counts_of_run reached
  have keys := keys_crowd entries
  have first : latest (timestamps traffic.limiter.inMemoryDb 0) = 0 := by
    rw [timestamps, OrderedDict.get?_of_mem (v := [0]) (by rw [entries]; exact List.mem_cons_self)]
    rfl
  have others : ∀ i ∈ (List.range maxInMemoryEntries).map (· + 1),
      latest (timestamps traffic.limiter.inMemoryDb i) = 1 := by
    intro i member
    obtain ⟨j, listed, rfl⟩ := List.mem_map.mp member
    rw [timestamps, OrderedDict.get?_of_mem (v := [1]) (by
      rw [entries]
      exact List.mem_cons_of_mem _ (List.mem_map.mpr ⟨j, listed, rfl⟩))]
    rfl
  -- the sort is stable and the first client is the oldest, so the keys are sorted already
  have sorted : sortedIps traffic.limiter.inMemoryDb = traffic.limiter.inMemoryDb.keys := by
    refine List.mergeSort_of_pairwise ?_
    rw [keys, List.pairwise_cons]
    refine ⟨fun i member => ?_, List.pairwise_of_forall_mem_list fun i here j there => ?_⟩
    · rw [first, others i member]
      simp
    · rw [others i here, others j there]
      simp
  have goes : 0 ∈ evicted traffic.limiter.inMemoryDb := by
    rw [evicted, sorted, keys, if_neg (by simp)]
    simp [maxInMemoryEntries]
  refine ⟨traffic, reached, ?_, ?_, ?_⟩
  · intro served member
    exact (latest_crowd history served member).trans one_le_two
  · rw [counts.checkRateLimit, checkInMemory_iff, timestamps_garbageCollect, if_pos goes]
    exact Nat.zero_lt_one
  · rw [history, allowedInWindow, List.countP_append]
    norm_num [windowSeconds]

end PersonTracking.Gateway
