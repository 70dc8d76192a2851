import PersonTracking.Gateway.RateLimiter

/-!
# The two backends of the rate limiter

The sorted set in Redis counts every call, the log in memory only those it lets
in.  `decisions_agree_iff` says for which calls of a client this makes no
difference; `decisions_differ` shows calls for which it does.
-/

namespace PersonTracking.Gateway

open Library Shared

variable {Ip : Type} [DecidableEq Ip]

/-- A limiter with Redis, before its first call. -/
def RateLimiter.withRedis : RateLimiter Ip where
  enabled := true
  redisClient := true
  zsets _ := none
  inMemoryDb := .empty

/-- What a limiter decides about the calls of a client, none of which raises. -/
def decisions (limit : ℕ) (ip : Ip) : RateLimiter Ip → List ℚ → List Bool
  | _, [] => []
  | limiter, now :: later =>
      let outcome := checkRateLimit limit false ip now limiter
      outcome.1 :: decisions limit ip outcome.2 later

/-- The limit is reached within the window that ends now. -/
def Crowded (limit : ℕ) (times : List ℚ) (now : ℚ) : Prop :=
  limit ≤ (validTimestamps now times).length

instance (limit : ℕ) (times : List ℚ) (now : ℚ) : Decidable (Crowded limit times now) :=
  inferInstanceAs (Decidable (limit ≤ (validTimestamps now times).length))

/-- Walk the calls with all `earlier` ones and the `free` ones among them, which
came when their window was not crowded: whenever the earlier ones crowd a
window, the free ones alone do. -/
def Relieved (limit : ℕ) : List ℚ → List ℚ → List ℚ → Prop
  | _, _, [] => True
  | earlier, free, now :: later =>
      (Crowded limit earlier now → Crowded limit free now) ∧
        Relieved limit (earlier ++ [now])
          (if Crowded limit earlier now then free else free ++ [now]) later

section Backends

variable {limit : ℕ} {ip : Ip} {limiter : RateLimiter Ip} {earlier free : List ℚ} {now : ℚ}

/-- Nothing that came before the window is in it. -/
theorem validTimestamps_eq_nil {times : List ℚ} (old : ∀ t ∈ times, t ≤ now - windowSeconds) :
    validTimestamps now times = [] :=
  List.filter_eq_nil_iff.mpr fun t member inside =>
    absurd (of_decide_eq_true inside) (not_lt.mpr (old t member))

/-- Pruning a sorted set leaves the window. -/
theorem zremrangebyscore_eq {times : List ℚ} (positive : ∀ t ∈ times, 0 ≤ t) :
    Redis.zremrangebyscore times 0 (now - windowSeconds) = validTimestamps now times := by
  refine List.filter_congr fun t member => ?_
  simp [positive t member]

/-- The sorted set of a client holds every earlier call that still matters. -/
structure Logs (limiter : RateLimiter Ip) (ip : Ip) (earlier : List ℚ) : Prop where
  enabled : limiter.enabled = true
  redisClient : limiter.redisClient = true
  zset : ∀ now, (∀ t ∈ earlier, 0 ≤ t ∧ t < now) →
    Redis.zremrangebyscore (((limiter.zsets ip).live now).getD []) 0 (now - windowSeconds) =
      validTimestamps now earlier

omit [DecidableEq Ip] in
theorem logs_start : Logs (.withRedis : RateLimiter Ip) ip [] where
  enabled := rfl
  redisClient := rfl
  zset _ _ := rfl

/-- **A call with Redis** is refused when the window is crowded, and counts. -/
theorem Logs.check (logs : Logs limiter ip earlier) (positive : 0 ≤ now)
    (after : ∀ t ∈ earlier, 0 ≤ t ∧ t < now) :
    ((checkRateLimit limit false ip now limiter).1 = true ↔ ¬ Crowded limit earlier now) ∧
      Logs (checkRateLimit limit false ip now limiter).2 ip (earlier ++ [now]) := by
  have outcome : checkRateLimit limit false ip now limiter =
      ((checkRedis limit now (limiter.zsets ip)).1, { limiter with
        zsets := Function.update limiter.zsets ip
          (checkRedis limit now (limiter.zsets ip)).2 }) := by
    unfold checkRateLimit
    rw [if_pos logs.enabled, logs.redisClient]
    rfl
  have pruned := logs.zset now after
  have fresh : now ∉ validTimestamps now earlier := fun member =>
    absurd (after now (List.mem_of_mem_filter member)).2 (lt_irrefl now)
  have branch : checkRedis limit now (limiter.zsets ip) =
      (!(limit ≤ (validTimestamps now earlier).length : Bool),
        some { value := validTimestamps now earlier ++ [now],
               deadline := now + (windowSeconds + 5) }) := by
    rw [checkRedis, pruned, Redis.zadd, if_neg fresh]
  rw [outcome, branch]
  refine ⟨by simp [Crowded], logs.enabled, logs.redisClient, fun later following => ?_⟩
  have past : now < later := (following now (by simp)).2
  simp only [Function.update_self]
  -- the key outlives the window, so what expires with it was outside anyway
  by_cases alive : later < now + (windowSeconds + 5)
  · rw [Redis.Key.live_some alive, Option.getD_some, zremrangebyscore_eq, validTimestamps_append,
      validTimestamps_append, validTimestamps_validTimestamps past.le]
    intro t member
    rcases List.mem_append.mp member with before | this
    · exact (after t (List.mem_of_mem_filter before)).1
    · rw [List.mem_singleton.mp this]
      exact positive
  · rw [Redis.Key.live_expired (not_lt.mp alive), validTimestamps_eq_nil]
    · rfl
    · intro t member
      have : t ≤ now := by
        rcases List.mem_append.mp member with before | this
        · exact (after t before).2.le
        · exact (List.mem_singleton.mp this).le
      have late := not_lt.mp alive
      linarith

/-- The log in memory holds the calls that were let in, for whoever asks later. -/
structure Admits (limiter : RateLimiter Ip) (ip : Ip) (free : List ℚ) (since : ℚ) : Prop where
  enabled : limiter.enabled = true
  redisClient : limiter.redisClient = false
  alone : ∀ other ∈ limiter.inMemoryDb.keys, other = ip
  log : ∀ now, since ≤ now →
    validTimestamps now (timestamps limiter.inMemoryDb ip) = validTimestamps now free

theorem admits_start : Admits (.inMemory : RateLimiter Ip) ip [] 0 where
  enabled := rfl
  redisClient := rfl
  alone _ member := by cases member
  log _ _ := rfl

/-- A log with one client is not garbage collected. -/
theorem Admits.collected {since : ℚ} (admits : Admits limiter ip free since) :
    garbageCollectInMemory limiter.inMemoryDb = limiter.inMemoryDb := by
  have few : limiter.inMemoryDb.keys.length ≤ maxInMemoryEntries := by
    have one : limiter.inMemoryDb.keys.length ≤ 1 := by
      have different : limiter.inMemoryDb.keys.Nodup := limiter.inMemoryDb.nodup
      rw [← List.toFinset_card_of_nodup different]
      apply Finset.card_le_one.mpr
      intro a here b there
      rw [List.mem_toFinset] at here there
      rw [admits.alone a here, admits.alone b there]
    exact le_trans one (by unfold maxInMemoryEntries; omega)
  rw [garbageCollectInMemory, evicted, if_pos few]
  rfl

/-- **A call without Redis** is refused when those let in crowd the window, and
counts when it is let in. -/
theorem Admits.check {since : ℚ} (admits : Admits limiter ip free since) (after : since ≤ now) :
    ((checkRateLimit limit false ip now limiter).1 = true ↔ ¬ Crowded limit free now) ∧
      Admits (checkRateLimit limit false ip now limiter).2 ip
        (if Crowded limit free now then free else free ++ [now]) now := by
  have outcome : checkRateLimit limit false ip now limiter =
      ((checkInMemory limit ip now limiter.inMemoryDb).1, { limiter with
        redisClient := false
        inMemoryDb := (checkInMemory limit ip now limiter.inMemoryDb).2 }) := by
    unfold checkRateLimit
    rw [if_pos admits.enabled, admits.redisClient]
    rfl
  have decided : (checkInMemory limit ip now limiter.inMemoryDb).1 = true ↔
      ¬ Crowded limit free now := by
    rw [checkInMemory_iff, admits.collected, admits.log now after, Crowded, not_le]
  rw [outcome]
  refine ⟨decided, admits.enabled, rfl, fun other member => ?_, fun later past => ?_⟩
  · exact (mem_keys_checkInMemory member).elim id (admits.alone other)
  · show validTimestamps later
      (timestamps (checkInMemory limit ip now limiter.inMemoryDb).2 ip) = _
    rw [timestamps_checkInMemory, if_pos rfl, admits.collected, validTimestamps_append,
      validTimestamps_validTimestamps past, admits.log later (le_trans after past)]
    by_cases crowded : Crowded limit free now
    · rw [if_pos crowded, if_neg fun allowed => decided.mp allowed crowded]
      exact List.append_nil _
    · rw [if_neg crowded, if_pos (decided.mpr crowded), validTimestamps_append]

/-- The window is crowded by the earlier calls when the free ones crowd it. -/
theorem Crowded.mono (sub : free.Sublist earlier) (crowded : Crowded limit free now) :
    Crowded limit earlier now :=
  le_trans crowded (sub.filter _).length_le

/-- From any point at which both logs are in step, the decisions agree exactly on
the calls that are relieved. -/
theorem decisions_agree_from {times : List ℚ} {other : RateLimiter Ip} {since : ℚ}
    (logs : Logs limiter ip earlier) (admits : Admits other ip free since)
    (sub : free.Sublist earlier) (past : ∀ t ∈ earlier, 0 ≤ t ∧ ∀ now ∈ times, t < now)
    (positive : ∀ now ∈ times, 0 ≤ now ∧ since ≤ now) (increasing : times.Pairwise (· < ·)) :
    decisions limit ip limiter times = decisions limit ip other times ↔
      Relieved limit earlier free times := by
  induction times generalizing limiter other earlier free since with
  | nil => exact ⟨fun _ => trivial, fun _ => rfl⟩
  | cons now later ih =>
      obtain ⟨first, rest⟩ := List.pairwise_cons.mp increasing
      obtain ⟨nonneg, afterSince⟩ := positive now List.mem_cons_self
      obtain ⟨redis, logs'⟩ := @Logs.check _ _ limit ip limiter earlier now logs nonneg
        fun t member => ⟨(past t member).1, (past t member).2 now List.mem_cons_self⟩
      obtain ⟨memory, admits'⟩ := @Admits.check _ _ limit ip other free now since admits afterSince
      rw [decisions, decisions, Relieved, List.cons.injEq]
      -- the calls agree now exactly when the free ones crowd a crowded window
      have here : (checkRateLimit limit false ip now limiter).1 =
          (checkRateLimit limit false ip now other).1 ↔
            (Crowded limit earlier now → Crowded limit free now) := by
        rw [Bool.eq_iff_iff, redis, memory, not_iff_not]
        exact ⟨Iff.mp, fun only => ⟨only, fun crowded => crowded.mono sub⟩⟩
      rw [here]
      refine and_congr_right fun only => ?_
      have same : Crowded limit free now ↔ Crowded limit earlier now :=
        ⟨fun crowded => crowded.mono sub, only⟩
      have stepped : Admits (checkRateLimit limit false ip now other).2 ip
          (if Crowded limit earlier now then free else free ++ [now]) now := by
        rw [if_congr same.symm rfl rfl]
        exact admits'
      refine ih logs' stepped ?_ ?_ (fun t member => ?_) rest
      · split
        · exact sub.trans (List.sublist_append_left earlier [now])
        · exact sub.append (List.Sublist.refl [now])
      · intro t member
        rcases List.mem_append.mp member with before | this
        · exact ⟨(past t before).1,
            fun u ahead => (past t before).2 u (List.mem_cons_of_mem _ ahead)⟩
        · rw [List.mem_singleton.mp this]
          exact ⟨nonneg, first⟩
      · exact ⟨(positive t (List.mem_cons_of_mem _ member)).1, (first t member).le⟩

/-- **When the backends agree.**  For calls of one client at increasing times,
Redis and the log in memory decide alike exactly when every window that the
earlier calls crowd is crowded by the free ones among them. -/
theorem decisions_agree_iff (limit : ℕ) (ip : Ip) (times : List ℚ)
    (positive : ∀ now ∈ times, 0 ≤ now) (increasing : times.Pairwise (· < ·)) :
    decisions limit ip .withRedis times = decisions limit ip .inMemory times ↔
      Relieved limit [] [] times :=
  decisions_agree_from logs_start admits_start (List.Sublist.refl [])
    (fun t member => by cases member)
    (fun now member => ⟨positive now member, positive now member⟩) increasing

end Backends

/-- Two calls half a minute apart and a third one after a minute, one allowed in a minute. -/
def burst : List ℚ := [0, 30, 61]

theorem decisions_agree_pair :
    decisions 1 () .withRedis [0, 30] = decisions 1 () .inMemory [0, 30] := by
  refine (decisions_agree_iff 1 () [0, 30] (by decide) (by decide)).mpr ⟨by decide, ?_, trivial⟩
  exact fun _ => by decide +kernel

/-- **A refused call keeps the next one out**, but only in Redis. -/
theorem decisions_differ :
    decisions 1 () .withRedis burst = [true, false, false] ∧
      decisions 1 () .inMemory burst = [true, false, true] := by
  decide +kernel

end PersonTracking.Gateway
