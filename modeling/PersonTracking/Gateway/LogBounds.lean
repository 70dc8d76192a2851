import PersonTracking.Gateway.RateLimiter

/-!
# The size of the limiter's log

The log in memory is garbage collected before a client is entered, and a client that has
made its calls is not entered again.  `LogBounds` is what every call keeps;
`log_bounded` is what it means for a run: the number of clients and the length of each
list are bounded, and a garbage collection evicts nobody in favour of a client that called
earlier.
-/

namespace PersonTracking.Gateway

open Library

variable {Ip : Type} [DecidableEq Ip] {db : RequestLog Ip} {limit : ℕ} {ip : Ip} {now : ℚ}

/-! ## The latest timestamp -/

theorem le_foldl_max (best : ℚ) (times : List ℚ) : best ≤ times.foldl max best := by
  induction times generalizing best with
  | nil => exact le_refl best
  | cons t times ih => exact (le_max_left best t).trans (ih (max best t))

theorem mem_foldl_max (best : ℚ) (times : List ℚ) :
    times.foldl max best = best ∨ times.foldl max best ∈ times := by
  induction times generalizing best with
  | nil => exact .inl rfl
  | cons t times ih =>
      rcases ih (max best t) with kept | found
      · rcases max_choice best t with first | second
        · exact .inl (kept.trans first)
        · exact .inr (by rw [List.foldl_cons, kept, second]; exact List.mem_cons_self)
      · exact .inr (List.mem_cons_of_mem t found)

theorem le_latest {times : List ℚ} {t : ℚ} (member : t ∈ times) : t ≤ latest times := by
  cases times with
  | nil => cases member
  | cons first rest =>
      rw [latest]
      induction rest generalizing first with
      | nil => exact (List.mem_singleton.mp member).le
      | cons second rest ih =>
          rw [List.foldl_cons]
          rcases List.mem_cons.mp member with rfl | later
          · exact (le_max_left t second).trans (le_foldl_max _ rest)
          · rcases List.mem_cons.mp later with rfl | last
            · exact (le_max_right first t).trans (le_foldl_max _ rest)
            · exact ih (max first second) (List.mem_cons_of_mem _ last)

theorem latest_mem {times : List ℚ} (held : times ≠ []) : latest times ∈ times := by
  cases times with
  | nil => exact absurd rfl held
  | cons first rest =>
      rcases mem_foldl_max first rest with same | found
      · exact List.mem_cons.mpr (.inl same)
      · exact List.mem_cons_of_mem first found

/-! ## One garbage collection -/

theorem sortedIps_perm (db : RequestLog Ip) : (sortedIps db).Perm db.keys :=
  List.mergeSort_perm _ _

/-- Whoever called later comes later. -/
theorem sortedIps_pairwise (db : RequestLog Ip) :
    (sortedIps db).Pairwise fun a b => latest (timestamps db a) ≤ latest (timestamps db b) := by
  have sorted := @List.pairwise_mergeSort Ip
    (fun a b => decide (latest (timestamps db a) ≤ latest (timestamps db b)))
    (fun a b c first second => by
      rw [decide_eq_true_eq] at first second ⊢
      exact first.trans second)
    (fun a b => by simpa using le_total _ _) db.keys
  exact sorted.imp of_decide_eq_true

/-- **A garbage collection** evicts half of too many clients and keeps the others, whose
latest calls are no earlier. -/
theorem exists_kept (db : RequestLog Ip) :
    ∃ kept, (evicted db ++ kept).Perm db.keys ∧ (garbageCollectInMemory db).keys.Perm kept ∧
      (∀ a ∈ evicted db, ∀ b ∈ kept, latest (timestamps db a) ≤ latest (timestamps db b)) ∧
        (maxInMemoryEntries < db.keys.length → (evicted db).length = db.keys.length / 2) := by
  obtain ⟨kept, split⟩ : ∃ kept, sortedIps db = evicted db ++ kept := by
    unfold evicted
    split
    · exact ⟨sortedIps db, rfl⟩
    · exact ⟨_, (List.take_append_drop _ _).symm⟩
  have all : (evicted db ++ kept).Perm db.keys := split ▸ sortedIps_perm db
  have different : (evicted db ++ kept).Nodup := all.nodup_iff.mpr db.nodup
  have sorted := sortedIps_pairwise db
  rw [split, List.pairwise_append] at sorted
  refine ⟨kept, all, ?_, sorted.2.2, fun many => ?_⟩
  · rw [garbageCollectInMemory, OrderedDict.keys_foldl_pop]
    refine (all.symm.filter _).trans (List.Perm.of_eq ?_)
    rw [List.filter_append, List.filter_eq_nil_iff.mpr fun a gone => by simpa using gone,
      List.nil_append, List.filter_eq_self]
    intro b member
    exact decide_eq_true fun gone => (List.disjoint_of_nodup_append different) gone member
  · rw [evicted, if_neg (Nat.not_le.mpr many), List.length_take, (sortedIps_perm db).length_eq]
    exact Nat.min_eq_left (Nat.div_le_self _ 2)

/-! ## What every call keeps -/

/-- A log after calls of which none was later than `now`. -/
structure LogBounds (limit : ℕ) (now : ℚ) (db : RequestLog Ip) : Prop where
  size : db.keys.length ≤ maxInMemoryEntries + 1
  short : ∀ ip, (timestamps db ip).length ≤ limit
  ordered : ∀ ip, (timestamps db ip).Pairwise (· ≤ ·)
  past : ∀ ip, ∀ t ∈ timestamps db ip, t ≤ now
  filled : 0 < limit → ∀ ip ∈ db.keys, timestamps db ip ≠ []

theorem logBounds_empty : LogBounds limit now (.empty : RequestLog Ip) where
  size := Nat.zero_le _
  short _ := Nat.zero_le _
  ordered _ := List.Pairwise.nil
  past _ _ member := by cases member
  filled _ _ member := by cases member

namespace LogBounds

variable {later : ℚ}

theorem mono (bounds : LogBounds limit now db) (after : now ≤ later) :
    LogBounds limit later db :=
  { bounds with past := fun ip t member => (bounds.past ip t member).trans after }

/-- After a garbage collection there is room for one more client. -/
theorem size_garbageCollect (bounds : LogBounds limit now db) :
    (garbageCollectInMemory db).keys.length ≤ maxInMemoryEntries := by
  obtain ⟨kept, all, left, -, half⟩ := exists_kept db
  have total := all.length_eq
  rw [List.length_append] at total
  have size := bounds.size
  rw [left.length_eq]
  by_cases many : maxInMemoryEntries < db.keys.length
  · have gone := half many
    unfold maxInMemoryEntries at *
    omega
  · omega

theorem garbageCollect (bounds : LogBounds limit now db) :
    LogBounds limit now (garbageCollectInMemory db) where
  size := bounds.size_garbageCollect.trans (Nat.le_succ _)
  short ip := by
    rw [timestamps_garbageCollect]
    split
    · exact Nat.zero_le _
    · exact bounds.short ip
  ordered ip := by
    rw [timestamps_garbageCollect]
    split
    · exact List.Pairwise.nil
    · exact bounds.ordered ip
  past ip t member := by
    rw [timestamps_garbageCollect] at member
    split at member
    · cases member
    · exact bounds.past ip t member
  filled positive ip member := by
    rw [garbageCollectInMemory, OrderedDict.keys_foldl_pop, List.mem_filter] at member
    rw [timestamps_garbageCollect, if_neg (of_decide_eq_true member.2)]
    exact bounds.filled positive ip member.1

/-- One list is replaced, by one that keeps the bounds. -/
theorem set (bounds : LogBounds limit now db) (room : db.keys.length ≤ maxInMemoryEntries)
    {times : List ℚ} (short : times.length ≤ limit) (ordered : times.Pairwise (· ≤ ·))
    (past : ∀ t ∈ times, t ≤ now) (filled : 0 < limit → times ≠ []) :
    LogBounds limit now (db.set ip times) where
  size := (db.length_keys_set_le ip times).trans (Nat.succ_le_succ room)
  short other := by
    rw [timestamps_set]
    split
    · exact short
    · exact bounds.short other
  ordered other := by
    rw [timestamps_set]
    split
    · exact ordered
    · exact bounds.ordered other
  past other t member := by
    rw [timestamps_set] at member
    split at member
    · exact past t member
    · exact bounds.past other t member
  filled positive other member := by
    rw [timestamps_set]
    split
    · exact filled positive
    · rename_i different
      rcases OrderedDict.mem_keys_set.mp member with rfl | before
      · exact absurd rfl different
      · exact bounds.filled positive other before

/-- **One call** keeps the bounds. -/
theorem checkInMemory (bounds : LogBounds limit now db) (after : now ≤ later) :
    LogBounds limit later (checkInMemory limit ip later db).2 := by
  have collected := bounds.garbageCollect.mono after
  have room := bounds.size_garbageCollect
  have valid : (validTimestamps later (timestamps (garbageCollectInMemory db) ip)).Sublist
      (timestamps (garbageCollectInMemory db) ip) := List.filter_sublist
  have short := valid.length_le.trans (collected.short ip)
  have ordered := (collected.ordered ip).sublist valid
  have past : ∀ t ∈ validTimestamps later (timestamps (garbageCollectInMemory db) ip),
      t ≤ later := fun t member => collected.past ip t (valid.subset member)
  by_cases full : limit ≤
      (validTimestamps later (timestamps (garbageCollectInMemory db) ip)).length
  · rw [checkInMemory_full full]
    exact collected.set room short ordered past fun positive =>
      List.length_pos_iff.mp (positive.trans_le full)
  · rw [checkInMemory_room full]
    refine collected.set room ?_ ?_ ?_ fun _ => List.append_ne_nil_of_right_ne_nil _
      (List.cons_ne_nil _ _)
    · rw [List.length_append]
      exact Nat.not_le.mp full
    · rw [List.pairwise_append]
      refine ⟨ordered, List.pairwise_singleton _ _, fun t member u last => ?_⟩
      exact List.mem_singleton.mp last ▸ past t member
    · intro t member
      rcases List.mem_append.mp member with earlier | last
      · exact past t earlier
      · exact (List.mem_singleton.mp last).le

/-- A client with a timestamp after all of a client that is kept is kept itself. -/
theorem mem_keys_garbageCollect (bounds : LogBounds limit now db) {other : Ip} {t : ℚ}
    (entered : ip ∈ db.keys) (kept : other ∈ (garbageCollectInMemory db).keys)
    (member : t ∈ timestamps db ip) (newer : ∀ u ∈ timestamps db other, u < t) :
    ip ∈ (garbageCollectInMemory db).keys := by
  obtain ⟨rest, all, left, older, -⟩ := exists_kept db
  have positive : 0 < limit := (List.length_pos_of_mem member).trans_le (bounds.short ip)
  have inRest := left.mem_iff.mp kept
  have held := bounds.filled positive other (all.mem_iff.mp (List.mem_append_right _ inRest))
  rcases List.mem_append.mp (all.mem_iff.mpr entered) with gone | stays
  · have before : latest (timestamps db ip) ≤ latest (timestamps db other) :=
      older ip gone other inRest
    have after : latest (timestamps db other) < t := newer _ (latest_mem held)
    exact absurd (le_latest member) (not_le.mpr (before.trans_lt after))
  · exact left.mem_iff.mpr stays

end LogBounds

/-! ## Runs -/

variable {traffic after : Traffic Ip}

/-- The log of a limiter that has served calls. -/
structure Traffic.Bounded (limit : ℕ) (traffic : Traffic Ip) : Prop where
  counts : traffic.Counts
  log : ∀ now, (∀ served ∈ traffic.history, served.now ≤ now) →
    LogBounds limit now traffic.limiter.inMemoryDb

/-- **One step.** -/
theorem Traffic.Bounded.serve (bounded : traffic.Bounded limit) {call : Ip × ℚ}
    (served : traffic.serve limit call = some after) : after.Bounded limit := by
  refine ⟨bounded.counts.serve served, ?_⟩
  unfold Traffic.serve at served
  split at served
  · rename_i latest
    cases served
    simp only [bounded.counts.checkRateLimit]
    intro now later
    have here : call.2 ≤ now := later _ List.mem_cons_self
    exact ((bounded.log call.2 latest).checkInMemory (le_refl call.2)).mono here
  · cases served

theorem bounded_of_run {calls : List (Ip × ℚ)}
    (reached : runFrom (Traffic.serve limit) .start calls = some traffic) :
    traffic.Bounded limit :=
  runFrom_invariant (fun _ _ _ bounded served => bounded.serve served)
    ⟨counts_start, fun _ _ => logBounds_empty⟩ reached

/-- **The log is bounded.**  After every run of calls at non-decreasing times it holds at
most one client more than `maxInMemoryEntries`, each with at most `limit` timestamps in
order, and the garbage collection of the next call keeps every client that called after
all calls of a client it keeps. -/
theorem log_bounded (limit : ℕ) (calls : List (Ip × ℚ)) (traffic : Traffic Ip)
    (reached : runFrom (Traffic.serve limit) .start calls = some traffic) :
    traffic.limiter.inMemoryDb.keys.length ≤ maxInMemoryEntries + 1 ∧
      (∀ entry ∈ traffic.limiter.inMemoryDb.entries,
        entry.2.length ≤ limit ∧ entry.2.Pairwise (· ≤ ·)) ∧
      ∀ ip ∈ traffic.limiter.inMemoryDb.keys,
        ∀ other ∈ (garbageCollectInMemory traffic.limiter.inMemoryDb).keys,
          ∀ t ∈ timestamps traffic.limiter.inMemoryDb ip,
            (∀ u ∈ timestamps traffic.limiter.inMemoryDb other, u < t) →
              ip ∈ (garbageCollectInMemory traffic.limiter.inMemoryDb).keys := by
  have bounds := (bounded_of_run reached).log (latest (traffic.history.map Served.now))
    fun served member => le_latest (List.mem_map_of_mem member)
  refine ⟨bounds.size, fun entry member => ?_, fun ip entered other kept t member newer => ?_⟩
  · have stored : timestamps traffic.limiter.inMemoryDb entry.1 = entry.2 := by
      rw [timestamps, OrderedDict.get?_of_mem member]
      rfl
    exact ⟨stored ▸ bounds.short entry.1, stored ▸ bounds.ordered entry.1⟩
  · exact bounds.mem_keys_garbageCollect entered kept member newer

/-- Three clients at a limit of two calls; the third calls of two of them are refused. -/
def exampleCalls : List (ℕ × ℚ) := [(0, 0), (1, 1), (0, 2), (0, 3), (2, 4), (1, 5), (1, 6)]

theorem log_bounded_three_clients :
    ∃ traffic, runFrom (Traffic.serve 2) (Traffic.start : Traffic ℕ) exampleCalls = some traffic ∧
      (traffic.history.map Served.allowed = [false, true, true, false, true, true, true] ∧
        traffic.limiter.inMemoryDb.keys = [0, 1, 2]) ∧
      traffic.limiter.inMemoryDb.keys.length ≤ maxInMemoryEntries + 1 ∧
        (∀ entry ∈ traffic.limiter.inMemoryDb.entries,
          entry.2.length ≤ 2 ∧ entry.2.Pairwise (· ≤ ·)) ∧
        ∀ ip ∈ traffic.limiter.inMemoryDb.keys,
          ∀ other ∈ (garbageCollectInMemory traffic.limiter.inMemoryDb).keys,
            ∀ t ∈ timestamps traffic.limiter.inMemoryDb ip,
              (∀ u ∈ timestamps traffic.limiter.inMemoryDb other, u < t) →
                ip ∈ (garbageCollectInMemory traffic.limiter.inMemoryDb).keys := by
  have served : (runFrom (Traffic.serve 2) (Traffic.start : Traffic ℕ) exampleCalls).isSome =
      true := by decide +kernel
  obtain ⟨traffic, reached⟩ := Option.isSome_iff_exists.mp served
  have outcome : ∀ traffic ∈ runFrom (Traffic.serve 2) (Traffic.start : Traffic ℕ) exampleCalls,
      traffic.history.map Served.allowed = [false, true, true, false, true, true, true] ∧
        traffic.limiter.inMemoryDb.keys = [0, 1, 2] := by decide +kernel
  exact ⟨traffic, reached, outcome traffic reached, log_bounded 2 exampleCalls traffic reached⟩

end PersonTracking.Gateway
