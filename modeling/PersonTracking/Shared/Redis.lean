import Mathlib.Algebra.Order.Ring.Rat
import Mathlib.Data.Rat.Defs

/-!
# Redis keys with a time to live

What the gateway uses of Redis: counters and sorted sets under keys that expire.
Times are in seconds.  A key is there until its deadline.
-/

namespace PersonTracking.Shared.Redis

/-- A value and the time its key expires. -/
structure Expiring (α : Type) where
  value : α
  deadline : ℚ
deriving Repr

/-- What is stored under a key, if it was not deleted. -/
abbrev Key (α : Type) : Type := Option (Expiring α)

/-- The value of a key, unless it has expired. -/
def Key.live {α : Type} (key : Key α) (now : ℚ) : Option α :=
  match key with
  | some entry => if now < entry.deadline then some entry.value else none
  | none => none

theorem Key.live_some {α : Type} {entry : Expiring α} {now : ℚ} (early : now < entry.deadline) :
    Key.live (some entry) now = some entry.value := if_pos early

theorem Key.live_expired {α : Type} {entry : Expiring α} {now : ℚ}
    (late : entry.deadline ≤ now) : Key.live (some entry) now = none := if_neg (not_lt.mpr late)

/-- `INCR` and `EXPIRE` in one transaction. -/
def incr (key : Key ℕ) (now : ℚ) (ttl : ℚ) : Key ℕ :=
  some { value := (key.live now).getD 0 + 1, deadline := now + ttl }

/-- `ZADD` of a member that is named by its score. -/
def zadd (scores : List ℚ) (score : ℚ) : List ℚ :=
  if score ∈ scores then scores else scores ++ [score]

/-- `ZREMRANGEBYSCORE`. -/
def zremrangebyscore (scores : List ℚ) (least greatest : ℚ) : List ℚ :=
  scores.filter fun score => ¬ (least ≤ score ∧ score ≤ greatest)

end PersonTracking.Shared.Redis
