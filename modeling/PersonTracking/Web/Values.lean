import Mathlib.Algebra.Order.Ring.Rat
import Mathlib.Tactic.Linarith
import PersonTracking.Python.Json

/-!
# JavaScript values that come out of JSON

`JsValue` is what `JSON.parse` returns.  Reading a property that is not there gives
`undefined`, which is `none` here.  A number is the rational that its text denotes;
`toNumber` is what the machine rounds it to, where that matters.
-/

namespace PersonTracking.Web

open Python

/-- What `JSON.parse` returns.  Of two properties with one name the later one counts. -/
inductive JsValue
  | null
  | bool (value : Bool)
  | number (value : ℚ)
  | string (text : String)
  | array (items : List JsValue)
  | object (properties : List (String × JsValue))

namespace JsValue

/-- `value.name`, for a name that no prototype has. -/
def property (name : String) : JsValue → Option JsValue
  | object properties => (properties.reverse.find? fun entry => entry.1 = name).map Prod.snd
  | _ => none

/-- Truth of a value in a condition. -/
def truthy : JsValue → Bool
  | null => false
  | bool value => value
  | number value => value ≠ 0
  | string text => text ≠ ""
  | array _ | object _ => true

/-- `typeof value === 'object' && value !== null`. -/
def isRecord : JsValue → Bool
  | array _ | object _ => true
  | _ => false

/-- `typeof value === 'string' ? value : undefined`. -/
def asString : JsValue → Option String
  | string text => some text
  | _ => none

/-- `typeof value === 'number' ? value : undefined`. -/
def asNumber : JsValue → Option ℚ
  | number value => some value
  | _ => none

end JsValue

/-- Truth of what may be `undefined`. -/
def truthy (value : Option JsValue) : Bool := value.elim false JsValue.truthy

/-- The number that a nonnegative rational is rounded to: like Python's floats, JavaScript's
numbers are binary64. -/
def toNumber (x : ℚ) : ℚ :=
  let value := PyFloat.nearest x.num.toNat x.den
  value.1 * 2 ^ value.2.toNat / 2 ^ (-value.2).toNat

/-- **Rounding stays between numbers**: here between two of one power of two. -/
theorem toNumber_between {x : ℚ} {k least most : ℕ} (small : k ≤ 52) (lower : 2 ^ k ≤ x)
    (upper : x < 2 ^ (k + 1)) (above : least / 2 ^ (52 - k) ≤ x) (below : x ≤ most / 2 ^ (52 - k)) :
    least / 2 ^ (52 - k) ≤ toNumber x ∧ toNumber x ≤ most / 2 ^ (52 - k) := by
  have positive : (0 : ℚ) < 2 ^ (52 - k) := by positivity
  have nonneg : 0 ≤ x := le_trans (by positivity) lower
  have den : (0 : ℚ) < x.den := by exact_mod_cast x.den_pos
  have quotient : x * x.den = x.num.toNat := by
    have whole : (x.num.toNat : ℚ) = x.num := by
      exact_mod_cast congrArg (Int.cast : ℤ → ℚ) (Int.toNat_of_nonneg (Rat.num_nonneg.mpr nonneg))
    rw [whole]
    exact Rat.mul_den_eq_num x
  have rounded := @PyFloat.nearest_eq x.num.toNat x.den k x.den_pos
    (by exact_mod_cast quotient ▸ mul_le_mul_of_nonneg_right lower den.le)
    (by exact_mod_cast quotient ▸ mul_lt_mul_of_pos_right upper den) small
  -- between two powers of two the numbers lie one unit of `2 ^ (k - 52)` apart
  have value : toNumber x =
      (PyFloat.divRound (x.num.toNat * 2 ^ (52 - k)) x.den : ℚ) / 2 ^ (52 - k) := by
    rw [toNumber, rounded]
    dsimp only
    rw [show ((k : Int) - 52).toNat = 0 by omega, show (-((k : Int) - 52)).toNat = 52 - k by omega,
      pow_zero, mul_one]
  rw [value, div_le_div_iff_of_pos_right positive, div_le_div_iff_of_pos_right positive]
  rw [div_le_iff₀ positive] at above
  rw [le_div_iff₀ positive] at below
  constructor
  · refine Nat.cast_le.mpr (PyFloat.le_divRound x.den_pos ?_)
    have scaled := mul_le_mul_of_nonneg_right above den.le
    rw [mul_right_comm, quotient] at scaled
    exact_mod_cast scaled
  · refine Nat.cast_le.mpr (PyFloat.divRound_le x.den_pos ?_)
    have scaled := mul_le_mul_of_nonneg_right below den.le
    rw [mul_right_comm, quotient] at scaled
    exact_mod_cast scaled

end PersonTracking.Web
