import Mathlib.Tactic.Linarith
import PersonTracking.Python.Text

/-!
# Python values that come out of JSON

`Json` is what `json.loads` returns; the accessors raise what the Python
operators raise on a value of the wrong type, so that a decoder written against
them has the error paths of the source.

A float is represented by the decimal that `repr` prints for it — sign,
mantissa and power of ten.  Every finite binary64 has exactly one such shortest
decimal and `float` reads it back, so nothing is lost by the choice; `nearest`
is the way back, for what `int` and a format see of the value itself.
-/

namespace PersonTracking.Python

/-- The exception classes the modelled code raises or tells apart. -/
inductive PyError
  | keyError (key : String)
  | typeError
  | attributeError
  | valueError
  | overflowError
  | unicodeError
  | runtimeError
  | qdrantError
  | sqlError
  | kafkaError
  | httpError
  | invalidUrl
deriving DecidableEq, Repr

/-- What comes before a step that succeeds has succeeded. -/
theorem exists_of_bind_eq_ok {ε α β : Type} {first : Except ε α} {next : α → Except ε β} {value : β}
    (done : first >>= next = .ok value) :
    ∃ result, first = .ok result ∧ next result = .ok value := by
  cases first with
  | error error => cases done
  | ok result => exact ⟨result, rfl, done⟩

/-- A float, as the decimal `± mantissa · 10 ^ exponent`. -/
inductive PyFloat
  | finite (negative : Bool) (mantissa : ℕ) (exponent : Int)
  | inf (negative : Bool)
  | nan
deriving DecidableEq, Repr

namespace PyFloat

/-- `math.isfinite(x)`. -/
def isFinite : PyFloat → Bool
  | finite _ _ _ => true
  | _ => false

/-- `n / d` rounded to a natural number, ties to even. -/
def divRound (n d : ℕ) : ℕ :=
  let quotient := n / d
  let twice := 2 * (n % d)
  if twice < d ∨ (twice = d ∧ quotient % 2 = 0) then quotient else quotient + 1

/-- The binary64 nearest to `n / d`, as a significand of at most 53 bits and a power of two. -/
def nearest (n d : ℕ) : ℕ × Int :=
  let guess : Int := (Nat.log2 n : Int) - Nat.log2 d
  let top := if d * 2 ^ guess.toNat ≤ n * 2 ^ (-guess).toNat then guess else guess - 1
  let power := max (top - 52) (-1074)
  (divRound (n * 2 ^ (-power).toNat) (d * 2 ^ power.toNat), power)

/-- Rounding keeps what is not less than a natural number there. -/
theorem le_divRound {n d k : ℕ} (positive : 0 < d) (reaches : k * d ≤ n) : k ≤ divRound n d := by
  have quotient : k ≤ n / d := (Nat.le_div_iff_mul_le positive).mpr reaches
  unfold divRound
  dsimp only
  split <;> omega

/-- …and what is not greater. -/
theorem divRound_le {n d k : ℕ} (positive : 0 < d) (within : n ≤ k * d) : divRound n d ≤ k := by
  have split := Nat.div_add_mod n d
  unfold divRound
  dsimp only
  split
  · exact Nat.div_le_of_le_mul (by rwa [Nat.mul_comm])
  · rename_i rounds
    refine (Nat.div_lt_iff_lt_mul positive).mpr
      (lt_of_le_of_ne within fun same => rounds (Or.inl ?_))
    rw [same, Nat.mul_mod_left]
    exact positive

/-- **The binary64 nearest to a quotient** of a magnitude that is known: its significand is
rounded to 53 bits. -/
theorem nearest_eq {n d k : ℕ} (positive : 0 < d) (lower : 2 ^ k * d ≤ n)
    (upper : n < 2 ^ (k + 1) * d) (small : k ≤ 52) :
    nearest n d = (divRound (n * 2 ^ (52 - k)) d, (k : Int) - 52) := by
  have nonzero : n ≠ 0 := by
    have := Nat.mul_pos (Nat.two_pow_pos k) positive
    omega
  have below : Nat.log2 n < k + Nat.log2 d + 2 := by
    refine (Nat.pow_lt_pow_iff_right Nat.one_lt_two).mp ?_
    calc 2 ^ Nat.log2 n ≤ n := Nat.log2_self_le nonzero
      _ < 2 ^ (k + 1) * d := upper
      _ ≤ 2 ^ (k + 1) * 2 ^ (Nat.log2 d + 1) := Nat.mul_le_mul_left _ Nat.lt_log2_self.le
      _ = 2 ^ (k + Nat.log2 d + 2) := by rw [← Nat.pow_add]; congr 1; omega
  have above : k + Nat.log2 d < Nat.log2 n + 1 := by
    refine (Nat.pow_lt_pow_iff_right Nat.one_lt_two).mp ?_
    calc 2 ^ (k + Nat.log2 d) = 2 ^ k * 2 ^ Nat.log2 d := Nat.pow_add _ _ _
      _ ≤ 2 ^ k * d := Nat.mul_le_mul_left _ (Nat.log2_self_le positive.ne')
      _ ≤ n := lower
      _ < 2 ^ (Nat.log2 n + 1) := Nat.lt_log2_self
  -- the logarithms guess `k` or `k + 1`, and the comparison sets the guess right
  have top : (if d * 2 ^ ((Nat.log2 n : Int) - Nat.log2 d).toNat ≤
        n * 2 ^ (-((Nat.log2 n : Int) - Nat.log2 d)).toNat then (Nat.log2 n : Int) - Nat.log2 d
      else (Nat.log2 n : Int) - Nat.log2 d - 1) = k := by
    rcases (by omega : Nat.log2 n = k + Nat.log2 d ∨ Nat.log2 n = k + Nat.log2 d + 1) with
      same | more
    · have guess : (Nat.log2 n : Int) - Nat.log2 d = k := by omega
      rw [guess, if_pos]
      rw [Int.toNat_natCast, Int.toNat_neg_natCast, Nat.pow_zero, Nat.mul_one, Nat.mul_comm]
      exact lower
    · have guess : (Nat.log2 n : Int) - Nat.log2 d = (k + 1 : ℕ) := by omega
      rw [guess, if_neg]
      · omega
      · rw [Int.toNat_natCast, Int.toNat_neg_natCast, Nat.pow_zero, Nat.mul_one, Nat.mul_comm]
        exact Nat.not_le.mpr upper
  unfold nearest
  dsimp only
  rw [top, max_eq_left (by omega : (-1074 : Int) ≤ k - 52),
    show ((k : Int) - 52).toNat = 0 by omega, show (-((k : Int) - 52)).toNat = 52 - k by omega,
    Nat.pow_zero, Nat.mul_one]

/-- The value of a float: what its decimal is rounded to. -/
def binary (mantissa : ℕ) (exponent : Int) : ℕ × Int :=
  nearest (mantissa * 10 ^ exponent.toNat) (10 ^ (-exponent).toNat)

/-- `int(x)`: truncation towards zero. -/
def toInt : PyFloat → Except PyError Int
  | finite negative mantissa exponent =>
      let value := binary mantissa exponent
      let magnitude := value.1 * 2 ^ value.2.toNat / 2 ^ (-value.2).toNat
      .ok (if negative then -(magnitude : Int) else magnitude)
  | inf _ => .error .overflowError
  | nan => .error .valueError

example : toInt (.finite false 1 23) = .ok 99999999999999991611392 := by decide +kernel

/-- The value of a finite float in units of `10 ^ exponent'`, a power below its own. -/
def scaled (negative : Bool) (mantissa : ℕ) (exponent exponent' : Int) : Int :=
  let magnitude : ℕ := mantissa * 10 ^ (exponent - exponent').toNat
  if negative then -(magnitude : Int) else magnitude

/-- `x < y`; nothing is less or greater than `nan`. -/
def lt : PyFloat → PyFloat → Bool
  | finite s m e, finite s' m' e' => scaled s m e (min e e') < scaled s' m' e' (min e e')
  | finite _ _ _, inf negative => !negative
  | inf negative, finite _ _ _ => negative
  | inf negative, inf negative' => negative && !negative'
  | nan, _ | _, nan => false

/-- `x <= y`. -/
def le : PyFloat → PyFloat → Bool
  | finite s m e, finite s' m' e' => scaled s m e (min e e') ≤ scaled s' m' e' (min e e')
  | finite _ _ _, inf negative => !negative
  | inf negative, finite _ _ _ => negative
  | inf negative, inf negative' => negative || !negative'
  | nan, _ | _, nan => false

/-- The digits of a float whose decimal point stands after the first `point`
digits, in positional notation. -/
def positional (ds : List Char) (point : Int) : List Char :=
  if point ≤ 0 then '0' :: '.' :: (List.replicate (-point).toNat '0' ++ ds)
  else if (ds.length : Int) ≤ point then
    ds ++ List.replicate (point.toNat - ds.length) '0' ++ ['.', '0']
  else ds.take point.toNat ++ '.' :: ds.drop point.toNat

/-- The digits of a float in scientific notation, the point after the first. -/
def scientific (ds : List Char) (point : Int) : List Char :=
  let power := point - 1
  let sign := if power < 0 then '-' else '+'
  let shown := digits power.natAbs
  ds.take 1 ++ (if ds.length ≤ 1 then [] else '.' :: ds.drop 1) ++
    'e' :: sign :: (if shown.length < 2 then '0' :: shown else shown)

/-- The text of a magnitude: positional for decimal exponents from -4 to 15,
scientific beyond. -/
def magnitudeText (mantissa : ℕ) (exponent : Int) : List Char :=
  let ds := digits mantissa
  let point : Int := ds.length + exponent
  if mantissa = 0 then ['0', '.', '0']
  else if -4 < point ∧ point ≤ 16 then positional ds point
  else scientific ds point

/-- `repr(x)`. -/
def repr : PyFloat → List Char
  | finite negative mantissa exponent =>
      if negative then '-' :: magnitudeText mantissa exponent
      else magnitudeText mantissa exponent
  | inf negative => if negative then "-inf".toList else "inf".toList
  | nan => "nan".toList

theorem exists_spoils_magnitudeText (mantissa : ℕ) (exponent : Int) :
    ∃ c ∈ magnitudeText mantissa exponent, spoils 10 c = true := by
  simp only [magnitudeText]
  split
  · exact ⟨'.', by simp, by decide⟩
  · split
    · refine ⟨'.', ?_, by decide⟩
      unfold positional
      split
      · simp
      · split <;> simp
    · exact ⟨'e', by simp [scientific], by decide⟩

/-- What `repr` prints for a float is never the text of an integer. -/
theorem parseInt_repr (x : PyFloat) : parseInt 10 x.repr = none := by
  cases x with
  | inf negative =>
      cases negative
      · exact parseInt_ten_eq_none (c := 'i') (by decide) (by decide)
      · exact parseInt_ten_eq_none (c := 'i') (by decide) (by decide)
  | nan => exact parseInt_ten_eq_none (c := 'n') (by decide) (by decide)
  | finite negative mantissa exponent =>
      obtain ⟨c, member, bad⟩ := exists_spoils_magnitudeText mantissa exponent
      refine parseInt_ten_eq_none (c := c) ?_ bad
      cases negative
      · exact member
      · exact List.mem_cons_of_mem _ member

/-- `f"{x:.2f}"`: hundredths of the value, ties to even. -/
def fixed2 : PyFloat → List Char
  | finite negative mantissa exponent =>
      let value := binary mantissa exponent
      let hundredths := divRound (100 * value.1 * 2 ^ value.2.toNat) (2 ^ (-value.2).toNat)
      let body := digits (hundredths / 100) ++ '.' :: padded 10 2 (hundredths % 100)
      if negative then '-' :: body else body
  | inf negative => if negative then "-inf".toList else "inf".toList
  | nan => "nan".toList

-- the float that is written 0.575 lies below it, the one written 0.125 in the middle
example : fixed2 (.finite false 575 (-3)) = "0.57".toList := by decide +kernel

example : fixed2 (.finite false 125 (-3)) = "0.12".toList := by decide +kernel

end PyFloat

/-- What `json.loads` returns.  The fields of an object are in text order; of
two fields with one name the later one counts. -/
inductive Json
  | null
  | bool (value : Bool)
  | int (value : Int)
  | float (value : PyFloat)
  | str (text : String)
  | arr (items : List Json)
  | obj (fields : List (String × Json))

namespace Json

/-- `value.get(key)` on a dict. -/
def get? (key : String) : Json → Option Json
  | obj fields => (fields.reverse.find? fun field => field.1 = key).map Prod.snd
  | _ => none

/-- `value[key]` with a string key. -/
def getItem (key : String) : Json → Except PyError Json
  | obj fields =>
      match (obj fields).get? key with
      | some value => .ok value
      | none => .error (.keyError key)
  | _ => .error .typeError

/-- `value.get(key, default)`: only dicts have the method. -/
def getD (value : Json) (key : String) (default : Json) : Except PyError Json :=
  match value with
  | obj fields => .ok (((obj fields).get? key).getD default)
  | _ => .error .attributeError

/-- `isinstance(value, dict)`. -/
def isObject : Json → Bool
  | obj _ => true
  | _ => false

/-- Truth of a value in a condition. -/
def truthy : Json → Bool
  | null => false
  | bool value => value
  | int value => value != 0
  | float (.finite _ mantissa _) => mantissa != 0
  | float _ => true
  | str text => !text.toList.isEmpty
  | arr items => !items.isEmpty
  | obj fields => !fields.isEmpty

/-- `len(value)`. -/
def len : Json → Except PyError ℕ
  | str text => .ok text.toList.length
  | arr items => .ok items.length
  | obj fields => .ok (fields.map Prod.fst).dedup.length
  | _ => .error .typeError

/-- A value used where a method of `str` is called on it. -/
def asStr : Json → Except PyError String
  | str text => .ok text
  | _ => .error .attributeError

/-- `int(value)`. -/
def toInt : Json → Except PyError Int
  | bool value => .ok (if value then 1 else 0)
  | int value => .ok value
  | float value => value.toInt
  | str text =>
      match parseInt 10 text.toList with
      | some value => .ok value
      | none => .error .valueError
  | _ => .error .typeError

/-- `str(value)` of a scalar. -/
def scalarText : Json → Option String
  | null => some "None"
  | bool value => some (if value then "True" else "False")
  | int value => some (String.ofList (intDigits value))
  | float value => some (String.ofList value.repr)
  | str text => some text
  | _ => none

/-- `f"{value:.2f}"`: numbers and bools format, an integer as the float nearest to it
or, beyond the range of floats, not at all; strings have no such format and other types
no format at all. -/
def fixed2 : Json → Except PyError String
  | bool value => .ok (if value then "1.00" else "0.00")
  | int value =>
      if value.natAbs < 2 ^ 1024 - 2 ^ 970 then
        .ok (String.ofList (PyFloat.fixed2 (.finite (value < 0) value.natAbs 0)))
      else .error .overflowError
  | float value => .ok (String.ofList value.fixed2)
  | str _ => .error .valueError
  | _ => .error .typeError

/-- A value whose `int` exists is a scalar. -/
theorem exists_scalarText_of_toInt {value : Json} {n : Int} (parsed : value.toInt = .ok n) :
    ∃ text, value.scalarText = some text := by
  cases value <;> simp_all [toInt, scalarText]

@[simp] theorem get?_obj_append_singleton (fields : List (String × Json)) (name key : String)
    (value : Json) :
    (obj (fields ++ [(name, value)])).get? key =
      if name = key then some value else (obj fields).get? key := by
  by_cases same : name = key <;> simp [get?, same]

end Json

/-- **A JSON text format.**  `loads` reads back what `dumps` writes: dicts with
string keys, lists, strings, integers, floats (`repr` round-trips), booleans
and `None` all survive. -/
structure JsonCodec (Text : Type) where
  dumps : Json → Text
  loads : Text → Option Json
  loads_dumps : ∀ value, loads (dumps value) = some value

end PersonTracking.Python
