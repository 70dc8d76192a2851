import Mathlib.Data.Nat.ModEq
import Mathlib.Tactic.NormNum
import PersonTracking.Python.Digits

/-!
# UUIDs

A UUID is a 128-bit number.  `toText` is `str(u)`, 32 hexadecimal digits in
groups of 8-4-4-4-12; `parse` is `uuid.UUID(text)`, which forgives prefixes,
braces and dashes anywhere and reads 32 characters in base 16.

`parse_toText` is the round trip.
-/

namespace PersonTracking.Python

/-- A UUID, by its 128-bit integer value. -/
structure Uuid where
  int : ℕ
  bound : int < 2 ^ 128
deriving DecidableEq, Repr

namespace Uuid

@[ext] theorem ext {u v : Uuid} (same : u.int = v.int) : u = v := by
  cases u
  cases v
  cases same
  rfl

/-- Every number is a UUID in 128 bits. -/
theorem mod_bound (n : ℕ) : n % 2 ^ 128 < 2 ^ 128 := Nat.mod_lt n (Nat.two_pow_pos 128)

/-- The UUID of the low 128 bits of a number. -/
def ofNat (n : ℕ) : Uuid := ⟨n % 2 ^ 128, mod_bound n⟩

/-- `uuid.UUID(int=n)`; `none` is the `ValueError`. -/
def ofInt : Int → Option Uuid
  | .ofNat n => if fits : n < 2 ^ 128 then some ⟨n, fits⟩ else none
  | .negSucc _ => none

@[simp] theorem ofInt_int (u : Uuid) : ofInt (u.int : Int) = some u := dif_pos u.bound

/-- Put dashes after the 8th, 12th, 16th and 20th digit. -/
def dashed (ds : List Char) : List Char :=
  ds.take 8 ++ '-' :: ((ds.drop 8).take 4 ++ '-' :: ((ds.drop 12).take 4 ++
    '-' :: ((ds.drop 16).take 4 ++ '-' :: ds.drop 20)))

/-- The 32 hexadecimal digits of a UUID. -/
def hexDigits (u : Uuid) : List Char := padded 16 32 u.int

/-- `str(u)`. -/
def toText (u : Uuid) : String := String.ofList (dashed u.hexDigits)

/-- The digits `uuid.UUID(text)` reads: prefixes, braces and dashes removed. -/
def bareDigits (chars : List Char) : List Char :=
  replaceChar '-' [] (stripBy (fun c => c = '\x7b' || c = '\x7d')
    (removeAll "uuid:".toList (removeAll "urn:".toList chars)))

/-- `uuid.UUID(text)`; `none` is the `ValueError`. -/
def parse (text : String) : Option Uuid :=
  let ds := bareDigits text.toList
  if ds.length = 32 then (parseInt 16 ds).bind ofInt else none

/-! ## The round trip -/

/-- Removing the dashes undoes `dashed`. -/
theorem replaceChar_dashed {ds : List Char} (noDash : '-' ∉ ds) :
    replaceChar '-' [] (dashed ds) = ds := by
  have keep : ∀ xs : List Char, (∀ c ∈ xs, c ∈ ds) → replaceChar '-' [] xs = xs :=
    fun xs inside => replaceChar_of_notMem fun member => noDash (inside '-' member)
  have taken : ∀ i j : ℕ, replaceChar '-' [] ((ds.drop i).take j) = (ds.drop i).take j :=
    fun i j => keep _ fun c member => List.mem_of_mem_drop (List.mem_of_mem_take member)
  simp only [dashed, replaceChar_append, replaceChar_cons_self, List.nil_append, taken]
  rw [keep _ fun c => List.mem_of_mem_take, keep _ fun c => List.mem_of_mem_drop]
  conv_rhs => rw [← List.take_append_drop 8 ds, ← List.take_append_drop 4 (ds.drop 8),
    ← List.take_append_drop 4 ((ds.drop 8).drop 4),
    ← List.take_append_drop 4 (((ds.drop 8).drop 4).drop 4)]
  simp only [List.drop_drop]

theorem notMem_dashed {ds : List Char} {c : Char} (noDash : c ≠ '-') (absent : c ∉ ds) :
    c ∉ dashed ds := by
  have outside : ∀ i j : ℕ, c ∉ (ds.drop i).take j :=
    fun i j member => absent (List.mem_of_mem_drop (List.mem_of_mem_take member))
  simp only [dashed, List.mem_append, List.mem_cons, not_or]
  exact ⟨fun member => absent (List.mem_of_mem_take member), noDash, outside 8 4, noDash,
    outside 12 4, noDash, outside 16 4, noDash,
    fun member => absent (List.mem_of_mem_drop member)⟩

theorem mem_dashed {c : Char} {ds : List Char} (member : c ∈ dashed ds) :
    c = '-' ∨ c ∈ ds := by
  by_cases dash : c = '-'
  · exact Or.inl dash
  · by_cases inside : c ∈ ds
    · exact Or.inr inside
    · exact absurd member (notMem_dashed dash inside)

/-- The text of a UUID has nothing to forgive but its dashes. -/
theorem bareDigits_toText (u : Uuid) : bareDigits u.toText.toList = u.hexDigits := by
  have absent : ∀ {c : Char}, isSyntax c = true → c ≠ '-' → c ∉ dashed u.hexDigits :=
    fun syntactic noDash => notMem_dashed noDash (notMem_padded syntactic)
  have noU : 'u' ∉ dashed u.hexDigits := absent (by decide) (by decide)
  have noBrace : ∀ c ∈ dashed u.hexDigits, (c = '\x7b' || c = '\x7d') = false := by
    intro c member
    have noOpen : c ≠ '\x7b' := ne_of_mem_of_not_mem member (absent (by decide) (by decide))
    have noClose : c ≠ '\x7d' := ne_of_mem_of_not_mem member (absent (by decide) (by decide))
    simp [noOpen, noClose]
  have spelled : u.toText.toList = dashed u.hexDigits := String.toList_ofList
  rw [bareDigits, spelled]
  show replaceChar '-' [] (stripBy _ (removeAll ('u' :: "uid:".toList)
    (removeAll ('u' :: "rn:".toList) _))) = _
  rw [removeAll_of_notMem noU, removeAll_of_notMem noU, stripBy_of_kept noBrace]
  exact replaceChar_dashed (notMem_padded (by decide))

/-- **Round trip.**  `uuid.UUID(str(u)) == u`. -/
@[simp] theorem parse_toText (u : Uuid) : parse u.toText = some u := by
  have sameRange : (16 : ℕ) ^ 32 = 2 ^ 128 := by norm_num
  have fits : u.int % 16 ^ 32 = u.int := Nat.mod_eq_of_lt (sameRange ▸ u.bound)
  have parsed : parseInt 16 u.hexDigits = some (u.int : Int) := by
    rw [hexDigits, parseInt_padded (by decide), fits]
  have long : u.hexDigits.length = 32 := length_padded 16 32 u.int
  rw [parse, bareDigits_toText, if_pos long, parsed, Option.bind_some, ofInt_int]

/-- Different UUIDs have different texts. -/
theorem toText_injective {u v : Uuid} (same : u.toText = v.toText) : u = v := by
  have parsed := parse_toText u
  rw [same, parse_toText, Option.some.injEq] at parsed
  exact parsed.symm

theorem length_toText (u : Uuid) : u.toText.toList.length = 36 := by
  have long : u.hexDigits.length = 32 := length_padded 16 32 u.int
  rw [toText, String.toList_ofList]
  simp [dashed, long]

theorem toText_ne_empty (u : Uuid) : u.toText ≠ "" := by
  intro empty
  have long := length_toText u
  rw [empty] at long
  cases long

end Uuid

end PersonTracking.Python
