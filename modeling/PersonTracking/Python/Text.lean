import Mathlib.Algebra.Ring.Nat
import Mathlib.Data.List.Basic
import Mathlib.Tactic.Common

/-!
# Python strings

The string methods the services call, on Lean's `String` through its list of
characters, with the semantics of the Python documentation.

* `lower`, `isSpace`, `strip`, `stripBy`, `split`, `replaceChar`, `removeAll` —
  `str.lower`, `str.isspace`, `str.strip`, `str.split`, `str.replace`.
* `digits` / `padded` — decimal printing, plain and zero-padded (`f"{n:04d}"`).
* `parseInt base` — `int(text, base)`: surrounding whitespace, one sign, digits
  of any script grouped by single underscores, the `0x` prefix in base 16, and in
  base 10 at most `maxStrDigits` digits.
-/

namespace PersonTracking.Python

/-- `str.lower`, on the ASCII letters. -/
def lower (text : String) : String := String.ofList (text.toList.map Char.toLower)

@[simp] theorem toList_lower (text : String) :
    (lower text).toList = text.toList.map Char.toLower := by
  simp [lower]

theorem toLower_of_not_upper {c : Char} (notUpper : ¬ (65 ≤ c.val.toNat ∧ c.val.toNat ≤ 90)) :
    c.toLower = c := by
  have off : ¬ (c.val ≥ 'A'.val ∧ c.val ≤ 'Z'.val) := by
    simpa [UInt32.le_iff_toNat_le] using notUpper
  exact dif_neg off

theorem toNat_toLower {c : Char} (upper : 65 ≤ c.val.toNat ∧ c.val.toNat ≤ 90) :
    c.toLower.val.toNat = c.val.toNat + 32 := by
  have on : c.val ≥ 'A'.val ∧ c.val ≤ 'Z'.val := by
    simpa [UInt32.le_iff_toNat_le] using upper
  have shift : ('a'.val - 'A'.val).toNat = 32 := by decide
  have lowered : c.toLower.val = c.val + ('a'.val - 'A'.val) := congrArg Char.val (dif_pos on)
  rw [lowered, UInt32.toNat_add, shift]
  omega

theorem toLower_toLower (c : Char) : c.toLower.toLower = c.toLower := by
  by_cases upper : 65 ≤ c.val.toNat ∧ c.val.toNat ≤ 90
  · have shifted := toNat_toLower upper
    exact toLower_of_not_upper (by omega)
  · rw [toLower_of_not_upper upper, toLower_of_not_upper upper]

/-- Lower-casing twice is lower-casing once. -/
@[simp] theorem lower_lower (text : String) : lower (lower text) = lower text := by
  have once : Char.toLower ∘ Char.toLower = Char.toLower := funext toLower_toLower
  rw [lower, toList_lower, List.map_map, once, lower]

/-- The characters `str.split()` and `str.strip()` treat as whitespace. -/
def isSpace (c : Char) : Bool :=
  let n := c.toNat
  (9 ≤ n && n ≤ 13) || (28 ≤ n && n ≤ 32) || n == 0x85 || n == 0xa0 || n == 0x1680 ||
    (0x2000 ≤ n && n ≤ 0x200a) || n == 0x2028 || n == 0x2029 || n == 0x202f || n == 0x205f ||
    n == 0x3000

/-- Drop the characters satisfying `drops` at both ends. -/
def stripBy (drops : Char → Bool) (chars : List Char) : List Char :=
  ((chars.dropWhile drops).reverse.dropWhile drops).reverse

/-- `str.strip()`. -/
def strip (chars : List Char) : List Char := stripBy isSpace chars

/-- A text with a NUL, which PostgreSQL takes for no parameter. -/
def hasNul (text : List Char) : Bool := text.any fun c => c.toNat = 0

/-- `str.split()`: the maximal runs of non-whitespace characters.  `word` is
the run being collected, reversed. -/
def splitFrom (word : List Char) : List Char → List (List Char)
  | [] => if word.isEmpty then [] else [word.reverse]
  | c :: rest =>
      if isSpace c then
        if word.isEmpty then splitFrom [] rest else word.reverse :: splitFrom [] rest
      else splitFrom (c :: word) rest

/-- `str.split()`. -/
def split (text : String) : List String := (splitFrom [] text.toList).map String.ofList

/-- `text.replace(c, by)` for a single character `c`. -/
def replaceChar (c : Char) (replacement chars : List Char) : List Char :=
  chars.flatMap fun d => if d = c then replacement else [d]

@[simp] theorem replaceChar_append (c : Char) (replacement xs ys : List Char) :
    replaceChar c replacement (xs ++ ys) =
      replaceChar c replacement xs ++ replaceChar c replacement ys :=
  List.flatMap_append

@[simp] theorem replaceChar_cons_self (c : Char) (replacement xs : List Char) :
    replaceChar c replacement (c :: xs) = replacement ++ replaceChar c replacement xs := by
  simp [replaceChar]

theorem replaceChar_of_notMem {c : Char} {replacement chars : List Char} (absent : c ∉ chars) :
    replaceChar c replacement chars = chars := by
  induction chars with
  | nil => rfl
  | cons d rest ih =>
      rw [List.mem_cons, not_or] at absent
      have kept : replaceChar c replacement rest = rest := ih absent.2
      have different : d ≠ c := Ne.symm absent.1
      simpa [replaceChar, different] using kept

/-- `text.replace(pattern, "")` for a non-empty `pattern`: scan left to right,
dropping each occurrence.  `fuel` bounds the number of characters looked at. -/
def removeAllFrom (pattern : List Char) : ℕ → List Char → List Char
  | 0, chars => chars
  | _ + 1, [] => []
  | fuel + 1, c :: rest =>
      if pattern.isPrefixOf (c :: rest) then
        removeAllFrom pattern fuel ((c :: rest).drop pattern.length)
      else c :: removeAllFrom pattern fuel rest

/-- `text.replace(pattern, "")`. -/
def removeAll (pattern chars : List Char) : List Char :=
  removeAllFrom pattern chars.length chars

/-- Text without the pattern's first character has no occurrence to remove. -/
theorem removeAll_of_notMem {c : Char} {pattern chars : List Char} (absent : c ∉ chars) :
    removeAll (c :: pattern) chars = chars := by
  unfold removeAll
  generalize chars.length = fuel
  induction fuel generalizing chars with
  | zero => rfl
  | succ fuel ih =>
      cases chars with
      | nil => rfl
      | cons d rest =>
          rw [List.mem_cons, not_or] at absent
          have noMatch : (c :: pattern).isPrefixOf (d :: rest) = false := by
            simp [List.isPrefixOf, absent.1]
          rw [removeAllFrom, noMatch, if_neg Bool.false_ne_true, ih absent.2]

/-! ## Numbers -/

/-- The character of a digit below 36. -/
def digitChar (n : ℕ) : Char := Nat.digitChar n

/-- `str(n)` for a natural number. -/
def digits (n : ℕ) : List Char := Nat.toDigits 10 n

/-- `str(n)` for an integer. -/
def intDigits : Int → List Char
  | Int.ofNat n => digits n
  | Int.negSucc n => '-' :: digits (n + 1)

/-- The last `width` digits of `n` in base `base`, most significant first: the
zero-padded printing of an `n` that fits. -/
def padded (base : ℕ) : ℕ → ℕ → List Char
  | 0, _ => []
  | width + 1, n => padded base width (n / base) ++ [digitChar (n % base)]

@[simp] theorem length_padded (base width n : ℕ) : (padded base width n).length = width := by
  induction width generalizing n with
  | zero => rfl
  | succ width ih => simp [padded, ih]

theorem exists_digit_of_mem_padded {base width n : ℕ} {c : Char} (positive : 0 < base)
    (member : c ∈ padded base width n) : ∃ d < base, c = digitChar d := by
  induction width generalizing n with
  | zero => cases member
  | succ width ih =>
      rw [padded, List.mem_append, List.mem_singleton] at member
      rcases member with earlier | rfl
      · exact ih earlier
      · exact ⟨n % base, Nat.mod_lt n positive, rfl⟩

/-- The zeros of the decimal digit blocks of Unicode, whose ten consecutive
characters `int` accepts as digits. -/
def decimalZeros : List ℕ :=
  [0x30, 0x660, 0x6F0, 0x7C0, 0x966, 0x9E6, 0xA66, 0xAE6, 0xB66, 0xBE6, 0xC66, 0xCE6, 0xD66,
    0xDE6, 0xE50, 0xED0, 0xF20, 0x1040, 0x1090, 0x17E0, 0x1810, 0x1946, 0x19D0, 0x1A80, 0x1A90,
    0x1B50, 0x1BB0, 0x1C40, 0x1C50, 0xA620, 0xA8D0, 0xA900, 0xA9D0, 0xA9F0, 0xAA50, 0xABF0,
    0xFF10, 0x104A0, 0x10D30, 0x11066, 0x110F0, 0x11136, 0x111D0, 0x112F0, 0x11450, 0x114D0,
    0x11650, 0x116C0, 0x11730, 0x118E0, 0x11950, 0x11C50, 0x11D50, 0x11DA0, 0x16A60, 0x16AC0,
    0x16B50, 0x1D7CE, 0x1D7D8, 0x1D7E2, 0x1D7EC, 0x1D7F6, 0x1E140, 0x1E2F0, 0x1E950, 0x1FBF0]

/-- The value of a character as a digit: decimal digits of every script, and
the ASCII letters from ten upwards. -/
def digitValue (c : Char) : Option ℕ :=
  let n := c.toNat
  if 0x61 ≤ n ∧ n ≤ 0x7A then some (n - 0x61 + 10)
  else if 0x41 ≤ n ∧ n ≤ 0x5A then some (n - 0x41 + 10)
  else (decimalZeros.find? fun start => start ≤ n ∧ n < start + 10).map fun start => n - start

/-- Digits with single underscores between them, accumulated onto `acc`;
`fresh` records that the last character was not a digit. -/
def parseDigits (base : ℕ) : Bool → ℕ → List Char → Option ℕ
  | fresh, acc, [] => if fresh then none else some acc
  | fresh, acc, c :: rest =>
      if c = '_' then if fresh then none else parseDigits base true acc rest
      else
        match digitValue c with
        | some d => if d < base then parseDigits base false (acc * base + d) rest else none
        | none => none

/-- Split off one leading sign. -/
def splitSign : List Char → Bool × List Char
  | '-' :: rest => (true, rest)
  | '+' :: rest => (false, rest)
  | chars => (false, chars)

/-- Drop one underscore. -/
def dropUnderscore : List Char → List Char
  | '_' :: rest => rest
  | chars => chars

/-- Drop the prefix `int` allows in base 16, together with one underscore after it;
the zero may be one of any script. -/
def dropHexPrefix : List Char → List Char
  | zero :: x :: rest =>
      if digitValue zero = some 0 ∧ (x = 'x' ∨ x = 'X') then dropUnderscore rest
      else zero :: x :: rest
  | chars => chars

/-- The whitespace around a number: that of `str.strip`, but for the separators
from U+001C to U+001F. -/
def isIntSpace (c : Char) : Bool := isSpace c && !(28 ≤ c.toNat && c.toNat ≤ 31)

/-- `sys.int_info.default_max_str_digits`: the most digits `int` reads in base 10. -/
def maxStrDigits : ℕ := 4300

/-- The number of digits in a text. -/
def digitCount (chars : List Char) : ℕ := (chars.filter fun c => (digitValue c).isSome).length

/-- `int(text, base)` for bases 10 and 16; `none` is the `ValueError`. -/
def parseInt (base : ℕ) (chars : List Char) : Option Int :=
  let signed := splitSign (stripBy isIntSpace chars)
  let body := if base = 16 then dropHexPrefix signed.2 else signed.2
  if base = 10 ∧ maxStrDigits < digitCount body then none
  else (parseDigits base true 0 body).map fun n => if signed.1 then -(n : Int) else (n : Int)

/-- A character that is no digit in the base, no underscore, no sign and no
whitespace makes the text unparsable, wherever it stands. -/
def spoils (base : ℕ) (c : Char) : Bool :=
  !isIntSpace c && c != '_' && c != '-' && c != '+' &&
    match digitValue c with
    | some d => base ≤ d
    | none => true

theorem mem_stripBy {drops : Char → Bool} {c : Char} {chars : List Char} (member : c ∈ chars)
    (kept : drops c = false) : c ∈ stripBy drops chars := by
  have survives : ∀ {xs : List Char}, c ∈ xs → c ∈ xs.dropWhile drops := by
    intro xs
    induction xs with
    | nil => exact id
    | cons d rest ih =>
        intro here
        rw [List.dropWhile_cons]
        split
        · rename_i dropped
          rcases List.mem_cons.mp here with rfl | later
          · rw [kept] at dropped
            exact absurd dropped Bool.false_ne_true
          · exact ih later
        · exact here
  rw [stripBy, List.mem_reverse]
  exact survives (List.mem_reverse.mpr (survives member))

theorem stripBy_of_kept {drops : Char → Bool} {chars : List Char}
    (kept : ∀ c ∈ chars, drops c = false) : stripBy drops chars = chars := by
  have stays : ∀ {xs : List Char}, (∀ c ∈ xs, drops c = false) → xs.dropWhile drops = xs := by
    intro xs keeps
    cases xs with
    | nil => rfl
    | cons c rest => rw [List.dropWhile_cons, keeps c List.mem_cons_self, if_neg Bool.false_ne_true]
  rw [stripBy, stays kept, stays fun c member => kept c (List.mem_reverse.mp member),
    List.reverse_reverse]

/-- Stripping makes nothing longer. -/
theorem length_strip_le (chars : List Char) : (strip chars).length ≤ chars.length := by
  rw [strip, stripBy, List.length_reverse]
  refine le_trans (List.dropWhile_suffix _).length_le ?_
  rw [List.length_reverse]
  exact (List.dropWhile_suffix _).length_le

/-- What stripping leaves ends with a character that is no whitespace. -/
theorem exists_visible_of_strip {chars : List Char} (held : strip chars ≠ []) :
    ∃ c ∈ strip chars, isSpace c = false := by
  have inner : (chars.dropWhile isSpace).reverse.dropWhile isSpace ≠ [] := fun empty =>
    held (congrArg List.reverse empty)
  refine ⟨_, List.mem_reverse.mpr (List.head_mem inner), ?_⟩
  simpa using List.head_dropWhile_not isSpace inner

theorem mem_splitSign {c : Char} {chars : List Char} (member : c ∈ chars)
    (noMinus : c ≠ '-') (noPlus : c ≠ '+') : c ∈ (splitSign chars).2 := by
  unfold splitSign
  split
  · rcases List.mem_cons.mp member with same | later
    · exact absurd same noMinus
    · exact later
  · rcases List.mem_cons.mp member with same | later
    · exact absurd same noPlus
    · exact later
  · exact member

theorem parseDigits_eq_none {base : ℕ} {c : Char} {chars : List Char} (member : c ∈ chars)
    (noUnderscore : c ≠ '_') (noDigit : ∀ d, digitValue c = some d → base ≤ d)
    (fresh : Bool) (acc : ℕ) : parseDigits base fresh acc chars = none := by
  induction chars generalizing fresh acc with
  | nil => simp at member
  | cons head rest ih =>
      rcases List.mem_cons.mp member with rfl | later
      · rw [parseDigits, if_neg noUnderscore]
        cases value : digitValue c with
        | none => rfl
        | some d => simp [Nat.not_lt.mpr (noDigit d value)]
      · rw [parseDigits]
        split
        · split
          · rfl
          · exact ih later true acc
        · split
          · split
            · exact ih later false _
            · rfl
          · rfl

theorem parseInt_ten_eq_none {c : Char} {chars : List Char} (member : c ∈ chars)
    (bad : spoils 10 c = true) : parseInt 10 chars = none := by
  simp only [spoils, Bool.and_eq_true, Bool.not_eq_true', bne_iff_ne, ne_eq] at bad
  obtain ⟨⟨⟨⟨noSpace, noUnderscore⟩, noMinus⟩, noPlus⟩, noDigit⟩ := bad
  have stripped : c ∈ stripBy isIntSpace chars := mem_stripBy member noSpace
  have unsigned : c ∈ (splitSign (stripBy isIntSpace chars)).2 :=
    mem_splitSign stripped noMinus noPlus
  have unparsed : parseDigits 10 true 0 (splitSign (stripBy isIntSpace chars)).2 = none := by
    refine parseDigits_eq_none unsigned noUnderscore (fun d value => ?_) true 0
    simpa [value] using noDigit
  simp [parseInt, unparsed]

example : parseInt 10 " +1_0\n".toList = some 10 := by decide

example : parseInt 10 "1\x1c".toList = none := by decide

end PersonTracking.Python
