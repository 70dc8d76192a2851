import PersonTracking.Library.PrefixCode
import PersonTracking.Python.Json
import PersonTracking.Python.Uuid

/-!
# The text `json.dumps` writes

`Json.dumps` is `json.dumps(value, separators=(",", ":"))`: ASCII only, every
other character as `\\uXXXX`, one beyond the basic plane as a surrogate pair.

`readable_escapeChar` and its consequences say that strings and numbers can be
read back from the front of a text.
-/

namespace PersonTracking.Python

open Library

/-- The escapes of one letter. -/
def shortEscapes : List (Char × Char) :=
  [('"', '"'), ('\\', '\\'), ('\n', 'n'), ('\r', 'r'), ('\t', 't'), ('\x0c', 'f'), ('\x08', 'b')]

/-- `\\uXXXX`. -/
def unicodeEscape (n : ℕ) : List Char := '\\' :: 'u' :: padded 16 4 n

/-- A character inside a JSON string. -/
def escapeChar (c : Char) : List Char :=
  match shortEscapes.lookup c with
  | some letter => ['\\', letter]
  | none =>
      if 32 ≤ c.toNat ∧ c.toNat ≤ 126 then [c]
      else if c.toNat < 0x10000 then unicodeEscape c.toNat
      else
        unicodeEscape (0xD800 + (c.toNat - 0x10000) / 0x400) ++
          unicodeEscape (0xDC00 + (c.toNat - 0x10000) % 0x400)

/-- The characters of a JSON string. -/
def escaped (text : String) : List Char := text.toList.flatMap escapeChar

/-- A JSON string. -/
def quoted (text : String) : List Char := '"' :: (escaped text ++ ['"'])

mutual

/-- `json.dumps(value, separators=(",", ":"))`. -/
def Json.dumps : Json → List Char
  | .null => "null".toList
  | .bool value => if value then "true".toList else "false".toList
  | .int value => intDigits value
  | .float value =>
      match value with
      | .finite _ _ _ => value.repr
      | .inf negative => if negative then "-Infinity".toList else "Infinity".toList
      | .nan => "NaN".toList
  | .str text => quoted text
  | .arr items => '[' :: (dumpsItems items ++ [']'])
  | .obj fields => '\x7b' :: (dumpsFields fields ++ ['\x7d'])

/-- The items of a list, with commas between them. -/
def dumpsItems : List Json → List Char
  | [] => []
  | [item] => item.dumps
  | item :: next :: rest => item.dumps ++ ',' :: dumpsItems (next :: rest)

/-- The fields of a dict, with commas between them. -/
def dumpsFields : List (String × Json) → List Char
  | [] => []
  | [(name, value)] => quoted name ++ ':' :: value.dumps
  | (name, value) :: next :: rest =>
      quoted name ++ ':' :: (value.dumps ++ ',' :: dumpsFields (next :: rest))

end

/-! ## Reading a string -/

/-- The number of a `\\uXXXX`. -/
def readUnicode : List Char → Option (ℕ × List Char)
  | '\\' :: 'u' :: a :: b :: c :: d :: rest =>
      (parseDigits 16 true 0 [a, b, c, d]).map fun n => (n, rest)
  | _ => none

/-- The first character of the inside of a JSON string. -/
def readChar (chars : List Char) : Option (Char × List Char) :=
  match readUnicode chars with
  | some (n, rest) =>
      if n < 0xD800 ∨ 0xE000 ≤ n then some (Char.ofNat n, rest)
      else
        (readUnicode rest).map fun low =>
          (Char.ofNat (0x10000 + (n - 0xD800) * 0x400 + (low.1 - 0xDC00)), low.2)
  | none =>
      match chars with
      | '\\' :: letter :: rest =>
          (shortEscapes.find? fun short => short.2 = letter).map fun short => (short.1, rest)
      | c :: rest => some (c, rest)
      | [] => none

theorem readUnicode_unicodeEscape {n : ℕ} (small : n < 0x10000) (rest : List Char) :
    readUnicode (unicodeEscape n ++ rest) = some (n, rest) := by
  have digits := parseDigits_padded 3 n
  have fits : n % 16 ^ (3 + 1) = n := Nat.mod_eq_of_lt (by omega)
  rw [fits] at digits
  show (parseDigits 16 true 0 (padded 16 4 n)).map (fun n => (n, rest)) = _
  rw [digits, Option.map_some]

theorem readUnicode_of_plain {c : Char} (plain : c ≠ '\\') (rest : List Char) :
    readUnicode (c :: rest) = none := by
  unfold readUnicode
  split
  · rename_i same
    exact absurd (List.cons.inj same).1 plain
  · rfl

theorem readChar_short {short : Char × Char} (known : short ∈ shortEscapes) (rest : List Char) :
    readChar ('\\' :: short.2 :: rest) = some (short.1, rest) := by
  simp only [shortEscapes, List.mem_cons, List.not_mem_nil, or_false] at known
  rcases known with rfl | rfl | rfl | rfl | rfl | rfl | rfl
  all_goals rfl

theorem readChar_plain {c : Char} (plain : c ≠ '\\') (rest : List Char) :
    readChar (c :: rest) = some (c, rest) := by
  rw [readChar, readUnicode_of_plain plain]
  exact fun letter after same _ => plain same

/-- An escape that is no surrogate is a character. -/
theorem readChar_scalar {n : ℕ} (basic : n < 0x10000) (scalar : n < 0xD800 ∨ 0xE000 ≤ n)
    (rest : List Char) : readChar (unicodeEscape n ++ rest) = some (Char.ofNat n, rest) := by
  unfold readChar
  rw [readUnicode_unicodeEscape basic]
  exact if_pos scalar

/-- Two surrogates are one character. -/
theorem readChar_pair {high low : ℕ} (basic : high < 0x10000) (basic' : low < 0x10000)
    (surrogate : ¬ (high < 0xD800 ∨ 0xE000 ≤ high)) (rest : List Char) :
    readChar (unicodeEscape high ++ (unicodeEscape low ++ rest)) =
      some (Char.ofNat (0x10000 + (high - 0xD800) * 0x400 + (low - 0xDC00)), rest) := by
  unfold readChar
  rw [readUnicode_unicodeEscape basic]
  refine (if_neg surrogate).trans ?_
  rw [readUnicode_unicodeEscape basic', Option.map_some]

/-- **A character is read back.** -/
theorem readChar_escapeChar (c : Char) (rest : List Char) :
    readChar (escapeChar c ++ rest) = some (c, rest) := by
  unfold escapeChar
  split
  · rename_i letter found
    obtain ⟨before, after, listed, -⟩ := List.lookup_eq_some_iff.mp found
    exact @readChar_short (c, letter) (by rw [listed]; simp) rest
  · rename_i notShort
    split
    · have plain : c ≠ '\\' := by
        rintro rfl
        cases notShort
      exact readChar_plain plain rest
    · split
      · rename_i basic
        have scalar : c.toNat < 0xD800 ∨ 0xE000 ≤ c.toNat := c.valid.imp_right And.left
        rw [readChar_scalar basic scalar, Char.ofNat_toNat]
      · rename_i notBasic
        have bound : c.toNat < 0x110000 := by
          rcases c.valid with low | high
          · exact lt_trans low (by norm_num)
          · exact high.2
        have joined : 0x10000 + (0xD800 + (c.toNat - 0x10000) / 0x400 - 0xD800) * 0x400 +
            (0xDC00 + (c.toNat - 0x10000) % 0x400 - 0xDC00) = c.toNat := by omega
        rw [List.append_assoc, readChar_pair (by omega) (by omega) (by omega), joined,
          Char.ofNat_toNat]

/-- The characters of a JSON string are readable. -/
theorem readable_escapeChar : Readable escapeChar :=
  readable_of_reader readChar readChar_escapeChar

/-- No character is written with a quotation mark in front. -/
theorem escapeChar_begins (c : Char) :
    ∃ first word, escapeChar c = first :: word ∧ first ≠ '"' := by
  unfold escapeChar
  split
  · exact ⟨_, _, rfl, by decide⟩
  · rename_i notShort
    split
    · refine ⟨c, [], rfl, ?_⟩
      rintro rfl
      cases notShort
    · split
      · exact ⟨_, _, rfl, by decide⟩
      · exact ⟨_, _, rfl, by decide⟩

/-- **Strings are readable.** -/
theorem readable_quoted : Readable quoted := by
  have characters := (Readable.flatMap_stop readable_escapeChar escapeChar_begins).between ['"'] []
  have texts := characters.comp (f := String.toList) fun a b => String.toList_injective
  intro a b x y same
  refine texts a b x y ?_
  simpa [quoted, escaped] using same

/-! ## Reading a number -/

theorem digits_injective : Function.Injective digits := by
  intro m n same
  have read := congrArg (fun ds => Nat.ofDigitChars 10 ds 0) same
  simpa only [digits, Nat.ofDigitChars_ten_toDigits] using read

theorem isDigit_of_mem_digits {n : ℕ} {c : Char} (member : c ∈ digits n) : c.isDigit = true :=
  Nat.isDigit_of_mem_toDigits (by decide) (le_refl _) member

theorem of_mem_intDigits {n : Int} {c : Char} (member : c ∈ intDigits n) :
    c = '-' ∨ c.isDigit = true := by
  cases n with
  | ofNat n => exact Or.inr (isDigit_of_mem_digits member)
  | negSucc n => exact (List.mem_cons.mp member).imp_right isDigit_of_mem_digits

theorem intDigits_injective : Function.Injective intDigits := by
  have unsigned : ∀ m n : ℕ, intDigits (Int.ofNat m) ≠ intDigits (Int.negSucc n) := by
    intro m n same
    have minus : '-' ∈ digits m := by
      rw [show digits m = '-' :: digits (n + 1) from same]
      exact List.mem_cons_self
    exact absurd (isDigit_of_mem_digits minus) (by decide)
  intro m n same
  cases m with
  | ofNat m =>
      cases n with
      | ofNat n => rw [digits_injective same]
      | negSucc n => exact absurd same (unsigned m n)
  | negSucc m =>
      cases n with
      | ofNat n => exact absurd same.symm (unsigned n m)
      | negSucc n =>
          have magnitudes := digits_injective (List.cons.inj same).2
          rw [Nat.succ.inj magnitudes]

/-- **Numbers are readable** before a comma or a brace. -/
theorem readableBefore_intDigits : ReadableBefore (fun c => c = ',' ∨ c = '\x7d') intDigits := by
  refine readableBefore_of_unmarked intDigits_injective ?_
  rintro n c member (rfl | rfl)
  · exact absurd (of_mem_intDigits member) (by decide)
  · exact absurd (of_mem_intDigits member) (by decide)

/-! ## ASCII -/

/-- Only ASCII characters. -/
def Ascii (chars : List Char) : Prop := ∀ c ∈ chars, c.toNat < 128

theorem Ascii.append {first second : List Char} (left : Ascii first) (right : Ascii second) :
    Ascii (first ++ second) :=
  fun c member => (List.mem_append.mp member).elim (left c) (right c)

theorem Ascii.cons {c : Char} {chars : List Char} (here : c.toNat < 128) (rest : Ascii chars) :
    Ascii (c :: chars) :=
  fun d member => (List.mem_cons.mp member).elim (fun same => same ▸ here) (rest d)

instance (chars : List Char) : Decidable (Ascii chars) :=
  List.decidableBAll (fun c : Char => c.toNat < 128) chars

theorem ascii_unicodeEscape (n : ℕ) : Ascii (unicodeEscape n) := by
  refine Ascii.cons (by decide) (Ascii.cons (by decide) fun c member => ?_)
  obtain ⟨d, small, rfl⟩ := exists_digit_of_mem_padded (by decide) member
  have digits : ∀ d : Fin 16, (digitChar d).toNat < 128 := by decide
  exact digits ⟨d, small⟩

theorem ascii_escapeChar (c : Char) : Ascii (escapeChar c) := by
  unfold escapeChar
  split
  · rename_i letter found
    obtain ⟨before, after, listed, -⟩ := List.lookup_eq_some_iff.mp found
    have shorts : Ascii (shortEscapes.map Prod.snd) := by decide
    refine Ascii.cons (by decide) fun d member => ?_
    rw [List.mem_singleton.mp member]
    exact shorts letter (List.mem_map.mpr ⟨(c, letter), by rw [listed]; simp, rfl⟩)
  · split
    · rename_i printable
      intro d member
      rw [List.mem_singleton.mp member]
      omega
    · split
      · exact ascii_unicodeEscape _
      · exact (ascii_unicodeEscape _).append (ascii_unicodeEscape _)

theorem ascii_quoted (text : String) : Ascii (quoted text) := by
  refine Ascii.cons (by decide) (Ascii.append (fun c member => ?_) (by decide))
  obtain ⟨d, -, inside⟩ := List.mem_flatMap.mp member
  exact ascii_escapeChar d c inside

theorem ascii_intDigits (n : Int) : Ascii (intDigits n) := by
  intro c member
  rcases of_mem_intDigits member with rfl | digit
  · decide
  · exact lt_of_le_of_lt (Char.isDigit_iff_toNat.mp digit).2 (by decide)

end PersonTracking.Python
