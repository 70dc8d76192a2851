import PersonTracking.Python.Base64
import PersonTracking.Web.AuthStore

/-!
# Reading the payload of a token

`decodeJwt` takes the middle part of a token from base64url to base64, through
`window.atob` to a string of bytes, through percent escapes and `decodeURIComponent` to
text, and through `JSON.parse` to a value.  The two functions of the browser are defined
here as their standards do.

`decodeJwt_encoded` says that this undoes the encoding of a payload.
-/

namespace PersonTracking.Web

open Python

/-! ## `window.atob` -/

/-- The 64 letters of base64. -/
def base64Letters : List Char :=
  "ABCDEFGHIJKLMNOPQRSTUVWXYZabcdefghijklmnopqrstuvwxyz0123456789+/".toList

/-- The six bits of a letter. -/
def base64Value (c : Char) : Option ℕ := base64Letters.idxOf? c

/-- Tab, line feed, form feed, carriage return and space. -/
def isAsciiWhitespace (c : Char) : Bool := ['\t', '\n', '\x0c', '\r', ' '].contains c

/-- One or two `=` at the end are dropped. -/
def dropPadding (data : List Char) : List Char :=
  match data.reverse with
  | '=' :: '=' :: rest => rest.reverse
  | '=' :: rest => rest.reverse
  | _ => data

/-- The bytes of a sequence of six bits each; bits that are left over are dropped. -/
def bytesOfSextets : List ℕ → List ℕ
  | a :: b :: c :: d :: rest =>
      (a * 4 + b / 16) :: (b % 16 * 16 + c / 4) :: (c % 4 * 64 + d) :: bytesOfSextets rest
  | [a, b, c] => [a * 4 + b / 16, b % 16 * 16 + c / 4]
  | [a, b] => [a * 4 + b / 16]
  | _ => []

/-- `window.atob`, the forgiving decoding of base64, or nothing where it throws.  Every
character of its result is a byte. -/
def atob (text : List Char) : Option (List Char) :=
  let data := text.filter fun c => !isAsciiWhitespace c
  let data := if data.length % 4 = 0 then dropPadding data else data
  if data.length % 4 = 1 then none
  else (data.mapM base64Value).map fun sextets => (bytesOfSextets sextets).map Char.ofNat

/-! ## `decodeURIComponent` -/

/-- The value of a hexadecimal digit. -/
def hexValue (c : Char) : Option ℕ :=
  if '0' ≤ c ∧ c ≤ '9' then some (c.toNat - 48)
  else if 'a' ≤ c ∧ c ≤ 'f' then some (c.toNat - 87)
  else if 'A' ≤ c ∧ c ≤ 'F' then some (c.toNat - 55)
  else none

/-- Read one escape. -/
def takeOctet : List Char → Option (UInt8 × List Char)
  | '%' :: first :: second :: rest => do
      let high ← hexValue first
      let low ← hexValue second
      some (UInt8.ofNat (high * 16 + low), rest)
  | _ => none

/-- Read so many escapes. -/
def takeOctets : ℕ → List Char → Option (List UInt8 × List Char)
  | 0, chars => some ([], chars)
  | n + 1, chars => do
      let (octet, chars) ← takeOctet chars
      let (octets, chars) ← takeOctets n chars
      some (octet :: octets, chars)

/-- How many octets must follow this one, by its leading one bits. -/
def following (octet : UInt8) : Option ℕ :=
  if octet < 0x80 then some 0
  else if octet < 0xC0 then none
  else if octet < 0xE0 then some 1
  else if octet < 0xF0 then some 2
  else if octet < 0xF8 then some 3
  else none

/-- `decodeURIComponent`; `fuel` bounds the characters looked at. -/
def decodeFrom : ℕ → List Char → Option (List Char)
  | _, [] => some []
  | 0, _ :: _ => none
  | fuel + 1, c :: rest =>
      if c = '%' then do
        let (octet, rest) ← takeOctet (c :: rest)
        -- an ASCII octet is followed by none, and is its own character
        let more ← following octet
        let (octets, rest) ← takeOctets more rest
        let decoded ← (octet :: octets).toByteArray.utf8DecodeChar? 0
        (decodeFrom fuel rest).map fun text => decoded :: text
      else (decodeFrom fuel rest).map fun text => c :: text

/-- `decodeURIComponent`, or nothing where it throws. -/
def decodeURIComponent (text : List Char) : Option (List Char) := decodeFrom text.length text

example : decodeURIComponent "a%c3%A9%f0%9f%98%80".toList = some ['a', 'é', '😀'] := by
  decide +kernel

/-- A browser that follows the standards, with its own `JSON.parse` and arithmetic. -/
def standardBrowser (parse : List Char → Option JsValue)
    (toNumber : JsValue → Option JsNumber) : Browser where
  atob := atob
  decodeURIComponent := decodeURIComponent
  parse := parse
  toNumber := toNumber

/-! ## Base64 is undone -/

/-- The letters of base64url, as `decodeJwt` changes them. -/
def base64Text (bytes : List ℕ) : List Char := (base64url bytes).map fromBase64Url

/-- The letters of base64, letter by letter. -/
theorem base64Letters_eq : base64Letters = base64Alphabet.map fromBase64Url := by
  rw [base64Alphabet_eq]
  exact String.toList_ofList

theorem base64Value_sextet {n : ℕ} (small : n < 64) :
    base64Value (fromBase64Url (sextet n)) = some n := by
  have read : ∀ n : Fin 64, base64Value (fromBase64Url (sextet n.val)) = some n.val := by
    simp only [base64Value, base64Letters_eq, sextet, base64Alphabet_eq]
    decide +kernel
  exact read ⟨n, small⟩

/-- None of them is a blank, a dot or an equals sign. -/
theorem plain_of_mem_base64Text {c : Char} {bytes : List ℕ} (member : c ∈ base64Text bytes) :
    isAsciiWhitespace c = false ∧ c ≠ '=' := by
  have plain : (base64Alphabet.all fun letter => decide
      (isAsciiWhitespace (fromBase64Url letter) = false ∧ fromBase64Url letter ≠ '=')) = true := by
    rw [base64Alphabet_eq]
    decide +kernel
  obtain ⟨letter, inText, rfl⟩ := List.mem_map.mp member
  exact of_decide_eq_true (List.all_eq_true.mp plain letter (mem_base64url inText))

theorem dropPadding_of_notMem {data : List Char} (absent : '=' ∉ data) :
    dropPadding data = data := by
  have reversed : '=' ∉ data.reverse := fun member => absent (List.mem_reverse.mp member)
  unfold dropPadding
  split
  · rename_i ends
    exact absurd (ends ▸ List.mem_cons_self) reversed
  · rename_i ends
    exact absurd (ends ▸ List.mem_cons_self) reversed
  · rfl

/-- The letters stand for six bits each, and these for the bytes. -/
theorem sextets_of_base64Text {bytes : List ℕ} (small : ∀ b ∈ bytes, b < 256) :
    ∃ sextets, (base64Text bytes).mapM base64Value = some sextets ∧
      bytesOfSextets sextets = bytes := by
  unfold base64Text
  fun_induction base64url bytes with
  | case1 a b c rest ih =>
      simp only [List.mem_cons, forall_eq_or_imp] at small
      obtain ⟨smallA, smallB, smallC, later⟩ := small
      obtain ⟨sextets, read, back⟩ := ih later
      refine ⟨a / 4 :: (a % 4 * 16 + b / 16) :: (b % 16 * 4 + c / 64) :: c % 64 :: sextets, ?_, ?_⟩
      · have first : a / 4 < 64 := by omega
        have second : a % 4 * 16 + b / 16 < 64 := by omega
        have third : b % 16 * 4 + c / 64 < 64 := by omega
        have fourth : c % 64 < 64 := by omega
        simp [base64Value_sextet, first, second, third, fourth, read]
      · have sameA : a / 4 * 4 + (a % 4 * 16 + b / 16) / 16 = a := by omega
        have sameB : (a % 4 * 16 + b / 16) % 16 * 16 + (b % 16 * 4 + c / 64) / 4 = b := by omega
        have sameC : (b % 16 * 4 + c / 64) % 4 * 64 + c % 64 = c := by omega
        rw [bytesOfSextets, back, sameA, sameB, sameC]
  | case2 a b =>
      simp only [List.mem_cons, forall_eq_or_imp] at small
      obtain ⟨smallA, smallB, -⟩ := small
      refine ⟨[a / 4, a % 4 * 16 + b / 16, b % 16 * 4], ?_, ?_⟩
      · have first : a / 4 < 64 := by omega
        have second : a % 4 * 16 + b / 16 < 64 := by omega
        have third : b % 16 * 4 < 64 := by omega
        simp [base64Value_sextet, first, second, third]
      · have sameA : a / 4 * 4 + (a % 4 * 16 + b / 16) / 16 = a := by omega
        have sameB : (a % 4 * 16 + b / 16) % 16 * 16 + b % 16 * 4 / 4 = b := by omega
        rw [bytesOfSextets, sameA, sameB]
  | case3 a =>
      simp only [List.mem_cons, forall_eq_or_imp] at small
      refine ⟨[a / 4, a % 4 * 16], ?_, ?_⟩
      · have first : a / 4 < 64 := by omega
        have second : a % 4 * 16 < 64 := by omega
        simp [base64Value_sextet, first, second]
      · have sameA : a / 4 * 4 + a % 4 * 16 / 16 = a := by omega
        rw [bytesOfSextets, sameA]
  | case4 => exact ⟨[], rfl, rfl⟩

/-- **`atob` returns the bytes**, although the padding is missing. -/
theorem atob_base64Text {bytes : List ℕ} (small : ∀ b ∈ bytes, b < 256) :
    atob (base64Text bytes) = some (bytes.map Char.ofNat) := by
  have visible : (base64Text bytes).filter (fun c => !isAsciiWhitespace c) = base64Text bytes :=
    List.filter_eq_self.mpr fun c member => by
      rw [(plain_of_mem_base64Text member).1]
      rfl
  have unpadded : dropPadding (base64Text bytes) = base64Text bytes :=
    dropPadding_of_notMem fun member => (plain_of_mem_base64Text member).2 rfl
  have whole : (base64Text bytes).length % 4 ≠ 1 := by
    rw [base64Text, List.length_map, length_base64url]
    omega
  obtain ⟨sextets, read, back⟩ := sextets_of_base64Text small
  simp only [atob, visible, unpadded, ite_self, if_neg whole, read, Option.map_some, back]

/-! ## Percent escapes are undone -/

theorem hexValue_digitChar {d : ℕ} (small : d < 16) : hexValue (digitChar d) = some d := by
  have read : ∀ d : Fin 16, hexValue (digitChar d.val) = some d.val := by decide
  exact read ⟨d, small⟩

/-- The escape of a byte. -/
def escaped (octet : UInt8) : List Char := percentEncoded (Char.ofNat octet.toNat)

theorem takeOctet_escaped (octet : UInt8) (rest : List Char) :
    takeOctet (escaped octet ++ rest) = some (octet, rest) := by
  have small : octet.toNat < 256 := octet.toNat_lt
  have code : (Char.ofNat octet.toNat).toNat = octet.toNat := by
    have valid : octet.toNat.isValidChar := Or.inl (by omega)
    rw [Char.ofNat, dif_pos valid]
    rfl
  have high := @hexValue_digitChar (octet.toNat / 16 % 16) (by omega)
  have low := @hexValue_digitChar (octet.toNat % 16) (by omega)
  have whole : octet.toNat / 16 % 16 * 16 + octet.toNat % 16 = octet.toNat := by omega
  have text : escaped octet =
      ['%', digitChar (octet.toNat / 16 % 16), digitChar (octet.toNat % 16)] := by
    rw [escaped, percentEncoded, code]
    rfl
  rw [text]
  show (do
    let high ← hexValue (digitChar (octet.toNat / 16 % 16))
    let low ← hexValue (digitChar (octet.toNat % 16))
    some (UInt8.ofNat (high * 16 + low), rest)) = _
  rw [high, low, Option.bind_eq_bind, Option.bind_some, Option.bind_some, whole,
    UInt8.ofNat_toNat]

/-- Several escapes in a row. -/
theorem takeOctets_escaped (octets : List UInt8) (rest : List Char) :
    takeOctets octets.length (octets.flatMap escaped ++ rest) = some (octets, rest) := by
  induction octets with
  | nil => rfl
  | cons octet octets ih =>
      rw [List.length_cons, takeOctets, List.flatMap_cons, List.append_assoc, takeOctet_escaped]
      simp [ih]

/-- A statement about all bytes, byte by byte. -/
theorem forall_byte {P : UInt8 → Prop} (each : ∀ n : Fin 256, P (UInt8.ofNat n.val))
    (octet : UInt8) : P octet := by
  have here := each ⟨octet.toNat, octet.toNat_lt⟩
  rwa [UInt8.ofNat_toNat] at here

/-- The first octet of a character says how many follow. -/
theorem following_of_encoded {c : Char} {octet : UInt8} {octets : List UInt8}
    (encoded : String.utf8EncodeChar c = octet :: octets) :
    following octet = some octets.length := by
  have two : ∀ b : UInt8, following (b &&& 0x1f ||| 0xc0) = some 1 :=
    forall_byte (by decide +kernel)
  have three : ∀ b : UInt8, following (b &&& 0x0f ||| 0xe0) = some 2 :=
    forall_byte (by decide +kernel)
  have four : ∀ b : UInt8, following (b &&& 0x07 ||| 0xf0) = some 3 :=
    forall_byte (by decide +kernel)
  -- one case for each length of an encoding
  rcases c.utf8Size_eq with size | size | size | size
  · rw [String.utf8EncodeChar_eq_singleton size] at encoded
    cases encoded
    have low : c.val ≤ 127 := Char.utf8Size_eq_one_iff.mp size
    have below : c.val.toNat ≤ 127 := UInt32.le_iff_toNat_le.mp low
    refine if_pos (UInt8.lt_iff_toNat_lt.mpr ?_)
    rw [UInt32.toNat_toUInt8]
    show c.val.toNat % 2 ^ 8 < 128
    omega
  · rw [String.utf8EncodeChar_eq_cons_cons size] at encoded
    cases encoded
    exact two _
  · rw [String.utf8EncodeChar_eq_cons_cons_cons size] at encoded
    cases encoded
    exact three _
  · rw [String.utf8EncodeChar_eq_cons_cons_cons_cons size] at encoded
    cases encoded
    exact four _

/-- A character has at least one octet. -/
theorem exists_encoded (c : Char) :
    ∃ octet octets, String.utf8EncodeChar c = octet :: octets := by
  have positive : 0 < (String.utf8EncodeChar c).length := by
    rw [String.length_utf8EncodeChar]
    exact c.utf8Size_pos
  exact List.exists_cons_of_length_pos positive

/-- The escapes of a character are read as the character. -/
theorem decodeFrom_char (fuel : ℕ) (c : Char) (rest : List Char) :
    decodeFrom (fuel + 1) ((String.utf8EncodeChar c).flatMap escaped ++ rest) =
      (decodeFrom fuel rest).map fun text => c :: text := by
  obtain ⟨octet, octets, encoded⟩ := exists_encoded c
  have decoded : (octet :: octets).toByteArray.utf8DecodeChar? 0 = some c := by
    have appended := @ByteArray.utf8DecodeChar?_utf8EncodeChar_append ByteArray.empty c
    rwa [ByteArray.append_empty, encoded] at appended
  have first : takeOctet ('%' :: (padded 16 2 (Char.ofNat octet.toNat).toNat ++
      (octets.flatMap escaped ++ rest))) = some (octet, octets.flatMap escaped ++ rest) :=
    takeOctet_escaped octet _
  rw [encoded, List.flatMap_cons, List.append_assoc, escaped, percentEncoded, List.cons_append,
    decodeFrom, if_pos rfl, first]
  simp only [Option.bind_eq_bind, Option.bind_some, following_of_encoded encoded,
    takeOctets_escaped, decoded]

/-- The escapes of a text are read as the text. -/
theorem decodeFrom_text {fuel : ℕ} {text : List Char} (enough : text.length ≤ fuel) :
    decodeFrom fuel (text.flatMap fun c => (String.utf8EncodeChar c).flatMap escaped) =
      some text := by
  induction text generalizing fuel with
  | nil => cases fuel <;> rfl
  | cons c text ih =>
      obtain ⟨fuel, rfl⟩ := Nat.exists_eq_add_of_lt enough
      rw [List.flatMap_cons, decodeFrom_char, ih (by omega), Option.map_some]

/-- Escapes do not shorten a text. -/
theorem length_le_escapes (text : List Char) : text.length ≤
    (text.flatMap fun c => (String.utf8EncodeChar c).flatMap escaped).length := by
  induction text with
  | nil => exact le_rfl
  | cons c text ih =>
      obtain ⟨octet, octets, encoded⟩ := exists_encoded c
      rw [List.flatMap_cons, List.length_append, List.length_cons, encoded, List.flatMap_cons,
        List.length_append]
      have one : 1 ≤ (escaped octet).length := Nat.le_add_left 1 _
      omega

/-- The bytes of a text in UTF-8. -/
def utf8Bytes (text : List Char) : List ℕ :=
  (text.flatMap String.utf8EncodeChar).map UInt8.toNat

/-- **`decodeURIComponent` returns the text** whose bytes were escaped one by one. -/
theorem decodeURIComponent_utf8Bytes (text : List Char) :
    decodeURIComponent (((utf8Bytes text).map Char.ofNat).flatMap percentEncoded) = some text := by
  have escapes : ((utf8Bytes text).map Char.ofNat).flatMap percentEncoded =
      text.flatMap fun c => (String.utf8EncodeChar c).flatMap escaped := by
    rw [utf8Bytes, List.map_map, List.flatMap_map, List.flatMap_assoc]
    rfl
  rw [decodeURIComponent, escapes, decodeFrom_text (length_le_escapes text)]

theorem lt_of_mem_utf8Bytes {b : ℕ} {text : List Char} (member : b ∈ utf8Bytes text) :
    b < 256 := by
  obtain ⟨octet, -, rfl⟩ := List.mem_map.mp member
  exact octet.toNat_lt

theorem utf8Bytes_ne_nil {text : List Char} (nonempty : text ≠ []) : utf8Bytes text ≠ [] := by
  obtain ⟨c, text, rfl⟩ := List.exists_cons_of_ne_nil nonempty
  obtain ⟨octet, octets, encoded⟩ := exists_encoded c
  rw [utf8Bytes, List.flatMap_cons, encoded]
  exact List.cons_ne_nil _ _

/-! ## The payload of a token -/

/-- A token whose middle part is the payload in base64url. -/
def encodedToken (header payload signature : List Char) : String :=
  String.ofList (header ++ '.' :: (base64url (utf8Bytes payload) ++ '.' :: signature))

/-- The middle part is found. -/
theorem splitOn_encodedToken {header payload signature : List Char} (undotted : '.' ∉ header) :
    ((encodedToken header payload signature).toList.splitOn '.')[1]? =
      some (base64url (utf8Bytes payload)) := by
  have undottedPayload : '.' ∉ base64url (utf8Bytes payload) := by
    have noLetter : '.' ∉ base64Alphabet := by
      rw [base64Alphabet_eq]
      decide
    exact fun member => noLetter (mem_base64url member)
  rw [encodedToken, String.toList_ofList, List.splitOn_append_cons_self_of_not_mem undotted,
    List.splitOn_append_cons_self_of_not_mem undottedPayload]
  rfl

theorem base64url_utf8Bytes_ne_nil {payload : List Char} (nonempty : payload ≠ []) :
    base64url (utf8Bytes payload) ≠ [] := by
  intro empty
  have length := length_base64url (utf8Bytes payload)
  have bytes := List.length_pos_iff.mpr (utf8Bytes_ne_nil nonempty)
  rw [empty, List.length_nil] at length
  omega

/-- The middle part is read as the text of the payload. -/
theorem text_of_base64url (payload : List Char) :
    ((atob ((base64url (utf8Bytes payload)).map fromBase64Url)).bind fun binary =>
      decodeURIComponent (binary.flatMap percentEncoded)) = some payload := by
  have binary : atob ((base64url (utf8Bytes payload)).map fromBase64Url) =
      some ((utf8Bytes payload).map Char.ofNat) :=
    atob_base64Text fun b member => lt_of_mem_utf8Bytes member
  rw [binary, Option.bind_some, decodeURIComponent_utf8Bytes]

/-- Only the second part of a token counts. -/
theorem decodeJwt_of_splitOn {parse : List Char → Option JsValue}
    {toNumber : JsValue → Option JsNumber} {token : String} {payload : List Char}
    (nonempty : payload ≠ [])
    (second : (token.toList.splitOn '.')[1]? = some (base64url (utf8Bytes payload))) :
    (standardBrowser parse toNumber).decodeJwt (some token) = parse payload := by
  have letters := base64url_utf8Bytes_ne_nil nonempty
  simp only [Browser.decodeJwt, Option.bind_eq_bind, Option.bind_some, second, if_neg letters,
    standardBrowser]
  rw [← Option.bind_assoc, text_of_base64url, Option.bind_some]

/-- **Reading undoes writing.**  Whatever the payload is and however long, `decodeJwt`
returns what `JSON.parse` makes of it. -/
theorem decodeJwt_encoded (parse : List Char → Option JsValue)
    (toNumber : JsValue → Option JsNumber) (header payload signature : List Char)
    (nonempty : payload ≠ []) (undotted : '.' ∉ header) :
    (standardBrowser parse toNumber).decodeJwt (some (encodedToken header payload signature)) =
      parse payload :=
  decodeJwt_of_splitOn nonempty (splitOn_encodedToken undotted)

/-- `JSON.parse` of a string without escapes. -/
def parseString : List Char → Option JsValue
  | '"' :: rest =>
      if rest.getLast? = some '"' ∧
          rest.dropLast.all (fun c => c != '"' && c != '\\' && 32 ≤ c.toNat)
      then some (.string (String.ofList rest.dropLast))
      else none
  | _ => none

/-- A payload with a character of four bytes, and without its padding. -/
theorem decodeJwt_encoded_emoji :
    (standardBrowser parseString (fun _ => some .nan)).decodeJwt
        (some (encodedToken ['h'] ['"', '😀', '"'] ['s'])) = some (.string "😀") := by
  rw [decodeJwt_encoded _ _ ['h'] ['"', '😀', '"'] ['s'] (List.cons_ne_nil _ _) (by decide)]
  rfl

end PersonTracking.Web
