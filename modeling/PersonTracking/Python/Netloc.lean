import PersonTracking.Python.Text
import PersonTracking.Python.Url

/-!
# Network locations

`urllib.parse.urlsplit`, and the `hostname` and the `port` of what it returns.
`urlparse` differs from it in the path alone.

* `UrlLib` — what is left open: `str.lower` on all of Unicode, and the checks of
  non-ASCII and of bracketed network locations.
* `urlsplit` — the parts of a URL; `none` is the `ValueError`.
* `hostinfo`, `hostname`, `port` — user information ends at the last `@`, a host in
  brackets ends at the bracket, and an empty port is none.
-/

namespace PersonTracking.Python

/-! ## Partitions -/

/-- `text.partition(c)[0]`. -/
def partitionHead (c : Char) (chars : List Char) : List Char := chars.takeWhile fun d => d ≠ c

/-- `text.partition(c)[2]`. -/
def partitionTail (c : Char) (chars : List Char) : List Char :=
  (chars.dropWhile fun d => d ≠ c).tail

/-- `text.rpartition(c)[2]`. -/
def rpartitionTail (c : Char) (chars : List Char) : List Char :=
  (partitionHead c chars.reverse).reverse

section Partitions

variable {c : Char} {chars front back : List Char}

/-- A text without the character has nothing behind it. -/
theorem partition_of_notMem (absent : c ∉ chars) :
    partitionHead c chars = chars ∧ partitionTail c chars = [] := by
  have kept : ∀ d ∈ chars, decide (d ≠ c) = true := fun d member =>
    decide_eq_true fun same => absent (same ▸ member)
  constructor
  · exact List.takeWhile_eq_self_iff.mpr kept
  · rw [partitionTail, List.dropWhile_eq_nil_iff.mpr kept, List.tail_nil]

/-- A text is cut at the first occurrence. -/
theorem partition_of_split (absent : c ∉ front) :
    partitionHead c (front ++ c :: back) = front ∧ partitionTail c (front ++ c :: back) = back := by
  have kept : ∀ d ∈ front, decide (d ≠ c) = true := fun d member =>
    decide_eq_true fun same => absent (same ▸ member)
  constructor
  · rw [partitionHead, List.takeWhile_append_of_pos kept]
    simp
  · rw [partitionTail, List.dropWhile_append_of_pos kept]
    simp

/-- Where the character occurs, there is a first occurrence. -/
theorem exists_split_of_mem (member : c ∈ chars) :
    c ∉ partitionHead c chars ∧ chars = partitionHead c chars ++ c :: partitionTail c chars := by
  induction chars with
  | nil => cases member
  | cons d rest ih =>
      by_cases same : d = c
      · subst same
        simp [partitionHead, partitionTail]
      · have inRest : c ∈ rest := (List.mem_cons.mp member).resolve_left (Ne.symm same)
        obtain ⟨absent, split⟩ := ih inRest
        have head : partitionHead c (d :: rest) = d :: partitionHead c rest := by
          simp [partitionHead, same]
        have tail : partitionTail c (d :: rest) = partitionTail c rest := by
          simp [partitionTail, same]
        rw [head, tail, List.cons_append, ← split]
        exact ⟨fun wrong => (List.mem_cons.mp wrong).elim (fun here => same here.symm) absent, rfl⟩

/-- A text without the character is what comes behind its last occurrence. -/
theorem rpartitionTail_of_notMem (absent : c ∉ chars) : rpartitionTail c chars = chars := by
  rw [rpartitionTail, (partition_of_notMem (by simpa using absent)).1, List.reverse_reverse]

/-- A text is cut at the last occurrence. -/
theorem rpartitionTail_of_split (absent : c ∉ back) :
    rpartitionTail c (front ++ c :: back) = back := by
  have mirrored : (front ++ c :: back).reverse = back.reverse ++ c :: front.reverse := by simp
  rw [rpartitionTail, mirrored, (partition_of_split (by simpa using absent)).1,
    List.reverse_reverse]

/-- `text.split(c)` begins with what comes before the first `c`. -/
theorem splitOn_of_mem (member : c ∈ chars) :
    chars.splitOn c = partitionHead c chars :: (partitionTail c chars).splitOn c := by
  obtain ⟨absent, split⟩ := exists_split_of_mem member
  conv_lhs => rw [split]
  exact List.splitOn_append_cons_self_of_not_mem absent _

/-- The first piece of `text.split(c)`. -/
theorem head?_splitOn (c : Char) (chars : List Char) :
    (chars.splitOn c).head? = some (partitionHead c chars) := by
  by_cases member : c ∈ chars
  · rw [splitOn_of_mem member, List.head?_cons]
  · rw [List.splitOn_eq_singleton member, (partition_of_notMem member).1, List.head?_cons]

end Partitions

/-! ## Splitting a URL -/

/-- What is left open of the standard library: `str.lower` and the checks that raise a
`ValueError` for a network location.  Lower case is reached in one step, is not affected
by what is beyond a `%`, and leaves brackets alone. -/
structure UrlLib where
  lower : List Char → List Char
  checkNetloc : List Char → Bool
  lower_lower : ∀ chars, lower (lower chars) = lower chars
  lower_percent : ∀ front back, lower (front ++ '%' :: back) = lower front ++ '%' :: lower back
  lower_eq_nil : ∀ chars, lower chars = [] ↔ chars = []
  count_bracket : ∀ chars, (lower chars).count '[' = chars.count '['

/-- `SplitResult`. -/
structure SplitResult where
  scheme : List Char
  netloc : List Char
  path : List Char
  query : List Char
  fragment : List Char

/-- The control characters and the space that `urlsplit` drops in front. -/
def isC0OrSpace (c : Char) : Bool := c.toNat ≤ 32

/-- `scheme_chars`. -/
def isSchemeChar (c : Char) : Bool := c.isAlphanum || c = '+' || c = '-' || c = '.'

/-- The scheme of a URL and what comes behind it. -/
def splitScheme (url : List Char) : List Char × List Char :=
  if ':' ∈ url ∧ (url.head?.any Char.isAlpha) ∧ (partitionHead ':' url).all isSchemeChar then
    ((partitionHead ':' url).map Char.toLower, partitionTail ':' url)
  else ([], url)

/-- The characters that end a network location. -/
def endsNetloc (c : Char) : Bool := c = '/' || c = '?' || c = '#'

/-- `_splitnetloc`, where the URL has a network location. -/
def splitNetloc : List Char → List Char × List Char
  | '/' :: '/' :: rest =>
      (rest.takeWhile fun c => !endsNetloc c, rest.dropWhile fun c => !endsNetloc c)
  | url => ([], url)

/-- What `urlsplit` reads of a URL. -/
def cleanUrl (url : List Char) : List Char :=
  (url.dropWhile isC0OrSpace).filter fun c => !isStripped c

/-- `urlsplit`. -/
def urlsplit (lib : UrlLib) (url : List Char) : Option SplitResult :=
  let (scheme, rest) := splitScheme (cleanUrl url)
  let (netloc, rest) := splitNetloc rest
  if ('[' ∈ netloc ∧ ']' ∉ netloc) ∨ (']' ∈ netloc ∧ '[' ∉ netloc) then none
  else if netloc = [] ∨ lib.checkNetloc netloc then
    some
      { scheme := scheme
        netloc := netloc
        path := partitionHead '?' (partitionHead '#' rest)
        query := partitionTail '?' (partitionHead '#' rest)
        fragment := partitionTail '#' rest }
  else none

/-- A scheme that is found is what the URL begins with. -/
theorem split_of_splitScheme {url : List Char} (found : (splitScheme url).1 ≠ []) :
    ∃ head, head.map Char.toLower = (splitScheme url).1 ∧
      url = head ++ ':' :: (splitScheme url).2 := by
  unfold splitScheme at found ⊢
  split
  · rename_i formed
    exact ⟨_, rfl, (exists_split_of_mem formed.1).2⟩
  · rename_i unformed
    rw [if_neg unformed] at found
    exact absurd rfl found

/-- A network location that is found stands behind two slashes. -/
theorem split_of_splitNetloc {url : List Char} (found : (splitNetloc url).1 ≠ []) :
    ∃ rest, rest ≠ [] ∧ url = '/' :: '/' :: rest := by
  unfold splitNetloc at found
  split at found
  · rename_i rest
    exact ⟨rest, fun empty => found (by rw [empty]; rfl), rfl⟩
  · exact absurd rfl found

/-- The scheme and the network location of a URL. -/
theorem parts_of_urlsplit {lib : UrlLib} {url : List Char} {parsed : SplitResult}
    (split : urlsplit lib url = some parsed) :
    parsed.scheme = (splitScheme (cleanUrl url)).1 ∧
      parsed.netloc = (splitNetloc (splitScheme (cleanUrl url)).2).1 := by
  simp only [urlsplit] at split
  split at split
  · cases split
  · split at split
    · cases split
      exact ⟨rfl, rfl⟩
    · cases split

theorem httpText : "http://".toList = ['h', 't', 't', 'p', ':', '/', '/'] := by decide +kernel

/-- The scheme of a URL behind `http://`. -/
theorem splitScheme_http (text : List Char) : splitScheme (cleanUrl ("http://".toList ++ text)) =
    (['h', 't', 't', 'p'], '/' :: '/' :: text.filter fun c => !isStripped c) := by
  have clean : cleanUrl ("http://".toList ++ text) =
      'h' :: 't' :: 't' :: 'p' :: ':' :: '/' :: '/' :: text.filter fun c => !isStripped c := by
    rw [httpText]
    rfl
  rw [clean]
  unfold splitScheme
  rw [if_pos ⟨by simp, rfl, rfl⟩]
  rfl

/-- A URL behind `http://`: the network location ends where the path begins. -/
theorem path_of_urlsplit_http {lib : UrlLib} {text : List Char} {parsed : SplitResult}
    (split : urlsplit lib ("http://".toList ++ text) = some parsed) :
    parsed.path = urlPath ((text.filter fun c => !isStripped c).dropWhile fun c =>
      !endsNetloc c) := by
  have kept : ∀ c ∈ (text.filter fun c => !isStripped c).dropWhile fun c => !endsNetloc c,
      (!isStripped c) = true := fun c member =>
    (List.mem_filter.mp ((List.dropWhile_suffix _).subset member)).2
  rw [urlPath, List.filter_eq_self.mpr kept]
  simp only [urlsplit, splitScheme_http, splitNetloc] at split
  split at split
  · cases split
  · split at split
    · cases split
      rfl
    · cases split

/-- The characters that a network location can hold without a meaning for `urlsplit`. -/
def isPlainHost (c : Char) : Bool := !(endsNetloc c || isStripped c || c = '[' || c = ']')

/-- A URL of a plain host and a plain path. -/
theorem urlsplit_http {lib : UrlLib} {netloc path : List Char}
    (plainHost : netloc.all isPlainHost = true) (accepted : lib.checkNetloc netloc = true)
    (absolute : path.head? = some '/') (plain : path.all (fun c => !delimits c) = true) :
    urlsplit lib ("http://".toList ++ (netloc ++ path)) =
      some ⟨['h', 't', 't', 'p'], netloc, path, [], []⟩ := by
  obtain ⟨rest, rfl⟩ := List.head?_eq_some_iff.mp absolute
  have host : ∀ c ∈ netloc,
      endsNetloc c = false ∧ isStripped c = false ∧ c ≠ '[' ∧ c ≠ ']' := fun c member => by
    simpa [isPlainHost, and_assoc] using List.all_eq_true.mp plainHost c member
  have path : ∀ c ∈ '/' :: rest, isStripped c = false ∧ c ≠ '#' ∧ c ≠ '?' := fun c member => by
    simpa [delimits, and_assoc] using List.all_eq_true.mp plain c member
  have kept : ((netloc ++ '/' :: rest).filter fun c => !isStripped c) = netloc ++ '/' :: rest :=
    List.filter_eq_self.mpr fun c member => by
      rcases List.mem_append.mp member with front | back
      · rw [(host c front).2.1]
        rfl
      · rw [(path c back).1]
        rfl
  have inHost : ∀ c ∈ netloc, (!endsNetloc c) = true := fun c member => by
    rw [(host c member).1]
    rfl
  have split : splitNetloc ('/' :: '/' :: (netloc ++ '/' :: rest)) = (netloc, '/' :: rest) := by
    rw [splitNetloc, List.takeWhile_append_of_pos inHost, List.dropWhile_append_of_pos inHost,
      List.takeWhile_cons_of_neg (by decide), List.dropWhile_cons_of_neg (by decide),
      List.append_nil]
  have opened : '[' ∉ netloc := fun member => (host _ member).2.2.1 rfl
  have closed : ']' ∉ netloc := fun member => (host _ member).2.2.2 rfl
  have noHash := partition_of_notMem fun member => (path '#' member).2.1 rfl
  have noQuery := partition_of_notMem fun member => (path '?' member).2.2 rfl
  simp only [urlsplit, splitScheme_http, kept, split, noHash, noQuery]
  rw [if_neg (by simp [opened, closed]), if_pos (Or.inr accepted)]

/-- Without whitespace in it, a URL loses at most control characters in front. -/
theorem cleanUrl_of_unspaced {url : List Char} (unspaced : url.any isSpace = false) :
    cleanUrl url = url.dropWhile isC0OrSpace := by
  refine List.filter_eq_self.mpr fun c member => ?_
  have visible : isSpace c = false :=
    Bool.eq_false_iff.mpr
      (List.any_eq_false.mp unspaced c ((List.dropWhile_suffix _).subset member))
  simp only [isStripped, Bool.not_eq_true', Bool.or_eq_false_iff, decide_eq_false_iff_not]
  refine ⟨⟨?_, ?_⟩, ?_⟩ <;> rintro rfl <;> exact absurd visible (by decide)

/-! ## Host and port -/

/-- `_hostinfo`. -/
def hostinfo (netloc : List Char) : List Char × List Char :=
  let info := rpartitionTail '@' netloc
  if '[' ∈ info then
    let bracketed := partitionTail '[' info
    (partitionHead ']' bracketed, partitionTail ':' (partitionTail ']' bracketed))
  else (partitionHead ':' info, partitionTail ':' info)

/-- `hostname`; the zone of an address is not lower-cased. -/
def hostname (lib : UrlLib) (netloc : List Char) : Option (List Char) :=
  let name := (hostinfo netloc).1
  if name = [] then none
  else if '%' ∈ name then
    some (lib.lower (partitionHead '%' name) ++ '%' :: partitionTail '%' name)
  else some (lib.lower name)

/-- `port`; the outer `none` is the `ValueError`. -/
def port (netloc : List Char) : Option (Option Int) :=
  let text := (hostinfo netloc).2
  if text = [] then some none
  else if text.all Char.isDigit then
    match parseInt 10 text with
    | some value => if 0 ≤ value ∧ value ≤ 65535 then some (some value) else none
    | none => none
  else none

/-- A name and its `hostname` differ in case alone. -/
theorem lower_hostname {lib : UrlLib} {netloc host : List Char}
    (found : hostname lib netloc = some host) :
    (hostinfo netloc).1 ≠ [] ∧ lib.lower host = lib.lower (hostinfo netloc).1 := by
  simp only [hostname] at found
  split at found
  · cases found
  · rename_i named
    refine ⟨named, ?_⟩
    split at found
    · rename_i zoned
      cases found
      obtain ⟨-, split⟩ := exists_split_of_mem zoned
      conv_rhs => rw [split]
      rw [lib.lower_percent, lib.lower_percent, lib.lower_lower]
    · cases found
      exact lib.lower_lower _

/-- The port is absent, or its text is made of digits. -/
theorem port_cases {netloc : List Char} {found : Option Int} (read : port netloc = some found) :
    (hostinfo netloc).2 = [] ∧ found = none ∨
      ∃ value, (hostinfo netloc).2 ≠ [] ∧ (hostinfo netloc).2.all Char.isDigit = true ∧
        parseInt 10 (hostinfo netloc).2 = some value ∧ found = some value := by
  simp only [port] at read
  split at read
  · rename_i empty
    cases read
    exact Or.inl ⟨empty, rfl⟩
  · rename_i held
    split at read
    · rename_i digits
      split at read
      · rename_i value parsed
        split at read
        · cases read
          exact Or.inr ⟨value, held, digits, parsed, rfl⟩
        · cases read
      · cases read
    · cases read

/-! ## ASCII -/

/-- Lower case on the ASCII letters leaves brackets alone. -/
theorem count_map_toLower (chars : List Char) :
    (chars.map Char.toLower).count '[' = chars.count '[' := by
  induction chars with
  | nil => rfl
  | cons c rest ih =>
      have same : c.toLower = '[' ↔ c = '[' := by
        by_cases upper : 65 ≤ c.val.toNat ∧ c.val.toNat ≤ 90
        · have shifted := toNat_toLower upper
          have bracket : '['.val.toNat = 91 := rfl
          refine iff_of_false (fun lowered => ?_) (fun here => ?_)
          · rw [lowered, bracket] at shifted
            omega
          · rw [here, bracket] at upper
            omega
        · rw [toLower_of_not_upper upper]
      by_cases here : c = '['
      · rw [List.map_cons, same.mpr here, here, List.count_cons_self, List.count_cons_self, ih]
      · rw [List.map_cons, List.count_cons_of_ne (fun lowered => here (same.mp lowered)),
          List.count_cons_of_ne here, ih]

/-- A `UrlLib` for ASCII texts that refuses no network location. -/
def UrlLib.ascii : UrlLib where
  lower := List.map Char.toLower
  checkNetloc _ := true
  lower_lower chars := by
    rw [List.map_map]
    exact List.map_congr_left fun c _ => toLower_toLower c
  lower_percent front back := by rw [List.map_append, List.map_cons]; rfl
  lower_eq_nil _ := List.map_eq_nil_iff
  count_bracket := count_map_toLower

end PersonTracking.Python
