import Mathlib.Data.List.TakeWhile
import Mathlib.Tactic.Common

/-!
# Paths of URLs

How a path changes between a request line and the server behind a proxy.

* `urlPath` — `urlsplit(url).path` of a URL that ends in the given text: tabs and
  line breaks are dropped, and the path ends at the first `#` or `?`.
* `removeDotSegments` — the algorithm of RFC 3986, on the segments of an absolute path.
* `HasEscape`, `Unquote` — percent-escapes, and what undoes them.
-/

namespace PersonTracking.Python

/-- The characters `urlsplit` drops. -/
def isStripped (c : Char) : Bool := c = '\t' || c = '\r' || c = '\n'

/-- `urlsplit(url).path`. -/
def urlPath (chars : List Char) : List Char :=
  ((chars.filter fun c => !isStripped c).takeWhile fun c => c ≠ '#').takeWhile fun c => c ≠ '?'

/-- The characters that do not survive `urlsplit` in a path. -/
def delimits (c : Char) : Bool := isStripped c || c = '#' || c = '?'

theorem mem_urlPath {c : Char} {chars : List Char} (member : c ∈ urlPath chars) :
    c ∈ chars ∧ delimits c = false := by
  unfold urlPath at member
  have before := List.mem_takeWhile_imp member
  have inner := (List.takeWhile_prefix _).subset member
  have notHash := List.mem_takeWhile_imp inner
  obtain ⟨here, safe⟩ := List.mem_filter.mp ((List.takeWhile_prefix _).subset inner)
  refine ⟨here, ?_⟩
  unfold delimits
  simp_all

theorem length_urlPath_le (chars : List Char) :
    (urlPath chars).length ≤ (chars.filter fun c => !isStripped c).length := by
  unfold urlPath
  exact le_trans (List.takeWhile_prefix _).length_le (List.takeWhile_prefix _).length_le

theorem urlPath_slash (chars : List Char) : urlPath ('/' :: chars) = '/' :: urlPath chars := rfl

/-- A path without delimiters survives, up to stripped characters behind it. -/
theorem urlPath_append {chars tail : List Char} (plain : ∀ c ∈ chars, delimits c = false)
    (stripped : ∀ c ∈ tail, isStripped c = true) : urlPath (chars ++ tail) = chars := by
  have kept : ((chars ++ tail).filter fun c => !isStripped c) = chars := by
    rw [List.filter_append, List.filter_eq_self.mpr, List.filter_eq_nil_iff.mpr, List.append_nil]
    · intro c member
      simp [stripped c member]
    · intro c member
      have := plain c member
      unfold delimits at this
      simp_all
  have noHash : (chars.takeWhile fun c => c ≠ '#') = chars := by
    rw [List.takeWhile_eq_self_iff]
    intro c member
    have := plain c member
    unfold delimits at this
    simp_all
  have noQuery : (chars.takeWhile fun c => c ≠ '?') = chars := by
    rw [List.takeWhile_eq_self_iff]
    intro c member
    have := plain c member
    unfold delimits at this
    simp_all
  unfold urlPath
  rw [kept, noHash, noQuery]

/-- The path ends at a query at the latest. -/
theorem urlPath_query (chars query : List Char) :
    urlPath (chars ++ '?' :: query) = urlPath chars := by
  unfold urlPath
  rw [List.filter_append]
  generalize chars.filter (fun c => !isStripped c) = kept
  have question : ('?' :: query).filter (fun c => !isStripped c) =
      '?' :: query.filter fun c => !isStripped c := rfl
  rw [question]
  induction kept with
  | nil => rfl
  | cons c kept ih =>
      by_cases hash : c = '#'
      · subst hash
        rfl
      by_cases mark : c = '?'
      · subst mark
        rfl
      simpa [hash, mark] using ih

/-! ## Dot segments -/

/-- The segments of an absolute path. -/
def segments (chars : List Char) : List (List Char) := chars.tail.splitOn '/'

/-- An absolute path of the given segments. -/
def ofSegments (parts : List (List Char)) : List Char := '/' :: ['/'].intercalate parts

def isDot (part : List Char) : Bool := part = ['.']

def isDotDot (part : List Char) : Bool := part = ['.', '.']

/-- Drop dot segments and what double dots cancel.  `kept` are the segments kept
so far, the last one first. -/
def dropDots : List (List Char) → List (List Char) → List (List Char)
  | kept, [] => kept.reverse
  | kept, [part] =>
      if isDot part then ([] :: kept).reverse
      else if isDotDot part then ([] :: kept.tail).reverse
      else (part :: kept).reverse
  | kept, part :: next :: rest =>
      if isDot part then dropDots kept (next :: rest)
      else if isDotDot part then dropDots kept.tail (next :: rest)
      else dropDots (part :: kept) (next :: rest)

/-- `remove_dot_segments` of an absolute path. -/
def removeDotSegments (chars : List Char) : List Char := ofSegments (dropDots [] (segments chars))

/-- The characters of the segments and the slashes in front of them. -/
def weight : List (List Char) → ℕ
  | [] => 0
  | part :: rest => part.length + 1 + weight rest

/-- Segments that are no dots. -/
def Dotless (parts : List (List Char)) : Prop :=
  ∀ part ∈ parts, isDot part = false ∧ isDotDot part = false

instance (parts : List (List Char)) : Decidable (Dotless parts) :=
  inferInstanceAs (Decidable (∀ part ∈ parts, _))

theorem length_ofSegments {parts : List (List Char)} (some : parts ≠ []) :
    (ofSegments parts).length = weight parts := by
  induction parts with
  | nil => exact absurd rfl some
  | cons part rest ih =>
      cases rest with
      | nil => simp [ofSegments, weight]
      | cons next others =>
          have later := ih (by simp)
          unfold ofSegments at later ⊢
          rw [List.intercalate_cons_cons, weight, ← later]
          simp
          omega

theorem weight_append (first second : List (List Char)) :
    weight (first ++ second) = weight first + weight second := by
  induction first with
  | nil => simp [weight]
  | cons part rest ih =>
      rw [List.cons_append, weight, weight, ih]
      omega

theorem weight_reverse (parts : List (List Char)) : weight parts.reverse = weight parts := by
  induction parts with
  | nil => rfl
  | cons part rest ih =>
      rw [List.reverse_cons, weight_append, ih, weight, weight, weight]
      omega

theorem weight_tail_le (parts : List (List Char)) : weight parts.tail ≤ weight parts := by
  cases parts with
  | nil => exact le_refl 0
  | cons part rest => exact Nat.le_add_left _ _

/-- Dropping dots makes nothing longer. -/
theorem weight_dropDots_le (kept parts : List (List Char)) :
    weight (dropDots kept parts) ≤ weight kept + weight parts := by
  induction kept, parts using dropDots.induct with
  | case1 kept => simp [dropDots, weight_reverse, weight]
  | case2 kept part dot =>
      rw [dropDots, if_pos dot, weight_reverse]
      simp [weight]
      omega
  | case3 kept part notDot dots =>
      have fewer := weight_tail_le kept
      rw [dropDots, if_neg notDot, if_pos dots, weight_reverse]
      simp [weight]
      omega
  | case4 kept part notDot notDots =>
      rw [dropDots, if_neg notDot, if_neg notDots, weight_reverse]
      simp [weight]
      omega
  | case5 kept part next rest dot ih =>
      rw [dropDots, if_pos dot, weight]
      omega
  | case6 kept part next rest notDot dots ih =>
      have fewer := weight_tail_le kept
      rw [dropDots, if_neg notDot, if_pos dots, weight]
      omega
  | case7 kept part next rest notDot notDots ih =>
      rw [dropDots, if_neg notDot, if_neg notDots, weight]
      rw [weight] at ih
      omega

/-- What is left was kept before, is a segment that is no dot, or is empty. -/
theorem mem_dropDots {kept parts : List (List Char)} {part : List Char}
    (member : part ∈ dropDots kept parts) :
    part ∈ kept ∨ part = [] ∨ (part ∈ parts ∧ isDot part = false ∧ isDotDot part = false) := by
  induction kept, parts using dropDots.induct with
  | case1 kept => exact Or.inl (List.mem_reverse.mp member)
  | case2 kept last dot =>
      rw [dropDots, if_pos dot, List.mem_reverse] at member
      exact (List.mem_cons.mp member).elim (fun empty => Or.inr (Or.inl empty)) Or.inl
  | case3 kept last notDot dots =>
      rw [dropDots, if_neg notDot, if_pos dots, List.mem_reverse] at member
      exact (List.mem_cons.mp member).elim (fun empty => Or.inr (Or.inl empty))
        fun before => Or.inl (List.mem_of_mem_tail before)
  | case4 kept last notDot notDots =>
      rw [dropDots, if_neg notDot, if_neg notDots, List.mem_reverse] at member
      rcases List.mem_cons.mp member with rfl | before
      · exact Or.inr (Or.inr ⟨List.mem_cons_self, by simpa using notDot, by simpa using notDots⟩)
      · exact Or.inl before
  | case5 kept first next rest dot ih =>
      rw [dropDots, if_pos dot] at member
      exact (ih member).imp_right (Or.imp_right fun found =>
        ⟨List.mem_cons_of_mem _ found.1, found.2⟩)
  | case6 kept first next rest notDot dots ih =>
      rw [dropDots, if_neg notDot, if_pos dots] at member
      exact (ih member).imp List.mem_of_mem_tail (Or.imp_right fun found =>
        ⟨List.mem_cons_of_mem _ found.1, found.2⟩)
  | case7 kept first next rest notDot notDots ih =>
      rw [dropDots, if_neg notDot, if_neg notDots] at member
      rcases ih member with before | empty | found
      · rcases List.mem_cons.mp before with rfl | before
        · exact Or.inr (Or.inr ⟨List.mem_cons_self, by simpa using notDot, by simpa using notDots⟩)
        · exact Or.inl before
      · exact Or.inr (Or.inl empty)
      · exact Or.inr (Or.inr ⟨List.mem_cons_of_mem _ found.1, found.2⟩)

theorem dropDots_ne_nil {kept parts : List (List Char)} (some : parts ≠ []) :
    dropDots kept parts ≠ [] := by
  induction kept, parts using dropDots.induct with
  | case1 kept => exact absurd rfl some
  | case2 kept last dot => simp [dropDots, dot]
  | case3 kept last notDot dots => simp [dropDots, notDot, dots]
  | case4 kept last notDot notDots => simp [dropDots, notDot, notDots]
  | case5 kept first next rest dot ih =>
      rw [dropDots, if_pos dot]
      exact ih (by simp)
  | case6 kept first next rest notDot dots ih =>
      rw [dropDots, if_neg notDot, if_pos dots]
      exact ih (by simp)
  | case7 kept first next rest notDot notDots ih =>
      rw [dropDots, if_neg notDot, if_neg notDots]
      exact ih (by simp)

/-- Segments without dots are kept. -/
theorem dropDots_of_dotless {kept parts : List (List Char)} (dotless : Dotless parts) :
    dropDots kept parts = kept.reverse ++ parts := by
  induction parts generalizing kept with
  | nil => rw [dropDots, List.append_nil]
  | cons part rest ih =>
      obtain ⟨notDot, notDots⟩ := dotless part List.mem_cons_self
      have later : Dotless rest := fun other member => dotless other (List.mem_cons_of_mem _ member)
      cases rest with
      | nil => simp [dropDots, notDot, notDots]
      | cons next others =>
          rw [dropDots, if_neg (by simp [notDot]), if_neg (by simp [notDots]), ih later]
          simp

theorem segments_ne_nil (chars : List Char) : segments chars ≠ [] := List.splitOn_ne_nil _ _

theorem ofSegments_segments (chars : List Char) :
    ofSegments (segments ('/' :: chars)) = '/' :: chars := by
  rw [ofSegments, segments, List.tail_cons, List.intercalate_splitOn]

/-- An absolute path without dot segments is left as it is. -/
theorem removeDotSegments_of_dotless {chars : List Char}
    (dotless : Dotless (segments ('/' :: chars))) :
    removeDotSegments ('/' :: chars) = '/' :: chars := by
  rw [removeDotSegments, dropDots_of_dotless dotless]
  exact ofSegments_segments chars

theorem length_removeDotSegments_le (chars : List Char) :
    (removeDotSegments ('/' :: chars)).length ≤ ('/' :: chars).length := by
  rw [removeDotSegments, length_ofSegments (dropDots_ne_nil (segments_ne_nil _))]
  refine le_trans (weight_dropDots_le _ _) ?_
  rw [weight, Nat.zero_add, ← length_ofSegments (segments_ne_nil _), ofSegments_segments]

/-- The characters of a path are slashes and those of its segments. -/
theorem of_mem_ofSegments {c : Char} {parts : List (List Char)} (member : c ∈ ofSegments parts) :
    c = '/' ∨ ∃ part ∈ parts, c ∈ part := by
  have inner : ∀ parts : List (List Char), c ∈ ['/'].intercalate parts →
      c = '/' ∨ ∃ part ∈ parts, c ∈ part := by
    intro parts
    induction parts with
    | nil => exact fun member => absurd member List.not_mem_nil
    | cons part rest ih =>
        cases rest with
        | nil =>
            intro member
            rw [List.intercalate_singleton] at member
            exact Or.inr ⟨part, List.mem_cons_self, member⟩
        | cons next others =>
            intro member
            rw [List.intercalate_cons_cons, List.mem_append, List.mem_append] at member
            rcases member with (here | slash) | later
            · exact Or.inr ⟨part, List.mem_cons_self, here⟩
            · exact Or.inl (List.mem_singleton.mp slash)
            · exact (ih later).imp_right fun ⟨other, found, member⟩ =>
                ⟨other, List.mem_cons_of_mem _ found, member⟩
  rcases List.mem_cons.mp member with slash | later
  · exact Or.inl slash
  · exact inner parts later

/-- A segment holds characters of the path other than slashes. -/
theorem of_mem_segments {c : Char} {chars part : List Char} (found : part ∈ segments chars)
    (member : c ∈ part) : c ∈ chars ∧ c ≠ '/' := by
  have inner : ∀ chars : List Char, ∀ part ∈ chars.splitOn '/', c ∈ part → c ∈ chars ∧ c ≠ '/' := by
    intro chars
    induction chars with
    | nil =>
        intro part found member
        rw [List.splitOn_nil, List.mem_singleton] at found
        rw [found] at member
        cases member
    | cons d rest ih =>
        intro part found member
        rw [List.splitOn_cons_eq_if_modifyHead] at found
        split at found
        · rcases List.mem_cons.mp found with rfl | later
          · cases member
          · exact (ih part later member).imp_left (List.mem_cons_of_mem _)
        · rename_i notSlash
          obtain ⟨first, others, parts⟩ := List.exists_cons_of_ne_nil (List.splitOn_ne_nil '/' rest)
          rw [parts, List.modifyHead_cons] at found
          rw [parts] at ih
          rcases List.mem_cons.mp found with rfl | later
          · rcases List.mem_cons.mp member with rfl | inside
            · exact ⟨List.mem_cons_self, by simpa using notSlash⟩
            · exact (ih first List.mem_cons_self inside).imp_left (List.mem_cons_of_mem _)
          · exact (ih part (List.mem_cons_of_mem _ later) member).imp_left (List.mem_cons_of_mem _)
  obtain ⟨inTail, notSlash⟩ := inner _ part found member
  exact ⟨List.mem_of_mem_tail inTail, notSlash⟩

/-- What is left of the segments has no slash in it. -/
theorem segments_removeDotSegments (chars : List Char) :
    segments (removeDotSegments chars) = dropDots [] (segments chars) := by
  rw [removeDotSegments, ofSegments, segments, List.tail_cons]
  refine List.splitOn_intercalate '/' (fun part member slash => ?_)
    (dropDots_ne_nil (segments_ne_nil chars))
  rcases mem_dropDots member with wrong | rfl | ⟨found, -⟩
  · cases wrong
  · cases slash
  · exact (of_mem_segments found slash).2 rfl

/-- **No dot segment is left.** -/
theorem dotless_removeDotSegments (chars : List Char) :
    Dotless (segments (removeDotSegments chars)) := by
  rw [segments_removeDotSegments]
  intro part member
  rcases mem_dropDots member with wrong | rfl | ⟨-, notDots⟩
  · cases wrong
  · exact ⟨rfl, rfl⟩
  · exact notDots

/-- Nothing new comes into a path. -/
theorem of_mem_removeDotSegments {c : Char} {chars : List Char}
    (member : c ∈ removeDotSegments chars) : c = '/' ∨ c ∈ chars := by
  rcases of_mem_ofSegments member with slash | ⟨part, found, inside⟩
  · exact Or.inl slash
  · rcases mem_dropDots found with wrong | rfl | ⟨segment, -⟩
    · cases wrong
    · cases inside
    · exact Or.inr (of_mem_segments segment inside).1

/-! ## Escapes -/

/-- A hexadecimal digit. -/
def hexDigit (c : Char) : Option ℕ :=
  if '0' ≤ c ∧ c ≤ '9' then some (c.toNat - 48)
  else if 'a' ≤ c ∧ c ≤ 'f' then some (c.toNat - 87)
  else if 'A' ≤ c ∧ c ≤ 'F' then some (c.toNat - 55)
  else none

/-- A percent sign and two hexadecimal digits. -/
def startsEscape : List Char → Bool
  | '%' :: high :: low :: _ => (hexDigit high).isSome && (hexDigit low).isSome
  | _ => false

/-- There is an escape somewhere. -/
def HasEscape : List Char → Prop
  | [] => False
  | c :: rest => startsEscape (c :: rest) = true ∨ HasEscape rest

instance HasEscape.decidable : (chars : List Char) → Decidable (HasEscape chars)
  | [] => inferInstanceAs (Decidable False)
  | c :: rest =>
      have := HasEscape.decidable rest
      inferInstanceAs (Decidable (startsEscape (c :: rest) = true ∨ HasEscape rest))

/-- What undoes percent-escapes: it leaves alone what has none, makes nothing
longer, and makes shorter what has some. -/
structure Unquote where
  decode : List Char → List Char
  plain : ∀ chars, ¬ HasEscape chars → decode chars = chars
  length_le : ∀ chars, (decode chars).length ≤ chars.length
  shorter : ∀ chars, HasEscape chars → (decode chars).length < chars.length

/-- Undo the escapes of single-byte characters. -/
def unquoteLatin : List Char → List Char
  | '%' :: high :: low :: rest =>
      match hexDigit high, hexDigit low with
      | some h, some l => Char.ofNat (16 * h + l) :: unquoteLatin rest
      | _, _ => '%' :: unquoteLatin (high :: low :: rest)
  | c :: rest => c :: unquoteLatin rest
  | [] => []

theorem startsEscape_of_none {high low : Char} {rest : List Char}
    (none : ∀ h l, hexDigit high = some h → hexDigit low = some l → False) :
    startsEscape ('%' :: high :: low :: rest) = false := by
  rw [startsEscape, Bool.and_eq_false_iff]
  cases first : hexDigit high with
  | none => exact Or.inl rfl
  | some h =>
      cases second : hexDigit low with
      | none => exact Or.inr rfl
      | some l => exact (none h l first second).elim

theorem startsEscape_of_other {c : Char} {rest : List Char}
    (other : ∀ high low tail, c = '%' → rest = high :: low :: tail → False) :
    startsEscape (c :: rest) = false := by
  unfold startsEscape
  split
  · rename_i high low tail same
    cases same
    exact (other high low tail rfl rfl).elim
  · rfl

theorem length_unquoteLatin (chars : List Char) :
    (unquoteLatin chars).length ≤ chars.length ∧
      (HasEscape chars → (unquoteLatin chars).length < chars.length) := by
  fun_induction unquoteLatin chars with
  | case1 high low rest h l high' low' ih =>
      simp only [List.length_cons]
      exact ⟨by omega, fun _ => by omega⟩
  | case2 high low rest none ih =>
      obtain ⟨shorter, strictly⟩ := ih
      refine ⟨Nat.succ_le_succ shorter, fun escape => ?_⟩
      rcases escape with here | later
      · rw [startsEscape_of_none none] at here
        cases here
      · exact Nat.succ_lt_succ (strictly later)
  | case3 c rest other ih =>
      obtain ⟨shorter, strictly⟩ := ih
      refine ⟨Nat.succ_le_succ shorter, fun escape => ?_⟩
      rcases escape with here | later
      · rw [startsEscape_of_other other] at here
        cases here
      · exact Nat.succ_lt_succ (strictly later)
  | case4 => exact ⟨le_refl _, fun wrong => wrong.elim⟩

theorem unquoteLatin_of_plain {chars : List Char} (plain : ¬ HasEscape chars) :
    unquoteLatin chars = chars := by
  fun_induction unquoteLatin chars with
  | case1 high low rest h l high' low' ih =>
      refine absurd (Or.inl ?_) plain
      rw [startsEscape, high', low']
      rfl
  | case2 high low rest none ih => rw [ih fun later => plain (Or.inr later)]
  | case3 c rest other ih => rw [ih fun later => plain (Or.inr later)]
  | case4 => rfl

/-- An `Unquote` for single-byte characters. -/
def Unquote.latin : Unquote where
  decode := unquoteLatin
  plain _ plain := unquoteLatin_of_plain plain
  length_le chars := (length_unquoteLatin chars).1
  shorter chars := (length_unquoteLatin chars).2

end PersonTracking.Python
