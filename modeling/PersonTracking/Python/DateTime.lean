import PersonTracking.Python.Json

/-!
# Dates, times and their ISO 8601 texts

`DateTime` is `datetime.datetime` with its UTC offset, if it has one, in
microseconds.  `isoformat` prints it, `fromisoformat` is the parser of the
`datetime` module since Python 3.11: calendar and week dates with or without
dashes, any one character between date and time, truncated times, fractions
after a dot or a comma, and `Z` or an offset at the end.

`fromisoformat_of_zone_eq_none` is the lemma the timestamps of the services
hang on: behind the first sign of the time part there has to be one offset and
nothing else.
-/

namespace PersonTracking.Python

/-! ## The calendar -/

def isLeap (year : ℕ) : Bool := year % 4 = 0 && (year % 100 ≠ 0 || year % 400 = 0)

def daysInMonth (year month : ℕ) : ℕ :=
  if month = 2 then (if isLeap year then 29 else 28)
  else if month ∈ [4, 6, 9, 11] then 30
  else 31

/-- The days of a year before a month. -/
def daysBeforeMonth (year month : ℕ) : ℕ :=
  ((List.range (month - 1)).map fun m => daysInMonth year (m + 1)).sum

/-- The days before January 1st of a year. -/
def daysBeforeYear (year : ℕ) : ℕ :=
  let y := year - 1
  y * 365 + y / 4 - y / 100 + y / 400

/-- `_ymd2ord`: the number of a day, 0001-01-01 being day 1. -/
def ymd2ord (year month day : ℕ) : ℕ := daysBeforeYear year + daysBeforeMonth year month + day

/-- `_ord2ymd`. -/
def ord2ymd (ordinal : ℕ) : ℕ × ℕ × ℕ :=
  let n := ordinal - 1
  let n100 := n % 146097 / 36524
  let n4 := n % 146097 % 36524 / 1461
  let n1 := n % 146097 % 36524 % 1461 / 365
  let year := n / 146097 * 400 + 1 + n100 * 100 + n4 * 4 + n1
  let dayOfYear := n % 146097 % 36524 % 1461 % 365
  if n1 = 4 ∨ n100 = 4 then (year - 1, 12, 31)
  else
    let month := ([12, 11, 10, 9, 8, 7, 6, 5, 4, 3, 2].find? fun m =>
      daysBeforeMonth year m ≤ dayOfYear).getD 1
    (year, month, dayOfYear - daysBeforeMonth year month + 1)

/-- The month found for a day of a year begins no later than that day. -/
theorem daysBeforeMonth_find_le (year day : ℕ) :
    daysBeforeMonth year (([12, 11, 10, 9, 8, 7, 6, 5, 4, 3, 2].find? fun m =>
      daysBeforeMonth year m ≤ day).getD 1) ≤ day := by
  cases found : [12, 11, 10, 9, 8, 7, 6, 5, 4, 3, 2].find? fun m =>
      decide (daysBeforeMonth year m ≤ day) with
  | none => exact Nat.zero_le day
  | some month =>
      have early := List.find?_some found
      exact of_decide_eq_true early

/-- A year has 365 days before December's last, or 366. -/
theorem daysBeforeMonth_december (year : ℕ) :
    daysBeforeMonth year 12 + 31 = if isLeap year then 366 else 365 := by
  cases leap : isLeap year <;> simp [daysBeforeMonth, List.range_succ, daysInMonth, leap]

/-- The days before a year, counted in cycles of 400, 100 and 4 years. -/
theorem daysBeforeYear_cycles {n400 n100 n4 n1 : ℕ} (hundreds : n100 ≤ 3) (fours : n4 ≤ 24)
    (ones : n1 ≤ 3) : daysBeforeYear (n400 * 400 + 1 + n100 * 100 + n4 * 4 + n1) =
      n400 * 146097 + n100 * 36524 + n4 * 1461 + n1 * 365 := by
  unfold daysBeforeYear
  dsimp only
  omega

/-- The last year of a cycle of 4 years is a leap year, unless a century ends with it
that is not the last of its cycle. -/
theorem isLeap_cycles {n400 n100 n4 : ℕ} (fours : n4 ≤ 24)
    (kept : n4 ≠ 24 ∨ n100 = 3) : isLeap (n400 * 400 + 1 + n100 * 100 + n4 * 4 + 3) = true := by
  simp only [isLeap, Bool.and_eq_true, Bool.or_eq_true, decide_eq_true_eq]
  omega

/-- The last day of a leap year. -/
theorem ymd2ord_last {n400 n100 n4 : ℕ} (hundreds : n100 ≤ 3) (fours : n4 ≤ 24)
    (kept : n4 ≠ 24 ∨ n100 = 3) :
    ymd2ord (n400 * 400 + 1 + n100 * 100 + n4 * 4 + 3) 12 31 =
      n400 * 146097 + n100 * 36524 + n4 * 1461 + 1461 := by
  have december := daysBeforeMonth_december (n400 * 400 + 1 + n100 * 100 + n4 * 4 + 3)
  rw [isLeap_cycles fours kept, if_pos rfl] at december
  rw [ymd2ord, daysBeforeYear_cycles hundreds fours le_rfl]
  omega

/-- **The day with a number has that number.** -/
theorem ymd2ord_ord2ymd {ordinal : ℕ} (positive : 0 < ordinal) :
    ymd2ord (ord2ymd ordinal).1 (ord2ymd ordinal).2.1 (ord2ymd ordinal).2.2 = ordinal := by
  have begun := daysBeforeMonth_find_le
  have shifted : ordinal - 1 + 1 = ordinal := Nat.sub_add_cancel positive
  unfold ord2ymd
  dsimp only
  generalize ordinal - 1 = n at shifted ⊢
  generalize cycles : n / 146097 = n400
  generalize centuries : n % 146097 / 36524 = n100
  generalize quads : n % 146097 % 36524 / 1461 = n4
  generalize years : n % 146097 % 36524 % 1461 / 365 = n1
  generalize days : n % 146097 % 36524 % 1461 % 365 = day
  split
  · rename_i last
    dsimp only
    rcases last with rfl | rfl
    · have fours : n4 ≤ 24 := by omega
      have hundreds : n100 ≤ 3 := by omega
      rw [show n400 * 400 + 1 + n100 * 100 + n4 * 4 + 4 - 1 =
        n400 * 400 + 1 + n100 * 100 + n4 * 4 + 3 by omega, ymd2ord_last hundreds fours (by omega)]
      omega
    · obtain ⟨rfl, rfl⟩ : n4 = 0 ∧ n1 = 0 := by omega
      rw [show n400 * 400 + 1 + 4 * 100 + 0 * 4 + 0 - 1 =
        n400 * 400 + 1 + 3 * 100 + 24 * 4 + 3 by omega, ymd2ord_last le_rfl le_rfl (Or.inr rfl)]
      omega
  · rename_i earlier
    dsimp only
    have early := begun (n400 * 400 + 1 + n100 * 100 + n4 * 4 + n1) day
    rw [ymd2ord, daysBeforeYear_cycles (by omega) (by omega) (by omega)]
    omega

/-- The number of the Monday that starts the first ISO week of a year. -/
def isoWeek1Monday (year : ℕ) : ℕ :=
  let firstDay := ymd2ord year 1 1
  let weekday := (firstDay + 6) % 7
  if 3 < weekday then firstDay - weekday + 7 else firstDay - weekday

/-- `_isoweek_to_gregorian`; `none` is the `ValueError`. -/
def isoWeekToGregorian (year week day : ℕ) : Option (ℕ × ℕ × ℕ) :=
  let firstWeekday := ymd2ord year 1 1 % 7
  let longYear := firstWeekday = 4 ∨ (firstWeekday = 3 ∧ isLeap year)
  if 1 ≤ year ∧ 1 ≤ week ∧ (week < 53 ∨ (week = 53 ∧ longYear)) ∧ 1 ≤ day ∧ day < 8 then
    some (ord2ymd (isoWeek1Monday year + (week - 1) * 7 + (day - 1)))
  else none

/-! ## Date-times -/

/-- A point of a calendar and a clock, and the clock's distance from UTC. -/
structure DateTime where
  year : ℕ
  month : ℕ
  day : ℕ
  hour : ℕ
  minute : ℕ
  second : ℕ
  microsecond : ℕ
  utcoffset : Option Int
  validDate : (1 ≤ year ∧ year ≤ 9999) ∧ (1 ≤ month ∧ month ≤ 12) ∧
    1 ≤ day ∧ day ≤ daysInMonth year month
  validTime : hour < 24 ∧ minute < 60 ∧ second < 60 ∧ microsecond < 1000000
  validOffset : ∀ offset ∈ utcoffset, -86400000000 < offset ∧ offset < 86400000000
deriving DecidableEq, Repr

namespace DateTime

/-- `datetime(...)`: the fields, if they are in range. -/
def ofFields (date : ℕ × ℕ × ℕ) (clock : ℕ × ℕ × ℕ × ℕ) (utcoffset : Option Int) :
    Option DateTime :=
  if valid : ((1 ≤ date.1 ∧ date.1 ≤ 9999) ∧ (1 ≤ date.2.1 ∧ date.2.1 ≤ 12) ∧
      1 ≤ date.2.2 ∧ date.2.2 ≤ daysInMonth date.1 date.2.1) ∧
      (clock.1 < 24 ∧ clock.2.1 < 60 ∧ clock.2.2.1 < 60 ∧ clock.2.2.2 < 1000000) ∧
      ∀ offset ∈ utcoffset, -86400000000 < offset ∧ offset < 86400000000 then
    some { year := date.1, month := date.2.1, day := date.2.2, hour := clock.1,
           minute := clock.2.1, second := clock.2.2.1, microsecond := clock.2.2.2, utcoffset,
           validDate := valid.1, validTime := valid.2.1, validOffset := valid.2.2 }
  else none

theorem validDate_epoch : (1 ≤ 1970 ∧ 1970 ≤ 9999) ∧ (1 ≤ 1 ∧ 1 ≤ 12) ∧
    1 ≤ 1 ∧ 1 ≤ daysInMonth 1970 1 := by decide

theorem validOffset_utc :
    ∀ offset ∈ some (0 : Int), -86400000000 < offset ∧ offset < 86400000000 := by
  decide

/-- The first instant of 1970, in UTC. -/
def epoch : DateTime where
  year := 1970
  month := 1
  day := 1
  hour := 0
  minute := 0
  second := 0
  microsecond := 0
  utcoffset := some 0
  validDate := validDate_epoch
  validTime := ⟨Nat.zero_lt_succ _, Nat.zero_lt_succ _, Nat.zero_lt_succ _, Nat.zero_lt_succ _⟩
  validOffset := validOffset_utc

/-- Whether the UTC offset is known. -/
def isAware (t : DateTime) : Bool := t.utcoffset.isSome

/-- Microseconds of the local clock since the calendar's start. -/
def localTime (t : DateTime) : Int :=
  (((((ymd2ord t.year t.month t.day * 24 + t.hour) * 60 + t.minute) * 60 + t.second) * 1000000 +
    t.microsecond : ℕ) : Int)

/-- The instant an aware date-time denotes, in microseconds of UTC. -/
def instant (t : DateTime) : Int := t.localTime - t.utcoffset.getD 0

/-- `a < b`: instants when both are aware, clocks when both are naive. -/
def lt (a b : DateTime) : Except PyError Bool :=
  if a.isAware = b.isAware then .ok (a.instant < b.instant) else .error .typeError

/-- The UTC time of an instant, if the calendar has it. -/
def ofInstant (instant : Int) : Option DateTime :=
  let clock := (instant % 86400000000).toNat
  if 0 < instant / 86400000000 then
    ofFields (ord2ymd (instant / 86400000000).toNat)
      (clock / 3600000000, clock / 60000000 % 60, clock / 1000000 % 60, clock % 1000000) (some 0)
  else none

theorem instant_ofFields {date : ℕ × ℕ × ℕ} {clock : ℕ × ℕ × ℕ × ℕ} {utcoffset : Option Int}
    {t : DateTime} (made : ofFields date clock utcoffset = some t) :
    t.instant = (((((ymd2ord date.1 date.2.1 date.2.2 * 24 + clock.1) * 60 + clock.2.1) * 60 +
      clock.2.2.1) * 1000000 + clock.2.2.2 : ℕ) : Int) - utcoffset.getD 0 := by
  unfold ofFields at made
  split at made
  · cases made
    rfl
  · cases made

theorem instant_ofInstant {instant : Int} {t : DateTime} (made : ofInstant instant = some t) :
    t.instant = instant := by
  unfold ofInstant at made
  dsimp only at made
  split at made
  · rename_i positive
    have day := ymd2ord_ord2ymd (show 0 < (instant / 86400000000).toNat by omega)
    rw [instant_ofFields made, day, Option.getD_some]
    dsimp only
    omega
  · cases made

/-- A time as a column `timestamptz` gives it back: the same instant, in UTC. -/
def readBack (t : DateTime) : DateTime := (ofInstant t.instant).getD t

theorem instant_readBack (t : DateTime) : t.readBack.instant = t.instant := by
  unfold readBack
  cases made : ofInstant t.instant with
  | none => rfl
  | some utc => exact instant_ofInstant made

/-- Half past one on March 1st, two hours east of UTC. -/
example : ((ofFields (2024, 3, 1) (1, 30, 0, 5) (some 7200000000)).map readBack).map instant =
      (ofFields (2024, 2, 29) (23, 30, 0, 5) (some 0)).map instant := by decide +kernel

/-! ## Printing -/

/-- `_format_offset`. -/
def formatOffset : Option Int → List Char
  | none => []
  | some offset =>
      let n := offset.natAbs
      let seconds := n / 1000000 % 60
      (if offset < 0 then '-' else '+') :: (padded 10 2 (n / 3600000000) ++ ':' ::
        (padded 10 2 (n / 60000000 % 60) ++
          if seconds = 0 ∧ n % 1000000 = 0 then []
          else ':' :: (padded 10 2 seconds ++
            if n % 1000000 = 0 then [] else '.' :: padded 10 6 (n % 1000000))))

/-- `_format_time` with the default `timespec`. -/
def formatTime (t : DateTime) : List Char :=
  padded 10 2 t.hour ++ ':' :: (padded 10 2 t.minute ++ ':' :: (padded 10 2 t.second ++
    if t.microsecond = 0 then [] else '.' :: padded 10 6 t.microsecond))

/-- The date part of `isoformat`. -/
def formatDate (t : DateTime) : List Char :=
  padded 10 4 t.year ++ '-' :: (padded 10 2 t.month ++ '-' :: padded 10 2 t.day)

/-- `t.isoformat()`. -/
def isoformat (t : DateTime) : List Char :=
  t.formatDate ++ 'T' :: (t.formatTime ++ formatOffset t.utcoffset)

end DateTime

/-! ## Parsing -/

def isAsciiDigit (c : Char) : Bool := '0' ≤ c && c ≤ '9'

/-- The `width` digits that start at a position, as a number. -/
def field (chars : List Char) (start width : ℕ) : Option ℕ :=
  let ds := (chars.drop start).take width
  if ds.length = width ∧ ds.all isAsciiDigit then
    some (ds.foldl (fun acc c => acc * 10 + (c.toNat - 48)) 0)
  else none

/-- `_find_isoformat_datetime_separator`: the length of the date part. -/
def findSeparator (chars : List Char) : ℕ :=
  if chars.length = 7 then 7
  else if chars[4]? = some '-' then
    if chars[5]? = some 'W' then
      if chars[8]? = some '-' then
        if (chars[10]?).any isAsciiDigit then 8 else 10
      else 8
    else 10
  else if chars[4]? = some 'W' then
    let ends := 7 + ((chars.drop 7).takeWhile isAsciiDigit).length
    if ends < 9 then ends else if ends % 2 = 0 then 7 else 8
  else 8

/-- `_parse_isoformat_date`. -/
def parseDate (chars : List Char) : Option (ℕ × ℕ × ℕ) :=
  if chars.length = 7 ∨ chars.length = 8 ∨ chars.length = 10 then do
    let year ← field chars 0 4
    let dash := if chars[4]? = some '-' then 1 else 0
    if chars[4 + dash]? = some 'W' then
      let week ← field chars (5 + dash) 2
      if chars.length ≤ 7 + dash then isoWeekToGregorian year week 1
      else if (chars[7 + dash]? = some '-') = (dash = 1) then
        let day ← field chars (7 + dash + dash) 1
        isoWeekToGregorian year week day
      else none
    else
      let month ← field chars (4 + dash) 2
      if (chars[6 + dash]? = some '-') = (dash = 1) then
        let day ← field chars (6 + dash + dash) 2
        some (year, month, day)
      else none
  else none

/-- The digits after the decimal sign, as microseconds. -/
def parseFraction (chars : List Char) : Option ℕ :=
  if chars.all isAsciiDigit ∧ chars ≠ [] then field (chars ++ List.replicate 5 '0') 0 6 else none

/-- `_parse_hh_mm_ss_ff`: hours, then minutes, seconds and a fraction as far as
they are there, with colons between all of them or none. -/
def parseClock (chars : List Char) : Option (ℕ × ℕ × ℕ × ℕ) := do
  let hour ← field chars 0 2
  let colon := if chars[2]? = some ':' then 1 else 0
  if chars.length = 2 then return (hour, 0, 0, 0)
  let minute ← field chars (2 + colon) 2
  if chars.length = 4 + colon then return (hour, minute, 0, 0)
  if colon = 1 ∧ chars[5]? ≠ some ':' then none
  let second ← field chars (4 + colon + colon) 2
  match chars.drop (6 + colon + colon) with
  | [] => return (hour, minute, second, 0)
  | mark :: fraction =>
      if mark = '.' ∨ mark = ',' then
        let microsecond ← parseFraction fraction
        return (hour, minute, second, microsecond)
      else none

/-- The characters that start the offset. -/
def startsZone (c : Char) : Bool := c = '+' || c = '-' || c = 'Z'

/-- The offset at the end of a time; `none` inside when there is none. -/
def parseZone : List Char → Option (Option Int)
  | [] => some none
  | ['Z'] => some (some 0)
  | 'Z' :: _ => none
  | sign :: zone =>
      if zone.length ≤ 1 ∨ zone.length = 3 then none
      else (parseClock zone).map fun clock =>
        let magnitude : ℕ :=
          ((clock.1 * 60 + clock.2.1) * 60 + clock.2.2.1) * 1000000 + clock.2.2.2
        some (if sign = '-' then -(magnitude : Int) else (magnitude : Int))

/-- `_parse_isoformat_time`. -/
def parseTime (chars : List Char) : Option ((ℕ × ℕ × ℕ × ℕ) × Option Int) :=
  if chars.length < 2 then none
  else do
    let clock ← parseClock (chars.takeWhile fun c => !startsZone c)
    let zone ← parseZone (chars.dropWhile fun c => !startsZone c)
    return (clock, zone)

namespace DateTime

/-- `datetime.fromisoformat(text)`; `none` is the `ValueError`. -/
def fromisoformat (chars : List Char) : Option DateTime :=
  if chars.length < 7 then none
  else do
    let separator := findSeparator chars
    let date ← parseDate (chars.take separator)
    match chars.drop separator with
    | [] => ofFields date (0, 0, 0, 0) none
    | _ :: time => do
        let parsed ← parseTime time
        ofFields date parsed.1 parsed.2

/-! ## The text of a date-time -/

theorem isAsciiDigit_digitChar : ∀ d < 10, isAsciiDigit (digitChar d) = true := by decide

/-- A printed number consists of digits. -/
theorem isAsciiDigit_of_mem_padded {width n : ℕ} {c : Char} (member : c ∈ padded 10 width n) :
    isAsciiDigit c = true := by
  obtain ⟨d, small, rfl⟩ := exists_digit_of_mem_padded (by decide) member
  exact isAsciiDigit_digitChar d small

theorem ne_of_mem_padded {width n : ℕ} {c mark : Char} (member : c ∈ padded 10 width n)
    (noDigit : isAsciiDigit mark = false) : c ≠ mark := by
  rintro rfl
  exact absurd (isAsciiDigit_of_mem_padded member) (by simp [noDigit])

@[simp] theorem length_formatDate (t : DateTime) : t.formatDate.length = 10 := by
  simp [formatDate]

/-- The date part reads `YYYY-MM-DD`. -/
theorem findSeparator_formatDate (t : DateTime) (rest : List Char) :
    findSeparator (t.formatDate ++ 'T' :: rest) = 10 := by
  have fourth : (t.formatDate ++ 'T' :: rest)[4]? = some '-' := by
    rw [formatDate, List.append_assoc, List.getElem?_append_right (by simp)]
    simp
  have fifth : (t.formatDate ++ 'T' :: rest)[5]? ≠ some 'W' := by
    rw [formatDate, List.append_assoc, List.getElem?_append_right (by simp)]
    intro same
    simp only [length_padded, List.cons_append, List.append_assoc] at same
    rw [show 5 - 4 = 0 + 1 from rfl, List.getElem?_cons_succ,
      List.getElem?_append_left (by simp)] at same
    exact ne_of_mem_padded (List.mem_of_getElem? same) (by decide) rfl
  have long : (t.formatDate ++ 'T' :: rest).length ≠ 7 := by
    rw [List.length_append, length_formatDate]
    omega
  rw [findSeparator, if_neg long, if_pos fourth, if_neg fifth]

/-- The characters a printed time consists of. -/
theorem mem_formatTime {t : DateTime} {c : Char} (member : c ∈ t.formatTime) :
    isAsciiDigit c = true ∨ c = ':' ∨ c = '.' := by
  have digit : ∀ {width n : ℕ}, c ∈ padded 10 width n → isAsciiDigit c = true :=
    fun inside => isAsciiDigit_of_mem_padded inside
  simp only [formatTime, List.mem_append, List.mem_cons] at member
  rcases member with hour | rfl | minute | rfl | second | fraction
  · exact Or.inl (digit hour)
  · exact Or.inr (Or.inl rfl)
  · exact Or.inl (digit minute)
  · exact Or.inr (Or.inl rfl)
  · exact Or.inl (digit second)
  · split at fraction
    · cases fraction
    · rcases List.mem_cons.mp fraction with rfl | microsecond
      · exact Or.inr (Or.inr rfl)
      · exact Or.inl (digit microsecond)

theorem startsZone_of_mem_formatTime {t : DateTime} {c : Char} (member : c ∈ t.formatTime) :
    (!startsZone c) = true := by
  rcases mem_formatTime member with digit | rfl | rfl
  · have noSign : ∀ mark : Char, isAsciiDigit mark = false → c ≠ mark := by
      rintro mark noDigit rfl
      exact absurd digit (by simp [noDigit])
    simp [startsZone, noSign '+' (by decide), noSign '-' (by decide), noSign 'Z' (by decide)]
  · decide
  · decide

/-- **The offset decides.**  A printed date-time whose offset does not parse
does not parse. -/
theorem fromisoformat_of_zone_eq_none (t : DateTime) {zone : List Char} {sign : Char}
    (signed : startsZone sign = true) (unparsed : parseZone (sign :: zone) = none) :
    fromisoformat (t.formatDate ++ 'T' :: (t.formatTime ++ sign :: zone)) = none := by
  have stops : (!startsZone sign) = false := by rw [signed]; rfl
  have zoneOf : (t.formatTime ++ sign :: zone).dropWhile (fun c => !startsZone c) =
      sign :: zone := by
    rw [List.dropWhile_append_of_pos fun c => startsZone_of_mem_formatTime,
      List.dropWhile_cons, if_neg (by rw [stops]; decide)]
  have noTime : parseTime (t.formatTime ++ sign :: zone) = none := by
    rw [parseTime]
    split
    · rfl
    · rw [zoneOf, unparsed]
      cases parseClock ((t.formatTime ++ sign :: zone).takeWhile fun c => !startsZone c) <;> rfl
  have timePart : (t.formatDate ++ 'T' :: (t.formatTime ++ sign :: zone)).drop 10 =
      'T' :: (t.formatTime ++ sign :: zone) := List.drop_left' (length_formatDate t)
  rw [fromisoformat]
  split
  · rfl
  · rw [findSeparator_formatDate]
    simp only [timePart, noTime]
    cases parseDate ((t.formatDate ++ 'T' :: (t.formatTime ++ sign :: zone)).take 10) <;> rfl

/-- Nothing in a printed UTC date-time reads `Z`. -/
theorem notMem_isoformat {t : DateTime} (utc : t.utcoffset = some 0) : 'Z' ∉ t.isoformat := by
  intro member
  have noDigit : ∀ {width n : ℕ}, 'Z' ∉ padded 10 width n :=
    fun inside => absurd (isAsciiDigit_of_mem_padded inside) (by decide)
  have offset : formatOffset t.utcoffset = "+00:00".toList := by rw [utc]; decide
  rw [isoformat, offset, List.mem_append, List.mem_cons, List.mem_append] at member
  rcases member with date | separator | time | zone
  · simp only [formatDate, List.mem_append, List.mem_cons, noDigit, false_or, or_false] at date
    rcases date with dash | dash
    · exact absurd dash (by decide)
    · exact absurd dash (by decide)
  · exact absurd separator (by decide)
  · rcases mem_formatTime time with digit | colon | dot
    · exact absurd digit (by decide)
    · exact absurd colon (by decide)
    · exact absurd dot (by decide)
  · exact absurd zone (by decide)

end DateTime

end PersonTracking.Python
