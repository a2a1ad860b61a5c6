import FormWizard.Calendar.Reader
import FormWizard.Proofs.Calendar.Gregorian
import FormWizard.Proofs.Calendar.TimeStamps
import FormWizard.Proofs.DataPath.Spelling

/-! Days and time stamps are read back from their texts. The text of a day is read as the midnight
of that day, whatever the sign and the length of its year; the text of an instant is read as what
the instant is written as where its year has four digits.
-/

namespace FormWizard.Calendar

-----------------------------------------------------------------------------------------
-- Numerals
-----------------------------------------------------------------------------------------

section

variable {count width n : Nat} {digits rest : List Char}

theorem skip?_cons (c : Char) (rest : List Char) : skip? c (c :: rest) = some rest :=
  if_pos rfl

theorem bind_of_eq_some {α β : Type} {first : Option α} {value : α} {next : α → Option β}
    (h : first = some value)
    : first >>= next = next value := by
  rw [h]
  rfl

theorem exists_of_bind_eq_some {α β : Type} {first : Option α} {next : α → Option β} {result : β}
    (h : first >>= next = some result)
    : ∃ value, next value = some result := by
  obtain ⟨value, -, found⟩ := Option.bind_eq_some_iff.mp h
  exact ⟨value, found⟩

theorem guard_of {p : Prop} [Decidable p] (h : p) : (guard p : Option Unit) = some () :=
  if_pos h

theorem exactly?_append (length : digits.length = count) (isDigit : ∀ c ∈ digits, c.isDigit = true)
    : exactly? count (digits ++ rest) = some (Text.digitsValue digits, rest) := by
  subst length
  have all : digits.all Char.isDigit = true := List.all_eq_true.mpr isDigit
  simp [exactly?, all]

/-- A numeral is read as far as its digits go, if no more of them are read than that. -/
theorem atMost?_append (nonempty : digits ≠ []) (length : digits.length ≤ count)
    (isDigit : ∀ c ∈ digits, c.isDigit = true) (ends : ∀ c ∈ rest.head?, c.isDigit = false)
    : atMost? count (digits ++ rest) = some (Text.digitsValue digits, rest) := by
  have stop : ∀ c ∈ (rest.take (count - digits.length)).head?, c.isDigit = false := by
    intro c first
    refine ends c ?_
    rw [List.head?_take] at first
    split at first
    · cases first
    · exact first
  have run : ((digits ++ rest).take count).takeWhile Char.isDigit = digits := by
    rw [List.take_append, List.take_of_length_le length]
    exact (Text.span_append isDigit stop).1
  simp [atMost?, run, nonempty]

theorem exactly?_padded (positive : 0 < width) (small : n < 10 ^ width)
    : exactly? width ((Text.padded width n).toList ++ rest) = some (n, rest) := by
  rw [exactly?_append (Text.length_padded positive small) fun _ => Text.isDigit_of_mem_padded,
    Text.digitsValue_padded]

theorem atMost?_padded (length : (Text.padded width n).toList.length ≤ count)
    (ends : ∀ c ∈ rest.head?, c.isDigit = false)
    : atMost? count ((Text.padded width n).toList ++ rest) = some (n, rest) := by
  rw [atMost?_append (Text.padded_ne_nil width n) length (fun _ => Text.isDigit_of_mem_padded) ends,
    Text.digitsValue_padded]

/-- A padded numeral starts with a digit. -/
theorem exists_padded_eq_cons (width n : Nat)
    : ∃ c digits, c.isDigit = true ∧ (Text.padded width n).toList = c :: digits := by
  cases shape : (Text.padded width n).toList with
  | nil => exact (Text.padded_ne_nil width n shape).elim
  | cons c digits =>
      exact ⟨c, digits, Text.isDigit_of_mem_padded (by rw [shape]; exact List.mem_cons_self), rfl⟩

/-- No blank stands in front of a numeral. -/
theorem dropWhile_isBlank_padded (width n : Nat) (rest : List Char)
    : ((Text.padded width n).toList ++ rest).dropWhile Text.isBlank
      = (Text.padded width n).toList ++ rest := by
  obtain ⟨c, digits, isDigit, shape⟩ := exists_padded_eq_cons width n
  simp [shape, Text.isBlank_of_isDigit isDigit]

end

-----------------------------------------------------------------------------------------
-- Days
-----------------------------------------------------------------------------------------

namespace Date

theorem year?_yearText (year : Int) (rest : List Char)
    : year? ((yearText year).toList ++ '-' :: rest) = some (year, '-' :: rest) := by
  have ends : ∀ c ∈ ('-' :: rest).head?, c.isDigit = false := by
    rintro _ ⟨⟩
    decide
  rw [toList_yearText]
  split
  · rename_i plain
    have short : (Text.padded 4 year.natAbs).toList.length ≤ 4 :=
      Nat.le_of_eq (Text.length_padded (by decide) (by omega))
    obtain ⟨c, digits, isDigit, shape⟩ := exists_padded_eq_cons 4 year.natAbs
    have number := atMost?_padded short ends
    rw [shape] at number ⊢
    unfold year?
    split
    · rename_i same
      cases same
      cases isDigit
    · rename_i same
      cases same
      cases isDigit
    · have size : (year.natAbs : Int) = year := by omega
      simp only [number, Option.map_some, size]
  · have whole : (Text.padded 4 year.natAbs).toList.length
        ≤ ((Text.padded 4 year.natAbs).toList ++ '-' :: rest).length := by
      simp
    have number := atMost?_padded whole ends
    unfold yearSign
    split
    · have size : -(year.natAbs : Int) = year := by omega
      simp only [List.cons_append, year?, number, Option.map_some, size]
    · have size : (year.natAbs : Int) = year := by omega
      simp only [List.cons_append, year?, number, Option.map_some, size]

/-- No blank stands in front of a year. -/
theorem dropWhile_isBlank_yearText (year : Int) (rest : List Char)
    : ((yearText year).toList ++ rest).dropWhile Text.isBlank = (yearText year).toList ++ rest := by
  have sign : Text.isBlank (yearSign year) = false := by
    unfold yearSign
    split <;> decide
  rw [toList_yearText]
  split
  · exact dropWhile_isBlank_padded _ _ _
  · rw [List.cons_append, List.dropWhile_cons_of_neg (by simp [sign])]

theorem isValid_iff {date : Date}
    : date.isValid = true ↔ minYear ≤ date.year ∧ date.year ≤ maxYear ∧ date.IsDay := by
  simp only [isValid, Bool.and_eq_true, decide_eq_true_eq]
  constructor
  · rintro ⟨⟨⟨⟨⟨lower, upper⟩, first⟩, last⟩, positive⟩, within⟩
    exact ⟨lower, upper, ⟨first, last⟩, positive, within⟩
  · rintro ⟨lower, upper, ⟨first, last⟩, positive, within⟩
    exact ⟨⟨⟨⟨⟨lower, upper⟩, first⟩, last⟩, positive⟩, within⟩

theorem IsDay.isShort {date : Date} (h : date.IsDay) : date.IsShort := by
  obtain ⟨month, day, within⟩ := h
  rw [le_daysInMonth_iff] at within
  exact ⟨by omega, by omega, by omega, by omega⟩

/-- A day that exists is read from its text as its midnight. -/
theorem day?_text {date : Date} (valid : date.isValid = true)
    : day? date.text.toList = some (.midnight date.toDayNumber) := by
  obtain ⟨-, -, isDay⟩ := isValid_iff.mp valid
  obtain ⟨month, monthShort, day, dayShort⟩ := isDay.isShort
  have twoDigits {n : Int} (nonneg : 0 ≤ n) (small : n < 100)
      : (Text.padded 2 n.natAbs).toList.length ≤ 2 :=
    Nat.le_of_eq (Text.length_padded (by decide) (by omega))
  have ends (rest : List Char) : ∀ c ∈ ('-' :: rest).head?, c.isDigit = false := by
    rintro _ ⟨⟩
    decide
  have readMonth (rest : List Char) :=
    atMost?_padded (twoDigits month monthShort) (ends rest)
  have readDay := atMost?_padded (twoDigits day dayShort)
    (by simp : ∀ c ∈ ([] : List Char).head?, c.isDigit = false)
  have noBlank := dropWhile_isBlank_padded 2 date.day.natAbs []
  rw [List.append_nil] at readDay noBlank
  have whole : (⟨date.year, date.month.natAbs, date.day.natAbs⟩ : Date) = date := by
    rw [Int.natAbs_of_nonneg month, Int.natAbs_of_nonneg day]
  rw [toList_text, monthAndDay, day?, dropWhile_isBlank_yearText]
  refine (bind_of_eq_some (year?_yearText _ _)).trans ?_
  refine (bind_of_eq_some (skip?_cons _ _)).trans ?_
  dsimp only
  rw [dropWhile_isBlank_padded]
  refine (bind_of_eq_some (readMonth _)).trans ?_
  refine (bind_of_eq_some (skip?_cons _ _)).trans ?_
  dsimp only
  rw [noBlank]
  refine (bind_of_eq_some readDay).trans ?_
  dsimp only
  rw [whole]
  exact bind_of_eq_some (guard_of ⟨rfl, valid⟩)

/-- The text of a day is no time stamp: it ends too early or starts with a sign. -/
theorem timeStamp?_text {date : Date} (isDay : date.IsDay)
    : timeStamp? date.text.toList = none := by
  obtain ⟨month, monthShort, day, dayShort⟩ := isDay.isShort
  have readMonth (rest : List Char) : exactly? 2 ((Text.padded 2 date.month.natAbs).toList ++ rest)
      = some (date.month.natAbs, rest) :=
    exactly?_padded (by decide) (by omega)
  have readDay : exactly? 2 (Text.padded 2 date.day.natAbs).toList
      = some (date.day.natAbs, []) := by
    have read : exactly? 2 ((Text.padded 2 date.day.natAbs).toList ++ [])
        = some (date.day.natAbs, []) :=
      exactly?_padded (by decide) (by omega)
    rwa [List.append_nil] at read
  rw [toList_text, toList_yearText, monthAndDay]
  split
  · rename_i plain
    have readYear (rest : List Char) : exactly? 4 ((Text.padded 4 date.year.natAbs).toList ++ rest)
        = some (date.year.natAbs, rest) :=
      exactly?_padded (by decide) (by omega)
    rw [timeStamp?]
    refine (bind_of_eq_some (readYear _)).trans ?_
    refine (bind_of_eq_some (skip?_cons _ _)).trans ?_
    refine (bind_of_eq_some (readMonth _)).trans ?_
    refine (bind_of_eq_some (skip?_cons _ _)).trans ?_
    exact bind_of_eq_some readDay
  · have noYear (rest : List Char) : exactly? 4 (yearSign date.year :: rest) = none := by
      simp only [exactly?, List.take_succ_cons, List.all_cons, isDigit_yearSign, Bool.false_and,
        Bool.and_false, Bool.false_eq_true, if_false]
    rw [List.cons_append, timeStamp?, noYear]
    rfl

end Date

-----------------------------------------------------------------------------------------
-- Time stamps
-----------------------------------------------------------------------------------------

namespace Instant

/-- A fraction of a second is read from its digits. -/
theorem fraction?_fractionText {nanos : Nat} (small : nanos < nanosPerSecond) (rest : List Char)
    : fraction? ((fractionText nanos).toList ++ '+' :: rest) = some (nanos, '+' :: rest) := by
  rcases fractionText_cases small with ⟨rfl, blank⟩ | ⟨width, step, n, unit, rfl, length, digits⟩
  · rw [blank]
    rfl
  · have run : Text.spanDigits ((Text.padded width n).toList ++ '+' :: rest)
        = ((Text.padded width n).toList, '+' :: rest) :=
      Text.spanDigits_append (fun _ => Text.isDigit_of_mem_padded) (by rintro _ ⟨⟩; decide)
    have scale : width ≤ 9 ∧ 10 ^ (9 - width) = step := by
      simp only [List.mem_cons, Prod.mk.injEq, List.not_mem_nil, or_false] at unit
      rcases unit with ⟨rfl, rfl⟩ | ⟨rfl, rfl⟩ | ⟨rfl, rfl⟩ <;> decide
    have kept : (Text.padded width n).toList.take 9 = (Text.padded width n).toList :=
      List.take_of_length_le (by omega)
    have nonempty := Text.padded_ne_nil width n
    rw [digits]
    simp [fraction?, run, kept, nonempty, length, scale.2, Text.digitsValue_padded]

/-- A time of day is read from what is written of it, unless it lies in a leap second within a
minute.
-/
theorem timeOfDay?_shown {instant : Instant}
    (full : instant.nanosecond < nanosPerSecond ∨ instant.second % 60 = 59)
    : timeOfDay? (instant.second / 3600) (instant.second / 60 % 60) instant.shownSecond
        instant.shownNanos
      = some (instant.second, instant.nanosecond) := by
  have day := instant.second_lt
  unfold secondsPerDay at day
  have fields : instant.second / 3600 < 24 ∧ instant.second / 60 % 60 < 60
      ∧ instant.shownSecond ≤ 60 := by
    unfold shownSecond
    refine ⟨by omega, by omega, ?_⟩
    split <;> omega
  rw [timeOfDay?, if_pos fields]
  by_cases leap : nanosPerSecond ≤ instant.nanosecond
  · have last : instant.second % 60 = 59 := by omega
    have shown : instant.shownSecond = 60 := by rw [shownSecond, if_pos leap, last]
    rw [if_pos shown, shownNanos, if_pos leap]
    refine congrArg some (Prod.ext ?_ ?_) <;> simp only <;> omega
  · have shown : instant.shownSecond = instant.second % 60 := by
      rw [shownSecond, if_neg leap, Nat.add_zero]
    have ordinary : instant.shownSecond ≠ 60 := by omega
    rw [if_neg ordinary, shownNanos, if_neg leap, shown]
    refine congrArg some (Prod.ext ?_ rfl)
    simp only
    omega

/-- An instant is found by its seconds since the start of 1970, unless it lies in a leap second
within a minute.
-/
theorem ofSeconds?_seconds {instant : Instant}
    (full : instant.nanosecond < nanosPerSecond ∨ instant.second % 60 = 59)
    : ofSeconds? (instant.dayNumber * secondsPerDay + instant.second) instant.nanosecond
      = some instant := by
  obtain ⟨dayNumber, second, nanosecond, inDay, bound⟩ := instant
  replace full : nanosecond < nanosPerSecond ∨ second % 60 = 59 ∧ nanosecond < 2 * nanosPerSecond :=
    full.imp_right fun last => ⟨last, bound⟩
  have day : (dayNumber * secondsPerDay + second) / secondsPerDay = dayNumber := by
    unfold secondsPerDay at *
    omega
  have ofDay : ((dayNumber * secondsPerDay + second) % secondsPerDay).toNat = second := by
    unfold secondsPerDay at *
    omega
  simp only [ofSeconds?, day, ofDay, dif_pos full]

/-- What is found by its seconds lies in no leap second within a minute. -/
theorem asWritten_of_ofSeconds? {seconds : Int} {nanosecond : Nat} {instant : Instant}
    (found : ofSeconds? seconds nanosecond = some instant)
    : instant.asWritten = instant := by
  unfold ofSeconds? at found
  split at found
  · rename_i full
    cases found
    exact asWritten_eq_self (full.imp_right And.left)
  · cases found

/-- Nor does what is read from a time stamp. -/
theorem asWritten_of_ofTimeStamp? {text : String} {instant : Instant}
    (read : ofTimeStamp? text = some instant)
    : instant.asWritten = instant := by
  unfold ofTimeStamp? timeStamp? at read
  -- All but the last of the steps only take characters off the front.
  repeat obtain ⟨_, read⟩ := exists_of_bind_eq_some read
  exact asWritten_of_ofSeconds? read

/-- An instant is read from its text if its year has four digits, unless it lies in a leap second
within a minute.
-/
theorem timeStamp?_text {instant : Instant}
    (full : instant.nanosecond < nanosPerSecond ∨ instant.second % 60 = 59)
    (valid : instant.date.isValid = true)
    (fourDigits : 0 ≤ instant.date.year ∧ instant.date.year ≤ 9999)
    : timeStamp? instant.text.toList = some instant := by
  have inDay := instant.second_lt
  unfold secondsPerDay at inDay
  obtain ⟨month, monthShort, day, dayShort⟩ := instant.isShort_date
  have twoDigits {n : Nat} (small : n < 100) (rest : List Char)
      : exactly? 2 ((Text.padded 2 n).toList ++ rest) = some (n, rest) :=
    exactly?_padded (by decide) small
  have readYear (rest : List Char)
      : exactly? 4 ((Text.padded 4 instant.date.year.natAbs).toList ++ rest)
        = some (instant.date.year.natAbs, rest) :=
    exactly?_padded (by decide) (by omega)
  have readMonth := twoDigits (by omega : instant.date.month.natAbs < 100)
  have readDay := twoDigits (by omega : instant.date.day.natAbs < 100)
  have readHour := twoDigits (by omega : instant.second / 3600 < 100)
  have readMinute := twoDigits (by omega : instant.second / 60 % 60 < 100)
  have readSecond := twoDigits instant.shownSecond_lt
  have readNanos : fraction? ((fractionText instant.shownNanos).toList ++ "+00:00".toList)
      = some (instant.shownNanos, "+00:00".toList) :=
    fraction?_fractionText instant.shownNanos_lt "00:00".toList
  have noZone : zone? "+00:00".toList = some 0 := by decide
  have wholeDay : Date.mk instant.date.year.natAbs instant.date.month.natAbs instant.date.day.natAbs
      = instant.date := by
    rw [Int.natAbs_of_nonneg fourDigits.1, Int.natAbs_of_nonneg month, Int.natAbs_of_nonneg day]
  have number : instant.date.toDayNumber = instant.dayNumber :=
    Date.toDayNumber_ofDayNumber instant.dayNumber
  rw [toList_text, Date.toList_text, Date.toList_yearText, if_pos fourDigits, Date.monthAndDay]
  simp only [List.append_assoc, List.cons_append]
  rw [timeStamp?]
  refine (bind_of_eq_some (readYear _)).trans ?_
  refine (bind_of_eq_some (skip?_cons _ _)).trans ?_
  refine (bind_of_eq_some (readMonth _)).trans ?_
  refine (bind_of_eq_some (skip?_cons _ _)).trans ?_
  refine (bind_of_eq_some (readDay _)).trans ?_
  refine (bind_of_eq_some List.head?_cons).trans ?_
  refine (bind_of_eq_some (guard_of (.inl rfl))).trans ?_
  refine (bind_of_eq_some (readHour _)).trans ?_
  refine (bind_of_eq_some (skip?_cons _ _)).trans ?_
  refine (bind_of_eq_some (readMinute _)).trans ?_
  refine (bind_of_eq_some (skip?_cons _ _)).trans ?_
  refine (bind_of_eq_some (readSecond _)).trans ?_
  refine (bind_of_eq_some readNanos).trans ?_
  refine (bind_of_eq_some noZone).trans ?_
  dsimp only
  rw [wholeDay, number]
  refine (bind_of_eq_some (guard_of valid)).trans ?_
  refine (bind_of_eq_some (timeOfDay?_shown full)).trans ?_
  rw [Int.sub_zero]
  exact ofSeconds?_seconds full

-----------------------------------------------------------------------------------------
-- Texts as values
-----------------------------------------------------------------------------------------

/-- Characters that are not blank are all kept. -/
theorem trim_of_noBlank {chars : List Char} (h : ∀ c ∈ chars, Text.isBlank c = false)
    : Text.trim chars = chars :=
  Text.trim_eq_self (fun c first => h c (List.mem_of_mem_head? first))
    fun c last => h c (List.mem_of_mem_getLast? last)

theorem isBlank_of_mem_padded {width n : Nat} {c : Char}
    (member : c ∈ (Text.padded width n).toList)
    : Text.isBlank c = false :=
  Text.isBlank_of_isDigit (Text.isDigit_of_mem_padded member)

theorem isBlank_of_mem_date_text {date : Date} {c : Char} (member : c ∈ date.text.toList)
    : Text.isBlank c = false := by
  have sign : Text.isBlank (Date.yearSign date.year) = false := by
    unfold Date.yearSign
    split <;> decide
  have year {c : Char} (member : c ∈ (Date.yearText date.year).toList)
      : Text.isBlank c = false := by
    rw [Date.toList_yearText] at member
    split at member
    · exact isBlank_of_mem_padded member
    · rcases List.mem_cons.mp member with rfl | member
      · exact sign
      · exact isBlank_of_mem_padded member
  simp only [Date.toList_text, Date.monthAndDay, List.mem_append, List.mem_cons] at member
  rcases member with member | rfl | member | rfl | member
  · exact year member
  · decide
  · exact isBlank_of_mem_padded member
  · decide
  · exact isBlank_of_mem_padded member

theorem isBlank_of_mem_text {instant : Instant} {c : Char} (member : c ∈ instant.text.toList)
    : Text.isBlank c = false := by
  have fraction {c : Char} (member : c ∈ (fractionText instant.shownNanos).toList)
      : Text.isBlank c = false := by
    rcases fractionText_cases instant.shownNanos_lt with ⟨-, blank⟩ | ⟨width, _, n, -, -, -, digits⟩
    · simp [blank] at member
    · rw [digits, String.toList_append] at member
      rcases List.mem_cons.mp member with rfl | member
      · decide
      · exact isBlank_of_mem_padded member
  have zone : "+00:00".toList.all (fun c => !Text.isBlank c) = true := rfl
  simp only [toList_text, List.mem_append, List.mem_cons] at member
  rcases member with member | rfl | member | rfl | member | rfl | member | member | member
  · exact isBlank_of_mem_date_text member
  · decide
  · exact isBlank_of_mem_padded member
  · decide
  · exact isBlank_of_mem_padded member
  · decide
  · exact isBlank_of_mem_padded member
  · exact fraction member
  · simpa using List.all_eq_true.mp zone c member

/-- The date of a represented instant is the day of a represented year. -/
theorem isValid_date {instant : Instant} (represented : instant.isRepresented = true)
    : instant.date.isValid = true := by
  have isDay : instant.date.IsDay := Date.isDay_ofDayNumber instant.dayNumber
  have number : instant.date.toDayNumber = instant.dayNumber :=
    Date.toDayNumber_ofDayNumber instant.dayNumber
  have first : Date.IsDay ⟨minYear, 1, 1⟩ := ⟨by decide, by decide⟩
  have last : Date.IsDay ⟨maxYear, 12, 31⟩ := ⟨by decide, by decide⟩
  simp only [isRepresented, Bool.and_eq_true, decide_eq_true_eq] at represented
  refine Date.isValid_iff.mpr ⟨?_, ?_, isDay⟩
  · by_contra before
    have := isDay.toDayNumber_lt first (Int.not_le.mp before)
    omega
  · by_contra after
    have := last.toDayNumber_lt isDay (Int.not_le.mp after)
    omega

/-- The text of the date of an instant is read as the midnight of its day. -/
theorem ofJson?_date_text {instant : Instant} (represented : instant.isRepresented = true)
    : ofJson? (.string instant.date.text) = some (.midnight instant.dayNumber) := by
  have valid := isValid_date represented
  have isDay : instant.date.IsDay := Date.isDay_ofDayNumber instant.dayNumber
  have number : instant.date.toDayNumber = instant.dayNumber :=
    Date.toDayNumber_ofDayNumber instant.dayNumber
  simp only [ofJson?, trim_of_noBlank fun _ => isBlank_of_mem_date_text,
    Date.timeStamp?_text isDay, Date.day?_text valid, number, Option.none_or]

/-- The text of an instant is read as what the instant is written as, if its year has four digits.
-/
theorem ofJson?_text {instant : Instant} (represented : instant.isRepresented = true)
    (fourDigits : 0 ≤ instant.date.year ∧ instant.date.year ≤ 9999)
    : ofJson? (.string instant.text) = some instant.asWritten := by
  have valid : instant.asWritten.date.isValid = true := by
    rw [date_asWritten]
    exact isValid_date represented
  have read := timeStamp?_text instant.full_or_leap_asWritten valid (by rwa [date_asWritten])
  rw [text_asWritten] at read
  simp only [ofJson?, trim_of_noBlank fun _ => isBlank_of_mem_text, read, Option.some_or]

end Instant

end FormWizard.Calendar
