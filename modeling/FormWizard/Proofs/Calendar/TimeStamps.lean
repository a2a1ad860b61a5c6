import FormWizard.Calendar.Instant
import FormWizard.Proofs.Calendar.Days
import FormWizard.Proofs.Text.Numerals
import Mathlib.Data.List.Basic

/-! The text of an instant determines the instant: its day, the second of the day and the part of
that second, leap seconds at the end of a minute included. Only a leap second within a minute, which
no calendar has, shares its text with another second.
-/

namespace FormWizard.Calendar

namespace Date

theorem ne_of_mem_padded {width n : Nat} {c sign : Char} (h : sign.isDigit = false)
    (member : c ∈ (Text.padded width n).toList)
    : c ≠ sign := by
  rintro rfl
  rw [Text.isDigit_of_mem_padded member] at h
  cases h

/-- The sign of a year that is written with one. -/
def yearSign (year : Int) : Char :=
  if year < 0 then '-' else '+'

theorem isDigit_yearSign (year : Int) : (yearSign year).isDigit = false := by
  unfold yearSign
  split <;> decide

theorem toList_yearText (year : Int)
    : (yearText year).toList
      = if 0 ≤ year ∧ year ≤ 9999 then (Text.padded 4 year.natAbs).toList
        else yearSign year :: (Text.padded 4 year.natAbs).toList := by
  unfold yearText yearSign
  split
  · rfl
  · split <;> simp

theorem yearText_injective : Function.Injective yearText := by
  have plain (year : Int) (rest : List Char) (sign : Char) (h : sign.isDigit = false)
      : (Text.padded 4 year.natAbs).toList ≠ sign :: rest :=
    fun same => ne_of_mem_padded h (by rw [same]; exact List.mem_cons_self) rfl
  have size (year other : Int)
      (same : (Text.padded 4 year.natAbs).toList = (Text.padded 4 other.natAbs).toList)
      : year.natAbs = other.natAbs :=
    Text.padded_injective 4 (String.toList_injective same)
  intro year other same
  replace same := congrArg String.toList same
  rw [toList_yearText, toList_yearText] at same
  split at same <;> split at same
  · have := size _ _ same
    omega
  · exact (plain _ _ _ (isDigit_yearSign other) same).elim
  · exact (plain _ _ _ (isDigit_yearSign year) same.symm).elim
  · obtain ⟨sign, digits⟩ := List.cons.inj same
    have := size _ _ digits
    by_cases before : year < 0 <;> by_cases otherBefore : other < 0 <;>
      simp [yearSign, before, otherBefore] at sign <;> omega

/-- A day of a month, which two digits suffice for. -/
def IsShort (date : Date) : Prop :=
  0 ≤ date.month ∧ date.month < 100 ∧ 0 ≤ date.day ∧ date.day < 100

/-- What follows the year in the text of a day. -/
def monthAndDay (date : Date) : List Char :=
  '-' :: ((Text.padded 2 date.month.natAbs).toList
    ++ '-' :: (Text.padded 2 date.day.natAbs).toList)

theorem toList_text (date : Date)
    : date.text.toList = (yearText date.year).toList ++ date.monthAndDay := by
  simp [text, monthAndDay]

theorem length_monthAndDay {date : Date} (h : date.IsShort) : date.monthAndDay.length = 6 := by
  obtain ⟨_, month, _, day⟩ := h
  simp [monthAndDay, Text.length_padded (by decide : 0 < 2) (by omega : date.month.natAbs < 10 ^ 2),
    Text.length_padded (by decide : 0 < 2) (by omega : date.day.natAbs < 10 ^ 2)]

/-- Days of months with the same text are the same. -/
theorem eq_of_text_eq {date other : Date} (h : date.IsShort) (otherShort : other.IsShort)
    (same : date.text.toList = other.text.toList)
    : date = other := by
  rw [toList_text, toList_text] at same
  obtain ⟨years, rest⟩ :=
    List.append_inj' same (by rw [length_monthAndDay h, length_monthAndDay otherShort])
  obtain ⟨_, month, _, day⟩ := h
  obtain ⟨_, otherMonth, _, otherDay⟩ := otherShort
  obtain ⟨months, days⟩ := List.append_inj (List.cons.inj rest).2 (by
    rw [Text.length_padded (by decide : 0 < 2) (by omega : date.month.natAbs < 10 ^ 2),
      Text.length_padded (by decide : 0 < 2) (by omega : other.month.natAbs < 10 ^ 2)])
  have year := yearText_injective (String.toList_injective years)
  have months := Text.padded_injective 2 (String.toList_injective months)
  have days := Text.padded_injective 2 (String.toList_injective (List.cons.inj days).2)
  obtain ⟨_, _, _⟩ := date
  obtain ⟨_, _, _⟩ := other
  simp only [mk.injEq] at *
  omega

/-- No letter stands in the text of a day. -/
theorem letter_notMem_text (date : Date) : 'T' ∉ date.text.toList := by
  have padded (width n : Nat) : 'T' ∉ (Text.padded width n).toList :=
    fun member => absurd rfl (ne_of_mem_padded (by decide : 'T'.isDigit = false) member)
  have sign (year : Int) : 'T' ≠ yearSign year := by
    unfold yearSign
    split <;> decide
  rw [toList_text, toList_yearText, monthAndDay]
  split <;> simp [padded, sign]

end Date

namespace Instant

/-- The second of the minute that is written. -/
def shownSecond (instant : Instant) : Nat :=
  instant.second % 60 + if nanosPerSecond ≤ instant.nanosecond then 1 else 0

/-- The nanoseconds that are written, those after the last full second. -/
def shownNanos (instant : Instant) : Nat :=
  if nanosPerSecond ≤ instant.nanosecond then instant.nanosecond - nanosPerSecond
  else instant.nanosecond

theorem toList_text (instant : Instant)
    : instant.text.toList
      = instant.date.text.toList
        ++ 'T' :: ((Text.padded 2 (instant.second / 3600)).toList
          ++ ':' :: ((Text.padded 2 (instant.second / 60 % 60)).toList
            ++ ':' :: ((Text.padded 2 instant.shownSecond).toList
              ++ ((fractionText instant.shownNanos).toList ++ "+00:00".toList)))) := by
  simp [text, localText, shownSecond, shownNanos]

/-- The number of digits of a fraction and the nanoseconds that one step of its last digit is. -/
theorem fractionText_cases {nanos : Nat} (small : nanos < nanosPerSecond)
    : nanos = 0 ∧ fractionText nanos = ""
      ∨ ∃ width step n, (width, step) ∈ [(3, 1000000), (6, 1000), (9, 1)]
        ∧ nanos = n * step ∧ (Text.padded width n).toList.length = width
        ∧ fractionText nanos = "." ++ Text.padded width n := by
  unfold nanosPerSecond at small
  unfold fractionText
  split
  · exact .inl ⟨‹_›, rfl⟩
  · right
    split
    · exact ⟨3, 1000000, nanos / 1000000, by simp, by omega,
        Text.length_padded (by decide) (by omega), rfl⟩
    · split
      · exact ⟨6, 1000, nanos / 1000, by simp, by omega,
          Text.length_padded (by decide) (by omega), rfl⟩
      · exact ⟨9, 1, nanos, by simp, by omega, Text.length_padded (by decide) (by omega), rfl⟩

/-- A fraction of a second determines the nanoseconds. -/
theorem fractionText_inj {nanos other : Nat} (small : nanos < nanosPerSecond)
    (otherSmall : other < nanosPerSecond) (same : fractionText nanos = fractionText other)
    : nanos = other := by
  rcases fractionText_cases small with ⟨rfl, blank⟩ | ⟨width, step, n, unit, rfl, length, digits⟩
  · rcases fractionText_cases otherSmall with ⟨rfl, -⟩ | ⟨width, step, m, -, -, -, digits⟩
    · rfl
    · rw [blank, digits] at same
      simpa using congrArg String.toList same
  · rcases fractionText_cases otherSmall
      with ⟨-, blank⟩ | ⟨width', step', m, unit', rfl, length', digits'⟩
    · rw [digits, blank] at same
      simpa using congrArg String.toList same
    · rw [digits, digits'] at same
      have tails : Text.padded width n = Text.padded width' m :=
        (String.append_right_inj _).mp same
      have widths : width = width' := by rw [← length, ← length', tails]
      subst widths
      have steps : step = step' := by
        simp only [List.mem_cons, Prod.mk.injEq, List.not_mem_nil, or_false] at unit unit'
        omega
      rw [Text.padded_injective width tails, steps]

/-- Two digits determine a number that they suffice for, and so what follows them. -/
theorem padded_append_inj {n m : Nat} {rest more : List Char} (small : n < 100)
    (otherSmall : m < 100)
    (same : (Text.padded 2 n).toList ++ rest = (Text.padded 2 m).toList ++ more)
    : n = m ∧ rest = more := by
  have length {k : Nat} (small : k < 100) : (Text.padded 2 k).toList.length = 2 :=
    Text.length_padded (by decide) small
  obtain ⟨digits, later⟩ := List.append_inj same (by rw [length small, length otherSmall])
  exact ⟨Text.padded_injective 2 (String.toList_injective digits), later⟩

theorem isShort_date (instant : Instant) : instant.date.IsShort := by
  have bounds := Date.ofDayNumber_bounds instant.dayNumber
  unfold date Date.IsShort
  omega

theorem shownSecond_lt (instant : Instant) : instant.shownSecond < 100 := by
  unfold shownSecond
  split <;> omega

theorem shownNanos_lt (instant : Instant) : instant.shownNanos < nanosPerSecond := by
  have bound := instant.nanosecond_lt
  unfold shownNanos
  split <;> omega

-----------------------------------------------------------------------------------------
-- Instants with the same text
-----------------------------------------------------------------------------------------

/-- The instant that the text of an instant stands for. A leap second within a minute is written as
the second after it; any other instant is written as itself.
-/
def asWritten (instant : Instant) : Instant :=
  if inside : nanosPerSecond ≤ instant.nanosecond ∧ instant.second % 60 ≠ 59 then
    { instant with
      second := instant.second + 1
      nanosecond := instant.nanosecond - nanosPerSecond
      second_lt := by
        have := instant.second_lt
        unfold secondsPerDay at *
        omega
      nanosecond_lt := by
        have := instant.nanosecond_lt
        omega }
  else instant

/-- What an instant is written as has a leap second at the end of a minute at most. -/
theorem full_or_leap_asWritten (instant : Instant)
    : instant.asWritten.nanosecond < nanosPerSecond ∨ instant.asWritten.second % 60 = 59 := by
  have bound := instant.nanosecond_lt
  unfold asWritten
  split
  · left
    simp only
    omega
  · omega

theorem asWritten_eq_self {instant : Instant}
    (h : instant.nanosecond < nanosPerSecond ∨ instant.second % 60 = 59)
    : instant.asWritten = instant :=
  dif_neg (by omega)

theorem dayNumber_asWritten (instant : Instant)
    : instant.asWritten.dayNumber = instant.dayNumber := by
  unfold asWritten
  split <;> rfl

theorem date_asWritten (instant : Instant) : instant.asWritten.date = instant.date := by
  rw [date, dayNumber_asWritten, date]

/-- The milliseconds go on through a leap second as through the second after it. -/
theorem milliseconds_asWritten (instant : Instant)
    : instant.asWritten.milliseconds = instant.milliseconds := by
  have full : nanosPerSecond = 1000 * 1000000 := rfl
  unfold milliseconds asWritten
  split
  · simp only
    omega
  · rfl

theorem shownSecond_asWritten (instant : Instant)
    : instant.asWritten.shownSecond = instant.shownSecond := by
  have bound := instant.nanosecond_lt
  unfold shownSecond asWritten
  split
  · simp only
    split <;> split <;> omega
  · rfl

theorem shownNanos_asWritten (instant : Instant)
    : instant.asWritten.shownNanos = instant.shownNanos := by
  have bound := instant.nanosecond_lt
  unfold shownNanos asWritten
  split
  · simp only
    split <;> split <;> omega
  · rfl

theorem text_asWritten (instant : Instant) : instant.asWritten.text = instant.text := by
  have sameMinute : instant.asWritten.second / 60 = instant.second / 60 := by
    unfold asWritten
    split
    · simp only
      omega
    · rfl
  have sameHour : instant.asWritten.second / 3600 = instant.second / 3600 := by
    rw [show 3600 = 60 * 60 by rfl, ← Nat.div_div_eq_div_mul, ← Nat.div_div_eq_div_mul, sameMinute]
  apply String.toList_injective
  rw [toList_text, toList_text, date_asWritten, sameHour, sameMinute, shownSecond_asWritten,
    shownNanos_asWritten]

/-- What is written of the time of day determines it, as only a leap second at the end of a minute
is written as 60.
-/
theorem time_eq_of_shown {instant other : Instant}
    (full : instant.nanosecond < nanosPerSecond ∨ instant.second % 60 = 59)
    (otherFull : other.nanosecond < nanosPerSecond ∨ other.second % 60 = 59)
    (hours : instant.second / 3600 = other.second / 3600)
    (minutes : instant.second / 60 % 60 = other.second / 60 % 60)
    (seconds : instant.shownSecond = other.shownSecond)
    (nanos : instant.shownNanos = other.shownNanos)
    : instant.second = other.second ∧ instant.nanosecond = other.nanosecond := by
  unfold shownSecond at seconds
  unfold shownNanos at nanos
  by_cases leap : nanosPerSecond ≤ instant.nanosecond <;>
    by_cases otherLeap : nanosPerSecond ≤ other.nanosecond <;>
    simp only [leap, otherLeap, if_true, if_false] at seconds nanos <;> omega

/-- Instants with the same text are the same if none lies in a leap second within a minute. -/
theorem eq_of_text_eq {instant other : Instant}
    (full : instant.nanosecond < nanosPerSecond ∨ instant.second % 60 = 59)
    (otherFull : other.nanosecond < nanosPerSecond ∨ other.second % 60 = 59)
    (same : instant.text = other.text)
    : instant = other := by
  replace same := congrArg String.toList same
  rw [toList_text, toList_text] at same
  obtain ⟨dates, clocks⟩ :=
    Text.append_cons_inj (Date.letter_notMem_text _) (Date.letter_notMem_text _) same
  have days := Date.ofDayNumber_injective
    (Date.eq_of_text_eq instant.isShort_date other.isShort_date dates)
  have hour := instant.second_lt
  have otherHour := other.second_lt
  unfold secondsPerDay at hour otherHour
  obtain ⟨hours, rest⟩ := padded_append_inj (by omega) (by omega) clocks
  obtain ⟨minutes, rest⟩ := padded_append_inj (by omega) (by omega) (List.cons.inj rest).2
  obtain ⟨seconds, rest⟩ :=
    padded_append_inj instant.shownSecond_lt other.shownSecond_lt (List.cons.inj rest).2
  have nanos := fractionText_inj instant.shownNanos_lt other.shownNanos_lt
    (String.toList_injective (List.append_cancel_right rest))
  obtain ⟨second, nanosecond⟩ := time_eq_of_shown full otherFull hours minutes seconds nanos
  cases instant
  cases other
  cases days
  cases second
  cases nanosecond
  rfl

/-- Instants have the same text just in case they are written as one instant. -/
theorem text_eq_iff {instant other : Instant}
    : instant.text = other.text ↔ instant.asWritten = other.asWritten := by
  constructor
  · intro same
    rw [← text_asWritten, ← text_asWritten other] at same
    exact eq_of_text_eq instant.full_or_leap_asWritten other.full_or_leap_asWritten same
  · intro same
    rw [← text_asWritten, same, text_asWritten]

end Instant

end FormWizard.Calendar
