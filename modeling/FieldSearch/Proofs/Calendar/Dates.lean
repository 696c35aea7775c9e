import Mathlib
import FieldSearch.Calendar

namespace FieldSearch

/-!
# Dates and their numbers

The number of a date is what counting the days of the calendar gives. 1970-01-01 has
number zero, and the date after another one has the next number. Each number belongs
to exactly one date of the calendar, and the numbers of dates are in the order of the
dates.
-/

namespace Calendar

theorem isLeapYear_iff (year : Int) :
    isLeapYear year = true ↔ year % 4 = 0 ∧ (year % 100 ≠ 0 ∨ year % 400 = 0) := by
  simp [isLeapYear]

theorem sum_monthLengths (year : Int) :
    (monthLengths year).sum = if isLeapYear year then 366 else 365 := by
  unfold monthLengths
  split <;> rfl

theorem daysBeforeYear_add_one (year : Int) :
    daysBeforeYear (year + 1) = daysBeforeYear year + (monthLengths year).sum := by
  rw [sum_monthLengths]
  unfold daysBeforeYear
  split
  · next leap =>
      rw [isLeapYear_iff] at leap
      omega
  · next common =>
      rw [isLeapYear_iff] at common
      omega

theorem daysBeforeYear_le
    {left right : Int}
    (notLater : left ≤ right) :
    daysBeforeYear left ≤ daysBeforeYear right := by
  unfold daysBeforeYear
  omega

/-- The year of a day holds it: the guess is off by one year at most. -/
theorem yearOfDay_spec (day : Int) :
    daysBeforeYear (yearOfDay day) ≤ day ∧ day < daysBeforeYear (yearOfDay day + 1) := by
  have below : daysBeforeYear (day * 400 / 146097 - 1) ≤ day := by
    unfold daysBeforeYear
    omega
  have above : day < daysBeforeYear (day * 400 / 146097 + 1 + 1) := by
    unfold daysBeforeYear
    omega
  unfold yearOfDay
  dsimp only
  split
  · next beforeGuess =>
      rw [sub_add_cancel]
      exact ⟨below, beforeGuess⟩
  · next notBefore =>
      split
      · next afterGuess =>
          exact ⟨afterGuess, above⟩
      · next notAfter =>
          exact ⟨not_lt.mp notBefore, not_le.mp notAfter⟩

/-- No other year holds the day. -/
theorem yearOfDay_eq
    {year day : Int}
    (notBefore : daysBeforeYear year ≤ day)
    (notAfter : day < daysBeforeYear (year + 1)) :
    yearOfDay day = year := by
  obtain ⟨yearBefore, yearAfter⟩ := yearOfDay_spec day
  rcases lt_trichotomy (yearOfDay day) year with earlier | same | later
  · have beforeYear := daysBeforeYear_le (Int.add_one_le_iff.mpr earlier)
    omega
  · exact same
  · have afterYear := daysBeforeYear_le (Int.add_one_le_iff.mpr later)
    omega

/-! Months by their place in the year, counted from zero. -/

theorem bounds_of_mem_monthLengths
    {year : Int}
    {length : Nat}
    (member : length ∈ monthLengths year) :
    0 < length ∧ length ≤ 31 := by
  have bounds : ∀ length ∈ monthLengths year, 0 < length ∧ length ≤ 31 := by
    unfold monthLengths
    split <;> decide
  exact bounds length member

theorem getD_monthLengths_pos
    (year : Int)
    {index : Nat}
    (isMonth : index < 12) :
    0 < (monthLengths year).getD index 0 := by
  have found : (monthLengths year)[index]? = some (monthLengths year)[index] :=
    List.getElem?_eq_getElem isMonth
  rw [List.getD, found]
  exact (bounds_of_mem_monthLengths (List.getElem_mem isMonth)).1

theorem getD_monthLengths_le (year : Int) (index : Nat) :
    (monthLengths year).getD index 0 ≤ 31 := by
  cases found : (monthLengths year)[index]? with
  | none =>
      rw [List.getD, found]
      exact Nat.zero_le _
  | some length =>
      rw [List.getD, found]
      exact (bounds_of_mem_monthLengths (List.mem_of_getElem? found)).2

theorem monthLength_add_one (year : Int) (index : Nat) :
    monthLength year (index + 1) = (monthLengths year).getD index 0 := rfl

theorem daysBeforeMonth_add_one (year : Int) (index : Nat) :
    daysBeforeMonth year (index + 1) = ((monthLengths year).take index).sum := by
  rw [daysBeforeMonth, Nat.add_sub_cancel, List.sum_eq_foldl]

theorem sum_take_add_one (lengths : List Nat) (index : Nat) :
    (lengths.take (index + 1)).sum = (lengths.take index).sum + lengths.getD index 0 := by
  rw [List.take_add_one, List.sum_append]
  cases found : lengths[index]? <;> simp [List.getD, found]

theorem sum_take_le (lengths : List Nat) (index : Nat) :
    (lengths.take index).sum ≤ lengths.sum := by
  have parts := congrArg List.sum (List.take_append_drop index lengths)
  rw [List.sum_append] at parts
  omega

theorem sum_take_mono
    (lengths : List Nat)
    {earlier later : Nat}
    (notLater : earlier ≤ later) :
    (lengths.take earlier).sum ≤ (lengths.take later).sum := by
  have within := sum_take_le (lengths.take later) earlier
  rwa [List.take_take, Nat.min_eq_left notLater] at within

/-- A day of a month is a day of the year. -/
theorem sum_take_add_lt
    {lengths : List Nat}
    {index rest : Nat}
    (inMonth : rest < lengths.getD index 0) :
    (lengths.take index).sum + rest < lengths.sum := by
  have next := sum_take_add_one lengths index
  have within := sum_take_le lengths (index + 1)
  omega

/-- A day of a month is found in that month. -/
theorem monthOfDay_eq
    (lengths : List Nat)
    (index rest : Nat)
    (inMonth : rest < lengths.getD index 0) :
    monthOfDay lengths ((lengths.take index).sum + rest) = (index + 1, rest + 1) := by
  induction lengths generalizing index with
  | nil =>
      simp at inMonth
  | cons length lengths inductionHypothesis =>
      cases index with
      | zero =>
          have isFirst : rest < length := inMonth
          simp [monthOfDay, isFirst]
      | succ index =>
          have later := inductionHypothesis index inMonth
          have notFirst : ¬ length + (lengths.take index).sum + rest < length := by
            omega
          have remaining :
              length + (lengths.take index).sum + rest - length =
                (lengths.take index).sum + rest := by
            omega
          simp [monthOfDay, notFirst, remaining, later]

/-- Each day of the year is a day of some month. -/
theorem exists_month
    (lengths : List Nat)
    (days : Nat)
    (inYear : days < lengths.sum) :
    ∃ index rest, rest < lengths.getD index 0 ∧ days = (lengths.take index).sum + rest := by
  induction lengths generalizing days with
  | nil =>
      simp at inYear
  | cons length lengths inductionHypothesis =>
      rw [List.sum_cons] at inYear
      by_cases isFirst : days < length
      · exact ⟨0, days, isFirst, by simp⟩
      · obtain ⟨index, rest, inMonth, isSum⟩ :=
          inductionHypothesis (days - length) (by omega)
        refine ⟨index + 1, rest, inMonth, ?_⟩
        rw [List.take_succ_cons, List.sum_cons]
        omega

end Calendar

namespace Date

open Calendar

/-- The date is one of the calendar, in whatever year. -/
structure InCalendar (date : Date) : Prop where
  month_pos : 1 ≤ date.month
  month_le : date.month ≤ 12
  day_pos : 1 ≤ date.day
  day_le : date.day ≤ monthLength date.year date.month

/-- The date of a day of a month, both counted from zero. -/
def ofPlace (year : Int) (index rest : Nat) : Date :=
  ⟨year, index + 1, rest + 1⟩

theorem inCalendar_ofPlace
    {year : Int}
    {index rest : Nat}
    (inMonth : rest < (monthLengths year).getD index 0) :
    (ofPlace year index rest).InCalendar where
  month_pos := Nat.le_add_left 1 index
  month_le := by
    by_contra afterDecember
    have noMonth : (monthLengths year)[index]? = none :=
      List.getElem?_eq_none (Nat.le_of_lt_succ (Nat.not_le.mp afterDecember))
    rw [List.getD, noMonth] at inMonth
    exact absurd inMonth (Nat.not_lt_zero _)
  day_pos := Nat.le_add_left 1 rest
  day_le := inMonth

theorem InCalendar.exists_place
    {date : Date}
    (inCalendar : date.InCalendar) :
    ∃ index rest,
      rest < (monthLengths date.year).getD index 0 ∧ date = ofPlace date.year index rest := by
  obtain ⟨year, month, day⟩ := date
  obtain ⟨index, rfl⟩ := Nat.exists_eq_add_of_le' inCalendar.month_pos
  obtain ⟨rest, rfl⟩ := Nat.exists_eq_add_of_le' inCalendar.day_pos
  exact ⟨index, rest, inCalendar.day_le, rfl⟩

theorem InCalendar.day_le_31
    {date : Date}
    (inCalendar : date.InCalendar) :
    date.day ≤ 31 := by
  obtain ⟨index, isMonth⟩ := Nat.exists_eq_add_of_le' inCalendar.month_pos
  have inMonth := inCalendar.day_le
  rw [isMonth, monthLength_add_one] at inMonth
  exact Nat.le_trans inMonth (getD_monthLengths_le date.year index)

theorem toDays_ofPlace (year : Int) (index rest : Nat) :
    (ofPlace year index rest).toDays =
      daysBeforeYear year + (((monthLengths year).take index).sum + rest : Nat) - epochDay := by
  rw [toDays, ofPlace]
  dsimp only
  rw [daysBeforeMonth_add_one]
  omega

/-- The number of a date is among those of its year. -/
theorem InCalendar.toDays_bounds
    {date : Date}
    (inCalendar : date.InCalendar) :
    daysBeforeYear date.year ≤ date.toDays + epochDay ∧
      date.toDays + epochDay < daysBeforeYear (date.year + 1) := by
  obtain ⟨index, rest, inMonth, isPlace⟩ := inCalendar.exists_place
  have inYear := sum_take_add_lt inMonth
  have yearEnd := daysBeforeYear_add_one date.year
  have isNumber := toDays_ofPlace date.year index rest
  rw [← isPlace] at isNumber
  omega

/-! Numbers and dates, there and back. -/

theorem ofDays_toDays
    {date : Date}
    (inCalendar : date.InCalendar) :
    ofDays date.toDays = date := by
  obtain ⟨notBefore, notAfter⟩ := inCalendar.toDays_bounds
  have isYear := yearOfDay_eq notBefore notAfter
  obtain ⟨index, rest, inMonth, isPlace⟩ := inCalendar.exists_place
  have isNumber := toDays_ofPlace date.year index rest
  rw [← isPlace] at isNumber
  have isRest :
      (date.toDays + epochDay - daysBeforeYear date.year).toNat =
        ((monthLengths date.year).take index).sum + rest := by
    omega
  simp only [ofDays, isYear, isRest, monthOfDay_eq _ _ _ inMonth]
  exact isPlace.symm

theorem exists_ofDays (days : Int) :
    ∃ year index rest,
      rest < (monthLengths year).getD index 0 ∧ ofDays days = ofPlace year index rest ∧
        (ofPlace year index rest).toDays = days := by
  obtain ⟨notBefore, notAfter⟩ := yearOfDay_spec (days + epochDay)
  have next := daysBeforeYear_add_one (yearOfDay (days + epochDay))
  generalize isYear : yearOfDay (days + epochDay) = year at *
  obtain ⟨index, rest, inMonth, isSum⟩ :=
    exists_month (monthLengths year) (days + epochDay - daysBeforeYear year).toNat (by omega)
  refine ⟨year, index, rest, inMonth, ?_, ?_⟩
  · simp only [ofDays, isYear, isSum, monthOfDay_eq _ _ _ inMonth]
    rfl
  · rw [toDays_ofPlace, ← isSum]
    omega

theorem inCalendar_ofDays (days : Int) :
    (ofDays days).InCalendar := by
  obtain ⟨year, index, rest, inMonth, isPlace, -⟩ := exists_ofDays days
  rw [isPlace]
  exact inCalendar_ofPlace inMonth

@[simp] theorem toDays_ofDays (days : Int) :
    (ofDays days).toDays = days := by
  obtain ⟨year, index, rest, -, isPlace, isNumber⟩ := exists_ofDays days
  rw [isPlace, isNumber]

/-! Counting the days of the calendar. -/

/-- The date that follows: in the month, in the next month or in the next year. -/
def next (date : Date) : Date :=
  if date.day < monthLength date.year date.month then
    { date with day := date.day + 1 }
  else if date.month < 12 then
    ⟨date.year, date.month + 1, 1⟩
  else
    ⟨date.year + 1, 1, 1⟩

/-- The number of days to a date from 1970-01-01, or from it back, by counting dates. -/
inductive Counted : Date → Int → Prop where
  | epoch : Counted ⟨1970, 1, 1⟩ 0
  | forward
      {date : Date}
      {days : Int}
      (inCalendar : date.InCalendar)
      (counted : Counted date days) :
      Counted date.next (days + 1)
  | backward
      {date : Date}
      {days : Int}
      (inCalendar : date.InCalendar)
      (counted : Counted date.next (days + 1)) :
      Counted date days

theorem next_ofPlace (year : Int) (index rest : Nat) :
    (ofPlace year index rest).next =
      if rest + 1 < (monthLengths year).getD index 0 then
        ofPlace year index (rest + 1)
      else if index + 1 < 12 then
        ofPlace year (index + 1) 0
      else
        ofPlace (year + 1) 0 0 := rfl

/-- The date that follows is one of the calendar, and it has the next number. -/
theorem InCalendar.next_spec
    {date : Date}
    (inCalendar : date.InCalendar) :
    date.next.InCalendar ∧ date.next.toDays = date.toDays + 1 := by
  obtain ⟨index, rest, inMonth, isPlace⟩ := inCalendar.exists_place
  have monthEnd := sum_take_add_one (monthLengths date.year) index
  rw [isPlace, next_ofPlace]
  split
  · next inSameMonth =>
      refine ⟨inCalendar_ofPlace inSameMonth, ?_⟩
      rw [toDays_ofPlace, toDays_ofPlace]
      omega
  · next lastOfMonth =>
      split
      · next inSameYear =>
          refine ⟨inCalendar_ofPlace (getD_monthLengths_pos _ inSameYear), ?_⟩
          rw [toDays_ofPlace, toDays_ofPlace, monthEnd]
          omega
      · next lastOfYear =>
          refine ⟨inCalendar_ofPlace (getD_monthLengths_pos _ (by decide)), ?_⟩
          have isDecember : index + 1 = 12 :=
            Nat.le_antisymm (isPlace ▸ inCalendar).month_le (Nat.not_lt.mp lastOfYear)
          have wholeYear : ((monthLengths date.year).take 12).sum = (monthLengths date.year).sum :=
            rfl
          have yearEnd := daysBeforeYear_add_one date.year
          rw [toDays_ofPlace, toDays_ofPlace, yearEnd, ← wholeYear, ← isDecember, monthEnd,
            List.take_zero, List.sum_nil]
          omega

/-- Counting gives the number of a date, and no other one. -/
theorem counted_iff
    {date : Date}
    (inCalendar : date.InCalendar)
    {days : Int} :
    date.Counted days ↔ days = date.toDays := by
  have counts (number : Int) : (ofDays number).Counted number := by
    induction number using Int.induction_on with
    | zero =>
        exact .epoch
    | succ number inductionHypothesis =>
        have isNext : (ofDays number).next = ofDays (number + 1) := by
          obtain ⟨nextInCalendar, isNumber⟩ := (inCalendar_ofDays number).next_spec
          rw [← ofDays_toDays nextInCalendar, isNumber, toDays_ofDays]
        rw [← isNext]
        exact .forward (inCalendar_ofDays number) inductionHypothesis
    | pred number inductionHypothesis =>
        have isNext : (ofDays (-number - 1)).next = ofDays (-number) := by
          obtain ⟨nextInCalendar, isNumber⟩ := (inCalendar_ofDays (-number - 1)).next_spec
          rw [← ofDays_toDays nextInCalendar, isNumber, toDays_ofDays, sub_add_cancel]
        refine .backward (inCalendar_ofDays _) ?_
        rw [isNext, sub_add_cancel]
        exact inductionHypothesis
  constructor
  · intro counted
    induction counted with
    | epoch =>
        rfl
    | forward dateInCalendar _ inductionHypothesis =>
        rw [dateInCalendar.next_spec.2, inductionHypothesis dateInCalendar]
    | backward dateInCalendar _ inductionHypothesis =>
        have isNumber := inductionHypothesis dateInCalendar.next_spec.1
        rw [dateInCalendar.next_spec.2] at isNumber
        exact add_right_cancel isNumber
  · rintro rfl
    rw [← ofDays_toDays inCalendar, toDays_ofDays]
    exact counts _

/-! Dates in order. -/

/-- A date of an earlier year, or of an earlier month of the year, or day of the month. -/
def Before (left right : Date) : Prop :=
  left.year < right.year ∨
    left.year = right.year ∧
      (left.month < right.month ∨ left.month = right.month ∧ left.day < right.day)

/-- Earlier dates have smaller numbers. -/
theorem Before.toDays_lt
    {left right : Date}
    (before : left.Before right)
    (leftInCalendar : left.InCalendar)
    (rightInCalendar : right.InCalendar) :
    left.toDays < right.toDays := by
  rcases before with earlierYear | ⟨sameYear, earlierInYear⟩
  · have leftNotAfter := leftInCalendar.toDays_bounds.2
    have rightNotBefore := rightInCalendar.toDays_bounds.1
    have nextYear := daysBeforeYear_le (Int.add_one_le_iff.mpr earlierYear)
    omega
  · obtain ⟨index, rest, inMonth, isPlace⟩ := leftInCalendar.exists_place
    obtain ⟨otherIndex, otherRest, otherInMonth, isOtherPlace⟩ := rightInCalendar.exists_place
    have monthEnd := sum_take_add_one (monthLengths left.year) index
    rw [isPlace, isOtherPlace] at earlierInYear
    rw [isPlace, isOtherPlace, ← sameYear, toDays_ofPlace, toDays_ofPlace]
    rcases earlierInYear with earlierMonth | ⟨sameMonth, earlierDay⟩
    · have laterMonth : index + 1 ≤ otherIndex := Nat.lt_of_add_lt_add_right earlierMonth
      have monthsPassed := sum_take_mono (monthLengths left.year) laterMonth
      omega
    · have isMonth : index = otherIndex := Nat.add_right_cancel sameMonth
      have isEarlier : rest < otherRest := Nat.lt_of_add_lt_add_right earlierDay
      rw [← isMonth]
      omega

end Date

end FieldSearch
