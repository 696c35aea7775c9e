import FieldSearch.Proofs.Timestamp.Notation
import FieldSearch.Strategy.Scalar

namespace FieldSearch

/-!
# Spellings of points in time

A point in time may be spelled as a date alone, as date and time of day with a mark or
a blank between them, or with an offset from UTC at the end. Each spelling is read as
the point that counting the days of the calendar gives, cut to milliseconds. Spellings
of the same date, time and offset are read as the same point, and an earlier point is
never read as a later one.
-/

/-- An offset from UTC, as it stands at the end of a time of day. -/
inductive Zone where
  | utc
  | ahead (hours minutes : Nat)
  | behind (hours minutes : Nat)
  deriving Repr, DecidableEq

namespace Zone

/-- The numbers are those of hours and minutes. -/
def WellFormed : Zone → Prop
  | utc => True
  | ahead hours minutes => hours < 24 ∧ minutes < 60
  | behind hours minutes => hours < 24 ∧ minutes < 60

/-- Minutes ahead of UTC. -/
def offset : Zone → Int
  | utc => 0
  | ahead hours minutes => hours * 60 + minutes
  | behind hours minutes => -(hours * 60 + minutes)

/-- Hours and minutes with a sign, or the letter that stands for none. -/
def toChars : Zone → List Char
  | utc => ['Z']
  | ahead hours minutes =>
      '+' :: (Numeral.paddedDigits 2 hours ++ ':' :: Numeral.paddedDigits 2 minutes)
  | behind hours minutes =>
      '-' :: (Numeral.paddedDigits 2 hours ++ ':' :: Numeral.paddedDigits 2 minutes)

theorem WellFormed.offset_bounds
    {zone : Zone}
    (wellFormed : zone.WellFormed) :
    -1440 < zone.offset ∧ zone.offset < 1440 := by
  cases zone with
  | utc =>
      decide
  | ahead hours minutes =>
      obtain ⟨hoursFit, minutesFit⟩ := wellFormed
      dsimp only [offset]
      omega
  | behind hours minutes =>
      obtain ⟨hoursFit, minutesFit⟩ := wellFormed
      dsimp only [offset]
      omega

end Zone

namespace WrittenTime

/-- The start of a day. -/
def midnight : WrittenTime where
  hour := 0
  minute := 0
  second := 0

theorem clock_midnight : midnight.clock = ⟨0, 0, 0, 0⟩ := rfl

end WrittenTime

/-- A spelling of a point in time. -/
inductive WrittenPoint where
  | day (date : Date)
  | marked (date : Date) (time : WrittenTime)
  | spaced (date : Date) (time : WrittenTime)
  | zoned (date : Date) (time : WrittenTime) (zone : Zone)
  deriving Repr, DecidableEq

namespace WrittenPoint

/-- The date that is spelled. -/
def date : WrittenPoint → Date
  | day date => date
  | marked date _ => date
  | spaced date _ => date
  | zoned date _ _ => date

/-- The time of day; a date alone means its midnight. -/
def time : WrittenPoint → WrittenTime
  | day _ => .midnight
  | marked _ time => time
  | spaced _ time => time
  | zoned _ time _ => time

/-- The offset at the end; what has none means UTC. -/
def zone : WrittenPoint → Zone
  | day _ => .utc
  | marked _ _ => .utc
  | spaced _ _ => .utc
  | zoned _ _ zone => zone

/-- The spelling itself. -/
def toChars : WrittenPoint → List Char
  | day date => Timestamp.dateChars date
  | marked date time => Timestamp.dateChars date ++ 'T' :: time.toChars
  | spaced date time => Timestamp.dateChars date ++ ' ' :: time.toChars
  | zoned date time zone =>
      Timestamp.dateChars date ++ 'T' :: (time.toChars ++ zone.toChars)

/-- Date, time of day and offset exist. -/
structure WellFormed (written : WrittenPoint) : Prop where
  date_written : written.date.Written
  time_wellFormed : written.time.WellFormed
  zone_wellFormed : written.zone.WellFormed

/-- The spelling is read as a point in time. -/
def ReadsAs (written : WrittenPoint) (point : Timestamp) : Prop :=
  ∀ type : ValueType,
    Strategy.temporal.read type (String.ofList written.toChars) = .ok (.scalar (.temporal point))

/-- What days, time of day and offset add up to, in milliseconds. -/
def millis (written : WrittenPoint) : Int :=
  written.date.toDays * 86400000 + written.time.millis - written.zone.offset * 60000

/-- The point is the one that is spelled, cut to milliseconds: the days to its date,
counted in the calendar, and its time of day, less the offset. -/
def Denotes (written : WrittenPoint) (point : Timestamp) : Prop :=
  ∃ days,
    written.date.Counted days ∧
      point.millis.toInt = days * 86400000 + written.time.millis - written.zone.offset * 60000

/-- The nanosecond that is spelled, counted from 1970-01-01 in UTC. -/
def IsAt (written : WrittenPoint) (nanos : Int) : Prop :=
  ∃ days,
    written.date.Counted days ∧
      nanos = days * 86400000000000 + written.time.nanos - written.zone.offset * 60000000000

/-- One spelling does not mean a later time than another one: by the calendar, if the
offsets are the same, or as instants. -/
inductive NotAfter (left right : WrittenPoint) : Prop where
  | earlierDate
      (sameOffset : left.zone.offset = right.zone.offset)
      (before : left.date.Before right.date)
  | sameDate
      (sameOffset : left.zone.offset = right.zone.offset)
      (isSame : left.date = right.date)
      (notLater : left.time.nanos ≤ right.time.nanos)
  | instant
      {earlier later : Int}
      (isEarlier : left.IsAt earlier)
      (isLater : right.IsAt later)
      (notLater : earlier ≤ later)

end WrittenPoint

namespace Timestamp

open Numeral

/-! Offsets. -/

theorem readOffsetMinutes?_paddedDigits
    {hours minutes : Nat}
    (hoursFit : hours < 24)
    (minutesFit : minutes < 60) :
    readOffsetMinutes? (paddedDigits 2 hours ++ ':' :: paddedDigits 2 minutes) =
      some ((hours : Int) * 60 + minutes, []) := by
  have readHours := readTwo?_paddedDigits (hoursFit.trans (by decide))
    (':' :: paddedDigits 2 minutes)
  have readMinutes := readTwo?_paddedDigits (minutesFit.trans (by decide)) []
  have inRange : hours ≤ 23 ∧ minutes ≤ 59 :=
    ⟨Nat.le_of_lt_succ hoursFit, Nat.le_of_lt_succ minutesFit⟩
  rw [List.append_nil] at readMinutes
  simp only [readOffsetMinutes?, Option.bind_eq_bind, readHours, Option.bind_some, expect?_cons,
    readMinutes, if_pos inRange]
  rfl

theorem readOffset?_toChars
    {zone : Zone}
    (wellFormed : zone.WellFormed) :
    readOffset? zone.toChars = some (zone.offset, []) := by
  cases zone with
  | utc =>
      exact readOffset?_utc
  | ahead hours minutes =>
      exact readOffsetMinutes?_paddedDigits wellFormed.1 wellFormed.2
  | behind hours minutes =>
      have read := readOffsetMinutes?_paddedDigits wellFormed.1 wellFormed.2
      have negated := congrArg
        (Option.map fun found : Int × List Char => (-found.1, found.2)) read
      exact negated

theorem endsTime_toChars (zone : Zone) :
    EndsTime zone.toChars := by
  cases zone <;>
  · rintro character ⟨⟩
    decide

/-! Points in time. -/

theorem exists_ofMillis?
    {millis : Int}
    (notBefore : -Int.pow 2 63 ≤ millis)
    (notAfter : millis < Int.pow 2 63) :
    ∃ point, ofMillis? millis = some point ∧ point.millis.toInt = millis := by
  refine ⟨⟨Int64.ofInt millis⟩, ?_, ?_⟩
  · rw [ofMillis?, int64?, if_pos ⟨notBefore, notAfter⟩]
    rfl
  · exact Int64.toInt_ofInt_of_le notBefore notAfter

/-- All spellings are read by adding up days and time of day, less the offset. -/
theorem ofString?_toChars
    {written : WrittenPoint}
    (wellFormed : written.WellFormed)
    {point : Timestamp}
    (isPoint : ofMillis? written.millis = some point) :
    ofString? (String.ofList written.toChars) = some point := by
  have isLocal :=
    ofLocal?_of_written wellFormed.date_written wellFormed.time_wellFormed written.zone.offset
  have isSum := isPoint
  rw [WrittenPoint.millis, ← wellFormed.time_wellFormed.toMillis_clock] at isSum
  have readLocal := isLocal.trans isSum
  rw [ofString?, String.toList_ofList]
  cases written with
  | day date =>
      have dateWritten : date.Written := wellFormed.date_written
      rw [WrittenPoint.toChars, readStrict?_date dateWritten, readDateTime?_date dateWritten,
        readMidnight?_dateChars dateWritten, ← WrittenTime.clock_midnight]
      exact readLocal
  | marked date time =>
      have dateWritten : date.Written := wellFormed.date_written
      have timeWellFormed : time.WellFormed := wellFormed.time_wellFormed
      have read := (readDateTime?_marked dateWritten timeWellFormed).trans readLocal
      rw [WrittenPoint.toChars, readStrict?_withoutOffset dateWritten timeWellFormed rfl,
        dateTimeFormats, List.findSome?_cons, read]
      rfl
  | spaced date time =>
      have dateWritten : date.Written := wellFormed.date_written
      have timeWellFormed : time.WellFormed := wellFormed.time_wellFormed
      obtain ⟨notMarked, isSpaced⟩ := readDateTime?_spaced dateWritten timeWellFormed
      have read := isSpaced.trans readLocal
      rw [WrittenPoint.toChars, readStrict?_withoutOffset dateWritten timeWellFormed rfl,
        dateTimeFormats, List.findSome?_cons, notMarked, List.findSome?_cons, read]
      rfl
  | zoned date time zone =>
      have readOffset := readOffset?_toChars wellFormed.zone_wellFormed
      have readStrict :
          readStrict? (dateChars date ++ 'T' :: (time.toChars ++ zone.toChars)) = some point :=
        (readStrict?_offset wellFormed.date_written wellFormed.time_wellFormed
          (endsTime_toChars zone) readOffset).trans isSum
      rw [WrittenPoint.toChars, readStrict]
      rfl

end Timestamp

namespace WrittenPoint

variable {written left right : WrittenPoint} {point other : Timestamp}

theorem WellFormed.counted_iff
    (wellFormed : written.WellFormed)
    (days : Int) :
    written.date.Counted days ↔ days = written.date.toDays :=
  Date.counted_iff wellFormed.date_written.inCalendar

/-- A spelling denotes the point that its numbers add up to. -/
theorem WellFormed.denotes_iff
    (wellFormed : written.WellFormed) :
    written.Denotes point ↔ point.millis.toInt = written.millis := by
  simp only [Denotes, millis, wellFormed.counted_iff, exists_eq_left]

theorem WellFormed.isAt_iff
    (wellFormed : written.WellFormed)
    {nanos : Int} :
    written.IsAt nanos ↔
      nanos =
        written.date.toDays * 86400000000000 + written.time.nanos -
          written.zone.offset * 60000000000 := by
  simp only [IsAt, wellFormed.counted_iff, exists_eq_left]

/-- The point is the instant, cut to milliseconds. -/
theorem WellFormed.millis_eq
    (wellFormed : written.WellFormed)
    (denotes : written.Denotes point)
    {nanos : Int}
    (isAt : written.IsAt nanos) :
    point.millis.toInt = nanos / 1000000 := by
  have isSum := wellFormed.denotes_iff.mp denotes
  have isExact := wellFormed.isAt_iff.mp isAt
  unfold millis WrittenTime.millis at isSum
  omega

theorem WellFormed.millis_bounds
    (wellFormed : written.WellFormed) :
    -Int.pow 2 63 ≤ written.millis ∧ written.millis < Int.pow 2 63 := by
  obtain ⟨notBefore, notAfter⟩ := wellFormed.date_written.toDays_bounds
  obtain ⟨offsetNotLow, offsetNotHigh⟩ := wellFormed.zone_wellFormed.offset_bounds
  have inDay := wellFormed.time_wellFormed.nanos_lt
  have limit : Int.pow 2 63 = 9223372036854775808 := rfl
  rw [limit]
  unfold millis WrittenTime.millis
  omega

/-- A spelling is read as the point that it denotes. -/
theorem exists_readsAs
    (wellFormed : written.WellFormed) :
    ∃ point, written.ReadsAs point ∧ written.Denotes point := by
  obtain ⟨notBefore, notAfter⟩ := wellFormed.millis_bounds
  obtain ⟨point, isPoint, isSum⟩ := Timestamp.exists_ofMillis? notBefore notAfter
  refine ⟨point, ?_, wellFormed.denotes_iff.mpr isSum⟩
  intro type
  have read := Timestamp.ofString?_toChars wellFormed isPoint
  simp only [Strategy.temporal, Strategy.elementwise, read]

/-- What is not after another spelling by the calendar is not after it as an instant. -/
theorem NotAfter.exists_instants
    (leftWellFormed : left.WellFormed)
    (rightWellFormed : right.WellFormed)
    (notAfter : left.NotAfter right) :
    ∃ earlier later, left.IsAt earlier ∧ right.IsAt later ∧ earlier ≤ later := by
  cases notAfter with
  | earlierDate sameOffset before =>
      have fewerDays := before.toDays_lt leftWellFormed.date_written.inCalendar
        rightWellFormed.date_written.inCalendar
      have inDay := leftWellFormed.time_wellFormed.nanos_lt
      refine ⟨_, _, leftWellFormed.isAt_iff.mpr rfl, rightWellFormed.isAt_iff.mpr rfl, ?_⟩
      omega
  | sameDate sameOffset isSame notLater =>
      refine ⟨_, _, leftWellFormed.isAt_iff.mpr rfl, rightWellFormed.isAt_iff.mpr rfl, ?_⟩
      rw [isSame, sameOffset]
      omega
  | instant isEarlier isLater notLater =>
      exact ⟨_, _, isEarlier, isLater, notLater⟩

theorem NotAfter.compare_ne_gt
    (leftWellFormed : left.WellFormed)
    (rightWellFormed : right.WellFormed)
    (leftDenotes : left.Denotes point)
    (rightDenotes : right.Denotes other)
    (notAfter : left.NotAfter right) :
    point.compare other ≠ .gt := by
  obtain ⟨earlier, later, isEarlier, isLater, notLater⟩ :=
    notAfter.exists_instants leftWellFormed rightWellFormed
  apply compare_le_iff_le.mpr
  rw [leftWellFormed.millis_eq leftDenotes isEarlier,
    rightWellFormed.millis_eq rightDenotes isLater]
  exact Int.ediv_le_ediv (by decide) notLater

/-- Spellings of the same date, time of day and offset denote no two points. -/
theorem Denotes.eq
    (leftWellFormed : left.WellFormed)
    (rightWellFormed : right.WellFormed)
    (leftDenotes : left.Denotes point)
    (rightDenotes : right.Denotes other)
    (sameDate : left.date = right.date)
    (sameTime : left.time = right.time)
    (sameOffset : left.zone.offset = right.zone.offset) :
    point = other := by
  have isSum := leftWellFormed.denotes_iff.mp leftDenotes
  have isOtherSum := rightWellFormed.denotes_iff.mp rightDenotes
  rw [millis, sameDate, sameTime, sameOffset, ← millis, ← isOtherSum] at isSum
  cases point
  cases other
  exact congrArg Timestamp.mk (Int64.toInt_inj.mp isSum)

/-- Each spelling is read as the point in time that it denotes. Spellings of the same
date, time of day and offset are read as the same point, and where one spelling does not
mean a later time than another, neither does its point come after the other's. -/
theorem read_spellings
    (leftWellFormed : left.WellFormed)
    (rightWellFormed : right.WellFormed) :
    ∃ point other,
      left.ReadsAs point ∧ right.ReadsAs other ∧
        left.Denotes point ∧ right.Denotes other ∧
          (left.date = right.date → left.time = right.time →
            left.zone.offset = right.zone.offset → point = other) ∧
          (left.NotAfter right → point.compare other ≠ .gt) := by
  obtain ⟨point, leftReads, leftDenotes⟩ := exists_readsAs leftWellFormed
  obtain ⟨other, rightReads, rightDenotes⟩ := exists_readsAs rightWellFormed
  refine ⟨point, other, leftReads, rightReads, leftDenotes, rightDenotes, ?_, ?_⟩
  · intro sameDate sameTime sameOffset
    exact leftDenotes.eq leftWellFormed rightWellFormed rightDenotes sameDate sameTime sameOffset
  · intro notAfter
    exact notAfter.compare_ne_gt leftWellFormed rightWellFormed leftDenotes rightDenotes

/-- The end of a leap day, with more places than are kept. -/
def leapDayEnd : WrittenPoint :=
  .spaced ⟨1972, 2, 29⟩ ⟨23, 59, 59, List.replicate 4 '9'⟩

/-- A little later, on the next day by a clock that is ahead. -/
def nextMorning : WrittenPoint :=
  .zoned ⟨1972, 3, 1⟩ ⟨5, 29, 59, List.replicate 5 '9'⟩ (.ahead 5 30)

theorem isDigit_of_mem_nines
    {count : Nat}
    {digit : Char}
    (member : digit ∈ List.replicate count '9') :
    digit.isDigit = true := by
  rw [List.eq_of_mem_replicate member]
  rfl

theorem wellFormed_leapDayEnd : leapDayEnd.WellFormed where
  date_written := ⟨⟨by decide, by decide, by decide, by decide⟩, by decide, by decide⟩
  time_wellFormed :=
    ⟨by decide, by decide, by decide, fun _ member => isDigit_of_mem_nines member, by decide⟩
  zone_wellFormed := trivial

theorem wellFormed_nextMorning : nextMorning.WellFormed where
  date_written := ⟨⟨by decide, by decide, by decide, by decide⟩, by decide, by decide⟩
  time_wellFormed :=
    ⟨by decide, by decide, by decide, fun _ member => isDigit_of_mem_nines member, by decide⟩
  zone_wellFormed := ⟨by decide, by decide⟩

theorem leapDayEnd_notAfter_nextMorning : leapDayEnd.NotAfter nextMorning :=
  .instant (wellFormed_leapDayEnd.isAt_iff.mpr rfl) (wellFormed_nextMorning.isAt_iff.mpr rfl)
    (by decide)

theorem read_spellings_leapDay :
    String.ofList leapDayEnd.toChars = "1972-02-29 23:59:59.9999" ∧
      String.ofList nextMorning.toChars = "1972-03-01T05:29:59.99999+05:30" ∧
        ∃ point other,
          leapDayEnd.ReadsAs point ∧ nextMorning.ReadsAs other ∧
            point.millis.toInt = 68255999999 ∧ other.millis.toInt = 68255999999 ∧
              point.compare other ≠ .gt := by
  obtain ⟨point, other, leftReads, rightReads, leftDenotes, rightDenotes, -, inOrder⟩ :=
    read_spellings wellFormed_leapDayEnd wellFormed_nextMorning
  refine ⟨by decide +kernel, by decide +kernel, point, other, leftReads, rightReads, ?_, ?_,
    inOrder leapDayEnd_notAfter_nextMorning⟩
  · exact (wellFormed_leapDayEnd.denotes_iff.mp leftDenotes).trans (by decide)
  · exact (wellFormed_nextMorning.denotes_iff.mp rightDenotes).trans (by decide)

end WrittenPoint

end FieldSearch
