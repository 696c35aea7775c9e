import FieldSearch.Proofs.Timestamp.Notation
import FieldSearch.Strategy.Scalar

namespace FieldSearch

/-!
# Timestamps read back

A point in time of the years 0000 to 9999 is written as its date and time of day in
full, to the millisecond and in UTC. The strict notation reads this, and the number of
the date and the time of day add up to the point that was written.
-/

/-- Points in time of the years zero to 9999 fall on dates that are written in full. -/
theorem Date.written_ofDays
    {days : Int}
    (notBefore : -719528 ≤ days)
    (notAfter : days ≤ 2932896) :
    (Date.ofDays days).Written := by
  have inCalendar := Date.inCalendar_ofDays days
  have isNumber := Date.toDays_ofDays days
  refine ⟨inCalendar, ?_, ?_⟩
  · by_contra earlier
    have before : (Date.ofDays days).Before ⟨0, 1, 1⟩ := .inl (not_le.mp earlier)
    have smaller := before.toDays_lt inCalendar ⟨by decide, by decide, by decide, by decide⟩
    have first : (Date.mk 0 1 1).toDays = -719528 := rfl
    omega
  · by_contra later
    have after : Date.Before ⟨9999, 12, 31⟩ (Date.ofDays days) := .inl (not_le.mp later)
    have greater := after.toDays_lt ⟨by decide, by decide, by decide, by decide⟩ inCalendar
    have last : (Date.mk 9999 12 31).toDays = 2932896 := rfl
    omega

/-- Every 64-bit integer is in range. -/
theorem Numeral.int64?_toInt (number : Int64) :
    int64? number.toInt = some number := by
  have range : -Int.pow 2 63 ≤ number.toInt ∧ number.toInt < Int.pow 2 63 :=
    ⟨number.le_toInt, number.toInt_lt⟩
  rw [int64?, if_pos range, Int64.ofInt_toInt]

namespace Timestamp

open Numeral

theorem ofMillis?_toInt (timestamp : Timestamp) :
    ofMillis? timestamp.millis.toInt = some timestamp := by
  rw [ofMillis?, int64?_toInt]
  rfl

/-- A time of day in milliseconds, written with three places. -/
def writtenTime (millis : Nat) : WrittenTime where
  hour := millis / 3600000
  minute := millis / 60000 % 60
  second := millis / 1000 % 60
  fraction := paddedDigits 3 (millis % 1000)

theorem writtenTime_wellFormed
    {millis : Nat}
    (inDay : millis < 86400000) :
    (writtenTime millis).WellFormed where
  hour_lt := Nat.div_lt_of_lt_mul inDay
  minute_lt := Nat.mod_lt _ (by decide)
  second_lt := Nat.mod_lt _ (by decide)
  fraction_digits := fun _ member => isDigit_of_mem_paddedDigits member
  fraction_length := by
    have length : (paddedDigits 3 (millis % 1000)).length = 3 :=
      length_paddedDigits (by decide) (Nat.mod_lt millis (by decide))
    exact length.trans_le (by decide)

theorem toChars_writtenTime (millis : Nat) :
    (writtenTime millis).toChars = timeChars millis := by
  obtain ⟨first, others, isCons, -⟩ := exists_paddedDigits_eq_cons 3 (millis % 1000)
  simp [writtenTime, WrittenTime.toChars, WrittenTime.fractionChars, timeChars, isCons]

theorem toMillis_writtenTime
    {millis : Nat}
    (inDay : millis < 86400000) :
    (writtenTime millis).clock.toMillis = millis := by
  have length : (paddedDigits 3 (millis % 1000)).length = 3 :=
    length_paddedDigits (by decide) (Nat.mod_lt millis (by decide))
  have isWhole : (writtenTime millis).millis = millis := by
    simp only [WrittenTime.millis, WrittenTime.nanos, writtenTime, length,
      ofDigitChars_paddedDigits]
    omega
  rw [(writtenTime_wellFormed inDay).toMillis_clock, isWhole]

/-- Milliseconds of the day of a point in time. -/
def timeOfDay (timestamp : Timestamp) : Nat :=
  (timestamp.millis.toInt % millisPerDay).toNat

theorem timeOfDay_lt (timestamp : Timestamp) :
    timestamp.timeOfDay < 86400000 := by
  unfold timeOfDay millisPerDay
  omega

/-- Days of the years zero to 9999. -/
theorem dayNumber_bounds
    {timestamp : Timestamp}
    (notBefore : -62167219200000 ≤ timestamp.millis.toInt)
    (notAfter : timestamp.millis.toInt ≤ 253402300799999) :
    -719528 ≤ timestamp.dayNumber ∧ timestamp.dayNumber ≤ 2932896 := by
  unfold dayNumber millisPerDay
  omega

/-- A point of these years is written as a date and a time of day with three places, in UTC. -/
theorem toChars_of_years
    {timestamp : Timestamp}
    (notBefore : -62167219200000 ≤ timestamp.millis.toInt)
    (notAfter : timestamp.millis.toInt ≤ 253402300799999) :
    timestamp.toChars =
      dateChars (Date.ofDays timestamp.dayNumber) ++
        'T' :: ((writtenTime timestamp.timeOfDay).toChars ++ ['Z']) := by
  obtain ⟨dayNotBefore, dayNotAfter⟩ := dayNumber_bounds notBefore notAfter
  have firstSupported : (Date.mk Date.minYear 1 1).toDays ≤ timestamp.dayNumber :=
    le_trans (by decide) dayNotBefore
  have lastSupported : timestamp.dayNumber ≤ (Date.mk Date.maxYear 12 31).toDays :=
    le_trans dayNotAfter (by decide)
  have inCalendar : timestamp.inCalendar = true := by
    simp only [Timestamp.inCalendar, firstSupported, lastSupported, decide_true, Bool.and_true]
  rw [toChars, if_pos inCalendar, toChars_writtenTime, timeOfDay, List.append_assoc,
    List.cons_append]

/-- The number of the day and the time of day add up to the point in time. -/
theorem millis_eq_sum (timestamp : Timestamp) :
    (Date.ofDays timestamp.dayNumber).toDays * millisPerDay +
        (writtenTime timestamp.timeOfDay).clock.toMillis - 0 * 60000 =
      timestamp.millis.toInt := by
  rw [Date.toDays_ofDays, toMillis_writtenTime timestamp.timeOfDay_lt]
  unfold dayNumber timeOfDay millisPerDay
  omega

theorem readStrict?_toChars
    {timestamp : Timestamp}
    (notBefore : -62167219200000 ≤ timestamp.millis.toInt)
    (notAfter : timestamp.millis.toInt ≤ 253402300799999) :
    readStrict? timestamp.toChars = some timestamp := by
  obtain ⟨dayNotBefore, dayNotAfter⟩ := dayNumber_bounds notBefore notAfter
  have written := Date.written_ofDays dayNotBefore dayNotAfter
  have wellFormed := writtenTime_wellFormed timestamp.timeOfDay_lt
  rw [toChars_of_years notBefore notAfter,
    readStrict?_offset written wellFormed endsTime_utc readOffset?_utc, millis_eq_sum,
    ofMillis?_toInt]

/-- What is written of a point in time of the years zero to 9999 is read as that point. -/
theorem read_toString
    (type : ValueType)
    (timestamp : Timestamp)
    (notBefore : -62167219200000 ≤ timestamp.millis.toInt)
    (notAfter : timestamp.millis.toInt ≤ 253402300799999) :
    Strategy.temporal.read type (toString timestamp) = .ok (.scalar (.temporal timestamp)) := by
  have read : ofString? (toString timestamp) = some timestamp := by
    simp only [ofString?, toString, String.toList_ofList,
      readStrict?_toChars notBefore notAfter]
    rfl
  simp only [Strategy.temporal, Strategy.elementwise, read]

/-- The last millisecond of the leap day of year zero, long before the epoch. -/
theorem read_toString_leapDay :
    toString (Timestamp.mk (-62162035200001)) = "0000-02-29T23:59:59.999Z" ∧
      Strategy.temporal.read (.ofKind .temporal) "0000-02-29T23:59:59.999Z" =
        .ok (.scalar (.temporal ⟨-62162035200001⟩)) := by
  have text : toString (Timestamp.mk (-62162035200001)) = "0000-02-29T23:59:59.999Z" := by
    decide +kernel
  refine ⟨text, ?_⟩
  rw [← text]
  exact read_toString (.ofKind .temporal) ⟨-62162035200001⟩ (by decide) (by decide)

end Timestamp

end FieldSearch
