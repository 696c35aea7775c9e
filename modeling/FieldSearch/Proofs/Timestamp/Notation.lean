import FieldSearch.Proofs.Calendar.Dates
import FieldSearch.Proofs.Numeral.Digits
import FieldSearch.Timestamp.Reading

namespace FieldSearch

/-!
# Dates and times in full

How dates and times of day are written in full: each number in all digits of its
place, a second perhaps with a fraction. The strict notation and the formats read
what is written in full as it stands.
-/

/-- A time of day in full. -/
structure WrittenTime where
  hour : Nat
  minute : Nat
  second : Nat
  /-- The digits of a fraction of a second, if there is one. -/
  fraction : List Char := []
  deriving Repr, DecidableEq

namespace WrittenTime

/-- The numbers are those of a time of day, and a fraction has at most nine digits. -/
structure WellFormed (time : WrittenTime) : Prop where
  hour_lt : time.hour < 24
  minute_lt : time.minute < 60
  second_lt : time.second < 60
  fraction_digits : ∀ digit ∈ time.fraction, digit.isDigit = true
  fraction_length : time.fraction.length ≤ 9

/-- A fraction after its point; nothing for none. -/
def fractionChars (time : WrittenTime) : List Char :=
  if time.fraction.isEmpty then [] else '.' :: time.fraction

/-- Hours, minutes and seconds, and the fraction. -/
def toChars (time : WrittenTime) : List Char :=
  Numeral.paddedDigits 2 time.hour ++
    ':' :: (Numeral.paddedDigits 2 time.minute ++
      ':' :: (Numeral.paddedDigits 2 time.second ++ time.fractionChars))

/-- Nanoseconds since midnight. -/
def nanos (time : WrittenTime) : Nat :=
  ((time.hour * 60 + time.minute) * 60 + time.second) * 1000000000 +
    Nat.ofDigitChars 10 time.fraction 0 * 10 ^ (9 - time.fraction.length)

/-- Whole milliseconds since midnight. -/
def millis (time : WrittenTime) : Nat :=
  time.nanos / 1000000

/-- The time of day that is read. -/
def clock (time : WrittenTime) : Timestamp.ClockTime :=
  ⟨time.hour, time.minute, time.second, Timestamp.fractionMillis time.fraction⟩

theorem WellFormed.clock_isValid
    {time : WrittenTime}
    (wellFormed : time.WellFormed) :
    time.clock.isValid = true := by
  obtain ⟨hour_lt, minute_lt, second_lt, -, -⟩ := wellFormed
  unfold clock
  simp only [Timestamp.ClockTime.isValid, Bool.and_eq_true, decide_eq_true_eq]
  omega

theorem WellFormed.nanos_lt
    {time : WrittenTime}
    (wellFormed : time.WellFormed) :
    time.nanos < 86400000000000 := by
  obtain ⟨hour_lt, minute_lt, second_lt, allDigits, fits⟩ := wellFormed
  have fractionFits := Numeral.ofDigitChars_mul_lt allDigits fits
  unfold nanos
  omega

/-- The milliseconds of a fraction are its nanoseconds, cut. -/
theorem fractionMillis_eq
    {digits : List Char}
    (allDigits : ∀ digit ∈ digits, digit.isDigit = true)
    (fits : digits.length ≤ 9) :
    Timestamp.fractionMillis digits =
      Nat.ofDigitChars 10 digits 0 * 10 ^ (9 - digits.length) / 1000000 := by
  by_cases isShort : digits.length ≤ 3
  · have places : 9 - digits.length = 3 - digits.length + 6 := by
      omega
    rw [Timestamp.fractionMillis, List.take_of_length_le isShort, places, Nat.pow_add,
      ← Nat.mul_assoc]
    exact (Nat.mul_div_cancel _ (by decide)).symm
  · have leadingLength : (digits.take 3).length = 3 := by
      rw [List.length_take]
      omega
    have restLength : (digits.drop 3).length = digits.length - 3 := List.length_drop
    have restDigits : ∀ digit ∈ digits.drop 3, digit.isDigit = true :=
      fun digit member => allDigits digit (List.mem_of_mem_drop member)
    have restWithin : (digits.drop 3).length ≤ 6 := by
      omega
    have restFits :
        Nat.ofDigitChars 10 (digits.drop 3) 0 * 10 ^ (6 - (digits.drop 3).length) < 1000000 :=
      Numeral.ofDigitChars_mul_lt restDigits restWithin
    have places : 9 - digits.length = 6 - (digits.drop 3).length := by
      omega
    have split :
        Nat.ofDigitChars 10 digits 0 =
          Nat.ofDigitChars 10 (digits.take 3) 0 * 10 ^ (digits.drop 3).length +
            Nat.ofDigitChars 10 (digits.drop 3) 0 := by
      rw [← Numeral.ofDigitChars_eq_add, ← Nat.ofDigitChars_append, List.take_append_drop]
    have shifted :
        Nat.ofDigitChars 10 digits 0 * 10 ^ (9 - digits.length) =
          1000000 * Nat.ofDigitChars 10 (digits.take 3) 0 +
            Nat.ofDigitChars 10 (digits.drop 3) 0 * 10 ^ (6 - (digits.drop 3).length) := by
      rw [split, places, Nat.add_mul, Nat.mul_assoc, ← Nat.pow_add,
        Nat.add_sub_cancel' restWithin, Nat.mul_comm _ (10 ^ 6)]
    rw [shifted, Nat.mul_add_div (by decide), Nat.div_eq_of_lt restFits,
      Timestamp.fractionMillis, leadingLength]
    exact Nat.mul_one _

/-- The time of day that is read is the one that is written, in whole milliseconds. -/
theorem WellFormed.toMillis_clock
    {time : WrittenTime}
    (wellFormed : time.WellFormed) :
    time.clock.toMillis = time.millis := by
  have fraction := fractionMillis_eq wellFormed.fraction_digits wellFormed.fraction_length
  simp only [Timestamp.ClockTime.toMillis, clock, millis, nanos, fraction]
  omega

end WrittenTime

/-- A date of the calendar whose year has at most four digits and no sign. -/
structure Date.Written (date : Date) : Prop where
  inCalendar : date.InCalendar
  year_nonneg : 0 ≤ date.year
  year_le : date.year ≤ 9999

theorem Date.Written.isValid
    {date : Date}
    (written : date.Written) :
    date.isValid = true := by
  obtain ⟨⟨month_pos, month_le, day_pos, day_le⟩, year_nonneg, year_le⟩ := written
  have supported : Date.minYear ≤ date.year ∧ date.year ≤ Date.maxYear := by
    unfold Date.minYear Date.maxYear
    omega
  simp only [Date.isValid, Bool.and_eq_true, decide_eq_true_eq]
  exact ⟨⟨⟨⟨supported, month_pos⟩, month_le⟩, day_pos⟩, day_le⟩

theorem Date.Written.toDays_bounds
    {date : Date}
    (written : date.Written) :
    -719528 ≤ date.toDays ∧ date.toDays ≤ 2932896 := by
  obtain ⟨inCalendar, year_nonneg, year_le⟩ := written
  obtain ⟨notBefore, notAfter⟩ := inCalendar.toDays_bounds
  have firstYear := Calendar.daysBeforeYear_le year_nonneg
  have lastYear := Calendar.daysBeforeYear_le (Int.add_le_add_right year_le 1)
  have first : Calendar.daysBeforeYear 0 = Calendar.epochDay - 719528 := rfl
  have last : Calendar.daysBeforeYear (9999 + 1) = Calendar.epochDay + 2932897 := rfl
  omega

namespace Timestamp

open Numeral

/-! Numbers in full. -/

theorem spanDigits_append
    {digits : List Char}
    (allDigits : ∀ digit ∈ digits, digit.isDigit = true)
    (rest : List Char) :
    spanDigits digits.length (digits ++ rest) = (digits, rest) := by
  induction digits with
  | nil =>
      simp [spanDigits]
  | cons digit digits inductionHypothesis =>
      have others := inductionHypothesis fun other member => allDigits other (.tail _ member)
      simp [spanDigits, allDigits digit (.head _), others]

theorem readNumber?_paddedDigits
    {least width value : Nat}
    (enough : least ≤ width)
    (widthPositive : 0 < width)
    (fits : value < 10 ^ width)
    (rest : List Char) :
    readNumber? least width (paddedDigits width value ++ rest) = some (value, rest) := by
  have length := length_paddedDigits widthPositive fits
  have allDigits : ∀ digit ∈ paddedDigits width value, digit.isDigit = true :=
    fun _ member => isDigit_of_mem_paddedDigits member
  have span := spanDigits_append allDigits rest
  rw [length] at span
  simp only [readNumber?, span, length, if_pos enough, ofDigitChars_paddedDigits]

theorem readTwo?_paddedDigits
    {value : Nat}
    (fits : value < 100)
    (rest : List Char) :
    readNumber? 2 2 (paddedDigits 2 value ++ rest) = some (value, rest) :=
  readNumber?_paddedDigits (by decide) (by decide) fits rest

theorem readFour?_paddedDigits
    {value : Nat}
    (fits : value < 10000)
    (rest : List Char) :
    readNumber? 4 4 (paddedDigits 4 value ++ rest) = some (value, rest) :=
  readNumber?_paddedDigits (by decide) (by decide) fits rest

theorem exists_paddedDigits_eq_cons (width value : Nat) :
    ∃ first others, paddedDigits width value = first :: others ∧ first.isDigit = true := by
  have notEmpty : paddedDigits width value ≠ [] := by
    have positive := Nat.length_toDigits_pos (b := 10) (n := value)
    intro isEmpty
    have length := congrArg List.length isEmpty
    rw [paddedDigits, List.length_append, List.length_nil] at length
    omega
  obtain ⟨first, others, isCons⟩ := List.exists_cons_of_ne_nil notEmpty
  have member : first ∈ paddedDigits width value := by
    rw [isCons]
    exact .head _
  exact ⟨first, others, isCons, isDigit_of_mem_paddedDigits member⟩

theorem isBlank_of_isDigit
    {character : Char}
    (isDigit : character.isDigit = true) :
    Text.isBlank character = false := by
  simp only [Char.isDigit, Bool.and_eq_true, decide_eq_true_eq, ge_iff_le,
    UInt32.le_iff_toNat_le] at isDigit
  have lower : 48 ≤ character.toNat := isDigit.1
  have upper : character.toNat ≤ 57 := isDigit.2
  simp [Text.isBlank, Text.inRuns, Text.blankRuns, Text.Run.contains]
  omega

/-- There are no blanks in front of digits. -/
theorem dropBlanks_paddedDigits
    (width value : Nat)
    (rest : List Char) :
    Text.dropBlanks (paddedDigits width value ++ rest) = paddedDigits width value ++ rest := by
  obtain ⟨first, others, isCons, isDigit⟩ := exists_paddedDigits_eq_cons width value
  rw [isCons, List.cons_append, Text.dropBlanks,
    List.dropWhile_cons_of_neg (by simp [isBlank_of_isDigit isDigit])]

theorem readShort?_paddedDigits
    {value : Nat}
    (fits : value < 100)
    (rest : List Char) :
    readShort? (paddedDigits 2 value ++ rest) = some (value, rest) := by
  rw [readShort?, dropBlanks_paddedDigits,
    readNumber?_paddedDigits (by decide) (by decide) fits]

/-- A year in full has no sign. -/
theorem readYear?_paddedDigits
    {value : Nat}
    (fits : value < 10000)
    (rest : List Char) :
    readYear? (paddedDigits 4 value ++ rest) = some ((value : Int), rest) := by
  have read : readNumber? 1 4 (paddedDigits 4 value ++ rest) = some (value, rest) :=
    readNumber?_paddedDigits (by decide) (by decide) fits rest
  obtain ⟨first, others, isCons, isDigit⟩ := exists_paddedDigits_eq_cons 4 value
  rw [readYear?, dropBlanks_paddedDigits]
  rw [isCons, List.cons_append] at read ⊢
  split
  · next isMinus =>
      cases isMinus
      cases isDigit
  · next isPlus =>
      cases isPlus
      cases isDigit
  · rw [read]
    rfl

@[simp] theorem expect?_cons (expected : Char) (rest : List Char) :
    expect? expected (expected :: rest) = some rest :=
  if_pos rfl

/-! Dates in full. -/

theorem dateChars_append
    {date : Date}
    (written : date.Written)
    (rest : List Char) :
    dateChars date ++ rest =
      paddedDigits 4 date.year.toNat ++
        '-' :: (paddedDigits 2 date.month ++ '-' :: (paddedDigits 2 date.day ++ rest)) := by
  have isNonneg : ¬ date.year < 0 := not_lt.mpr written.year_nonneg
  have isShort : ¬ 9999 < date.year := not_lt.mpr written.year_le
  have isNat : date.year.natAbs = date.year.toNat := by
    omega
  simp only [dateChars, yearChars, if_neg isNonneg, if_neg isShort, isNat, List.append_assoc,
    List.cons_append]

theorem bounds_of_written
    {date : Date}
    (written : date.Written) :
    date.year.toNat < 10000 ∧ (date.year.toNat : Int) = date.year ∧
      date.month < 100 ∧ date.day < 100 := by
  obtain ⟨inCalendar, year_nonneg, year_le⟩ := written
  have day_le := inCalendar.day_le_31
  have month_le := inCalendar.month_le
  omega

/-- The first items of a format read a date, whatever items follow. -/
theorem readItems?_dateChars
    {date : Date}
    (written : date.Written)
    (items : List FormatItem)
    (rest : List Char) :
    readItems? (.year :: .literal '-' :: .month :: .literal '-' :: .day :: items) {}
        (dateChars date ++ rest) =
      readItems? items { year := date.year, month := date.month, day := date.day } rest := by
  obtain ⟨yearFits, isYear, monthFits, dayFits⟩ := bounds_of_written written
  rw [dateChars_append written]
  simp only [readItems?, readItem?, Option.bind_eq_bind, readYear?_paddedDigits yearFits,
    Option.map_some, Option.bind_some, expect?_cons, readShort?_paddedDigits monthFits,
    readShort?_paddedDigits dayFits, isYear]

/-! Times of day in full. -/

/-- What follows does not go on with a fraction or its digits. -/
def EndsTime (rest : List Char) : Prop :=
  ∀ character ∈ rest.head?, character.isDigit = false ∧ character ≠ '.'

theorem endsTime_nil : EndsTime [] := by
  rintro character ⟨⟩

theorem endsTime_utc : EndsTime ['Z'] := by
  rintro character ⟨⟩
  decide

theorem readOffset?_utc : readOffset? ['Z'] = some (0, []) := rfl

theorem EndsTime.takeWhile_append
    {rest : List Char}
    (ends : EndsTime rest)
    {digits : List Char}
    (allDigits : ∀ digit ∈ digits, digit.isDigit = true) :
    (digits ++ rest).takeWhile Char.isDigit = digits ∧
      (digits ++ rest).dropWhile Char.isDigit = rest := by
  have taken : rest.takeWhile Char.isDigit = [] ∧ rest.dropWhile Char.isDigit = rest := by
    cases rest with
    | nil =>
        exact ⟨rfl, rfl⟩
    | cons character rest =>
        have notDigit := (ends character rfl).1
        simp [notDigit]
  rw [List.takeWhile_append_of_pos allDigits, List.dropWhile_append_of_pos allDigits, taken.1,
    taken.2, List.append_nil]
  exact ⟨rfl, rfl⟩

theorem readFraction?_fractionChars
    {time : WrittenTime}
    (wellFormed : time.WellFormed)
    {rest : List Char}
    (ends : EndsTime rest) :
    readFraction? (time.fractionChars ++ rest) = some (fractionMillis time.fraction, rest) := by
  unfold WrittenTime.fractionChars
  cases isFraction : time.fraction with
  | nil =>
      cases rest with
      | nil =>
          rfl
      | cons character rest =>
          have notPoint := (ends character rfl).2
          simp [readFraction?, notPoint]
          rfl
  | cons digit digits =>
      have allDigits := wellFormed.fraction_digits
      rw [isFraction] at allDigits
      obtain ⟨taken, dropped⟩ := ends.takeWhile_append allDigits
      have read :
          readFraction? ('.' :: (digit :: digits ++ rest)) =
            some (fractionMillis (digit :: digits), rest) := by
        simp only [readFraction?, taken, dropped]
        rfl
      exact read

/-- The last items of a format read a time of day. -/
theorem readItems?_toChars
    {time : WrittenTime}
    (wellFormed : time.WellFormed)
    (parts : Parts) :
    readItems? [.hour, .literal ':', .minute, .literal ':', .second, .fraction] parts
        time.toChars =
      some (
        { parts with
          hour := time.hour
          minute := time.minute
          second := time.second
          milli := fractionMillis time.fraction },
        []) := by
  have hourFits : time.hour < 100 := wellFormed.hour_lt.trans (by decide)
  have minuteFits : time.minute < 100 := wellFormed.minute_lt.trans (by decide)
  have secondFits : time.second < 100 := wellFormed.second_lt.trans (by decide)
  have readFraction := readFraction?_fractionChars wellFormed endsTime_nil
  rw [List.append_nil] at readFraction
  simp only [readItems?, readItem?, WrittenTime.toChars, Option.bind_eq_bind,
    readShort?_paddedDigits hourFits, readShort?_paddedDigits minuteFits,
    readShort?_paddedDigits secondFits, Option.map_some, Option.bind_some, expect?_cons,
    readFraction]

/-! Dates and times of day together. -/

/-- The strict notation reads date and time of day, and goes on with the offset. -/
theorem readStrict?_dateChars
    {date : Date}
    (written : date.Written)
    {time : WrittenTime}
    (wellFormed : time.WellFormed)
    {mark : Char}
    (isMark : isTimeMark mark = true)
    {rest : List Char}
    (ends : EndsTime rest) :
    readStrict? (dateChars date ++ mark :: (time.toChars ++ rest)) =
      (readOffset? rest).bind fun (offset, rest) =>
        if rest.isEmpty then ofLocal? date time.clock offset else none := by
  obtain ⟨yearFits, isYear, monthFits, dayFits⟩ := bounds_of_written written
  have hourFits : time.hour < 100 := wellFormed.hour_lt.trans (by decide)
  have minuteFits : time.minute < 100 := wellFormed.minute_lt.trans (by decide)
  have secondFits : time.second < 100 := wellFormed.second_lt.trans (by decide)
  -- Number by number: what follows one is left alone until it has been read.
  rw [dateChars_append written, readStrict?, readFour?_paddedDigits yearFits]
  dsimp only [Option.bind_eq_bind, Option.bind_some]
  rw [expect?_cons, Option.bind_some, readTwo?_paddedDigits monthFits]
  dsimp only [Option.bind_some]
  rw [expect?_cons, Option.bind_some, readTwo?_paddedDigits dayFits]
  dsimp only [Option.bind_some, List.head?_cons, Option.map_some, List.tail_cons]
  rw [if_pos isMark, WrittenTime.toChars, List.append_assoc, readTwo?_paddedDigits hourFits]
  dsimp only [Option.bind_some, List.cons_append]
  rw [expect?_cons, Option.bind_some, List.append_assoc, readTwo?_paddedDigits minuteFits]
  dsimp only [Option.bind_some, List.cons_append]
  rw [expect?_cons, Option.bind_some, List.append_assoc, readTwo?_paddedDigits secondFits]
  dsimp only [Option.bind_some]
  rw [readFraction?_fractionChars wellFormed ends, isYear]
  rfl

/-- A date and a time of day in full exist. -/
theorem ofLocal?_of_written
    {date : Date}
    (written : date.Written)
    {time : WrittenTime}
    (wellFormed : time.WellFormed)
    (offset : Int) :
    ofLocal? date time.clock offset =
      ofMillis? (date.toDays * millisPerDay + time.clock.toMillis - offset * 60000) :=
  if_pos (Bool.and_eq_true_iff.mpr ⟨written.isValid, wellFormed.clock_isValid⟩)

/-- With an offset at the end, the strict notation reads all of the text. -/
theorem readStrict?_offset
    {date : Date}
    (written : date.Written)
    {time : WrittenTime}
    (wellFormed : time.WellFormed)
    {zone : List Char}
    {offset : Int}
    (ends : EndsTime zone)
    (readZone : readOffset? zone = some (offset, [])) :
    readStrict? (dateChars date ++ 'T' :: (time.toChars ++ zone)) =
      ofMillis? (date.toDays * millisPerDay + time.clock.toMillis - offset * 60000) := by
  rw [readStrict?_dateChars written wellFormed rfl ends, readZone, Option.bind_some]
  exact ofLocal?_of_written written wellFormed offset

/-- Date and time of day without an offset are not in the strict notation. -/
theorem readStrict?_withoutOffset
    {date : Date}
    (written : date.Written)
    {time : WrittenTime}
    (wellFormed : time.WellFormed)
    {mark : Char}
    (isMark : isTimeMark mark = true) :
    readStrict? (dateChars date ++ mark :: time.toChars) = none := by
  have noOffset := readStrict?_dateChars written wellFormed isMark endsTime_nil
  rw [List.append_nil] at noOffset
  exact noOffset

/-- A date without a time of day is not in the strict notation. -/
theorem readStrict?_date
    {date : Date}
    (written : date.Written) :
    readStrict? (dateChars date) = none := by
  obtain ⟨yearFits, -, monthFits, dayFits⟩ := bounds_of_written written
  rw [← List.append_nil (dateChars date), dateChars_append written, readStrict?,
    readFour?_paddedDigits yearFits]
  dsimp only [Option.bind_eq_bind, Option.bind_some]
  rw [expect?_cons, Option.bind_some, readTwo?_paddedDigits monthFits]
  dsimp only [Option.bind_some]
  rw [expect?_cons, Option.bind_some, readTwo?_paddedDigits dayFits]
  rfl

/-! The formats. -/

theorem formatItems?_markedFormat :
    formatItems? markedFormat.toList =
      some [.year, .literal '-', .month, .literal '-', .day, .literal 'T',
        .hour, .literal ':', .minute, .literal ':', .second, .fraction] := by
  decide

theorem formatItems?_spacedFormat :
    formatItems? spacedFormat.toList =
      some [.year, .literal '-', .month, .literal '-', .day, .blanks,
        .hour, .literal ':', .minute, .literal ':', .second, .fraction] := by
  decide

theorem formatItems?_dateFormat :
    formatItems? dateFormat.toList =
      some [.year, .literal '-', .month, .literal '-', .day] := by
  decide

/-- A format that starts with a date reads the date, and the items after it read the rest. -/
theorem readFormat?_dateChars
    {format : String}
    {items : List FormatItem}
    (isFormat :
      formatItems? format.toList =
        some (.year :: .literal '-' :: .month :: .literal '-' :: .day :: items))
    {date : Date}
    (written : date.Written)
    (rest : List Char) :
    readFormat? format (dateChars date ++ rest) =
      (readItems? items { year := date.year, month := date.month, day := date.day } rest).bind
        fun read => if read.2.isEmpty then some read.1 else none := by
  rw [readFormat?, isFormat]
  simp only [Option.bind_eq_bind, Option.bind_some, readItems?_dateChars written]

/-- The format of a date alone reads a date as its midnight. -/
theorem readMidnight?_dateChars
    {date : Date}
    (written : date.Written) :
    readMidnight? (dateChars date) dateFormat = ofLocal? date ⟨0, 0, 0, 0⟩ 0 := by
  have read := readFormat?_dateChars formatItems?_dateFormat written []
  rw [List.append_nil] at read
  rw [readMidnight?, read]
  rfl

/-- A date alone is in no format with a time of day. -/
theorem readDateTime?_date
    {date : Date}
    (written : date.Written) :
    dateTimeFormats.findSome? (readDateTime? (dateChars date)) = none := by
  have marked := readFormat?_dateChars formatItems?_markedFormat written []
  have spaced := readFormat?_dateChars formatItems?_spacedFormat written []
  rw [List.append_nil] at marked spaced
  simp only [dateTimeFormats, List.findSome?, readDateTime?, marked, spaced]
  rfl

/-- A mark between date and time of day is read by the format that has it. -/
theorem readDateTime?_marked
    {date : Date}
    (written : date.Written)
    {time : WrittenTime}
    (wellFormed : time.WellFormed) :
    readDateTime? (dateChars date ++ 'T' :: time.toChars) markedFormat =
      ofLocal? date time.clock 0 := by
  rw [readDateTime?, readFormat?_dateChars formatItems?_markedFormat written, readItems?,
    readItem?, expect?_cons]
  simp only [Option.map_some, Option.bind_eq_bind, Option.bind_some,
    readItems?_toChars wellFormed]
  rfl

/-- A blank between date and time of day is read by the format that has it, not by the other. -/
theorem readDateTime?_spaced
    {date : Date}
    (written : date.Written)
    {time : WrittenTime}
    (wellFormed : time.WellFormed) :
    readDateTime? (dateChars date ++ ' ' :: time.toChars) markedFormat = none ∧
      readDateTime? (dateChars date ++ ' ' :: time.toChars) spacedFormat =
        ofLocal? date time.clock 0 := by
  have passed : Text.dropBlanks (' ' :: time.toChars) = time.toChars :=
    dropBlanks_paddedDigits 2 time.hour _
  constructor
  · rw [readDateTime?, readFormat?_dateChars formatItems?_markedFormat written]
    rfl
  · rw [readDateTime?, readFormat?_dateChars formatItems?_spacedFormat written, readItems?,
      readItem?, passed]
    simp only [Option.bind_eq_bind, Option.bind_some, readItems?_toChars wellFormed]
    rfl

end Timestamp

end FieldSearch
