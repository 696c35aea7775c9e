import FieldSearch.Json.Reading
import FieldSearch.Json.Writing
import FieldSearch.Proofs.Numeral.Digits

namespace FieldSearch.Json

/-!
# JSON texts read back

What is written for a value is read back as the value, whatever characters its strings
have, unless the value has a numeral of its own or is unreadable. A number ends where no
more of it can follow, so a value is read in front of anything that may follow one:
nothing, a comma or a closing bracket.
-/

mutual

/-- A value without numerals of its own, of which everything is readable. -/
def IsPlain : Json → Prop
  | null | boolean _ | integer _ | string _ => True
  | real _ | unreadable => False
  | array items => ItemsArePlain items
  | object members => MembersArePlain members

/-- Values without numerals of their own, of which everything is readable. -/
def ItemsArePlain : List Json → Prop
  | [] => True
  | item :: rest => item.IsPlain ∧ ItemsArePlain rest

/-- Members whose values are without numerals of their own and readable. -/
def MembersArePlain : List (String × Json) → Prop
  | [] => True
  | (_, value) :: rest => value.IsPlain ∧ MembersArePlain rest

end

/-- Nothing follows a value, or a comma or a closing bracket does. -/
inductive EndsValue : List Char → Prop where
  | nil : EndsValue []
  | comma (later : List Char) : EndsValue (',' :: later)
  | bracket (later : List Char) : EndsValue (']' :: later)
  | brace (later : List Char) : EndsValue ('\x7d' :: later)

/-! Strings. -/

theorem simpleEscape?_of_shortEscape?
    {character letter : Char}
    (isShort : shortEscape? character = some letter) :
    letter ≠ 'u' ∧ simpleEscape? letter = some character := by
  unfold shortEscape? at isShort
  split at isShort <;> cases isShort <;> exact ⟨by decide, rfl⟩

theorem hexToNat?_hexChars :
    ∀ number < 0x20,
      Numeral.hexToNat? ['0', '0', hexChar (number / 16), hexChar (number % 16)] =
        some number := by
  decide

/-- A character is read as its number, in whatever form it is written. -/
theorem readUnits?_escapedChar
    (character : Char)
    (later : List Char) :
    readUnits? (escapedChar character ++ later) =
      (readUnits? later).map fun (units, rest) => (character.toNat :: units, rest) := by
  unfold escapedChar
  split
  · next letter isShort =>
      obtain ⟨notUnicode, meant⟩ := simpleEscape?_of_shortEscape? isShort
      simp only [List.cons_append, List.nil_append]
      rw [readUnits?.eq_3 letter later (by simp [notUnicode]), meant]
      cases readUnits? later <;> rfl
  · next noShort =>
      split
      · next isControl =>
          have number := hexToNat?_hexChars character.toNat isControl
          simp only [List.cons_append, List.nil_append, readUnits?, number]
          cases readUnits? later <;> rfl
      · next notControl =>
          have notMark : character ≠ '"' := by
            rintro rfl
            cases noShort
          have notEscape : character ≠ '\\' := by
            rintro rfl
            cases noShort
          simp only [List.cons_append, List.nil_append]
          rw [readUnits?.eq_4 character later (by simp [notMark]) (by simp [notEscape])
            (by simp [notEscape]), if_neg notControl]
          cases readUnits? later <;> rfl

/-- A string is read up to its end mark, as the numbers of its characters. -/
theorem readUnits?_escapedChars
    (characters : List Char)
    (later : List Char) :
    readUnits? (characters.flatMap escapedChar ++ '"' :: later) =
      some (characters.map Char.toNat, later) := by
  induction characters with
  | nil =>
      rfl
  | cons character rest inductionHypothesis =>
      rw [List.flatMap_cons, List.append_assoc, readUnits?_escapedChar, inductionHypothesis]
      rfl

/-- No character is half of a surrogate pair. -/
theorem not_isHalf (character : Char) :
    isHighHalf character.toNat = false ∧ isLowHalf character.toNat = false := by
  have valid :
      character.toNat < 0xD800 ∨ (0xDFFF < character.toNat ∧ character.toNat < 0x110000) :=
    character.valid
  simp only [isHighHalf, isLowHalf, Bool.and_eq_false_iff, decide_eq_false_iff_not]
  omega

theorem charsOfUnits?_cons
    (character : Char)
    (units : List Nat) :
    charsOfUnits? (character.toNat :: units) =
      (charsOfUnits? units).map (character :: ·) := by
  obtain ⟨notHigh, notLow⟩ := not_isHalf character
  cases units with
  | nil =>
      simp [charsOfUnits?, notHigh, notLow]
  | cons next rest =>
      simp [charsOfUnits?, notHigh, notLow]

theorem ofUnits_toNat (text : String) :
    ofUnits (text.toList.map Char.toNat) = string text := by
  have readBack : charsOfUnits? (text.toList.map Char.toNat) = some text.toList := by
    induction text.toList with
    | nil =>
        rfl
    | cons character rest inductionHypothesis =>
        rw [List.map_cons, charsOfUnits?_cons, inductionHypothesis]
        rfl
  rw [ofUnits, readBack]
  exact congrArg string String.ofList_toList

/-! Numbers. -/

theorem digitsToNat_eq_ofDigitChars (digits : List Char) :
    Numeral.digitsToNat digits = Nat.ofDigitChars 10 digits 0 := by
  have fromAnyStart :
      ∀ start, digits.foldl (fun value digit => value * 10 + (digit.toNat - '0'.toNat)) start =
        Nat.ofDigitChars 10 digits start := by
    induction digits with
    | nil =>
        intro start
        rfl
    | cons digit rest inductionHypothesis =>
        intro start
        rw [List.foldl_cons, inductionHypothesis, Nat.ofDigitChars_cons, Nat.mul_comm start]
  exact fromAnyStart 0

@[simp] theorem digitsToNat_toDigits (number : Nat) :
    Numeral.digitsToNat (Nat.toDigits 10 number) = number := by
  rw [digitsToNat_eq_ofDigitChars, Nat.ofDigitChars_toDigits (by decide) (by decide)]

/-- Digits start with zero only if they are those of zero. -/
theorem eq_nil_of_toDigits
    {number : Nat}
    {rest : List Char}
    (digits : Nat.toDigits 10 number = '0' :: rest) :
    rest = [] := by
  by_contra nonempty
  have restDigits : ∀ digit ∈ rest, digit.isDigit = true := by
    intro digit member
    exact Numeral.isDigit_of_mem_toDigits (digits ▸ List.mem_cons_of_mem _ member)
  have value : Nat.ofDigitChars 10 rest 0 = number := by
    have whole := Nat.ofDigitChars_toDigits (b := 10) (n := number) (by decide) (by decide)
    rwa [digits, Nat.ofDigitChars_cons] at whole
  have fits : number < 10 ^ rest.length := value ▸ Numeral.ofDigitChars_lt restDigits
  have positive : 0 < rest.length := List.length_pos_iff.mpr nonempty
  have short := (Nat.length_toDigits_le_iff (by decide) positive).mpr fits
  rw [digits, List.length_cons] at short
  omega

theorem ofNumeral_toDigits
    {negative : Bool}
    {number : Nat}
    (notZero : (negative && number == 0) = false) :
    ofNumeral negative (Nat.toDigits 10 number) [] [] =
      integer (if negative then -number else number) := by
  simp only [ofNumeral, digitsToNat_toDigits, List.isEmpty_nil, notZero, Bool.not_false,
    Bool.and_self, if_true]

section

variable {later : List Char} (ends : EndsValue later)

include ends

theorem readDigits?_toDigits (number : Nat) :
    readDigits? (Nat.toDigits 10 number ++ later) = some (Nat.toDigits 10 number, later) := by
  have allDigits : ∀ digit ∈ Nat.toDigits 10 number, digit.isDigit = true :=
    fun digit => Numeral.isDigit_of_mem_toDigits
  have noDigits : later.takeWhile Char.isDigit = [] ∧ later.dropWhile Char.isDigit = later := by
    cases ends <;> exact ⟨rfl, rfl⟩
  rw [readDigits?, List.takeWhile_append_of_pos allDigits, List.dropWhile_append_of_pos allDigits,
    noDigits.1, noDigits.2, List.append_nil]
  simp [Nat.toDigits_ne_nil]

theorem readWhole?_toDigits (number : Nat) :
    readWhole? (Nat.toDigits 10 number ++ later) = some (Nat.toDigits 10 number, later) := by
  have digits := readDigits?_toDigits ends number
  cases written : Nat.toDigits 10 number with
  | nil =>
      exact absurd written Nat.toDigits_ne_nil
  | cons first rest =>
      rw [written] at digits
      by_cases isZero : first = '0'
      · subst isZero
        rw [eq_nil_of_toDigits written]
        cases ends <;> rfl
      · rw [← digits]
        simp [readWhole?, isZero]

theorem readMagnitude?_toDigits
    (negative : Bool)
    (number : Nat) :
    readMagnitude? negative (Nat.toDigits 10 number ++ later) =
      some (ofNumeral negative (Nat.toDigits 10 number) [] [], later) := by
  have noRest :
      readFraction? later = some ([], later) ∧ readExponent? later = some ([], later) := by
    cases ends <;> exact ⟨rfl, rfl⟩
  simp [readMagnitude?, readWhole?_toDigits ends, noRest.1, noRest.2]

/-- An integer is read back in front of what may follow a value. -/
theorem readNumber?_intChars (number : Int) :
    readNumber? (Numeral.intChars number ++ later) = some (integer number, later) := by
  unfold Numeral.intChars
  by_cases isNegative : number < 0
  · have magnitude := readMagnitude?_toDigits ends true number.natAbs
    have notZero : (true && number.natAbs == 0) = false := by
      rw [Bool.true_and, beq_eq_false_iff_ne]
      omega
    have isNumber : (if true then -(number.natAbs : Int) else number.natAbs) = number := by
      rw [if_pos rfl]
      omega
    rw [ofNumeral_toDigits notZero, isNumber] at magnitude
    rw [if_pos isNegative, List.singleton_append, List.cons_append, readNumber?, magnitude]
  · have magnitude := readMagnitude?_toDigits ends false number.natAbs
    have isNumber : (if false then -(number.natAbs : Int) else number.natAbs) = number := by
      rw [if_neg Bool.false_ne_true]
      omega
    rw [ofNumeral_toDigits rfl, isNumber] at magnitude
    have noSign : ∀ rest, Nat.toDigits 10 number.natAbs ++ later ≠ '-' :: rest := by
      intro rest same
      obtain ⟨first, others, digits⟩ := List.exists_cons_of_ne_nil
        (Nat.toDigits_ne_nil (n := number.natAbs) (b := 10))
      have isDigit := Numeral.isDigit_of_mem_toDigits (digits ▸ List.mem_cons_self)
      rw [digits, List.cons_append, List.cons.injEq] at same
      rw [same.1] at isDigit
      cases isDigit
    rw [if_neg isNegative, List.nil_append, readNumber?.eq_2 _ noSign, magnitude]

end

/-! Values. -/

theorem skipSpace_cons
    {first : Char}
    (notSpace : isSpace first = false)
    (rest : List Char) :
    skipSpace (first :: rest) = first :: rest :=
  List.dropWhile_cons_of_neg (by simp [notSpace])

/-- A numeral starts with its sign or with a digit. -/
theorem exists_intChars (number : Int) :
    ∃ first rest,
      Numeral.intChars number = first :: rest ∧ (first = '-' ∨ first.isDigit = true) := by
  unfold Numeral.intChars
  by_cases isNegative : number < 0
  · exact ⟨'-', Nat.toDigits 10 number.natAbs, by rw [if_pos isNegative]; rfl, .inl rfl⟩
  · obtain ⟨first, rest, digits⟩ := List.exists_cons_of_ne_nil
      (Nat.toDigits_ne_nil (n := number.natAbs) (b := 10))
    have isDigit := Numeral.isDigit_of_mem_toDigits (digits ▸ List.mem_cons_self)
    exact ⟨first, rest, by rw [if_neg isNegative, List.nil_append, digits], .inr isDigit⟩

theorem not_isSpace_of_starts
    {first : Char}
    (starts : first = '-' ∨ first.isDigit = true) :
    isSpace first = false ∧ first ≠ ']' := by
  rcases starts with rfl | isDigit
  · exact ⟨rfl, by decide⟩
  · simp only [isSpace, Bool.or_eq_false_iff, beq_eq_false_iff_ne]
    refine ⟨⟨⟨⟨?_, ?_⟩, ?_⟩, ?_⟩, ?_⟩ <;> rintro rfl <;> cases isDigit

/-- What is written for a value starts with no blank and with no closing bracket. -/
theorem exists_toChars {value : Json} (plain : value.IsPlain) :
    ∃ first rest, value.toChars = first :: rest ∧ isSpace first = false ∧ first ≠ ']' := by
  cases value with
  | null =>
      exact ⟨_, _, rfl, rfl, by decide⟩
  | boolean truth =>
      cases truth <;> exact ⟨_, _, rfl, rfl, by decide⟩
  | integer number =>
      obtain ⟨first, rest, written, starts⟩ := exists_intChars number
      exact ⟨first, rest, written, not_isSpace_of_starts starts⟩
  | string text =>
      exact ⟨_, _, rfl, rfl, by decide⟩
  | array items =>
      exact ⟨_, _, rfl, rfl, by decide⟩
  | object members =>
      exact ⟨_, _, rfl, rfl, by decide⟩
  | real numeral =>
      exact plain.elim
  | unreadable =>
      exact plain.elim

theorem exists_itemChars
    {item : Json}
    (plain : item.IsPlain)
    (rest : List Json) :
    ∃ first later,
      itemChars (item :: rest) = first :: later ∧ isSpace first = false ∧ first ≠ ']' := by
  obtain ⟨first, others, written, starts⟩ := exists_toChars plain
  cases rest with
  | nil =>
      exact ⟨first, others, written, starts⟩
  | cons second more =>
      refine ⟨first, others ++ ',' :: itemChars (second :: more), ?_, starts⟩
      rw [itemChars, written, List.cons_append]
      simp

/-! Each sort of value is read after its first character. -/

theorem readValue?_openingBracket
    {first : Char}
    (notSpace : isSpace first = false)
    (notClosing : first ≠ ']')
    (rest : List Char)
    (fuel : Nat) :
    readValue? (fuel + 1) ('[' :: first :: rest) =
      (readItems? fuel (first :: rest)).map fun (items, later) => (array items, later) := by
  rw [readValue?, skipSpace_cons rfl]
  simp only [skipSpace_cons notSpace]
  split
  · next same =>
      exact absurd (List.cons.inj same).1 notClosing
  · rfl

theorem readValue?_openingBrace
    (rest : List Char)
    (fuel : Nat) :
    readValue? (fuel + 1) ('\x7b' :: '"' :: rest) =
      (readMembers? fuel ('"' :: rest)).map fun (members, later) =>
        (ofMembers members, later) := by
  rw [readValue?, skipSpace_cons rfl]
  rfl

/-- A string is read back, whatever characters it has. -/
theorem readValue?_stringChars
    (text : String)
    (later : List Char)
    (fuel : Nat) :
    readValue? (fuel + 1) (stringChars text ++ later) = some (string text, later) := by
  have units := readUnits?_escapedChars text.toList later
  simp only [stringChars, List.cons_append, List.append_assoc, List.nil_append]
  rw [readValue?, skipSpace_cons rfl]
  simp [units, ofUnits_toNat]

/-- An object is made of members with readable keys. -/
theorem ofMembers_map_string (members : List (String × Json)) :
    ofMembers (members.map (Prod.map string id)) = object members := by
  have readable :
      (members.map (Prod.map string id)).mapM readableMember? = some members := by
    induction members with
    | nil =>
        rfl
    | cons member rest inductionHypothesis =>
        rw [List.map_cons, List.mapM_cons, inductionHypothesis]
        rfl
  rw [ofMembers, readable]

theorem exists_memberChars
    (key : String)
    (value : Json)
    (rest : List (String × Json)) :
    ∃ others, memberChars ((key, value) :: rest) = '"' :: others := by
  cases rest <;> exact ⟨_, rfl⟩

/-- What is read of an object after one of its members. -/
def membersAfter?
    (fuel : Nat)
    (member : Json × Json) :
    List Char →
    Option (List (Json × Json) × List Char)
  | ',' :: rest => (readMembers? fuel rest).map fun (members, rest) => (member :: members, rest)
  | '\x7d' :: rest => some ([member], rest)
  | _ => none

/-- A member is read after its key, and then what follows it decides. -/
theorem readMembers?_stringChars
    (key : String)
    {value : Json}
    {characters later : List Char}
    {fuel : Nat}
    (isRead : readValue? fuel characters = some (value, later)) :
    readMembers? (fuel + 1) (stringChars key ++ ':' :: characters) =
      membersAfter? fuel (string key, value) (skipSpace later) := by
  have units := readUnits?_escapedChars key.toList (':' :: characters)
  have colon : skipSpace (':' :: characters) = ':' :: characters := skipSpace_cons rfl characters
  simp only [stringChars, List.cons_append, List.append_assoc, List.nil_append]
  rw [readMembers?, skipSpace_cons rfl]
  simp only [units, Option.bind_eq_bind, Option.bind_some, colon, isRead, ofUnits_toNat]
  unfold membersAfter?
  split <;> simp_all [Option.map_eq_bind]

theorem readValue?_intChars
    (number : Int)
    {later : List Char}
    (ends : EndsValue later)
    (fuel : Nat) :
    readValue? (fuel + 1) (Numeral.intChars number ++ later) = some (integer number, later) := by
  have isNumber := readNumber?_intChars ends number
  obtain ⟨first, rest, written, starts⟩ := exists_intChars number
  rw [written, List.cons_append] at isNumber ⊢
  rw [readValue?, skipSpace_cons (not_isSpace_of_starts starts).1]
  rcases starts with rfl | isDigit
  · exact isNumber
  · split
    case h_7 =>
      exact isNumber
    all_goals
      next same =>
        rw [(List.cons.inj same).1] at isDigit
        cases isDigit

mutual

/-- What is written for a value is read back as the value, given as many calls as it may take. -/
theorem readValue?_toChars :
    ∀ {value : Json},
      value.IsPlain →
        ∀ {later : List Char},
          EndsValue later →
            ∀ {fuel : Nat},
              2 * value.toChars.length + 1 ≤ fuel →
                readValue? fuel (value.toChars ++ later) = some (value, later)
  | .null, _, later, _, fuel + 1, _ => by
      simp [toChars, readValue?, skipSpace, isSpace, afterWord?]
  | .boolean truth, _, later, _, fuel + 1, _ => by
      cases truth <;> simp [toChars, readValue?, skipSpace, isSpace, afterWord?]
  | .integer number, _, later, ends, fuel + 1, _ =>
      readValue?_intChars number ends fuel
  | .string text, _, later, _, fuel + 1, _ =>
      readValue?_stringChars text later fuel
  | .array [], _, later, _, fuel + 1, _ => by
      simp [toChars, itemChars, readValue?, skipSpace, isSpace]
  | .array (item :: rest), plain, later, _, fuel + 1, enough => by
      obtain ⟨first, others, written, notSpace, notClosing⟩ := exists_itemChars plain.1 rest
      have length : (toChars (.array (item :: rest))).length =
          (itemChars (item :: rest)).length + 2 := by
        simp [toChars]
      have fits : 2 * (itemChars (item :: rest)).length + 2 ≤ fuel := by omega
      have isRead := readItems?_itemChars plain (by simp) later fits
      rw [written, List.cons_append] at isRead
      simp only [toChars, written, List.cons_append, List.append_assoc, List.nil_append]
      rw [readValue?_openingBracket notSpace notClosing, isRead]
      rfl
  | .object [], _, later, _, fuel + 1, _ => by
      simp [toChars, memberChars, readValue?, skipSpace, isSpace]
  | .object ((key, value) :: rest), plain, later, _, fuel + 1, enough => by
      obtain ⟨others, written⟩ := exists_memberChars key value rest
      have length : (toChars (.object ((key, value) :: rest))).length =
          (memberChars ((key, value) :: rest)).length + 2 := by
        simp [toChars]
      have fits : 2 * (memberChars ((key, value) :: rest)).length + 2 ≤ fuel := by omega
      have isRead := readMembers?_memberChars plain (by simp) later fits
      rw [written, List.cons_append] at isRead
      simp only [toChars, written, List.cons_append, List.append_assoc, List.nil_append]
      rw [readValue?_openingBrace, isRead, Option.map_some]
      exact congrArg (fun read => some (read, later)) (ofMembers_map_string _)

theorem readItems?_itemChars :
    ∀ {items : List Json},
      ItemsArePlain items →
        items ≠ [] →
          ∀ (later : List Char) {fuel : Nat},
            2 * (itemChars items).length + 2 ≤ fuel →
              readItems? fuel (itemChars items ++ ']' :: later) = some (items, later)
  | [item], plain, _, later, fuel + 1, enough => by
      have fits : 2 * item.toChars.length + 1 ≤ fuel := by
        rw [itemChars] at enough
        omega
      have isRead := readValue?_toChars plain.1 (.bracket later) fits
      simp [itemChars, readItems?, isRead, skipSpace_cons, isSpace]
  | item :: second :: rest, plain, _, later, fuel + 1, enough => by
      have length : (itemChars (item :: second :: rest)).length =
          item.toChars.length + (itemChars (second :: rest)).length + 1 := by
        simp [itemChars]
        omega
      have fits : 2 * item.toChars.length + 1 ≤ fuel := by omega
      have restFits : 2 * (itemChars (second :: rest)).length + 2 ≤ fuel := by omega
      have isRead := readValue?_toChars plain.1
        (.comma (itemChars (second :: rest) ++ ']' :: later)) fits
      have restIsRead := readItems?_itemChars plain.2 (by simp) later restFits
      simp [itemChars, readItems?, isRead, restIsRead, skipSpace_cons, isSpace]

theorem readMembers?_memberChars :
    ∀ {members : List (String × Json)},
      MembersArePlain members →
        members ≠ [] →
          ∀ (later : List Char) {fuel : Nat},
            2 * (memberChars members).length + 2 ≤ fuel →
              readMembers? fuel (memberChars members ++ '\x7d' :: later) =
                some (members.map (Prod.map string id), later)
  | [(key, value)], plain, _, later, fuel + 1, enough => by
      have fits : 2 * value.toChars.length + 1 ≤ fuel := by
        simp [memberChars] at enough
        omega
      have isRead := readValue?_toChars plain.1 (.brace later) fits
      simp only [memberChars, List.cons_append, List.append_assoc]
      rw [readMembers?_stringChars key isRead, skipSpace_cons rfl, membersAfter?]
      rfl
  | (key, value) :: second :: rest, plain, _, later, fuel + 1, enough => by
      have length : (memberChars ((key, value) :: second :: rest)).length =
          (stringChars key).length + value.toChars.length +
            (memberChars (second :: rest)).length + 2 := by
        simp [memberChars]
        omega
      have fits : 2 * value.toChars.length + 1 ≤ fuel := by omega
      have restFits : 2 * (memberChars (second :: rest)).length + 2 ≤ fuel := by omega
      have isRead := readValue?_toChars plain.1
        (.comma (memberChars (second :: rest) ++ '\x7d' :: later)) fits
      have restIsRead := readMembers?_memberChars plain.2 (by simp) later restFits
      simp only [memberChars, List.cons_append, List.append_assoc]
      rw [readMembers?_stringChars key isRead, skipSpace_cons rfl, membersAfter?, restIsRead]
      rfl

end

end FieldSearch.Json
