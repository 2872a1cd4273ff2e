import LoadChart.Json.Scan

/-!
# Reading with a brace behind

What is read from some letters is also read when a closing brace and more letters follow, and the
letters left over are the same with the brace behind them.  A number is also read when any letter
follows of which no numbers are made.
-/

namespace LoadChart

/-- What stops a search does not let it go on to what follows. -/
theorem dropWhile_append_cons {α : Type} {test : α → Bool} {last : α} (stops : test last = false)
    (items more : List α) :
    (items ++ last :: more).dropWhile test = items.dropWhile test ++ last :: more := by
  induction items with
  | nil => simp [stops]
  | cons item items induction =>
      rw [List.cons_append, List.dropWhile_cons, List.dropWhile_cons]
      split
      · exact induction
      · rfl

theorem takeWhile_append_cons {α : Type} {test : α → Bool} {last : α} (stops : test last = false)
    (items more : List α) : (items ++ last :: more).takeWhile test = items.takeWhile test := by
  induction items with
  | nil => simp [stops]
  | cons item items induction =>
      rw [List.cons_append, List.takeWhile_cons, List.takeWhile_cons, induction]

namespace Json

variable {letters rest more : List Char}

theorem skipSpace_closed (letters : List Char) :
    skipSpace (letters ++ '\x7d' :: more) = skipSpace letters ++ '\x7d' :: more :=
  dropWhile_append_cons rfl letters more

variable {last : Char}

/-- What ends a number is no digit. -/
theorem isDigit_of_ends {last : Char} (ends : Scan.isNumeric last = false) :
    isDigit last = false :=
  (Bool.or_eq_false_iff.1 ends).1

theorem drop_digits_append (letters : List Char) :
    (letters ++ last :: more).drop (letters.takeWhile isDigit).length =
      letters.drop (letters.takeWhile isDigit).length ++ last :: more :=
  List.drop_append_of_le_length (List.takeWhile_sublist _).length_le

theorem readFraction?_point (letters : List Char) :
    readFraction? ('.' :: letters) =
      if (letters.takeWhile isDigit).isEmpty then none
      else some (some (letters.takeWhile isDigit),
        letters.drop (letters.takeWhile isDigit).length) := rfl

theorem readFraction?_of_ne {letter : Char} (different : letter ≠ '.') (letters : List Char) :
    readFraction? (letter :: letters) = some (none, letter :: letters) := by
  unfold readFraction?
  split
  next same => exact absurd (List.cons.inj same).1 different
  · rfl

theorem readFraction?_append (ends : Scan.isNumeric last = false) {digits : Option (List Char)}
    (found : readFraction? letters = some (digits, rest)) :
    readFraction? (letters ++ last :: more) = some (digits, rest ++ last :: more) := by
  cases letters with
  | nil =>
      cases found
      refine readFraction?_of_ne ?_ more
      rintro rfl
      exact absurd ends (by decide)
  | cons letter letters =>
      by_cases point : letter = '.'
      · subst point
        rw [readFraction?_point] at found
        rw [List.cons_append, readFraction?_point, takeWhile_append_cons (isDigit_of_ends ends),
          drop_digits_append]
        split at found
        · cases found
        next some? =>
          cases found
          rw [if_neg some?]
      · rw [readFraction?_of_ne point] at found
        cases found
        exact readFraction?_of_ne point _

theorem readExponentDigits?_append (ends : Scan.isNumeric last = false) {negative : Bool}
    {exponent : Option (Bool × List Char)}
    (found : readExponentDigits? negative letters = some (exponent, rest)) :
    readExponentDigits? negative (letters ++ last :: more) =
      some (exponent, rest ++ last :: more) := by
  unfold readExponentDigits? at found ⊢
  dsimp only at found ⊢
  rw [takeWhile_append_cons (isDigit_of_ends ends), drop_digits_append]
  split at found
  · cases found
  next some? =>
    cases found
    rw [if_neg some?]

/-- The digits of an exponent behind its sign, if it has one. -/
def readSigned? : List Char → Option (Option (Bool × List Char) × List Char)
  | '-' :: digits => readExponentDigits? true digits
  | '+' :: digits => readExponentDigits? false digits
  | digits => readExponentDigits? false digits

theorem readSigned?_of_ne {sign : Char} (noMinus : sign ≠ '-') (noPlus : sign ≠ '+')
    (digits : List Char) :
    readSigned? (sign :: digits) = readExponentDigits? false (sign :: digits) := by
  unfold readSigned?
  split
  next same => exact absurd (List.cons.inj same).1 noMinus
  next same => exact absurd (List.cons.inj same).1 noPlus
  · rfl

theorem readSigned?_append (ends : Scan.isNumeric last = false)
    {exponent : Option (Bool × List Char)}
    (found : readSigned? letters = some (exponent, rest)) :
    readSigned? (letters ++ last :: more) = some (exponent, rest ++ last :: more) := by
  cases letters with
  | nil => cases found
  | cons sign digits =>
      by_cases minus : sign = '-'
      · subst minus
        exact readExponentDigits?_append ends found
      by_cases plus : sign = '+'
      · subst plus
        exact readExponentDigits?_append ends found
      rw [readSigned?_of_ne minus plus] at found
      rw [List.cons_append, readSigned?_of_ne minus plus, ← List.cons_append]
      exact readExponentDigits?_append ends found

theorem readExponent?_cons (letter : Char) (letters : List Char) :
    readExponent? (letter :: letters) =
      if letter = 'e' ∨ letter = 'E' then readSigned? letters
      else some (none, letter :: letters) := rfl

theorem readExponent?_append (ends : Scan.isNumeric last = false)
    {exponent : Option (Bool × List Char)}
    (found : readExponent? letters = some (exponent, rest)) :
    readExponent? (letters ++ last :: more) = some (exponent, rest ++ last :: more) := by
  cases letters with
  | nil =>
      cases found
      have unmarked : ¬(last = 'e' ∨ last = 'E') := by
        rintro (rfl | rfl) <;> exact absurd ends (by decide)
      rw [List.nil_append, readExponent?_cons, if_neg unmarked]
  | cons letter letters =>
      rw [readExponent?_cons] at found
      rw [List.cons_append, readExponent?_cons]
      split at found
      next marked =>
        rw [if_pos marked]
        exact readSigned?_append ends found
      next unmarked =>
        cases found
        rw [if_neg unmarked]
        rfl

theorem readWhole?_append (ends : Scan.isNumeric last = false)
    {digits : List Char} (found : readWhole? letters = some (digits, rest)) :
    readWhole? (letters ++ last :: more) = some (digits, rest ++ last :: more) := by
  unfold readWhole? at found ⊢
  dsimp only at found ⊢
  rw [takeWhile_append_cons (isDigit_of_ends ends)]
  split at found
  · cases found
  · cases found
  next notEmpty notZero =>
    cases found
    rw [drop_digits_append]

def readUnsigned? (negative : Bool) (letters : List Char) : Option (NumberText × List Char) := do
  let (whole, letters) ← readWhole? letters
  let (fraction, letters) ← readFraction? letters
  let (exponent, letters) ← readExponent? letters
  return (⟨negative, whole, fraction, exponent⟩, letters)

theorem readUnsigned?_append (ends : Scan.isNumeric last = false) {negative : Bool}
    {number : NumberText}
    (found : readUnsigned? negative letters = some (number, rest)) :
    readUnsigned? negative (letters ++ last :: more) = some (number, rest ++ last :: more) := by
  obtain ⟨⟨whole, afterWhole⟩, foundWhole, found⟩ := Option.bind_eq_some_iff.1 found
  obtain ⟨⟨fraction, afterFraction⟩, foundFraction, found⟩ := Option.bind_eq_some_iff.1 found
  obtain ⟨⟨exponent, afterExponent⟩, foundExponent, found⟩ := Option.bind_eq_some_iff.1 found
  cases found
  unfold readUnsigned?
  rw [readWhole?_append ends foundWhole]
  dsimp only [Option.bind_eq_bind, Option.bind_some]
  rw [readFraction?_append ends foundFraction]
  dsimp only [Option.bind_some]
  rw [readExponent?_append ends foundExponent]
  rfl

theorem readNumberText?_of_ne {sign : Char} (noMinus : sign ≠ '-') (letters : List Char) :
    readNumberText? (sign :: letters) = readUnsigned? false (sign :: letters) := by
  unfold readNumberText?
  split
  next same =>
    split at same
    next minus => exact absurd (List.cons.inj minus).1 noMinus
    · cases same
      rfl

theorem readNumberText?_append (ends : Scan.isNumeric last = false) {number : NumberText}
    (found : readNumberText? letters = some (number, rest)) :
    readNumberText? (letters ++ last :: more) = some (number, rest ++ last :: more) := by
  cases letters with
  | nil => cases found
  | cons sign letters =>
      by_cases minus : sign = '-'
      · subst minus
        exact readUnsigned?_append ends found
      · rw [readNumberText?_of_ne minus] at found
        rw [List.cons_append, readNumberText?_of_ne minus, ← List.cons_append]
        exact readUnsigned?_append ends found

theorem readNumber?_append (ends : Scan.isNumeric last = false) {value : Json}
    (found : readNumber? letters = some (value, rest)) :
    readNumber? (letters ++ last :: more) = some (value, rest ++ last :: more) := by
  unfold readNumber? at found ⊢
  obtain ⟨⟨number, left⟩, foundText, same⟩ := Option.map_eq_some_iff.1 found
  cases same
  rw [readNumberText?_append ends foundText]
  rfl

theorem readPieces?_unit (first second third fourth : Char) (letters : List Char) :
    readPieces? ('\\' :: 'u' :: first :: second :: third :: fourth :: letters) = (do
      let value ← unitValue? first second third fourth
      (readPieces? letters).map (consPiece (.unit value))) := by
  rw [readPieces?]

theorem readPieces?_escape {letter : Char} (noUnit : letter ≠ 'u') (letters : List Char) :
    readPieces? ('\\' :: letter :: letters) = (do
      let value ← escapedLetter? letter
      (readPieces? letters).map (consPiece (.letter value))) := by
  rw [readPieces?]
  intro _ _ _ _ _ unit
  exact absurd unit noUnit

theorem readPieces?_letter {letter : Char} (noQuote : letter ≠ '"') (noEscape : letter ≠ '\\')
    (letters : List Char) :
    readPieces? (letter :: letters) =
      if letter.toNat < 0x20 ∨ letter = '\\' then none
      else (readPieces? letters).map (consPiece (.letter letter)) := by
  rw [readPieces?]
  · intro quote
    exact absurd quote noQuote
  · intro _ _ _ _ _ escape
    exact absurd escape noEscape
  · intro _ _ escape
    exact absurd escape noEscape

/-- A string ends with its quote, whatever follows. -/
theorem readPieces?_append {pieces : List StringPiece}
    (found : readPieces? letters = some (pieces, rest)) (more : List Char) :
    readPieces? (letters ++ more) = some (pieces, rest ++ more) := by
  induction letters using readPieces?.induct generalizing pieces with
  | case1 => cases found
  | case2 letters =>
      cases found
      rfl
  | case3 first second third fourth letters induction =>
      rw [readPieces?_unit] at found
      obtain ⟨unit, foundUnit, found⟩ := Option.bind_eq_some_iff.1 found
      obtain ⟨⟨others, left⟩, foundRest, same⟩ := Option.map_eq_some_iff.1 found
      cases same
      simp only [List.cons_append, readPieces?_unit, foundUnit, induction foundRest]
      rfl
  | case4 letter letters notUnit induction =>
      by_cases unit : letter = 'u'
      · rw [readPieces?] at found
        · subst unit
          cases found
        · exact notUnit
      · rw [readPieces?_escape unit] at found
        obtain ⟨character, foundLetter, found⟩ := Option.bind_eq_some_iff.1 found
        obtain ⟨⟨others, left⟩, foundRest, same⟩ := Option.map_eq_some_iff.1 found
        cases same
        simp only [List.cons_append, readPieces?_escape unit, foundLetter, induction foundRest]
        rfl
  | case5 letter letters notQuote notEscape short control =>
      rw [readPieces?] at found
      · rw [if_pos control] at found
        cases found
      · exact notQuote
      · exact notEscape
      · exact short
  | case6 letter letters notQuote notUnit short plain induction =>
      have noEscape : letter ≠ '\\' := fun escape => plain (Or.inr escape)
      rw [readPieces?_letter notQuote noEscape, if_neg plain] at found
      obtain ⟨⟨others, left⟩, foundRest, same⟩ := Option.map_eq_some_iff.1 found
      cases same
      rw [List.cons_append, readPieces?_letter notQuote noEscape, if_neg plain,
        induction foundRest]
      rfl

theorem readString?_append {text? : Option String}
    (found : readString? letters = some (text?, rest)) (more : List Char) :
    readString? (letters ++ more) = some (text?, rest ++ more) := by
  obtain ⟨⟨pieces, left⟩, foundPieces, same⟩ := Option.map_eq_some_iff.1 found
  cases same
  rw [readString?, readPieces?_append foundPieces]
  rfl

theorem readWord?_append {word : List Char} (found : readWord? word letters = some rest)
    (more : List Char) : readWord? word (letters ++ more) = some (rest ++ more) := by
  unfold readWord? at found ⊢
  split at found
  next begins =>
    cases found
    obtain ⟨left, rfl⟩ := List.isPrefixOf_iff_prefix.1 begins
    have still : word.isPrefixOf (word ++ left ++ more) = true :=
      List.isPrefixOf_iff_prefix.2 ⟨left ++ more, (List.append_assoc _ _ _).symm⟩
    rw [if_pos still, List.append_assoc, List.drop_left, List.drop_left]
  · cases found

def readArray? (fuel : Nat) (letters : List Char) : Option (Json × List Char) :=
  match skipSpace letters with
  | ']' :: rest => some (.array [], rest)
  | _ => (readItems? fuel letters).map fun (items, rest) => (.array items, rest)

def readObject? (fuel : Nat) (letters : List Char) : Option (Json × List Char) :=
  match skipSpace letters with
  | '\x7d' :: rest => some (.object [], rest)
  | _ => (readMembers? fuel letters).map fun (members, rest) => (ofMembers members, rest)

def readBegun? (fuel : Nat) (letter : Char) (rest : List Char) : Option (Json × List Char) :=
  match letter with
  | '"' =>
      (readString? rest).map fun (text?, rest) => ((text?.map Json.string).getD .unreadable, rest)
  | '[' => readArray? fuel rest
  | '\x7b' => readObject? fuel rest
  | 't' => (readWord? ['r', 'u', 'e'] rest).map ((.bool true, ·))
  | 'f' => (readWord? ['a', 'l', 's', 'e'] rest).map ((.bool false, ·))
  | 'n' => (readWord? ['u', 'l', 'l'] rest).map ((.null, ·))
  | letter => readNumber? (letter :: rest)

def readBehindItem? (fuel : Nat) (item : Json) (letters : List Char) :
    Option (List Json × List Char) :=
  match skipSpace letters with
  | ',' :: rest => (readItems? fuel rest).map fun (items, rest) => (item :: items, rest)
  | ']' :: rest => some ([item], rest)
  | _ => none

def readBehindMember? (fuel : Nat) (member : Option String × Json) (letters : List Char) :
    Option (List (Option String × Json) × List Char) :=
  match skipSpace letters with
  | ',' :: rest => (readMembers? fuel rest).map fun (members, rest) => (member :: members, rest)
  | '\x7d' :: rest => some ([member], rest)
  | _ => none

def readBehindName? (fuel : Nat) (name? : Option String) (letters : List Char) :
    Option (List (Option String × Json) × List Char) :=
  match skipSpace letters with
  | ':' :: rest =>
      (readValue? fuel rest).bind fun (value, rest) => readBehindMember? fuel (name?, value) rest
  | _ => none

theorem readValue?_of_begun {letter : Char} (begun : skipSpace letters = letter :: rest)
    (fuel : Nat) : readValue? (fuel + 1) letters = readBegun? fuel letter rest := by
  rw [readValue?, begun]
  unfold readBegun?
  split
  next same => cases same; rfl
  next same => cases same; rfl
  next same => cases same; rfl
  next same => cases same; rfl
  next same => cases same; rfl
  next same => cases same; rfl
  next notQuote notList notObject notTrue notFalse notNull =>
    split
    · exact absurd rfl (notQuote _)
    · exact absurd rfl (notList _)
    · exact absurd rfl (notObject _)
    · exact absurd rfl (notTrue _)
    · exact absurd rfl (notFalse _)
    · exact absurd rfl (notNull _)
    · rfl

theorem readValue?_of_blank (blank : skipSpace letters = []) (fuel : Nat) :
    readValue? fuel letters = none := by
  cases fuel with
  | zero => rfl
  | succ fuel =>
      rw [readValue?, blank]
      rfl

theorem readItems?_succ (fuel : Nat) (letters : List Char) :
    readItems? (fuel + 1) letters =
      (readValue? fuel letters).bind fun (item, rest) => readBehindItem? fuel item rest := by
  rw [readItems?]
  rfl

theorem readMembers?_of_quote (begun : skipSpace letters = '"' :: rest) (fuel : Nat) :
    readMembers? (fuel + 1) letters =
      (readString? rest).bind fun (name?, rest) => readBehindName? fuel name? rest := by
  rw [readMembers?, begun]
  rfl

theorem readMembers?_of_ne {letter : Char} (begun : skipSpace letters = letter :: rest)
    (noQuote : letter ≠ '"') (fuel : Nat) : readMembers? (fuel + 1) letters = none := by
  rw [readMembers?, begun]
  split
  next same => exact absurd (List.cons.inj same).1 noQuote
  · rfl

theorem readMembers?_of_blank (blank : skipSpace letters = []) (fuel : Nat) :
    readMembers? fuel letters = none := by
  cases fuel with
  | zero => rfl
  | succ fuel =>
      rw [readMembers?, blank]

theorem skipSpace_closed_cons {letter : Char} (begun : skipSpace letters = letter :: rest) :
    skipSpace (letters ++ '\x7d' :: more) = letter :: (rest ++ '\x7d' :: more) := by
  rw [skipSpace_closed, begun, List.cons_append]

/-- What is read with some fuel is read with some other when a brace and more letters follow. -/
structure Closes (more : List Char) (fuel enough : Nat) : Prop where
  value : ∀ {letters rest value}, readValue? fuel letters = some (value, rest) →
    readValue? enough (letters ++ '\x7d' :: more) = some (value, rest ++ '\x7d' :: more)
  items : ∀ {letters rest items}, readItems? fuel letters = some (items, rest) →
    readItems? enough (letters ++ '\x7d' :: more) = some (items, rest ++ '\x7d' :: more)
  members : ∀ {letters rest members}, readMembers? fuel letters = some (members, rest) →
    readMembers? enough (letters ++ '\x7d' :: more) = some (members, rest ++ '\x7d' :: more)

namespace Closes

variable {fuel enough : Nat}

theorem readArray? (closes : Closes more fuel enough) {value : Json}
    (found : readArray? fuel letters = some (value, rest)) :
    readArray? enough (letters ++ '\x7d' :: more) = some (value, rest ++ '\x7d' :: more) := by
  unfold Json.readArray? at found ⊢
  split at found
  next ends =>
    cases found
    rw [skipSpace_closed_cons ends]
    rfl
  next notEnd =>
    obtain ⟨⟨items, final⟩, foundItems, same⟩ := Option.map_eq_some_iff.1 found
    cases same
    rw [closes.items foundItems]
    split
    next ends =>
      rw [skipSpace_closed] at ends
      cases begins : skipSpace letters with
      | nil =>
          rw [begins] at ends
          cases ends
      | cons mark behind =>
          rw [begins, List.cons_append] at ends
          cases ends
          exact absurd begins (notEnd _)
    · rfl

theorem readObject? (closes : Closes more fuel enough) {value : Json}
    (found : readObject? fuel letters = some (value, rest)) :
    readObject? enough (letters ++ '\x7d' :: more) = some (value, rest ++ '\x7d' :: more) := by
  unfold Json.readObject? at found ⊢
  split at found
  next ends =>
    cases found
    rw [skipSpace_closed_cons ends]
    rfl
  next notEnd =>
    obtain ⟨⟨members, final⟩, foundMembers, same⟩ := Option.map_eq_some_iff.1 found
    cases same
    rw [closes.members foundMembers]
    split
    next ends =>
      rw [skipSpace_closed] at ends
      cases begins : skipSpace letters with
      | nil =>
          rw [readMembers?_of_blank begins] at foundMembers
          cases foundMembers
      | cons mark behind =>
          rw [begins, List.cons_append] at ends
          cases ends
          exact absurd begins (notEnd _)
    · rfl

theorem readWord? {word : List Char} {own value : Json}
    (found : (readWord? word letters).map ((own, ·)) = some (value, rest)) :
    (readWord? word (letters ++ '\x7d' :: more)).map ((own, ·)) =
      some (value, rest ++ '\x7d' :: more) := by
  obtain ⟨final, foundWord, same⟩ := Option.map_eq_some_iff.1 found
  cases same
  rw [readWord?_append foundWord]
  rfl

theorem readBegun? (closes : Closes more fuel enough) {letter : Char} {value : Json}
    (found : readBegun? fuel letter letters = some (value, rest)) :
    readBegun? enough letter (letters ++ '\x7d' :: more) =
      some (value, rest ++ '\x7d' :: more) := by
  unfold Json.readBegun? at found ⊢
  split at found
  · obtain ⟨⟨text?, final⟩, foundText, same⟩ := Option.map_eq_some_iff.1 found
    cases same
    rw [readString?_append foundText]
    rfl
  · exact closes.readArray? found
  · exact closes.readObject? found
  · exact readWord? found
  · exact readWord? found
  · exact readWord? found
  · rw [← List.cons_append]
    exact readNumber?_append (by decide) found

theorem readBehindItem? (closes : Closes more fuel enough) {item : Json} {items : List Json}
    (found : readBehindItem? fuel item letters = some (items, rest)) :
    readBehindItem? enough item (letters ++ '\x7d' :: more) =
      some (items, rest ++ '\x7d' :: more) := by
  unfold Json.readBehindItem? at found ⊢
  split at found
  next comma =>
    obtain ⟨⟨others, final⟩, foundItems, same⟩ := Option.map_eq_some_iff.1 found
    cases same
    rw [skipSpace_closed_cons comma]
    exact congrArg (Option.map _) (closes.items foundItems)
  next ends =>
    cases found
    rw [skipSpace_closed_cons ends]
    rfl
  · cases found

theorem readBehindMember? (closes : Closes more fuel enough) {member : Option String × Json}
    {members : List (Option String × Json)}
    (found : readBehindMember? fuel member letters = some (members, rest)) :
    readBehindMember? enough member (letters ++ '\x7d' :: more) =
      some (members, rest ++ '\x7d' :: more) := by
  unfold Json.readBehindMember? at found ⊢
  split at found
  next comma =>
    obtain ⟨⟨others, final⟩, foundMembers, same⟩ := Option.map_eq_some_iff.1 found
    cases same
    rw [skipSpace_closed_cons comma]
    exact congrArg (Option.map _) (closes.members foundMembers)
  next ends =>
    cases found
    rw [skipSpace_closed_cons ends]
    rfl
  · cases found

theorem readBehindName? (closes : Closes more fuel enough) {name? : Option String}
    {members : List (Option String × Json)}
    (found : readBehindName? fuel name? letters = some (members, rest)) :
    readBehindName? enough name? (letters ++ '\x7d' :: more) =
      some (members, rest ++ '\x7d' :: more) := by
  unfold Json.readBehindName? at found ⊢
  split at found
  next colon =>
    obtain ⟨⟨value, behind⟩, foundValue, foundBehind⟩ := Option.bind_eq_some_iff.1 found
    rw [skipSpace_closed_cons colon]
    exact Option.bind_eq_some_iff.2
      ⟨_, closes.value foundValue, closes.readBehindMember? foundBehind⟩
  · cases found

theorem succ (closes : Closes more fuel enough) : Closes more (fuel + 1) (enough + 1) where
  value := by
    intro letters rest value found
    cases begun : skipSpace letters with
    | nil =>
        rw [readValue?_of_blank begun] at found
        cases found
    | cons letter left =>
        rw [readValue?_of_begun begun] at found
        rw [readValue?_of_begun (skipSpace_closed_cons begun)]
        exact closes.readBegun? found
  items := by
    intro letters rest items found
    rw [readItems?_succ] at found ⊢
    obtain ⟨⟨item, left⟩, foundItem, foundBehind⟩ := Option.bind_eq_some_iff.1 found
    exact Option.bind_eq_some_iff.2
      ⟨_, closes.value foundItem, closes.readBehindItem? foundBehind⟩
  members := by
    intro letters rest members found
    cases begun : skipSpace letters with
    | nil =>
        rw [readMembers?_of_blank begun] at found
        cases found
    | cons letter left =>
        by_cases quote : letter = '"'
        · subst quote
          rw [readMembers?_of_quote begun] at found
          rw [readMembers?_of_quote (skipSpace_closed_cons begun)]
          obtain ⟨⟨name?, behind⟩, foundName, foundBehind⟩ := Option.bind_eq_some_iff.1 found
          exact Option.bind_eq_some_iff.2
            ⟨_, readString?_append foundName _, closes.readBehindName? foundBehind⟩
        · rw [readMembers?_of_ne begun quote] at found
          cases found

theorem of_le (le : fuel ≤ enough) : Closes more fuel enough := by
  induction fuel generalizing enough with
  | zero => exact ⟨by rintro _ _ _ ⟨⟩, by rintro _ _ _ ⟨⟩, by rintro _ _ _ ⟨⟩⟩
  | succ fuel induction =>
      obtain ⟨enough, rfl⟩ : ∃ less, enough = less + 1 := ⟨enough - 1, by omega⟩
      exact (induction (Nat.le_of_succ_le_succ le)).succ

end Closes

end Json

end LoadChart
