import LoadChart.Calendar.Day
import LoadChart.Text.Digits
import LoadChart.Text.Letters

/-!
# Texts of days

Writing a day in the forms the program shows, and reading the form year, month and day.  A year
outside 0 to 9999 carries a sign, and every year has at least four digits.
-/

namespace LoadChart

namespace Day

/-- The year with at least four digits, signed outside 0 to 9999. -/
def yearText (year : Int) : String :=
  if year < 0 then "-" ++ paddedText 4 year.natAbs
  else if 9999 < year then "+" ++ paddedText 4 year.natAbs
  else paddedText 4 year.natAbs

/-- English names of the months, cut to three letters. -/
def monthAbbreviation : Nat → String
  | 1 => "Jan" | 2 => "Feb" | 3 => "Mar" | 4 => "Apr" | 5 => "May" | 6 => "Jun"
  | 7 => "Jul" | 8 => "Aug" | 9 => "Sep" | 10 => "Oct" | 11 => "Nov" | _ => "Dec"

def monthName : Nat → String
  | 1 => "January" | 2 => "February" | 3 => "March" | 4 => "April" | 5 => "May" | 6 => "June"
  | 7 => "July" | 8 => "August" | 9 => "September" | 10 => "October" | 11 => "November"
  | _ => "December"

/-- Year, month and day of the month, as in `2026-02-05`. -/
def isoText (day : Day) : String :=
  let date := day.civil
  yearText date.year ++ "-" ++ paddedText 2 date.month ++ "-" ++ paddedText 2 date.day

/-- Day of the month, month and year, as in `05/02/2026`. -/
def slashText (day : Day) : String :=
  let date := day.civil
  paddedText 2 date.day ++ "/" ++ paddedText 2 date.month ++ "/" ++ yearText date.year

/-- Day of the month and month, as in `05/02`. -/
def shortSlashText (day : Day) : String :=
  let date := day.civil
  paddedText 2 date.day ++ "/" ++ paddedText 2 date.month

/-- Year and month, as in `2026-02`. -/
def monthKey (day : Day) : String :=
  let date := day.civil
  yearText date.year ++ "-" ++ paddedText 2 date.month

/-- Month and year, as in `Feb 2026`. -/
def monthLabel (day : Day) : String :=
  let date := day.civil
  monthAbbreviation date.month ++ " " ++ yearText date.year

/-- The number of the week, as in `W06`. -/
def weekLabel (day : Day) : String := "W" ++ paddedText 2 day.isoWeek

/-- Reads a year: a sign and any number of digits, or up to four digits. -/
def readYear? (letters : List Char) : Option (Int × List Char) :=
  match trimBlankStart letters with
  | '-' :: rest => (readAllDigits? rest).map fun (value, left) => (-(value : Int), left)
  | '+' :: rest => (readAllDigits? rest).map fun (value, left) => ((value : Int), left)
  | rest => (readDigits? 4 rest).map fun (value, left) => ((value : Int), left)

/-- Reads a month or a day of the month: one or two digits. -/
def readShortNumber? (letters : List Char) : Option (Nat × List Char) :=
  readDigits? 2 (trimBlankStart letters)

/-- Reads a hyphen, which stands first. -/
def readHyphen? : List Char → Option (List Char)
  | '-' :: rest => some rest
  | _ => none

/-- Reads year, month and day with hyphens between.  `clean` is applied before each hyphen and
at the end, after which nothing may be left. -/
def readWith? (clean : List Char → List Char) (letters : List Char) : Option Day := do
  let (year, letters) ← readYear? letters
  let letters ← readHyphen? (clean letters)
  let (month, letters) ← readShortNumber? letters
  let letters ← readHyphen? (clean letters)
  let (day, letters) ← readShortNumber? letters
  if (clean letters).isEmpty then ofCivil? ⟨year, month, day⟩ else none

/-- Reads a day.  Blanks may stand before each number, before each hyphen and at the end. -/
def ofText? (text : String) : Option Day := readWith? trimBlankStart text.toList

/-- Reads the first day of the month that a month key names.  Blanks may stand before a number
but not before a hyphen. -/
def ofMonthKey? (key : String) : Option Day := readWith? id (key.toList ++ "-01".toList)

/-- The label of a month key, or the key itself where it names no month. -/
def labelOfMonthKey (key : String) : String :=
  match ofMonthKey? key with
  | some day => day.monthLabel
  | none => key

end Day

end LoadChart
