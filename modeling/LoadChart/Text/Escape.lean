import LoadChart.Text.Digits
import LoadChart.Text.HiddenTable
import LoadChart.Text.Letters

/-!
# Escaped text

Bytes that may not stand in an address are written as a percent sign and two hexadecimal digits.  In
a text that is shown within quotes, quotes and backslashes are escaped, and what has no shape of its
own is written by its code.
-/

namespace LoadChart

namespace Percent

def byte (byte : UInt8) : List Char := '%' :: (hexDigits 2 byte.toNat).map Char.toUpper

def letter (letter : Char) : List Char := (String.utf8EncodeChar letter).flatMap byte

/-- Letters, where those that are not plain are written with percent signs. -/
def encode (isPlain : Char → Bool) (letters : List Char) : List Char :=
  letters.flatMap fun each => if isPlain each then [each] else letter each

/-- The letters with every percent sign and two digits put back into one character of that
number. -/
def decode : List Char → List Char
  | '%' :: first :: second :: rest =>
      match hexValue? first, hexValue? second with
      | some high, some low => Char.ofNat (high * 16 + low) :: decode rest
      | _, _ => '%' :: decode (first :: second :: rest)
  | each :: rest => each :: decode rest
  | [] => []
termination_by letters => letters.length

end Percent

namespace Quoted

def isHidden (letter : Char) : Bool := inRuns hiddenRuns letter.toNat

def codeEscape (letter : Char) : List Char :=
  let digits := (hexDigits 6 letter.toNat).dropWhile (· = '0')
  ['\\', 'u', '\x7b'] ++ digits ++ ['\x7d']

def shown (letter : Char) : List Char :=
  match letter with
  | '"' => ['\\', '"']
  | '\\' => ['\\', '\\']
  | '\n' => ['\\', 'n']
  | '\r' => ['\\', 'r']
  | '\t' => ['\\', 't']
  | '\x00' => ['\\', '0']
  | letter => if isHidden letter then codeEscape letter else [letter]

/-- A text as it is shown, with its quotes. -/
def ofText (text : String) : String :=
  String.ofList ('"' :: text.toList.flatMap shown ++ ['"'])

end Quoted

end LoadChart
