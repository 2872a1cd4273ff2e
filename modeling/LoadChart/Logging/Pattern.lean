import LoadChart.Text.Digits
import LoadChart.Text.Letters

/-!
# Patterns of field values

Which texts are regular expressions that the value of a field can be matched with.  A pattern is
matched letter by letter, or byte by byte where its flag for Unicode is taken away.  Classes of
digits, blanks and word letters and the borders of words are known of bytes only, and so is the
folding of case; a pattern of bytes must match nothing but whole letters.
-/

namespace LoadChart

namespace LogPattern

/-- The flags in force at a place of a pattern. -/
structure Mode where
  foldsCase : Bool
  isUnicode : Bool
  /-- Whether blanks and comments are passed over. -/
  skipsBlanks : Bool

def Mode.initial : Mode := ⟨false, true, false⟩

/-- What a letter or an escape of a pattern stands for. -/
inductive Atom where
  | letter (value : Char)
  /-- A letter or a byte by its number. -/
  | byte (value : Nat)
  /-- Digits, blanks or word letters, or all but them. -/
  | kind (isNegated : Bool)
  | property
  | anyLetter
  /-- The start or the end of a text or line. -/
  | edge
  /-- The border of a word, or no border. -/
  | border

namespace Atom

def isAllowed (mode : Mode) : Atom → Bool
  | .letter _ => !(mode.isUnicode && mode.foldsCase)
  | .byte value => if mode.isUnicode then !mode.foldsCase else value < 0x80
  | .kind isNegated => !mode.isUnicode && !isNegated
  | .property => false
  | .anyLetter => mode.isUnicode
  | .edge => true
  | .border => !mode.isUnicode

/-- Whether an atom may be a member of a class. -/
def isMember (mode : Mode) : Atom → Bool
  | .letter value => if mode.isUnicode then !mode.foldsCase else value.toNat < 0x80
  | .byte value => if mode.isUnicode then !mode.foldsCase else value < 0x80
  | .kind isNegated => !mode.isUnicode && !isNegated
  | _ => false

/-- The number of the letter that an atom stands for, if it does for one. -/
def code? : Atom → Option Nat
  | .letter value => some value.toNat
  | .byte value => some value
  | _ => none

end Atom

/-- Passes over blanks and comments, which reach to the end of their line. -/
def dropBlanks (isComment : Bool) : List Char → List Char
  | [] => []
  | letter :: rest =>
      if isComment then dropBlanks (letter ≠ '\n') rest
      else if isBlank letter then dropBlanks false rest
      else if letter = '#' then dropBlanks true rest
      else letter :: rest

def skip (mode : Mode) (letters : List Char) : List Char :=
  if mode.skipsBlanks then dropBlanks false letters else letters

def hexNumber? (mode : Mode) (value : Nat) : (digits : Nat) → List Char → Option (Nat × List Char)
  | 0, letters => some (value, skip mode letters)
  | digits + 1, letters =>
      match skip mode letters with
      | [] => none
      | letter :: rest => do hexNumber? mode (value * 16 + (← hexValue? letter)) digits rest

def hexAtom? (mode : Mode) (digits : Nat) (letters : List Char) : Option (Atom × List Char) := do
  let (value, rest) ← hexNumber? mode 0 digits letters
  if digits = 2 then some (.byte value, rest)
  else if value.isValidChar then some (.letter (Char.ofNat value), rest)
  else none

def isEscapable (letter : Char) : Bool :=
  letter.toNat < 0x80 && !letter.isAlphanum && letter ≠ '<' && letter ≠ '>'

/-- Reads an escape behind its backslash.  A brace could not be closed, as a closing one ends the
field. -/
def escape? (mode : Mode) : List Char → Option (Atom × List Char)
  | [] => none
  | letter :: rest =>
      match letter with
      | 'x' => hexAtom? mode 2 rest
      | 'u' => hexAtom? mode 4 rest
      | 'U' => hexAtom? mode 8 rest
      | 'p' | 'P' =>
          match skip mode rest with
          | [] => none
          | name :: rest =>
              if name = '\\' || name = '\x7b' then none else some (.property, skip mode rest)
      | 'd' | 's' | 'w' => some (.kind false, rest)
      | 'D' | 'S' | 'W' => some (.kind true, rest)
      | 'a' => some (.letter '\x07', rest)
      | 'f' => some (.letter '\x0c', rest)
      | 't' => some (.letter '\t', rest)
      | 'n' => some (.letter '\n', rest)
      | 'r' => some (.letter '\r', rest)
      | 'v' => some (.letter '\x0b', rest)
      | 'A' | 'z' => some (.edge, rest)
      | 'b' => if rest.head? = some '\x7b' then none else some (.border, rest)
      | 'B' | '<' | '>' => some (.border, rest)
      | letter => if isEscapable letter then some (.letter letter, rest) else none

def classNames : List String :=
  ["alnum", "alpha", "ascii", "blank", "cntrl", "digit", "graph", "lower", "print", "punct",
    "space", "upper", "word", "xdigit"]

/-- Reads a named class behind its bracket, and whether it is negated. -/
def namedClass? : List Char → Option (Bool × List Char)
  | ':' :: rest =>
      let isNegated := rest.head? = some '^'
      let rest := if isNegated then rest.drop 1 else rest
      let name := rest.takeWhile (· ≠ ':')
      match rest.drop name.length with
      | ':' :: ']' :: rest =>
          if classNames.contains (String.ofList name) then some (isNegated, rest) else none
      | _ => none
  | _ => none

def allowsMembers (mode : Mode) : Bool := !(mode.isUnicode && mode.foldsCase)

/-- Passes over the hyphens at the begin of a class, and tells whether there were any. -/
def leadingHyphens (mode : Mode) : (fuel : Nat) → List Char → Bool × List Char
  | fuel + 1, '-' :: rest => (true, (leadingHyphens mode fuel (skip mode rest)).2)
  | _, letters => (false, letters)

/-- Reads the begin of a class behind its bracket: whether it is negated, hyphens, and else a
bracket that stands for itself. -/
def openClass? (mode : Mode) (letters : List Char) : Option (List Char) :=
  let letters := skip mode letters
  let isNegated := letters.head? = some '^'
  let letters := if isNegated then skip mode (letters.drop 1) else letters
  let (hasHyphen, letters) := leadingHyphens mode letters.length letters
  let hasBracket := !hasHyphen && letters.head? = some ']'
  let letters := if hasBracket then skip mode (letters.drop 1) else letters
  if letters.isEmpty then none
  else if isNegated && !mode.isUnicode then none
  else if (hasHyphen || hasBracket) && !allowsMembers mode then none
  else some letters

/-- Reads one member of a class, or an end of a range. -/
def classAtom? (mode : Mode) : List Char → Option (Atom × List Char)
  | [] => none
  | '\\' :: rest => escape? mode rest
  | letter :: rest => some (.letter letter, rest)

def classMember? (mode : Mode) (letters : List Char) : Option (List Char) := do
  let (first, rest) ← classAtom? mode letters
  let rest := skip mode rest
  if !first.isMember mode then none
  match rest with
  | [] => none
  | mark :: behind =>
      let next := (skip mode behind).head?
      if mark ≠ '-' || next = some ']' || next = some '-' then some rest
      else
        let (last, rest) ← classAtom? mode (skip mode behind)
        if last.isMember mode && (← first.code?) ≤ (← last.code?) then some rest else none

/-- Reads what is left of a class that `depth` others enclose. -/
def classRest? (mode : Mode) : (fuel : Nat) → (depth : Nat) → List Char → Option (List Char)
  | 0, _, _ => none
  | fuel + 1, depth, letters =>
      match skip mode letters with
      | [] => none
      | ']' :: rest => if depth = 0 then some rest else classRest? mode fuel (depth - 1) rest
      | '[' :: rest =>
          match namedClass? rest with
          | some (isNegated, rest) =>
              if allowsMembers mode && (mode.isUnicode || !isNegated) then
                classRest? mode fuel depth rest
              else none
          | none => do classRest? mode fuel (depth + 1) (← openClass? mode rest)
      | '&' :: '&' :: rest | '-' :: '-' :: rest | '~' :: '~' :: rest =>
          classRest? mode fuel depth rest
      | letters => do classRest? mode fuel depth (← classMember? mode letters)

/-- How far the reading of a pattern has got. -/
structure State where
  mode : Mode
  /-- The flags to come back to at the end of each open group, the innermost first. -/
  outer : List Mode
  /-- Whether something stands before that can be repeated. -/
  hasOperand : Bool
  /-- The names of groups so far. -/
  names : List (List Char)

namespace State

def initial : State := ⟨.initial, [], false, []⟩

def opened (state : State) (mode : Mode) : State :=
  { state with mode, outer := state.mode :: state.outer, hasOperand := false }

end State

def isGroupName : List Char → Bool
  | [] => false
  | first :: rest =>
      (first = '_' || isAlphabetic first)
        && rest.all fun letter => "_.[]".toList.contains letter || isAlphanumeric letter

def namedGroup? (state : State) (letters : List Char) : Option (State × List Char) :=
  let name := letters.takeWhile (· ≠ '>')
  let rest := letters.drop name.length
  if rest.isEmpty || !isGroupName name || state.names.contains name then none
  else some ({ state.opened state.mode with names := name :: state.names }, rest.drop 1)

/-- Whether a row of flags is well formed: each stands once, and one follows the hyphen. -/
def areFlags (flags : List Char) : Bool :=
  flags.all "imsUuRx-".toList.contains && decide flags.Nodup && flags.getLast? ≠ some '-'

/-- The mode behind a row of flags, those behind a hyphen being taken away. -/
def Mode.with (mode : Mode) (flags : List Char) : Mode :=
  let given := flags.takeWhile (· ≠ '-')
  let taken := flags.drop given.length
  let updated := fun (flag : Char) (old : Bool) =>
    (old || given.contains flag) && !taken.contains flag
  ⟨updated 'i' mode.foldsCase, updated 'u' mode.isUnicode, updated 'x' mode.skipsBlanks⟩

/-- Reads flags, for the rest of a group or for a group of their own. -/
def flaggedGroup? (state : State) (letters : List Char) : Option (State × List Char) :=
  let flags := letters.takeWhile fun letter => letter ≠ ':' && letter ≠ ')'
  if !areFlags flags then none
  else
    match letters.drop flags.length with
    | [] => none
    | mark :: rest =>
        let mode := state.mode.with flags
        if mark = ':' then some (state.opened mode, rest)
        else if flags.isEmpty then none
        else some ({ state with mode, hasOperand := false }, rest)

/-- Reads the begin of a group behind its parenthesis.  There is no looking ahead or behind. -/
def group? (state : State) (letters : List Char) : Option (State × List Char) :=
  match skip state.mode letters with
  | '?' :: '=' :: _ | '?' :: '!' :: _ | '?' :: '<' :: '=' :: _ | '?' :: '<' :: '!' :: _ => none
  | '?' :: 'P' :: '<' :: rest | '?' :: '<' :: rest => namedGroup? state rest
  | '?' :: rest => flaggedGroup? state rest
  | letters => some (state.opened state.mode, letters)

def step? (state : State) (letter : Char) (rest : List Char) : Option (State × List Char) :=
  let behind := { state with hasOperand := true }
  match letter with
  | '(' => group? state rest
  | ')' =>
      match state.outer with
      | [] => none
      | mode :: outer => some ({ behind with mode, outer }, rest)
  | '|' => some ({ state with hasOperand := false }, rest)
  | '[' => do
      let rest ← openClass? state.mode rest
      return (behind, ← classRest? state.mode (rest.length + 1) 0 rest)
  | '\x7b' => none
  | '?' | '*' | '+' =>
      if state.hasOperand then some (behind, if rest.head? = some '?' then rest.drop 1 else rest)
      else none
  | '\\' => do
      let (atom, rest) ← escape? state.mode rest
      if atom.isAllowed state.mode then some (behind, rest) else none
  | '.' => if Atom.anyLetter.isAllowed state.mode then some (behind, rest) else none
  | '^' | '$' => some (behind, rest)
  | letter => if (Atom.letter letter).isAllowed state.mode then some (behind, rest) else none

def isRest : (fuel : Nat) → State → List Char → Bool
  | 0, _, _ => false
  | fuel + 1, state, letters =>
      match skip state.mode letters with
      | [] => state.outer.isEmpty
      | letter :: rest =>
          match step? state letter rest with
          | some (state, rest) => isRest fuel state rest
          | none => false

end LogPattern

def isLogPattern (letters : List Char) : Bool :=
  LogPattern.isRest (letters.length + 1) .initial letters

end LoadChart
