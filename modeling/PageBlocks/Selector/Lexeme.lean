import PageBlocks.Text.Case
import PageBlocks.Text.Search
import PageBlocks.Json.Reader
/-!
# The words of selectors

Names, quoted strings, blanks and escapes, as they are written in selectors.  For each of them a
function tells how much of a text it takes up, so that a reader cuts that much off and goes on with
the rest.  An escape is a backslash before a character that then stands for itself, or before up to
six hexadecimal digits and a blank.

## Main results

* `unescape_of_plain` — text without a backslash stands for itself.
-/

namespace PageBlocks.Selector.Lexeme

open PageBlocks.Text

/-- The code point of the character that stands where there is none. -/
def replacementCharacter : Char := Char.ofNat 0xFFFD

/-- Blank characters of selectors. -/
def isSpace (c : Char) : Bool :=
  c = ' ' || c = '\t' || c = '\n' || c = '\r' || c.toNat = 0x0C

/-- Characters that end a line. -/
def isLineBreak (c : Char) : Bool :=
  c = '\n' || c = '\r' || c.toNat = 0x0C

/-- Characters that a name may begin with. -/
def isNameStart (c : Char) : Bool :=
  isAsciiLetter c || c = '_' || 0xA0 ≤ c.toNat

/-- Characters that a name may go on with. -/
def isNameChar (c : Char) : Bool :=
  isNameStart c || isAsciiDigit c || c = '-'

/-- The length of one blank: a character, or the two of a line break. -/
def spaceLength : List Char → Nat
  | '\r' :: '\n' :: _ => 2
  | c :: _ => if isSpace c then 1 else 0
  | [] => 0

/-- The length of a comment. -/
def commentLength : List Char → Nat
  | '/' :: '*' :: rest =>
    match cut? ['*', '/'] rest with
    | some (inside, _) => inside.length + 4
    | none => 0
  | _ => 0

/-- The length of one blank or comment. -/
def gapLength (text : List Char) : Nat :=
  if spaceLength text = 0 then commentLength text else spaceLength text

/-- The length of all blanks and comments, where the first `inside` characters belong to one that
was found already. -/
def gapsFrom : (inside : Nat) → List Char → Nat
  | _, [] => 0
  | inside + 1, _ :: rest => gapsFrom inside rest + 1
  | 0, c :: rest =>
    match gapLength (c :: rest) with
    | 0 => 0
    | length + 1 => gapsFrom length rest + 1

/-- The length of the blanks and comments that a text begins with. -/
def gapsLength (text : List Char) : Nat :=
  gapsFrom 0 text

/-- A text without the blanks and comments that it begins with. -/
def dropGaps (text : List Char) : List Char :=
  text.drop (gapsLength text)

/-! ## Escapes and names -/

/-- Does a text end here, but for a last line feed? -/
def isAtEnd (text : List Char) : Bool :=
  text = [] || text = ['\n']

/-- The length of what a backslash goes with. -/
def escapeLength? (text : List Char) : Option Nat :=
  let digits := ((text.take 6).takeWhile fun c => (Json.hexDigit? c).isSome).length
  if 0 < digits then some (digits + spaceLength (text.drop digits))
  else if isAtEnd text then some 0
  else match text with
    | c :: _ => if isLineBreak c then none else some 1
    | [] => none

/-- The length of the rest of a name, where the first `inside` characters belong to an escape. -/
def nameLength : (inside : Nat) → List Char → Nat
  | _, [] => 0
  | inside + 1, _ :: rest => nameLength inside rest + 1
  | 0, c :: rest =>
    if isNameChar c then nameLength 0 rest + 1
    else if c = '\\' then
      match escapeLength? rest with
      | some length => nameLength length rest + 1
      | none => 0
    else 0

/-- Can a name begin here, a hyphen apart? -/
def startsName : List Char → Bool
  | c :: rest => isNameStart c || (c = '\\' && (escapeLength? rest).isSome)
  | [] => false

/-- The length of the name that a text begins with; zero when there is none. -/
def identifierLength : List Char → Nat
  | '-' :: '-' :: rest => nameLength 0 rest + 2
  | '-' :: rest => if startsName rest then nameLength 0 rest + 1 else 0
  | text => if startsName text then nameLength 0 text else 0

/-- Cuts the name off that a text begins with. -/
def readIdentifier? (text : List Char) : Option (List Char × List Char) :=
  match identifierLength text with
  | 0 => none
  | length => some (text.take length, text.drop length)

/-- The length of a quoted string after its opening quote, with the closing one. -/
def stringRestLength? (quote : Char) : List Char → Option Nat
  | '\\' :: '\r' :: '\n' :: rest => (stringRestLength? quote rest).map (· + 3)
  | '\\' :: _ :: rest => (stringRestLength? quote rest).map (· + 2)
  | c :: rest =>
    if c = quote then some 1
    else if c = '\\' || isLineBreak c then none
    else (stringRestLength? quote rest).map (· + 1)
  | [] => none

/-- Is the character a quotation mark? -/
def isQuote (c : Char) : Bool :=
  c = '"' || c.toNat = 0x27

/-- The length of a value: a quoted string or a name. -/
def valueLength (text : List Char) : Nat :=
  match text with
  | c :: rest =>
    if isQuote c then ((stringRestLength? c rest).map (· + 1)).getD 0 else identifierLength text
  | [] => 0

/-- Cuts the value off that a text begins with. -/
def readValue? (text : List Char) : Option (List Char × List Char) :=
  match valueLength text with
  | 0 => none
  | length => some (text.take length, text.drop length)

/-! ## Meaning -/

/-- The character of a numeric escape.  Numbers beyond the last code point have none. -/
def characterOfCode? (code : Nat) : Option Char :=
  if code = 0 then some replacementCharacter
  else if 0x10FFFF < code then none
  else if code.isValidChar then some (Char.ofNat code)
  else some replacementCharacter

/-- The number that hexadecimal digits write. -/
def hexNumber (digits : List Char) : Nat :=
  digits.foldl (fun number c => number * 16 + (Json.hexDigit? c).getD 0) 0

/-- What a text with escapes stands for, where the first `inside` characters are dropped as parts
of an escape.  In a string an escaped line break stands for nothing; elsewhere a comment may not
end a numeric escape. -/
def unescapeFrom (inString : Bool) : (inside : Nat) → List Char → Option (List Char)
  | _, [] => some []
  | inside + 1, _ :: rest => unescapeFrom inString inside rest
  | 0, c :: rest =>
    if c = '\\' then
      let digits := (rest.take 6).takeWhile fun d => (Json.hexDigit? d).isSome
      let after := rest.drop digits.length
      if !digits.isEmpty && spaceLength after ≠ 0 then do
        let character ← characterOfCode? (hexNumber digits)
        let meaning ← unescapeFrom inString (digits.length + spaceLength after) rest
        return character :: meaning
      else if !digits.isEmpty && !inString && commentLength after ≠ 0 then none
      else match rest with
        | [] => some [replacementCharacter]
        | d :: _ =>
          if !isLineBreak d then (unescapeFrom inString 1 rest).map (d :: ·)
          else if rest = ['\n'] then
            (unescapeFrom inString 0 rest).map (replacementCharacter :: ·)
          else if inString then unescapeFrom inString (spaceLength rest) rest
          else (unescapeFrom inString 0 rest).map (c :: ·)
    else (unescapeFrom inString 0 rest).map (c :: ·)

/-- What a text with escapes stands for. -/
def unescape? (inString : Bool) (text : List Char) : Option (List Char) :=
  unescapeFrom inString 0 text

theorem unescape_of_plain {inString : Bool} {text : List Char} (h : '\\' ∉ text) :
    unescape? inString text = some text := by
  unfold unescape?
  induction text with
  | nil => rfl
  | cons c rest ih =>
    simp only [List.mem_cons, not_or] at h
    simp [unescapeFrom, Ne.symm h.1, ih h.2]

/-- What a written value stands for. -/
def valueMeaning? : List Char → Option (List Char)
  | c :: rest => if isQuote c then unescape? true rest.dropLast else unescape? false (c :: rest)
  | [] => some []

/-- What a written name stands for. -/
def nameMeaning? (written : List Char) : Option String :=
  (unescape? false written).map String.ofList

/-- The values written in a text, whatever stands between them, where the first `inside`
characters belong to a value that was found already. -/
def valuesFrom : (inside : Nat) → List Char → List (List Char)
  | _, [] => []
  | inside + 1, _ :: rest => valuesFrom inside rest
  | 0, c :: rest =>
    match valueLength (c :: rest) with
    | length + 1 => (c :: rest).take (length + 1) :: valuesFrom length rest
    | 0 =>
      match dropGaps (c :: rest) with
      | ',' :: more => valuesFrom (rest.length - (dropGaps more).length) rest
      | _ => valuesFrom 0 rest

/-- The length of a list of values with commas between them. -/
def valueListLength : (fuel : Nat) → List Char → Nat
  | 0, _ => 0
  | fuel + 1, text =>
    match valueLength text with
    | 0 => 0
    | length =>
      let rest := text.drop length
      match dropGaps rest with
      | ',' :: more =>
        match valueListLength fuel (dropGaps more) with
        | 0 => length
        | tail => length + (rest.length - (dropGaps more).length) + tail
      | _ => length

end PageBlocks.Selector.Lexeme
