import PageBlocks.Json.Basic
/-!
# Reading JSON

A recursive-descent reader that reports the first fault of a text together with its place.  Beside
the standard's values it reads the names of the three numbers that are not finite, and a name that
an object repeats takes its last value.

The reader moves a `Cursor` over the text.  Every nested value starts at least one character
further on, so the length of the text bounds the depth of the recursion; `Json.parse` supplies
that bound.
-/

namespace PageBlocks.Json

/-! ## Faults and their places -/

/-- A place in a text, counted from one in lines and columns and from zero in characters. -/
structure Place where
  line : Nat
  column : Nat
  offset : Nat
deriving DecidableEq, Repr

/-- The place of the character with the given offset. -/
def Place.ofOffset (text : List Char) (offset : Nat) : Place :=
  let before := text.take offset
  { line := before.count '\n' + 1
    column := (before.reverse.takeWhile (· ≠ '\n')).length + 1
    offset := offset }

/-- What can be wrong at a place of a text. -/
inductive Cause where
  | expectedValue
  | expectedName
  | expectedColon
  | expectedComma
  | extraData
  | unterminatedString
  | controlCharacter
  | badEscape
  | badCodeEscape
  | byteOrderMark
deriving DecidableEq, Repr

/-- The wording of a cause. -/
def Cause.message : Cause → String
  | expectedValue => "Expecting value"
  | expectedName => "Expecting property name enclosed in double quotes"
  | expectedColon => "Expecting ':' delimiter"
  | expectedComma => "Expecting ',' delimiter"
  | extraData => "Extra data"
  | unterminatedString => "Unterminated string starting at"
  | controlCharacter => "Invalid control character at"
  | badEscape => "Invalid \\escape"
  | badCodeEscape => "Invalid \\uXXXX escape"
  | byteOrderMark => "Unexpected UTF-8 BOM (decode using utf-8-sig)"

/-- Why a text is not read: a cause at an offset, or an integer with too many digits. -/
inductive Failure where
  | at (cause : Cause) (offset : Nat)
  | integerTooLong (digits : Nat)
deriving DecidableEq, Repr

/-- A failure with its place worked out. -/
inductive Fault where
  | at (cause : Cause) (place : Place)
  | integerTooLong (digits : Nat)
deriving DecidableEq, Repr

/-- The greatest number of digits that an integer may have. -/
def maxIntegerDigits : Nat := 4300

/-- The wording of a fault. -/
def Fault.message : Fault → String
  | .at cause place =>
    s!"{cause.message}: line {place.line} column {place.column} (char {place.offset})"
  | .integerTooLong digits =>
    s!"Exceeds the limit ({maxIntegerDigits} digits) for integer string conversion: value has " ++
      s!"{digits} digits; use sys.set_int_max_str_digits() to increase the limit"

/-! ## The cursor -/

/-- The rest of a text and the number of characters before it. -/
structure Cursor where
  offset : Nat
  rest : List Char
deriving Repr

namespace Cursor

/-- The cursor after `count` more characters. -/
def skip (cursor : Cursor) (count : Nat) : Cursor :=
  ⟨cursor.offset + count, cursor.rest.drop count⟩

/-- The white space of JSON. -/
def isSpace (c : Char) : Bool :=
  c = ' ' || c = '\t' || c = '\n' || c = '\r'

/-- The cursor at the next character that is not white space. -/
def skipSpace (cursor : Cursor) : Cursor :=
  cursor.skip (cursor.rest.takeWhile isSpace).length

end Cursor

/-- What reading yields: a value, or the failure that ends it.  A step of the reader pairs the
value with the cursor after it. -/
abbrev Reading := Except Failure

/-! ## Strings -/

/-- The value of a hexadecimal digit. -/
def hexDigit? (c : Char) : Option Nat :=
  if '0' ≤ c && c ≤ '9' then some (c.toNat - 48)
  else if 'a' ≤ c && c ≤ 'f' then some (c.toNat - 87)
  else if 'A' ≤ c && c ≤ 'F' then some (c.toNat - 55)
  else none

/-- The number that four hexadecimal digits at the start of a text write. -/
def fourHexDigits? : List Char → Option Nat
  | a :: b :: c :: d :: _ => do
    let a ← hexDigit? a
    let b ← hexDigit? b
    let c ← hexDigit? c
    let d ← hexDigit? d
    some (((a * 16 + b) * 16 + c) * 16 + d)
  | _ => none

/-- The character that a one-letter escape stands for. -/
def escapedChar? : Char → Option Char
  | '"' => some '"'
  | '\\' => some '\\'
  | '/' => some '/'
  | 'b' => some (Char.ofNat 8)
  | 'f' => some (Char.ofNat 12)
  | 'n' => some '\n'
  | 'r' => some '\r'
  | 't' => some '\t'
  | _ => none

/-- Is this code the first half of a pair? -/
def isLeadingHalf (code : Nat) : Bool :=
  0xD800 ≤ code && code ≤ 0xDBFF

/-- Is this code the second half of a pair? -/
def isTrailingHalf (code : Nat) : Bool :=
  0xDC00 ≤ code && code ≤ 0xDFFF

/-- The character of a code; half a pair on its own becomes the replacement character. -/
def charOfCode (code : Nat) : Char :=
  if isLeadingHalf code || isTrailingHalf code then Char.ofNat 0xFFFD else Char.ofNat code

/-- Reads the digits of a code escape; the cursor stands after the letter `u`.  A pair of escapes
that form one character is read together. -/
def readCodeEscape (cursor : Cursor) : Reading (Char × Cursor) :=
  if cursor.rest.length < 5 then .error (.at .badCodeEscape (cursor.offset - 1))
  else match fourHexDigits? cursor.rest with
    | none => .error (.at .badCodeEscape (cursor.offset - 1))
    | some code =>
      let next := cursor.skip 4
      match isLeadingHalf code, next.rest with
      | true, '\\' :: 'u' :: rest =>
        if rest.length < 5 then .ok (charOfCode code, next)
        else match fourHexDigits? rest with
          | none => .error (.at .badCodeEscape (next.offset + 1))
          | some second =>
            if isTrailingHalf second then
              .ok (Char.ofNat (0x10000 + (code - 0xD800) * 0x400 + (second - 0xDC00)),
                next.skip 6)
            else .ok (charOfCode code, next)
      | _, _ => .ok (charOfCode code, next)

/-- Reads the characters of a string up to its closing quotation mark.  `start` is the offset of
the opening one, `seen` holds the characters read so far in reverse, and the fuel bounds the
number of characters. -/
def readStringChars (start : Nat) : (fuel : Nat) → (seen : List Char) → Cursor → Reading (String × Cursor)
  | 0, _, _ => .error (.at .unterminatedString start)
  | fuel + 1, seen, cursor =>
    match cursor.rest with
    | [] => .error (.at .unterminatedString start)
    | '"' :: _ => .ok (String.ofList seen.reverse, cursor.skip 1)
    | '\\' :: [] => .error (.at .unterminatedString start)
    | '\\' :: 'u' :: _ => do
      let (c, next) ← readCodeEscape (cursor.skip 2)
      readStringChars start fuel (c :: seen) next
    | '\\' :: letter :: _ =>
      match escapedChar? letter with
      | some c => readStringChars start fuel (c :: seen) (cursor.skip 2)
      | none => .error (.at .badEscape cursor.offset)
    | c :: _ =>
      if c.toNat < 0x20 then .error (.at .controlCharacter cursor.offset)
      else readStringChars start fuel (c :: seen) (cursor.skip 1)

/-- Reads a string whose opening quotation mark is the character at the cursor. -/
def readString (cursor : Cursor) : Reading (String × Cursor) :=
  readStringChars cursor.offset cursor.rest.length [] (cursor.skip 1)

/-! ## Numbers -/

/-- Is this an ASCII digit? -/
def isDigitChar (c : Char) : Bool :=
  '0' ≤ c && c ≤ '9'

/-- The number that a run of digits writes. -/
def natOfDigits (digits : List Char) : Nat :=
  digits.foldl (fun value c => value * 10 + (c.toNat - 48)) 0

/-- The digits of a whole number at the start of a text, where a zero stands alone. -/
def wholeDigits : List Char → List Char
  | '0' :: _ => ['0']
  | rest => rest.takeWhile isDigitChar

/-- The digits of a fraction at the start of a text, when there is one. -/
def fractionDigits : List Char → List Char
  | '.' :: rest => rest.takeWhile isDigitChar
  | _ => []

/-- The sign and the digits of an exponent at the start of a text, and how many characters it
takes; nothing when no digit follows. -/
def exponentPart? : List Char → Option (Int × Nat)
  | e :: rest =>
    if e = 'e' || e = 'E' then
      let (negative, digits, length) :=
        match rest with
        | '-' :: more => (true, more.takeWhile isDigitChar, 2)
        | '+' :: more => (false, more.takeWhile isDigitChar, 2)
        | _ => (false, rest.takeWhile isDigitChar, 1)
      if digits.isEmpty then none
      else
        let value : Int := natOfDigits digits
        some (if negative then -value else value, length + digits.length)
    else none
  | [] => none

/-- Reads a number at the cursor. -/
def readNumber (cursor : Cursor) : Reading (Json × Cursor) :=
  let negative := cursor.rest.head? = some '-'
  let body := if negative then cursor.skip 1 else cursor
  let whole := wholeDigits body.rest
  if whole.isEmpty then .error (.at .expectedValue cursor.offset)
  else
    let afterWhole := body.skip whole.length
    let fraction := fractionDigits afterWhole.rest
    let afterFraction :=
      if fraction.isEmpty then afterWhole else afterWhole.skip (fraction.length + 1)
    let signed (value : Nat) : Int := if negative then -(value : Int) else value
    match fraction, exponentPart? afterFraction.rest with
    | [], none =>
      if whole.length > maxIntegerDigits then .error (.integerTooLong whole.length)
      else .ok (.integer (signed (natOfDigits whole)), afterWhole)
    | _, exponent =>
      let (power, length) := exponent.getD (0, 0)
      let mantissa := natOfDigits (whole ++ fraction)
      .ok (.decimal (.finite (signed mantissa) (power - fraction.length)
          (negative && mantissa = 0)),
        afterFraction.skip length)

/-! ## Values -/

/-- The words that are values of their own. -/
def wordValues : List (String × Json) :=
  [("null", .null), ("true", .bool true), ("false", .bool false),
    ("NaN", .decimal .notANumber), ("Infinity", .decimal (.infinite false)),
    ("-Infinity", .decimal (.infinite true))]

/-- The word value at the start of a text and its length. -/
def wordValue? (rest : List Char) : Option (Json × Nat) :=
  (wordValues.find? fun entry => entry.1.toList.isPrefixOf rest).map fun entry =>
    (entry.2, entry.1.length)

mutual

/-- Reads the value at the cursor. -/
def readValue : (fuel : Nat) → Cursor → Reading (Json × Cursor)
  | 0, cursor => .error (.at .expectedValue cursor.offset)
  | fuel + 1, cursor =>
    match cursor.rest with
    | '"' :: _ => do
      let (value, next) ← readString cursor
      .ok (.text value, next)
    | '\x7b' :: _ =>
      let inside := (cursor.skip 1).skipSpace
      match inside.rest with
      | '\x7d' :: _ => .ok (.object [], inside.skip 1)
      | _ => readMembers fuel [] inside
    | '[' :: _ =>
      let inside := (cursor.skip 1).skipSpace
      match inside.rest with
      | ']' :: _ => .ok (.list [], inside.skip 1)
      | _ => readItems fuel [] inside
    | rest =>
      match wordValue? rest with
      | some (value, length) => .ok (value, cursor.skip length)
      | none => readNumber cursor

/-- Reads the members of an object from the name of one of them on, up to the closing brace. -/
def readMembers : (fuel : Nat) → (seen : Fields) → Cursor → Reading (Json × Cursor)
  | 0, _, cursor => .error (.at .expectedName cursor.offset)
  | fuel + 1, seen, cursor =>
    match cursor.rest with
    | '"' :: _ => do
      let (name, afterName) ← readString cursor
      let colon := afterName.skipSpace
      match colon.rest with
      | ':' :: _ =>
        let (value, afterValue) ← readValue fuel (colon.skip 1).skipSpace
        let seen := put seen name value
        let next := afterValue.skipSpace
        match next.rest with
        | '\x7d' :: _ => .ok (.object seen, next.skip 1)
        | ',' :: _ => readMembers fuel seen (next.skip 1).skipSpace
        | _ => .error (.at .expectedComma next.offset)
      | _ => .error (.at .expectedColon colon.offset)
    | _ => .error (.at .expectedName cursor.offset)

/-- Reads the items of a list from one of them on, up to the closing bracket. -/
def readItems : (fuel : Nat) → (seen : List Json) → Cursor → Reading (Json × Cursor)
  | 0, _, cursor => .error (.at .expectedValue cursor.offset)
  | fuel + 1, seen, cursor => do
    let (value, afterValue) ← readValue fuel cursor
    let seen := value :: seen
    let next := afterValue.skipSpace
    match next.rest with
    | ']' :: _ => .ok (.list seen.reverse, next.skip 1)
    | ',' :: _ => readItems fuel seen (next.skip 1).skipSpace
    | _ => .error (.at .expectedComma next.offset)

end

/-- Reads a whole text as one value. -/
def read (text : List Char) : Except Failure Json :=
  if text.head? = some (Char.ofNat 0xFEFF) then .error (.at .byteOrderMark 0)
  else do
    let (value, next) ← readValue (text.length + 1) (Cursor.skipSpace ⟨0, text⟩)
    let last := next.skipSpace
    if last.rest.isEmpty then .ok value else .error (.at .extraData last.offset)

/-- The value that a text writes, or its first fault. -/
def parse (text : String) : Except Fault Json :=
  match read text.toList with
  | .ok value => .ok value
  | .error (.at cause offset) => .error (.at cause (Place.ofOffset text.toList offset))
  | .error (.integerTooLong digits) => .error (.integerTooLong digits)

end PageBlocks.Json
