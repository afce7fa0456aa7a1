import PageBlocks.Html.EntityTable
/-!
# Character references

Markup writes a character by its number or by a name after an ampersand.  An ampersand that starts
no reference stands for itself.  In an attribute value a name without its semicolon is not read
when a letter, a digit or an equals sign follows, so that queries in addresses stay whole.

## Main results

* `decode_of_noAmpersand` — text without ampersands stays what it is.
-/

namespace PageBlocks.Html

/-- The white space of markup. -/
def isSpace (c : Char) : Bool :=
  c = ' ' || c = '\t' || c = '\n' || c = '\r' || c.toNat = 12

/-- ASCII letters. -/
def isLetter (c : Char) : Bool :=
  ('a' ≤ c && c ≤ 'z') || ('A' ≤ c && c ≤ 'Z')

/-- ASCII digits. -/
def isDigit (c : Char) : Bool :=
  '0' ≤ c && c ≤ '9'

/-- ASCII letters and digits. -/
def isLetterOrDigit (c : Char) : Bool :=
  isLetter c || isDigit c

/-- Hexadecimal digits. -/
def isHexDigit (c : Char) : Bool :=
  (Json.hexDigit? c).isSome

/-- The characters that the numbers 128 to 159 stand for, as old encodings use them. -/
def oldControlCodes : List Nat :=
  [0x20AC, 0x81, 0x201A, 0x192, 0x201E, 0x2026, 0x2020, 0x2021, 0x2C6, 0x2030, 0x160, 0x2039,
    0x152, 0x8D, 0x17D, 0x8F, 0x90, 0x2018, 0x2019, 0x201C, 0x201D, 0x2022, 0x2013, 0x2014, 0x2DC,
    0x2122, 0x161, 0x203A, 0x153, 0x9D, 0x17E, 0x178]

/-- The character that a number stands for. -/
def characterOfNumber (number : Nat) : Char :=
  if number = 0 || (0xD800 ≤ number && number ≤ 0xDFFF) || number > 0x10FFFF then
    Char.ofNat 0xFFFD
  else if 0x80 ≤ number && number ≤ 0x9F then
    Char.ofNat (oldControlCodes.getD (number - 0x80) number)
  else Char.ofNat number

/-- The rest of a text without the semicolon at its start. -/
def dropSemicolon : List Char → List Char
  | ';' :: rest => rest
  | rest => rest

/-- Reads a number that follows `&#`. -/
def readNumber? (rest : List Char) : Option (List Char × List Char) :=
  let (digits, number, after) :=
    match rest with
    | x :: more =>
      if x = 'x' || x = 'X' then
        let digits := more.takeWhile isHexDigit
        (digits, EntityTable.hexNumber digits, more.dropWhile isHexDigit)
      else
        let digits := rest.takeWhile isDigit
        (digits, Json.natOfDigits digits, rest.dropWhile isDigit)
    | [] => ([], 0, [])
  if digits.isEmpty then none else some ([characterOfNumber number], dropSemicolon after)

/-- Does this character keep a name without a semicolon from being read in an attribute value? -/
def continuesName : List Char → Bool
  | c :: _ => isLetterOrDigit c || c = '='
  | [] => false

/-- Reads a name of at most the given number of characters after an ampersand, the longest one
first. -/
def readName? (inAttribute : Bool) (rest : List Char) :
    (length : Nat) → Option (List Char × List Char)
  | 0 => none
  | length + 1 =>
    let name := rest.take (length + 1)
    let after := rest.drop (length + 1)
    if name.length < length + 1 then readName? inAttribute rest length
    else match EntityTable.characters? name, after with
      | some characters, ';' :: more => some (characters, more)
      | some characters, _ =>
        if EntityTable.isLegacy name then
          if inAttribute && continuesName after then none else some (characters, after)
        else readName? inAttribute rest length
      | none, _ => readName? inAttribute rest length

/-- Reads the reference after an ampersand: its characters and the rest of the text.  Nothing when
the ampersand stands for itself. -/
def readReference? (inAttribute : Bool) (rest : List Char) : Option (List Char × List Char) :=
  match rest with
  | '#' :: more => readNumber? more
  | c :: _ =>
    if isLetter c then
      readName? inAttribute rest
        (min EntityTable.longestName (rest.takeWhile isLetterOrDigit).length)
    else none
  | [] => none

/-- Text with its references read.  The fuel bounds the number of characters. -/
def decodeFrom (inAttribute : Bool) : (fuel : Nat) → List Char → List Char
  | 0, text => text
  | _, [] => []
  | fuel + 1, '&' :: rest =>
    match readReference? inAttribute rest with
    | some (characters, after) => characters ++ decodeFrom inAttribute fuel after
    | none => '&' :: decodeFrom inAttribute fuel rest
  | fuel + 1, c :: rest => c :: decodeFrom inAttribute fuel rest

/-- Text with its references read. -/
def decode (inAttribute : Bool) (text : List Char) : List Char :=
  decodeFrom inAttribute text.length text

theorem decode_of_noAmpersand {inAttribute : Bool} {text : List Char} (h : '&' ∉ text) :
    decode inAttribute text = text := by
  have key : ∀ (text : List Char) (fuel : Nat), '&' ∉ text →
      decodeFrom inAttribute fuel text = text := by
    intro text
    induction text with
    | nil => intro fuel _; cases fuel <;> rfl
    | cons c rest ih =>
      intro fuel h
      simp only [List.mem_cons, not_or] at h
      cases fuel with
      | zero => rfl
      | succ fuel =>
        unfold decodeFrom
        split
        · rfl
        · simp_all
        · simp_all
        · simp_all
  exact key text text.length h

end PageBlocks.Html
