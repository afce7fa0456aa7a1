import PageBlocks.Html.CharacterReference
/-!
# Character references, taken literally

A simple reading of character references.  In an attribute value each reference is replaced where
it stands, with or without a semicolon.  In text a reference ends before the first character that
cannot belong to it, which therefore has to be there; a name that is not known loses its semicolon.

## Main results

* `unescape_of_noAmpersand` — values without ampersands stay what they are.
-/

namespace PageBlocks.Html.Literal

/-! ## Attribute values -/

/-- Does the number of a reference stand for no character at all? -/
def isUnassigned (number : Nat) : Bool :=
  (1 ≤ number && number ≤ 8) || number = 0xB || (0xE ≤ number && number ≤ 0x1F) ||
    number = 0x7F || (0xFDD0 ≤ number && number ≤ 0xFDEF) || 0xFFFE ≤ number % 0x10000

/-- The characters that the number of a reference stands for in an attribute value. -/
def numberedCharacters (number : Nat) : List Char :=
  if number ≤ 0x10FFFF && isUnassigned number then [] else [characterOfNumber number]

/-- Does this character belong to a named reference in an attribute value? -/
def isReferenceChar (c : Char) : Bool :=
  !("\t\n <&#;".toList.contains c || c.toNat = 12)

/-- The characters of the longest older name that a name begins with, and what follows it. -/
def expandStart? (name : List Char) : (length : Nat) → Option (List Char)
  | 0 | 1 => none
  | length + 2 =>
    let start := name.take (length + 2)
    match EntityTable.characters? start with
    | some characters =>
      if EntityTable.isLegacy start then some (characters ++ name.drop (length + 2))
      else expandStart? name (length + 1)
    | none => expandStart? name (length + 1)

/-- What a named reference is replaced by; `closed` tells whether a semicolon ends it. -/
def expandName (name : List Char) (closed : Bool) : List Char :=
  let written := if closed then name ++ [';'] else name
  match EntityTable.characters? name with
  | some characters =>
    if closed || EntityTable.isLegacy name then characters
    else (expandStart? written (written.length - 1)).getD ('&' :: written)
  | none => (expandStart? written (written.length - 1)).getD ('&' :: written)

/-- Replaces the reference after an ampersand: what it stands for, and the rest. -/
def replaceReference (rest : List Char) : List Char × List Char :=
  match rest with
  | '#' :: more =>
    let isHex := more.head?.any fun c => c = 'x' || c = 'X'
    let digits := if isHex then (more.drop 1).takeWhile isHexDigit else more.takeWhile isDigit
    if digits.isEmpty then (['&'], rest)
    else
      let number := if isHex then EntityTable.hexNumber digits else Json.natOfDigits digits
      (numberedCharacters number,
        dropSemicolon (more.drop (digits.length + if isHex then 1 else 0)))
  | _ =>
    let name := (rest.takeWhile isReferenceChar).take 32
    match name, rest.drop name.length with
    | [], _ => (['&'], rest)
    | name, ';' :: after => (expandName name true, after)
    | name, after => (expandName name false, after)

/-- An attribute value with its references replaced.  The fuel bounds the number of characters. -/
def unescapeFrom : (fuel : Nat) → List Char → List Char
  | 0, text => text
  | _, [] => []
  | fuel + 1, c :: rest =>
    if c = '&' then
      let (characters, after) := replaceReference rest
      characters ++ unescapeFrom fuel after
    else c :: unescapeFrom fuel rest

/-- An attribute value with its references replaced. -/
def unescape (text : List Char) : List Char :=
  unescapeFrom text.length text

theorem unescape_of_noAmpersand {text : List Char} (h : '&' ∉ text) : unescape text = text := by
  have key : ∀ (text : List Char) (fuel : Nat), '&' ∉ text → unescapeFrom fuel text = text := by
    intro text
    induction text with
    | nil => intro fuel _; cases fuel <;> rfl
    | cons c rest ih =>
      intro fuel h
      simp only [List.mem_cons, not_or] at h
      cases fuel with
      | zero => rfl
      | succ fuel => simp [unescapeFrom, Ne.symm h.1, ih fuel h.2]
  exact key text text.length h

/-! ## Text -/

/-- The character that a number stands for in text. -/
def textCharacter (number : Nat) : Char :=
  if number = 0 then Char.ofNat 0 else characterOfNumber number

/-- Reads a number after `&#` in text.  A character that is no hexadecimal digit has to follow. -/
def readTextNumber? (text : List Char) : Option (Char × List Char) :=
  let isHex := text.head?.any fun c => c = 'x' || c = 'X'
  let digits := if isHex then (text.drop 1).takeWhile isHexDigit else text.takeWhile isDigit
  let number := if isHex then EntityTable.hexNumber digits else Json.natOfDigits digits
  match digits, text.drop (digits.length + if isHex then 1 else 0) with
  | [], _ | _, [] => none
  | _, c :: after =>
    if isHexDigit c then none
    else some (textCharacter number, if c = ';' then after else c :: after)

/-- Does this character belong to the name of a reference in text? -/
def isTextNameChar (c : Char) : Bool :=
  isLetterOrDigit c || c = '-' || c = '.'

/-- The name of a reference at the start of text, and what follows it.  At the end of the text the
last dash or dot of the name takes the place of the character that has to follow. -/
def readTextName? (text : List Char) : Option (List Char × List Char) :=
  let name := text.takeWhile isTextNameChar
  if !(text.head?.any isLetter) then none
  else match text.drop name.length with
    | c :: after => some (name, c :: after)
    | [] =>
      let tail := name.reverse.takeWhile isLetterOrDigit
      if tail.length = name.length then none
      else
        let length := name.length - tail.length - 1
        some (name.take length, name.drop length)

/-- Reads a named reference after an ampersand in text. -/
def readTextReference? (text : List Char) : Option (List Char × List Char) :=
  (readTextName? text).map fun (name, after) =>
    ((EntityTable.characters? name).getD ('&' :: name), dropSemicolon after)

end PageBlocks.Html.Literal
