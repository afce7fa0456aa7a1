import PageBlocks.Selector.Lexeme
import PageBlocks.Selector.Basic
/-!
# Tokens of selectors

A written selector is cut into tokens from left to right.  Which token comes next depends on the
text alone, so that groups such as `:not(` are put together afterwards.
-/

namespace PageBlocks.Selector

open PageBlocks.Text Lexeme

/-- What separates two compounds. -/
inductive Separator where
  | comma
  | combinator (combinator : Combinator)
deriving DecidableEq, Repr

/-- Counting among siblings: every `step`-th from `offset` on. -/
structure Counting where
  step : Int
  offset : Int
  fromEnd : Bool
  sameName : Bool
deriving DecidableEq, Repr

/-- A token of a written selector. -/
inductive Token where
  | close
  | test (test : Test)
  | place (counting : Counting)
  /-- A count that goes on with a list of selectors. -/
  | openPlace (counting : Counting)
  /-- A name after a colon without arguments. -/
  | state (name : String)
  /-- A name after a colon with an opening parenthesis. -/
  | openState (name : String)
  /-- A name that may stand at the beginning of a compound only. -/
  | name (namePrefix : NamePrefix) (name : String)
  | unequal (condition : AttributeTest)
  | separator (separator : Separator)
deriving DecidableEq, Repr

/-- A token with the text after it. -/
abbrev Reading := Option (Token × List Char)

/-! ## Separators -/

/-- The separator that a character writes. -/
def separatorOf? : Char → Option Separator
  | ',' => some .comma
  | '>' => some (.combinator .child)
  | '+' => some (.combinator .nextSibling)
  | '~' => some (.combinator .laterSibling)
  | _ => none

/-- Does a separator character come first? -/
def startsWithSeparator : List Char → Bool
  | c :: _ => (separatorOf? c).isSome
  | [] => false

/-- Reads a separator and the gaps around it, where the first `inside` characters belong to a gap.
A blank is a separator of its own unless a separator character follows it directly. -/
def readSeparatorFrom : (inside : Nat) → List Char → Option (Separator × List Char)
  | _, [] => none
  | inside + 1, _ :: rest => readSeparatorFrom inside rest
  | 0, c :: rest =>
    match separatorOf? c with
    | some separator => some (separator, dropGaps rest)
    | none =>
      let space := spaceLength (c :: rest)
      let after := (c :: rest).drop space
      if space ≠ 0 && !startsWithSeparator after then
        some (.combinator .descendant, dropGaps after)
      else
        match gapLength (c :: rest) with
        | 0 => none
        | length + 1 => readSeparatorFrom length rest

/-- Reads a separator and the gaps around it. -/
def readSeparator? (text : List Char) : Reading :=
  (readSeparatorFrom 0 text).map fun (separator, rest) => (.separator separator, rest)

/-! ## Names and attributes -/

/-- Reads a name with the vocabulary in front of it. -/
def readPrefixed? (readName? : List Char → Option (String × List Char)) (text : List Char) :
    Option (NamePrefix × String × List Char) :=
  let prefixed? : Option (NamePrefix × List Char) :=
    match text with
    | '|' :: rest => some (.nothing, rest)
    | '*' :: '|' :: rest => some (.anything, rest)
    | _ => do
      let (written, rest) ← readIdentifier? text
      match rest with
      | '|' :: rest => return (.declared (← nameMeaning? written), rest)
      | _ => none
  match prefixed?.bind fun (namePrefix, rest) =>
      (readName? rest).map fun (name, rest) => (namePrefix, name, rest) with
  | some result => some result
  | none => (readName? text).map fun (name, rest) => (.unwritten, name, rest)

/-- Reads a name and what it stands for. -/
def readName? (text : List Char) : Option (String × List Char) := do
  let (written, rest) ← readIdentifier? text
  return (← nameMeaning? written, rest)

/-- Reads the name of an element, or the star for any element. -/
def readElementName? : List Char → Option (String × List Char)
  | '*' :: rest => some ("*", rest)
  | text => readName? text

/-- Reads how an attribute is compared; the flag tells the comparison that asks for another
value. -/
def readComparison? : List Char → Option (Comparison × Bool × List Char)
  | '=' :: rest => some (.equal, false, rest)
  | '~' :: '=' :: rest => some (.word, false, rest)
  | '|' :: '=' :: rest => some (.dashed, false, rest)
  | '^' :: '=' :: rest => some (.start, false, rest)
  | '$' :: '=' :: rest => some (.finish, false, rest)
  | '*' :: '=' :: rest => some (.part, false, rest)
  | '!' :: '=' :: rest => some (.equal, true, rest)
  | _ => none

/-- Reads the letter that tells whether case counts, up to the closing bracket: whether case is
ignored, when that is told. -/
def readCaseFlag? (text : List Char) : Option (Option Bool × List Char) :=
  match dropGaps text with
  | ']' :: rest => some (none, rest)
  | flag :: rest =>
    match foldChar flag, dropGaps rest with
    | 'i', ']' :: rest => some (some (asciiLowerChar flag = 'i'), rest)
    | 's', ']' :: rest => some (some false, rest)
    | _, _ => none
  | [] => none

/-- Reads an attribute in brackets, after the opening one. -/
def readAttribute? (text : List Char) : Reading := do
  let (namePrefix, name, rest) ← readPrefixed? readName? (dropGaps text)
  let ofType := asciiLower name.toList = "type".toList
  match dropGaps rest with
  | ']' :: rest => return (.test (.attribute ⟨namePrefix, name, .present, [], false⟩), rest)
  | rest =>
    let (comparison, inverse, rest) ← readComparison? rest
    let (written, rest) ← readValue? (dropGaps rest)
    let value ← valueMeaning? written
    let (flag, rest) ← readCaseFlag? rest
    let condition : AttributeTest := ⟨namePrefix, name, comparison, value, flag.getD ofType⟩
    return (if inverse then .unequal condition else .test (.attribute condition), rest)

/-! ## Names after a colon -/

/-- Reads digits. -/
def readDigits? (text : List Char) : Option (Nat × List Char) :=
  match text.takeWhile isAsciiDigit with
  | [] => none
  | digits =>
    if Json.maxIntegerDigits < digits.length then none
    else some (Json.natOfDigits digits, text.drop digits.length)

/-- A number with a sign. -/
def signed (negative : Bool) (number : Nat) : Int :=
  if negative then -number else number

/-- Reads a sign. -/
def readSign? : List Char → Option (Bool × List Char)
  | '-' :: rest => some (true, rest)
  | '+' :: rest => some (false, rest)
  | _ => none

/-- Reads what is added to a multiple of `n`. -/
def readOffset? (text : List Char) : Option (Int × List Char) := do
  let (negative, rest) ← readSign? (dropGaps text)
  let (number, rest) ← readDigits? (dropGaps rest)
  return (signed negative number, rest)

/-- Reads a formula such as `2n + 1`: the step and the offset. -/
def readFormula? (text : List Char) : Option (Int × Int × List Char) :=
  let (negative, rest) := (readSign? text).getD (false, text)
  let afterN (step : Nat) (rest : List Char) : Int × Int × List Char :=
    match readOffset? rest with
    | some (offset, rest) => (signed negative step, offset, rest)
    | none => (signed negative step, 0, rest)
  match readDigits? rest with
  | some (number, 'n' :: rest) => some (afterN number rest)
  | some (number, 'N' :: rest) => some (afterN number rest)
  | some (number, rest) => some (0, signed negative number, rest)
  | none =>
    match rest with
    | 'n' :: rest => some (afterN 1 rest)
    | 'N' :: rest => some (afterN 1 rest)
    | _ => none

/-- Reads a word regardless of case. -/
def readWord? (word : List Char) (text : List Char) : Option (List Char) :=
  if foldText (text.take word.length) = word then some (text.drop word.length) else none

/-- Reads which places are counted. -/
def readPlaces? (text : List Char) : Option (Int × Int × List Char) :=
  match readFormula? text with
  | some result => some result
  | none =>
    match readWord? "even".toList text with
    | some rest => some (2, 0, rest)
    | none => (readWord? "odd".toList text).map fun rest => (2, 1, rest)

/-- Reads the word `of` with a blank on each side. -/
def readOf? (text : List Char) : Option (List Char) := do
  let gap := text.take (gapsLength text)
  let rest ← readWord? ['o', 'f'] (dropGaps text)
  let gapAfter := rest.take (gapsLength rest)
  if hasBlank gap && hasBlank gapAfter then some (dropGaps rest) else none
where
  /-- Is there a blank outside of comments? -/
  hasBlank (gap : List Char) : Bool :=
    let start := gap.drop (commentsLength gap.length gap)
    spaceLength start ≠ 0
  /-- The length of the comments at the beginning. -/
  commentsLength : Nat → List Char → Nat
    | 0, _ => 0
    | fuel + 1, text =>
      match commentLength text with
      | 0 => 0
      | length => length + commentsLength fuel (text.drop length)

/-- Reads a closing parenthesis. -/
def readClose? (text : List Char) : Option (List Char) :=
  match dropGaps text with
  | ')' :: rest => some rest
  | _ => none

/-- Reads a list of values up to the closing parenthesis. -/
def readValueList? (text : List Char) : Option (List Char × List Char) := do
  match valueListLength text.length text with
  | 0 => none
  | length => return (text.take length, ← readClose? (text.drop length))

/-- Reads the arguments of a name after a colon that has arguments of its own kind. -/
def readArguments? (name : String) (text : List Char) : Reading :=
  match name with
  | "contains" | "-soup-contains" => texts false
  | "-soup-contains-own" => texts true
  | "lang" => do
    let (written, rest) ← readValueList? text
    return (.test (.language (← (valuesFrom 0 written).mapM valueMeaning?)), rest)
  | "dir" =>
    match readWord? "ltr".toList text, readWord? "rtl".toList text with
    | some rest, _ => (readClose? rest).map fun rest => (.test .leftToRight, rest)
    | none, some rest => (readClose? rest).map fun rest => (.test .rightToLeft, rest)
    | none, none => none
  | "nth-child" => places false
  | "nth-last-child" => places true
  | "nth-of-type" => typePlaces false
  | "nth-last-of-type" => typePlaces true
  | _ => none
where
  /-- Pieces of text that an element holds. -/
  texts (own : Bool) : Reading := do
    let (written, rest) ← readValueList? text
    let pieces ← (valuesFrom 0 (← unescape? false written)).mapM valueMeaning?
    return (.test (.text pieces own), rest)
  /-- Places among all siblings. -/
  places (fromEnd : Bool) : Reading := do
    let (step, offset, rest) ← readPlaces? text
    match readClose? rest with
    | some rest => return (.place ⟨step, offset, fromEnd, false⟩, rest)
    | none => return (.openPlace ⟨step, offset, fromEnd, false⟩, ← readOf? rest)
  /-- Places among the siblings of the same name. -/
  typePlaces (fromEnd : Bool) : Reading := do
    let (step, offset, rest) ← readPlaces? text
    return (.place ⟨step, offset, fromEnd, true⟩, ← readClose? rest)

/-- Reads a name after a colon, with its arguments or its opening parenthesis. -/
def readState? (text : List Char) : Reading := do
  let (written, rest) ← readIdentifier? text
  let name := String.ofList (asciiLower (← unescape? false written))
  match rest with
  | '(' :: rest =>
    match readArguments? name (dropGaps rest) with
    | some result => some result
    | none => return (.openState name, dropGaps rest)
  | _ => return (.state name, rest)

/-! ## All tokens -/

/-- Reads the next token. -/
def readToken? (text : List Char) : Reading :=
  match readClose? text with
  | some rest => some (.close, rest)
  | none =>
    match text with
    | ':' :: rest => readState? rest
    | '&' :: rest => some (.test .scope, rest)
    | '#' :: rest => (readName? rest).map fun (name, rest) => (.test (.identity name), rest)
    | '.' :: rest => (readName? rest).map fun (name, rest) => (.test (.className name), rest)
    | '[' :: rest => readAttribute? rest
    | _ =>
      match readPrefixed? readElementName? text with
      | some (namePrefix, name, rest) => some (.name namePrefix name, rest)
      | none => readSeparator? text

/-- Reads the tokens of a text as far as `stop` characters before its end; what is left then is
blank. -/
def readTokens? (stop : Nat) : (fuel : Nat) → List Char → Option (List Token)
  | 0, _ => none
  | fuel + 1, text =>
    if text.length ≤ stop then some []
    else do
      let (token, rest) ← readToken? text
      return token :: (← readTokens? stop fuel rest)

/-- Is the text nothing but blanks and comments, and perhaps a last line feed? -/
def isGap (text : List Char) : Bool :=
  isAtEnd (dropGaps text)

/-- The length of the blanks and comments that a text ends with. -/
def trailingGapLength (text : List Char) : Nat :=
  match text with
  | [] => 0
  | c :: rest => if isGap (c :: rest) then rest.length + 1 else trailingGapLength rest

/-- The tokens of a selector. -/
def tokens? (text : List Char) : Option (List Token) :=
  let text := dropGaps (text.map fun c => if c.toNat = 0 then replacementCharacter else c)
  readTokens? (trailingGapLength text) (text.length + 1) text

end PageBlocks.Selector
