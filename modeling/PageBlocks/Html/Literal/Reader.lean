import PageBlocks.Dom.Forest
import PageBlocks.Dom.Markup
import PageBlocks.Html.Literal.StartTag
import PageBlocks.Text.Case
/-!
# Markup, taken literally

A literal reading of markup: each tag is what it says, nothing is supplied and nothing is moved.
Only elements that cannot hold anything are closed at once; an end tag that follows them later on
is then passed over.

What is not finished at the end of the text is text itself.  A marked section of a kind that is not
known makes the reading give up.
-/

namespace PageBlocks.Html.Literal

open PageBlocks.Text (isBlank)

/-- A step in the reading of markup. -/
inductive Event where
  | start (name : String) (attributes : WrittenAttributes)
  | finish (name : String)
  | text (content : List Char)
  | leaf (content : Leaf)
deriving Repr

/-- How far the reading has come. -/
structure State where
  rest : List Char
  /-- The element whose text is being read as it is written. -/
  rawElement : Option String
  /-- The names of the void elements that were closed at once. -/
  closedAtOnce : List String
  /-- The events so far, the latest one first. -/
  events : List Event
deriving Repr

/-- What became of a part of the markup. -/
inductive Outcome where
  | done (state : State)
  | unfinished
  | refused
deriving Repr

namespace State

/-- Records an event. -/
def emit (state : State) (event : Event) : State :=
  { state with events := event :: state.events }

/-- Records text. -/
def emitText (state : State) (content : List Char) : State :=
  if content.isEmpty then state else state.emit (.text content)

/-- Records a leaf, and goes on after it. -/
def emitLeaf (state : State) (make : String → Leaf) (content rest : List Char) : State :=
  { state.emit (.leaf (make (String.ofList content))) with rest := rest }

/-- Goes on after a part of the markup. -/
def goOn (state : State) (rest : List Char) : State :=
  { state with rest := rest }

end State

/-! ## Tags -/

/-- Records the end of an element, unless it is a void element that was closed at once. -/
def State.finish (state : State) (name : String) : State :=
  if state.closedAtOnce.contains name then
    { state with closedAtOnce := state.closedAtOnce.erase name }
  else state.emit (.finish name)

/-- A start tag. -/
def State.start (state : State) (tag : StartTag) : State :=
  let started := state.emit (.start tag.name tag.attributes)
  if tag.selfClosing then started.finish tag.name
  else
    let raw := if rawTextElements.contains tag.name then some tag.name else none
    if voidElements.contains tag.name then
      { started.emit (.finish tag.name) with
        closedAtOnce := started.closedAtOnce ++ [tag.name], rawElement := raw }
    else { started with rawElement := raw }

/-- Does this character belong to the name of a plain end tag? -/
def isEndNameChar (c : Char) : Bool :=
  isLetterOrDigit c || c = '-' || c = '.' || c = ':' || c = '_'

/-- Reads a plain end tag after `</`: its name and the rest. -/
def readPlainEnd? (text : List Char) : Option (String × List Char) :=
  let name := text.dropWhile isBlank
  match name.head?.any isLetter, (name.dropWhile isEndNameChar).dropWhile isBlank with
  | true, '>' :: rest => some (smallName (name.takeWhile isEndNameChar), rest)
  | _, _ => none

/-- What stands before and after the first closing bracket. -/
def cutAtBracket? (text : List Char) : Option (List Char × List Char) :=
  match text.dropWhile (· ≠ '>') with
  | _ :: rest => some (text.takeWhile (· ≠ '>'), rest)
  | [] => none

/-- Reads an end tag after `</`. -/
def readEndTag (state : State) (text : List Char) : Outcome :=
  match cutAtBracket? text with
  | none => .unfinished
  | some (inside, after) =>
    match readPlainEnd? text, state.rawElement with
    | some (name, rest), some raw =>
      if name = raw then .done { state.finish name with rest := rest, rawElement := none }
      else .done ((state.emitText ('<' :: '/' :: inside ++ ['>'])).goOn after)
    | some (name, rest), none => .done ((state.finish name).goOn rest)
    | none, some _ => .done ((state.emitText ('<' :: '/' :: inside ++ ['>'])).goOn after)
    | none, none =>
      match inside with
      | [] => .done (state.goOn after)
      | c :: _ =>
        if isLetter c then
          .done ((state.finish (smallName (inside.takeWhile isNameChar))).goOn after)
        else .done (state.emitLeaf .comment inside after)

/-! ## Comments and declarations -/

/-- What follows the end of a comment at the start of a text. -/
def dropCommentEnd? (text : List Char) : Option (List Char) :=
  match text with
  | '-' :: '-' :: rest =>
    match rest.dropWhile isBlank with
    | '>' :: rest => some rest
    | _ => none
  | _ => none

/-- What follows the end of a marked section at the start of a text; `double` tells whether two
brackets end it. -/
def dropSectionEnd? (double : Bool) (text : List Char) : Option (List Char) :=
  match text with
  | ']' :: rest =>
    match double, rest.dropWhile isBlank with
    | false, '>' :: rest => some rest
    | true, ']' :: rest =>
      match rest.dropWhile isBlank with
      | '>' :: rest => some rest
      | _ => none
    | _, _ => none
  | _ => none

/-- What stands before and after the first place where a text can be dropped from. -/
def cutWhere? (drop? : List Char → Option (List Char)) :
    List Char → Option (List Char × List Char)
  | [] => none
  | c :: text =>
    match drop? (c :: text) with
    | some rest => some ([], rest)
    | none => (cutWhere? drop? text).map fun (before, rest) => (c :: before, rest)

/-- Does this character belong to the kind of a marked section? -/
def isKindChar (c : Char) : Bool :=
  isLetterOrDigit c || c = '-' || c = '_' || c = '.'

/-- The leaf that a marked section becomes. -/
def sectionLeaf (content : List Char) : (String → Leaf) × List Char :=
  match Text.dropLeading? "cdata[".toList (Text.asciiLower (content.take 6)) with
  | some _ => (.cdata, content.drop 6)
  | none => (.declaration, content)

/-- Reads a marked section after `<![`. -/
def readSection (state : State) (text : List Char) : Outcome :=
  let kind := text.takeWhile isKindChar
  let close (double : Bool) : Outcome :=
    match cutWhere? (dropSectionEnd? double) text with
    | none => .unfinished
    | some (content, rest) =>
      let (make, content) := sectionLeaf content
      .done (state.emitLeaf make content rest)
  if text.isEmpty then .unfinished
  else if !(kind.head?.any isLetter) then .refused
  else if ((text.drop kind.length).dropWhile isBlank).isEmpty then .unfinished
  else
    let kind := smallName kind
    if ["temp", "cdata", "ignore", "include", "rcdata"].contains kind then close true
    else if ["if", "else", "endif"].contains kind then close false
    else .refused

/-- Reads a declaration after `<!`. -/
def readDeclaration (state : State) (text : List Char) : Outcome :=
  match text with
  | '-' :: '-' :: rest =>
    match cutWhere? dropCommentEnd? rest with
    | some (content, rest) => .done (state.emitLeaf .comment content rest)
    | none => .unfinished
  | '[' :: rest => readSection state rest
  | _ =>
    let isDoctype := Text.asciiLower (text.take 7) = "doctype".toList
    match cutAtBracket? (text.drop (if isDoctype then 7 else 0)) with
    | none => .unfinished
    | some (content, rest) =>
      if isDoctype then .done (state.emitLeaf .doctype (content.drop 1) rest)
      else .done (state.emitLeaf .comment content rest)

/-! ## Reading -/

/-- Reads what an opening bracket starts, after the bracket. -/
def readBracket (state : State) (text : List Char) : Outcome :=
  match text with
  | '/' :: rest => readEndTag state rest
  | '!' :: rest => readDeclaration state rest
  | '?' :: rest =>
    match cutAtBracket? rest with
    | some (content, rest) => .done (state.emitLeaf .instruction content rest)
    | none => .unfinished
  | c :: rest =>
    if isLetter c then
      match readStartTag? (c :: rest) with
      | some (tag, rest) => .done ((state.start tag).goOn rest)
      | none => .unfinished
    else .done ((state.emitText ['<']).goOn (c :: rest))
  | [] => .unfinished

/-- What is taken as text when a bracket starts something that is not finished: all through the
next closing bracket, else all up to the next opening one, else the bracket alone. -/
def unfinishedText (text : List Char) : List Char × List Char :=
  match cutAtBracket? text with
  | some (inside, rest) => ('<' :: inside ++ ['>'], rest)
  | none =>
    match text.dropWhile (· ≠ '<') with
    | [] => (['<'], text)
    | rest => ('<' :: text.takeWhile (· ≠ '<'), rest)

/-- Whether the reading goes on. -/
inductive Progress where
  | more (state : State)
  | halted (state : State)
  | refused
deriving Repr

/-- Reads what an ampersand starts, after it; `final` tells whether the text ends for good. -/
def readAmpersand (final : Bool) (state : State) (text : List Char) : Progress :=
  match text with
  | '#' :: rest =>
    match readTextNumber? rest with
    | some (c, after) => .more ((state.emitText [c]).goOn after)
    | none =>
      if rest.contains ';' then .halted ((state.emitText ['&', '#']).goOn rest)
      else .halted state
  | c :: rest =>
    match readTextReference? text with
    | some (characters, after) => .more ((state.emitText characters).goOn after)
    | none =>
      if !isLetter c then .more ((state.emitText ['&']).goOn text)
      else if final && rest.isEmpty then .halted (state.goOn text)
      else .halted state
  | [] => .halted state

/-- What follows an end tag of an element at the start of a text. -/
def dropRawEnd? (element : String) (text : List Char) : Option (List Char) :=
  match text with
  | '<' :: '/' :: rest =>
    let name := (rest.dropWhile isBlank).take element.length
    let after := (rest.dropWhile isBlank).drop element.length
    match after.dropWhile isBlank with
    | '>' :: rest => if Text.foldText name = element.toList then some rest else none
    | _ => none
  | _ => none

/-- The text before the next tag or reference; nothing when an element whose text is taken as it is
does not end. -/
def leadingText? (state : State) : Option (List Char) :=
  match state.rawElement with
  | none => some (state.rest.takeWhile fun c => c ≠ '<' && c ≠ '&')
  | some element => (cutWhere? (dropRawEnd? element) state.rest).map (·.1)

/-- Reads the text before the next tag or reference, and this. -/
def readNext (final : Bool) (state : State) : Progress :=
  match leadingText? state with
  | none => .halted state
  | some text =>
    let state := (state.emitText text).goOn (state.rest.drop text.length)
    match state.rest with
    | [] => .halted state
    | '<' :: rest =>
      match readBracket state rest with
      | .done state => .more state
      | .refused => .refused
      | .unfinished =>
        if final && !rest.isEmpty then
          let (text, rest) := unfinishedText rest
          .more ((state.emitText text).goOn rest)
        else .halted state
    | _ :: rest => readAmpersand final state rest

/-- Reads as far as it goes; nothing when the reading gives up.  The fuel bounds the number of
tags and references. -/
def readAll (final : Bool) : (fuel : Nat) → State → Option State
  | 0, state => some state
  | fuel + 1, state =>
    match readNext final state with
    | .more state => readAll final fuel state
    | .halted state => some state
    | .refused => none

/-- The events of a text; nothing when the reading gives up. -/
def events? (text : List Char) : Option (List Event) := do
  let state ← readAll false (text.length + 1) ⟨text, none, [], []⟩
  let state ← readAll true (text.length + 1) state
  let state := if state.rawElement.isNone then state.emitText state.rest else state
  return state.events.reverse

end PageBlocks.Html.Literal
