import PageBlocks.Html.CharacterReference
import PageBlocks.Text.Case
import PageBlocks.Text.Search
/-!
# Tokens of markup

Markup is read as a sequence of tokens: tags, comments, document types and runs of text.  Where a
token ends depends on the content that the tree construction expects next, which is a `Content`:
ordinary markup, the text of a particular element, or text to the very end.

`readTokens` reads at least one character of a text that is not empty, and returns the tokens it
found together with the rest.

## Main results

* `length_firstOfEachName_le` — of attributes that repeat a name the first one counts, so there are
  never more of them than written.
-/

namespace PageBlocks.Html

/-! ## Tokens -/

/-- The attributes of a tag as they are written, some of them without a value. -/
abbrev WrittenAttributes := List (String × Option String)

/-- A piece of markup. -/
inductive Token where
  /-- Text that is white space only. -/
  | spaces (content : List Char)
  /-- Other text. -/
  | characters (content : List Char)
  | startTag (name : String) (attributes : WrittenAttributes) (selfClosing : Bool)
  | endTag (name : String)
  | comment (content : String)
  | doctype (name : String) (publicId systemId : Option String) (correct : Bool)
deriving DecidableEq, Repr

/-- What the text to be read holds. -/
inductive Content where
  /-- Ordinary markup. -/
  | markup
  /-- Text with character references, up to the end tag of an element. -/
  | escapableText (element : String)
  /-- Text as it is, up to the end tag of an element. -/
  | rawText (element : String)
  /-- Script text up to its end tag. -/
  | script
  /-- Text as it is, to the very end. -/
  | plainText
deriving DecidableEq, Repr

/-! ## Runs of text -/

/-- Splits text at its leading white space and at its references, so that white space is told from
other text.  The fuel bounds the number of pieces. -/
def textTokens (fuel : Nat) (text : List Char) : List Token :=
  match fuel, text with
  | 0, _ => []
  | _, [] => []
  | fuel + 1, '&' :: rest =>
    match readReference? false rest with
    | some ([c], after) =>
      (if isSpace c then .spaces [c] else .characters [c]) :: textTokens fuel after
    | some (characters, after) => .characters characters :: textTokens fuel after
    | none =>
      .characters ('&' :: rest.takeWhile isLetterOrDigit) ::
        textTokens fuel (rest.dropWhile isLetterOrDigit)
  | fuel + 1, c :: rest =>
    if isSpace c then
      .spaces (c :: rest.takeWhile isSpace) :: textTokens fuel (rest.dropWhile isSpace)
    else
      .characters (c :: rest.takeWhile (· ≠ '&')) :: textTokens fuel (rest.dropWhile (· ≠ '&'))

/-! ## Tags -/

/-- The name of a tag or an attribute in small letters. -/
def nameOf (characters : List Char) : String :=
  String.ofList (Text.asciiLower characters)

/-- Keeps the first attribute of each name. -/
def firstOfEachName : WrittenAttributes → WrittenAttributes
  | [] => []
  | entry :: rest => entry :: (firstOfEachName rest).filter fun other => other.1 ≠ entry.1

theorem length_firstOfEachName_le (attributes : WrittenAttributes) :
    (firstOfEachName attributes).length ≤ attributes.length := by
  induction attributes with
  | nil => simp [firstOfEachName]
  | cons entry rest ih =>
    simp only [firstOfEachName, List.length_cons]
    exact Nat.succ_le_succ (Nat.le_trans (List.length_filter_le _ _) ih)

/-- Does this character belong to the name of an attribute after its first character? -/
def isAttributeNameChar (c : Char) : Bool :=
  !(isSpace c || c = '=' || c = '>' || c = '/')

/-- Reads the value after an equals sign: the value and the rest.  Nothing when a quoted value is
not closed. -/
def readAttributeValue? (text : List Char) : Option (String × List Char) :=
  let quoted (mark : Char) (rest : List Char) :=
    match rest.dropWhile (· ≠ mark) with
    | _ :: after => some (String.ofList (decode true (rest.takeWhile (· ≠ mark))), after)
    | [] => none
  match text.dropWhile isSpace with
  | '"' :: rest => quoted '"' rest
  | c :: rest =>
    if c.toNat = 0x27 then quoted c rest
    else if c = '>' then some ("", c :: rest)
    else
      let inValue (c : Char) := !(isSpace c || c = '>')
      some (String.ofList (decode true ((c :: rest).takeWhile inValue)),
        (c :: rest).dropWhile inValue)
  | [] => none

/-- Reads the attributes of a tag up to its closing bracket: the attributes, whether the tag closes
itself, and the rest.  Nothing when the text ends first.  The fuel bounds the number of
attributes. -/
def readAttributes? : (fuel : Nat) → (seen : WrittenAttributes) → List Char →
    Option (WrittenAttributes × Bool × List Char)
  | 0, _, _ => none
  | fuel + 1, seen, text =>
    match text.dropWhile isSpace with
    | [] => none
    | '>' :: rest => some (firstOfEachName seen.reverse, false, rest)
    | '/' :: '>' :: rest => some (firstOfEachName seen.reverse, true, rest)
    | '/' :: rest => readAttributes? fuel seen rest
    | c :: rest =>
      let name := nameOf (c :: rest.takeWhile isAttributeNameChar)
      let afterName := rest.dropWhile isAttributeNameChar
      match afterName.dropWhile isSpace with
      | '=' :: valueText =>
        match readAttributeValue? valueText with
        | some (value, after) => readAttributes? fuel ((name, some value) :: seen) after
        | none => none
      | _ => readAttributes? fuel ((name, none) :: seen) afterName

/-- Does this character belong to the name of a tag? -/
def isTagNameChar (c : Char) : Bool :=
  !(isSpace c || c = '>' || c = '/')

/-- Reads a tag from its name on.  A tag that the text ends within is dropped. -/
def readTag (text : List Char) (build : String → WrittenAttributes → Bool → Token) :
    List Token × List Char :=
  let name := nameOf (text.takeWhile isTagNameChar)
  match readAttributes? (text.length + 1) [] (text.dropWhile isTagNameChar) with
  | some (attributes, selfClosing, rest) => ([build name attributes selfClosing], rest)
  | none => ([], [])

/-! ## Comments and document types -/

/-- The text of a document type. -/
def doctypeText (name : String) (publicId systemId : Option String) : String :=
  match publicId, systemId with
  | some publicId, some systemId =>
    name ++ " PUBLIC \"" ++ publicId ++ "\" \"" ++ systemId ++ "\""
  | some publicId, none => name ++ " PUBLIC \"" ++ publicId ++ "\""
  | none, some systemId => name ++ " SYSTEM \"" ++ systemId ++ "\""
  | none, none => name

/-- Reads a comment after its opening: the content and the rest.  Of marks that would close it, an
incomplete one at the end of the text is dropped. -/
def readCommentContent : List Char → List Char × List Char
  | [] => ([], [])
  | ['-'] => ([], [])
  | ['-', '-'] => ([], [])
  | ['-', '-', '!'] => ([], [])
  | '-' :: '-' :: '>' :: rest => ([], rest)
  | '-' :: '-' :: '!' :: '>' :: rest => ([], rest)
  | c :: rest =>
    let (content, after) := readCommentContent rest
    (c :: content, after)

/-- Reads a comment after its opening. -/
def readComment : List Char → List Token × List Char
  | '>' :: rest => ([.comment ""], rest)
  | '-' :: '>' :: rest => ([.comment ""], rest)
  | text =>
    let (content, rest) := readCommentContent text
    ([.comment (String.ofList content)], rest)

/-- Reads everything up to the next closing bracket as a comment. -/
def readLooseComment (text : List Char) : List Token × List Char :=
  ([.comment (String.ofList (text.takeWhile (· ≠ '>')))], (text.dropWhile (· ≠ '>')).drop 1)

/-- What follows a word at the start of a text, in any case. -/
def dropWord? (word : String) (text : List Char) : Option (List Char) :=
  let start := text.take word.length
  if Text.asciiLower start = word.toList then some (text.drop word.length) else none

/-- Reads a quoted identifier after its opening mark: the identifier, the rest, and whether the
mark is closed.  A closing bracket ends it as well, and stays in the rest. -/
def readIdentifier (mark : Char) (text : List Char) : String × List Char × Bool :=
  let inside (c : Char) := !(c = mark || c = '>')
  let content := String.ofList (text.takeWhile inside)
  match text.dropWhile inside with
  | c :: rest => if c = mark then (content, rest, true) else (content, c :: rest, false)
  | [] => (content, [], false)

/-- Is this a quotation mark? -/
def isQuotationMark (c : Char) : Bool :=
  c = '"' || c.toNat = 0x27

/-- The end of a document type: everything up to its closing bracket is passed over.  It is
correct only when the bracket is there. -/
def finishDoctype (name : String) (publicId systemId : Option String) (correct : Bool)
    (text : List Char) : List Token × List Char :=
  match text.dropWhile (· ≠ '>') with
  | _ :: rest => ([.doctype name publicId systemId correct], rest)
  | [] => ([.doctype name publicId systemId false], [])

/-- Reads the system identifier of a document type, and the rest. -/
def readSystemId (name : String) (publicId : Option String) (required : Bool)
    (text : List Char) : List Token × List Char :=
  match text.dropWhile isSpace with
  | c :: rest =>
    if isQuotationMark c then
      let (systemId, after, closed) := readIdentifier c rest
      finishDoctype name publicId (some systemId) closed after
    else finishDoctype name publicId none (c = '>' && !required) (c :: rest)
  | [] => finishDoctype name publicId none false []

/-- Reads a document type after its keyword. -/
def readDoctype (text : List Char) : List Token × List Char :=
  let inName (c : Char) := !(isSpace c || c = '>')
  let start := text.dropWhile isSpace
  let name := nameOf (start.takeWhile inName)
  let afterName := (start.dropWhile inName).dropWhile isSpace
  if name = "" then finishDoctype name none none false start
  else match dropWord? "public" afterName, dropWord? "system" afterName with
    | some rest, _ =>
      match rest.dropWhile isSpace with
      | c :: more =>
        if isQuotationMark c then
          let (publicId, after, closed) := readIdentifier c more
          if closed then readSystemId name (some publicId) false after
          else finishDoctype name (some publicId) none false after
        else finishDoctype name none none false (c :: more)
      | [] => finishDoctype name none none false []
    | none, some rest => readSystemId name none true rest
    | none, none => finishDoctype name none none (afterName.head? = some '>') afterName

/-- Reads a declaration after its exclamation mark.  A marked section is text where
`sectionsAllowed`, and a comment elsewhere. -/
def readDeclaration (sectionsAllowed : Bool) (text : List Char) : List Token × List Char :=
  match text with
  | '-' :: '-' :: rest => readComment rest
  | _ =>
    match dropWord? "doctype" text with
    | some rest => readDoctype rest
    | none =>
      match sectionsAllowed, Text.dropLeading? "[CDATA[".toList text with
      | true, some rest =>
        match Text.cut? "]]>".toList rest with
        | some (content, after) => ([.characters content], after)
        | none => ([.characters rest], [])
      | _, _ => readLooseComment text

/-! ## Ordinary markup -/

/-- Reads what follows an opening bracket. -/
def readAfterBracket (sectionsAllowed : Bool) (text : List Char) : List Token × List Char :=
  match text with
  | '!' :: rest => readDeclaration sectionsAllowed rest
  | '/' :: [] => ([.characters ['<', '/']], [])
  | '/' :: '>' :: rest => ([], rest)
  | '/' :: c :: rest =>
    if isLetter c then readTag (c :: rest) fun name _ _ => .endTag name
    else readLooseComment (c :: rest)
  | '?' :: rest => readLooseComment ('?' :: rest)
  | '>' :: rest => ([.characters ['<', '>']], rest)
  | c :: rest =>
    if isLetter c then readTag (c :: rest) .startTag
    else ([.characters ['<']], c :: rest)
  | [] => ([.characters ['<']], [])

/-- Reads ordinary markup: what an opening bracket starts, or the text up to the next one. -/
def readMarkup (sectionsAllowed : Bool) (text : List Char) : List Token × List Char :=
  match text with
  | '<' :: rest => readAfterBracket sectionsAllowed rest
  | _ =>
    let run := text.takeWhile (· ≠ '<')
    (textTokens run.length run, text.dropWhile (· ≠ '<'))

/-! ## The text of an element -/

/-- What follows the name of an end tag for the element at the start of a text. -/
def dropEndTagName? (element : String) (text : List Char) : Option (List Char) :=
  match text with
  | '<' :: '/' :: rest =>
    match dropWord? element rest with
    | some (c :: after) =>
      if isSpace c || c = '>' || c = '/' then some (c :: after) else none
    | _ => none
  | _ => none

/-- The text before the end tag of an element, and what follows the name of that tag. -/
def splitAtEndTag (element : String) : List Char → List Char × Option (List Char)
  | [] => ([], none)
  | c :: rest =>
    match dropEndTagName? element (c :: rest) with
    | some after => ([], some after)
    | none =>
      let (content, after) := splitAtEndTag element rest
      (c :: content, after)

/-- How a script stands between its comment marks: outside of them, inside, or inside a nested
script. -/
inductive ScriptState where
  | outside
  | comment
  | nested
deriving DecidableEq, Repr

/-- Is this a script tag, with a slash when it closes? -/
def startsScriptTag (opening : String) (text : List Char) : Bool :=
  match Text.dropLeading? opening.toList text with
  | some rest =>
    let name := rest.takeWhile isLetter
    Text.asciiLower name = "script".toList &&
      (match rest.dropWhile isLetter with
        | c :: _ => isSpace c || c = '>' || c = '/'
        | [] => false)
  | none => false

/-- The text of a script before its end tag, and what follows the name of that tag.  `dashes`
counts the hyphens just before; two or more and a closing bracket end a comment. -/
def splitScript : ScriptState → (dashes : Nat) → List Char → List Char × Option (List Char)
  | _, _, [] => ([], none)
  | state, dashes, c :: rest =>
    match (if state = .nested then none else dropEndTagName? "script" (c :: rest)) with
    | some after => ([], some after)
    | none =>
      let (nextState, nextDashes) : ScriptState × Nat :=
        match state, c with
        | .outside, '<' =>
          if Text.startsWith "!--".toList rest then (.comment, 0) else (.outside, 0)
        | .outside, _ => (.outside, 0)
        | .comment, '<' =>
          if startsScriptTag "<" (c :: rest) then (.nested, 0) else (.comment, 0)
        | .nested, '<' =>
          if startsScriptTag "</" (c :: rest) then (.comment, 0) else (.nested, 0)
        | state, '-' => (state, dashes + 1)
        | state, '>' => if dashes ≥ 2 then (.outside, 0) else (state, 0)
        | state, _ => (state, 0)
      let (content, after) := splitScript nextState nextDashes rest
      (c :: content, after)

/-- The tokens of an element's text and of its end tag.  An end tag that the text ends within is
dropped. -/
def closeText (element : String) (content : List Token) (after : Option (List Char)) :
    List Token × List Char :=
  match after with
  | none => (content, [])
  | some rest =>
    match readAttributes? (rest.length + 1) [] rest with
    | some (_, _, rest) => (content ++ [.endTag element], rest)
    | none => (content, [])

/-- A token for text, when there is any. -/
def rawTokens (content : List Char) : List Token :=
  if content.isEmpty then [] else [.characters content]

/-- Reads the next tokens of a text that is not empty. -/
def readTokens (content : Content) (sectionsAllowed : Bool) (text : List Char) :
    List Token × List Char :=
  match content with
  | .markup => readMarkup sectionsAllowed text
  | .escapableText element =>
    let (run, after) := splitAtEndTag element text
    closeText element (textTokens run.length run) after
  | .rawText element =>
    let (run, after) := splitAtEndTag element text
    closeText element (rawTokens run) after
  | .script =>
    let (run, after) := splitScript .outside 0 text
    closeText "script" (rawTokens run) after
  | .plainText => ([.characters text], [])

end PageBlocks.Html
