import PageBlocks.Text.Blank
import PageBlocks.Text.Case
import PageBlocks.Text.Search
/-!
# The character set that a page declares

A page names its character set near its start, in an attribute of a `meta` tag or inside the
content type that such a tag tells.  Old names stand for larger sets, as browsers have it.
-/

namespace PageBlocks.Charset

open PageBlocks.Text

/-- The character sets that some names stand for. -/
def largerSets : List (String × String) :=
  [("iso-8859-1", "windows-1252"), ("iso8859-1", "windows-1252"), ("iso88591", "windows-1252"),
    ("latin-1", "windows-1252"), ("latin1", "windows-1252"), ("us-ascii", "windows-1252"),
    ("ascii", "windows-1252"), ("iso-8859-9", "windows-1254"), ("iso-8859-11", "windows-874")]

/-- How many bytes at the start of a page are searched. -/
def searchedLength : Nat := 2048

/-- The character set of pages that declare none. -/
def standardName : String := "utf-8"

/-- What follows a piece at the start of a text, where capitals are as good as small letters. -/
def dropWord? (word : String) (text : List Char) : Option (List Char) :=
  if asciiLower (text.take word.length) = word.toList then some (text.drop word.length) else none

/-- What a reader finds in the latest part of a text before a character that ends the search. -/
def lastBefore? (ends : Char → Bool) (read? : List Char → Option α) : List Char → Option α
  | [] => read? []
  | c :: rest =>
    if ends c then read? (c :: rest)
    else (lastBefore? ends read? rest).or (read? (c :: rest))

/-- What a reader finds in the earliest part of a text. -/
def firstIn? (read? : List Char → Option α) : List Char → Option α
  | [] => read? []
  | c :: rest => (read? (c :: rest)).or (firstIn? read? rest)

/-- Is the character a quotation mark? -/
def isMark (c : Char) : Bool :=
  c = '"' || c.toNat = 0x27

/-- Does the character belong to the name of a character set? -/
def isNameChar (c : Char) : Bool :=
  !(isBlank c || isMark c || c = ';' || c = '>')

/-- The name at the start of a text. -/
def readName? (text : List Char) : Option (List Char) :=
  let name := text.takeWhile isNameChar
  if name.isEmpty then none else some name

/-- The name that follows `charset=`, where a mark and blanks may stand before it. -/
def readAttribute? (text : List Char) : Option (List Char) :=
  (dropWord? "charset=" text).bind fun rest =>
    let rest := if rest.head?.any isMark then rest.drop 1 else rest
    readName? (rest.dropWhile isBlank)

/-- The name in a content type in quotation marks. -/
def readContentType? (text : List Char) : Option (List Char) :=
  (dropWord? "content=" text).bind fun rest =>
    if rest.head?.any isMark then
      lastBefore? isMark (fun text => (dropWord? "charset=" text).bind readName?) (rest.drop 1)
    else none

/-- What a reader finds in a `meta` tag at the start of a text, after its name and something
else. -/
def readMeta? (read? : List Char → Option α) (text : List Char) : Option α :=
  (dropWord? "<meta" text).bind fun rest =>
    match rest with
    | [] => none
    | c :: rest => if c = '>' then none else lastBefore? (· = '>') read? rest

/-- The name of the character set that a page declares, as it is written there. -/
def writtenName? (text : List Char) : Option (List Char) :=
  (firstIn? (readMeta? readAttribute?) text).or (firstIn? (readMeta? readContentType?) text)

/-- The name of the character set of a page. -/
def declared (bytes : List UInt8) : String :=
  let text := ((bytes.take searchedLength).filter (· < 0x80)).map fun byte => Char.ofNat byte.toNat
  match writtenName? text with
  | none => standardName
  | some name =>
    let name := String.ofList (asciiLower (trim name))
    (largerSets.lookup name).getD name

end PageBlocks.Charset
