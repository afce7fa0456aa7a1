import PageBlocks.Text.Accent
import PageBlocks.Text.Case
import PageBlocks.Url.Percent
import PageBlocks.Url.Split
/-!
# Paths of documents

The path of a document is made of segments of lower-case ASCII letters and digits, with single
dashes between their words.  It is derived from the address of the page, whose last segment is
`index` where the address ends in a slash.
-/

namespace PageBlocks.Url

open PageBlocks.Text

/-- Characters of the words in a segment. -/
def isWordPart (c : Char) : Bool :=
  ('a' ≤ c && c ≤ 'z') || isAsciiDigit c

/-- Words joined by single dashes, where `pending` tells that a dash is due before the next one. -/
def dashedFrom (pending : Bool) : List Char → List Char
  | [] => []
  | c :: rest =>
    if isWordPart c then (if pending then ['-', c] else [c]) ++ dashedFrom false rest
    else dashedFrom true rest

/-- The words of a text joined by single dashes. -/
def dashed (text : List Char) : List Char :=
  dashedFrom false (text.dropWhile (!isWordPart ·))

/-- A segment in lower case, without accents, its words joined by dashes. -/
def cleanSegment (segment : List Char) : List Char :=
  dashed ((lower (unescape segment)).flatMap unaccent)

/-- The part of a path before its extension, and the extension. -/
def cutExtension (path : List Char) : List Char × List Char :=
  match cutLast? ['.'] path with
  | some (stem, extension) => if extension.contains '/' then (path, []) else (stem, extension)
  | none => (path, [])

/-- A path of clean segments.  The extension is kept as it is. -/
def cleanPath (path : List Char) : List Char :=
  let (stem, extension) := cutExtension path
  let segments := (splitOn ['/'] stem).filter (!·.isEmpty)
  segments.flatMap (fun segment => '/' :: cleanSegment segment) ++
    (if extension.isEmpty then [] else '.' :: extension)

/-- The extension of web pages. -/
def pageExtension : List Char := ".html".toList

/-- A path without the extension of web pages, which a line feed may follow. -/
def dropPageExtension (path : List Char) : List Char :=
  if endsWith pageExtension path then path.take (path.length - pageExtension.length)
  else if endsWith (pageExtension ++ ['\n']) path then
    path.take (path.length - pageExtension.length - 1) ++ ['\n']
  else path

/-- The path of the document that belongs to an address, before it is cleaned. -/
def rawDocumentPath (address : List Char) : Except Fault (List Char) :=
  (pathOf address).map fun path =>
    let path := if path.isEmpty then ['/'] else path
    let path := if endsWith ['/'] path then path ++ "index".toList else path
    (dropPageExtension (lower (unescape path))).map fun c =>
      if isWordPart c || c = '/' then c else '-'

end PageBlocks.Url
