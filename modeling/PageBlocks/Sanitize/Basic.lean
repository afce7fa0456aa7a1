import PageBlocks.Sanitize.Clean
import PageBlocks.Sanitize.Writer
import PageBlocks.Text.Blank
/-!
# Sanitizing markup

Markup from outside is read leniently, cleaned of what is unsafe and written again.
-/

namespace PageBlocks.Sanitize

open PageBlocks.Text

/-- Why markup cannot be sanitized. -/
inductive Failure where
  /-- The markup holds no element at all. -/
  | noDocument
  /-- Text with control characters would have to be written. -/
  | controlCharacters
  /-- A whole page is given, but it has no body, or several. -/
  | noSingleBody
  /-- An address that something is taken from cannot be cut. -/
  | address (fault : Url.Fault)
deriving DecidableEq, Repr

/-- The wording of a failure. -/
def Failure.reason : Failure → String
  | .noDocument => "Document is empty"
  | .controlCharacters =>
    "All strings must be XML compatible: Unicode or ASCII, no NULL bytes or control characters"
  | .noSingleBody => "too many bodies"
  | .address fault => fault.message

/-- Does the markup look like a whole page, and not like a part of one? -/
def looksLikePage (text : List Char) : Bool :=
  let start := foldText (text.dropWhile isBlank)
  startsWith "<html".toList start || startsWith "<!doctype".toList start

/-- The markup as that of a whole page. -/
def asPage (text : List Char) : List Char :=
  if looksLikePage text then text
  else "<html><body>".toList ++ text ++ "</body></html>".toList

/-- Characters that markup cannot hold give way to a replacement. -/
def replaceNull (c : Char) : Char :=
  if c.toNat = 0 then Utf8.replacementCharacter else c

/-- The content of the only body of a page.  Blank text at its start is dropped. -/
def bodyOf? (page : Fragment) : Except Failure Fragment :=
  let hasRoot : Bool :=
    match page.dropLeadingText with
    | .nil => false
    | _ => true
  match (page.childrenOf "html").head? with
  | some root =>
    match root.childrenOf "body" with
    | [body] =>
      if isBlankText body.leadingText then .ok body.dropLeadingText
      else if holdsForbidden body.leadingText then .error .controlCharacters
      else .ok body
    | _ => .error .noSingleBody
  | none => .error (if hasRoot then .noSingleBody else .noDocument)

/-- Markup without its unsafe parts. -/
def sanitize (policy : Policy) (text : List Char) : Except Failure (List Char) :=
  if isBlankText text then .ok []
  else do
    let page := (asPage text).map replaceNull
    let body ← bodyOf? (Fragment.ofEvents (Html.Lenient.events page))
    if attributesFail body then .error .controlCharacters
    else match addressFault? body with
      | some fault => .error (.address fault)
      | none =>
        if textFails policy body then .error .controlCharacters
        else .ok (markup (prune policy body))

/-- A way to sanitize markup. -/
abbrev Sanitizer := List Char → Except Failure (List Char)

/-- The way in which markup is sanitized unless something else is asked for. -/
def standardSanitizer : Sanitizer := sanitize .standard

end PageBlocks.Sanitize
