import PageBlocks.Text.Blank
import PageBlocks.Text.Case
import PageBlocks.Text.Search
import PageBlocks.Url.Percent
/-!
# Addresses and styles that run scripts

Scripts hide in addresses with a scheme of their own and in styles.  Blanks, control characters and
escapes do not hide them from the checks here.
-/

namespace PageBlocks.Sanitize

open PageBlocks.Text

/-- Characters that hide a scheme without changing it. -/
def hidesScheme (c : Char) : Bool :=
  isBlank c || c.toNat ≤ 0x08 || c.toNat = 0x0B || c.toNat = 0x0C ||
    (0x0E ≤ c.toNat && c.toNat ≤ 0x19)

/-- Text without the characters that hide a scheme. -/
def unhide (text : List Char) : List Char :=
  text.filter fun c => !hidesScheme c

/-- Schemes that can run a script. -/
def scriptSchemes : List String :=
  ["javascript", "jscript", "livescript", "vbscript", "data", "about", "mocha"]

/-- How often a scheme that can run a script is named, in text without regard to case. -/
def countSchemes : List Char → Nat
  | [] => 0
  | c :: rest =>
    (if scriptSchemes.any fun scheme => startsWith (scheme.toList ++ [':']) (c :: rest) then 1
      else 0) + countSchemes rest

/-- What an address of image data begins with. -/
def imageStart : List Char := "data:image/".toList

/-- What follows the type of image data. -/
def imageEnd : List Char := ";base64,".toList

/-- The type of the first image data in a text. -/
def imageType? : List Char → Option (List Char)
  | [] => none
  | c :: rest =>
    match (dropLeading? imageStart (c :: rest)).bind fun after =>
        cutLast? imageEnd (after.takeWhile (· ≠ '\n')) with
    | some (type, _) => if type.isEmpty then imageType? rest else some type
    | none => imageType? rest

/-- Does a text name a scheme that can run a script?  Image data may, unless it is a drawing. -/
def namesScript (text : List Char) : Bool :=
  let folded := foldText text
  match imageType? folded with
  | some type =>
    occursIn "xml".toList type || occursIn "svg".toList type || 1 < countSchemes folded
  | none => 0 < countSchemes folded

/-- An address without blanks around it; nothing when it runs a script. -/
def cleanAddress (address : List Char) : List Char :=
  let address := trim address
  if namesScript (unhide (Url.unescapeQuery address)) then [] else address

/-! ## Addresses in styles -/

/-- The address in parentheses that a text begins with: what is around it and the rest.  It may be
quoted; a quote that is not closed before the parenthesis belongs to the address. -/
def readAddress? (text : List Char) :
    Option (List Char × List Char × List Char × List Char) :=
  let quoted? : Option (List Char × List Char × List Char × List Char) :=
    match text with
    | mark :: rest =>
      if mark = '"' || mark.toNat = 0x27 then
        match cut? [mark] rest with
        | some (address, ')' :: after) => some ([mark], address, [mark, ')'], after)
        | _ => none
      else none
    | [] => none
  match quoted? with
  | some result => some result
  | none =>
    (cut? [')'] text).map fun (written, after) =>
      match written with
      | mark :: inside =>
        if (mark = '"' || mark.toNat = 0x27) && written.getLast? = some mark then
          ([mark], inside.dropLast, (if inside.isEmpty then [] else [mark]) ++ [')'], after)
        else ([], written, [')'], after)
      | [] => ([], [], [')'], after)

/-- What an address in a style begins with. -/
def addressStart : List Char := "url(".toList

/-- Cleans the addresses in a style, where the first `inside` characters belong to an address that
was dealt with already. -/
def cleanAddressesFrom : (inside : Nat) → List Char → List Char
  | _, [] => []
  | inside + 1, _ :: rest => cleanAddressesFrom inside rest
  | 0, c :: rest =>
    if foldText ((c :: rest).take 4) = addressStart then
      match readAddress? ((c :: rest).drop 4) with
      | some (before, address, behind, after) =>
        (c :: rest).take 4 ++ before ++ cleanAddress address ++ behind ++
          cleanAddressesFrom (rest.length - after.length) rest
      | none => c :: cleanAddressesFrom 0 rest
    else c :: cleanAddressesFrom 0 rest

/-- Cleans the addresses in a style. -/
def cleanAddresses (style : List Char) : List Char :=
  cleanAddressesFrom 0 style

/-! ## Styles -/

/-- The word that begins a computed value. -/
def computedWord : List Char := "expression".toList

/-- What follows a computed value that a text begins with. -/
def dropComputed? (text : List Char) : Option (List Char) :=
  if foldText (text.take computedWord.length) = computedWord then
    match (text.drop computedWord.length).dropWhile isBlank with
    | '(' :: rest => (cut? [')'] rest).map (·.2)
    | _ => none
  else none

/-- What follows an import that a text begins with. -/
def dropImport? (text : List Char) : Option (List Char) :=
  match text with
  | '@' :: rest =>
    let word := rest.dropWhile isBlank
    if foldText (word.take 6) = "import".toList then some (word.drop 6) else none
  | _ => none

/-- What follows a comment that a text begins with. -/
def dropComment? (text : List Char) : Option (List Char) :=
  match text with
  | '/' :: '*' :: rest => (cut? ['*', '/'] rest).map (·.2)
  | _ => none

/-- Text without all that `drop?` finds in it, where the first `inside` characters belong to what
was found already. -/
def withoutFrom (drop? : List Char → Option (List Char)) : (inside : Nat) → List Char → List Char
  | _, [] => []
  | inside + 1, _ :: rest => withoutFrom drop? inside rest
  | 0, c :: rest =>
    match drop? (c :: rest) with
    | some after => withoutFrom drop? (rest.length - after.length) rest
    | none => c :: withoutFrom drop? 0 rest

/-- Text without all that `drop?` finds in it. -/
def without (drop? : List Char → Option (List Char)) (text : List Char) : List Char :=
  withoutFrom drop? 0 text

/-- Does a tag begin anywhere in the text? -/
def holdsTag : List Char → Bool
  | [] => false
  | '<' :: rest =>
    (match rest with
      | '/' :: c :: _ => isAsciiLetter c
      | c :: _ => isAsciiLetter c
      | [] => false) || holdsTag rest
  | _ :: rest => holdsTag rest

/-- Does a style still run a script once what hides it is taken away? -/
def isSneaky (style : List Char) : Bool :=
  let plain := lower (unhide ((without dropComment? style).filter (· ≠ '\\')))
  namesScript plain || occursIn "expression(".toList plain || occursIn "@import".toList plain ||
    holdsTag plain

/-- A style without scripts; nothing when they cannot be told apart from the rest. -/
def cleanStyle? (style : List Char) : Option (List Char) :=
  let cleaned := without dropImport? (without dropComputed? (cleanAddresses style))
  if isSneaky cleaned then none else some cleaned

end PageBlocks.Sanitize
