import PageBlocks.Json.Reader
import PageBlocks.Text.Letter
import PageBlocks.Text.Utf8
/-!
# Percent escapes

In addresses a byte may be written as a percent sign and two hexadecimal digits.  Runs of ASCII
characters are read as bytes, where the escapes count as the bytes they name, and those bytes are
read as text.

## Main results

* `unescape_of_noPercent` — text without percent signs stays what it is.
-/

namespace PageBlocks.Url

open PageBlocks.Text

/-- The bytes of ASCII text with escapes. -/
def unescapeBytes : List Char → List UInt8
  | '%' :: high :: low :: rest =>
    match Json.hexDigit? high, Json.hexDigit? low with
    | some h, some l => (h * 16 + l).toUInt8 :: unescapeBytes rest
    | _, _ => '%'.toNat.toUInt8 :: unescapeBytes (high :: low :: rest)
  | c :: rest => c.toNat.toUInt8 :: unescapeBytes rest
  | [] => []

/-- Text with its escapes read, where `run` is the ASCII text read so far, in reverse. -/
def unescapeFrom (run : List Char) : List Char → List Char
  | [] => Utf8.decode (unescapeBytes run.reverse)
  | c :: rest =>
    if isAscii c then unescapeFrom (c :: run) rest
    else Utf8.decode (unescapeBytes run.reverse) ++ c :: unescapeFrom [] rest

/-- Text with its escapes read. -/
def unescape (text : List Char) : List Char :=
  if text.contains '%' then unescapeFrom [] text else text

theorem unescape_of_noPercent {text : List Char} (h : '%' ∉ text) : unescape text = text := by
  simp [unescape, h]

/-- Text with its escapes read, where a plus sign stands for a blank. -/
def unescapeQuery (text : List Char) : List Char :=
  unescape (text.map fun c => if c = '+' then ' ' else c)

/-- A hexadecimal digit as a capital. -/
def hexCapital (value : Nat) : Char :=
  if value < 10 then Char.ofNat (0x30 + value) else Char.ofNat (0x37 + value)

/-- The escape of a byte. -/
def escapeByte (byte : UInt8) : List Char :=
  ['%', hexCapital (byte.toNat / 16), hexCapital (byte.toNat % 16)]

/-- Text in which all characters but the allowed ones are written as escapes. -/
def escape (isAllowed : Char → Bool) (text : List Char) : List Char :=
  text.flatMap fun c => if isAllowed c then [c] else (Utf8.encodeChar c).flatMap escapeByte

end PageBlocks.Url
