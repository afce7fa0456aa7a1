import PageBlocks.Json.Writer
import PageBlocks.Text.Printable
/-!
# Quoted text

Text between quotation marks, with escapes for the mark, the backslash and all that cannot be seen.
Single marks are used unless the text holds single marks and no double ones.
-/

namespace PageBlocks.Text

/-- The single quotation mark. -/
def singleMark : Char := Char.ofNat 0x27

/-- A number in hexadecimal notation with at least the given count of digits. -/
def hexDigits (count value : Nat) : List Char :=
  let digits := Nat.toDigits 16 value
  List.replicate (count - digits.length) '0' ++ digits

/-- A character between quotation marks of one kind. -/
def quotedChar (mark c : Char) : List Char :=
  let code := c.toNat
  if c = mark || c = '\\' then ['\\', c]
  else if c = '\n' then ['\\', 'n']
  else if c = '\r' then ['\\', 'r']
  else if c = '\t' then ['\\', 't']
  else if isPrintable c then [c]
  else if code < 0x100 then '\\' :: 'x' :: hexDigits 2 code
  else if code < 0x10000 then '\\' :: 'u' :: hexDigits 4 code
  else '\\' :: 'U' :: hexDigits 8 code

/-- Text between quotation marks. -/
def quoted (text : List Char) : List Char :=
  let mark := if text.contains singleMark && !text.contains '"' then '"' else singleMark
  mark :: text.flatMap (quotedChar mark) ++ [mark]

end PageBlocks.Text
