import PageBlocks.Json.Double
/-!
# Writing JSON

`Json.render` lays a value out over several lines, with two more blanks for each level, and
`Json.compact` writes it on one line.  Characters beyond ASCII are written as they are.

## Main results

* `write_list_cons`, `write_object_cons` — how what is in lists and objects is laid out.
-/

namespace PageBlocks.Json

/-- A hexadecimal digit. -/
def hexChar (value : Nat) : Char :=
  if value < 10 then Char.ofNat (48 + value) else Char.ofNat (87 + value)

/-- The written form of one character of a string. -/
def escapeChar (c : Char) : List Char :=
  if c = '"' then ['\\', '"']
  else if c = '\\' then ['\\', '\\']
  else if c = '\n' then ['\\', 'n']
  else if c = '\r' then ['\\', 'r']
  else if c = '\t' then ['\\', 't']
  else if c.toNat = 8 then ['\\', 'b']
  else if c.toNat = 12 then ['\\', 'f']
  else if c.toNat < 0x20 then
    ['\\', 'u', '0', '0', hexChar (c.toNat / 16), hexChar (c.toNat % 16)]
  else [c]

/-- A string between quotation marks. -/
def quote (value : String) : List Char :=
  '"' :: (value.toList.flatMap escapeChar ++ ['"'])

/-- An integer in decimal notation. -/
def writeInteger (value : Int) : List Char :=
  if value < 0 then '-' :: (Nat.toDigits 10 value.natAbs) else Nat.toDigits 10 value.natAbs

/-- A number with a fraction or an exponent. -/
def writeDecimal (value : Decimal) : List Char :=
  (value.write "Infinity" "NaN").toList

/-- How the parts of a list or an object are set apart. -/
structure Layout where
  /-- What starts the line of a part at a level; `none` keeps everything on one line. -/
  indent? : Option Nat

/-- The start of a new line at a level. -/
def Layout.newLine (layout : Layout) (level : Nat) : List Char :=
  match layout.indent? with
  | some width => '\n' :: List.replicate (width * level) ' '
  | none => []

/-- What follows the name of a field. -/
def Layout.colon (layout : Layout) : List Char :=
  if layout.indent?.isSome then [':', ' '] else [':']

mutual

/-- A value at a level of nesting. -/
def write (layout : Layout) (level : Nat) : Json → List Char
  | .null => "null".toList
  | .bool true => "true".toList
  | .bool false => "false".toList
  | .integer value => writeInteger value
  | .decimal value => writeDecimal value
  | .text value => quote value
  | .list [] => ['[', ']']
  | .list (item :: items) =>
    '[' :: (layout.newLine (level + 1) ++ write layout (level + 1) item ++
      writeItems layout (level + 1) items ++ layout.newLine level ++ [']'])
  | .object [] => ['\x7b', '\x7d']
  | .object ((name, value) :: fields) =>
    '\x7b' :: (layout.newLine (level + 1) ++ quote name ++ layout.colon ++
      write layout (level + 1) value ++ writeFields layout (level + 1) fields ++
      layout.newLine level ++ ['\x7d'])

/-- The items after the first one, each after a comma. -/
def writeItems (layout : Layout) (level : Nat) : List Json → List Char
  | [] => []
  | item :: items =>
    ',' :: (layout.newLine level ++ write layout level item ++ writeItems layout level items)

/-- The fields after the first one, each after a comma. -/
def writeFields (layout : Layout) (level : Nat) : List (String × Json) → List Char
  | [] => []
  | (name, value) :: fields =>
    ',' :: (layout.newLine level ++ quote name ++ layout.colon ++ write layout level value ++
      writeFields layout level fields)

end

section

variable (layout : Layout) (level : Nat)

theorem write_null : write layout level .null = "null".toList := rfl

theorem write_bool (value : Bool) :
    write layout level (.bool value) = (if value then "true" else "false").toList := by
  cases value <;> rfl

theorem write_integer (value : Int) : write layout level (.integer value) = writeInteger value := rfl

theorem write_decimal (value : Decimal) :
    write layout level (.decimal value) = writeDecimal value := rfl

theorem write_text (value : String) : write layout level (.text value) = quote value := rfl

theorem write_list_nil : write layout level (.list []) = ['[', ']'] := rfl

theorem write_list_cons (item : Json) (items : List Json) :
    write layout level (.list (item :: items)) =
      '[' :: (layout.newLine (level + 1) ++ write layout (level + 1) item ++
        writeItems layout (level + 1) items ++ layout.newLine level ++ [']']) := rfl

theorem write_object_nil : write layout level (.object []) = ['\x7b', '\x7d'] := rfl

theorem write_object_cons (field : String × Json) (fields : List (String × Json)) :
    write layout level (.object (field :: fields)) =
      '\x7b' :: (layout.newLine (level + 1) ++ quote field.1 ++ layout.colon ++
        write layout (level + 1) field.2 ++ writeFields layout (level + 1) fields ++
        layout.newLine level ++ ['\x7d']) := rfl

end

/-- A value over several lines, indented by two blanks for each level. -/
def render (value : Json) : String :=
  String.ofList (write ⟨some 2⟩ 0 value)

/-- A unit of two bytes as an escape. -/
def escapeUnit (unit : Nat) : List Char :=
  ['\\', 'u', hexChar (unit / 0x1000 % 16), hexChar (unit / 0x100 % 16),
    hexChar (unit / 0x10 % 16), hexChar (unit % 16)]

/-- A character as it is when it is ASCII, and else as one or two escapes. -/
def asciiChar (c : Char) : List Char :=
  let code := c.toNat
  if code < 0x80 then [c]
  else if code < 0x10000 then escapeUnit code
  else
    escapeUnit (0xD800 + (code - 0x10000) / 0x400) ++
      escapeUnit (0xDC00 + (code - 0x10000) % 0x400)

/-- A value over several lines in ASCII characters.  Others stand in strings only, where escapes are
as good. -/
def renderAscii (value : Json) : String :=
  String.ofList ((write ⟨some 2⟩ 0 value).flatMap asciiChar)

/-- A value on one line. -/
def compact (value : Json) : String :=
  String.ofList (write ⟨none⟩ 0 value)

end PageBlocks.Json
