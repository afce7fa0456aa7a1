import PageBlocks.Charset.Declared
import PageBlocks.Charset.EastAsian
import PageBlocks.Charset.Escape
import PageBlocks.Charset.Label
import PageBlocks.Charset.Planes
import PageBlocks.Charset.Shifted
import PageBlocks.Charset.SingleByte
import PageBlocks.Charset.Wide
import PageBlocks.Text.Quoted
/-!
# Reading bytes as text

A character set is a way to read bytes.  Bytes that cannot be read give way to a replacement
character, so that reading hardly ever fails; but names of sets may be unknown, and a few sets have no
way to replace.
-/

namespace PageBlocks

open PageBlocks.Text

/-- A way to read bytes as text. -/
inductive CharacterSet where
  | utf8
  /-- A mark at the start is dropped. -/
  | markedUtf8
  | pairs (order : Option Charset.Wide.ByteOrder)
  | fours (order : Option Charset.Wide.ByteOrder)
  /-- Each byte is a character or nothing. -/
  | singleByte (characters : List (Option Char))
  /-- Characters take groups of bytes. -/
  | eastAsian (set : Charset.EastAsian)
  /-- Groups of bytes stand for one character or two. -/
  | planes (set : Charset.Planes)
  /-- Sequences of bytes tell how others are read. -/
  | escaped (set : Charset.Escaped)
  | tilde
  | base64
  | backslash (onlyCodes : Bool)
  | punycode
  /-- Names of machines, which cannot be read with replacements. -/
  | machineNames
  /-- A set that is there to fail. -/
  | undefined
deriving DecidableEq, Repr

namespace CharacterSet

/-- The sets that are not tables of single bytes. -/
def computed : List (String × CharacterSet) :=
  [("utf_8", utf8), ("utf_8_sig", markedUtf8), ("utf_16", pairs none),
    ("utf_16_be", pairs (some .greatestFirst)), ("utf_16_le", pairs (some .leastFirst)),
    ("utf_32", fours none), ("utf_32_be", fours (some .greatestFirst)),
    ("utf_32_le", fours (some .leastFirst)), ("shift_jis", eastAsian .shiftJis),
    ("cp932", eastAsian .windows932), ("euc_jp", eastAsian .eucJp),
    ("gb2312", eastAsian .gb2312), ("gbk", eastAsian .gbk), ("gb18030", eastAsian .gb18030),
    ("big5", eastAsian .big5), ("cp950", eastAsian .windows950), ("euc_kr", eastAsian .eucKr),
    ("cp949", eastAsian .windows949), ("johab", eastAsian .johab),
    ("euc_jis_2004", planes (.unshifted .revised)), ("euc_jisx0213", planes (.unshifted .first)),
    ("shift_jis_2004", planes (.shifted .revised)), ("shift_jisx0213", planes (.shifted .first)),
    ("big5hkscs", planes .hongKong), ("iso2022_jp", escaped .japanese),
    ("iso2022_jp_1", escaped .japanese1), ("iso2022_jp_2", escaped .japanese2),
    ("iso2022_jp_3", escaped .japanese3), ("iso2022_jp_2004", escaped .japanese2004),
    ("iso2022_jp_ext", escaped .japaneseExt), ("iso2022_kr", escaped .korean), ("hz", tilde),
    ("utf_7", base64), ("unicode_escape", backslash false), ("raw_unicode_escape", backslash true),
    ("punycode", punycode), ("idna", machineNames), ("undefined", undefined)]

/-- Why bytes cannot be read in a set although others can be replaced. -/
inductive Failure where
  /-- The set is there to fail. -/
  | undefined
  /-- The set has no replacements. -/
  | noReplacement
  /-- A byte at a place among numbers is none of the basic characters. -/
  | notBasic (byte : UInt8) (place : Nat)
  /-- The reader has lost its state. -/
  | lostState
deriving DecidableEq, Repr

/-- The text that bytes write. -/
def decode (set : CharacterSet) (bytes : List UInt8) : Except Failure (List Char) :=
  match set with
  | utf8 => .ok (Utf8.decode bytes)
  | markedUtf8 =>
    match bytes with
    | 0xEF :: 0xBB :: 0xBF :: rest => .ok (Utf8.decode rest)
    | bytes => .ok (Utf8.decode bytes)
  | pairs none => .ok (Charset.Wide.decodeMarkedPairs bytes)
  | pairs (some order) => .ok (Charset.Wide.decodePairs order bytes)
  | fours none => .ok (Charset.Wide.decodeMarkedFours bytes)
  | fours (some order) => .ok (Charset.Wide.decodeFours order bytes)
  | singleByte characters =>
    let table := characters.toArray
    .ok (bytes.map fun byte => (table[byte.toNat]?.join).getD Utf8.replacementCharacter)
  | eastAsian set => .ok (set.decode bytes)
  | planes set => ofReader (set.reader.decode bytes)
  | escaped set => ofReader (set.reader.decode bytes)
  | tilde => ofReader (Charset.Tilde.reader.decode bytes)
  | base64 => ofReader (Charset.Base64.reader.decode bytes)
  | backslash onlyCodes => ofReader ((Charset.Backslash.reader onlyCodes).decode bytes)
  | punycode =>
    match Charset.Punycode.decode bytes with
    | .ok text => .ok text
    | .error (byte, place) => .error (.notBasic byte place)
  | machineNames => .error .noReplacement
  | undefined => .error .undefined
where
  /-- The text that a reader has found. -/
  ofReader : Option (List Char) → Except Failure (List Char)
    | some text => .ok text
    | none => .error .lostState

/-- The wording of a failure. -/
def Failure.message (name : String) : Failure → String
  | undefined => wrapped "UnicodeError" "undefined encoding"
  | noReplacement => wrapped "UnicodeError" "Unsupported error handling replace"
  | notBasic byte place =>
    "'ascii' codec can't decode byte 0x" ++ String.ofList (hexDigits 2 byte.toNat) ++
      " in position " ++ toString place ++ ": ordinal not in range(128)"
  | lostState => wrapped "RuntimeError" "internal codec error"
where
  /-- The wording of a failure with the name of the set. -/
  wrapped (kind text : String) : String :=
    "decoding with '" ++ name ++ "' codec failed (" ++ kind ++ ": " ++ text ++ ")"

end CharacterSet

namespace Charset

/-- Why bytes cannot be read in the character set with a name. -/
inductive Fault where
  | unknown (name : String)
  /-- The name is that of a way to encode that has nothing to do with characters. -/
  | notText (name : String)
  /-- A character of the name has the code zero. -/
  | nullInName
  | unreadable (name : String) (failure : CharacterSet.Failure)
deriving DecidableEq, Repr

/-- The kind of a fault. -/
def Fault.kind : Fault → String
  | unknown _ | notText _ => "LookupError"
  | nullInName => "ValueError"
  | unreadable _ (.notBasic _ _) => "UnicodeDecodeError"
  | unreadable _ .lostState => "RuntimeError"
  | unreadable _ _ => "UnicodeError"

/-- The wording of a fault. -/
def Fault.message : Fault → String
  | unknown name => "unknown encoding: " ++ name
  | notText name =>
    "'" ++ name ++ "' is not a text encoding; use codecs.decode() to handle arbitrary codecs"
  | nullInName => "embedded null character"
  | unreadable name failure => failure.message name

/-- The character set with a name. -/
def ofName (name : String) : Except Fault CharacterSet :=
  let usual := usualName name
  if name.toList.contains (Char.ofNat 0) then .error .nullInName
  else match (CharacterSet.computed.lookup usual).or
      ((SingleByte.characters? usual).map CharacterSet.singleByte) with
    | some set => .ok set
    | none => .error (if otherEncodings.contains usual then .notText name else .unknown name)

/-- The text that bytes write in the character set with a name. -/
def decodeNamed (name : String) (bytes : List UInt8) : Except Fault (List Char) :=
  match ofName name with
  | .error fault => .error fault
  | .ok set =>
    match set.decode bytes with
    | .error failure => .error (.unreadable name failure)
    | .ok text => .ok text

/-- The text of a page, read in the character set that it declares. -/
def decodePage (bytes : List UInt8) : Except Fault (List Char) :=
  decodeNamed (declared bytes) bytes

end Charset

end PageBlocks
