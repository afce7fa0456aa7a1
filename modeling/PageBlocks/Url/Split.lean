import PageBlocks.Text.Case
import PageBlocks.Text.Letter
import PageBlocks.Text.Quoted
import PageBlocks.Text.Search
/-!
# Addresses of pages

An address is cut into its scheme, the place that it names, its path, a query and a fragment.  The
schemes of the web have parameters after the last segment of a path, which are no part of it.

A host between brackets is an address of eight groups of hexadecimal digits, or one of a later
version that begins with a letter.  A run of groups of zeros may be left out, and the last two
groups may be written as four decimal numbers.
-/

namespace PageBlocks.Url

open PageBlocks.Text

/-! ## Numeric hosts -/

/-- ASCII hexadecimal digits. -/
def isHexDigit (c : Char) : Bool :=
  isAsciiDigit c || ('a' ≤ c && c ≤ 'f') || ('A' ≤ c && c ≤ 'F')

/-- One of four decimal numbers, without leading zeros. -/
def isOctet (text : List Char) : Bool :=
  !text.isEmpty && text.all isAsciiDigit && text.length ≤ 3 &&
    (text = ['0'] || text.head? ≠ some '0') &&
    text.foldl (fun value c => value * 10 + (c.toNat - 0x30)) 0 ≤ 255

/-- Four decimal numbers. -/
def isDottedAddress (text : List Char) : Bool :=
  let octets := splitOn ['.'] text
  octets.length = 4 && octets.all isOctet

/-- A group of hexadecimal digits. -/
def isGroup (text : List Char) : Bool :=
  !text.isEmpty && text.length ≤ 4 && text.all isHexDigit

/-- The groups of an address; the last two may be written as four decimal numbers. -/
def groups? (text : List Char) : Option (List (List Char)) :=
  let parts := splitOn [':'] text
  if parts.length < 3 then none
  else match parts.getLast? with
    | some last =>
      if last.contains '.' then
        if isDottedAddress last then some (parts.dropLast ++ [['0'], ['0']]) else none
      else some parts
    | none => none

/-- The places of empty groups between the first and the last one. -/
def innerGaps (parts : List (List Char)) : List Nat :=
  (List.range parts.length).filter fun place =>
    0 < place && place + 1 < parts.length && (parts[place]?.getD ['0']).isEmpty

/-- Do these groups, some of which may be left out, make an address? -/
def areGroups (parts : List (List Char)) : Bool :=
  if 9 < parts.length then false
  else match innerGaps parts with
    | [] => parts.length = 8 && parts.all isGroup
    | [gap] =>
      let before := parts.take gap
      let after := parts.drop (gap + 1)
      let before := if before.head? = some [] then before.drop 1 else before
      let closesBefore := parts.head? ≠ some [] || before.isEmpty
      let endsEmpty := after.getLast? = some []
      let after := if endsEmpty then after.dropLast else after
      let closesAfter := !endsEmpty || after.isEmpty
      closesBefore && closesAfter && before.length + after.length < 8 && before.all isGroup &&
        after.all isGroup
    | _ => false

/-- An address of eight groups, which a zone may follow. -/
def isGroupedAddress (text : List Char) : Bool :=
  match cut? ['%'] text with
  | none => (groups? text).any areGroups
  | some (address, zone) =>
    !zone.isEmpty && !zone.contains '%' && (groups? address).any areGroups

/-- An address of a later version: its number, a point and anything on one line. -/
def isLaterAddress (text : List Char) : Bool :=
  match text with
  | 'v' :: rest =>
    match cut? ['.'] rest with
    | some (version, address) =>
      !version.isEmpty && version.all isHexDigit && !address.isEmpty && !address.contains '\n'
    | none => false
  | _ => false

/-! ## Parts -/

/-- The parts of an address that matter for where a page goes. -/
structure Parts where
  scheme : List Char
  place : List Char
  path : List Char
deriving DecidableEq, Repr

/-- Why an address cannot be cut. -/
inductive Fault where
  /-- One bracket lacks its counterpart. -/
  | unpairedBracket
  /-- An address of a later version that is not well-formed. -/
  | laterAddress
  /-- Between brackets stands nothing that is an address. -/
  | noAddress (host : List Char)
  /-- Between brackets stand four decimal numbers. -/
  | dottedAddress
  /-- The name of the place holds characters that stand for marks of an address. -/
  | disguisedMark (place : List Char)
deriving DecidableEq, Repr

/-- The wording of a fault. -/
def Fault.message : Fault → String
  | .unpairedBracket => "Invalid IPv6 URL"
  | .laterAddress => "IPvFuture address is invalid"
  | .noAddress host =>
    String.ofList (quoted host) ++ " does not appear to be an IPv4 or IPv6 address"
  | .dottedAddress => "An IPv4 address cannot be in brackets"
  | .disguisedMark place =>
    "netloc '" ++ String.ofList place ++
      "' contains invalid characters under NFKC normalization"

/-- Characters of a scheme after its first letter. -/
def isSchemeChar (c : Char) : Bool :=
  isAsciiLetter c || isAsciiDigit c || ['+', '-', '.'].contains c

/-- The scheme of an address, in lower case, and what is after it. -/
def cutScheme (text : List Char) : List Char × List Char :=
  match cut? [':'] text with
  | some (scheme, rest) =>
    if scheme.head?.any isAsciiLetter && scheme.all isSchemeChar then (asciiLower scheme, rest)
    else ([], text)
  | none => ([], text)

/-- Marks that end the name of a place. -/
def endsPlace (c : Char) : Bool :=
  c = '/' || c = '?' || c = '#'

/-- The name of the place, which follows two slashes, and what is after it. -/
def cutPlace (text : List Char) : List Char × List Char :=
  match text with
  | '/' :: '/' :: rest => (rest.takeWhile (!endsPlace ·), rest.dropWhile (!endsPlace ·))
  | _ => ([], text)

/-- Checks what stands between brackets. -/
def checkHost (host : List Char) : Except Fault Unit :=
  if host.head? = some 'v' then
    if isLaterAddress host then .ok () else .error .laterAddress
  else if isDottedAddress host then .error .dottedAddress
  else if isGroupedAddress host then .ok ()
  else .error (.noAddress host)

/-- Checks the brackets in the name of a place. -/
def checkBrackets (place : List Char) : Except Fault Unit :=
  if place.contains '[' != place.contains ']' then .error .unpairedBracket
  else match cut? ['['] place with
    | some (_, rest) => checkHost (rest.takeWhile (· ≠ ']'))
    | none => .ok ()

/-- Characters that stand for marks of an address when compatible characters are told as one. -/
def disguisedMarks : List Nat :=
  [0x2047, 0x2048, 0x2049, 0x2100, 0x2101, 0x2105, 0x2106, 0x2A74, 0xFE13, 0xFE16, 0xFE55, 0xFE56,
    0xFE5F, 0xFE6B, 0xFF03, 0xFF0F, 0xFF1A, 0xFF1F, 0xFF20]

/-- Checks the name of a place for marks in disguise. -/
def checkMarks (place : List Char) : Except Fault Unit :=
  if place.any fun c => disguisedMarks.contains c.toNat then .error (.disguisedMark place)
  else .ok ()

/-- Schemes whose paths have parameters. -/
def schemesWithParameters : List String :=
  ["", "ftp", "hdl", "prospero", "http", "https", "shttp", "rtsp", "rtsps", "sip", "sips", "mms",
    "sftp", "tel"]

/-- A path without the parameters of its last segment. -/
def dropParameters (path : List Char) : List Char :=
  match cutLast? ['/'] path with
  | some (before, last) => before ++ '/' :: last.takeWhile (· ≠ ';')
  | none => path.takeWhile (· ≠ ';')

/-- Cuts an address.  Blanks and control characters in front are dropped, and line breaks and tabs
everywhere. -/
def split (address : List Char) : Except Fault Parts := do
  let text := (address.dropWhile (·.toNat ≤ 0x20)).filter fun c =>
    !(['\t', '\n', '\r'].contains c)
  let (scheme, rest) := cutScheme text
  let (place, rest) := cutPlace rest
  checkBrackets place
  checkMarks place
  let path := (rest.takeWhile (· ≠ '#')).takeWhile (· ≠ '?')
  .ok ⟨scheme, place, path⟩

/-- The path of an address, without parameters. -/
def pathOf (address : List Char) : Except Fault (List Char) :=
  (split address).map fun parts =>
    if schemesWithParameters.contains (String.ofList parts.scheme) then dropParameters parts.path
    else parts.path

end PageBlocks.Url
