import PageBlocks.Calendar.Member
import PageBlocks.Text.Blank
/-!
# Reading a date

The tokens of a written date are read from left to right.  Each gives a clue, together with some of
the tokens after it: a number may be a member of the date or of the time of day, a word may name a
weekday, a month, a half of the day or a time zone.  A token that gives no clue and is not known to
tell nothing makes the text unreadable.

A written date tells at least its year.  What it leaves out is the first month, or the first day of
its month; a weekday without a day is the first such weekday from there on.
-/

namespace PageBlocks.Calendar

open PageBlocks.Text

/-- What is known about a date and its time of day. -/
structure Clues where
  members : Members
  weekday : Option Nat
  hour : Option Nat
  minute : Option Nat
  second : Option Nat
  zone : Option Token
  /-- Seconds from the time zone to the standard one. -/
  offset : Option Int
  /-- Does the next sign mean its opposite? -/
  flipsSign : Bool
deriving DecidableEq, Repr

namespace Clues

/-- Nothing is known. -/
def none : Clues :=
  ⟨.empty, .none, .none, .none, .none, .none, .none, false⟩

/-- How many of the tokens after a token belong to it, and what is known then. -/
abbrev Reading := Except Fault (Nat × Clues)

/-- Adds what becomes of the members. -/
def withMembers (clues : Clues) (taken : Nat) (members : Except Fault Members) : Reading :=
  members.map fun members => (taken, { clues with members })

/-! ## Time of day -/

/-- An hour in a half of the day. -/
def inHalf (hour half : Nat) : Nat :=
  if hour < 12 && half = 1 then hour + 12
  else if hour = 12 && half = 0 then 0
  else hour

/-- Takes an amount for minutes, whose fraction tells the seconds. -/
def withMinutes (clues : Clues) (amount : Amount) : Except Fault Clues :=
  amount.sixtieths?.map fun second => { clues with minute := some amount.whole, second }

/-- Takes a number for the hour, the minute or the second. -/
def withUnit (clues : Clues) (token : Token) (amount : Amount) : (unit : Nat) → Except Fault Clues
  | 0 => amount.sixtieths?.map fun minute =>
      { clues with hour := some amount.whole, minute := minute.or clues.minute }
  | 1 => clues.withMinutes amount
  | 2 => (secondsOf token).map fun second => { clues with second := some second }
  | _ => .ok clues

/-- The unit of a number, from a word after it or before it, and how many of the tokens after it
are used up for that. -/
def unitNear? (before after : List Token) : Option (Nat × Nat) :=
  let next? := after.head?.bind unit?
  let afterBlank? := if after.head? = some [' '] then after[1]?.bind unit? else .none
  let previous? := before.head?.bind unit?
  let beforeBlank? :=
    if after.isEmpty && before.head? = some [' '] then before[1]?.bind unit? else .none
  (next?.map fun unit => (unit, 1)).or <|
    (afterBlank?.map fun unit => (unit, 2)).or <|
      (previous?.or beforeBlank?).map fun unit => (unit + 1, 0)

/-- Hours and minutes that stand together, as in `2359`. -/
def withClock (clues : Clues) (token : Token) : Except Fault Clues := do
  let hour ← wholeNumber (token.take 2)
  if token.length = 4 then
    let minute ← wholeNumber (token.drop 2)
    .ok { clues with hour := some hour, minute := some minute }
  else .ok { clues with hour := some hour }

/-- Hours, minutes and seconds that stand together. -/
def withFullClock (clues : Clues) (token : Token) : Except Fault Clues := do
  let hour ← wholeNumber (token.take 2)
  let minute ← wholeNumber ((token.drop 2).take 2)
  let second ← secondsOf (token.drop 4)
  .ok { clues with hour := some hour, minute := some minute, second := some second }

/-- Hours with minutes after a colon, and perhaps seconds after another one. -/
def withColons (clues : Clues) (amount : Amount) (minutes : Token) (after : List Token) :
    Reading := do
  let clues := { clues with hour := some amount.whole }
  match Amount.ofToken? minutes with
  | .none => .error .unreadable
  | some amount =>
    let clues ← clues.withMinutes amount
    match after with
    | [':'] :: seconds :: _ =>
      let second ← secondsOf seconds
      .ok (4, { clues with second := some second })
    | _ => .ok (2, clues)

/-! ## Members of the date -/

/-- Six digits without anything between them. -/
def shortDate (members : Members) (token : Token) : Except Fault Members := do
  let members ← members.addText (token.take 2) .none
  let members ← members.addText ((token.drop 2).take 2) .none
  members.addText (token.drop 4) .none

/-- A year with its century, a month and a day, and perhaps a time of day, without anything between
them. -/
def longDate (clues : Clues) (token : Token) : Except Fault Clues := do
  let members ← clues.members.addText (token.take 4) (some .year)
  let members ← members.addText ((token.drop 4).take 2) .none
  let members ← members.addText ((token.drop 6).take 2) .none
  let clues := { clues with members }
  if token.length = 8 then .ok clues
  else
    let hour ← wholeNumber ((token.drop 8).take 2)
    let minute ← wholeNumber ((token.drop 10).take 2)
    let clues := { clues with hour := some hour, minute := some minute }
    if token.length = 12 then .ok clues
    else
      let second ← wholeNumber (token.drop 12)
      .ok { clues with second := some second }

/-- Adds a member that is a number or the name of a month. -/
def addNamed (members : Members) (token : Token) : Except Fault Members :=
  match month? token with
  | some month => members.add month (some .month)
  | .none => members.addText token .none

/-- Adds the second member, which is a number, or else the name of a month. -/
def addSecond (members : Members) (token : Token) : Except Fault Members :=
  if token.all isDigit then members.addText token .none
  else match month? token with
    | some month => members.add month (some .month)
    | .none => .error .unreadable

/-- The members that a mark stands between.  `after` begins behind the first mark. -/
def withMarked (clues : Clues) (token mark : Token) (after : List Token) : Reading := do
  let members ← clues.members.addText token .none
  match after with
  | [] => .ok (1, { clues with members })
  | second :: rest =>
    if isFiller second then .ok (1, { clues with members })
    else
      let members ← addSecond members second
      match rest with
      | next :: rest =>
        if next = mark then
          match rest with
          | third :: _ => clues.withMembers 4 (addNamed members third)
          | [] => .error .unreadable
        else .ok (2, { clues with members })
      | [] => .ok (2, { clues with members })

/-- A number that stands alone, or with the half of the day that it is an hour of. -/
def withSingle (clues : Clues) (amount : Amount) (after : List Token) : Reading :=
  match after[1]?.bind half? with
  | some half => .ok (2, { clues with hour := some (inHalf amount.whole half) })
  | .none => clues.withMembers 1 (clues.members.addAmount amount)

/-- What a number with none of the marks around it tells, going by the token after it. -/
def readPlain (after : List Token) (amount : Amount) (clues : Clues) : Reading :=
  if after.head?.all isFiller then clues.withSingle amount after
  else match after.head?.bind half? with
    | some half =>
      if amount.whole < 24 then .ok (1, { clues with hour := some (inHalf amount.whole half) })
      else if clues.members.mayBeDay amount then clues.withMembers 0 (clues.members.addAmount amount)
      else .error .unreadable
    | .none =>
      if clues.members.mayBeDay amount then clues.withMembers 0 (clues.members.addAmount amount)
      else .error .unreadable

/-- Marks between the members of a date. -/
def isDateMark (token : Token) : Bool :=
  token = ['-'] || token = ['/'] || token = ['.']

/-- Could a number after the date be a time of day, going by the token after it? -/
def endsClock (after : List Token) : Bool :=
  match after.head? with
  | .none => true
  | some next => next ≠ [':'] && (unit? next).isNone

/-- What a number tells. -/
def readNumber (before after : List Token) (token : Token) (amount : Amount) (clues : Clues) :
    Reading :=
  let length := token.length
  let isClock := clues.members.values.length = 3 && (length = 2 || length = 4) &&
    clues.hour.isNone && endsClock after
  if isClock then (clues.withClock token).map fun clues => (0, clues)
  else if length = 6 || (6 < length && (token.take 7).findIdx? (· = '.') = some 6) then
    if clues.members.values.isEmpty && !token.contains '.' then
      clues.withMembers 0 (shortDate clues.members token)
    else (clues.withFullClock token).map fun clues => (0, clues)
  else if length = 8 || length = 12 || length = 14 then
    (clues.longDate token).map fun clues => (0, clues)
  else match unitNear? before after with
    | some (unit, taken) => (clues.withUnit token amount unit).map fun clues => (taken, clues)
    | .none =>
      match after with
      | mark :: minutes :: rest =>
        if mark = [':'] then clues.withColons amount minutes rest
        else if isDateMark mark then clues.withMarked token mark (minutes :: rest)
        else readPlain after amount clues
      | [mark] =>
        if isDateMark mark then clues.withMarked token mark []
        else readPlain after amount clues
      | [] => readPlain after amount clues

/-! ## Words -/

/-- The name of a month, and the members that marks tie to it. -/
def readMonth (after : List Token) (month : Nat) (clues : Clues) : Reading := do
  let members ← clues.members.add month (some .month)
  match after with
  | mark :: rest =>
    if mark = ['-'] || mark = ['/'] then
      match rest with
      | [] => .error .unreadable
      | second :: rest =>
        let members ← members.addText second .none
        if rest.head? = some mark then
          match rest[1]? with
          | some third => clues.withMembers 4 (members.addText third .none)
          | .none => .error .unreadable
        else .ok (2, { clues with members })
    else
      match mark, rest with
      | [' '], word :: [' '] :: year :: _ =>
        if announcesYear word then
          if year.all isDigit then
            let value ← wholeNumber year
            clues.withMembers 4 (members.addFullYear (fullYear value false))
          else .ok (4, { clues with members })
        else .ok (0, { clues with members })
      | _, _ => .ok (0, { clues with members })
  | [] => .ok (0, { clues with members })

/-- A half of the day, which needs an hour. -/
def readHalf (half : Nat) (clues : Clues) : Reading :=
  match clues.hour with
  | some hour =>
    if hour ≤ 12 then .ok (0, { clues with hour := some (inHalf hour half) })
    else .error .unreadable
  | .none => .error .unreadable

/-! ## Time zones -/

/-- Could a token name a time zone, given that there is a time of day and no zone so far? -/
def mayBeZone (clues : Clues) (token : Token) : Bool :=
  clues.hour.isSome && clues.zone.isNone && token.length ≤ 5 &&
    (token.all (fun c => 'A' ≤ c && c ≤ 'Z') || standardZones.contains token)

/-- Is a token a sign? -/
def isSign (token : Token) : Bool :=
  token = ['+'] || token = ['-']

/-- The name of a time zone.  A sign after it tells how far the standard zone is from it, and not
how far it is from the standard zone. -/
def readZone (after : List Token) (token : Token) (clues : Clues) : Clues :=
  if after.head?.any isSign then
    { clues with zone := if namesStandardZone token then .none else some token, offset := .none,
                 flipsSign := true }
  else
    { clues with zone := some token,
                 offset := if standardZones.contains token then some 0 else .none }

/-- The name of a time zone in parentheses, and how many tokens it takes. -/
def zoneInParentheses? (after : List Token) (clues : Clues) : Option (Token × Nat) :=
  match after with
  | blank :: ['('] :: zone :: [')'] :: _ =>
    if isFiller blank && 3 ≤ zone.length && clues.mayBeZone zone then some (zone, 4) else .none
  | _ => .none

/-- The hours and minutes after a sign, and how many tokens they take. -/
def readOffset : List Token → Except Fault (Nat × Nat × Nat)
  | [] => .error .unreadable
  | token :: rest =>
    if token.length = 4 then do
      let hours ← wholeNumber (token.take 2)
      let minutes ← wholeNumber (token.drop 2)
      .ok (hours, minutes, 1)
    else if rest.head? = some [':'] then do
      let hours ← wholeNumber token
      match rest[1]? with
      | some minutes => .ok (hours, ← wholeNumber minutes, 3)
      | .none => .error .unreadable
    else if token.length ≤ 2 then do
      .ok (← wholeNumber token, 0, 1)
    else .error .unreadable

/-- A time zone told by a sign and hours. -/
def readSign (after : List Token) (sign : Token) (clues : Clues) : Reading := do
  let (hours, minutes, taken) ← readOffset after
  let seconds : Int := hours * 3600 + minutes * 60
  let isPlus := (sign = ['+']) != clues.flipsSign
  let clues := { clues with offset := some (if isPlus then seconds else -seconds), flipsSign := false }
  match zoneInParentheses? (after.drop taken) clues with
  | some (zone, more) => .ok (taken + more, { clues with zone := some zone })
  | .none => .ok (taken, clues)

/-! ## Tokens -/

/-- Words that name no amount although numbers are written with them elsewhere. -/
def isNoAmount (token : Token) : Bool :=
  (rowOf? [["nan", "inf", "infinity"]] token).isSome && token.all isAscii

/-- What a token that is no number tells. -/
def readWord (after : List Token) (token : Token) (clues : Clues) : Reading :=
  if isNoAmount token then .error .unreadable
  else match weekday? token, month? token, half? token with
    | some weekday, _, _ => .ok (0, { clues with weekday := some weekday })
    | _, some month, _ => clues.readMonth after month
    | _, _, some half => clues.readHalf half
    | .none, .none, .none =>
      if clues.mayBeZone token && clues.offset.isNone then .ok (0, clues.readZone after token)
      else if clues.hour.isSome && isSign token then clues.readSign after token
      else if isFiller token then .ok (0, clues)
      else .error .unreadable

/-- What a token tells. -/
def readToken (before after : List Token) (token : Token) (clues : Clues) : Reading :=
  match Amount.ofToken? token with
  | some amount => clues.readNumber before after token amount
  | .none => clues.readWord after token

/-- What tokens tell, where `before` holds the earlier ones, the latest first. -/
def readTokens (before : List Token) : List Token → Clues → Except Fault Clues
  | [], clues => .ok clues
  | token :: after, clues =>
    match clues.readToken before after token with
    | .error fault => .error fault
    | .ok (taken, clues) =>
      readTokens ((token :: after.take taken).reverse ++ before) (after.drop taken) clues
termination_by tokens => tokens.length
decreasing_by simp only [List.length_drop, List.length_cons]; omega

/-! ## The date -/

/-- Is the time of day one that there is? -/
def hasPossibleTime (clues : Clues) : Bool :=
  clues.hour.all (· < 24) && clues.minute.all (· < 60) && clues.second.all (· < 60)

/-- Is the time zone within the range of time spans, or one whose distance does not count? -/
def hasPossibleZone (clues : Clues) : Bool :=
  clues.zone.any namesStandardZone ||
    clues.offset.all fun offset => -(86400 * 999999999) ≤ offset && offset < 86400 * 1000000000

/-- The day that is meant, where `base` gives what is not told. -/
def date? (clues : Clues) (parts : Members.Parts) (base : Date) : Option Date :=
  let year := (parts.year.map fun year => fullYear year clues.members.hasCentury).getD base.year
  let month := parts.month.getD base.month
  let day := parts.day.getD (min base.day (daysOfMonth year month))
  let date : Date := ⟨year, month, day⟩
  if date.isValid && clues.hasPossibleTime then
    match clues.weekday, parts.day with
    | some weekday, .none => date.onWeekday? weekday
    | _, _ => some date
  else .none

end Clues

/-- Does a text hold digits besides other characters? -/
def mayBeDate (text : List Char) : Bool :=
  text.any isDecimal && !text.all isDigit

/-- What is not told, taken twice in different ways. -/
def bases : Date × Date := (⟨2001, 1, 1⟩, ⟨2002, 2, 2⟩)

/-- The day that a text tells.  The year is told by the text when it does not hang on what is left
out. -/
def readDate (text : List Char) : Except Fault Date := do
  let text := trim text
  if mayBeDate text then
    let clues ← Clues.none.readTokens [] (tokens text)
    let parts ← clues.members.resolve
    match clues.date? parts bases.1, clues.date? parts bases.2 with
    | some date, some other =>
      if date.year = other.year && clues.hasPossibleZone then .ok date else .error .unreadable
    | _, _ => .error .unreadable
  else .error .unreadable

end PageBlocks.Calendar
