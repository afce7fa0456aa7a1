import PageBlocks.Proofs.Calendar.Clue
import PageBlocks.Strategy.Metadata
/-!
# Only what names a year is a date

What a text tells of a day is read from the text alone, and is then laid over a day that gives all that
is not told: a day of the month that is not told is at most the last one of its month, and the weekday
counts only where no day is told.  Whether the text names a year is not asked directly.  The text is read
twice, with days of two years to lay it over, and it names a year if both readings come to the same one.

That this is so hangs on three facts.  Without a year each reading stays in the year that it was laid
over, as neither of the two days is near the end of a month.  With a year and without a day both readings
succeed or neither does, as both days are in every month.  And with a year and a day there is a month,
so that nothing is left out.

## Main results

* `Calendar.readDate_eq` — a date is read twice.
* `Calendar.Told.year_of_on` — a day early in a month gives its year where none is told.
* `Calendar.readDate_eq_ok_iff` — which texts are dates, and of which day.
* `Strategy.isoDate_eq_some_iff` — which values are dates, and how they are written.
-/

namespace PageBlocks

open PageBlocks.Text

namespace Calendar

/-! ## What a text tells -/

/-- What a text tells of a day. -/
structure Told where
  year : Option Nat
  month : Option Nat
  day : Option Nat
  weekday : Option Nat
deriving DecidableEq, Repr

/-- The weekday that counts, which is the one that is told where no day is told. -/
def Told.weekday? (told : Told) : Option Nat :=
  if told.day.isNone then told.weekday else none

/-- The day that is meant, if there is such a day, where `base` gives what is not told. -/
def Told.on (told : Told) (base : Date) : Option Date :=
  let year := told.year.getD base.year
  let month := told.month.getD base.month
  let date : Date := ⟨year, month, told.day.getD (min base.day (daysOfMonth year month))⟩
  if date.isValid then told.weekday?.elim (some date) date.onWeekday? else none

/-- What a text tells of a day, unless it has words that tell nothing, or tells a time of day or a time
zone that there is not. -/
def readTold (text : List Char) : Except Fault Told := do
  let clues ← Clues.none.readTokens [] (tokens text)
  let parts ← clues.members.resolve
  if clues.hasPossibleTime && clues.hasPossibleZone then
    .ok ⟨parts.year.map fun year => fullYear year clues.members.hasCentury, parts.month, parts.day,
      clues.weekday⟩
  else .error .unreadable

/-- The day that a text tells, where `base` gives what is not told. -/
def parse (base : Date) (text : List Char) : Except Fault Date := do
  let told ← readTold text
  match told.on base with
  | some date => .ok date
  | none => .error .unreadable

theorem parse_eq_ok_iff {base date : Date} {text : List Char} :
    parse base text = .ok date ↔ ∃ told, readTold text = .ok told ∧ told.on base = some date := by
  unfold parse
  cases readTold text with
  | error fault => simp [bind, Except.bind]
  | ok told =>
    simp only [bind, Except.bind, Except.ok.injEq, exists_eq_left']
    cases told.on base <;> simp

/-- What the clues of a text say of a day is what the text tells of it. -/
theorem date?_eq (clues : Clues) (parts : Members.Parts) (base : Date)
    (h : clues.hasPossibleTime = true) :
    clues.date? parts base =
      Told.on ⟨parts.year.map fun year => fullYear year clues.members.hasCentury, parts.month,
        parts.day, clues.weekday⟩ base := by
  simp only [Clues.date?, Told.on, Told.weekday?, h, Bool.and_true]
  cases clues.weekday <;> cases parts.day <;> rfl

/-- A date is read twice, and told if both times it is of the same year. -/
theorem readDate_eq (text : List Char) :
    readDate text =
      if mayBeDate (trim text) then do
        let date ← parse bases.1 (trim text)
        let other ← parse bases.2 (trim text)
        if date.year = other.year then .ok date else .error .unreadable
      else .error .unreadable := by
  rw [readDate]
  split
  · unfold parse readTold
    cases Clues.none.readTokens [] (tokens (trim text)) with
    | error fault => rfl
    | ok clues =>
      simp only [bind, Except.bind]
      cases clues.members.resolve with
      | error fault => rfl
      | ok parts =>
        cases htime : clues.hasPossibleTime with
        | false => simp [Clues.date?, htime]
        | true =>
          dsimp only
          rw [date?_eq clues parts _ htime, date?_eq clues parts _ htime]
          cases clues.hasPossibleZone with
          | false =>
            simp only [Bool.and_false, Bool.false_eq_true, if_false]
            split <;> rfl
          | true =>
            simp only [Bool.and_true, if_true]
            cases Told.on _ bases.1 <;> cases Told.on _ bases.2 <;> simp
  · rfl

/-! ## Days early in a month -/

theorem le_daysOfMonth (year month : Nat) : 28 ≤ daysOfMonth year month := by
  unfold daysOfMonth
  repeat' split
  all_goals omega

theorem isValid_iff {date : Date} : date.isValid = true ↔
    (1 ≤ date.year ∧ date.year ≤ maxYear) ∧ (1 ≤ date.month ∧ date.month ≤ 12) ∧
      1 ≤ date.day ∧ date.day ≤ daysOfMonth date.year date.month := by
  simp [Date.isValid, and_assoc]

/-- The first such weekday from a day early in a month is in this month. -/
theorem onWeekday?_early (date : Date) (h : date.day ≤ 22) (weekday : Nat) :
    ∃ day, date.onWeekday? weekday = some { date with day } := by
  have hmod : (weekday + 7 - date.weekday) % 7 < 7 := Nat.mod_lt _ (by decide)
  have hlength := le_daysOfMonth date.year date.month
  refine ⟨date.day + (weekday + 7 - date.weekday) % 7, ?_⟩
  rw [Date.onWeekday?, Date.addDays?, if_pos (by omega)]

namespace Told

variable {told : Told} {base date : Date}

/-- Days of years that a text does not ask for lead to the same day. -/
theorem on_of_year {year : Nat} (h : told.year = some year) (other month day : Nat) :
    told.on ⟨other, month, day⟩ = told.on ⟨year, month, day⟩ := by
  simp only [on, h, Option.getD_some]

/-- Laid over a day early in its month, what is told stays in the year of that day where it names
none. -/
theorem year_of_on (hbase : base.day ≤ 22) (h : told.on base = some date) :
    date.year = told.year.getD base.year := by
  rw [on] at h
  split at h
  · cases hweekday : told.weekday? with
    | none =>
      rw [hweekday] at h
      cases h
      rfl
    | some weekday =>
      have hday : told.day = none := by
        cases hday : told.day with
        | none => rfl
        | some day => simp [weekday?, hday] at hweekday
      obtain ⟨day, hmoved⟩ := onWeekday?_early
        ⟨told.year.getD base.year, told.month.getD base.month, min base.day _⟩
        (Nat.le_trans (Nat.min_le_left _ _) hbase) weekday
      rw [hweekday, hday, Option.getD_none, Option.elim_some, hmoved] at h
      cases h
      rfl
  · cases h

/-- Without a day, what is told can be laid over a day early in a month just when its year and its month
are such that there are. -/
theorem isSome_on_iff (hday : told.day = none) (hpos : 1 ≤ base.day) (hbase : base.day ≤ 22) :
    (told.on base).isSome ↔
      (1 ≤ told.year.getD base.year ∧ told.year.getD base.year ≤ maxYear) ∧
        1 ≤ told.month.getD base.month ∧ told.month.getD base.month ≤ 12 := by
  have hlength := le_daysOfMonth (told.year.getD base.year) (told.month.getD base.month)
  have hmin : min base.day (daysOfMonth (told.year.getD base.year) (told.month.getD base.month)) =
      base.day := Nat.min_eq_left (by omega)
  rw [on, hday, Option.getD_none, hmin]
  split
  · next hvalid =>
    obtain ⟨hyear, hmonth, -⟩ := isValid_iff.1 hvalid
    refine iff_of_true ?_ ⟨hyear, hmonth⟩
    cases told.weekday? with
    | none => rfl
    | some weekday =>
      obtain ⟨day, hmoved⟩ := onWeekday?_early
        ⟨told.year.getD base.year, told.month.getD base.month, base.day⟩ hbase weekday
      rw [Option.elim_some, hmoved]
      rfl
  · next hvalid =>
    refine iff_of_false (by simp) fun ⟨hyear, hmonth⟩ => ?_
    exact hvalid (isValid_iff.2 ⟨hyear, hmonth, hpos, by dsimp only; omega⟩)

/-- Where a year and a day are told, a month is told. -/
def HasMonth (told : Told) : Prop :=
  told.year.isSome → told.day.isSome → told.month.isSome

/-- Where a year is told, it does not matter which of two days early in the months of a year gives what
is left. -/
theorem isSome_on_bases (hmonth : told.HasMonth) {year : Nat} (hyear : told.year = some year)
    (h : told.on bases.1 = some date) : ∃ other, told.on bases.2 = some other := by
  cases hday : told.day with
  | some day =>
    -- Nothing is left for the two days to give.
    obtain ⟨month, htold⟩ := Option.isSome_iff_exists.1 (hmonth (by simp [hyear]) (by simp [hday]))
    refine ⟨date, ?_⟩
    rw [← h]
    simp only [on, hyear, htold, hday, Option.getD_some]
  | none =>
    have hlaid : (told.on bases.1).isSome := by rw [h]; rfl
    have hfirst := (isSome_on_iff hday (by decide) (by decide)).1 hlaid
    have hsecond : (told.on bases.2).isSome := by
      rw [isSome_on_iff hday (by decide) (by decide)]
      cases hmonth : told.month with
      | none => simpa [hyear, hmonth, bases] using hfirst
      | some month => simpa [hyear, hmonth, bases] using hfirst
    exact Option.isSome_iff_exists.1 hsecond

end Told

theorem hasMonth_readTold (text : List Char) : Yields Told.HasMonth (readTold text) := by
  refine .bind (Clues.placed_readTokens Members.placed_empty [] _) fun clues hclues => ?_
  refine .bind hclues.hasMonth_resolve fun parts hparts => ?_
  split
  · refine .ok fun hyear hday => ?_
    rw [Option.isSome_map] at hyear
    exact hparts hyear hday
  · exact .error

/-! ## Dates -/

theorem readDate_eq_ok_iff_parses {text : List Char} {date : Date} :
    readDate text = .ok date ↔ mayBeDate (trim text) = true ∧
      parse bases.1 (trim text) = .ok date ∧
        ∃ other, parse bases.2 (trim text) = .ok other ∧ date.year = other.year := by
  rw [readDate_eq]
  split
  · next hmay =>
    rw [hmay]
    cases parse bases.1 (trim text) with
    | error fault => simp [bind, Except.bind]
    | ok first =>
      cases parse bases.2 (trim text) with
      | error fault => simp [bind, Except.bind]
      | ok second =>
        simp only [bind, Except.bind, true_and, Except.ok.injEq, exists_eq_left']
        split
        · next hyear => simpa using fun heq => heq ▸ hyear
        · next hyear => simpa using fun heq => heq ▸ hyear
  · next hmay => simp [hmay]

/-- A text is a date just when it has a digit and is not made of digits only, can be read, and names a
year; the day is then the one that it tells with the first day of its year for what it does not tell. -/
theorem readDate_eq_ok_iff {text : List Char} {date : Date} :
    readDate text = .ok date ↔ mayBeDate (trim text) = true ∧
      ∃ told year, readTold (trim text) = .ok told ∧ told.year = some year ∧
        told.on ⟨year, 1, 1⟩ = some date := by
  rw [readDate_eq_ok_iff_parses]
  refine and_congr_right fun hmay => ⟨?_, ?_⟩
  · rintro ⟨hfirst, other, hsecond, hsame⟩
    obtain ⟨told, htold, hdate⟩ := parse_eq_ok_iff.1 hfirst
    obtain ⟨_, htold', hother⟩ := parse_eq_ok_iff.1 hsecond
    cases htold.symm.trans htold'
    have hyears : told.year.getD bases.1.year = told.year.getD bases.2.year := by
      rw [← Told.year_of_on (by decide) hdate, ← Told.year_of_on (by decide) hother, hsame]
    cases hyear : told.year with
    | none =>
      rw [hyear] at hyears
      exact absurd hyears (by decide)
    | some year => exact ⟨told, year, htold, hyear, (Told.on_of_year hyear _ 1 1).symm.trans hdate⟩
  · rintro ⟨told, year, htold, hyear, hdate⟩
    have hfirst : told.on bases.1 = some date := (Told.on_of_year hyear _ 1 1).trans hdate
    obtain ⟨other, hother⟩ := Told.isSome_on_bases (hasMonth_readTold _ told htold) hyear hfirst
    have hsame : date.year = other.year := by
      rw [Told.year_of_on (by decide) hfirst, Told.year_of_on (by decide) hother, hyear]
      rfl
    exact ⟨parse_eq_ok_iff.2 ⟨told, htold, hfirst⟩, other, parse_eq_ok_iff.2 ⟨told, htold, hother⟩,
      hsame⟩

theorem mayBeDate_iff {text : List Char} :
    mayBeDate text = true ↔
      (∃ c ∈ text, isDecimal c = true) ∧ ∃ c ∈ text, isDigit c = false := by
  simp [mayBeDate]

end Calendar

namespace Strategy

open Calendar

/-- A value is a date just when it is a text, or an element without other elements in it, whose text
without the blanks around it has a digit and is not made of digits only, can be read, and names a year.
The day is the one that the text tells with the first day of its year for what it does not tell, and it
is the same with the first day of any other year. -/
theorem isoDate_eq_some_iff (dom : Dom) (value : Value) (iso : String) :
    isoDate dom value = .ok (some iso) ↔
      ∃ text, dateText? dom value = some text ∧
        (∃ c ∈ trim text.toList, isDecimal c = true) ∧
        (∃ c ∈ trim text.toList, isDigit c = false) ∧
        ∃ told year date, readTold (trim text.toList) = .ok told ∧ told.year = some year ∧
          told.on ⟨year, 1, 1⟩ = some date ∧
          (∀ other, parse ⟨other, 1, 1⟩ (trim text.toList) = .ok date) ∧ iso = date.iso := by
  have hread : isoDate dom value = .ok (some iso) ↔ ∃ text date, dateText? dom value = some text ∧
      readDate text.toList = .ok date ∧ iso = date.iso := by
    unfold isoDate
    cases dateText? dom value with
    | none => simp
    | some text =>
      cases hdate : readDate text.toList with
      | ok date => simp [hdate, eq_comm]
      | error fault => cases fault <;> simp [hdate]
  rw [hread]
  refine exists_congr fun text => ?_
  simp only [readDate_eq_ok_iff, mayBeDate_iff]
  constructor
  · rintro ⟨date, htext, ⟨⟨hdecimal, hother⟩, told, year, htold, hyear, hdate⟩, hiso⟩
    refine ⟨htext, hdecimal, hother, told, year, date, htold, hyear, hdate, fun first => ?_, hiso⟩
    exact parse_eq_ok_iff.2 ⟨told, htold, (Told.on_of_year hyear first 1 1).trans hdate⟩
  · rintro ⟨htext, hdecimal, hother, told, year, date, htold, hyear, hdate, -, hiso⟩
    exact ⟨date, htext, ⟨⟨hdecimal, hother⟩, told, year, htold, hyear, hdate⟩, hiso⟩

end Strategy

end PageBlocks
