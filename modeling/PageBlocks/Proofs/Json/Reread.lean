import Mathlib.Data.List.Forall2
import Mathlib.Tactic.SplitIfs
import PageBlocks.Proofs.Json.Content
import PageBlocks.Proofs.Json.Decimal
/-!
# Written values are read back

What is written for a value is read as one value, however it is laid out and whatever follows that does
not go on with a number.  Without decimals, and where the names in each object are distinct, it is the
value that was written; a decimal may come back as another one, and a repeated name takes one value.

A string is written between quotation marks, with an escape for each character that cannot stand there
as it is.  Each written character is read back in one step of the reader, so that the whole string is
read up to the closing mark, which no escape contains.

The fuel of the reader is compared with the length of the written value: each value inside it is
shorter by the two characters around it, and takes two steps more.

## Main results

* `Json.readString_quote` — a written string is read as that string.
* `Json.readsAs_self` — a value without decimals and repeated names is read as itself.
* `Json.exists_readsAs` — whatever is written is read.
-/

namespace PageBlocks.Json

/-! ## Strings as they are written -/

theorem hexDigit?_hexChar {value : Nat} (h : value < 16) : hexDigit? (hexChar value) = some value := by
  have hall : ∀ value < 16, hexDigit? (hexChar value) = some value := by decide
  exact hall value h

/-- The code of a control character is read from the four digits that write it. -/
theorem readCodeEscape_control {code : Nat} (h : code < 32) {tail : List Char} (htail : tail ≠ [])
    (offset : Nat) :
    readCodeEscape ⟨offset, '0' :: '0' :: hexChar (code / 16) :: hexChar (code % 16) :: tail⟩ =
      .ok (Char.ofNat code, ⟨offset + 4, tail⟩) := by
  obtain ⟨c, rest, rfl⟩ := List.exists_cons_of_ne_nil htail
  have hzero : hexDigit? '0' = some 0 := by decide
  have hfour : fourHexDigits?
      ('0' :: '0' :: hexChar (code / 16) :: hexChar (code % 16) :: c :: rest) = some code := by
    simp [fourHexDigits?, hzero, hexDigit?_hexChar (show code / 16 < 16 by omega),
      hexDigit?_hexChar (show code % 16 < 16 by omega)]
    omega
  have hleading : isLeadingHalf code = false := by
    simp [isLeadingHalf]
    omega
  have htrailing : isTrailingHalf code = false := by
    simp [isTrailingHalf]
    omega
  simp [readCodeEscape, hfour, hleading, charOfCode, htrailing, Cursor.skip]

/-- One written character is read as that character, in one step.  Something has to follow, which is at
least the closing mark: a code escape is not read at the end of a text. -/
theorem readStringChars_escapeChar (start fuel : Nat) (seen : List Char) (c : Char) {tail : List Char}
    (htail : tail ≠ []) (offset : Nat) :
    readStringChars start (fuel + 1) seen ⟨offset, escapeChar c ++ tail⟩ =
      readStringChars start fuel (c :: seen) ⟨offset + (escapeChar c).length, tail⟩ := by
  have hcode : Char.ofNat c.toNat = c := Char.ofNat_toNat c
  unfold escapeChar
  split_ifs with hmark hslash hline hreturn htab hback hfeed hcontrol
  · subst hmark
    rfl
  · subst hslash
    rfl
  · subst hline
    rfl
  · subst hreturn
    rfl
  · subst htab
    rfl
  · rw [hback] at hcode
    subst hcode
    rfl
  · rw [hfeed] at hcode
    subst hcode
    rfl
  · have hread := readCodeEscape_control hcontrol htail (offset + 2)
    rw [hcode] at hread
    simp [readStringChars, Cursor.skip, hread, bind, Except.bind]
  · rw [readStringChars]
    simp only [List.cons_append, List.nil_append]
    split
    case h_6 heq =>
      cases heq
      rw [if_neg hcontrol]
      rfl
    all_goals simp_all

/-- Written characters are read as these characters, up to the closing mark. -/
theorem readStringChars_flatMap (start : Nat) (chars rest : List Char) :
    ∀ {fuel : Nat}, chars.length < fuel → ∀ (seen : List Char) (offset : Nat),
      readStringChars start fuel seen ⟨offset, chars.flatMap escapeChar ++ '"' :: rest⟩ =
        .ok (String.ofList (seen.reverse ++ chars),
          ⟨offset + (chars.flatMap escapeChar).length + 1, rest⟩) := by
  induction chars with
  | nil =>
    intro fuel hfuel seen offset
    obtain ⟨fuel, rfl⟩ := Nat.exists_eq_add_of_lt hfuel
    simp [readStringChars, Cursor.skip]
  | cons c chars ih =>
    intro fuel hfuel seen offset
    obtain ⟨fuel, rfl⟩ : ∃ more, fuel = more + 1 := ⟨fuel - 1, by simp at hfuel; omega⟩
    have hmore : chars.length < fuel := by simpa using hfuel
    rw [List.flatMap_cons, List.append_assoc,
      readStringChars_escapeChar start fuel seen c (by simp) offset, ih hmore]
    simp [Nat.add_assoc]

theorem length_le_flatMap_escapeChar (chars : List Char) :
    chars.length ≤ (chars.flatMap escapeChar).length := by
  induction chars with
  | nil => simp
  | cons c chars ih =>
    have hc : 1 ≤ (escapeChar c).length := by
      unfold escapeChar
      split_ifs <;> simp
    rw [List.flatMap_cons, List.length_append, List.length_cons]
    omega

/-- A written string is read as that string, and nothing behind it is touched. -/
theorem readString_quote (value : String) (rest : List Char) (offset : Nat) :
    readString ⟨offset, quote value ++ rest⟩ = .ok (value, ⟨offset + (quote value).length, rest⟩) := by
  have hlength := length_le_flatMap_escapeChar value.toList
  have hfuel : value.toList.length < (quote value ++ rest).length := by
    simp [quote] at hlength ⊢
    omega
  have hread := readStringChars_flatMap offset value.toList rest hfuel [] (offset + 1)
  simpa [readString, quote, Cursor.skip, Nat.add_assoc, Nat.add_comm 1] using hread

variable {value other : Json} {rest : List Char} {layout : Layout} {level : Nat}

/-! ## How values begin and end -/

theorem isDigitChar_ne {c d : Char} (hc : isDigitChar c = true) (hd : isDigitChar d = false) :
    c ≠ d := by
  rintro rfl
  rw [hc] at hd
  cases hd

/-- Characters that a written value may begin with. -/
def isFirstChar (c : Char) : Bool :=
  !Cursor.isSpace c && c ≠ ']' && c ≠ Char.ofNat 0xFEFF

theorem isFirstChar_of_isDigitChar {c : Char} (h : isDigitChar c = true) : isFirstChar c = true := by
  have hne {d : Char} (hd : isDigitChar d = false) : c ≠ d := isDigitChar_ne h hd
  simp (disch := decide) [isFirstChar, Cursor.isSpace, hne]

/-- A numeral begins with a sign and a digit, or with a digit. -/
theorem Numeral.chars_cases {numeral : Numeral} (h : numeral.IsProper) :
    (∃ digit tail, numeral.chars = digit :: tail ∧ isDigitChar digit = true) ∨
      ∃ digit tail, numeral.chars = '-' :: digit :: tail ∧ isDigitChar digit = true := by
  obtain ⟨first, more, hwhole⟩ := List.exists_cons_of_ne_nil h.whole.ne_nil
  have hfirst : isDigitChar first = true := h.whole.all first (hwhole ▸ List.mem_cons_self)
  cases hsign : numeral.isNegative with
  | false => exact .inl ⟨first, _, by rw [Numeral.chars, hsign, hwhole]; rfl, hfirst⟩
  | true => exact .inr ⟨first, _, by rw [Numeral.chars, hsign, hwhole]; rfl, hfirst⟩

theorem wordValue?_chars {numeral : Numeral} (h : numeral.IsProper) (rest : List Char) :
    wordValue? (numeral.chars ++ rest) = none := by
  obtain ⟨digit, tail, hchars, hdigit⟩ | ⟨digit, tail, hchars, hdigit⟩ := Numeral.chars_cases h
  · have hne {c : Char} (hc : isDigitChar c = false) : c ≠ digit := (isDigitChar_ne hdigit hc).symm
    simp (disch := decide) [hchars, wordValue?, wordValues, hne]
  · have hne {c : Char} (hc : isDigitChar c = false) : c ≠ digit := (isDigitChar_ne hdigit hc).symm
    simp (disch := decide) [hchars, wordValue?, wordValues, hne]

/-- What begins with no mark and with no word is read as a number. -/
theorem readValue_of_noWord {first : Char} {tail : List Char} (hmark : first ≠ '"')
    (hbrace : first ≠ '\x7b') (hbracket : first ≠ '[') (hword : wordValue? (first :: tail) = none)
    (fuel offset : Nat) :
    readValue (fuel + 1) ⟨offset, first :: tail⟩ = readNumber ⟨offset, first :: tail⟩ := by
  rw [readValue]
  dsimp only
  split
  · next heq => exact absurd (List.cons.inj heq).1 hmark
  · next heq => exact absurd (List.cons.inj heq).1 hbrace
  · next heq => exact absurd (List.cons.inj heq).1 hbracket
  · rw [hword]

/-- A numeral is read as a number. -/
theorem readValue_chars {numeral : Numeral} (h : numeral.IsProper) (fuel offset : Nat)
    (rest : List Char) :
    readValue (fuel + 1) ⟨offset, numeral.chars ++ rest⟩ =
      readNumber ⟨offset, numeral.chars ++ rest⟩ := by
  have hword := wordValue?_chars h rest
  obtain ⟨digit, tail, hchars, hdigit⟩ | ⟨digit, tail, hchars, hdigit⟩ := Numeral.chars_cases h
  · rw [hchars, List.cons_append] at hword ⊢
    exact readValue_of_noWord (isDigitChar_ne hdigit (by decide)) (isDigitChar_ne hdigit (by decide))
      (isDigitChar_ne hdigit (by decide)) hword fuel offset
  · rw [hchars, List.cons_append] at hword ⊢
    exact readValue_of_noWord (by decide) (by decide) (by decide) hword fuel offset

/-- A word that is a value is read as that value. -/
theorem readValue_word {word : String} (h : (word, value) ∈ wordValues) (fuel offset : Nat)
    (rest : List Char) :
    readValue (fuel + 1) ⟨offset, word.toList ++ rest⟩ =
      .ok (value, ⟨offset + word.toList.length, rest⟩) := by
  simp only [wordValues, List.mem_cons, Prod.mk.injEq, List.not_mem_nil, or_false] at h
  obtain ⟨rfl, rfl⟩ | ⟨rfl, rfl⟩ | ⟨rfl, rfl⟩ | ⟨rfl, rfl⟩ | ⟨rfl, rfl⟩ | ⟨rfl, rfl⟩ := h <;> rfl

/-! ## Values without parts -/

/-- Is what is written for a value read as another one, however it is laid out? -/
def ReadsAs (value other : Json) : Prop :=
  ∀ layout level fuel offset rest, (write layout level value).length ≤ fuel →
    StartsWithout isNumeralChar rest →
    readValue fuel ⟨offset, write layout level value ++ rest⟩ =
      .ok (other, ⟨offset + (write layout level value).length, rest⟩)

/-- The numeral of an integer. -/
def integerNumeral (value : Int) : Numeral :=
  ⟨decide (value < 0), Nat.toDigits 10 value.natAbs, [], none⟩

theorem isProper_integerNumeral (value : Int) : (integerNumeral value).IsProper :=
  ⟨isWhole_toDigits _, by simp [integerNumeral], by simp [integerNumeral]⟩

theorem writeInteger_eq (value : Int) : writeInteger value = (integerNumeral value).chars := by
  by_cases h : value < 0 <;>
    simp [writeInteger, integerNumeral, Numeral.chars, Numeral.pointChars, Numeral.exponentChars, h]

theorem value?_integerNumeral (value : Int) :
    (integerNumeral value).value? =
      if (Nat.toDigits 10 value.natAbs).length > maxIntegerDigits then
        .error (.integerTooLong (Nat.toDigits 10 value.natAbs).length)
      else .ok (.integer value) := by
  have hsigned : Numeral.signed (decide (value < 0)) value.natAbs = value := by
    by_cases h : value < 0
    · rw [Numeral.signed, decide_eq_true h, if_pos rfl]
      omega
    · rw [Numeral.signed, decide_eq_false h, if_neg Bool.false_ne_true]
      omega
  simp [Numeral.value?, integerNumeral, natOfDigits_toDigits, hsigned]

theorem readsAs_word (word : String) (h : (word, other) ∈ wordValues)
    (hwrite : ∀ layout level, write layout level value = word.toList) : ReadsAs value other := by
  intro layout level fuel offset rest hfuel _
  have hword : word.toList ≠ [] := by
    have hall : ∀ entry ∈ wordValues, entry.1.toList ≠ [] := by simp [wordValues]
    exact hall _ h
  rw [hwrite] at hfuel ⊢
  obtain ⟨fuel, rfl⟩ := Nat.exists_eq_add_of_lt (Nat.lt_of_lt_of_le (List.length_pos_iff.2 hword) hfuel)
  exact readValue_word h _ offset rest

theorem readsAs_numeral {numeral : Numeral} (h : numeral.IsProper) (hvalue : numeral.value? = .ok other)
    (hwrite : ∀ layout level, write layout level value = numeral.chars) : ReadsAs value other := by
  intro layout level fuel offset rest hfuel hrest
  have hchars : numeral.chars ≠ [] := by
    obtain ⟨_, _, hchars, -⟩ | ⟨_, _, hchars, -⟩ := Numeral.chars_cases h <;> simp [hchars]
  rw [hwrite] at hfuel ⊢
  obtain ⟨fuel, rfl⟩ := Nat.exists_eq_add_of_lt (Nat.lt_of_lt_of_le (List.length_pos_iff.2 hchars) hfuel)
  rw [Nat.zero_add, readValue_chars h, readNumber_chars h hrest, hvalue]
  rfl

theorem readsAs_text (content : String) : ReadsAs (.text content) (.text content) := by
  intro layout level fuel offset rest hfuel _
  obtain ⟨fuel, rfl⟩ : ∃ more, fuel = more + 1 :=
    ⟨fuel - 1, by simp [write_text, quote] at hfuel; omega⟩
  have hread := readString_quote content rest offset
  rw [quote, List.cons_append] at hread
  rw [write_text, quote, List.cons_append, readValue]
  simp only [hread, bind, Except.bind]

theorem readsAs_integer {number : Int} (h : isShortInteger (.integer number) = true) :
    ReadsAs (.integer number) (.integer number) := by
  refine readsAs_numeral (isProper_integerNumeral number) ?_ fun _ _ => by
    rw [write_integer, writeInteger_eq]
  rw [value?_integerNumeral, if_neg]
  simpa [isShortInteger] using h

/-- A decimal is read as a decimal. -/
theorem exists_readsAs_decimal (number : Decimal) : ∃ other, ReadsAs (.decimal number) other := by
  obtain ⟨word, other, hword, hwrite⟩ | ⟨numeral, hdecimal, hwrite⟩ := writeDecimal_cases number
  · exact ⟨_, readsAs_word word hword fun _ _ => by rw [write_decimal, hwrite]⟩
  · have hmarked : ¬(numeral.fraction = [] ∧ numeral.exponent = none) := by
      rintro ⟨hfraction, hexponent⟩
      exact hdecimal.isMarked.elim (· hfraction) (· hexponent)
    exact ⟨_, readsAs_numeral hdecimal.isProper (by rw [Numeral.value?, if_neg hmarked])
      fun _ _ => by rw [write_decimal, hwrite]⟩

/-! ## Lists and objects -/

theorem skipSpace_append {gap tail : List Char} (hgap : ∀ c ∈ gap, Cursor.isSpace c = true)
    (htail : StartsWithout Cursor.isSpace tail) (offset : Nat) :
    Cursor.skipSpace ⟨offset, gap ++ tail⟩ = ⟨offset + gap.length, tail⟩ := by
  rw [Cursor.skipSpace, takeWhile_append hgap htail, Cursor.skip_append]

theorem isSpace_of_mem_newLine {c : Char} (h : c ∈ Layout.newLine layout level) :
    Cursor.isSpace c = true := by
  unfold Layout.newLine at h
  split at h
  · obtain rfl | h := List.mem_cons.1 h
    · decide
    · rw [List.eq_of_mem_replicate h]
      decide
  · cases h

theorem skipSpace_newLine (layout : Layout) (level : Nat) {tail : List Char}
    (htail : StartsWithout Cursor.isSpace tail) (offset : Nat) :
    Cursor.skipSpace ⟨offset, layout.newLine level ++ tail⟩ =
      ⟨offset + (layout.newLine level).length, tail⟩ :=
  skipSpace_append (fun _ => isSpace_of_mem_newLine) htail offset

/-- A written value begins with a character that is neither a blank nor a closing bracket. -/
theorem write_cons (layout : Layout) (level : Nat) (value : Json) :
    ∃ first tail, write layout level value = first :: tail ∧ isFirstChar first = true := by
  have hnumeral {numeral : Numeral} (h : numeral.IsProper) :
      ∃ first tail, numeral.chars = first :: tail ∧ isFirstChar first = true := by
    obtain ⟨digit, tail, hchars, hdigit⟩ | ⟨digit, tail, hchars, -⟩ := Numeral.chars_cases h
    · exact ⟨digit, tail, hchars, isFirstChar_of_isDigitChar hdigit⟩
    · exact ⟨'-', digit :: tail, hchars, by decide⟩
  cases value with
  | null => exact ⟨'n', _, rfl, by decide⟩
  | bool value => cases value <;> exact ⟨_, _, rfl, by decide⟩
  | integer value =>
    rw [write_integer, writeInteger_eq]
    exact hnumeral (isProper_integerNumeral value)
  | decimal value =>
    rw [write_decimal]
    obtain ⟨word, other, hword, hwrite⟩ | ⟨numeral, hdecimal, hwrite⟩ := writeDecimal_cases value
    · have hall : ∀ entry ∈ wordValues,
          ∃ first tail, entry.1.toList = first :: tail ∧ isFirstChar first = true := by
        simp [wordValues, isFirstChar, Cursor.isSpace]
      rw [hwrite]
      exact hall _ hword
    · rw [hwrite]
      exact hnumeral hdecimal.isProper
  | text value => exact ⟨'"', _, rfl, by decide⟩
  | list items => cases items <;> exact ⟨'[', _, rfl, by decide⟩
  | object fields =>
    cases fields with
    | nil => exact ⟨'\x7b', _, rfl, by decide⟩
    | cons field fields => exact ⟨'\x7b', _, rfl, by decide⟩

theorem startsWithout_write (layout : Layout) (level : Nat) (value : Json) (rest : List Char) :
    StartsWithout Cursor.isSpace (write layout level value ++ rest) := by
  obtain ⟨first, tail, hwrite, hfirst⟩ := write_cons layout level value
  rw [hwrite]
  rintro c ⟨⟩
  simp only [isFirstChar, Bool.and_eq_true, Bool.not_eq_true'] at hfirst
  exact hfirst.1.1

theorem startsWithout_quote (content : String) (rest : List Char) :
    StartsWithout Cursor.isSpace (quote content ++ rest) :=
  startsWithout_cons (by decide) _

/-- What stands before the next part of a list or an object, or before its end. -/
theorem startsWithout_newLine {kind : Char → Bool} {c : Char} (hline : kind '\n' = false)
    (hc : kind c = false) (layout : Layout) (level : Nat) (rest : List Char) :
    StartsWithout kind (layout.newLine level ++ c :: rest) := by
  unfold Layout.newLine
  cases layout.indent? with
  | none => exact startsWithout_cons hc rest
  | some width => exact startsWithout_cons hline _

theorem skipSpace_cons {c : Char} (h : Cursor.isSpace c = false) (offset : Nat) (rest : List Char) :
    Cursor.skipSpace ⟨offset, c :: rest⟩ = ⟨offset, c :: rest⟩ := by
  simp [Cursor.skipSpace, Cursor.skip, h]

variable {items others : List Json}

/-- Items that are written one by one are read one by one, up to the closing bracket. -/
theorem readItems_write (layout : Layout) (level lower : Nat) (rest : List Char)
    (h : List.Forall₂ ReadsAs items others) :
    ∀ (item other : Json), ReadsAs item other → ∀ fuel : Nat,
      (write layout level item ++ writeItems layout level items).length < fuel →
      ∀ (seen : List Json) (offset : Nat),
      readItems fuel seen ⟨offset, write layout level item ++ (writeItems layout level items ++
          (layout.newLine lower ++ ']' :: rest))⟩ =
        .ok (.list (seen.reverse ++ other :: others), ⟨offset + (write layout level item).length +
          (writeItems layout level items).length + (layout.newLine lower).length + 1, rest⟩) := by
  induction h with
  | nil =>
    intro item other hitem fuel hfuel seen offset
    obtain ⟨fuel, rfl⟩ := Nat.exists_eq_add_of_lt hfuel
    have hclose : StartsWithout isNumeralChar (layout.newLine lower ++ ']' :: rest) :=
      startsWithout_newLine (by decide) (by decide) layout lower rest
    have hread := hitem layout level _ offset _ (Nat.le_add_right _ fuel) hclose
    have hbracket : Cursor.isSpace ']' = false := by decide
    have hskip := skipSpace_newLine layout lower (startsWithout_cons hbracket rest)
    simp only [writeItems, List.append_nil, List.nil_append]
    rw [readItems, hread]
    simp [bind, Except.bind, hskip, Cursor.skip]
  | @cons next nextOther items others hnext _ ih =>
    intro item other hitem fuel hfuel seen offset
    obtain ⟨fuel, rfl⟩ : ∃ more, fuel = more + 1 := ⟨fuel - 1, by omega⟩
    simp only [writeItems, List.length_append, List.length_cons] at hfuel
    have hcomma : isNumeralChar ',' = false := by decide
    have hread (rest : List Char) := hitem layout level fuel offset _ (by omega)
      (startsWithout_cons hcomma rest)
    have hskip (offset : Nat) (rest : List Char) := skipSpace_newLine layout level
      (startsWithout_write layout level next rest) offset
    have hcons (offset : Nat) (rest : List Char) :=
      skipSpace_cons (c := ',') (by decide) offset rest
    have hmore := ih next nextOther hnext fuel (by rw [List.length_append]; omega) (other :: seen)
    rw [readItems]
    simp only [writeItems, List.cons_append, List.append_assoc, hread, bind, Except.bind, hcons,
      Cursor.skip, List.drop_one, List.tail_cons, hskip, hmore, List.reverse_cons, List.nil_append]
    simp only [List.length_append, List.length_cons, Nat.add_assoc, Nat.add_comm 1]

/-- Is the value of a field read as that of another one of the same name? -/
def FieldReadsAs (field other : String × Json) : Prop :=
  field.1 = other.1 ∧ ReadsAs field.2 other.2

theorem skipSpace_colon (layout : Layout) {rest : List Char} (h : StartsWithout Cursor.isSpace rest)
    (offset : Nat) :
    ∃ gap : List Char, layout.colon = ':' :: gap ∧
      Cursor.skipSpace ⟨offset, gap ++ rest⟩ = ⟨offset + gap.length, rest⟩ := by
  unfold Layout.colon
  split
  · exact ⟨[' '], rfl, skipSpace_append (by simp [Cursor.isSpace]) h offset⟩
  · exact ⟨[], rfl, skipSpace_append (by simp) h offset⟩

/-- What is read from the first character after a field, when `fields` are those read so far. -/
def afterField (fuel : Nat) (fields : Fields) (next : Cursor) : Reading (Json × Cursor) :=
  match next.rest with
  | '\x7d' :: _ => .ok (.object fields, next.skip 1)
  | ',' :: _ => readMembers fuel fields (next.skip 1).skipSpace
  | _ => .error (.at .expectedComma next.offset)

/-- A written field is read up to what follows it. -/
theorem readMembers_field {name : String} (hvalue : ReadsAs value other) {fuel : Nat}
    (hfuel : (write layout level value).length ≤ fuel) {rest : List Char}
    (hrest : StartsWithout isNumeralChar rest) (seen : Fields) (offset : Nat) :
    readMembers (fuel + 1) seen
        ⟨offset, quote name ++ (layout.colon ++ (write layout level value ++ rest))⟩ =
      afterField fuel (put seen name other) (Cursor.skipSpace ⟨offset + (quote name).length +
        layout.colon.length + (write layout level value).length, rest⟩) := by
  have hname := readString_quote name (layout.colon ++ (write layout level value ++ rest)) offset
  obtain ⟨gap, hcolon, hgap⟩ := skipSpace_colon layout (startsWithout_write layout level value rest)
    (offset + (quote name).length + 1)
  have hread := hvalue layout level fuel (offset + (quote name).length + 1 + gap.length) rest hfuel hrest
  have hcons (offset : Nat) (rest : List Char) := skipSpace_cons (c := ':') (by decide) offset rest
  have hskip (c : Char) (offset : Nat) (rest : List Char) :
      Cursor.skip ⟨offset, c :: rest⟩ 1 = ⟨offset + 1, rest⟩ := rfl
  obtain ⟨tail, htail⟩ : ∃ tail, quote name ++ (layout.colon ++ (write layout level value ++ rest)) =
      '"' :: tail := ⟨_, rfl⟩
  rw [htail] at hname ⊢
  rw [readMembers]
  simp only [hname, bind, Except.bind, hcolon, List.cons_append, hcons, hskip, hgap, hread,
    List.length_cons]
  simp only [Nat.add_assoc, Nat.add_comm 1]
  rfl

variable {fields otherFields : List (String × Json)}

/-- Fields that are written one by one are read one by one, up to the closing brace. -/
theorem readMembers_write (layout : Layout) (level lower : Nat) (rest : List Char)
    (h : List.Forall₂ FieldReadsAs fields otherFields) :
    ∀ (name : String) (value other : Json), ReadsAs value other → ∀ fuel : Nat,
      (quote name ++ (layout.colon ++ (write layout level value ++
        writeFields layout level fields))).length < fuel →
      ∀ (seen : Fields) (offset : Nat),
      readMembers fuel seen ⟨offset, quote name ++ (layout.colon ++ (write layout level value ++
          (writeFields layout level fields ++ (layout.newLine lower ++ '\x7d' :: rest))))⟩ =
        .ok (.object (otherFields.foldl (fun fields field => put fields field.1 field.2)
            (put seen name other)),
          ⟨offset + (quote name).length + layout.colon.length + (write layout level value).length +
            (writeFields layout level fields).length + (layout.newLine lower).length + 1, rest⟩) := by
  induction h with
  | nil =>
    intro name value other hvalue fuel hfuel seen offset
    obtain ⟨fuel, rfl⟩ : ∃ more, fuel = more + 1 := ⟨fuel - 1, by omega⟩
    simp only [writeFields, List.length_append] at hfuel
    have hclose : StartsWithout isNumeralChar (layout.newLine lower ++ '\x7d' :: rest) :=
      startsWithout_newLine (by decide) (by decide) layout lower rest
    have hbrace : Cursor.isSpace '\x7d' = false := by decide
    have hskip := skipSpace_newLine layout lower (startsWithout_cons hbrace rest)
    simp only [writeFields, List.nil_append]
    rw [readMembers_field hvalue (by omega) hclose]
    simp [afterField, hskip, Cursor.skip]
  | @cons next nextOther fields otherFields hnext _ ih =>
    intro name value other hvalue fuel hfuel seen offset
    obtain ⟨fuel, rfl⟩ : ∃ more, fuel = more + 1 := ⟨fuel - 1, by omega⟩
    obtain ⟨nextName, next⟩ := next
    obtain ⟨otherName, nextOther⟩ := nextOther
    obtain ⟨rfl, hnext⟩ : nextName = otherName ∧ ReadsAs next nextOther := hnext
    simp only [writeFields, List.length_append, List.length_cons] at hfuel
    have hcomma : isNumeralChar ',' = false := by decide
    have hcons (offset : Nat) (rest : List Char) :=
      skipSpace_cons (c := ',') (by decide) offset rest
    have hskip (offset : Nat) (rest : List Char) := skipSpace_newLine layout level
      (startsWithout_quote nextName rest) offset
    have hmore := ih nextName next nextOther hnext fuel
      (by simp only [List.length_append]; omega) (put seen name other)
    simp only [writeFields, List.cons_append, List.append_assoc]
    rw [readMembers_field hvalue (by omega) (startsWithout_cons hcomma _)]
    simp only [afterField, hcons, Cursor.skip, List.drop_one, List.tail_cons, hskip, hmore,
      List.foldl_cons]
    simp only [List.length_append, List.length_cons, Nat.add_assoc, Nat.add_comm 1]

/-- A list that does not end at once is read item by item. -/
theorem readValue_items (layout : Layout) (level : Nat) {item : Json} {rest : List Char}
    (fuel offset : Nat) :
    readValue (fuel + 1) ⟨offset, '[' :: (layout.newLine level ++ (write layout level item ++ rest))⟩ =
      readItems fuel [] ⟨offset + 1 + (layout.newLine level).length, write layout level item ++ rest⟩ := by
  have hskip := skipSpace_newLine layout level
    (startsWithout_write layout level item rest) (offset + 1)
  obtain ⟨first, tail, hwrite, hfirst⟩ := write_cons layout level item
  have hopen : first ≠ ']' := by
    rintro rfl
    exact absurd hfirst (by decide)
  rw [hwrite, List.cons_append] at hskip ⊢
  rw [readValue]
  simp only [Cursor.skip, List.drop_one, List.tail_cons, hskip]
  split
  · next heq => exact absurd (List.cons.inj heq).1 hopen
  · rfl

/-- An object that does not end at once is read field by field. -/
theorem readValue_members (layout : Layout) (level : Nat) (name : String) (rest : List Char)
    (fuel offset : Nat) :
    readValue (fuel + 1) ⟨offset, '\x7b' :: (layout.newLine level ++ (quote name ++ rest))⟩ =
      readMembers fuel [] ⟨offset + 1 + (layout.newLine level).length, quote name ++ rest⟩ := by
  have hskip := skipSpace_newLine layout level (startsWithout_quote name rest) (offset + 1)
  rw [readValue]
  simp only [Cursor.skip, List.drop_one, List.tail_cons, hskip]
  rfl

theorem readsAs_list (h : List.Forall₂ ReadsAs items others) : ReadsAs (.list items) (.list others) := by
  intro layout level fuel offset rest hfuel _
  obtain ⟨fuel, rfl⟩ : ∃ more, fuel = more + 1 :=
    ⟨fuel - 1, by cases items <;> simp [write_list_nil, write_list_cons] at hfuel <;> omega⟩
  cases h with
  | nil => rfl
  | cons hitem hitems =>
    simp only [write_list_cons, List.length_cons, List.length_append, List.length_nil] at hfuel
    have hread := readItems_write layout (level + 1) level rest hitems _ _ hitem fuel
      (by rw [List.length_append]; omega) []
    simp only [write_list_cons, List.cons_append, List.append_assoc, List.nil_append,
      readValue_items, hread]
    simp [Nat.add_assoc, Nat.add_comm 1]

theorem readsAs_object (h : List.Forall₂ FieldReadsAs fields otherFields) :
    ReadsAs (.object fields) (.object (ofEntries otherFields)) := by
  intro layout level fuel offset rest hfuel _
  obtain ⟨fuel, rfl⟩ : ∃ more, fuel = more + 1 :=
    ⟨fuel - 1, by cases fields <;> simp [write_object_nil, write_object_cons] at hfuel <;> omega⟩
  cases h with
  | nil => rfl
  | @cons field other fields otherFields hfield hfields =>
    obtain ⟨name, value⟩ := field
    obtain ⟨otherName, other⟩ := other
    obtain ⟨rfl, hvalue⟩ : name = otherName ∧ ReadsAs value other := hfield
    simp only [write_object_cons, List.length_cons, List.length_append, List.length_nil] at hfuel
    have hread := readMembers_write layout (level + 1) level rest hfields name value other hvalue fuel
      (by simp only [List.length_append]; omega) []
    simp only [write_object_cons, List.cons_append, List.append_assoc, List.nil_append,
      readValue_members, hread]
    simp [ofEntries, put, Nat.add_assoc, Nat.add_comm 1]

/-! ## All values -/

theorem exists_forall₂ {relates : α → α → Prop} {items : List α}
    (h : ∀ item ∈ items, ∃ other, relates item other) : ∃ others, List.Forall₂ relates items others := by
  induction items with
  | nil => exact ⟨[], .nil⟩
  | cons item items ih =>
    obtain ⟨other, hother⟩ := h item List.mem_cons_self
    obtain ⟨others, hothers⟩ := ih fun item hitem => h item (.tail _ hitem)
    exact ⟨other :: others, .cons hother hothers⟩

theorem readsAs_null : ReadsAs .null .null :=
  readsAs_word "null" (by simp [wordValues]) fun _ _ => rfl

theorem readsAs_bool (value : Bool) : ReadsAs (.bool value) (.bool value) := by
  cases value with
  | true => exact readsAs_word "true" (by simp [wordValues]) fun _ _ => rfl
  | false => exact readsAs_word "false" (by simp [wordValues]) fun _ _ => rfl

/-- Whatever is written is read, if its integers are short enough. -/
theorem exists_readsAs : ∀ value : Json, value.isReadable = true → ∃ other, ReadsAs value other := by
  intro value
  induction value using induct with
  | null => exact fun _ => ⟨.null, readsAs_null⟩
  | bool value => exact fun _ => ⟨.bool value, readsAs_bool value⟩
  | integer value => exact fun h => ⟨.integer value, readsAs_integer h⟩
  | decimal value => exact fun _ => exists_readsAs_decimal value
  | text value => exact fun _ => ⟨.text value, readsAs_text value⟩
  | list items ih =>
    intro h
    obtain ⟨-, hitems⟩ := everywhere_list.1 h
    obtain ⟨others, hothers⟩ := exists_forall₂ fun item hitem => ih item hitem (hitems item hitem)
    exact ⟨.list others, readsAs_list hothers⟩
  | object fields ih =>
    intro h
    obtain ⟨-, hfields⟩ := everywhere_object.1 h
    have hfield (field : String × Json) (hmem : field ∈ fields) : ∃ other, FieldReadsAs field other := by
      obtain ⟨other, hother⟩ := ih field hmem (hfields field hmem)
      exact ⟨(field.1, other), rfl, hother⟩
    obtain ⟨others, hothers⟩ := exists_forall₂ hfield
    exact ⟨.object (ofEntries others), readsAs_object hothers⟩

/-- A value without decimals and repeated names is read as itself, if its integers are short enough. -/
theorem readsAs_self : ∀ {value : Json}, value.isReadable = true → value.hasNoDecimals = true →
    value.isDistinct = true → ReadsAs value value := by
  intro value
  induction value using induct with
  | null => exact fun _ _ _ => readsAs_null
  | bool value => exact fun _ _ _ => readsAs_bool value
  | integer value => exact fun h _ _ => readsAs_integer h
  | decimal value => exact fun _ h => absurd h (by simp [hasNoDecimals, everywhere, isNoDecimal])
  | text value => exact fun _ _ _ => readsAs_text value
  | list items ih =>
    intro hreadable hdecimals hdistinct
    exact readsAs_list <| List.forall₂_same.2 fun item hitem => ih item hitem
      ((everywhere_list.1 hreadable).2 item hitem) ((everywhere_list.1 hdecimals).2 item hitem)
      ((everywhere_list.1 hdistinct).2 item hitem)
  | object fields ih =>
    intro hreadable hdecimals hdistinct
    obtain ⟨hnames, hdistinct⟩ := everywhere_object.1 hdistinct
    have hread := readsAs_object <| List.forall₂_same.2 fun field hmem =>
      (⟨rfl, ih field hmem ((everywhere_object.1 hreadable).2 field hmem)
        ((everywhere_object.1 hdecimals).2 field hmem) (hdistinct field hmem)⟩ : FieldReadsAs field field)
    rwa [ofEntries_of_nodup (by simpa [hasDistinctNames] using hnames)] at hread

end PageBlocks.Json
