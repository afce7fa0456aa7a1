import PageBlocks.Proofs.Json.Reread
import PageBlocks.Proofs.Text.Utf8
import PageBlocks.Store.Load
/-!
# Files with a value

The text of a value holds no carriage returns, as strings escape them, so that it is the same text
when its line breaks are read as line feeds.  A file with the bytes of the text is thus read as what
the value is read as.

## Main results

* `Json.noReturn_write` — no carriage return is written.
* `readJsonFile_render` — a file with the text of a value is read as what the value is read as.
-/

namespace PageBlocks

namespace Json

variable {value other : Json}

/-! ## Carriage returns -/

theorem noReturn_of_digits {digits : List Char} (h : ∀ c ∈ digits, isDigitChar c = true) :
    '\r' ∉ digits := by
  intro hmem
  exact absurd (h _ hmem) (by decide)

theorem Numeral.noReturn_chars {numeral : Numeral} (h : numeral.IsProper) : '\r' ∉ numeral.chars := by
  obtain ⟨isNegative, whole, fraction, exponent⟩ := numeral
  have hwhole := noReturn_of_digits h.whole.all
  have hfraction := noReturn_of_digits h.fraction
  cases exponent with
  | none => cases isNegative <;> cases fraction <;> simp_all [chars, pointChars, exponentChars]
  | some exponent =>
    have hexponent := noReturn_of_digits (h.exponent exponent.1 exponent.2 rfl).2
    cases isNegative <;> cases fraction <;> simp_all [chars, pointChars, exponentChars] <;>
      split <;> simp

theorem noReturn_hexChar (code : Nat) (h : code < 16) : hexChar code ≠ '\r' := by
  have hall : ∀ code < 16, hexChar code ≠ '\r' := by decide
  exact hall code h

theorem noReturn_escapeChar (c : Char) : '\r' ∉ escapeChar c := by
  unfold escapeChar
  split_ifs with _ _ _ hreturn _ _ _ hcontrol
  · simp
  · simp
  · simp
  · simp
  · simp
  · simp
  · simp
  · have hhigh := noReturn_hexChar (c.toNat / 16) (by omega)
    have hlow := noReturn_hexChar (c.toNat % 16) (by omega)
    simp [hhigh.symm, hlow.symm]
  · simpa using Ne.symm hreturn

theorem noReturn_quote (content : String) : '\r' ∉ quote content := by
  simp [quote, noReturn_escapeChar]

theorem noReturn_newLine (layout : Layout) (level : Nat) : '\r' ∉ layout.newLine level := by
  unfold Layout.newLine
  split <;> simp

theorem noReturn_colon (layout : Layout) : '\r' ∉ layout.colon := by
  unfold Layout.colon
  split <;> simp

theorem writeItems_eq (layout : Layout) (level : Nat) (items : List Json) :
    writeItems layout level items =
      items.flatMap fun item => ',' :: (layout.newLine level ++ write layout level item) := by
  induction items with
  | nil => rfl
  | cons item items ih => simp [writeItems, ih]

theorem writeFields_eq (layout : Layout) (level : Nat) (fields : List (String × Json)) :
    writeFields layout level fields = fields.flatMap fun field =>
      ',' :: (layout.newLine level ++ quote field.1 ++ layout.colon ++ write layout level field.2) := by
  induction fields with
  | nil => rfl
  | cons field fields ih => simp [writeFields, ih]

/-- No carriage return is written. -/
theorem noReturn_write (layout : Layout) (value : Json) : ∀ level, '\r' ∉ write layout level value := by
  induction value using induct with
  | null => simp [write_null]
  | bool value => cases value <;> simp [write_bool]
  | integer value =>
    simp only [write_integer, writeInteger_eq]
    exact fun _ => Numeral.noReturn_chars (isProper_integerNumeral value)
  | decimal value =>
    simp only [write_decimal]
    obtain ⟨word, other, hword, hwrite⟩ | ⟨numeral, hdecimal, hwrite⟩ := writeDecimal_cases value
    · have hall : ∀ entry ∈ wordValues, '\r' ∉ entry.1.toList := by simp [wordValues]
      rw [hwrite]
      exact fun _ => hall _ hword
    · rw [hwrite]
      exact fun _ => Numeral.noReturn_chars hdecimal.isProper
  | text value =>
    simp only [write_text]
    exact fun _ => noReturn_quote value
  | list items ih =>
    cases items with
    | nil => simp [write_list_nil]
    | cons item items =>
      intro level
      have hitems : ∀ item ∈ items, '\r' ∉ write layout (level + 1) item :=
        fun item hitem => ih item (.tail _ hitem) (level + 1)
      simpa [write_list_cons, writeItems_eq, noReturn_newLine, ih item List.mem_cons_self (level + 1)]
        using hitems
  | object fields ih =>
    cases fields with
    | nil => simp [write_object_nil]
    | cons field fields =>
      intro level
      have hfields (name : String) (value : Json) (h : (name, value) ∈ fields) :
          '\r' ∉ write layout (level + 1) value := ih (name, value) (.tail _ h) (level + 1)
      simpa [write_object_cons, writeFields_eq, noReturn_newLine, noReturn_quote, noReturn_colon,
        ih field List.mem_cons_self (level + 1)] using hfields

/-! ## Texts and files -/

/-- The text of a value is read as what the value is read as. -/
theorem parse_render (h : ReadsAs value other) : parse value.render = .ok other := by
  have hread := h ⟨some 2⟩ 0 ((write ⟨some 2⟩ 0 value).length + 1) 0 [] (Nat.le_succ _)
    (by rintro _ ⟨⟩)
  obtain ⟨first, tail, hwrite, hfirst⟩ := write_cons ⟨some 2⟩ 0 value
  simp only [isFirstChar, Bool.and_eq_true, Bool.not_eq_true', decide_eq_true_eq] at hfirst
  have hskip := skipSpace_cons hfirst.1.1 0 tail
  have hmark : (first :: tail).head? ≠ some (Char.ofNat 0xFEFF) := by simpa using hfirst.2
  rw [List.append_nil, hwrite] at hread
  rw [parse, render, String.toList_ofList, hwrite, read, if_neg hmark, hskip, hread]
  rfl

end Json

/-- A file with the text of a value is read as what the value is read as. -/
theorem readJsonFile_render {value other : Json} (h : value.ReadsAs other) :
    readJsonFile (some (Text.Utf8.encode value.render.toList)) = .ok other := by
  have hreturns : '\r' ∉ value.render.toList := by
    rw [Json.render, String.toList_ofList]
    exact Json.noReturn_write ⟨some 2⟩ value 0
  simp only [readJsonFile, Text.Utf8.decodeStrict_encode]
  rw [Text.unifyLineBreaks_of_noReturn hreturns, String.ofList_toList, Json.parse_render h]

end PageBlocks
