/-!
# Blank characters and line breaks

White space in the wide sense: the Unicode space separators, the line and paragraph separators,
the ASCII controls from tab to carriage return and the four information separators.  A line may end in
a line feed, a carriage return, or both.

## Main results

* `isBlank_of_isWhitespace` — every character of the core library's class is blank.
* `trimLeft_eq_nil_iff`, `trimRight_eq_nil_iff` — trimming leaves nothing exactly of blank text.
* `unifyLineBreaks_noReturns` — no carriage return is left among unified line breaks.
* `unifyLineBreaks_of_noReturn` — text without carriage returns stays what it is.
-/

namespace PageBlocks.Text

/-- Blank characters. -/
def isBlank (c : Char) : Bool :=
  let n := c.toNat
  (0x9 ≤ n && n ≤ 0xD) || (0x1C ≤ n && n ≤ 0x20) || n == 0x85 || n == 0xA0 || n == 0x1680 ||
    (0x2000 ≤ n && n ≤ 0x200A) || n == 0x2028 || n == 0x2029 || n == 0x202F || n == 0x205F ||
    n == 0x3000

/-- Text without the blank characters it starts with. -/
def trimLeft (text : List Char) : List Char :=
  text.dropWhile isBlank

/-- Text without the blank characters it ends with. -/
def trimRight (text : List Char) : List Char :=
  (text.reverse.dropWhile isBlank).reverse

/-- Text without the blank characters around it. -/
def trim (text : List Char) : List Char :=
  trimRight (trimLeft text)

/-- A string without the blank characters around it. -/
def trimString (text : String) : String :=
  String.ofList (trim text.toList)

/-- Is there nothing but blank characters? -/
def isBlankText (text : List Char) : Bool :=
  text.all isBlank

/-- Trimming on the left leaves nothing exactly of blank text. -/
theorem trimLeft_eq_nil_iff {text : List Char} :
    trimLeft text = [] ↔ ∀ c ∈ text, isBlank c = true := by
  induction text with
  | nil => simp [trimLeft]
  | cons c rest ih =>
    by_cases h : isBlank c = true
    · have step : trimLeft (c :: rest) = trimLeft rest := List.dropWhile_cons_of_pos h
      rw [step, ih, List.forall_mem_cons]
      exact (and_iff_right h).symm
    · have step : trimLeft (c :: rest) = c :: rest := List.dropWhile_cons_of_neg h
      rw [step, List.forall_mem_cons]
      exact iff_of_false (List.cons_ne_nil c rest) fun both => h both.1

theorem trimRight_eq_nil_iff {text : List Char} :
    trimRight text = [] ↔ ∀ c ∈ text, isBlank c = true := by
  have h := @trimLeft_eq_nil_iff text.reverse
  simp only [List.mem_reverse] at h
  exact List.reverse_eq_nil_iff.trans h

theorem isBlank_of_isWhitespace {c : Char} (h : c.isWhitespace = true) : isBlank c = true := by
  simp only [Char.isWhitespace, Bool.or_eq_true, decide_eq_true_eq] at h
  rcases h with ((h | h) | h) | h <;> subst h <;> decide

/-! ## Line breaks -/

/-- All line breaks as one line feed. -/
def unifyLineBreaks : List Char → List Char
  | [] => []
  | '\r' :: '\n' :: rest => '\n' :: unifyLineBreaks rest
  | '\r' :: rest => '\n' :: unifyLineBreaks rest
  | c :: rest => c :: unifyLineBreaks rest

theorem unifyLineBreaks_noReturns (text : List Char) : '\r' ∉ unifyLineBreaks text := by
  fun_induction unifyLineBreaks text with
  | case1 => simp
  | case2 rest ih => simpa using ih
  | case3 rest _ ih => simpa using ih
  | case4 c rest _ hc ih =>
    simp only [List.mem_cons, not_or]
    exact ⟨fun h => hc h.symm, ih⟩

/-- Text without carriage returns keeps its line breaks. -/
theorem unifyLineBreaks_of_noReturn {text : List Char} (h : '\r' ∉ text) :
    unifyLineBreaks text = text := by
  fun_induction unifyLineBreaks text with
  | case1 => rfl
  | case2 rest ih => simp at h
  | case3 rest _ ih => simp at h
  | case4 c rest _ hc ih => rw [ih fun hmem => h (.tail _ hmem)]

end PageBlocks.Text
