import Mathlib.Data.List.DropRight
import PageBlocks.Block.Host
import PageBlocks.Proofs.Text.Case
/-!
# Names of blocks

In the name of a block a blank takes the character behind it, which becomes a capital if it is a letter.
Of several blanks in a row the first takes the second, the third takes the fourth, and so on, so that a
letter behind them is taken just when their number is odd.

## Main results

* `titled_eq_iff` — when two rules for capitals agree on a text.
* `blockName_titled` — which letters of a name are capitals.
* `blockName_capitals_iff` — when they are all those that words begin with.
-/

namespace PageBlocks

open PageBlocks.Text

/-! ## Rules for capitals -/

/-- Blanks and dashes, which are between the words of a type. -/
def isSeparator (c : Char) : Bool :=
  c = ' ' || c = '-'

/-- The characters of types: ASCII letters and digits, blanks and dashes. -/
def isTypeChar (c : Char) : Bool :=
  isAsciiLetter c || isAsciiDigit c || isSeparator c

/-- A character of a name, as a capital if that is asked for, and a blank for a separator. -/
def shownAs (capital : Bool) (c : Char) : Char :=
  if isSeparator c then ' ' else if capital then asciiUpperChar c else c

/-- A text with blanks for its separators, and with capitals where the text in front of a letter asks for
one. -/
def titled (asks : List Char → Bool) (front : List Char) : List Char → List Char
  | [] => []
  | c :: rest => shownAs (asks front) c :: titled asks (front ++ [c]) rest

/-- The separators at the end of a text. -/
def endGap (text : List Char) : List Char :=
  text.rtakeWhile isSeparator

/-- Does a word begin behind a text, because there is none or it ends with a separator? -/
def beginsWord (front : List Char) : Bool :=
  front.getLast?.all isSeparator

/-- Is there an odd number of separators at the end of a text? -/
def endsOdd (front : List Char) : Bool :=
  (endGap front).length % 2 = 1

theorem endGap_concat (front : List Char) (c : Char) :
    endGap (front ++ [c]) = if isSeparator c then endGap front ++ [c] else [] :=
  List.rtakeWhile_concat isSeparator front c

theorem endsOdd_concat (front : List Char) (c : Char) :
    endsOdd (front ++ [c]) = (isSeparator c && !endsOdd front) := by
  rw [endsOdd, endGap_concat, endsOdd]
  by_cases hc : isSeparator c = true
  · rw [if_pos hc, List.length_append, List.length_singleton, hc, Bool.true_and]
    rcases Nat.mod_two_eq_zero_or_one (endGap front).length with heven | hodd
    · simp [Nat.add_mod, heven]
    · simp [Nat.add_mod, hodd]
  · rw [if_neg hc, Bool.eq_false_iff.2 hc]
    rfl

theorem beginsWord_iff {front : List Char} :
    beginsWord front = true ↔ front = [] ∨ endGap front ≠ [] := by
  induction front using List.reverseRecOn with
  | nil => simp [beginsWord]
  | append_singleton front c _ =>
    rw [beginsWord, List.getLast?_concat, endGap_concat]
    by_cases hc : isSeparator c = true <;> simp [hc]

theorem shownAs_of_separator {c : Char} (h : isSeparator c = true) (capital : Bool) :
    shownAs capital c = ' ' :=
  if_pos h

/-- Whether a capital is asked for makes a difference to small letters alone. -/
theorem shownAs_eq_iff {first second : Bool} {c : Char} :
    shownAs first c = shownAs second c ↔ (isSmallLetter c = true → first = second) := by
  by_cases hc : isSmallLetter c = true
  · obtain ⟨hseparator, hupper⟩ : isSeparator c = false ∧ asciiUpperChar c ≠ c :=
      forall_ascii (P := fun c => isSmallLetter c = true → isSeparator c = false ∧
        asciiUpperChar c ≠ c) (by decide) (isAscii_of_isSmallLetter hc) hc
    cases first <;> cases second <;> simp [shownAs, hseparator, hupper, hupper.symm, hc]
  · have hupper : asciiUpperChar c = c := if_neg hc
    cases first <;> cases second <;> simp [shownAs, hupper, hc]

/-- Two rules agree on a text just when they do in front of each of its small letters. -/
theorem titled_eq_iff {first second : List Char → Bool} {front text : List Char} :
    titled first front text = titled second front text ↔
      ∀ before c after, text = before ++ c :: after → isSmallLetter c = true →
        first (front ++ before) = second (front ++ before) := by
  induction text generalizing front with
  | nil => simp [titled]
  | cons c text ih =>
    rw [titled, titled, List.cons.injEq, shownAs_eq_iff, ih]
    constructor
    · rintro ⟨hhead, htail⟩ before d after hsplit hd
      cases before with
      | nil =>
        obtain ⟨rfl, rfl⟩ := List.cons.inj hsplit
        rw [List.append_nil]
        exact hhead hd
      | cons b before =>
        obtain ⟨rfl, rfl⟩ := List.cons.inj hsplit
        simpa using htail before d after rfl hd
    · intro h
      refine ⟨fun hc => ?_, fun before d after hsplit hd => ?_⟩
      · simpa using h [] c text rfl hc
      · simpa using h (c :: before) d after (by rw [hsplit, List.cons_append]) hd

/-! ## Which letters are capitals -/

/-- The character that takes the place of a dash, and every other character itself. -/
def withoutDash (c : Char) : Char :=
  if c = '-' then ' ' else c

theorem isAscii_of_isTypeChar {c : Char} (h : isTypeChar c = true) : isAscii c = true := by
  simp only [isTypeChar, isAsciiLetter, isAsciiDigit, isSeparator, Bool.or_eq_true,
    Bool.and_eq_true, decide_eq_true_eq] at h
  rcases h with ((⟨-, h⟩ | ⟨-, h⟩) | ⟨-, h⟩) | rfl | rfl
  · exact isAscii_of_le h (by decide)
  · exact isAscii_of_le h (by decide)
  · exact isAscii_of_le h (by decide)
  · decide
  · decide

/-- What a character of a type is in the name: separators are blanks, and nothing else is. -/
theorem withoutDash_facts {c : Char} (h : isTypeChar c = true) :
    isAscii (withoutDash c) = true ∧ withoutDash c ≠ '\n' ∧
      isBlank (withoutDash c) = isSeparator c ∧ withoutDash c = shownAs false c ∧
      asciiUpperChar (withoutDash c) = shownAs true c :=
  forall_ascii (P := fun c => isTypeChar c = true → isAscii (withoutDash c) = true ∧
    withoutDash c ≠ '\n' ∧ isBlank (withoutDash c) = isSeparator c ∧
      withoutDash c = shownAs false c ∧ asciiUpperChar (withoutDash c) = shownAs true c)
    (by decide) (isAscii_of_isTypeChar h) h

/-- From a place where no blank is about to take a character on, a character is taken just where an odd
number of separators is in front of it. -/
theorem capitalizeWords_withoutDash : ∀ (text front : List Char),
    (∀ c ∈ text, isTypeChar c = true) → endsOdd front = false →
      capitalizeWords (text.map withoutDash) = titled endsOdd front text
  | [], _, _, _ => rfl
  | [c], front, h, hfront => by
    obtain ⟨-, -, -, hsame, -⟩ := withoutDash_facts (h c List.mem_cons_self)
    rw [List.map_singleton, capitalizeWords, titled, titled, hfront, hsame]
  | c :: d :: rest, front, h, hfront => by
    obtain ⟨hc, htail⟩ := List.forall_mem_cons.1 h
    obtain ⟨hd, hrest⟩ := List.forall_mem_cons.1 htail
    obtain ⟨hascii, -, hblank, hsame, hupper⟩ := withoutDash_facts hc
    obtain ⟨hascii', hline, -, -, hupper'⟩ := withoutDash_facts hd
    rw [List.map_cons, List.map_cons, capitalizeWords, titled, hfront, hblank]
    by_cases hseparator : isSeparator c = true
    · -- the blank takes the next character, so that a separator there takes none
      have hodd : endsOdd (front ++ [c]) = true := by
        rw [endsOdd_concat, hseparator, hfront]
        rfl
      have heven : endsOdd (front ++ [c] ++ [d]) = false := by
        rw [endsOdd_concat, hodd, Bool.not_true, Bool.and_false]
      have hpair : upper [withoutDash c, withoutDash d] = [shownAs false c, shownAs true d] := by
        rw [upper_eq_map (by simp [hascii, hascii']), List.map_cons, List.map_singleton, hupper,
          hupper', shownAs_of_separator hseparator, shownAs_of_separator hseparator]
      rw [titled, hodd, if_pos (by simp [hseparator, hline]), hpair,
        capitalizeWords_withoutDash rest _ hrest heven]
      rfl
    · have heven : endsOdd (front ++ [c]) = false := by
        rw [endsOdd_concat, Bool.eq_false_iff.2 hseparator, Bool.false_and]
      rw [if_neg (by simp [hseparator]), hsame, ← List.map_cons,
        capitalizeWords_withoutDash (d :: rest) _ htail heven]

/-- Is the character behind a text taken by a blank, or is it the first of the name? -/
def isTaken (front : List Char) : Bool :=
  front.isEmpty || endsOdd front

/-- The letters of a name are capitals where they are taken. -/
theorem blockName_titled {type : String} (h : ∀ c ∈ type.toList, isTypeChar c = true) :
    (blockName type).toList = titled isTaken [] type.toList := by
  rw [blockName, String.toList_ofList]
  change capitalizeFirst (capitalizeWords (type.toList.map withoutDash)) = _
  rw [capitalizeWords_withoutDash _ [] h rfl]
  generalize type.toList = text at h
  cases text with
  | nil => rfl
  | cons c rest =>
    obtain ⟨hascii, -, -, hsame, hupper⟩ := withoutDash_facts (h c List.mem_cons_self)
    have hfirst : upper [shownAs false c] = [shownAs true c] := by
      rw [← hsame, upper_eq_map (by simp [hascii]), List.map_singleton, hupper]
    have hrest : titled endsOdd [c] rest = titled isTaken [c] rest :=
      titled_eq_iff.2 fun before d after _ _ => by simp [isTaken]
    calc capitalizeFirst (titled endsOdd [] (c :: rest))
        = upper [shownAs false c] ++ titled endsOdd [c] rest := rfl
      _ = shownAs true c :: titled isTaken [c] rest := by rw [hfirst, hrest]; rfl
      _ = titled isTaken [] (c :: rest) := rfl

/-- Two texts with separators at the same places. -/
def Alike (first second : List Char) : Prop :=
  first.map isSeparator = second.map isSeparator

theorem Alike.isTaken_eq {first second : List Char} (h : Alike first second) :
    isTaken first = isTaken second := by
  have hgap (front : List Char) :
      (endGap front).length = ((front.map isSeparator).reverse.takeWhile id).length := by
    rw [endGap, List.rtakeWhile, List.length_reverse, ← List.map_reverse, List.takeWhile_map,
      List.length_map]
    rfl
  have hempty : first.isEmpty = second.isEmpty := by
    rw [← List.isEmpty_map (f := isSeparator), h, List.isEmpty_map]
  rw [isTaken, isTaken, hempty, endsOdd, endsOdd, hgap, hgap, h]

/-- A character that is shown is one that types have, a separator just when it was one, and shown as
itself from then on. -/
theorem shownAs_facts {c : Char} (h : isTypeChar c = true) (capital : Bool) :
    isTypeChar (shownAs capital c) = true ∧ isSeparator (shownAs capital c) = isSeparator c ∧
      shownAs capital (shownAs capital c) = shownAs capital c :=
  forall_ascii (P := fun c => isTypeChar c = true → ∀ capital,
    isTypeChar (shownAs capital c) = true ∧ isSeparator (shownAs capital c) = isSeparator c ∧
      shownAs capital (shownAs capital c) = shownAs capital c)
    (by decide) (isAscii_of_isTypeChar h) h capital

theorem isTypeChar_of_mem_titled {asks : List Char → Bool} {front text : List Char}
    (h : ∀ c ∈ text, isTypeChar c = true) : ∀ c ∈ titled asks front text, isTypeChar c = true := by
  induction text generalizing front with
  | nil => exact fun c hc => absurd hc List.not_mem_nil
  | cons c text ih =>
    obtain ⟨hc, htext⟩ := List.forall_mem_cons.1 h
    exact List.forall_mem_cons.2 ⟨(shownAs_facts hc _).1, ih htext⟩

/-- In a text with its separators at the same places no other letters become capitals. -/
theorem titled_titled {front shown text : List Char} (h : ∀ c ∈ text, isTypeChar c = true)
    (halike : Alike shown front) :
    titled isTaken shown (titled isTaken front text) = titled isTaken front text := by
  induction text generalizing front shown with
  | nil => rfl
  | cons c text ih =>
    obtain ⟨hc, htext⟩ := List.forall_mem_cons.1 h
    obtain ⟨-, hseparator, hagain⟩ := shownAs_facts hc (isTaken front)
    have hnext : Alike (shown ++ [shownAs (isTaken front) c]) (front ++ [c]) := by
      rw [Alike, List.map_append, List.map_append, halike, List.map_singleton, List.map_singleton,
        hseparator]
    rw [titled, titled, halike.isTaken_eq, hagain, ih htext hnext]

theorem blockName_blockName {type : String} (h : ∀ c ∈ type.toList, isTypeChar c = true) :
    blockName (blockName type) = blockName type := by
  have hname : ∀ c ∈ (blockName type).toList, isTypeChar c = true := by
    rw [blockName_titled h]
    exact isTypeChar_of_mem_titled h
  rw [← String.toList_inj, blockName_titled hname, blockName_titled h, titled_titled h rfl]

/-! ## Names with capitals in all words -/

/-- What is behind a text is taken where a word begins, unless an even number of separators ends it. -/
theorem isTaken_eq_beginsWord_iff {front : List Char} :
    isTaken front = beginsWord front ↔ (endGap front ≠ [] → (endGap front).length % 2 = 1) := by
  have htaken : isTaken front = true ↔ front = [] ∨ (endGap front).length % 2 = 1 := by
    rw [isTaken, endsOdd, Bool.or_eq_true, List.isEmpty_iff, decide_eq_true_eq]
  have hodd (h : (endGap front).length % 2 = 1) : endGap front ≠ [] := by
    intro hnil
    rw [hnil] at h
    cases h
  have hnil (h : front = []) : endGap front = [] := by
    rw [h]
    rfl
  rw [Bool.eq_iff_iff, htaken, beginsWord_iff]
  tauto

/-- In the name of a type of ASCII letters, digits, blanks and dashes all words begin with capitals just
when no small letter has an even number of separators, other than none, directly in front of it.  Whatever
the type is, the letters that are taken are capitals, and the name is the name of itself. -/
theorem blockName_capitals_iff {type : String} (h : ∀ c ∈ type.toList, isTypeChar c = true) :
    (blockName type).toList = titled isTaken [] type.toList ∧
      ((blockName type).toList = titled beginsWord [] type.toList ↔
        ∀ front c after, type.toList = front ++ c :: after → isSmallLetter c = true →
          endGap front ≠ [] → (endGap front).length % 2 = 1) ∧
      blockName (blockName type) = blockName type := by
  refine ⟨blockName_titled h, ?_, blockName_blockName h⟩
  rw [blockName_titled h, titled_eq_iff]
  simp only [List.nil_append, isTaken_eq_beginsWord_iff]

/-- Of three dashes the first takes the second, and the third takes the letter. -/
theorem blockName_capitals_row :
    (∀ c ∈ "hero---banner 2".toList, isTypeChar c = true) ∧
      (blockName "hero---banner 2").toList = "Hero   Banner 2".toList ∧
      ∀ front c after, "hero---banner 2".toList = front ++ c :: after → isSmallLetter c = true →
        endGap front ≠ [] → (endGap front).length % 2 = 1 := by
  have hplain : ∀ c ∈ "hero---banner 2".toList, isTypeChar c = true :=
    List.all_eq_true.1 (by decide)
  have hname : (blockName "hero---banner 2").toList = "Hero   Banner 2".toList := by
    decide +kernel
  have hwords : "Hero   Banner 2".toList = titled beginsWord [] "hero---banner 2".toList := by
    decide +kernel
  exact ⟨hplain, hname, (blockName_capitals_iff hplain).2.1.1 (hname.trans hwords)⟩

/-- Of two dashes the first takes the second, and the letter is left as it is. -/
theorem blockName_misses_word :
    ¬ ∀ type : String, (∀ c ∈ type.toList, isTypeChar c = true) →
      (blockName type).toList = titled beginsWord [] type.toList := by
  intro h
  exact absurd (h "a--b" (List.all_eq_true.1 (by decide))) (by decide +kernel)

end PageBlocks
