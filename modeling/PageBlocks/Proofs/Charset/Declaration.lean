import PageBlocks.Proofs.Charset.Lead
import PageBlocks.Proofs.Text.Blank
import PageBlocks.Text.Utf8
/-!
# Where the name of a character set is read

A declaration is a lead and the name behind it, which goes on as far as it can.  Attributes are preferred
to content types; of several declarations of one form the first counts, and of those that begin at one
place that with the longest lead.

Only the start of a page is searched, and the name is what that start has of it.  So it is read whole just
when it ends there, and cut off otherwise.

## Main results

* `Declaration.Counts.eq` — just one declaration in a text counts.
* `writtenName?_eq_some_iff` — the name that is read is that of the declaration that counts.
* `declared_whole_iff` — when the name is read whole.
-/

namespace PageBlocks.Charset

open PageBlocks.Text

variable {read? : List Char → Option (List Char)}

/-! ## The declaration that counts -/

theorem firstIn?_eq_none {text : List Char} (h : firstIn? read? text = none) {before rest : List Char}
    (hsplit : text = before ++ rest) : read? rest = none := by
  induction text generalizing before with
  | nil =>
    obtain ⟨rfl, rfl⟩ := List.append_eq_nil_iff.1 hsplit.symm
    exact h
  | cons c text ih =>
    rw [firstIn?, Option.or_eq_none_iff] at h
    cases before with
    | nil =>
      rw [List.nil_append] at hsplit
      exact hsplit ▸ h.1
    | cons b before => exact ih h.2 (List.cons.inj hsplit).2

theorem firstIn?_eq_some {text name : List Char} (h : firstIn? read? text = some name) :
    ∃ before rest, text = before ++ rest ∧ read? rest = some name ∧
      ∀ before' rest', text = before' ++ rest' → before'.length < before.length →
        read? rest' = none := by
  induction text with
  | nil => exact ⟨[], [], rfl, h, fun _ _ _ hshorter => absurd hshorter (Nat.not_lt_zero _)⟩
  | cons c text ih =>
    rw [firstIn?] at h
    cases hhere : read? (c :: text) with
    | some found =>
      rw [hhere, Option.some_or] at h
      cases h
      exact ⟨[], c :: text, rfl, hhere, fun _ _ _ hshorter => absurd hshorter (Nat.not_lt_zero _)⟩
    | none =>
      rw [hhere, Option.none_or] at h
      obtain ⟨before, rest, rfl, hread, hfirst⟩ := ih h
      refine ⟨c :: before, rest, rfl, hread, fun before' rest' hsplit hshorter => ?_⟩
      cases before' with
      | nil =>
        rw [List.nil_append] at hsplit
        rw [← hsplit, hhere]
      | cons b before' =>
        exact hfirst before' rest' (List.cons.inj hsplit).2 (Nat.lt_of_succ_lt_succ hshorter)

/-- A declaration in a text. -/
@[ext]
structure Declaration where
  form : Form
  before : List Char
  lead : List Char
  name : List Char
  after : List Char
  lead_mem : lead ∈ form.lead
  token : IsToken name after

namespace Declaration

/-- The text with a declaration. -/
def text (declaration : Declaration) : List Char :=
  declaration.before ++ (declaration.lead ++ (declaration.name ++ declaration.after))

/-- How many characters are in front of the name. -/
def place (declaration : Declaration) : Nat :=
  (declaration.before ++ declaration.lead).length

/-- Of all that are in the text this is the declaration that counts: one of the preferred form, the
first of them, and of those that begin there the one with the longest lead. -/
structure Counts (declaration : Declaration) : Prop where
  preferred : ∀ other : Declaration, other.text = declaration.text → other.form = .own →
    declaration.form = .own
  first : ∀ other : Declaration, other.text = declaration.text → other.form = declaration.form →
    declaration.before.length ≤ other.before.length
  longest : ∀ other : Declaration, other.text = declaration.text → other.form = declaration.form →
    other.before.length = declaration.before.length → other.lead.length ≤ declaration.lead.length

variable {declaration other : Declaration}

theorem Counts.form_eq (h : declaration.Counts) (hother : other.Counts)
    (htext : declaration.text = other.text) : declaration.form = other.form := by
  cases hform : declaration.form with
  | own => exact (hother.preferred declaration htext hform).symm
  | contentType =>
    cases hform' : other.form with
    | own => exact absurd (h.preferred other htext.symm hform') (by rw [hform]; decide)
    | contentType => rfl

/-- Just one declaration in a text counts. -/
theorem Counts.eq (h : declaration.Counts) (hother : other.Counts)
    (htext : declaration.text = other.text) : declaration = other := by
  have hform := h.form_eq hother htext
  have hlength : declaration.before.length = other.before.length :=
    Nat.le_antisymm (h.first other htext.symm hform.symm) (hother.first declaration htext hform)
  have hlead : declaration.lead.length = other.lead.length :=
    Nat.le_antisymm (hother.longest declaration htext hform hlength)
      (h.longest other htext.symm hform.symm hlength.symm)
  obtain ⟨hbefore, hrest⟩ := List.append_inj htext hlength
  obtain ⟨hlead, hrest⟩ := List.append_inj hrest hlead
  have hname : declaration.name = other.name := by
    rw [← declaration.token.takeWhile, hrest, other.token.takeWhile]
  rw [hname] at hrest
  exact Declaration.ext hform hbefore hlead hname (List.append_cancel_left hrest)

end Declaration

theorem not_declared (form : Form) {text : List Char} (h : firstIn? form.written? text = none)
    (declaration : Declaration) (hform : declaration.form = form) : declaration.text ≠ text := by
  rintro rfl
  refine (finds_written? form).complete ⟨?_, declaration.token, rfl⟩ (firstIn?_eq_none h rfl)
  rw [← hform]
  exact declaration.lead_mem

/-- What is found first in a form is the name of its first declaration. -/
theorem exists_first {form : Form} {text name : List Char}
    (h : firstIn? form.written? text = some name) :
    ∃ declaration : Declaration, declaration.form = form ∧ declaration.text = text ∧
      declaration.name = name ∧ ∀ other : Declaration, other.text = text → other.form = form →
        declaration.before.length ≤ other.before.length ∧
          (other.before.length = declaration.before.length →
            other.lead.length ≤ declaration.lead.length) := by
  obtain ⟨before, rest, rfl, hread, hfirst⟩ := firstIn?_eq_some h
  obtain ⟨lead, after, hstands, hlongest⟩ := (finds_written? form).sound hread
  refine ⟨⟨form, before, lead, name, after, hstands.mem, hstands.token⟩, rfl, ?_, rfl,
    fun other hother hform => ?_⟩
  · exact congrArg (before ++ ·) hstands.split.symm
  · have hstands' : Stands form.lead (other.lead ++ (other.name ++ other.after)) other.lead other.name
        other.after := ⟨hform ▸ other.lead_mem, other.token, rfl⟩
    constructor
    · by_contra hearlier
      exact (finds_written? form).complete hstands' (hfirst _ _ hother.symm (Nat.lt_of_not_le hearlier))
    · intro hsame
      obtain ⟨-, hrest⟩ := List.append_inj hother hsame
      exact hlongest (hrest ▸ hstands')

theorem exists_counts {text name : List Char} (h : writtenName? text = some name) :
    ∃ declaration : Declaration, declaration.Counts ∧ declaration.text = text ∧
      declaration.name = name := by
  have hread : ((firstIn? (Form.written? .own) text).or
    (firstIn? (Form.written? .contentType) text)) = some name := h
  cases hown : firstIn? (Form.written? .own) text with
  | some found =>
    rw [hown, Option.some_or] at hread
    cases hread
    obtain ⟨declaration, hform, rfl, rfl, hbest⟩ := exists_first hown
    exact ⟨declaration, ⟨fun _ _ _ => hform,
      fun other htext hother => (hbest other htext (hother.trans hform)).1,
      fun other htext hother => (hbest other htext (hother.trans hform)).2⟩, rfl, rfl⟩
  | none =>
    rw [hown, Option.none_or] at hread
    obtain ⟨declaration, hform, rfl, rfl, hbest⟩ := exists_first hread
    exact ⟨declaration, ⟨fun other htext hother => absurd htext (not_declared .own hown other hother),
      fun other htext hother => (hbest other htext (hother.trans hform)).1,
      fun other htext hother => (hbest other htext (hother.trans hform)).2⟩, rfl, rfl⟩

theorem writtenName?_eq_none {text : List Char} (h : writtenName? text = none)
    (declaration : Declaration) : declaration.text ≠ text := by
  obtain ⟨hown, hcontent⟩ := Option.or_eq_none_iff.1 h
  cases hform : declaration.form with
  | own => exact not_declared .own hown declaration hform
  | contentType => exact not_declared .contentType hcontent declaration hform

/-- The name that is read in a text is that of the declaration in it that counts. -/
theorem writtenName?_eq_some_iff {text name : List Char} :
    writtenName? text = some name ↔
      ∃ declaration : Declaration, declaration.Counts ∧ declaration.text = text ∧
        declaration.name = name := by
  refine ⟨exists_counts, ?_⟩
  rintro ⟨declaration, hcounts, rfl, rfl⟩
  cases hread : writtenName? declaration.text with
  | none => exact absurd rfl (writtenName?_eq_none hread declaration)
  | some found =>
    obtain ⟨other, hother, htext, rfl⟩ := exists_counts hread
    rw [hother.eq hcounts htext]

/-! ## Pages -/

/-- The text that ASCII bytes write. -/
def asciiText (bytes : List UInt8) : List Char :=
  bytes.map fun byte => Char.ofNat byte.toNat

/-- What is searched of a page of ASCII. -/
def searchedText (page : List UInt8) : List Char :=
  asciiText (page.take searchedLength)

/-- All that there is of a name at a place in a text. -/
def tokenAt (text : List Char) (place : Nat) : List Char :=
  (text.drop place).takeWhile isNameChar

/-- The character set that a name stands for, in any letter case. -/
def knownAs (name : List Char) : String :=
  (largerSets.lookup (String.ofList (asciiLower name))).getD (String.ofList (asciiLower name))

theorem declared_eq {page : List UInt8} (ascii : ∀ byte ∈ page, byte < 0x80) :
    declared page =
      match writtenName? (searchedText page) with
      | none => standardName
      | some name => knownAs (trim name) := by
  have hall : (page.take searchedLength).filter (· < 0x80) = page.take searchedLength :=
    List.filter_eq_self.2 fun byte hbyte => decide_eq_true (ascii byte (List.mem_of_mem_take hbyte))
  rw [declared, hall]
  rfl

theorem asciiText_eq (page : List UInt8) :
    asciiText page = searchedText page ++ asciiText (page.drop searchedLength) := by
  rw [searchedText, asciiText, asciiText, asciiText, ← List.map_append, List.take_append_drop]

/-- There is more of a name if characters of a name follow. -/
theorem Declaration.tokenAt_place (declaration : Declaration) (behind : List Char) :
    tokenAt (declaration.text ++ behind) declaration.place =
      declaration.name ++ (declaration.after ++ behind).takeWhile isNameChar := by
  have hsplit : declaration.text ++ behind =
      (declaration.before ++ declaration.lead) ++
        (declaration.name ++ (declaration.after ++ behind)) := by
    rw [Declaration.text]
    simp only [List.append_assoc]
  rw [tokenAt, Declaration.place, hsplit, List.drop_left,
    List.takeWhile_append_of_pos declaration.token.within]

theorem takeWhile_isNameChar_eq_nil_iff {text : List Char} :
    text.takeWhile isNameChar = [] ↔ ∀ c ∈ text.head?, isNameChar c = false := by
  cases text with
  | nil => simp
  | cons c text => cases hc : isNameChar c <;> simp [hc]

/-- The name of a declaration where a page is searched is all that there is of it on the page just when it
ends there, or no character behind that goes on with it. -/
theorem Declaration.whole_iff {declaration : Declaration} {page : List UInt8}
    (h : declaration.text = searchedText page) :
    declaration.name = tokenAt (asciiText page) declaration.place ↔
      (declaration.after = [] →
        ∀ c ∈ (asciiText (page.drop searchedLength)).head?, isNameChar c = false) := by
  rw [asciiText_eq, ← h, declaration.tokenAt_place, List.self_eq_append_right,
    takeWhile_isNameChar_eq_nil_iff]
  cases hafter : declaration.after with
  | nil => simp
  | cons c after =>
    have hc := declaration.token.ends c (by rw [hafter]; rfl)
    simp [hc]

/-- A page of ASCII that declares no character set where it is searched is in the standard set.  Otherwise
it is in the set that the name in the declaration that counts there stands for; and this is all that there
is of the name on the page just when it ends where the page is searched, or no character behind that
goes on with it. -/
theorem declared_whole_iff {page : List UInt8} (ascii : ∀ byte ∈ page, byte < 0x80) :
    (declared page = standardName ∧ ∀ declaration : Declaration, declaration.text ≠ searchedText page) ∨
      ∃ declaration : Declaration, declaration.Counts ∧ declaration.text = searchedText page ∧
        declared page = knownAs declaration.name ∧
        (declaration.name = tokenAt (asciiText page) declaration.place ↔
          (declaration.after = [] →
            ∀ c ∈ (asciiText (page.drop searchedLength)).head?, isNameChar c = false)) := by
  have hdeclared := declared_eq ascii
  cases hread : writtenName? (searchedText page) with
  | none =>
    rw [hread] at hdeclared
    exact .inl ⟨hdeclared, writtenName?_eq_none hread⟩
  | some name =>
    rw [hread] at hdeclared
    obtain ⟨declaration, hcounts, htext, rfl⟩ := exists_counts hread
    have htrim : trim declaration.name = declaration.name :=
      trim_of_noBlank fun c hc => (isBlank_of_isNameChar (declaration.token.within c hc)).1
    exact .inr ⟨declaration, hcounts, htext, hdeclared.trans (congrArg knownAs htrim),
      Declaration.whole_iff htext⟩

/-- A page that tells its character set in a content type, behind the end of an apparent tag. -/
def latinPage : List UInt8 :=
  Utf8.encode "<meta content=\"a>b; charset=Latin1\"><p>".toList

/-- The name is read whole where the page ends before the search does. -/
theorem declared_whole_latin :
    (∀ byte ∈ latinPage, byte < 0x80) ∧ declared latinPage = "windows-1252" ∧
      ∃ declaration : Declaration, declaration.Counts ∧
        declaration.text = searchedText latinPage ∧ declared latinPage = knownAs declaration.name ∧
        declaration.name = tokenAt (asciiText latinPage) declaration.place := by
  have hascii : ∀ byte ∈ latinPage, byte < 0x80 := by decide +kernel
  have hset : declared latinPage = "windows-1252" := by decide +kernel
  have hend : latinPage.drop searchedLength = [] := by decide +kernel
  rcases declared_whole_iff hascii with ⟨hstandard, -⟩ | ⟨declaration, hcounts, htext, hname, hwhole⟩
  · rw [hset] at hstandard
    exact absurd hstandard (by decide)
  · refine ⟨hascii, hset, declaration, hcounts, htext, hname, hwhole.2 fun _ c hc => ?_⟩
    rw [hend] at hc
    cases hc

/-- A page with a declaration of which the last characters are not searched. -/
def paddedPage : List UInt8 :=
  List.replicate 2031 0x20 ++ Utf8.encode "<meta charset=utf-8>".toList

theorem searchedText_paddedPage :
    searchedText paddedPage = List.replicate 2031 ' ' ++ "<meta charset=utf".toList := by
  have htake : paddedPage.take searchedLength =
      List.replicate 2031 0x20 ++ (Utf8.encode "<meta charset=utf-8>".toList).take 17 := by
    rw [paddedPage, List.take_append, List.length_replicate, List.take_of_length_le]
    · rfl
    · rw [List.length_replicate]
      decide
  rw [searchedText, htake, asciiText, List.map_append, List.map_replicate]
  rfl

/-- Blanks in front of a text declare nothing. -/
theorem firstIn?_blanks (inner? : List Char → Option (List Char)) (count : Nat) (text : List Char) :
    firstIn? (readMeta? inner?) (List.replicate count ' ' ++ text) =
      firstIn? (readMeta? inner?) text := by
  induction count with
  | zero => rfl
  | succ count ih =>
    have hnone (rest : List Char) : readMeta? inner? (' ' :: rest) = none := rfl
    rw [List.replicate_succ, List.cons_append, firstIn?, hnone, Option.none_or, ih]

/-- Each lead begins with an angle bracket and has at least the two words and a character between them. -/
theorem Form.length_of_mem_lead {form : Form} {lead : List Char} (h : lead ∈ form.lead) :
    lead[0]? = some '<' ∧ 14 ≤ lead.length := by
  obtain ⟨tag, htag, rest, hrest, rfl⟩ := Language.mem_mul.1 h
  obtain ⟨gap, hgap, behind, hbehind, rfl⟩ := Language.mem_mul.1 hrest
  obtain ⟨more, -, opening, hopening, rfl⟩ := Language.mem_mul.1 hbehind
  have htagLength : tag.length = 5 := length_of_mem_spelled htag
  have hgapLength : gap.length = 1 := length_of_mem_oneOf hgap
  have hopeningLength : 8 ≤ opening.length := by
    cases form <;>
    · obtain ⟨word, hword, rest, -, rfl⟩ := Language.mem_mul.1 hopening
      have hlength : word.length = 8 := length_of_mem_spelled hword
      rw [List.length_append]
      omega
  constructor
  · rw [List.getElem?_append_left (by omega)]
    exact getElem?_of_mem_spelled htag (by decide) (by decide)
  · simp only [List.length_append]
    omega

/-- Where the search ends within a name, the name is cut off. -/
theorem declared_cuts_name :
    ¬ ∀ page : List UInt8, (∀ byte ∈ page, byte < 0x80) →
      ∀ declaration : Declaration, declaration.Counts → declaration.text = searchedText page →
        declaration.name = tokenAt (asciiText page) declaration.place := by
  intro h
  have hascii : ∀ byte ∈ paddedPage, byte < 0x80 := by
    rw [paddedPage, List.forall_mem_append]
    exact ⟨fun byte hbyte => List.eq_of_mem_replicate hbyte ▸ by decide, by decide +kernel⟩
  have hread : writtenName? (searchedText paddedPage) = some "utf".toList := by
    rw [searchedText_paddedPage, writtenName?, firstIn?_blanks, firstIn?_blanks]
    decide +kernel
  obtain ⟨declaration, hcounts, htext, hname⟩ := exists_counts hread
  obtain ⟨hbracket, hlead⟩ := Form.length_of_mem_lead declaration.lead_mem
  have hsplit := htext.trans searchedText_paddedPage
  -- the declaration begins behind the blanks, so that nothing is left behind its name
  have hbefore : 2031 ≤ declaration.before.length := by
    by_contra hshort
    have hget : declaration.text[declaration.before.length]? = some '<' := by
      rw [Declaration.text, List.getElem?_append_right (Nat.le_refl _), Nat.sub_self,
        List.getElem?_append_left (by omega), hbracket]
    rw [hsplit, List.getElem?_append_left (by rw [List.length_replicate]; omega),
      List.getElem?_replicate, if_pos (by omega)] at hget
    exact absurd hget (by decide)
  have hafter : declaration.after = [] := by
    have hlength := congrArg List.length hsplit
    rw [Declaration.text, hname] at hlength
    simp only [List.length_append, List.length_replicate] at hlength
    have hlast : "utf".toList.length = 3 ∧ "<meta charset=utf".toList.length = 17 := by decide
    exact List.eq_nil_of_length_eq_zero (by omega)
  have hwhole := (Declaration.whole_iff htext).1 (h paddedPage hascii declaration hcounts htext) hafter
  have hdash : (asciiText (paddedPage.drop searchedLength)).head? = some '-' := by
    rw [paddedPage, List.drop_append, List.length_replicate, List.drop_replicate]
    decide +kernel
  exact absurd (hwhole '-' hdash) (by decide)

end PageBlocks.Charset
