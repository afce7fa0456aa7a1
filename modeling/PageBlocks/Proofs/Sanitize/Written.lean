import PageBlocks.Proofs.Html.SafeMarkup
import PageBlocks.Proofs.Html.Spelling
import PageBlocks.Proofs.Sanitize.Address
import PageBlocks.Proofs.Sanitize.Pruned
/-!
# What is left of markup is safe markup

Markup that was cleaned is written, and read again as a page.  Before it is read, characters that
no page should hold are dropped; none of them are in names, and from values and text they are
dropped as if they had never been there.  The value of an attribute is read back as it was, since
special characters are spelled by references.

## Main results

* `exists_quote` — a value is written between quotation marks and read back.
* `safeAttribute_writeAttribute` — an attribute that is left is harmless once it is read.
* `safeMarkup_cleanMarkup` — what is left of a fragment is safe markup.
* `safeMarkup_sanitize` — what markup is sanitized to is safe markup.
-/

namespace PageBlocks.Sanitize

open Html

/-! ## Characters that are dropped -/

/-- Text without the characters that no page should hold. -/
def withoutControls (text : List Char) : List Char :=
  text.filter fun c => !isForbiddenControl c

theorem withoutControls_append (first second : List Char) :
    withoutControls (first ++ second) = withoutControls first ++ withoutControls second :=
  List.filter_append _ _

theorem withoutControls_cons {c : Char} (h : isForbiddenControl c = false) (text : List Char) :
    withoutControls (c :: text) = c :: withoutControls text :=
  List.filter_cons_of_pos (by simp [h])

theorem withoutControls_of_none {text : List Char} (h : ∀ c ∈ text, isForbiddenControl c = false) :
    withoutControls text = text :=
  List.filter_eq_self.2 fun c hc => by simp [h c hc]

theorem cleanMarkup_of_noReturns {text : List Char} (h : '\r' ∉ text) :
    cleanMarkup text = withoutControls text := by
  have hreturns : '\r' ∉ text.filter fun c => c.toNat ≠ 0 := fun hmem =>
    h (List.mem_filter.1 hmem).1
  unfold cleanMarkup withoutControls
  rw [Text.unifyLineBreaks_of_noReturn hreturns, List.filter_filter]
  refine List.filter_congr fun c _ => ?_
  by_cases hzero : c.toNat = 0
  · obtain rfl : c = Char.ofNat 0 := by rw [← hzero, Char.ofNat_toNat]
    decide
  · simp [hzero]

/-! ## Spelled text -/

theorem isSpelling_escapeChar (c : Char) : IsSpelling c (escapeChar c) := by
  unfold escapeChar
  split
  · next h => exact h ▸ .ampersand
  · next hampersand =>
    split
    · next h => exact h ▸ .less
    · split
      · next h => exact h ▸ .greater
      · split
        · next h => exact h ▸ .lineBreak
        · exact .plain hampersand

/-- A character that is spelled between double quotation marks. -/
def escapeQuoted (c : Char) : List Char :=
  if c = '"' then "&quot;".toList else escapeChar c

theorem isSpelling_escapeQuoted (c : Char) : IsSpelling c (escapeQuoted c) := by
  unfold escapeQuoted
  split
  · next h => exact h ▸ .quote
  · exact isSpelling_escapeChar c

theorem quote_notMem_escapeChar {c : Char} (h : c ≠ '"') : '"' ∉ escapeChar c := by
  unfold escapeChar
  repeat' split
  · decide
  · decide
  · decide
  · decide
  · simpa using Ne.symm h

theorem escapeText_quoted (text : List Char) :
    (escapeText text).flatMap (fun c => if c = '"' then "&quot;".toList else [c]) =
      text.flatMap escapeQuoted := by
  have hself : ∀ text : List Char, '"' ∉ text →
      text.flatMap (fun c => if c = '"' then "&quot;".toList else [c]) = text := by
    intro text htext
    induction text with
    | nil => rfl
    | cons c rest ih =>
      rw [List.mem_cons, not_or] at htext
      rw [List.flatMap_cons, if_neg (Ne.symm htext.1), ih htext.2]
      rfl
  rw [escapeText, List.flatMap_assoc]
  congr 1
  funext c
  unfold escapeQuoted
  by_cases hc : c = '"'
  · subst hc
    rfl
  · rw [if_neg hc, hself _ (quote_notMem_escapeChar hc)]

/-- What a character is spelled with is dropped with the character. -/
theorem withoutControls_spelling {c : Char} {spelling : List Char} (h : IsSpelling c spelling) :
    withoutControls spelling = if isForbiddenControl c then [] else spelling := by
  cases h with
  | plain => cases hc : isForbiddenControl c <;> simp [withoutControls, hc]
  | ampersand | less | greater | quote | lineBreak => decide

/-- Characters are dropped from spelled text as if they had never been there. -/
theorem withoutControls_flatMap {spell : Char → List Char} (h : ∀ c, IsSpelling c (spell c))
    (text : List Char) :
    withoutControls (text.flatMap spell) = (withoutControls text).flatMap spell := by
  induction text with
  | nil => rfl
  | cons c rest ih =>
    rw [List.flatMap_cons, withoutControls_append, withoutControls_spelling (h c), ih]
    cases hc : isForbiddenControl c <;> simp [withoutControls, hc]

/-- Characters that are always spelled by references do not stand in spelled text. -/
theorem notMem_flatMap {spell : Char → List Char} {c : Char} (h : ∀ d, c ∉ spell d)
    (text : List Char) : c ∉ text.flatMap spell := by
  intro hmem
  obtain ⟨d, -, hd⟩ := List.mem_flatMap.1 hmem
  exact h d hd

theorem notMem_escapeChar (d : Char) : '<' ∉ escapeChar d ∧ '\r' ∉ escapeChar d := by
  unfold escapeChar
  repeat' split
  · decide
  · decide
  · decide
  · decide
  · simp_all [eq_comm]

theorem notMem_escapeQuoted (d : Char) :
    '<' ∉ escapeQuoted d ∧ '\r' ∉ escapeQuoted d ∧ '"' ∉ escapeQuoted d := by
  unfold escapeQuoted
  split
  · decide
  · next hd => exact ⟨(notMem_escapeChar d).1, (notMem_escapeChar d).2, quote_notMem_escapeChar hd⟩

/-! ## Values -/

/-- A value that is spelled without its quotation mark is read back. -/
theorem exists_quotedBy {mark : Char} (hmark : mark = '"' ∨ mark = Char.ofNat 0x27)
    {spell : Char → List Char} (hspell : ∀ c, IsSpelling c (spell c)) (hbracket : ∀ c, '<' ∉ spell c)
    {value : List Char} (hclosed : mark ∉ value.flatMap spell) :
    ∃ kept content, isQuotationMark kept = true ∧
      withoutControls (mark :: value.flatMap spell ++ [mark]) = kept :: (content ++ [kept]) ∧
      kept ∉ content ∧ '<' ∉ content ∧ decode true content = withoutControls value := by
  have hshown : isForbiddenControl mark = false := by
    rcases hmark with rfl | rfl <;> decide
  have hend : withoutControls [mark] = [mark] := withoutControls_cons hshown []
  refine ⟨mark, (withoutControls value).flatMap spell, ?_, ?_, ?_, notMem_flatMap hbracket _,
    decode_flatMap hspell true _⟩
  · rcases hmark with rfl | rfl <;> decide
  · rw [List.cons_append, withoutControls_cons hshown, withoutControls_append, hend,
      withoutControls_flatMap hspell]
  · rw [← withoutControls_flatMap hspell]
    exact fun hmem => hclosed (List.mem_filter.1 hmem).1

/-- A value is written between quotation marks that it does not hold, and is read back. -/
theorem exists_quote (value : List Char) :
    ∃ mark content, isQuotationMark mark = true ∧
      withoutControls (quote (escapeText value)) = mark :: (content ++ [mark]) ∧
      mark ∉ content ∧ '<' ∉ content ∧ decode true content = withoutControls value := by
  have hbracket : ∀ c, '<' ∉ escapeChar c := fun c => (notMem_escapeChar c).1
  unfold quote
  split
  · split
    · rw [escapeText_quoted]
      exact exists_quotedBy (.inl rfl) isSpelling_escapeQuoted (fun c => (notMem_escapeQuoted c).1)
        (notMem_flatMap (fun c => (notMem_escapeQuoted c).2.2) _)
    · next hsingle =>
      exact exists_quotedBy (.inr rfl) isSpelling_escapeChar hbracket
        fun hmem => hsingle (List.any_eq_true.2 ⟨_, hmem, by decide⟩)
  · next hdouble =>
    exact exists_quotedBy (.inl rfl) isSpelling_escapeChar hbracket
      fun hmem => hdouble (List.contains_iff_mem.2 hmem)

/-- The value of an attribute as it stands between its quotation marks, apart from references. -/
def writtenValue (element name : String) (value : List Char) : List Char :=
  if isWrittenAsAddress element name then Url.escape isAddressChar (value.dropWhile isAddressBlank)
  else value

theorem writeValue_eq (element name : String) (value : List Char) :
    writeValue element name value = quote (escapeText (writtenValue element name value)) := rfl

/-- Characters that are dropped do not count when a scheme is looked for. -/
theorem runsScript_withoutControls (address : List Char) :
    runsScript (withoutControls address) = runsScript address := by
  have hskipped : ∀ c, isForbiddenControl c = true → isSkipped c = true := by
    intro c hc
    simp only [isForbiddenControl, isSkipped, isControl, Bool.or_eq_true, Bool.and_eq_true,
      decide_eq_true_eq] at hc ⊢
    exact .inr (.inl hc.1.1.1)
  unfold runsScript withoutControls
  rw [List.filter_filter]
  congr 2
  refine List.filter_congr fun c _ => ?_
  cases hforbidden : isForbiddenControl c with
  | false => simp
  | true => simp [hskipped c hforbidden]

/-- A value that is left is harmless once it is written and read again. -/
theorem harmlessAttribute_written {name value cleaned : String} (hhandler : isHandler name = false)
    (hclean : cleanValue? name value = some cleaned)
    (hcontrols : name = "formaction" → ∀ c ∈ value.toList, isControl c = true →
      hidesScheme c = true) (element : String) :
    HarmlessAttribute name
      (String.ofList (withoutControls (writtenValue element name cleaned.toList))) := by
  refine ⟨hhandler, fun hlink => ?_⟩
  rw [String.toList_ofList, writtenValue]
  have haddresses : ∀ link ∈ linkNames, addressNames.contains link = true := by decide
  rw [cleanValue?, if_pos (haddresses name hlink), Option.some.injEq] at hclean
  rw [← hclean, String.toList_ofList]
  by_cases hform : name = "formaction"
  · subst hform
    have hplain : isWrittenAsAddress element "formaction" = false := by simp [isWrittenAsAddress]
    rw [hplain, if_neg Bool.false_ne_true, runsScript_withoutControls]
    exact runsScript_cleanAddress (hcontrols rfl)
  · have hescaped : isWrittenAsAddress element name = true := by
      simp only [linkNames, List.mem_cons, List.not_mem_nil, or_false] at hlink
      rcases hlink with rfl | rfl | rfl | rfl
      · simp [isWrittenAsAddress]
      · simp [isWrittenAsAddress]
      · simp [isWrittenAsAddress]
      · exact absurd rfl hform
    rw [hescaped, if_pos rfl, runsScript_withoutControls]
    exact runsScript_escape_cleanAddress _

/-! ## Attributes -/

theorem isAttributeName_of_legible {name : String} (hread : IsReadName name)
    (hhead : name.toList.head? ≠ some '=') : IsAttributeName name.toList := by
  obtain ⟨c, rest, heq, hc, hrest⟩ := hread.shape
  rw [heq] at hhead ⊢
  refine ⟨List.cons_ne_nil _ _, List.forall_mem_cons.2 ⟨hc.resolve_left ?_, hrest⟩⟩
  rintro rfl
  exact hhead rfl

/-- An attribute that is left is harmless once it is written and read again. -/
theorem safeAttribute_writeAttribute {old entry : String × Option String}
    (hread : IsReadName old.1) (hlegible : isLegible old = true)
    (hclean : cleanAttribute? old = some entry) (element : String) :
    SafeAttribute (withoutControls (writeAttribute element entry)) := by
  obtain ⟨name, value⟩ := old
  simp only [isLegible, Bool.and_eq_true, Bool.or_eq_true, Bool.not_eq_true', decide_eq_true_eq,
    List.any_eq_false, Bool.not_eq_true] at hlegible
  obtain ⟨⟨hhead, hshown⟩, hcontrols⟩ := hlegible
  have hname := isAttributeName_of_legible hread hhead
  have hlower : nameOf name.toList = name := hread.lower
  have hfront : withoutControls (' ' :: name.toList) = ' ' :: name.toList :=
    withoutControls_of_none (List.forall_mem_cons.2 ⟨by decide, hshown⟩)
  unfold cleanAttribute? at hclean
  split at hclean
  · cases hclean
  · next hhandler =>
    have hevents : isHandler name = false := by simpa using hhandler
    have hflag : SafeAttribute (withoutControls (' ' :: name.toList)) := by
      rw [hfront]
      exact .flag hname ⟨by rwa [hlower], fun _ => runsScript_nil⟩
    cases value with
    | none =>
      cases hclean
      simpa [writeAttribute] using hflag
    | some value =>
      obtain ⟨cleaned, hcleaned, rfl⟩ := Option.map_eq_some_iff.1 hclean
      unfold writeAttribute
      dsimp only
      split
      · simpa using hflag
      · obtain ⟨mark, content, hmark, hquote, hclosed, hbracket, hdecode⟩ := exists_quote
          (writtenValue element name cleaned.toList)
        rw [withoutControls_append, hfront, withoutControls_cons (by decide), writeValue_eq, hquote]
        refine .valued hname hmark hclosed hbracket ?_
        rw [hlower, hdecode]
        refine harmlessAttribute_written hevents hcleaned (fun hform c hc hcontrol => ?_) element
        have hall := List.all_eq_true.1 (hcontrols.resolve_left (not_not_intro hform)) c hc
        simpa [hcontrol] using hall

/-! ## Carriage returns -/

theorem return_notMem_between {mark : Char} (hmark : mark ≠ '\r') {text : List Char}
    (h : '\r' ∉ text) : '\r' ∉ mark :: text ++ [mark] := by
  simp [hmark.symm, h]

theorem return_notMem_quote {text : List Char} (h : '\r' ∉ text) : '\r' ∉ quote text := by
  unfold quote
  split
  · split
    · refine return_notMem_between (by decide) fun hmem => ?_
      obtain ⟨c, hc, hspelling⟩ := List.mem_flatMap.1 hmem
      split at hspelling
      · exact absurd hspelling (by decide)
      · rw [List.mem_singleton.1 hspelling] at h
        exact h hc
    · exact return_notMem_between (by decide) h
  · exact return_notMem_between (by decide) h

/-- The carriage returns of values are spelled by references, and names hold none. -/
theorem return_notMem_writeAttribute {entry : String × Option String} (hread : IsReadName entry.1)
    (element : String) : '\r' ∉ writeAttribute element entry := by
  have hname : '\r' ∉ entry.1.toList := by
    obtain ⟨c, rest, heq, hc, hrest⟩ := hread.shape
    rw [heq, List.mem_cons, not_or]
    refine ⟨?_, fun hmem => absurd (hrest _ hmem) (by decide)⟩
    rintro rfl
    exact absurd hc (by decide)
  have hvalue : ∀ value, '\r' ∉ writeValue element entry.1 value := fun value =>
    return_notMem_quote (notMem_flatMap (fun c => (notMem_escapeChar c).2) _)
  unfold writeAttribute
  split
  · simpa using hname
  · split
    · simpa using hname
    · simp [hname, hvalue]

/-! ## Fragments -/

/-- The attributes that are left have names as they are read. -/
theorem readEntries_cleanAttributes {old : WrittenAttributes} (h : ReadEntries old) :
    ReadEntries (cleanAttributes old) := by
  intro entry hentry
  obtain ⟨before, hbefore, hclean⟩ := List.mem_filterMap.1 hentry
  have hsame : entry.1 = before.1 := by
    unfold cleanAttribute? at hclean
    split at hclean
    · cases hclean
    · split at hclean
      · cases hclean
        rfl
      · obtain ⟨value, -, rfl⟩ := Option.map_eq_some_iff.1 hclean
        rfl
  rw [hsame]
  exact h before hbefore

/-- An element that is left is known, and no script. -/
theorem IsKept.name {policy : Policy} {name : String} {attributes : WrittenAttributes}
    (h : IsKept policy name attributes) :
    IsTagName name.toList ∧ nameOf name.toList ≠ "script" ∧
      ∀ c ∈ name.toList, isForbiddenControl c = false ∧ c ≠ '\r' := by
  have hknown : ∀ known ∈ knownNames, known.toList.head?.any Html.isLetter = true ∧
      nameOf known.toList = known ∧ (known.toList.all fun c =>
        isTagNameChar c && !isForbiddenControl c && c != '\r') = true := by decide +kernel
  have hmem : name ∈ knownNames := by
    have hwrapped := h.wrapped
    simp only [Policy.unwraps, Bool.or_eq_false_iff, Bool.not_eq_false'] at hwrapped
    exact List.contains_iff_mem.1 hwrapped.1.1
  obtain ⟨hletter, hlower, hall⟩ := hknown name hmem
  have hchars : ∀ c ∈ name.toList, isTagNameChar c = true ∧ isForbiddenControl c = false ∧
      c ≠ '\r' := fun c hc => by simpa [and_assoc] using List.all_eq_true.1 hall c hc
  refine ⟨⟨hletter, fun c hc => (hchars c hc).1⟩, ?_, fun c hc => (hchars c hc).2⟩
  rw [hlower]
  rintro rfl
  have hstays := h.stays
  simp [Policy.kills, killedNames] at hstays

theorem return_notMem_markup {policy : Policy} {fragment : Fragment}
    (h : fragment.Every (IsKept policy)) : '\r' ∉ markup fragment := by
  induction fragment with
  | nil => simp [markup]
  | text content next ih =>
    rw [markup, List.mem_append, not_or]
    exact ⟨notMem_flatMap (fun c => (notMem_escapeChar c).2) _, ih h⟩
  | remark next ih => exact ih h
  | element name attributes children next ihc ihn =>
    obtain ⟨hkept, hchildren, hnext⟩ := h
    have hname : '\r' ∉ name.toList := fun hmem => (hkept.name.2.2 _ hmem).2 rfl
    obtain ⟨old, hread, -, rfl⟩ := hkept.cleaned
    have hattributes : '\r' ∉ (cleanAttributes old).flatMap (writeAttribute name) := by
      intro hmem
      obtain ⟨entry, hentry, hwritten⟩ := List.mem_flatMap.1 hmem
      exact return_notMem_writeAttribute (readEntries_cleanAttributes hread entry hentry) name
        hwritten
    rw [markup]
    split
    · simp [hname, hattributes, ihn hnext]
    · simp [hname, hattributes, ihc hchildren, ihn hnext]

/-- The attributes of an element that is left are safe, each by itself. -/
theorem IsKept.safeAttributes {policy : Policy} {name : String} {attributes : WrittenAttributes}
    (h : IsKept policy name attributes) :
    ∀ spelling ∈ attributes.map fun entry => withoutControls (writeAttribute name entry),
      SafeAttribute spelling := by
  obtain ⟨old, hread, hlegible, rfl⟩ := h.cleaned
  intro spelling hspelling
  obtain ⟨entry, hentry, rfl⟩ := List.mem_map.1 hspelling
  obtain ⟨before, hbefore, hclean⟩ := List.mem_filterMap.1 hentry
  exact safeAttribute_writeAttribute (hread before hbefore)
    (List.all_eq_true.1 hlegible before hbefore) hclean name

theorem IsKept.withoutControls_name {policy : Policy} {name : String}
    {attributes : WrittenAttributes} (h : IsKept policy name attributes) :
    withoutControls name.toList = name.toList :=
  withoutControls_of_none fun c hc => (h.name.2.2 c hc).1

theorem IsKept.safeMarkup_startTag {policy : Policy} {name : String}
    {attributes : WrittenAttributes} (h : IsKept policy name attributes) :
    SafeMarkup (withoutControls
      ('<' :: name.toList ++ attributes.flatMap (writeAttribute name) ++ ['>'])) := by
  obtain ⟨htag, hscript, -⟩ := h.name
  have hattributes : withoutControls (attributes.flatMap (writeAttribute name)) =
      (attributes.map fun entry => withoutControls (writeAttribute name entry)).flatten := by
    unfold withoutControls
    rw [List.filter_flatMap, List.flatMap_def]
  have hend : withoutControls ['>'] = ['>'] := by decide
  rw [List.append_assoc, List.cons_append, withoutControls_cons (by decide), withoutControls_append,
    withoutControls_append, h.withoutControls_name, hattributes, hend]
  exact .start htag hscript h.safeAttributes .nil

theorem IsKept.safeMarkup_endTag {policy : Policy} {name : String}
    {attributes : WrittenAttributes} (h : IsKept policy name attributes) :
    SafeMarkup (withoutControls ('<' :: '/' :: name.toList ++ ['>'])) := by
  have hend : withoutControls ['>'] = ['>'] := by decide
  rw [List.cons_append, List.cons_append, withoutControls_cons (by decide),
    withoutControls_cons (by decide), withoutControls_append, h.withoutControls_name, hend]
  exact .finish h.name.1 .nil

/-- What is left of a fragment is safe markup when it is written. -/
theorem safeMarkup_markup {policy : Policy} {fragment : Fragment}
    (h : fragment.Every (IsKept policy)) : SafeMarkup (withoutControls (markup fragment)) := by
  induction fragment with
  | nil => exact .nil
  | text content next ih =>
    rw [markup, withoutControls_append]
    refine (SafeMarkup.of_noBrackets fun hmem => ?_).append (ih h)
    exact notMem_flatMap (fun c => (notMem_escapeChar c).1) _ (List.mem_filter.1 hmem).1
  | remark next ih => exact ih h
  | element name attributes children next ihc ihn =>
    obtain ⟨hkept, hchildren, hnext⟩ := h
    have hinside : SafeMarkup (withoutControls (if Html.Lenient.voidNames.contains name then []
        else markup children ++ '<' :: '/' :: name.toList ++ ['>'])) := by
      split
      · exact .nil
      · rw [List.append_assoc, withoutControls_append]
        exact (ihc hchildren).append hkept.safeMarkup_endTag
    rw [markup, withoutControls_append, withoutControls_append]
    exact (hkept.safeMarkup_startTag.append hinside).append (ihn hnext)

/-- Markup that was cleaned is safe markup when it is written and read as a page. -/
theorem safeMarkup_cleanMarkup {policy : Policy} {fragment : Fragment}
    (h : fragment.Every (IsKept policy)) : SafeMarkup (cleanMarkup (markup fragment)) := by
  rw [cleanMarkup_of_noReturns (return_notMem_markup h)]
  exact safeMarkup_markup h

/-- What markup is sanitized to: nothing, or what is left of the content of its body. -/
theorem eq_of_sanitize {policy : Policy} {text written : List Char}
    (h : sanitize policy text = .ok written) :
    written = [] ∨
      ∃ body, bodyOf? (readPage text) = .ok body ∧ written = markup (prune policy body) := by
  unfold sanitize at h
  split at h
  · exact .inl (Except.ok.inj h).symm
  · refine .inr ?_
    dsimp only at h
    rw [← readPage] at h
    cases hbody : bodyOf? (readPage text) with
    | error failure =>
      rw [hbody] at h
      cases h
    | ok body =>
      simp only [hbody, bind, Except.bind] at h
      split at h
      · cases h
      · split at h
        · cases h
        · split at h
          · cases h
          · exact ⟨body, rfl, (Except.ok.inj h).symm⟩

/-- What markup is sanitized to is safe markup, as long as all attributes are legible. -/
theorem safeMarkup_sanitize {policy : Policy} {text written : List Char}
    (hlegible : Legible (readPage text)) (h : sanitize policy text = .ok written) :
    SafeMarkup (cleanMarkup written) := by
  have hread : (readPage text).Every fun _ attributes => ReadEntries attributes :=
    Fragment.every_ofEvents (Html.Lenient.events_named _)
  rcases eq_of_sanitize h with rfl | ⟨body, hbody, rfl⟩
  · exact .nil
  · have hkept := every_prune policy (every_bodyOf? (hread.and hlegible.every) hbody)
    exact safeMarkup_cleanMarkup hkept

end PageBlocks.Sanitize
