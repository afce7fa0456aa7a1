import PageBlocks.Proofs.Html.Harmless
/-!
# Markup with harmless tokens

Safe markup is text without opening brackets, start tags of harmless elements whose values stand
between quotation marks, and end tags.  Names of attributes may hold opening brackets and quotation
marks all the same, but no slashes; values hold no opening brackets.  Hence an end tag never starts
inside a start tag, and wherever tree construction takes an element's text to end, safe markup is
left.  Tokens of safe markup are harmless, whatever content is expected.

## Main results

* `SafeMarkup.append` — safe markup may be put together.
* `exists_readAttributes?` — the attributes of a start tag are read as they were meant.
* `SafeMarkup.settled` — after the name of an end tag, its closing bracket and safe markup follow.
* `SafeMarkup.readTokens` — the next tokens are harmless and leave safe markup.
-/

namespace PageBlocks.Html

/-- The name of a tag, which starts with a letter. -/
structure IsTagName (name : List Char) : Prop where
  letter : name.head?.any isLetter = true
  chars : ∀ c ∈ name, isTagNameChar c = true

/-- The name of an attribute, which does not start with an equals sign. -/
structure IsAttributeName (name : List Char) : Prop where
  ne_nil : name ≠ []
  chars : ∀ c ∈ name, isAttributeNameChar c = true

/-- An attribute as it is written, with a blank in front, that is harmless once it is read. -/
inductive SafeAttribute : List Char → Prop
  | flag {name : List Char} (hname : IsAttributeName name)
    (hsafe : HarmlessAttribute (nameOf name) "") : SafeAttribute (' ' :: name)
  | valued {name value : List Char} {mark : Char} (hname : IsAttributeName name)
    (hmark : isQuotationMark mark = true) (hclosed : mark ∉ value) (hbracket : '<' ∉ value)
    (hsafe : HarmlessAttribute (nameOf name) (String.ofList (decode true value))) :
    SafeAttribute (' ' :: name ++ '=' :: mark :: (value ++ [mark]))

/-- Markup of harmless elements. -/
inductive SafeMarkup : List Char → Prop
  | nil : SafeMarkup []
  | char {c : Char} {rest : List Char} (hc : c ≠ '<') (hrest : SafeMarkup rest) :
    SafeMarkup (c :: rest)
  | start {name : List Char} {attributes : List (List Char)} {rest : List Char}
    (hname : IsTagName name) (hscript : nameOf name ≠ "script")
    (hattributes : ∀ spelling ∈ attributes, SafeAttribute spelling) (hrest : SafeMarkup rest) :
    SafeMarkup ('<' :: (name ++ (attributes.flatten ++ '>' :: rest)))
  | finish {name rest : List Char} (hname : IsTagName name) (hrest : SafeMarkup rest) :
    SafeMarkup ('<' :: '/' :: (name ++ '>' :: rest))

theorem SafeMarkup.append {first second : List Char} (hfirst : SafeMarkup first)
    (hsecond : SafeMarkup second) : SafeMarkup (first ++ second) := by
  induction hfirst with
  | nil => exact hsecond
  | char hc _ ih => exact .char hc ih
  | start hname hscript hattributes _ ih =>
    simpa using SafeMarkup.start hname hscript hattributes ih
  | finish hname _ ih => simpa using SafeMarkup.finish hname ih

/-- Text without opening brackets is safe. -/
theorem SafeMarkup.of_noBrackets {text : List Char} (h : '<' ∉ text) : SafeMarkup text := by
  induction text with
  | nil => exact .nil
  | cons c rest ih =>
    rw [List.mem_cons, not_or] at h
    exact .char (Ne.symm h.1) (ih h.2)

/-! ## Reading attributes -/

/-- The attributes of a start tag are harmless. -/
def HarmlessEntries (entries : WrittenAttributes) : Prop :=
  ∀ entry ∈ entries, HarmlessAttribute entry.1 (entry.2.getD "")

theorem HarmlessEntries.firstOfEachName {seen : WrittenAttributes} (h : HarmlessEntries seen) :
    HarmlessEntries (firstOfEachName seen.reverse) :=
  fun entry hentry => h entry (List.mem_reverse.1 (mem_of_mem_firstOfEachName hentry))

theorem HarmlessEntries.cons {seen : WrittenAttributes} (h : HarmlessEntries seen) {name : String}
    (value : Option String) (hnew : HarmlessAttribute name (value.getD "")) :
    HarmlessEntries ((name, value) :: seen) := by
  intro entry hentry
  rcases List.mem_cons.1 hentry with rfl | hold
  · exact hnew
  · exact h entry hold

/-- A value between quotation marks is read to its closing mark. -/
theorem readAttributeValue?_quoted {mark : Char} (hmark : isQuotationMark mark = true)
    {value : List Char} (hclosed : mark ∉ value) (rest : List Char) :
    readAttributeValue? (mark :: (value ++ mark :: rest)) =
      some (String.ofList (decode true value), rest) := by
  have hinside : ∀ c ∈ value, decide (c ≠ mark) = true := by
    intro c hc
    simp only [decide_eq_true_eq]
    rintro rfl
    exact hclosed hc
  have htake : (value ++ mark :: rest).takeWhile (· ≠ mark) = value := by
    rw [List.takeWhile_append_of_pos hinside]; simp
  have hdrop : (value ++ mark :: rest).dropWhile (· ≠ mark) = mark :: rest := by
    rw [List.dropWhile_append_of_pos hinside]; simp
  have hmarks : mark = '"' ∨ mark.toNat = 0x27 := by simpa [isQuotationMark] using hmark
  have hspace : isSpace mark = false := by
    rcases hmarks with rfl | hquote
    · decide
    · rw [show mark = Char.ofNat 0x27 by rw [← hquote, Char.ofNat_toNat]]
      decide
  unfold readAttributeValue?
  rw [List.dropWhile_cons_of_neg (by simp [hspace])]
  by_cases hdouble : mark = '"'
  · subst hdouble
    simp only [htake, hdrop]
  · have hquote : mark.toNat = 0x27 := hmarks.resolve_left hdouble
    split
    · next heq => exact absurd (List.cons.inj heq).1 hdouble
    · next c text _ heq =>
      obtain ⟨rfl, rfl⟩ := List.cons.inj heq
      rw [if_pos hquote]
      simp only [htake, hdrop]
    · next heq => cases heq

/-- What follows the attributes of a start tag starts with a blank or with the closing bracket. -/
theorem exists_head_of_attributes {attributes : List (List Char)}
    (hattributes : ∀ spelling ∈ attributes, SafeAttribute spelling) (rest : List Char) :
    ∃ c more, attributes.flatten ++ '>' :: rest = c :: more ∧ (c = ' ' ∨ c = '>') := by
  cases attributes with
  | nil => exact ⟨'>', rest, rfl, .inr rfl⟩
  | cons spelling others =>
    rcases hattributes spelling List.mem_cons_self with _ | _
    · exact ⟨' ', _, rfl, .inl rfl⟩
    · exact ⟨' ', _, rfl, .inl rfl⟩

/-- What follows the attributes of a start tag does not start with an equals sign, even without
blanks. -/
theorem dropWhile_attributes_ne {attributes : List (List Char)}
    (hattributes : ∀ spelling ∈ attributes, SafeAttribute spelling) (rest more : List Char) :
    (attributes.flatten ++ '>' :: rest).dropWhile isSpace ≠ '=' :: more := by
  have hname : ∀ name : List Char, IsAttributeName name → ∀ tail : List Char,
      (' ' :: (name ++ tail)).dropWhile isSpace ≠ '=' :: more := by
    intro name hname tail heq
    obtain ⟨c, others, rfl⟩ := List.exists_cons_of_ne_nil hname.ne_nil
    have hc := hname.chars c List.mem_cons_self
    simp only [isAttributeNameChar, Bool.not_eq_true', Bool.or_eq_false_iff,
      decide_eq_false_iff_not] at hc
    rw [List.dropWhile_cons_of_pos (by decide), List.cons_append,
      List.dropWhile_cons_of_neg (by simp [hc.1.1.1])] at heq
    exact hc.1.1.2 (List.cons.inj heq).1
  cases attributes with
  | nil =>
    rw [List.flatten_nil, List.nil_append, List.dropWhile_cons_of_neg (by decide)]
    intro heq
    exact absurd (List.cons.inj heq).1 (by decide)
  | cons spelling others =>
    rw [List.flatten_cons, List.append_assoc]
    rcases hattributes spelling List.mem_cons_self with ⟨hn, _⟩ | ⟨hn, _, _, _, _⟩
    · exact hname _ hn _
    · simpa using hname _ hn _

/-- The name of an attribute is read up to what does not belong to it. -/
theorem readAttributes?_name {name : List Char} (hname : IsAttributeName name)
    {tail : List Char} (htail : tail.head?.any isAttributeNameChar = false) (fuel : Nat)
    (seen : WrittenAttributes) :
    readAttributes? (fuel + 1) seen (' ' :: (name ++ tail)) =
      match tail.dropWhile isSpace with
      | '=' :: valueText =>
        match readAttributeValue? valueText with
        | some (value, after) => readAttributes? fuel ((nameOf name, some value) :: seen) after
        | none => none
      | _ => readAttributes? fuel ((nameOf name, none) :: seen) tail := by
  obtain ⟨c, more, rfl⟩ := List.exists_cons_of_ne_nil hname.ne_nil
  have hc := hname.chars c List.mem_cons_self
  have hmore : ∀ d ∈ more, isAttributeNameChar d = true := fun d hd =>
    hname.chars d (List.mem_cons_of_mem _ hd)
  have htake : (more ++ tail).takeWhile isAttributeNameChar = more := by
    rw [List.takeWhile_append_of_pos hmore]
    cases tail with
    | nil => simp
    | cons d tail => rw [List.takeWhile_cons_of_neg (by simpa using htail), List.append_nil]
  have hdrop : (more ++ tail).dropWhile isAttributeNameChar = tail := by
    rw [List.dropWhile_append_of_pos hmore]
    cases tail with
    | nil => rfl
    | cons d tail => rw [List.dropWhile_cons_of_neg (by simpa using htail)]
  simp only [isAttributeNameChar, Bool.not_eq_true', Bool.or_eq_false_iff,
    decide_eq_false_iff_not] at hc
  obtain ⟨⟨⟨hspace, _⟩, hclose⟩, hslash⟩ := hc
  have hstart : (' ' :: (c :: more ++ tail)).dropWhile isSpace = c :: (more ++ tail) := by
    rw [List.dropWhile_cons_of_pos (by decide), List.cons_append,
      List.dropWhile_cons_of_neg (by simp [hspace])]
  rw [readAttributes?.eq_def]
  simp only [hstart]
  split
  · next heq => cases heq
  · next heq => exact absurd (List.cons.inj heq).1 hclose
  · next heq => exact absurd (List.cons.inj heq).1 hslash
  · next heq => exact absurd (List.cons.inj heq).1 hslash
  · next d rest _ _ _ heq =>
    obtain ⟨rfl, rfl⟩ := List.cons.inj heq
    rewrite [htake, hdrop]
    rfl

/-- The attributes of a start tag are read as they were meant, up to its closing bracket. -/
theorem exists_readAttributes? {attributes : List (List Char)}
    (hattributes : ∀ spelling ∈ attributes, SafeAttribute spelling) (rest : List Char) :
    ∀ (fuel : Nat) (seen : WrittenAttributes), attributes.length < fuel → HarmlessEntries seen →
      ∃ entries, readAttributes? fuel seen (attributes.flatten ++ '>' :: rest) =
        some (entries, false, rest) ∧ HarmlessEntries entries := by
  induction attributes with
  | nil =>
    intro fuel seen hfuel hseen
    obtain ⟨fuel, rfl⟩ : ∃ k, fuel = k + 1 := ⟨fuel - 1, by simp at hfuel; omega⟩
    exact ⟨firstOfEachName seen.reverse, rfl, hseen.firstOfEachName⟩
  | cons spelling others ih =>
    intro fuel seen hfuel hseen
    obtain ⟨fuel, rfl⟩ : ∃ k, fuel = k + 1 := ⟨fuel - 1, by simp at hfuel; omega⟩
    have hothers : ∀ other ∈ others, SafeAttribute other := fun other hother =>
      hattributes other (List.mem_cons_of_mem _ hother)
    have hfuel' : others.length < fuel := by simpa using hfuel
    rw [List.flatten_cons, List.append_assoc]
    cases hattributes spelling List.mem_cons_self with
    | @flag name hname hsafe =>
      have htail : (others.flatten ++ '>' :: rest).head?.any isAttributeNameChar = false := by
        obtain ⟨c, more, heq, rfl | rfl⟩ := exists_head_of_attributes hothers rest <;>
          simp [heq, isAttributeNameChar, isSpace]
      obtain ⟨entries, hread, hentries⟩ := ih hothers fuel _ hfuel' (hseen.cons none hsafe)
      refine ⟨entries, ?_, hentries⟩
      rw [List.cons_append, readAttributes?_name hname htail]
      split
      · next heq => exact absurd heq (dropWhile_attributes_ne hothers rest _)
      · exact hread
    | @valued name value mark hname hmark hclosed hbracket hsafe =>
      obtain ⟨entries, hread, hentries⟩ :=
        ih hothers fuel _ hfuel' (hseen.cons (some (String.ofList (decode true value))) hsafe)
      refine ⟨entries, ?_, hentries⟩
      have hspelling : ' ' :: name ++ '=' :: mark :: (value ++ [mark]) ++
          (others.flatten ++ '>' :: rest) = ' ' :: (name ++ '=' :: mark :: (value ++ mark ::
            (others.flatten ++ '>' :: rest))) := by simp
      rw [hspelling, readAttributes?_name hname (by simp [isAttributeNameChar]),
        List.dropWhile_cons_of_neg (by decide)]
      simp only [readAttributeValue?_quoted hmark hclosed, hread]

/-! ## Where end tags start -/

/-- Wherever the name of an end tag is found in a text, its closing bracket and safe markup
follow. -/
def Settled (text : List Char) : Prop :=
  ∀ suffix, suffix <:+ text → ∀ element : String, '>' ∉ element.toList →
    ∀ after, dropEndTagName? element suffix = some after →
      ∃ rest, after = '>' :: rest ∧ SafeMarkup rest

theorem dropEndTagName?_eq_some {element : String} {text after : List Char}
    (h : dropEndTagName? element text = some after) :
    ∃ rest, text = '<' :: '/' :: rest ∧
      ∃ c more, after = c :: more ∧ rest.drop element.length = c :: more ∧
        isTagNameChar c = false ∧ Text.asciiLower (rest.take element.length) = element.toList := by
  unfold dropEndTagName? at h
  split at h
  · next rest =>
    unfold dropWord? at h
    dsimp only at h
    split at h
    · next c more heq =>
      split at heq
      · next hword =>
        split at h
        · next hend =>
          cases h
          refine ⟨rest, rfl, c, more, rfl, Option.some.inj heq, ?_, hword⟩
          simp only [isTagNameChar, hend, Bool.not_true]
        · cases h
      · cases heq
    · cases h
  · cases h

theorem Settled.cons {c : Char} {text : List Char} (h : Settled text)
    (hhere : ∀ rest, c :: text ≠ '<' :: '/' :: rest) : Settled (c :: text) := by
  intro suffix hsuffix element helement after hafter
  rcases List.suffix_cons_iff.1 hsuffix with rfl | hinner
  · obtain ⟨rest, heq, _⟩ := dropEndTagName?_eq_some hafter
    exact absurd heq (hhere rest)
  · exact h suffix hinner element helement after hafter

/-- Text without opening brackets may stand in front. -/
theorem Settled.append_noBrackets {text : List Char} (h : Settled text) (front : List Char)
    (hfront : '<' ∉ front) : Settled (front ++ text) := by
  induction front with
  | nil => exact h
  | cons c rest ih =>
    rw [List.mem_cons, not_or] at hfront
    exact (ih hfront.2).cons fun more heq => hfront.1 (List.cons.inj heq).1.symm

/-- Text without slashes may stand in front of what does not start with a slash. -/
theorem Settled.append_noSlashes {text : List Char} (h : Settled text) (front : List Char)
    (hfront : '/' ∉ front) (htext : text.head? ≠ some '/') : Settled (front ++ text) := by
  induction front with
  | nil => exact h
  | cons c rest ih =>
    rw [List.mem_cons, not_or] at hfront
    refine (ih hfront.2).cons fun more heq => ?_
    have hslash : (rest ++ text).head? = some '/' := by
      rw [(List.cons.inj heq).2]; rfl
    cases rest with
    | nil => exact htext hslash
    | cons d rest =>
      refine hfront.2 ?_
      rw [show d = '/' from Option.some.inj hslash]
      exact List.mem_cons_self

theorem IsAttributeName.noSlash {name : List Char} (h : IsAttributeName name) : '/' ∉ name := by
  intro hmem
  exact absurd (h.chars _ hmem) (by decide)

theorem IsTagName.noSlash {name : List Char} (h : IsTagName name) : '/' ∉ name := by
  intro hmem
  exact absurd (h.chars _ hmem) (by decide)

theorem Settled.attributes {attributes : List (List Char)}
    (hattributes : ∀ spelling ∈ attributes, SafeAttribute spelling) {rest : List Char}
    (h : Settled ('>' :: rest)) : Settled (attributes.flatten ++ '>' :: rest) := by
  induction attributes with
  | nil => exact h
  | cons spelling others ih =>
    have hothers : ∀ other ∈ others, SafeAttribute other := fun other hother =>
      hattributes other (List.mem_cons_of_mem _ hother)
    have hbehind := ih hothers
    rw [List.flatten_cons, List.append_assoc]
    cases hattributes spelling List.mem_cons_self with
    | @flag name hname hsafe =>
      refine hbehind.append_noSlashes (' ' :: name) (by simpa using hname.noSlash) ?_
      obtain ⟨c, more, heq, rfl | rfl⟩ := exists_head_of_attributes hothers rest <;> simp [heq]
    | @valued name value mark hname hmark hclosed hbracket hsafe =>
      have hmark : mark ≠ '<' := by
        rintro rfl
        exact absurd hmark (by decide)
      have hvalue := hbehind.append_noBrackets ('=' :: mark :: (value ++ [mark]))
        (by simp [hbracket, hmark.symm])
      have hwhole := hvalue.append_noSlashes (' ' :: name)
        (by simpa using hname.noSlash) (by simp)
      simpa using hwhole

/-- The name of an end tag that is found is the whole name. -/
theorem eq_of_dropEndTagName? {name rest after : List Char} {element : String}
    (hname : IsTagName name) (helement : '>' ∉ element.toList)
    (h : dropEndTagName? element ('<' :: '/' :: (name ++ '>' :: rest)) = some after) :
    after = '>' :: rest := by
  obtain ⟨written, heq, c, more, rfl, hdrop, hc, hword⟩ := dropEndTagName?_eq_some h
  obtain rfl : name ++ '>' :: rest = written := by simpa using heq
  rcases Nat.lt_trichotomy element.length name.length with hlt | heq | hgt
  · -- the name goes on, and so the character behind belongs to it
    rw [List.drop_append_of_le_length (Nat.le_of_lt hlt)] at hdrop
    rw [List.drop_eq_getElem_cons hlt] at hdrop
    have hchar := hname.chars _ (List.getElem_mem hlt)
    rw [(List.cons.inj hdrop).1, hc] at hchar
    cases hchar
  · rw [heq, List.drop_left] at hdrop
    exact hdrop.symm
  · -- the closing bracket would belong to the name of the element
    have hmem : '>' ∈ (name ++ '>' :: rest).take element.length := by
      obtain ⟨k, hk⟩ := Nat.exists_eq_add_of_lt hgt
      rw [hk, Nat.add_assoc, List.take_length_add_append]
      simp
    have hlower : '>' ∈ element.toList := by
      rw [← hword]
      exact List.mem_map.2 ⟨'>', hmem, by decide⟩
    exact absurd hlower helement

theorem SafeMarkup.settled {text : List Char} (h : SafeMarkup text) : Settled text := by
  induction h with
  | nil =>
    intro suffix hsuffix element _ after hafter
    rw [List.suffix_nil.1 hsuffix] at hafter
    cases hafter
  | char hc _ ih => exact ih.cons fun _ heq => hc (List.cons.inj heq).1
  | @start name attributes rest hname _ hattributes _ ih =>
    have hclose : Settled ('>' :: rest) := ih.cons fun _ heq => by cases heq
    refine (hclose.attributes hattributes).append_noSlashes ('<' :: name)
      (by simpa using hname.noSlash) ?_
    obtain ⟨c, more, heq, rfl | rfl⟩ := exists_head_of_attributes hattributes rest <;> simp [heq]
  | @finish name rest hname hrest ih =>
    have hclose : Settled ('>' :: rest) := ih.cons fun _ heq => by cases heq
    have hinside : Settled ('/' :: (name ++ '>' :: rest)) :=
      (hclose.append_noSlashes name hname.noSlash (by simp)).cons fun _ heq => by cases heq
    intro suffix hsuffix element helement after hafter
    rcases List.suffix_cons_iff.1 hsuffix with rfl | hinner
    · exact ⟨rest, eq_of_dropEndTagName? hname helement hafter, hrest⟩
    · exact hinside suffix hinner element helement after hafter

/-! ## The text of an element -/

theorem splitAtEndTag_eq_some {element : String} {text after : List Char}
    (h : (splitAtEndTag element text).2 = some after) :
    ∃ suffix, suffix <:+ text ∧ dropEndTagName? element suffix = some after := by
  induction text with
  | nil => cases h
  | cons c rest ih =>
    unfold splitAtEndTag at h
    split at h
    · next found hfound =>
      cases h
      exact ⟨c :: rest, List.suffix_refl _, hfound⟩
    · obtain ⟨suffix, hsuffix, hfound⟩ := ih h
      exact ⟨suffix, hsuffix.trans (List.suffix_cons c rest), hfound⟩

theorem splitScript_eq_some {text after : List Char} :
    ∀ {state : ScriptState} {dashes : Nat}, (splitScript state dashes text).2 = some after →
      ∃ suffix, suffix <:+ text ∧ dropEndTagName? "script" suffix = some after := by
  induction text with
  | nil => intro state dashes h; cases h
  | cons c rest ih =>
    intro state dashes h
    unfold splitScript at h
    split at h
    · next found hfound =>
      cases h
      split at hfound
      · cases hfound
      · exact ⟨c :: rest, List.suffix_refl _, hfound⟩
    · obtain ⟨suffix, hsuffix, hfound⟩ := ih h
      exact ⟨suffix, hsuffix.trans (List.suffix_cons c rest), hfound⟩

/-- The tokens are harmless, and safe markup is left. -/
def ReadsSafely (result : List Token × List Char) : Prop :=
  (∀ token ∈ result.1, token.Harmless) ∧ SafeMarkup result.2

/-- Of an element's text that ends with its end tag, safe markup is left. -/
theorem readsSafely_closeText (element : String) {content : List Token}
    (hcontent : ∀ token ∈ content, token.Harmless) {after : Option (List Char)}
    (hafter : ∀ text, after = some text → ∃ rest, text = '>' :: rest ∧ SafeMarkup rest) :
    ReadsSafely (closeText element content after) := by
  cases after with
  | none => exact ⟨hcontent, .nil⟩
  | some text =>
    obtain ⟨rest, rfl, hrest⟩ := hafter text rfl
    have hread : closeText element content (some ('>' :: rest)) =
        (content ++ [.endTag element], rest) := rfl
    rw [hread]
    refine ⟨fun token htoken => ?_, hrest⟩
    rcases List.mem_append.1 htoken with hold | hend
    · exact hcontent token hold
    · rw [List.mem_singleton.1 hend]
      trivial

/-! ## Tags -/

theorem SafeMarkup.dropWhile {text : List Char} (h : SafeMarkup text) :
    SafeMarkup (text.dropWhile (· ≠ '<')) := by
  cases h with
  | nil => exact .nil
  | @char c rest hc hrest =>
    rw [List.dropWhile_cons_of_pos (by simpa using hc)]
    exact hrest.dropWhile
  | start hname hscript hattributes hrest =>
    rw [List.dropWhile_cons_of_neg (by simp)]
    exact .start hname hscript hattributes hrest
  | finish hname hrest =>
    rw [List.dropWhile_cons_of_neg (by simp)]
    exact .finish hname hrest

theorem length_le_length_flatten {attributes : List (List Char)}
    (hattributes : ∀ spelling ∈ attributes, SafeAttribute spelling) :
    attributes.length ≤ attributes.flatten.length := by
  induction attributes with
  | nil => exact Nat.le_refl 0
  | cons spelling others ih =>
    have hothers := ih fun other hother => hattributes other (List.mem_cons_of_mem _ hother)
    have hone : 1 ≤ spelling.length := by
      rcases hattributes spelling List.mem_cons_self with _ | _ <;> simp
    rw [List.flatten_cons, List.length_append, List.length_cons]
    omega

/-- A tag is read with the attributes that it was meant to have. -/
theorem exists_readTag {name : List Char} (hname : IsTagName name)
    {attributes : List (List Char)}
    (hattributes : ∀ spelling ∈ attributes, SafeAttribute spelling) (rest : List Char)
    (build : String → WrittenAttributes → Bool → Token) :
    ∃ entries, readTag (name ++ (attributes.flatten ++ '>' :: rest)) build =
      ([build (nameOf name) entries false], rest) ∧ HarmlessEntries entries := by
  have hhead : (attributes.flatten ++ '>' :: rest).head?.any isTagNameChar = false := by
    obtain ⟨c, more, heq, rfl | rfl⟩ := exists_head_of_attributes hattributes rest <;>
      simp [heq, isTagNameChar, isSpace]
  have htail : ∀ tail : List Char, tail.head?.any isTagNameChar = false →
      (name ++ tail).takeWhile isTagNameChar = name ∧
        (name ++ tail).dropWhile isTagNameChar = tail := by
    intro tail htail
    rw [List.takeWhile_append_of_pos hname.chars, List.dropWhile_append_of_pos hname.chars]
    cases tail with
    | nil => simp
    | cons c tail =>
      have hc : ¬isTagNameChar c = true := by simpa using htail
      rw [List.takeWhile_cons_of_neg hc, List.dropWhile_cons_of_neg hc]
      simp
  obtain ⟨htake, hdrop⟩ := htail _ hhead
  have hlength : attributes.length <
      (name ++ (attributes.flatten ++ '>' :: rest)).length + 1 := by
    have hle := length_le_length_flatten hattributes
    simp only [List.length_append]
    omega
  obtain ⟨entries, hread, hentries⟩ := exists_readAttributes? hattributes rest _ [] hlength
    (by simp [HarmlessEntries])
  refine ⟨entries, ?_, hentries⟩
  unfold readTag
  simp only [htake, hdrop, hread]

theorem IsTagName.exists_cons {name : List Char} (h : IsTagName name) :
    ∃ c more, name = c :: more ∧ isLetter c = true := by
  cases name with
  | nil => exact absurd h.letter (by simp)
  | cons c more => exact ⟨c, more, rfl, by simpa using h.letter⟩

/-- A letter after an opening bracket starts the name of a tag. -/
theorem readAfterBracket_letter (sectionsAllowed : Bool) {name : List Char} (hname : IsTagName name)
    (rest : List Char) :
    readAfterBracket sectionsAllowed (name ++ rest) = readTag (name ++ rest) .startTag := by
  obtain ⟨c, more, rfl, hc⟩ := hname.exists_cons
  have hno : ∀ d : Char, isLetter d = false → c ≠ d := by
    rintro d hd rfl
    rw [hc] at hd
    cases hd
  rw [List.cons_append]
  unfold readAfterBracket
  split
  · next heq => exact absurd (List.cons.inj heq).1 (hno _ (by decide))
  · next heq => exact absurd (List.cons.inj heq).1 (hno _ (by decide))
  · next heq => exact absurd (List.cons.inj heq).1 (hno _ (by decide))
  · next heq => exact absurd (List.cons.inj heq).1 (hno _ (by decide))
  · next heq => exact absurd (List.cons.inj heq).1 (hno _ (by decide))
  · next heq => exact absurd (List.cons.inj heq).1 (hno _ (by decide))
  · next d text _ _ _ _ _ _ heq =>
    obtain ⟨rfl, rfl⟩ := List.cons.inj heq
    rw [if_pos hc]
  · next heq => cases heq

/-- A letter after a slash starts the name of an end tag. -/
theorem readAfterBracket_slash (sectionsAllowed : Bool) {c : Char} (hc : isLetter c = true)
    (rest : List Char) :
    readAfterBracket sectionsAllowed ('/' :: c :: rest) =
      readTag (c :: rest) fun name _ _ => .endTag name := by
  have hclose : c ≠ '>' := by
    rintro rfl
    exact absurd hc (by decide)
  unfold readAfterBracket
  split
  · next heq => cases heq
  · next heq => cases heq
  · next heq => exact absurd (List.cons.inj (List.cons.inj heq).2).1 hclose
  · next d text _ heq =>
    obtain ⟨rfl, rfl⟩ := List.cons.inj (List.cons.inj heq).2
    rw [if_pos hc]
  · next heq => cases heq
  · next heq => cases heq
  · next hslash _ _ heq =>
    cases heq
    exact (hslash c rest rfl rfl).elim
  · next heq => cases heq

theorem SafeMarkup.readMarkup {text : List Char} (h : SafeMarkup text) (sectionsAllowed : Bool) :
    ReadsSafely (readMarkup sectionsAllowed text) := by
  cases h with
  | nil => exact ⟨by simp [Html.readMarkup, textTokens], .nil⟩
  | @char c rest hc hrest =>
    have hrun : Html.readMarkup sectionsAllowed (c :: rest) =
        (textTokens ((c :: rest).takeWhile (· ≠ '<')).length ((c :: rest).takeWhile (· ≠ '<')),
          (c :: rest).dropWhile (· ≠ '<')) := by
      unfold Html.readMarkup
      split
      · next heq => exact absurd (List.cons.inj heq).1 hc
      · rfl
    rw [hrun]
    exact ⟨everyStart_textTokens _ _, (SafeMarkup.char hc hrest).dropWhile⟩
  | @start name attributes rest hname hscript hattributes hrest =>
    obtain ⟨entries, hread, hentries⟩ := exists_readTag hname hattributes rest .startTag
    have hafter : Html.readMarkup sectionsAllowed
        ('<' :: (name ++ (attributes.flatten ++ '>' :: rest))) =
          ([.startTag (nameOf name) entries false], rest) := by
      rw [← hread]
      exact readAfterBracket_letter sectionsAllowed hname _
    rw [hafter]
    refine ⟨?_, hrest⟩
    simp only [List.mem_singleton, forall_eq]
    refine ⟨hscript, fun entry hentry => ?_⟩
    obtain ⟨written, hwritten, rfl⟩ := List.mem_map.1 hentry
    exact hentries written hwritten
  | @finish name rest hname hrest =>
    have hnone : ∀ spelling ∈ ([] : List (List Char)), SafeAttribute spelling := by simp
    obtain ⟨entries, hread, _⟩ := exists_readTag hname hnone rest fun name _ _ => .endTag name
    have hafter : Html.readMarkup sectionsAllowed ('<' :: '/' :: (name ++ '>' :: rest)) =
        ([.endTag (nameOf name)], rest) := by
      rw [← hread]
      obtain ⟨c, more, rfl, hc⟩ := hname.exists_cons
      exact readAfterBracket_slash sectionsAllowed hc _
    rw [hafter]
    exact ⟨by simp [Token.Harmless, Token.EveryStart], hrest⟩

/-- Whatever content is expected, the next tokens of safe markup are harmless, and safe markup is
left. -/
theorem SafeMarkup.readTokens {text : List Char} (h : SafeMarkup text) {content : Content}
    (hcontent : content.Fits) (sectionsAllowed : Bool) :
    ReadsSafely (readTokens content sectionsAllowed text) := by
  have hnames : ∀ element ∈ textNames, '>' ∉ element.toList := by decide
  have hsplit : ∀ element ∈ textNames, ∀ after, (splitAtEndTag element text).2 = some after →
      ∃ rest, after = '>' :: rest ∧ SafeMarkup rest := by
    intro element helement after hafter
    obtain ⟨suffix, hsuffix, hfound⟩ := splitAtEndTag_eq_some hafter
    exact h.settled suffix hsuffix element (hnames element helement) after hfound
  cases content with
  | markup => exact h.readMarkup sectionsAllowed
  | escapableText element =>
    exact readsSafely_closeText element (everyStart_textTokens _ _) (hsplit element hcontent)
  | rawText element =>
    exact readsSafely_closeText element (everyStart_rawTokens _) (hsplit element hcontent)
  | script =>
    refine readsSafely_closeText "script" (everyStart_rawTokens _) fun after hafter => ?_
    obtain ⟨suffix, hsuffix, hfound⟩ := splitScript_eq_some hafter
    exact h.settled suffix hsuffix "script" (by decide) after hfound
  | plainText => exact ⟨by simp [Html.readTokens, Token.Harmless, Token.EveryStart], .nil⟩

end PageBlocks.Html
