import PageBlocks.Import.Removal
import PageBlocks.Proofs.Text.Blank
import PageBlocks.Proofs.Text.Case
import PageBlocks.Proofs.Text.Search
/-!
# Properties in styles

A style is a list of declarations, each of a name and a value with a colon between them.  Blanks around
both make no difference, and of two declarations with one name the later one counts.

A property is looked for in two ways: by its name in small letters, and, if nothing is declared under
that, by its name with a dash in front of each letter that was a capital.  So it is found in any letter
case, and in camel case unless something else is declared under the name without its dashes.

## Main results

* `Import.kebabCase_camelCase` — the dashes of a name come back.
* `Import.declarations_of_writes` — the declarations of a style are those that it was written from.
* `Import.styleProperty?_declared` — a property is found under every spelling of its name.
-/

namespace PageBlocks.Import

open PageBlocks.Text

/-! ## Names of properties -/

/-- Are these small letters and dashes, with a letter behind each dash? -/
def isPropertyName : List Char → Bool
  | [] => true
  | '-' :: c :: rest => isSmallLetter c && isPropertyName rest
  | c :: rest => isSmallLetter c && isPropertyName rest

/-- A name in which each dash gives way to a capital. -/
def camelCase : List Char → List Char
  | [] => []
  | '-' :: c :: rest => asciiUpperChar c :: camelCase rest
  | c :: rest => c :: camelCase rest

theorem kebabCase_cons (c : Char) (rest : List Char) :
    kebabCase (c :: rest) = (if isUppercase c then '-' :: lower [c] else [c]) ++ kebabCase rest :=
  List.flatMap_cons

/-- A small letter is no capital, and it is what its capital is in small letters. -/
theorem upper_of_isSmallLetter {c : Char} (h : isSmallLetter c = true) :
    isUppercase c = false ∧ isUppercase (asciiUpperChar c) = true ∧
      isAscii (asciiUpperChar c) = true ∧ asciiLowerChar (asciiUpperChar c) = c :=
  forall_ascii (P := fun c => isSmallLetter c = true → isUppercase c = false ∧
    isUppercase (asciiUpperChar c) = true ∧ isAscii (asciiUpperChar c) = true ∧
      asciiLowerChar (asciiUpperChar c) = c) (by decide) (isAscii_of_isSmallLetter h) h

/-- The dashes of a name come back from its camel case. -/
theorem kebabCase_camelCase {name : List Char} (h : isPropertyName name = true) :
    kebabCase (camelCase name) = name := by
  fun_induction isPropertyName name with
  | case1 => rfl
  | case2 c rest ih =>
    obtain ⟨hc, hrest⟩ := (Bool.and_eq_true _ _).mp h
    obtain ⟨-, hcapital, hascii, hlower⟩ := upper_of_isSmallLetter hc
    have hletter : lower [asciiUpperChar c] = [c] := by
      rw [lower_eq_asciiLower (by simpa using hascii), asciiLower, List.map_singleton, hlower]
    rw [camelCase, kebabCase_cons, if_pos hcapital, hletter, ih hrest]
    rfl
  | case3 c rest hdash ih =>
    obtain ⟨hc, hrest⟩ := (Bool.and_eq_true _ _).mp h
    obtain ⟨hsmall, -⟩ := upper_of_isSmallLetter hc
    rw [camelCase, kebabCase_cons, if_neg (Bool.eq_false_iff.1 hsmall), ih hrest]
    · rfl
    · exact hdash

theorem isSmallLetter_or_of_mem {name : List Char} (h : isPropertyName name = true) {c : Char}
    (hc : c ∈ name) : isSmallLetter c = true ∨ c = '-' := by
  fun_induction isPropertyName name with
  | case1 => cases hc
  | case2 d rest ih =>
    obtain ⟨hd, hrest⟩ := (Bool.and_eq_true _ _).mp h
    rcases List.mem_cons.1 hc with rfl | hc
    · exact .inr rfl
    · rcases List.mem_cons.1 hc with rfl | hc
      · exact .inl hd
      · exact ih hrest hc
  | case3 d rest _ ih =>
    obtain ⟨hd, hrest⟩ := (Bool.and_eq_true _ _).mp h
    rcases List.mem_cons.1 hc with rfl | hc
    · exact .inl hd
    · exact ih hrest hc

/-- The characters of a name are in small letters already, and none of them stands for anything else in
a style. -/
theorem plain_of_mem {name : List Char} (h : isPropertyName name = true) {c : Char} (hc : c ∈ name) :
    isAscii c = true ∧ asciiLowerChar c = c ∧ isBlank c = false ∧ c ≠ ':' ∧ c ≠ ';' := by
  rcases isSmallLetter_or_of_mem h hc with hsmall | rfl
  · exact forall_ascii (P := fun c => isSmallLetter c = true → isAscii c = true ∧
      asciiLowerChar c = c ∧ isBlank c = false ∧ c ≠ ':' ∧ c ≠ ';') (by decide)
        (isAscii_of_isSmallLetter hsmall) hsmall
  · decide

theorem lower_propertyName {name : List Char} (h : isPropertyName name = true) :
    lower name = name := by
  calc lower name = name.map asciiLowerChar := lower_eq_asciiLower fun c hc => (plain_of_mem h hc).1
    _ = name.map id := List.map_congr_left fun c hc => (plain_of_mem h hc).2.1
    _ = name := List.map_id name

/-- In small letters nothing is left of the dashes of a name. -/
theorem lower_camelCase {name : List Char} (h : isPropertyName name = true) :
    lower (camelCase name) = name.filter (· ≠ '-') := by
  suffices hfrom : ∀ before, lowerFrom before (camelCase name) = name.filter (· ≠ '-') from hfrom []
  intro before
  fun_induction isPropertyName name generalizing before with
  | case1 => rfl
  | case2 c rest ih =>
    obtain ⟨hc, hrest⟩ := (Bool.and_eq_true _ _).mp h
    obtain ⟨-, -, hascii, hlower⟩ := upper_of_isSmallLetter hc
    have hne : c ≠ '-' := by
      rintro rfl
      exact absurd hc (by decide)
    rw [camelCase, lowerFrom, lowerChar, if_pos hascii, hlower, ih hrest,
      List.filter_cons_of_neg (by decide), List.filter_cons_of_pos (by simpa using hne)]
    rfl
  | case3 c rest hdash ih =>
    obtain ⟨hc, hrest⟩ := (Bool.and_eq_true _ _).mp h
    have hne : c ≠ '-' := by
      rintro rfl
      exact absurd hc (by decide)
    rw [camelCase, lowerFrom, lowerChar, if_pos (isAscii_of_isSmallLetter hc),
      asciiLowerChar_of_isSmallLetter hc, ih hrest, List.filter_cons_of_pos (by simpa using hne)]
    · rfl
    · exact hdash

/-! ## Styles -/

/-- A declaration with blanks around its name.  Its value may have blanks around it as well. -/
structure Declaration where
  lead : List Char
  name : List Char
  gap : List Char
  value : List Char
  lead_blank : ∀ c ∈ lead, isBlank c = true
  named : isPropertyName name = true
  gap_blank : ∀ c ∈ gap, isBlank c = true
  value_whole : ';' ∉ value

/-- A declaration as it is written. -/
def Declaration.text (declaration : Declaration) : List Char :=
  declaration.lead ++ (declaration.name ++ declaration.gap) ++ ':' :: declaration.value

/-- A style that declarations are written in, with a semicolon behind each but the last, where there
may be one and then nothing but blanks. -/
inductive Writes : List Declaration → List Char → Prop
  | blank {style : List Char} (blanks : ∀ c ∈ style, isBlank c = true) : Writes [] style
  | last (declaration : Declaration) : Writes [declaration] declaration.text
  | next (declaration : Declaration) {others : List Declaration} {style : List Char}
      (writes : Writes others style) :
      Writes (declaration :: others) (declaration.text ++ ';' :: style)

/-- The last of the declarations with a name. -/
def IsLast (declared : List Declaration) (name : List Char) (last : Declaration) : Prop :=
  ∃ before after, declared = before ++ last :: after ∧ last.name = name ∧
    ∀ other ∈ after, other.name ≠ name

/-- What is declared under a name, with blanks around neither. -/
def Declaration.entry (declaration : Declaration) : List Char × List Char :=
  (declaration.name, trim declaration.value)

theorem ne_of_isBlank {c d : Char} (hc : isBlank c = true) (hd : isBlank d = false) : c ≠ d := by
  rintro rfl
  rw [hc] at hd
  cases hd

/-- Neither a colon nor a semicolon is in front of the colon of a declaration. -/
theorem Declaration.front_ne (declaration : Declaration) {c : Char}
    (hc : c ∈ declaration.lead ++ (declaration.name ++ declaration.gap)) : c ≠ ':' ∧ c ≠ ';' := by
  rcases List.mem_append.1 hc with hc | hc
  · have hblank := declaration.lead_blank c hc
    exact ⟨ne_of_isBlank hblank (by decide), ne_of_isBlank hblank (by decide)⟩
  · rcases List.mem_append.1 hc with hc | hc
    · exact (plain_of_mem declaration.named hc).2.2.2
    · have hblank := declaration.gap_blank c hc
      exact ⟨ne_of_isBlank hblank (by decide), ne_of_isBlank hblank (by decide)⟩

theorem Declaration.semicolon_notMem (declaration : Declaration) : ';' ∉ declaration.text := by
  intro hmem
  rcases List.mem_append.1 hmem with hmem | hmem
  · exact (declaration.front_ne hmem).2 rfl
  · rcases List.mem_cons.1 hmem with heq | hmem
    · exact absurd heq (by decide)
    · exact declaration.value_whole hmem

theorem Declaration.trim_front (declaration : Declaration) :
    trim (declaration.lead ++ (declaration.name ++ declaration.gap)) = declaration.name := by
  rw [trim_blank_append declaration.lead_blank, trim_append_blank declaration.gap_blank]
  exact trim_of_noBlank fun c hc => (plain_of_mem declaration.named hc).2.2.1

/-- What a declaration is read as: its name in small letters and its value, both trimmed. -/
def readDeclaration? (text : List Char) : Option (List Char × List Char) :=
  (cut? [':'] text).map fun parts => (lower (trim parts.1), trim parts.2)

theorem declarations_eq (style : List Char) :
    declarations style = (splitOn [';'] style).filterMap readDeclaration? := rfl

theorem Declaration.readDeclaration?_text (declaration : Declaration) :
    readDeclaration? declaration.text = some declaration.entry := by
  have hcolon : ':' ∉ declaration.lead ++ (declaration.name ++ declaration.gap) :=
    fun hmem => (declaration.front_ne hmem).1 rfl
  rw [readDeclaration?, Declaration.text, cut?_of_notMem hcolon, Option.map_some,
    declaration.trim_front, lower_propertyName declaration.named]
  rfl

/-- What has no colon is no declaration. -/
theorem readDeclaration?_of_noColon {text : List Char} (h : ':' ∉ text) :
    readDeclaration? text = none := by
  rw [readDeclaration?, cut?_eq_none h]
  rfl

/-- The declarations of a style are those that are written in it. -/
theorem declarations_of_writes {declared : List Declaration} {style : List Char}
    (h : Writes declared style) : declarations style = declared.map Declaration.entry := by
  rw [declarations_eq]
  induction h with
  | blank blanks =>
    have hfree {d : Char} (hd : isBlank d = false) : d ∉ _ :=
      fun hmem => ne_of_isBlank (blanks d hmem) hd rfl
    rw [splitOn_of_notMem (hfree (by decide)), List.filterMap_cons,
      readDeclaration?_of_noColon (hfree (by decide))]
    rfl
  | last declaration =>
    rw [splitOn_of_notMem declaration.semicolon_notMem, List.filterMap_cons,
      declaration.readDeclaration?_text]
    rfl
  | next declaration _ ih =>
    rw [splitOn_append declaration.semicolon_notMem, List.filterMap_cons,
      declaration.readDeclaration?_text, ih, List.map_cons]

/-! ## Looking up -/

/-- What is found under a name is the value of the last declaration with the name. -/
theorem declared?_of_isLast {declared : List Declaration} {name : List Char} {last : Declaration}
    (h : IsLast declared name last) :
    declared? (declared.map Declaration.entry) name = some (trim last.value) := by
  obtain ⟨before, after, rfl, rfl, hafter⟩ := h
  have hnone : (after.map Declaration.entry).reverse.find? (fun entry => entry.1 = last.name) =
      none := by
    rw [List.find?_eq_none]
    intro entry hentry
    obtain ⟨other, hother, rfl⟩ := List.mem_map.1 (List.mem_reverse.1 hentry)
    exact fun heq => hafter other hother (of_decide_eq_true heq)
  rw [declared?, List.map_append, List.map_cons, List.reverse_append, List.reverse_cons,
    List.append_assoc, List.find?_append, hnone]
  simp [Declaration.entry]

theorem declared?_eq_none {declared : List Declaration} {name : List Char}
    (h : ∀ other ∈ declared, other.name ≠ name) :
    declared? (declared.map Declaration.entry) name = none := by
  rw [declared?, Option.map_eq_none_iff, List.find?_eq_none]
  intro entry hentry
  obtain ⟨other, hother, rfl⟩ := List.mem_map.1 (List.mem_reverse.1 hentry)
  exact fun heq => h other hother (of_decide_eq_true heq)

/-- One of the declarations with a name is the last one. -/
theorem exists_isLast {declared : List Declaration} {declaration : Declaration}
    (h : declaration ∈ declared) : ∃ last, IsLast declared declaration.name last := by
  have hsome : (declared.reverse.find? fun other => other.name = declaration.name).isSome := by
    rw [List.find?_isSome]
    exact ⟨declaration, List.mem_reverse.2 h, by simp⟩
  obtain ⟨last, hlast⟩ := Option.isSome_iff_exists.1 hsome
  obtain ⟨hname, behind, front, hsplit, hbehind⟩ := List.find?_eq_some_iff_append.1 hlast
  refine ⟨last, front.reverse, behind.reverse, ?_, by simpa using hname, fun other hother => ?_⟩
  · rw [← List.reverse_inj, hsplit]
    simp
  · simpa using hbehind other (List.mem_reverse.1 hother)

/-- A property that is declared in the style of an element is found there, and its value is that of the
last declaration with its name: under the name in any letter case, and, unless something is declared
under the name without its dashes, in camel case. -/
theorem styleProperty?_declared {node : Node} {declared : List Declaration}
    (h : Writes declared (node.attributeText "style").toList) {declaration : Declaration}
    (hmem : declaration ∈ declared) :
    ∃ last, IsLast declared declaration.name last ∧
      (∀ property, lower property = declaration.name →
        styleProperty? (node.attributeText "style").toList property = some (trim last.value)) ∧
      ((∀ other ∈ declared, other.name ≠ declaration.name.filter (· ≠ '-')) →
        styleProperty? (node.attributeText "style").toList (camelCase declaration.name) =
          some (trim last.value)) ∧
      kebabCase (camelCase declaration.name) = declaration.name := by
  obtain ⟨last, hlast⟩ := exists_isLast hmem
  have hfound := declared?_of_isLast hlast
  have hkebab := kebabCase_camelCase declaration.named
  refine ⟨last, hlast, fun property hproperty => ?_, fun hother => ?_, hkebab⟩
  · rw [styleProperty?, declarations_of_writes h, hproperty, hfound]
    rfl
  · have hnone := declared?_eq_none hother
    rw [styleProperty?, declarations_of_writes h, lower_camelCase declaration.named, hnone, hkebab,
      Option.none_or, hfound]

/-- Two declarations with one name, and one between them. -/
def painted : List Declaration :=
  [⟨[' '], "background-image".toList, [' '], " url(a:b) ".toList, List.all_eq_true.1 rfl, by decide,
      List.all_eq_true.1 rfl, by decide⟩,
    ⟨[], "color".toList, [], "red".toList, List.forall_mem_nil _, by decide, List.forall_mem_nil _,
      by decide⟩,
    ⟨['\n'], "background-image".toList, [], " url(c:d)".toList, List.all_eq_true.1 rfl, by decide,
      List.forall_mem_nil _, by decide⟩]

/-- An element with a style of these, and a semicolon behind the last one. -/
def paintedNode : Node :=
  .element 1
    ⟨"p", .html, [("style", " background-image : url(a:b) ;color:red;\nbackground-image: url(c:d); ")]⟩
    .nil

/-- The later declaration counts, in any letter case and in camel case. -/
theorem styleProperty?_declared_painted :
    Writes painted (paintedNode.attributeText "style").toList ∧
      ∃ last, IsLast painted "background-image".toList last ∧
        styleProperty? (paintedNode.attributeText "style").toList "BACKGROUND-Image".toList =
          some (trim last.value) ∧
        styleProperty? (paintedNode.attributeText "style").toList "backgroundImage".toList =
          some (trim last.value) := by
  have hstyle : (paintedNode.attributeText "style").toList =
      painted.flatMap (fun declaration => declaration.text ++ [';']) ++ [' '] := by decide +kernel
  have hwrites : Writes painted (paintedNode.attributeText "style").toList :=
    hstyle ▸ .next _ (.next _ (.next _ (.blank (List.all_eq_true.1 rfl))))
  obtain ⟨last, hlast, hcase, hcamel, -⟩ :=
    styleProperty?_declared hwrites (List.getElem_mem (l := painted) (n := 0) (by decide))
  exact ⟨hwrites, last, hlast, hcase _ (by decide +kernel), hcamel (by decide +kernel)⟩

end PageBlocks.Import
