import PageBlocks.Html.Rules
import PageBlocks.Proofs.Dom.Tags
import PageBlocks.Proofs.Html.Names
import PageBlocks.Sanitize.Clean
/-!
# Harmless elements

An element is harmless when it is no script, handles no events, and none of the addresses that are
followed or loaded from it runs a script.  Blanks, control characters and the case of letters do
not hide a scheme from the check.

Tree construction changes attributes in a few places: lists of words are kept in one form, the
names of drawings are respelled, and missing attributes are added.  None of this makes a harmless
attribute harmful.

## Main results

* `HarmlessAttributes.kept`, `HarmlessAttributes.respell` — kept and respelled attributes.
* `Tag.Harmless.setAttribute` — a harmless attribute may be set.
-/

namespace PageBlocks

open Text (isBlank foldText startsWith)

/-- Control characters. -/
def isControl (c : Char) : Bool :=
  c.toNat < 0x20 || (0x7F ≤ c.toNat && c.toNat ≤ 0x9F)

/-- Characters that do not count when a scheme is looked for. -/
def isSkipped (c : Char) : Bool :=
  isBlank c || isControl c

/-- The scheme of addresses that run scripts, up to what follows it. -/
def scriptStart : List Char := "javascript:".toList

/-- Does an address run a script? -/
def runsScript (address : List Char) : Bool :=
  startsWith scriptStart (foldText (address.filter fun c => !isSkipped c))

theorem runsScript_nil : runsScript [] = false := by decide

/-- Attributes with an address that is followed, loaded or sent to. -/
def linkNames : List String := ["href", "src", "action", "formaction"]

/-- An attribute that handles no events and has no address that runs a script. -/
structure HarmlessAttribute (name value : String) : Prop where
  noHandler : Sanitize.isHandler name = false
  noScript : name ∈ linkNames → runsScript value.toList = false

instance (name value : String) : Decidable (HarmlessAttribute name value) :=
  decidable_of_iff (Sanitize.isHandler name = false ∧
    (name ∈ linkNames → runsScript value.toList = false)) ⟨fun h => ⟨h.1, h.2⟩, fun h => ⟨h.1, h.2⟩⟩

/-- All attributes are harmless. -/
def HarmlessAttributes (attributes : List (String × String)) : Prop :=
  ∀ entry ∈ attributes, HarmlessAttribute entry.1 entry.2

instance (attributes : List (String × String)) : Decidable (HarmlessAttributes attributes) :=
  inferInstanceAs (Decidable (∀ entry ∈ attributes, HarmlessAttribute entry.1 entry.2))

/-- An element that is no script and has harmless attributes only. -/
structure Tag.Harmless (tag : Tag) : Prop where
  name : tag.name ≠ "script"
  attributes : HarmlessAttributes tag.attributes

instance (tag : Tag) : Decidable tag.Harmless :=
  decidable_of_iff (tag.name ≠ "script" ∧ HarmlessAttributes tag.attributes)
    ⟨fun h => ⟨h.1, h.2⟩, fun h => ⟨h.1, h.2⟩⟩

@[grind ←]
theorem harmlessAttributes_nil : HarmlessAttributes [] := by
  simp [HarmlessAttributes]

theorem harmless_documentTag : Dom.documentTag.Harmless :=
  ⟨by decide, harmlessAttributes_nil⟩

theorem HarmlessAttribute.of_notMem {name value : String} (hname : Sanitize.isHandler name = false)
    (hlink : name ∉ linkNames) : HarmlessAttribute name value :=
  ⟨hname, fun h => absurd h hlink⟩

theorem HarmlessAttributes.filter {attributes : List (String × String)}
    (h : HarmlessAttributes attributes) (keep : String × String → Bool) :
    HarmlessAttributes (attributes.filter keep) :=
  fun entry hentry => h entry (List.mem_filter.1 hentry).1

theorem Tag.Harmless.setAttribute {tag : Tag} (h : tag.Harmless) {name value : String}
    (hnew : HarmlessAttribute name value) : (tag.setAttribute name value).Harmless := by
  unfold Tag.setAttribute
  split
  · refine ⟨h.name, fun entry hentry => ?_⟩
    obtain ⟨old, hold, rfl⟩ := List.mem_map.1 hentry
    split
    · exact hnew
    · exact h.attributes old hold
  · refine ⟨h.name, fun entry hentry => ?_⟩
    rcases List.mem_append.1 hentry with hold | hone
    · exact h.attributes entry hold
    · rw [List.mem_singleton.1 hone]
      exact hnew

/-! ## Lists of words -/

/-- No attribute that is a list of words has an address that is followed. -/
theorem notMem_linkNames_of_isWordList {element key : String}
    (h : Html.isWordList element key = true) : key ∉ linkNames := by
  have hgeneral : ∀ word ∈ Html.generalWordLists, word ∉ linkNames := by decide
  have hown : ∀ entry ∈ Html.wordListAttributes, ∀ word ∈ entry.2, word ∉ linkNames := by decide
  unfold Html.isWordList at h
  rcases Bool.or_eq_true_iff.1 h with h | h
  · exact hgeneral key (List.contains_iff_mem.1 h)
  · cases hlookup : Html.wordListAttributes.lookup element with
    | none => simp [hlookup] at h
    | some keys =>
      obtain ⟨before, after, heq, _⟩ := List.lookup_eq_some_iff.1 hlookup
      rw [hlookup] at h
      exact hown (element, keys) (by simp [heq]) key (List.contains_iff_mem.1 h)

theorem HarmlessAttribute.kept {name value : String} (h : HarmlessAttribute name value)
    (element : String) : HarmlessAttribute name (Html.keptValue element name value) := by
  by_cases hwords : Html.isWordList element name = true
  · exact .of_notMem h.noHandler (notMem_linkNames_of_isWordList hwords)
  · rw [Html.keptValue_of_text (by simpa using hwords)]
    exact h

theorem HarmlessAttributes.kept {attributes : List (String × String)}
    (h : HarmlessAttributes attributes) (element : String) :
    HarmlessAttributes (Html.keptAttributes element attributes) := by
  intro entry hentry
  obtain ⟨old, hold, rfl⟩ := List.mem_map.1 hentry
  exact (h old hold).kept element

/-! ## Spellings of drawings and formulas -/

namespace Html.Builder

/-- A name is one of the spellings or stays what it is. -/
theorem respell_cases (spellings : List String) (name : String) :
    respell spellings name ∈ spellings ∨ respell spellings name = name := by
  unfold respell
  cases hfind : spellings.find? fun spelling => nameOf spelling.toList = name with
  | none => exact .inr rfl
  | some spelling => exact .inl (List.mem_of_find?_eq_some hfind)

theorem respell_ne_script {name : String} (h : name ≠ "script") :
    respell svgElementNames name ≠ "script" := by
  have hspellings : ∀ spelling ∈ svgElementNames, spelling ≠ "script" := by decide
  rcases respell_cases svgElementNames name with hmem | heq
  · exact hspellings _ hmem
  · rwa [heq]

end Html.Builder

open Html.Builder in
theorem HarmlessAttributes.respell {attributes : List (String × String)}
    (h : HarmlessAttributes attributes) (vocabulary : Vocabulary) :
    HarmlessAttributes (respellAttributes vocabulary attributes) := by
  have hspellings : ∀ spelling ∈ svgAttributeNames,
      Sanitize.isHandler spelling = false ∧ spelling ∉ linkNames := by decide
  intro entry hentry
  obtain ⟨⟨name, value⟩, hold, rfl⟩ := List.mem_map.1 hentry
  have hharmless := h _ hold
  cases vocabulary with
  | unspecified | html => exact hharmless
  | svg =>
    rcases respell_cases svgAttributeNames name with hmem | heq
    · exact .of_notMem (hspellings _ hmem).1 (hspellings _ hmem).2
    · simpa only [heq] using hharmless
  | mathml =>
    simp only
    split
    · exact .of_notMem (by decide) (by decide)
    · exact hharmless

/-! ## Start tags -/

namespace Html

/-- A start tag of a harmless element. -/
structure StartTag.Harmless (tag : StartTag) : Prop where
  name : tag.name ≠ "script"
  attributes : HarmlessAttributes tag.attributes

@[grind ←]
theorem StartTag.Harmless.rename {tag : StartTag} (h : tag.Harmless) {name : String}
    (hname : name ≠ "script") : StartTag.Harmless ⟨name, tag.attributes, tag.selfClosing⟩ :=
  ⟨hname, h.attributes⟩

/-- A start tag among tokens is that of a harmless element. -/
def Token.Harmless (token : Token) : Prop :=
  token.EveryStart fun name attributes selfClosing =>
    (StartTag.ofWritten name attributes selfClosing).Harmless

/-! ## Expected content -/

/-- The elements whose text is not read as markup. -/
def textNames : List String :=
  ["iframe", "noembed", "noframes", "style", "textarea", "title", "xmp"]

@[grind =]
theorem mem_textNames {name : String} :
    name ∈ textNames ↔ name = "iframe" ∨ name = "noembed" ∨ name = "noframes" ∨
      name = "style" ∨ name = "textarea" ∨ name = "title" ∨ name = "xmp" := by
  simp [textNames]

/-- The text of an element is expected only where it is one of these elements. -/
def Content.Fits : Content → Prop
  | .escapableText element | .rawText element => element ∈ textNames
  | .markup | .script | .plainText => True

@[grind =]
theorem Content.fits_escapableText {element : String} :
    (escapableText element).Fits ↔ element ∈ textNames := Iff.rfl

@[grind =]
theorem Content.fits_rawText {element : String} :
    (rawText element).Fits ↔ element ∈ textNames := Iff.rfl

@[grind ←]
theorem Content.fits_plainText : plainText.Fits := trivial

@[grind ←]
theorem Content.fits_script : script.Fits := trivial

end Html

end PageBlocks
