import PageBlocks.Html.Lenient
import PageBlocks.Proofs.Text.Case
/-!
# Names of attributes as they are read

The names of attributes are read in small letters, and no character that ends a name is in them,
but for an equals sign at the start.  Whatever the text is, the events of the lenient reading have
no other names.

## Main results

* `readAttributes?_names` — the attributes of a tag.
* `named_readTokens` — the tokens of a text.
* `Lenient.events_named` — the events of a text.
-/

namespace PageBlocks.Html

open Text (asciiLower asciiLowerChar asciiLowerChar_eq_or asciiLowerChar_idem forall_ascii
  isAscii_of_isSmallLetter isSmallLetter)

/-! ## Names -/

/-- The name of an attribute as it is read. -/
structure IsReadName (name : String) : Prop where
  lower : nameOf name.toList = name
  shape : ∃ c rest, name.toList = c :: rest ∧ (c = '=' ∨ isAttributeNameChar c = true) ∧
    ∀ d ∈ rest, isAttributeNameChar d = true

/-- The names of all attributes are as names are read. -/
def ReadEntries (entries : WrittenAttributes) : Prop :=
  ∀ entry ∈ entries, IsReadName entry.1

theorem isAttributeNameChar_of_isSmallLetter {c : Char} (h : isSmallLetter c = true) :
    isAttributeNameChar c = true :=
  forall_ascii (P := fun c => isSmallLetter c = true → isAttributeNameChar c = true) (by decide)
    (isAscii_of_isSmallLetter h) h

theorem isAttributeNameChar_asciiLowerChar {c : Char} (h : isAttributeNameChar c = true) :
    isAttributeNameChar (asciiLowerChar c) = true := by
  rcases asciiLowerChar_eq_or c with hsame | hsmall
  · rwa [hsame]
  · exact isAttributeNameChar_of_isSmallLetter hsmall

theorem nameOf_toList (name : List Char) : (nameOf name).toList = asciiLower name :=
  String.toList_ofList

theorem nameOf_nameOf (name : List Char) : nameOf (nameOf name).toList = nameOf name := by
  rw [nameOf_toList, nameOf, nameOf, asciiLower, asciiLower, List.map_map]
  congr 2
  exact funext asciiLowerChar_idem

theorem isReadName_nameOf {c : Char} {rest : List Char}
    (hc : c = '=' ∨ isAttributeNameChar c = true) (hrest : ∀ d ∈ rest, isAttributeNameChar d = true) :
    IsReadName (nameOf (c :: rest)) := by
  refine ⟨nameOf_nameOf _, asciiLowerChar c, asciiLower rest, nameOf_toList _, ?_, ?_⟩
  · rcases hc with rfl | hc
    · exact .inl (by decide)
    · exact .inr (isAttributeNameChar_asciiLowerChar hc)
  · intro d hd
    obtain ⟨e, he, rfl⟩ := List.mem_map.1 hd
    exact isAttributeNameChar_asciiLowerChar (hrest e he)

/-! ## Attributes -/

theorem mem_of_mem_firstOfEachName {entry : String × Option String} {entries : WrittenAttributes}
    (h : entry ∈ firstOfEachName entries) : entry ∈ entries := by
  induction entries with
  | nil => exact h
  | cons first rest ih =>
    rcases List.mem_cons.1 h with rfl | hrest
    · exact List.mem_cons_self
    · exact List.mem_cons_of_mem _ (ih (List.mem_filter.1 hrest).1)

theorem readEntries_nil : ReadEntries [] := by
  simp [ReadEntries]

theorem ReadEntries.cons {entries : WrittenAttributes} (h : ReadEntries entries) {name : String}
    (hname : IsReadName name) (value : Option String) : ReadEntries ((name, value) :: entries) := by
  intro entry hentry
  rcases List.mem_cons.1 hentry with rfl | hold
  · exact hname
  · exact h entry hold

theorem ReadEntries.firstOfEachName {entries : WrittenAttributes} (h : ReadEntries entries) :
    ReadEntries (firstOfEachName entries.reverse) :=
  fun entry hentry => h entry (List.mem_reverse.1 (mem_of_mem_firstOfEachName hentry))

/-- The character that is left when blanks are dropped is none. -/
theorem isSpace_of_dropWhile {text rest : List Char} {c : Char}
    (h : text.dropWhile isSpace = c :: rest) : isSpace c = false := by
  have hhead := List.head?_dropWhile_not isSpace text
  rw [h] at hhead
  simpa using hhead

theorem readAttributes?_names {fuel : Nat} {seen entries : WrittenAttributes} {text rest : List Char}
    {selfClosing : Bool} (hseen : ReadEntries seen)
    (h : readAttributes? fuel seen text = some (entries, selfClosing, rest)) :
    ReadEntries entries := by
  induction fuel generalizing seen text with
  | zero => cases h
  | succ fuel ih =>
    unfold readAttributes? at h
    split at h
    · cases h
    · cases h
      exact hseen.firstOfEachName
    · cases h
      exact hseen.firstOfEachName
    · exact ih hseen h
    · next c more hclose _ hslash heq =>
      have hname : IsReadName (nameOf (c :: more.takeWhile isAttributeNameChar)) := by
        refine isReadName_nameOf ?_ (List.all_eq_true.1 List.all_takeWhile)
        by_cases hequals : c = '='
        · exact .inl hequals
        · right
          have hspace := isSpace_of_dropWhile heq
          simp only [isAttributeNameChar, hspace, hequals, decide_false, Bool.or_self,
            Bool.false_or, Bool.not_eq_true', Bool.or_eq_false_iff, decide_eq_false_iff_not]
          exact ⟨hclose, hslash⟩
      dsimp only at h
      split at h
      · split at h
        · exact ih (hseen.cons hname _) h
        · cases h
      · exact ih (hseen.cons hname _) h

/-! ## Tokens -/

/-- If the token is a start tag, it meets a condition. -/
def Token.EveryStart (p : String → WrittenAttributes → Bool → Prop) : Token → Prop
  | .startTag name attributes selfClosing => p name attributes selfClosing
  | _ => True

variable {p : String → WrittenAttributes → Bool → Prop}

/-- Runs of text hold no start tags. -/
theorem everyStart_textTokens (fuel : Nat) (text : List Char) :
    ∀ token ∈ textTokens fuel text, token.EveryStart p := by
  fun_induction textTokens fuel text with
  | case1 => simp
  | case2 => simp
  | case3 fuel rest c after _ ih =>
    simp only [List.forall_mem_cons]
    exact ⟨by split <;> trivial, ih⟩
  | case4 fuel rest characters after _ _ ih => exact List.forall_mem_cons.2 ⟨trivial, ih⟩
  | case5 fuel rest _ ih => exact List.forall_mem_cons.2 ⟨trivial, ih⟩
  | case6 fuel c rest _ _ ih => exact List.forall_mem_cons.2 ⟨trivial, ih⟩
  | case7 fuel c rest _ _ ih => exact List.forall_mem_cons.2 ⟨trivial, ih⟩

theorem everyStart_rawTokens (text : List Char) :
    ∀ token ∈ rawTokens text, token.EveryStart p := by
  unfold rawTokens
  split
  · simp
  · simp [Token.EveryStart]

theorem everyStart_closeText (element : String) {content : List Token}
    (hcontent : ∀ token ∈ content, token.EveryStart p) (after : Option (List Char)) :
    ∀ token ∈ (closeText element content after).1, token.EveryStart p := by
  unfold closeText
  split
  · exact hcontent
  · split
    · intro token htoken
      rcases List.mem_append.1 htoken with hold | hend
      · exact hcontent token hold
      · rw [List.mem_singleton.1 hend]
        trivial
    · exact hcontent

theorem everyStart_readTag {build : String → WrittenAttributes → Bool → Token}
    (hbuild : ∀ name attributes selfClosing, ReadEntries attributes →
      (build name attributes selfClosing).EveryStart p) (text : List Char) :
    ∀ token ∈ (readTag text build).1, token.EveryStart p := by
  unfold readTag
  dsimp only
  split
  · next attributes selfClosing rest hread =>
    have hentries := readAttributes?_names readEntries_nil hread
    simpa using hbuild _ _ selfClosing hentries
  · simp

/-- Comments and document types are no start tags. -/
theorem everyStart_finishDoctype (name : String) (publicId systemId : Option String)
    (correct : Bool) (text : List Char) :
    ∀ token ∈ (finishDoctype name publicId systemId correct text).1, token.EveryStart p := by
  unfold finishDoctype
  split <;> simp [Token.EveryStart]

theorem everyStart_readSystemId (name : String) (publicId : Option String) (required : Bool)
    (text : List Char) :
    ∀ token ∈ (readSystemId name publicId required text).1, token.EveryStart p := by
  unfold readSystemId
  split
  · split <;> exact everyStart_finishDoctype _ _ _ _ _
  · exact everyStart_finishDoctype _ _ _ _ _

theorem everyStart_readDoctype (text : List Char) :
    ∀ token ∈ (readDoctype text).1, token.EveryStart p := by
  unfold readDoctype
  dsimp only
  repeat' split
  all_goals first
    | exact everyStart_finishDoctype _ _ _ _ _
    | exact everyStart_readSystemId _ _ _ _

theorem everyStart_readDeclaration (sectionsAllowed : Bool) (text : List Char) :
    ∀ token ∈ (readDeclaration sectionsAllowed text).1, token.EveryStart p := by
  unfold readDeclaration
  split
  · unfold readComment
    split <;> simp [Token.EveryStart]
  · split
    · exact everyStart_readDoctype _
    · split
      · split <;> simp [Token.EveryStart]
      · simp [readLooseComment, Token.EveryStart]

/-- The names of the attributes of a start tag are as names are read. -/
def Token.Named (token : Token) : Prop :=
  token.EveryStart fun _ attributes _ => ReadEntries attributes

theorem named_readAfterBracket (sectionsAllowed : Bool) (text : List Char) :
    ∀ token ∈ (readAfterBracket sectionsAllowed text).1, token.Named := by
  have hend : ∀ rest, ∀ token ∈ (readTag rest fun name _ _ => .endTag name).1, token.Named :=
    everyStart_readTag fun _ _ _ _ => trivial
  have hstart : ∀ rest, ∀ token ∈ (readTag rest .startTag).1, token.Named :=
    everyStart_readTag fun _ _ _ hentries => hentries
  unfold readAfterBracket
  split
  · exact everyStart_readDeclaration _ _
  · simp [Token.Named, Token.EveryStart]
  · simp
  · split
    · exact hend _
    · simp [readLooseComment, Token.Named, Token.EveryStart]
  · simp [readLooseComment, Token.Named, Token.EveryStart]
  · simp [Token.Named, Token.EveryStart]
  · split
    · exact hstart _
    · simp [Token.Named, Token.EveryStart]
  · simp [Token.Named, Token.EveryStart]

/-- Whatever content is expected, the names of attributes are as names are read. -/
theorem named_readTokens (content : Content) (sectionsAllowed : Bool) (text : List Char) :
    ∀ token ∈ (readTokens content sectionsAllowed text).1, token.Named := by
  cases content with
  | markup =>
    show ∀ token ∈ (readMarkup sectionsAllowed text).1, token.Named
    unfold readMarkup
    split
    · exact named_readAfterBracket _ _
    · exact everyStart_textTokens _ _
  | escapableText element => exact everyStart_closeText _ (everyStart_textTokens _ _) _
  | rawText element => exact everyStart_closeText _ (everyStart_rawTokens _) _
  | script => exact everyStart_closeText _ (everyStart_rawTokens _) _
  | plainText => simp [readTokens, Token.Named, Token.EveryStart]

/-! ## Events -/

namespace Lenient

/-- If the event starts an element, its attributes have names as they are read. -/
def Event.Named : Event → Prop
  | .start _ attributes => ReadEntries attributes
  | _ => True

namespace State

/-- All events so far have attributes with names as they are read. -/
def Named (state : State) : Prop :=
  ∀ event ∈ state.events, event.Named

variable {state : State}

theorem Named.emit (h : state.Named) {event : Event} (hevent : event.Named) :
    (state.emit event).Named :=
  List.forall_mem_cons.2 ⟨hevent, h⟩

theorem Named.push (h : state.Named) (name : String) {attributes : WrittenAttributes}
    (hattributes : ReadEntries attributes) : (state.push name attributes).Named :=
  List.forall_mem_cons.2 ⟨hattributes, h⟩

theorem Named.pop (h : state.Named) : state.pop.Named := by
  unfold State.pop
  split
  · exact h
  · exact List.forall_mem_cons.2 ⟨trivial, h⟩

theorem Named.popWhile (h : state.Named) (condition : String → Bool) :
    (state.popWhile condition).Named := by
  unfold State.popWhile
  generalize state.opened.takeWhile condition = names
  induction names generalizing state with
  | nil => exact h
  | cons name rest ih => exact ih h.pop

theorem Named.autoClose (h : state.Named) (name : String) : (state.autoClose name).Named :=
  h.popWhile _

theorem Named.supply (h : state.Named) (name : String) : (state.supply name).Named := by
  have hroot : (if state.opened.isEmpty then state.push "html" [] else state).Named := by
    split
    · exact h.push _ readEntries_nil
    · exact h
  unfold State.supply
  dsimp only
  split
  · exact h
  · generalize (if state.opened.isEmpty then state.push "html" [] else state) = rooted at hroot ⊢
    repeat' split
    all_goals first | exact hroot | exact hroot.push _ readEntries_nil

theorem Named.startTag (h : state.Named) (name : String) {attributes : WrittenAttributes}
    (hattributes : ReadEntries attributes) (selfClosing : Bool) :
    (state.startTag name attributes selfClosing).Named := by
  have hsupplied := (h.autoClose name).supply name
  unfold State.startTag
  dsimp only
  split
  · exact hsupplied
  · split
    · exact (hsupplied.push name hattributes).pop
    · exact hsupplied.push name hattributes

theorem Named.endTag (h : state.Named) (name : String) : (state.endTag name).Named := by
  unfold State.endTag
  split
  · exact h
  · split
    · exact (h.popWhile _).pop
    · exact h

theorem Named.text (h : state.Named) (content : List Char) : (state.text content).Named := by
  unfold State.text
  dsimp only
  generalize (if ["html", "head"].contains (state.opened.headD "html") then
    content.takeWhile isSpace else []) = blank
  have hshown : (if blank.isEmpty || state.opened.isEmpty then state
      else state.emit (.text blank)).Named := by
    split
    · exact h
    · exact h.emit trivial
  generalize (if blank.isEmpty || state.opened.isEmpty then state
    else state.emit (.text blank)) = shown at hshown ⊢
  split
  · exact hshown
  · refine Named.emit ?_ trivial
    repeat' split
    · exact (hshown.autoClose _).supply _
    · exact hshown.supply _
    · exact hshown

theorem Named.take (h : state.Named) {token : Token} (htoken : token.Named) :
    (state.take token).Named := by
  cases token with
  | spaces content | characters content => exact h.text content
  | startTag name attributes selfClosing => exact h.startTag name htoken selfClosing
  | endTag name => exact h.endTag name
  | comment content => exact h.emit trivial
  | doctype name publicId systemId correct => exact h.emit trivial

theorem Named.takeAll (h : state.Named) {tokens : List Token}
    (htokens : ∀ token ∈ tokens, token.Named) : (tokens.foldl State.take state).Named := by
  induction tokens generalizing state with
  | nil => exact h
  | cons token rest ih =>
    rw [List.forall_mem_cons] at htokens
    exact ih (h.take htokens.1) htokens.2

theorem Named.readAll (h : state.Named) (fuel : Nat) (text : List Char) :
    (readAll fuel text state).Named := by
  induction fuel generalizing state text with
  | zero => exact h
  | succ fuel ih =>
    unfold State.readAll
    split
    · exact h
    · have hmarkup : { state with content := .markup }.Named := h
      exact ih (hmarkup.takeAll (named_readTokens _ _ _)) _

end State

/-- All attributes of the events of a text have names as they are read. -/
theorem events_named (text : List Char) : ∀ event ∈ events text, event.Named := by
  have hinitial : State.initial.Named := by simp [State.Named, State.initial]
  have hclosed := (hinitial.readAll (text.length + 1) text).popWhile fun _ => true
  exact fun event hevent => hclosed event (List.mem_reverse.1 hevent)

end Lenient

end PageBlocks.Html
