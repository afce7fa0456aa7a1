import Mathlib.Data.List.TakeWhile
import PageBlocks.Dom.Text
import PageBlocks.Html.Construction
import PageBlocks.Proofs.Html.AsWritten
import PageBlocks.Proofs.Html.Spelling
import PageBlocks.Proofs.Sanitize.Written
/-!
# Emphasized text is sanitized and read again

Text that is put between the tags of emphasis, and in which every bracket and every ampersand stands for
itself, is left by the sanitizer as it is, except that it is spelled with references where that is
needed.

What is written so is read as one element on a page of its own, which holds the text with its references
read, and nothing else.  While it is read, the state of the construction is known but for the text that
has been read so far.

## Main results

* `Html.Builder.process_text` — what a token of text adds to the text so far.
* `Html.parse_emphasis` — the page that emphasized text makes.
* `Html.Lenient.events_emphasis` — the events of the lenient reading.
* `Sanitize.sanitize_emphasis` — what the sanitizer makes of emphasized text.
* `Sanitize.ofMarkup_emphasis` — what it has written is read back.
-/

namespace PageBlocks

/-! ## Emphasized text as browsers read it -/

/-- Text as the only content of an element. -/
def Forest.ofText (id : NodeId) (content : List Char) : Forest :=
  if content = [] then .nil else .leaf id (.text .plain (String.ofList content)) .nil

/-- An element of emphasized text. -/
def emphasisNode (id : NodeId) (content : List Char) : Node :=
  .element id ⟨"em", .html, []⟩ (.ofText (id + 1) content)

theorem elementChildren_emphasisNode (id : NodeId) (content : List Char) :
    (emphasisNode id content).elementChildren = [] := by
  cases content <;> rfl

theorem text_emphasisNode (id : NodeId) (content : List Char) :
    (emphasisNode id content).text = String.ofList content := by
  cases content with
  | nil => rfl
  | cons c rest => exact String.append_empty

namespace Html

/-- Text between the tags of emphasis. -/
def emphasize (text : List Char) : List Char :=
  "<em>".toList ++ text ++ "</em>".toList

/-- A page with nothing but emphasized text. -/
def emphasisPage (content : List Char) : Dom :=
  ⟨.element 0 Dom.documentTag
    (.element 1 ⟨"html", .html, []⟩
      (.element 2 ⟨"head", .html, []⟩ .nil
        (.element 3 ⟨"body", .html, []⟩ (emphasisNode 4 content).toForest .nil)) .nil) .nil,
    if content = [] then 5 else 6, false⟩

namespace Builder

/-- The construction of that page after the text so far. -/
def emphasizing (content : List Char) (framesetOk : Bool) : Builder :=
  { initial with
    dom := emphasisPage content
    stack := [⟨4, "em", .html⟩, ⟨3, "body", .html⟩, ⟨1, "html", .html⟩]
    formatting := [some ⟨4, "em", .html⟩]
    mode := .inBody
    head := some ⟨2, "head", .html⟩
    quirks := true
    framesetOk := framesetOk }

variable (content : List Char) (framesetOk : Bool)

theorem insertText_emphasizing (more : List Char) :
    (emphasizing content framesetOk).insertText more =
      emphasizing (content ++ more) framesetOk := by
  cases more with
  | nil => rw [List.append_nil]; rfl
  | cons d more =>
    cases content with
    | nil => rfl
    | cons c content =>
      have hjoined : String.ofList (c :: content ++ d :: more) =
          String.ofList (c :: content) ++ String.ofList (d :: more) := String.ofList_append
      rw [emphasizing, emphasizing, emphasisPage, emphasisPage, emphasisNode, emphasisNode,
        Forest.ofText, Forest.ofText, hjoined]
      rfl

/-- A token of text adds its text to the one so far. -/
theorem process_text {token : Token} (h : token.isText = true) :
    ∃ framesetOk', process maxLooks (emphasizing content framesetOk) token =
      emphasizing (content ++ token.text) framesetOk' := by
  cases token with
  | spaces more => exact ⟨framesetOk, insertText_emphasizing content framesetOk more⟩
  | characters more =>
    have hprocess : process maxLooks (emphasizing content framesetOk) (.characters more) =
        if more.all isSpace then (emphasizing content framesetOk).insertText more
        else ((emphasizing content framesetOk).insertText more).forbidFrameset := rfl
    rw [hprocess, insertText_emphasizing]
    split
    · exact ⟨framesetOk, rfl⟩
    · exact ⟨false, rfl⟩
  | startTag _ _ _ | endTag _ | comment _ | doctype _ _ _ _ => cases h

theorem foldl_process_text {tokens : List Token} (h : ∀ token ∈ tokens, token.isText = true) :
    ∃ framesetOk', tokens.foldl (process maxLooks) (emphasizing content framesetOk) =
      emphasizing (content ++ tokens.flatMap Token.text) framesetOk' := by
  induction tokens generalizing content framesetOk with
  | nil => exact ⟨framesetOk, by rw [List.flatMap_nil, List.append_nil]; rfl⟩
  | cons token tokens ih =>
    obtain ⟨htoken, hrest⟩ := List.forall_mem_cons.1 h
    obtain ⟨middle, hfirst⟩ := process_text content framesetOk htoken
    obtain ⟨last, hlast⟩ := ih (content ++ token.text) middle hrest
    exact ⟨last, by rw [List.foldl_cons, hfirst, hlast, List.append_assoc, List.flatMap_cons]⟩

/-- One step in the reading of ordinary markup outside of drawings and formulas. -/
theorem readAll_succ {text : List Char} (hne : text ≠ []) {b : Builder}
    (hcontent : b.content = .markup) (hsections : b.allowsSections = false) (fuel : Nat) :
    readAll (fuel + 1) text b =
      readAll fuel (readMarkup false text).2
        ((readMarkup false text).1.foldl (process maxLooks) b) := by
  have hempty : ¬text.isEmpty = true := fun h => hne (List.isEmpty_iff.1 h)
  have hstate : { b with content := .markup } = b := by rw [← hcontent]
  rw [readAll, if_neg hempty, hcontent, hsections, hstate]
  rfl

theorem readAll_nil (fuel : Nat) (b : Builder) : readAll fuel [] b = b := by
  cases fuel <;> rfl

/-- After the text of the emphasis its end tag is read. -/
theorem readAll_endEmphasis (fuel : Nat) :
    readAll (fuel + 1) "</em>".toList (emphasizing content framesetOk) =
      process maxLooks (emphasizing content framesetOk) (.endTag "em") := by
  have hread : readMarkup false "</em>".toList = ([.endTag "em"], []) := rfl
  rw [readAll_succ (by decide) rfl rfl, hread, readAll_nil]
  rfl

theorem readAll_emphasizing {run : List Char} (h : '<' ∉ run) (fuel : Nat) :
    ∃ framesetOk, readAll (fuel + 2) (run ++ "</em>".toList) (emphasizing [] true) =
      process maxLooks (emphasizing (decode false run) framesetOk) (.endTag "em") := by
  cases run with
  | nil => exact ⟨true, readAll_endEmphasis [] true (fuel + 1)⟩
  | cons c rest =>
    have hinside : ∀ d ∈ c :: rest, decide (d ≠ '<') = true := fun d hd =>
      decide_eq_true fun heq => h (heq ▸ hd)
    have htake : (c :: rest).takeWhile (· ≠ '<') = c :: rest := List.takeWhile_eq_self_iff.2 hinside
    have hdrop : (c :: rest).dropWhile (· ≠ '<') = [] := List.dropWhile_eq_nil_iff.2 hinside
    have hread := readMarkup_text (of_decide_eq_true (hinside c List.mem_cons_self)) false rest
      "/em>".toList
    rw [htake, hdrop] at hread
    obtain ⟨framesetOk, hfold⟩ :=
      foldl_process_text [] true (isText_textTokens (c :: rest).length (c :: rest))
    rw [List.nil_append, flatMap_textTokens (Nat.le_refl _)] at hfold
    refine ⟨framesetOk, ?_⟩
    show readAll (fuel + 1 + 1) (c :: rest ++ '<' :: "/em>".toList) _ = _
    rw [readAll_succ (List.append_ne_nil_of_left_ne_nil (List.cons_ne_nil c rest) _) rfl rfl, hread,
      hfold]
    exact readAll_endEmphasis _ _ fuel

end Builder

/-- Emphasized text is read as a page with nothing but that text, of which the references are read. -/
theorem parse_emphasis {run : List Char} (h : '<' ∉ run) :
    parse (String.ofList (emphasize run)) = emphasisPage (decode false run) := by
  have hstart (rest : List Char) : readMarkup false ("<em>".toList ++ rest) =
      ([.startTag "em" [] false], rest) := rfl
  have hlength : (emphasize run).length = 4 + run.length + 5 := by
    rw [emphasize, List.length_append, List.length_append]
    rfl
  have hfuel : (emphasize run).length + 1 = run.length + 7 + 2 + 1 := by omega
  obtain ⟨framesetOk, hread⟩ := Builder.readAll_emphasizing h (run.length + 7)
  rw [parse, String.toList_ofList, hfuel, emphasize, List.append_assoc,
    Builder.readAll_succ (List.append_ne_nil_of_left_ne_nil (by decide) _) rfl rfl, hstart]
  show (Builder.finish Builder.maxLooks (Builder.readAll (run.length + 7 + 2)
    (run ++ "</em>".toList) (Builder.emphasizing [] true))).dom = _
  rw [hread]
  rfl

end Html

open Html

/-! ## Events -/

namespace Html.Lenient

/-- A tag is read in one step. -/
theorem State.readAll_tag {tag : List Char} {token : Token}
    (hread : ∀ rest, readMarkup false (tag ++ rest) = ([token], rest)) (hne : tag ≠ [])
    {state : State} (hcontent : state.content = .markup) (fuel : Nat) (rest : List Char) :
    readAll (fuel + 1) (tag ++ rest) state = readAll fuel rest (state.take token) := by
  rw [readAll_succ (List.append_ne_nil_of_left_ne_nil hne _) hcontent, hread]
  rfl

/-- The emphasis has begun. -/
def emphasisBegun : State :=
  ⟨["em", "body", "html"], true, true, 0, [.start "em" [], .start "body" [], .start "html" []],
    .markup⟩

theorem readAll_beginEmphasis (fuel : Nat) (rest : List Char) :
    State.readAll (fuel + 3) ("<html><body><em>".toList ++ rest) .initial =
      State.readAll fuel rest emphasisBegun := by
  have hroot (rest : List Char) : readMarkup false ("<html>".toList ++ rest) =
      ([.startTag "html" [] false], rest) := rfl
  have hbody (rest : List Char) : readMarkup false ("<body>".toList ++ rest) =
      ([.startTag "body" [] false], rest) := rfl
  have hemphasis (rest : List Char) : readMarkup false ("<em>".toList ++ rest) =
      ([.startTag "em" [] false], rest) := rfl
  have hsplit : "<html><body><em>".toList ++ rest =
      "<html>".toList ++ ("<body>".toList ++ ("<em>".toList ++ rest)) := rfl
  rw [hsplit, State.readAll_tag hroot (by decide) rfl, State.readAll_tag hbody (by decide) rfl,
    State.readAll_tag hemphasis (by decide) rfl]
  rfl

theorem readAll_endEmphasis (fuel : Nat) (pieces : List (List Char)) :
    State.readAll (fuel + 3) "</em></body></html>".toList (emphasisBegun.emitTexts pieces) =
      { emphasisBegun.emitTexts pieces with
        opened := []
        events := .finish :: .finish :: .finish :: (emphasisBegun.emitTexts pieces).events } := by
  have hemphasis (rest : List Char) : readMarkup false ("</em>".toList ++ rest) =
      ([.endTag "em"], rest) := rfl
  have hbody (rest : List Char) : readMarkup false ("</body>".toList ++ rest) =
      ([.endTag "body"], rest) := rfl
  have hroot (rest : List Char) : readMarkup false ("</html>".toList ++ rest) =
      ([.endTag "html"], rest) := rfl
  have hsplit : "</em></body></html>".toList =
      "</em>".toList ++ ("</body>".toList ++ ("</html>".toList ++ [])) := rfl
  rw [hsplit, State.readAll_tag hemphasis (by decide) rfl, State.readAll_tag hbody (by decide) rfl,
    State.readAll_tag hroot (by decide) rfl]
  cases fuel <;> rfl

/-- Emphasized text on a page of its own is read as events of text. -/
theorem events_emphasis {text : List Char} (h : readsAsWritten text = true) :
    ∃ pieces : List (List Char), pieces.flatten = text ∧
      events ("<html><body>".toList ++ emphasize text ++ "</body></html>".toList) =
        [.start "html" [], .start "body" [], .start "em" []] ++ pieces.map Event.text ++
          [.finish, .finish, .finish] := by
  have hinside : emphasisBegun.isInside = true := rfl
  obtain ⟨pieces, spare, hflat, hread⟩ :=
    State.readAll_asWritten h "/em></body></html>".toList hinside rfl
  have hpage : "<html><body>".toList ++ emphasize text ++ "</body></html>".toList =
      "<html><body><em>".toList ++ (text ++ "</em></body></html>".toList) := by
    simp [emphasize]
  have hfuel : ("<html><body><em>".toList ++ (text ++ "</em></body></html>".toList)).length + 1 =
      text.length + 33 + 3 := by
    simp only [List.length_append]
    show 16 + (text.length + 19) + 1 = text.length + 33 + 3
    omega
  have htext : State.readAll (text.length + 33) (text ++ "</em></body></html>".toList)
      emphasisBegun =
        State.readAll (spare + 30 + 3) "</em></body></html>".toList
          (emphasisBegun.emitTexts pieces) := hread 33
  refine ⟨pieces, hflat, ?_⟩
  rw [events, hpage, hfuel, readAll_beginEmphasis, htext, readAll_endEmphasis]
  simp [State.popWhile, State.emitTexts, emphasisBegun]

end Html.Lenient

/-! ## The fragment -/

namespace Fragment

open Html.Lenient (Event)

/-- A fragment of nothing but text. -/
def ofText (content : List Char) : Fragment :=
  consText content nil

theorem consText_ofText (content more : List Char) :
    consText content (ofText more) = ofText (content ++ more) := by
  cases more with
  | nil => rw [List.append_nil]; rfl
  | cons c more => cases content <;> rfl

theorem foldr_takeEvent_text (pieces : List (List Char)) (outer : List Fragment) :
    (pieces.map Event.text).foldr takeEvent (nil :: outer) = ofText pieces.flatten :: outer := by
  induction pieces with
  | nil => rfl
  | cons piece pieces ih =>
    rw [List.map_cons, List.foldr_cons, ih, List.flatten_cons, ← consText_ofText]
    rfl

/-- The fragment that the events of emphasized text describe. -/
theorem ofEvents_emphasis (pieces : List (List Char)) :
    ofEvents ([.start "html" [], .start "body" [], .start "em" []] ++ pieces.map Event.text ++
      [.finish, .finish, .finish]) =
        .element "html" [] (.element "body" [] (.element "em" [] (ofText pieces.flatten) .nil) .nil)
          .nil := by
  rw [ofEvents, List.foldr_append, List.foldr_append]
  show ((_ : List Event).foldr takeEvent
    ((pieces.map Event.text).foldr takeEvent (nil :: [nil, nil, nil]))).headD nil = _
  rw [foldr_takeEvent_text]
  rfl

end Fragment

/-! ## Sanitizing -/

namespace Sanitize

open Html.Lenient (readsAsWritten)

theorem prune_ofText (policy : Policy) (content : List Char) :
    prune policy (.ofText content) = .ofText content := by
  cases content <;> rfl

theorem markup_ofText (content : List Char) : markup (.ofText content) = escapeText content := by
  cases content with
  | nil => rfl
  | cons c rest => exact List.append_nil _

theorem markup_emphasis (content : List Char) :
    markup (.element "em" [] (.ofText content) .nil) = emphasize (escapeText content) := by
  rw [markup, markup_ofText]
  show ("<em>".toList ++ ((escapeText content ++ "</em".toList) ++ ['>'])) ++ [] = _
  rw [List.append_nil, emphasize, List.append_assoc, List.append_assoc]
  rfl

theorem map_replaceNull {text : List Char} (h : ∀ c ∈ text, isForbiddenControl c = false) :
    text.map replaceNull = text := by
  have hsame : ∀ c ∈ text, replaceNull c = id c := by
    intro c hc
    rw [replaceNull, if_neg, id_eq]
    intro hzero
    have hforbidden : isForbiddenControl c = true := by
      rw [← Char.ofNat_toNat c, hzero]
      decide
    rw [h c hc] at hforbidden
    cases hforbidden
  rw [List.map_congr_left hsame, List.map_id]

/-- The sanitizer leaves emphasized text as it is and spells it where that is needed. -/
theorem sanitize_emphasis (policy : Policy) {text : List Char} (h : readsAsWritten text = true)
    (hcontrols : ∀ c ∈ text, isForbiddenControl c = false) :
    sanitize policy (emphasize text) = .ok (emphasize (escapeText text)) := by
  obtain ⟨pieces, hflat, hevents⟩ := Html.Lenient.events_emphasis h
  have hblank : Text.isBlankText (emphasize text) = false := rfl
  have hpart : looksLikePage (emphasize text) = false := rfl
  have hpage : (asPage (emphasize text)).map replaceNull =
      "<html><body>".toList ++ emphasize text ++ "</body></html>".toList := by
    rw [asPage, hpart, if_neg Bool.false_ne_true, emphasize]
    simp only [List.map_append, map_replaceNull hcontrols]
    rfl
  have hbody : bodyOf? (Fragment.ofEvents (Html.Lenient.events
      ((asPage (emphasize text)).map replaceNull))) = .ok (.element "em" [] (.ofText text) .nil) := by
    rw [hpage, hevents, Fragment.ofEvents_emphasis, hflat]
    rfl
  have hfails : attributesFail (.element "em" [] (.ofText text) .nil) = false := by
    cases text <;> rfl
  have haddress : addressFault? (.element "em" [] (.ofText text) .nil) = none := by
    cases text <;> rfl
  have htext : textFails policy (.element "em" [] (.ofText text) .nil) = false := by
    cases text <;> obtain ⟨_ | _⟩ := policy <;> rfl
  have hkept : prune policy (.element "em" [] (.ofText text) .nil) =
      .element "em" [] (prune policy (.ofText text)) .nil := by
    obtain ⟨_ | _⟩ := policy <;> rfl
  rw [sanitize, hblank, if_neg Bool.false_ne_true]
  dsimp only
  rw [hbody]
  show (if attributesFail _ then _ else _) = _
  rw [hfails, if_neg Bool.false_ne_true, haddress]
  dsimp only
  rw [htext, if_neg Bool.false_ne_true, hkept, prune_ofText, markup_emphasis]

/-- What is written is not changed before it is read again. -/
theorem cleanMarkup_emphasis {text : List Char}
    (hcontrols : ∀ c ∈ text, isForbiddenControl c = false) :
    cleanMarkup (emphasize (escapeText text)) = emphasize (escapeText text) := by
  have hkept : withoutControls (escapeText text) = escapeText text := by
    rw [escapeText, withoutControls_flatMap isSpelling_escapeChar, withoutControls_of_none hcontrols]
  have hreturns : '\r' ∉ emphasize (escapeText text) := by
    have htext := notMem_flatMap (fun c => (notMem_escapeChar c).2) text
    simp [emphasize, escapeText, htext]
  rw [cleanMarkup_of_noReturns hreturns, emphasize, withoutControls_append, withoutControls_append,
    hkept]
  rfl

/-- Emphasized text that was sanitized is read back as the text that it was, whatever it is. -/
theorem ofMarkup_emphasis {text : List Char}
    (hcontrols : ∀ c ∈ text, isForbiddenControl c = false) :
    Dom.ofMarkup (String.ofList (emphasize (escapeText text))) = emphasisPage text := by
  have hbracket : '<' ∉ escapeText text := notMem_flatMap (fun c => (notMem_escapeChar c).1) text
  have hdecoded : decode false (escapeText text) = text :=
    decode_flatMap isSpelling_escapeChar false text
  show (parse (cleanMarkupString (String.ofList (emphasize (escapeText text))))).numbered = _
  rw [cleanMarkupString, String.toList_ofList, cleanMarkup_emphasis hcontrols,
    parse_emphasis hbracket, hdecoded]
  cases text <;> rfl

end Sanitize

end PageBlocks
