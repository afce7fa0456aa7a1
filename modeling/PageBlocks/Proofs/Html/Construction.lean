import PageBlocks.Html.Construction
import PageBlocks.Proofs.Html.Operations
import PageBlocks.Proofs.Html.SafeMarkup
/-!
# Harmless pages from safe markup

Whatever the mode is, and also inside drawings and formulas, a harmless token keeps the state of
tree construction harmless.  So does the end of the text, where missing parts are supplied.  Since
tokens of safe markup are harmless, whatever content tree construction expects, the page that it
writes is harmless.

A rule that is given the start tag of a harmless element, or any other token, leads from a harmless
state to a harmless one.  The elements that a rule starts of its own accord, where a tag is left
out, are harmless as well.  The lemmas about rules are tagged, so that each rule follows from the rules
that it falls back on.

## Main results

* `Builder.Harmless.startInBody`, `Builder.Harmless.endInBody` — the rules of the body.
* `Builder.Harmless.startInTable` and its like — the rules of tables and choices.
* `Builder.Harmless.startInForeign` — the rules of drawings and formulas.
* `Builder.Harmless.process` — one token.
* `Builder.Harmless.finish` — the end of the text.
* `Builder.Harmless.readAll` — all tokens of safe markup.
* `everyTag_parse` — the page.
-/

namespace PageBlocks.Html

open Outcome

@[grind =]
theorem Outcome.state_done (b : Builder) : (done b).state = b := rfl

@[grind =]
theorem Outcome.state_retry (b : Builder) : (retry b).state = b := rfl

namespace Builder.Harmless

variable {b : Builder} (h : b.Harmless) {tag : StartTag}

include h

/-! ## Before the body -/

theorem insertDoctype (name : String) (publicId systemId : Option String) (correct : Bool) :
    (b.insertDoctype name publicId systemId correct).Harmless :=
  (h.withDom ((h.dom.createLeaf _).append _ _)).withFlags _ _ _ _ _ _ _ _ h.content

@[grind ←]
theorem startRoot : b.startRoot.Harmless :=
  (h.insertHtml (by decide) harmlessAttributes_nil).enter _

@[grind ←]
theorem startHead {attributes : List (String × String)}
    (hattributes : HarmlessAttributes attributes) : (b.startHead attributes).Harmless := by
  have hstarted : (b.insertHtml "head" attributes).Harmless := h.insertHtml (by decide) hattributes
  exact ⟨hstarted.dom, hstarted.stack, hstarted.formatting, fun element helement =>
    hstarted.stack element (List.mem_of_mem_head? helement), hstarted.content⟩

@[grind ←]
theorem endHead : b.endHead.Harmless :=
  h.pop.enter _

@[grind ←]
theorem implyBody : b.implyBody.Harmless := by
  have hstarted : ((b.insertHtml "body" []).enter .inBody).Harmless :=
    (h.insertHtml (by decide) harmlessAttributes_nil).enter _
  exact hstarted.withFlags _ _ _ _ _ _ _ _ hstarted.content

@[grind ←]
theorem startHtml (htag : tag.Harmless) : (b.startHtml tag).Harmless := by
  unfold Builder.startHtml
  split
  · exact h.addAttributes _ htag.attributes
  · exact h

@[grind ←]
theorem startInHead (htag : tag.Harmless) : (b.startInHead tag).state.Harmless := by
  have ⟨hname, hattributes⟩ := htag
  unfold Builder.startInHead
  split <;> grind

@[grind ←]
theorem endInHead (name : String) : (b.endInHead name).state.Harmless := by
  unfold Builder.endInHead
  split <;> grind

/-! ## The body: end tags -/

@[grind ←]
theorem endParagraph : b.endParagraph.Harmless := by
  unfold Builder.endParagraph
  split
  · exact (h.closeImplied "p").closeThroughName "p"
  · exact h.insertVoid (by decide) harmlessAttributes_nil

@[grind ←]
theorem closeParagraph : b.closeParagraph.Harmless := by
  unfold Builder.closeParagraph
  split
  · exact h.endParagraph
  · exact h

@[grind ←]
theorem endBlock (name : String) : (b.endBlock name).Harmless := by
  unfold Builder.endBlock
  grind

@[grind ←]
theorem endForm : b.endForm.Harmless := by
  unfold Builder.endForm
  grind

@[grind ←]
theorem endListItem (name : String) : (b.endListItem name).Harmless := by
  unfold Builder.endListItem
  grind

@[grind ←]
theorem endHeading : b.endHeading.Harmless := by
  unfold Builder.endHeading
  grind

@[grind ←]
theorem endHiding (name : String) : (b.endHiding name).Harmless := by
  unfold Builder.endHiding
  grind

@[grind ←]
theorem endBody : b.endBody.Harmless := by
  unfold Builder.endBody
  grind

@[grind ←]
theorem endInBody (name : String) : (b.endInBody name).state.Harmless := by
  unfold Builder.endInBody
  split <;> grind

/-- Misplaced content of a table is dealt with by a rule of the body. -/
theorem fostering {rule : Builder → Builder}
    (hrule : ∀ inner : Builder, inner.Harmless → (rule inner).Harmless) :
    (b.fostering rule).Harmless := by
  have hinner : { b with fosterParenting := true }.Harmless :=
    h.withFlags _ _ _ _ _ _ _ _ h.content
  exact (hrule _ hinner).withFlags _ _ _ _ _ _ _ _ (hrule _ hinner).content

theorem endMisplaced (name : String) :
    (b.fostering fun b => (b.endInBody name).state).Harmless :=
  h.fostering fun _ hinner => hinner.endInBody name

@[grind ←]
theorem endImplied (name : String) : (b.endImplied name).Harmless := by
  have hmisplaced := h.endMisplaced name
  unfold Builder.endImplied
  grind

/-! ## The body: text -/

@[grind ←]
theorem charactersInBody (content : List Char) : (b.charactersInBody content).Harmless := by
  unfold Builder.charactersInBody
  grind

@[grind ←]
theorem spacesInBody (content : List Char) : (b.spacesInBody content).Harmless := by
  unfold Builder.spacesInBody
  grind

/-! ## The body: start tags -/

@[grind ←]
theorem startListItem (htag : tag.Harmless) : (b.startListItem tag).Harmless := by
  have ⟨hname, hattributes⟩ := htag
  unfold Builder.startListItem
  grind

@[grind ←]
theorem startLink (htag : tag.Harmless) : (b.startLink tag).Harmless := by
  have ⟨hname, hattributes⟩ := htag
  unfold Builder.startLink
  grind

@[grind ←]
theorem insertInlineVoid (htag : tag.Harmless) : (b.insertInlineVoid tag).Harmless :=
  (h.reopenFormatting.insertVoid htag.name htag.attributes).forbidFrameset

@[grind ←]
theorem insertInput (htag : tag.Harmless) : (b.insertInput tag).Harmless := by
  unfold Builder.insertInput
  grind

@[grind ←]
theorem startForm (htag : tag.Harmless) : (b.startForm tag).Harmless := by
  have hstarted := h.closeParagraph.insertHtml htag.name htag.attributes
  unfold Builder.startForm
  grind

@[grind ←]
theorem insertRule {attributes : List (String × String)}
    (hattributes : HarmlessAttributes attributes) : (b.insertRule attributes).Harmless :=
  (h.closeParagraph.insertVoid (by decide) hattributes).forbidFrameset

/-- The field of a search form has the attributes of the tag that asks for the form. -/
@[grind ←]
theorem insertSearchForm (htag : tag.Harmless) : (b.insertSearchForm tag).Harmless := by
  have hformName : "form" ≠ "script" := by decide
  have hinputName : "input" ≠ "script" := by decide
  have hform : StartTag.Harmless ⟨"form", tag.attributes.filter (·.1 = "action"), false⟩ :=
    ⟨hformName, htag.attributes.filter _⟩
  have hothers : Tag.Harmless ⟨"input", .html,
      tag.attributes.filter fun entry => !(["action", "prompt"].contains entry.1)⟩ :=
    ⟨hinputName, htag.attributes.filter _⟩
  have hindex : HarmlessAttribute "name" "isindex" := .of_notMem (by decide) (by decide)
  have hfield := hothers.setAttribute hindex
  unfold Builder.insertSearchForm
  split
  · exact h
  · have hopened := ((h.startForm hform).insertRule harmlessAttributes_nil).reopenFormatting
    have hlabelName : "label" ≠ "script" := by decide
    have hlabel := hopened.insertHtml hlabelName harmlessAttributes_nil
    have hinput : StartTag.Harmless ⟨"input", _, false⟩ := ⟨hinputName, hfield.attributes⟩
    have hfilled := (hlabel.charactersInBody ((tag.attributes.lookup "prompt").getD
      searchPrompt).toList).insertInput hinput
    exact ((hfilled.endOther _).insertRule harmlessAttributes_nil).endForm

@[grind ←]
theorem startForeign (htag : tag.Harmless) (vocabulary : Vocabulary) :
    (b.startForeign tag vocabulary).Harmless := by
  have hstarted := h.insert htag.name (htag.attributes.respell vocabulary) vocabulary
  unfold Builder.startForeign
  grind

@[grind ←]
theorem startSelect (htag : tag.Harmless) : (b.startSelect tag).Harmless := by
  have hstarted := (h.reopenFormatting.insertHtml htag.name htag.attributes).forbidFrameset
  unfold Builder.startSelect
  grind

@[grind ←]
theorem startSecondBody (htag : tag.Harmless) : (b.startSecondBody tag).Harmless := by
  have hattributes := htag.attributes
  unfold Builder.startSecondBody
  grind

@[grind ←]
theorem startLateFrameset (htag : tag.Harmless) : (b.startLateFrameset tag).Harmless := by
  unfold Builder.startLateFrameset
  split
  · next root body rest hstack =>
    have hroot : root ∈ b.stack := List.mem_reverse.1 (hstack ▸ List.mem_cons_self)
    split
    · have hleft : { b with dom := b.dom.detach body.id, stack := [root] }.Harmless :=
        (h.withDom (h.dom.detach body.id)).withStack (by simpa using hroot)
      exact (hleft.insertHtml htag.name htag.attributes).enter _
    · exact h
  · exact h

@[grind ←]
theorem startInBody (htag : tag.Harmless) : (b.startInBody tag).state.Harmless := by
  have ⟨hname, hattributes⟩ := htag
  unfold Builder.startInBody
  split <;> grind

theorem startMisplaced (htag : tag.Harmless) :
    (b.fostering fun b => (b.startInBody tag).state).Harmless :=
  h.fostering fun _ hinner => hinner.startInBody htag

/-! ## Modes around the head -/

@[grind ←]
theorem startInHeadNoscript (htag : tag.Harmless) :
    (b.startInHeadNoscript tag).state.Harmless := by
  unfold Builder.startInHeadNoscript
  split <;> grind

@[grind ←]
theorem startAfterHead (htag : tag.Harmless) : (b.startAfterHead tag).state.Harmless := by
  have ⟨hname, hattributes⟩ := htag
  have hreopened : ∀ head, b.head = some head → { b with stack := head :: b.stack }.Harmless := by
    intro head hhead
    refine ⟨h.dom, fun element helement => ?_, h.formatting, h.head, h.content⟩
    rcases List.mem_cons.1 helement with rfl | hold
    · exact h.head _ hhead
    · exact h.stack element hold
  unfold Builder.startAfterHead
  split <;> grind

/-! ## Tables -/

@[grind ←]
theorem resetMode : b.resetMode.Harmless :=
  h.enter _

@[grind ←]
theorem endTable : b.endTable.Harmless := by
  unfold Builder.endTable
  grind

@[grind ←]
theorem endRowGroup : b.endRowGroup.Harmless :=
  (h.closeUntilNames _).pop.enter _

@[grind ←]
theorem endRow : b.endRow.Harmless :=
  (h.closeUntilNames _).pop.enter _

@[grind ←]
theorem endTablePart : b.endTablePart.Harmless := by
  unfold Builder.endTablePart
  grind

@[grind ←]
theorem startColumnGroup {attributes : List (String × String)}
    (hattributes : HarmlessAttributes attributes) : (b.startColumnGroup attributes).Harmless :=
  ((h.closeUntilNames _).insertHtml (by decide) hattributes).enter _

@[grind ←]
theorem startRowGroup (htag : tag.Harmless) : (b.startRowGroup tag).Harmless :=
  ((h.closeUntilNames _).insertHtml htag.name htag.attributes).enter _

@[grind ←]
theorem startInTable (htag : tag.Harmless) : (b.startInTable tag).state.Harmless := by
  have ⟨hname, hattributes⟩ := htag
  have hbody : (StartTag.plain "tbody").Harmless := ⟨by decide, harmlessAttributes_nil⟩
  have hmisplaced := h.startMisplaced htag
  unfold Builder.startInTable
  split <;> grind

@[grind ←]
theorem endInTable (name : String) : (b.endInTable name).state.Harmless := by
  have hmisplaced := h.endMisplaced name
  unfold Builder.endInTable
  split <;> grind

@[grind ←]
theorem flushPendingText : b.flushPendingText.Harmless := by
  have hflushed : { b with pendingText := [], mode := b.returnMode }.Harmless :=
    h.withFlags _ _ _ _ _ _ _ _ h.content
  unfold Builder.flushPendingText
  dsimp only
  split
  · exact hflushed.insertText _
  · exact hflushed.fostering fun _ hinner => hinner.charactersInBody _

@[grind ←]
theorem endCaption : b.endCaption.Harmless :=
  ((h.closeImplied _).closeThroughName _).clearToMarker.enter _

@[grind ←]
theorem startInCaption (htag : tag.Harmless) : (b.startInCaption tag).state.Harmless := by
  unfold Builder.startInCaption
  split <;> grind

@[grind ←]
theorem endInCaption (name : String) : (b.endInCaption name).state.Harmless := by
  unfold Builder.endInCaption
  split <;> grind

@[grind ←]
theorem endColumnGroup : b.endColumnGroup.Harmless := by
  unfold Builder.endColumnGroup
  grind

@[grind ←]
theorem leaveColumnGroup : b.leaveColumnGroup.state.Harmless := by
  unfold Builder.leaveColumnGroup
  grind

@[grind ←]
theorem startInColumnGroup (htag : tag.Harmless) :
    (b.startInColumnGroup tag).state.Harmless := by
  have ⟨hname, hattributes⟩ := htag
  unfold Builder.startInColumnGroup
  split <;> grind

@[grind ←]
theorem endInColumnGroup (name : String) : (b.endInColumnGroup name).state.Harmless := by
  unfold Builder.endInColumnGroup
  split <;> grind

@[grind ←]
theorem startRow {attributes : List (String × String)}
    (hattributes : HarmlessAttributes attributes) : (b.startRow attributes).Harmless :=
  ((h.closeUntilNames _).insertHtml (by decide) hattributes).enter _

@[grind ←]
theorem startInTableBody (htag : tag.Harmless) : (b.startInTableBody tag).state.Harmless := by
  have hattributes := htag.attributes
  unfold Builder.startInTableBody
  split <;> grind

@[grind ←]
theorem endInTableBody (name : String) : (b.endInTableBody name).state.Harmless := by
  unfold Builder.endInTableBody
  split <;> grind

@[grind ←]
theorem startInRow (htag : tag.Harmless) : (b.startInRow tag).state.Harmless := by
  have ⟨hname, hattributes⟩ := htag
  unfold Builder.startInRow
  split <;> grind

@[grind ←]
theorem endInRow (name : String) : (b.endInRow name).state.Harmless := by
  unfold Builder.endInRow
  split <;> grind

@[grind ←]
theorem endCell (name : String) : (b.endCell name).Harmless := by
  unfold Builder.endCell
  grind

@[grind ←]
theorem closeCell : b.closeCell.Harmless := by
  unfold Builder.closeCell
  grind

@[grind ←]
theorem startInCell (htag : tag.Harmless) : (b.startInCell tag).state.Harmless := by
  unfold Builder.startInCell
  split <;> grind

@[grind ←]
theorem endInCell (name : String) : (b.endInCell name).state.Harmless := by
  unfold Builder.endInCell
  split <;> grind

/-! ## Choices -/

@[grind ←]
theorem endSelect : b.endSelect.Harmless := by
  unfold Builder.endSelect
  grind

@[grind ←]
theorem startInSelect (htag : tag.Harmless) : (b.startInSelect tag).state.Harmless := by
  have ⟨hname, hattributes⟩ := htag
  unfold Builder.startInSelect
  split <;> grind

@[grind ←]
theorem endInSelect (name : String) : (b.endInSelect name).state.Harmless := by
  unfold Builder.endInSelect
  split <;> grind

@[grind ←]
theorem startInSelectInTable (htag : tag.Harmless) :
    (b.startInSelectInTable tag).state.Harmless := by
  unfold Builder.startInSelectInTable
  grind

@[grind ←]
theorem endInSelectInTable (name : String) : (b.endInSelectInTable name).state.Harmless := by
  unfold Builder.endInSelectInTable
  grind

/-! ## Framesets -/

@[grind ←]
theorem startInFrameset (htag : tag.Harmless) : (b.startInFrameset tag).state.Harmless := by
  have ⟨hname, hattributes⟩ := htag
  unfold Builder.startInFrameset
  split <;> grind

@[grind ←]
theorem endInFrameset (name : String) : (b.endInFrameset name).state.Harmless := by
  unfold Builder.endInFrameset
  grind

@[grind ←]
theorem startAfterFrameset (htag : tag.Harmless) :
    (b.startAfterFrameset tag).state.Harmless := by
  unfold Builder.startAfterFrameset
  split <;> grind

/-! ## Drawings and formulas -/

@[grind ←]
theorem startInForeign (htag : tag.Harmless) : (b.startInForeign tag).state.Harmless := by
  unfold Builder.startInForeign
  dsimp only
  split
  · exact h.withStack (List.dropWhile_subset _)
  · refine h.startForeign (htag.rename ?_) _
    split
    · exact respell_ne_script htag.name
    · exact htag.name

end Builder.Harmless

namespace Builder.Harmless

variable {b : Builder} (h : b.Harmless)

include h

/-! ## One token -/

@[grind ←]
theorem characters (content : List Char) : (b.characters content).state.Harmless := by
  have hhead := h.startHead harmlessAttributes_nil
  unfold Builder.characters
  split <;> grind

@[grind ←]
theorem spaces (content : List Char) : (b.spaces content).state.Harmless := by
  unfold Builder.spaces
  split <;> grind

@[grind ←]
theorem startTag {tag : StartTag} (htag : tag.Harmless) : (b.startTag tag).state.Harmless := by
  have hattributes := htag.attributes
  have hhead := h.startHead harmlessAttributes_nil
  unfold Builder.startTag
  split <;> grind

@[grind ←]
theorem endTag (name : String) : (b.endTag name).state.Harmless := by
  have hhead := h.startHead harmlessAttributes_nil
  unfold Builder.endTag
  split <;> grind

@[grind ←]
theorem comment (content : String) : (b.comment content).state.Harmless := by
  unfold Builder.comment
  split <;> grind

theorem byMode {token : Token} (htoken : token.Harmless) : (b.byMode token).state.Harmless := by
  cases token with
  | characters content => exact h.characters content
  | spaces content => exact h.spaces content
  | startTag name attributes selfClosing => exact h.startTag htoken
  | endTag name => exact h.endTag name
  | comment content => exact h.comment content
  | doctype name publicId systemId correct =>
    simp only [Builder.byMode]
    split
    · exact h.insertDoctype name publicId systemId correct
    · exact h

theorem byForeign {token : Token} (htoken : token.Harmless) :
    (b.byForeign token).state.Harmless := by
  cases token with
  | characters content => exact (h.insertText content).forbidFrameset
  | spaces content => exact h.insertText content
  | startTag name attributes selfClosing => exact h.startInForeign htoken
  | endTag name =>
    unfold Builder.byForeign
    grind
  | comment content => exact h.insertComment _ content
  | doctype name publicId systemId correct => exact h

theorem process (fuel : Nat) {token : Token} (htoken : token.Harmless) :
    (process fuel b token).Harmless := by
  induction fuel generalizing b with
  | zero => exact h
  | succ fuel ih =>
    have hlook : (if b.appliesMode token then b.byMode token
        else b.byForeign token).state.Harmless := by
      split
      · exact h.byMode htoken
      · exact h.byForeign htoken
    unfold Builder.process
    dsimp only
    generalize (if b.appliesMode token then b.byMode token else b.byForeign token) = outcome
      at hlook ⊢
    split
    · exact ih hlook
    · exact hlook

theorem processAll (fuel : Nat) {tokens : List Token} (htokens : ∀ token ∈ tokens, token.Harmless) :
    (tokens.foldl (Builder.process fuel) b).Harmless := by
  induction tokens generalizing b with
  | nil => exact h
  | cons token rest ih =>
    exact ih (h.process fuel (htokens token List.mem_cons_self)) fun other hother =>
      htokens other (List.mem_cons_of_mem _ hother)

/-! ## The whole text -/

theorem finish (fuel : Nat) : (finish fuel b).Harmless := by
  induction fuel generalizing b with
  | zero => exact h
  | succ fuel ih =>
    have hhead := h.startHead harmlessAttributes_nil
    unfold Builder.finish
    split <;> grind

theorem readAll (fuel : Nat) {text : List Char} (htext : SafeMarkup text) :
    (readAll fuel text b).Harmless := by
  induction fuel generalizing b text with
  | zero => exact h
  | succ fuel ih =>
    unfold Builder.readAll
    split
    · exact h
    · have hstep := htext.readTokens h.content b.allowsSections
      have hflag : { b with content := .markup }.Harmless := h.withFlags _ _ _ _ _ _ _ _ trivial
      exact ih (hflag.processAll maxLooks hstep.1) hstep.2

end Builder.Harmless

/-- The page that safe markup writes is harmless. -/
theorem everyTag_parse {text : String} (htext : SafeMarkup text.toList) :
    (parse text).EveryTag Tag.Harmless :=
  ((Builder.harmless_initial.readAll _ htext).finish _).dom

end PageBlocks.Html
