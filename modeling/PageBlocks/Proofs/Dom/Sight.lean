import PageBlocks.Dom.Text
import PageBlocks.Proofs.Dom.Prune
import PageBlocks.Selector.Match
import PageBlocks.Text.Blank
/-!
# What there is to see of a page

A reader sees the characters of the plain text that are not blank, and images and the like, in the order
of the page.  Scripts and style sheets are not for readers, nor is anything in them.  To take out nodes
of which nothing is seen does not change what is seen.

## Main results

* `Forest.visible_textOutside` — the characters that are seen are those of the text outside code.
* `Forest.sights_eq_nil_iff` — when there is nothing to see of a forest without code.
* `Forest.mem_sights_of_media` — images and the like that are not inside code are seen.
* `Forest.sights_prune` — what is seen of a forest that was pruned of what is not seen.
-/

namespace PageBlocks

/-- The characters that are not blank. -/
def Text.visible (text : String) : List Char :=
  text.toList.filter fun c => !isBlank c

@[simp] theorem Text.visible_append (first second : String) :
    visible (first ++ second) = visible first ++ visible second := by
  rw [visible, String.toList_append, List.filter_append]
  rfl

theorem Text.visible_eq_nil_iff {text : String} :
    visible text = [] ↔ isBlankText text.toList = true := by
  rw [visible, isBlankText, List.filter_eq_nil_iff, List.all_eq_true]
  simp

namespace Tag

/-- Is the element a script or a style sheet? -/
def isCode (tag : Tag) : Bool :=
  tag.isNamed "script" || tag.isNamed "style"

/-- Is the element an image or the like, which shows something other than text? -/
def isMedia (tag : Tag) : Bool :=
  tag.isNamed "img" || tag.isNamed "svg" || tag.isNamed "iframe"

theorem isCode_of_isMedia {tag : Tag} (h : tag.isMedia = true) : tag.isCode = false := by
  simp only [isMedia, isNamed, Bool.or_eq_true, decide_eq_true_eq] at h
  rcases h with (h | h) | h <;> rw [isCode, isNamed, isNamed, h] <;> decide

theorem isMedia_division {tag : Tag} (h : tag.name = "div") : tag.isMedia = false := by
  rw [isMedia, isNamed, isNamed, isNamed, h]
  decide

theorem isCode_division {tag : Tag} (h : tag.name = "div") : tag.isCode = false := by
  rw [isCode, isNamed, isNamed, h]
  decide

end Tag

/-- Something that a reader sees. -/
inductive Sight where
  | char (c : Char)
  | media (id : NodeId)
deriving DecidableEq, Repr

/-- The character that is seen, if it is one. -/
def Sight.char? : Sight → Option Char
  | char c => some c
  | media _ => none

/-- The characters that are seen of a leaf. -/
def Leaf.sights (content : Leaf) : List Sight :=
  (Text.visible (content.textFor .plain)).map .char

namespace Forest

/-- What is seen of a forest, in order. -/
def sights : Forest → List Sight
  | nil => []
  | leaf _ content next => content.sights ++ next.sights
  | element id tag children next =>
    (if tag.isCode then []
      else (if tag.isMedia then [.media id] else []) ++ children.sights) ++ next.sights

/-- The text of all leaves that are read and are not inside a script or a style sheet. -/
def textOutside (kind : TextKind) : Forest → String
  | nil => ""
  | leaf _ content next => content.textFor kind ++ next.textOutside kind
  | element _ tag children next =>
    (if tag.isCode then "" else children.textOutside kind) ++ next.textOutside kind

/-- Without code all text is outside code. -/
theorem textOutside_eq_text {forest : Forest} (kind : TextKind)
    (h : ∀ node ∈ forest.nodes, node.tag?.any Tag.isCode = false) :
    forest.textOutside kind = forest.text kind := by
  induction forest with
  | nil => rfl
  | leaf id content next ih =>
    rw [textOutside, text, ih fun node hn => h node (List.mem_cons_of_mem _ hn)]
  | element id tag children next ihc ihn =>
    have hself : ¬tag.isCode = true := Bool.eq_false_iff.1 (h _ List.mem_cons_self)
    rw [textOutside, text, if_neg hself,
      ihc fun node hn => h node (List.mem_cons_of_mem _ (List.mem_append_left _ hn)),
      ihn fun node hn => h node (List.mem_cons_of_mem _ (List.mem_append_right _ hn))]

/-- The characters that are seen are those of the plain text outside code. -/
theorem visible_textOutside (forest : Forest) :
    Text.visible (forest.textOutside .plain) = forest.sights.filterMap Sight.char? := by
  have hchars (text : List Char) : (text.map Sight.char).filterMap Sight.char? = text := by
    rw [List.filterMap_map]
    exact List.filterMap_some
  induction forest with
  | nil => rfl
  | leaf id content next ih =>
    rw [textOutside, sights, Text.visible_append, List.filterMap_append, ih, Leaf.sights, hchars]
  | element id tag children next ihc ihn =>
    rw [textOutside, sights, Text.visible_append, List.filterMap_append, ihn]
    congr 1
    split
    · rfl
    · rw [ihc, List.filterMap_append]
      split <;> rfl

/-- Images and the like are seen unless they are inside code. -/
theorem mem_sights_of_media {forest : Forest} {node : Node} (hmem : node ∈ forest.nodes)
    (hmedia : node.tag?.any Tag.isMedia = true)
    (hout : ∀ outer ∈ forest.nodes, outer.tag?.any Tag.isCode = true →
      node.id ∉ outer.children.ids) :
    Sight.media node.id ∈ forest.sights := by
  induction forest with
  | nil => cases hmem
  | leaf id content next ih =>
    rcases List.mem_cons.1 hmem with rfl | hmem
    · cases hmedia
    · exact List.mem_append_right _ (ih hmem fun outer ho => hout outer (List.mem_cons_of_mem _ ho))
  | element id tag children next ihc ihn =>
    rw [sights]
    rcases List.mem_cons.1 hmem with rfl | hmem
    · have htag : tag.isMedia = true := hmedia
      rw [if_neg (Bool.eq_false_iff.1 (Tag.isCode_of_isMedia htag)), if_pos htag]
      exact List.mem_append_left _ List.mem_cons_self
    · rcases List.mem_append.1 hmem with hmem | hmem
      · have hself : ¬tag.isCode = true := fun hcode =>
          hout _ List.mem_cons_self hcode (id_mem_ids hmem)
        rw [if_neg hself]
        exact List.mem_append_left _ (List.mem_append_right _ (ihc hmem fun outer ho =>
          hout outer (List.mem_cons_of_mem _ (List.mem_append_left _ ho))))
      · exact List.mem_append_right _ (ihn hmem fun outer ho =>
          hout outer (List.mem_cons_of_mem _ (List.mem_append_right _ ho)))

/-- Only images and the like that are there are seen. -/
theorem exists_of_media_mem_sights {forest : Forest} {x : NodeId}
    (h : Sight.media x ∈ forest.sights) :
    ∃ node ∈ forest.nodes, node.id = x ∧ node.tag?.any Tag.isMedia = true := by
  induction forest with
  | nil => cases h
  | leaf id content next ih =>
    rcases List.mem_append.1 h with h | h
    · obtain ⟨c, _, hc⟩ := List.mem_map.1 h
      cases hc
    · obtain ⟨node, hnode, hx⟩ := ih h
      exact ⟨node, List.mem_cons_of_mem _ hnode, hx⟩
  | element id tag children next ihc ihn =>
    rcases List.mem_append.1 h with h | h
    · split at h
      · cases h
      rcases List.mem_append.1 h with h | h
      · split at h
        · next hmedia =>
          cases List.mem_singleton.1 h
          exact ⟨_, List.mem_cons_self, rfl, hmedia⟩
        · cases h
      · obtain ⟨node, hnode, hx⟩ := ihc h
        exact ⟨node, List.mem_cons_of_mem _ (List.mem_append_left _ hnode), hx⟩
    · obtain ⟨node, hnode, hx⟩ := ihn h
      exact ⟨node, List.mem_cons_of_mem _ (List.mem_append_right _ hnode), hx⟩

/-- Nothing is seen of a forest without code when its plain text is blank and there are no images or the
like in it. -/
theorem sights_eq_nil_iff {forest : Forest}
    (hcode : ∀ node ∈ forest.nodes, node.tag?.any Tag.isCode = false) :
    forest.sights = [] ↔ Text.isBlankText (forest.text .plain).toList = true ∧
      ∀ node ∈ forest.nodes, node.tag?.any Tag.isMedia = false := by
  rw [← Text.visible_eq_nil_iff, ← textOutside_eq_text .plain hcode, visible_textOutside]
  constructor
  · intro h
    refine ⟨by rw [h]; rfl, fun node hnode => ?_⟩
    by_contra hmedia
    have hsight := mem_sights_of_media hnode ((Bool.not_eq_false _).mp hmedia)
      fun outer houter hin => by
        rw [hcode outer houter] at hin
        cases hin
    rw [h] at hsight
    cases hsight
  · rintro ⟨hchars, hmedia⟩
    rw [List.filterMap_eq_nil_iff] at hchars
    refine List.eq_nil_iff_forall_not_mem.2 fun sight hsight => ?_
    cases sight with
    | char c => cases hchars _ hsight
    | media x =>
      obtain ⟨node, hnode, _, htrue⟩ := exists_of_media_mem_sights hsight
      rw [hmedia node hnode] at htrue
      cases htrue

/-- To take out nodes of which nothing is seen does not change what is seen. -/
theorem sights_prune {gone : List NodeId} {forest : Forest}
    (h : ∀ node ∈ forest.nodes, node.id ∈ gone → node.toForest.sights = []) :
    (forest.prune gone).sights = forest.sights := by
  induction forest with
  | nil => rfl
  | leaf id content next ih =>
    have hnext := ih fun node hn => h node (List.mem_cons_of_mem _ hn)
    rw [prune]
    split
    · next hgone =>
      have hself := h _ List.mem_cons_self hgone
      rw [Node.toForest, Node.consTo, sights, sights, List.append_nil] at hself
      rw [sights, hself, hnext, List.nil_append]
    · rw [sights, sights, hnext]
  | element id tag children next ihc ihn =>
    have hnext := ihn fun node hn => h node (List.mem_cons_of_mem _ (List.mem_append_right _ hn))
    rw [prune]
    split
    · next hgone =>
      have hself := h _ List.mem_cons_self hgone
      rw [Node.toForest, Node.consTo, sights, sights, List.append_nil] at hself
      rw [sights, hself, hnext, List.nil_append]
    · rw [sights, sights, hnext,
        ihc fun node hn => h node (List.mem_cons_of_mem _ (List.mem_append_left _ hn))]

end Forest

end PageBlocks
