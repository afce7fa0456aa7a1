import PageBlocks.Proofs.Dom.Build
import PageBlocks.Proofs.Dom.Change
import PageBlocks.Proofs.Dom.Shed
import PageBlocks.Proofs.Import.Trees
import PageBlocks.Proofs.Import.Turns
/-!
# Blocks at the ends of the content

Rules may put their blocks at the start or at the end of the content.  If these blocks only copy what
they are made from, all that happens to the content is that it gets more children at both ends, whatever
the order of the rules, and though later rules may find elements in blocks of earlier ones.

## Main results

* `Import.Turned.extended` — a turn puts its block at one end.
* `Import.makeBlocks_extended` — so do all turns of all rules.
* `Import.run_adds_at_ends` — what the children of the content are after a run.
-/

namespace PageBlocks

open Dom

namespace Import

/-- The blocks that are made at turns of rules with a mode, in order. -/
def blocksOf (host : Host) (params : Params) (mode : InsertMode) (taken : List Turn) : List Node :=
  (taken.filter fun turn => turn.task.rule.mode = mode).filterMap (Turn.block? host params)

/-- An element with more children at both ends: of those in front of the old ones the last one that came
is the first. -/
structure Extended (root : NodeId) (prepended appended : List Node) (before after : Dom) : Prop where
  wellFormed : after.WellFormed
  children : ∃ tag old new, before.find? root = some (.element root tag old) ∧
    after.find? root = some (.element root tag new) ∧
    new.toList = prepended.reverse ++ old.toList ++ appended

variable {host : Host} {sanitize : Sanitize.Sanitizer} {params : Params} {root : NodeId} {task : Task}
  {prepended appended more last : List Node} {before mid after page : Dom}

theorem blocksOf_append (mode : InsertMode) (first second : List Turn) :
    blocksOf host params mode (first ++ second) =
      blocksOf host params mode first ++ blocksOf host params mode second := by
  rw [blocksOf, List.filter_append, List.filterMap_append, blocksOf, blocksOf]

theorem blocksOf_singleton (mode : InsertMode) (turn : Turn) :
    blocksOf host params mode [turn] =
      if turn.task.rule.mode = mode then (turn.block? host params).toList else [] := by
  by_cases h : turn.task.rule.mode = mode
  · have hfilter : [turn].filter (fun turn => turn.task.rule.mode = mode) = [turn] := by simp [h]
    rw [blocksOf, hfilter, if_pos h]
    cases hblock : turn.block? host params with
    | none => exact List.filterMap_cons_none hblock
    | some block => exact List.filterMap_cons_some hblock
  · have hfilter : [turn].filter (fun turn => turn.task.rule.mode = mode) = [] := by simp [h]
    rw [blocksOf, hfilter, if_neg h]
    rfl

namespace Extended

/-- An element that is left as it is has no more children. -/
theorem of_keeps (h : Keeps before after) (hroot : ∃ tag, before.tag? root = some tag) :
    Extended root [] [] before after := by
  obtain ⟨tag, htag⟩ := hroot
  obtain ⟨children, hfind⟩ := exists_find?_of_tag? htag
  refine ⟨h.wellFormed, tag, children, children, hfind, ?_, ?_⟩
  · rw [h.find? root (has_of_tag? htag), hfind]
  · rw [List.append_nil]
    rfl

theorem trans (h : Extended root prepended appended before mid)
    (h' : Extended root more last mid after) :
    Extended root (prepended ++ more) (appended ++ last) before after := by
  obtain ⟨tag, old, new, hbefore, hmid, hlist⟩ := h.children
  obtain ⟨tag', old', new', hmid', hafter, hlist'⟩ := h'.children
  cases hmid.symm.trans hmid'
  refine ⟨h'.wellFormed, tag, old, new', hbefore, hafter, ?_⟩
  rw [hlist', hlist, List.reverse_append]
  simp only [List.append_assoc]

theorem tag (h : Extended root prepended appended before after) :
    ∃ tag, after.tag? root = some tag := by
  obtain ⟨tag, -, new, -, hafter, -⟩ := h.children
  exact ⟨tag, tag?_of_find? hafter⟩

end Extended

/-- A turn puts its block at the end that the rule tells. -/
theorem Turned.extended {turn : Turn} {made : Option Creation}
    (h : Turned host params root turn made after) (wf : turn.page.WellFormed)
    (hroot : ∃ tag, turn.page.tag? root = some tag)
    (hmode : turn.task.rule.mode = .append ∨ turn.task.rule.mode = .prepend) :
    Extended root (blocksOf host params .prepend [turn]) (blocksOf host params .append [turn])
      turn.page after := by
  rw [blocksOf_singleton, blocksOf_singleton]
  cases h with
  | nothing hcells hkeeps =>
    have hnone : turn.block? host params = none := by
      rw [Turn.block?, hcells]
      rfl
    rw [hnone]
    simpa using Extended.of_keeps hkeeps hroot
  | @block block mid creation hcells hblock hbeside hplaced =>
    obtain ⟨tag, htag⟩ := hroot
    obtain ⟨children, hfind⟩ := exists_find?_of_tag? htag
    have has := has_of_tag? htag
    have hmid : mid.find? root = some (.element root tag children) :=
      (hbeside.find? root has).trans hfind
    have wf' := hbeside.wellFormed
    have hne : root ≠ block.id := fun heq => hbeside.new (heq ▸ has)
    have hout : ¬mid.IsBelow root block.id := by
      intro hbelow
      obtain ⟨p, hp, -⟩ := wf'.isBelow_cases hbelow
      rw [hbeside.top] at hp
      cases hp
    have hin : ¬mid.IsBelow block.id root := fun hbelow =>
      hbeside.new ((hbeside.isBelow_iff wf has).1 hbelow).has_left
    have hlist : block.toForest.toList = [block] := by cases block <;> rfl
    rw [hblock]
    rcases hmode with hmode | hmode
    · rw [hmode]
      refine ⟨(extends_append wf' root block.id).wellFormed, tag, children, _, hfind,
        find?_append_self wf' hmid hbeside.made hne hout hin, ?_⟩
      rw [Forest.toList_append, hlist]
      rfl
    · rw [hmode]
      refine ⟨(extends_prepend wf' root block.id).wellFormed, tag, children, _, hfind,
        find?_prepend_self wf' hmid hbeside.made hne hout hin, ?_⟩
      rw [Forest.toList_append, hlist]
      simp

/-- The turns of a rule put their blocks at that end, one after another. -/
theorem makeEach_extended (hcopies : Copies params task.rule)
    (hfinder : task.finder = PageBlocks.findCells sanitize)
    (hmode : task.rule.mode = .append ∨ task.rule.mode = .prepend) {elements : List NodeId}
    {creations : List Creation} (wf : page.WellFormed) (hroot : ∃ tag, page.tag? root = some tag)
    (h : makeEach (standardHost sanitize) params root task page elements = (.ok creations, after)) :
    let taken := turnsOf (standardHost sanitize) params root task page elements
    Extended root (blocksOf (standardHost sanitize) params .prepend taken)
      (blocksOf (standardHost sanitize) params .append taken) page after := by
  induction elements generalizing page creations with
  | nil =>
    cases h
    exact .of_keeps (.refl wf) hroot
  | cons element elements ih =>
    obtain ⟨made, mid, more, hmade, hmore, -⟩ := (makeEach_inTurn _ _ _ _).exists_of_ok h
    have hfirst := (makeBlock_turned hcopies hfinder wf hmade).extended wf hroot hmode
    have hrest := ih hfirst.wellFormed hfirst.tag hmore
    have hturns : turnsOf (standardHost sanitize) params root task page (element :: elements) =
        [⟨task, page, element⟩] ++
          turnsOf (standardHost sanitize) params root task mid elements := by
      rw [turnsOf, hmade]
      rfl
    intro taken
    rw [show taken = _ from hturns, blocksOf_append, blocksOf_append]
    exact hfirst.trans hrest

/-- The rules put their blocks at the ends that they tell, one rule after another. -/
theorem makeBlocks_extended {tasks : List Task}
    (hcopies : ∀ task ∈ tasks, Copies params task.rule)
    (hfinder : ∀ task ∈ tasks, task.finder = PageBlocks.findCells sanitize)
    (hmode : ∀ task ∈ tasks, task.rule.mode = .append ∨ task.rule.mode = .prepend)
    {creations : List Creation} (wf : page.WellFormed) (hroot : ∃ tag, page.tag? root = some tag)
    (h : makeBlocks (standardHost sanitize) params root page tasks = (.ok creations, after)) :
    let taken := turns (standardHost sanitize) params root page tasks
    Extended root (blocksOf (standardHost sanitize) params .prepend taken)
      (blocksOf (standardHost sanitize) params .append taken) page after := by
  induction tasks generalizing page creations with
  | nil =>
    cases h
    exact .of_keeps (.refl wf) hroot
  | cons task tasks ih =>
    obtain ⟨made, mid, more, hmade, hmore, -⟩ := (makeBlocks_inTurn _ _ _).exists_of_ok h
    rw [List.forall_mem_cons] at hcopies hfinder hmode
    have hfirst := makeEach_extended hcopies.1 hfinder.1 hmode.1 wf hroot hmade
    have hrest := ih hcopies.2 hfinder.2 hmode.2 hfirst.wellFormed hfirst.tag hmore
    have hturns : turns (standardHost sanitize) params root page (task :: tasks) =
        turnsOf (standardHost sanitize) params root task page
          (candidates page root task.rule.selectors) ++
          turns (standardHost sanitize) params root mid tasks := by
      rw [turns, hmade]
    intro taken
    rw [show taken = _ from hturns, blocksOf_append, blocksOf_append]
    exact hfirst.trans hrest

/-! ## Runs -/

/-- What written text finds, if it is a selector at all, stands below the scope, in the same order. -/
theorem sublist_selectText (page : Dom) (scope : NodeId) (text : String) :
    (page.selectText scope text).Sublist (page.children scope).ids := by
  rw [selectText]
  split
  · exact sublist_select page scope _
  · exact List.nil_sublist _

/-- A run whose rules only copy, and put their blocks at the start or at the end, adds the blocks at
both ends of the content and leaves all between them as the removal before left it.  At the start the
last block is the first.  The blocks are made rule by rule, and for each rule selector by selector, from
what is found when the rule starts, in the order of the page. -/
theorem run_adds_at_ends (sanitize : Sanitize.Sanitizer) (params : Params) {document : RuleDocument}
    {dom after : Dom} {root : NodeId} {creations : List Creation} (wf : dom.WellFormed)
    (hfinish : document.cleanup.finish = [])
    (hrules : ∀ rule ∈ document.blocks,
      (rule.mode = .append ∨ rule.mode = .prepend) ∧ Copies params rule)
    (h : run (standardHost sanitize) document params dom = (.ok (root, creations), after)) :
    let host := standardHost sanitize
    let cleaned := removeEntries host dom root (document.cleanup.start ++ ignoredElements)
    let taken := turns host params root cleaned (document.blocks.map (Task.ofRule host))
    root = rootOf dom document.root ∧
      (after.children root).toList = (blocksOf host params .prepend taken).reverse ++
        (cleaned.children root).toList ++ blocksOf host params .append taken ∧
      ∀ (page : Dom) (text : String), (page.selectText root text).Sublist (page.children root).ids := by
  intro host cleaned taken
  rw [run, runTasks] at h
  obtain ⟨tag, htag⟩ := rootOf_element wf document.root
  have htasks : ∀ task ∈ document.blocks.map (Task.ofRule host),
      Copies params task.rule ∧ task.finder = PageBlocks.findCells sanitize ∧
        (task.rule.mode = .append ∨ task.rule.mode = .prepend) := by
    intro task htask
    obtain ⟨rule, hrule, rfl⟩ := List.mem_map.1 htask
    obtain ⟨hmode, hcopies⟩ := hrules rule hrule
    refine ⟨hcopies, ?_, hmode⟩
    rw [Task.ofRule, hcopies.strategy]
    exact Strategy.finder_block host
  split at h
  · cases h
  · next made last hmade =>
    rw [hfinish, removeEntries_nil] at h
    cases h
    have hclean : Extends dom cleaned :=
      (removeEntries_changes (standardHost_careful sanitize) _ (.empty wf _)).extends wf
    have hends := makeBlocks_extended (fun task htask => (htasks task htask).1)
      (fun task htask => (htasks task htask).2.1) (fun task htask => (htasks task htask).2.2)
      hclean.wellFormed (hclean.element _ tag htag) hmade
    obtain ⟨tag', old, new, hold, hnew, hlist⟩ := hends.children
    refine ⟨rfl, ?_, fun page text => sublist_selectText page _ text⟩
    rw [Dom.children, hnew, Dom.children, hold]
    exact hlist

/-- Rules that put a note in front, and an echo behind for all that is bold or in a cell of a note. -/
def endRules : RuleDocument :=
  { RuleDocument.standard with
    blocks :=
      [⟨"note", [], ["p"], none, [("cells", .list [.text "b::text"])], .prepend⟩,
        ⟨"echo", [], ["b", "td"], none, [("cells", .list [.text "i::text"])], .append⟩] }

/-- The cell of the note is in front of the content already when the echoes are made. -/
theorem run_adds_at_ends_echo :
    headedPage.WellFormed ∧ endRules.cleanup.finish = [] ∧
      (∀ rule ∈ endRules.blocks,
        (rule.mode = .append ∨ rule.mode = .prepend) ∧ Copies (Value.ofFields []) rule) ∧
      ∃ creations after, run (standardHost .ok) endRules (Value.ofFields []) headedPage =
          (.ok (3, creations), after) ∧
        ∃ front back, (after.children 3).toList = front ++ (headedPage.children 3).toList ++ back ∧
          front.length = 1 ∧ back.length = 2 := by
  have wf : headedPage.WellFormed :=
    ⟨by decide, (by decide : ∀ id ∈ headedPage.roots.ids, id < headedPage.fresh),
      ⟨documentTag, rfl⟩⟩
  have hrules : ∀ rule ∈ endRules.blocks,
      (rule.mode = .append ∨ rule.mode = .prepend) ∧ Copies (Value.ofFields []) rule := by
    intro rule hrule
    rcases List.mem_pair.1 hrule with rfl | rfl
    · exact ⟨.inr rfl, by decide +kernel, by decide +kernel, by decide +kernel⟩
    · exact ⟨.inl rfl, by decide +kernel, by decide +kernel, by decide +kernel⟩
  refine ⟨wf, rfl, hrules, ?_⟩
  rcases hrun : run (standardHost .ok) endRules (Value.ofFields []) headedPage with
    ⟨fault | ⟨root, creations⟩, after⟩
  · have hok : (run (standardHost .ok) endRules (Value.ofFields []) headedPage).1.isOk = true := by
      decide +kernel
    rw [hrun] at hok
    cases hok
  · obtain ⟨hroot, hchildren, -⟩ := run_adds_at_ends .ok (Value.ofFields []) wf rfl hrules hrun
    obtain rfl : root = 3 := hroot.trans (by decide +kernel)
    have hkept : ((removeEntries (standardHost .ok) headedPage 3
        (endRules.cleanup.start ++ ignoredElements)).children 3).toList =
          (headedPage.children 3).toList := by decide +kernel
    rw [hkept] at hchildren
    exact ⟨creations, after, rfl, _, _, hchildren, by decide +kernel, by decide +kernel⟩

end Import

end PageBlocks
