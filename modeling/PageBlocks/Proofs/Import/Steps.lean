import PageBlocks.Import.Run
import PageBlocks.Proofs.Block.Frame
import PageBlocks.Proofs.Cell.Frame
/-!
# What the steps of an import do to the page

An import is a series of steps: each removal, and the making of each block.  What every step keeps
is kept by the whole run, also when it ends with a fault, and what holds of each block that is asked
for holds of all that came of the run.

An import removes what is not wanted below the content, and makes blocks from elements below it or
from the content as a whole.  Each of these steps is followed with a set of nodes that must stay
where they are: the content with what is around it, and maybe more.  While the block of an element
is made, what is around that element stays as well, so that the block, which is new, never holds
the place that it goes to.

## Main results

* `Import.InTurn.induct` — over steps in turn: the elements of a rule, and the rules.
* `Import.run_induct` — over a whole run.
* `Import.removeEntries_changes` — removal takes out nothing but what is below the content.
* `Import.makeBlock_made` — the block of an element moves nothing that must stay.
* `Import.makeEach_reaches` — nor do the blocks of several elements.
-/

namespace PageBlocks

/-! ## Induction over a run -/

/-- The pages that are recorded with what came of asking for a block: when it was asked for, and
before and after it was placed. -/
def Import.Creation.pages (creation : Import.Creation) : List Dom :=
  creation.request.page ::
    match creation.placement with
    | none => []
    | some placement => [placement.before, placement.after]

namespace Import

section

variable {α β : Type} {step : Dom → α → Outcome BlockFault β} {made : β → List Creation}
  {steps : Dom → List α → Outcome BlockFault (List Creation)}

/-- Steps that follow one another up to the first fault, where `made` are the creations of one
step. -/
structure InTurn (step : Dom → α → Outcome BlockFault β) (made : β → List Creation)
    (steps : Dom → List α → Outcome BlockFault (List Creation)) : Prop where
  nil : ∀ page, steps page [] = (.ok [], page)
  fault : ∀ page item items fault after, step page item = (.error fault, after) →
    steps page (item :: items) = (.error fault, after)
  next : ∀ page item items value after, step page item = (.ok value, after) →
    steps page (item :: items) =
      ((steps after items).1.map fun more => made value ++ more, (steps after items).2)

/-- Steps without a fault are a step without a fault, and the others after it. -/
theorem InTurn.exists_of_ok (hturn : InTurn step made steps) {item : α} {items : List α}
    {creations : List Creation} {page after : Dom}
    (h : steps page (item :: items) = (.ok creations, after)) :
    ∃ value mid more, step page item = (.ok value, mid) ∧ steps mid items = (.ok more, after) ∧
      creations = made value ++ more := by
  rcases hstep : step page item with ⟨fault | value, mid⟩
  · rw [hturn.fault _ _ _ _ _ hstep] at h
    cases h
  · rw [hturn.next _ _ _ _ _ hstep] at h
    obtain ⟨hmap, rfl⟩ := Prod.mk.inj h
    obtain ⟨more, hmore, rfl⟩ := Cell.exists_of_map_eq_ok hmap
    exact ⟨value, mid, more, rfl, Prod.ext hmore rfl, rfl⟩

/-- What each step keeps, steps in turn keep. -/
theorem InTurn.induct (hturn : InTurn step made steps) (Inv : Dom → Prop) (Good : Creation → Prop)
    {items : List α} {dom : Dom}
    (hstep : ∀ item ∈ items, ∀ page, Inv page →
      Inv (step page item).2 ∧
        ∀ value, (step page item).1 = .ok value → ∀ creation ∈ made value, Good creation)
    (h : Inv dom) :
    Inv (steps dom items).2 ∧
      ∀ creations, (steps dom items).1 = .ok creations →
        ∀ creation ∈ creations, Good creation := by
  induction items generalizing dom with
  | nil =>
    rw [hturn.nil]
    refine ⟨h, fun creations hok => ?_⟩
    cases hok
    exact fun _ hin => by cases hin
  | cons item items ih =>
    obtain ⟨hfirst, hgood⟩ := hstep item List.mem_cons_self dom h
    rcases hb : step dom item with ⟨fault | value, after⟩
    · rw [hturn.fault _ _ _ _ _ hb]
      rw [hb] at hfirst
      exact ⟨hfirst, fun creations hok => by cases hok⟩
    · rw [hturn.next _ _ _ _ _ hb]
      rw [hb] at hfirst hgood
      obtain ⟨hrest, hall⟩ := ih (fun other ho => hstep other (List.mem_cons_of_mem _ ho)) hfirst
      refine ⟨hrest, fun creations hok creation hin => ?_⟩
      obtain ⟨more, hmore, rfl⟩ := Cell.exists_of_map_eq_ok hok
      rcases List.mem_append.1 hin with hin | hin
      · exact hgood value rfl creation hin
      · exact hall more hmore creation hin

end

theorem makeEach_inTurn (host : Host) (params : Params) (root : NodeId) (task : Task) :
    InTurn (makeBlock host params root task) Option.toList (makeEach host params root task) where
  nil _ := rfl
  fault _ _ _ _ _ h := by rw [makeEach, h]
  next _ _ _ _ _ h := by rw [makeEach, h]

theorem makeBlocks_inTurn (host : Host) (params : Params) (root : NodeId) :
    InTurn (fun page task =>
        makeEach host params root task page (candidates page root task.rule.selectors))
      id (makeBlocks host params root) where
  nil _ := rfl
  fault _ _ _ _ _ h := by rw [makeBlocks, h]
  next _ _ _ _ _ h := by rw [makeBlocks, h]; rfl

variable (host : Host) (params : Params) (Inv : Dom → Prop) (Good : Creation → Prop)

theorem makeEach_induct (root : NodeId) (task : Task) (elements : List NodeId) {dom : Dom}
    (hstep : ∀ element ∈ elements, ∀ page, Inv page →
      Inv (makeBlock host params root task page element).2 ∧
        ∀ creation, (makeBlock host params root task page element).1 = .ok (some creation) →
          Good creation)
    (h : Inv dom) :
    Inv (makeEach host params root task dom elements).2 ∧
      ∀ creations, (makeEach host params root task dom elements).1 = .ok creations →
        ∀ creation ∈ creations, Good creation := by
  refine (makeEach_inTurn host params root task).induct Inv Good ?_ h
  intro element helement page hpage
  obtain ⟨hkept, hgood⟩ := hstep element helement page hpage
  refine ⟨hkept, fun made hmade creation hin => hgood creation ?_⟩
  rw [hmade, Option.mem_toList.1 hin]

/-- What each removal and each rule keep, a run keeps. -/
theorem run_induct (document : RuleDocument) {dom : Dom}
    (hremove : ∀ entries page, Inv page →
      Inv (removeEntries host page (rootOf dom document.root) entries))
    (hrule : ∀ rule ∈ document.blocks, ∀ page, Inv page →
      let result := makeEach host params (rootOf dom document.root) (Task.ofRule host rule) page
        (candidates page (rootOf dom document.root) rule.selectors)
      Inv result.2 ∧
        ∀ creations, result.1 = .ok creations → ∀ creation ∈ creations, Good creation)
    (h : Inv dom) :
    Inv (run host document params dom).2 ∧
      ∀ root creations, (run host document params dom).1 = .ok (root, creations) →
        root = rootOf dom document.root ∧ ∀ creation ∈ creations, Good creation := by
  rw [run, runTasks]
  have hstart := hremove (document.cleanup.start ++ ignoredElements) dom h
  have htasks : ∀ task ∈ document.blocks.map (Task.ofRule host), ∀ page, Inv page →
      let result := makeEach host params (rootOf dom document.root) task page
        (candidates page (rootOf dom document.root) task.rule.selectors)
      Inv result.2 ∧ ∀ creations, result.1 = .ok creations →
        ∀ creation ∈ creations, Good creation := by
    intro task htask page hpage
    obtain ⟨rule, hmem, rfl⟩ := List.mem_map.1 htask
    exact hrule rule hmem page hpage
  obtain ⟨hblocks, hgood⟩ :=
    (makeBlocks_inTurn host params (rootOf dom document.root)).induct Inv Good htasks hstart
  split
  · next fault mid hb =>
    rw [hb] at hblocks
    exact ⟨hblocks, fun root creations hok => by cases hok⟩
  · next made mid hb =>
    rw [hb] at hblocks hgood
    refine ⟨hremove document.cleanup.finish mid hblocks, fun root creations hok => ?_⟩
    cases hok
    exact ⟨rfl, hgood made rfl⟩

end Import

/-! ## Hosts -/

open Dom

/-- A host whose operations touch nothing that is guarded. -/
structure Host.Careful (host : Host) : Prop where
  metadata : ∀ kept, host.KnowsCarefully kept
  createBlock : ∀ kept scope dom name variants cells, Guarded kept scope dom →
    cells.IsFree kept dom →
      Outcome.Careful kept dom (Block.MayBeFree kept) (host.createBlock dom name variants cells)
  removeElements : ∀ kept scope dom selectors, Guarded kept scope dom →
    Changes kept kept dom (host.removeElements dom scope selectors)

theorem selectText_notMem {kept : Set NodeId} {scope : NodeId} {dom : Dom} (selector : String)
    (hg : Guarded kept scope dom) : ∀ id ∈ dom.selectText scope selector, id ∉ kept := fun _ hid =>
  hg.notMem_of_isBelow_scope (isBelow_of_mem_selectText hg.wellFormed hid).1

theorem removeElements_changes {kept : Set NodeId} {scope : NodeId} {dom : Dom}
    {selectors : List String} (hg : Guarded kept scope dom) :
    Changes kept kept dom (removeElements dom scope selectors) :=
  foldl_changes _ (fun dom _ hg => detachAll_changes kept dom (selectText_notMem _ hg)) selectors hg

theorem standardHost_careful (sanitize : Sanitize.Sanitizer) : (standardHost sanitize).Careful where
  metadata _ := standardHost_knowsCarefully sanitize
  createBlock _ _ _ name variants _ hg hcells := Block.createTable_careful name variants hg hcells
  removeElements _ _ _ _ hg := removeElements_changes hg

namespace Import

variable {host : Host} {params : Params} {kept fixed closed : Set NodeId} {root element : NodeId}
  {task : Task} {dom : Dom}

/-! ## Removal -/

theorem removeText_changes {entry : String} (hg : Guarded kept root dom) :
    Changes kept kept dom (removeText dom root entry) := by
  rw [removeText]
  split
  · exact .refl
  · next selector literal _ =>
    have hfound := selectText_notMem (String.ofList selector) hg
    generalize dom.selectText root (String.ofList selector) = found at hfound
    induction found generalizing dom with
    | nil => exact .refl
    | cons holder found ih =>
      have htexts : ∀ id ∈ literalTexts dom holder literal, id ∉ kept := by
        intro id hid
        obtain ⟨node, hnode, rfl⟩ := List.mem_map.1 hid
        have hholds : dom.Holds holder node.id := by
          rw [Holds, kids_eq_topIds]
          exact Forest.id_mem_topIds (List.mem_filter.1 hnode).1
        exact hg.notMem_of_isBelow (hfound holder List.mem_cons_self) hholds.isBelow
      have hfirst := detachAll_changes kept dom htexts
      exact hfirst.trans (ih (hg.of_changes hfirst subset_rfl)
        fun id hid => hfound id (List.mem_cons_of_mem _ hid))

theorem removeByAttribute_changes {selector : AttributeSelector} (hg : Guarded kept root dom) :
    Changes kept kept dom ((attributeMatches dom root selector).foldl Dom.detach dom) :=
  detachAll_changes kept dom fun id hid => selectText_notMem _ hg id (List.mem_filter.1 hid).1

/-- The removal of text and of elements by their attributes, after what selectors find. -/
theorem removeRest_changes (entries : List CleanupEntry) (hg : Guarded kept root dom) :
    Changes kept kept dom ((attributeSelectors entries).foldl
      (fun dom selector => (attributeMatches dom root selector).foldl Dom.detach dom)
      ((textSelectors entries).foldl (fun dom entry => removeText dom root entry) dom)) := by
  have htexts := foldl_changes (fun dom entry => removeText dom root entry)
    (fun _ _ hg => removeText_changes hg) (textSelectors entries) hg
  exact htexts.trans (foldl_changes _ (fun _ _ hg => removeByAttribute_changes hg) _
    (hg.of_changes htexts subset_rfl))

/-- Removal takes out nothing but what is below the content. -/
theorem removeEntries_changes (hhost : host.Careful) (entries : List CleanupEntry)
    (hg : Guarded kept root dom) : Changes kept kept dom (removeEntries host dom root entries) := by
  have hfound : Changes kept kept dom
      (if (elementSelectors entries).isEmpty then dom
      else host.removeElements dom root (elementSelectors entries)) := by
    split
    · exact .refl
    · exact hhost.removeElements kept root dom _ hg
  exact hfound.trans (removeRest_changes entries (hg.of_changes hfound subset_rfl))

/-! ## Placing a block -/

/-- What an import relies on while blocks are made: the content is an element that stays where it
is, with all that is `kept`; it is not `closed` itself, and what the closed elements hold is
`fixed`. -/
structure Stage (kept fixed closed : Set NodeId) (root : NodeId) (dom : Dom) : Prop where
  guarded : Guarded kept root dom
  mem : root ∈ kept
  element : ∃ tag, dom.tag? root = some tag
  fixed_subset : fixed ⊆ kept
  closed_subset : closed ⊆ kept
  opened : root ∉ closed
  sealed : Sealed fixed closed dom

theorem Stage.of_changes {after : Dom} (h : Stage kept kept closed root dom)
    (hc : Changes kept closed dom after) : Stage kept kept closed root after where
  guarded := h.guarded.of_changes hc subset_rfl
  mem := h.mem
  element := by
    obtain ⟨tag, htag⟩ := h.element
    exact (hc.extends h.guarded.wellFormed).element root tag htag
  fixed_subset := subset_rfl
  closed_subset := h.closed_subset
  opened := h.opened
  sealed := hc.sealed h.guarded.wellFormed h.sealed

/-- A block that is free goes to its place by changes that leave the rest alone, as long as the
element that it replaces is not fixed. -/
theorem place?_changes {block : NodeId} {mode : InsertMode} {after : Dom}
    (hg : Guarded kept element dom) (hroot : root ∈ kept) (helement : element ∈ kept)
    (htag : ∃ tag, dom.tag? root = some tag) (hb : dom.Free kept block) (hfixed : fixed ⊆ kept)
    (hopened : root ∉ closed) (hsealed : Sealed fixed closed dom)
    (hmode : mode = .replace → element ∉ fixed)
    (h : place? dom root element block mode = some after) : Changes fixed closed dom after := by
  have hnot : block ∉ fixed := fun hin => hb.1 (hfixed hin)
  have hin {x : NodeId} (hx : x ∈ kept) : ¬dom.IsBelow block x := fun hbelow =>
    hg.notMem_of_isBelow hb.1 hbelow hx
  have hne {x : NodeId} (hx : x ∈ kept) : x ≠ block := fun heq => hb.1 (heq ▸ hx)
  obtain ⟨tag, htag⟩ := htag
  cases mode with
  | append =>
    cases h
    exact .single (.append hnot hopened hb.2 htag (hne hroot) (hin hroot))
  | prepend =>
    cases h
    exact .single (.prepend hnot hopened hb.2 htag (hne hroot) (hin hroot))
  | replace =>
    rw [place?] at h
    split at h
    · cases h
    · next hparent =>
      cases h
      rw [Option.isNone_iff_eq_none] at hparent
      obtain ⟨q, hq⟩ := Option.ne_none_iff_exists'.1 hparent
      have hout := hmode rfl
      have hclosed : q ∉ closed := fun hin =>
        hout ((hsealed q hin).2 element (hg.wellFormed.parent?_eq_some_iff.1 hq))
      rw [replaceWith, if_neg (hne helement)]
      exact .tail (.single
        (.insertBefore hnot hclosed hb.2 hq (hne helement) (hin helement))) (.detach hout)

/-! ## Making blocks -/

/-- Settings that mention no elements. -/
def IsPlain (params : Params) : Prop :=
  ∀ entry ∈ params, entry.2.elements = []

theorem IsPlain.isFree (h : IsPlain params) (kept : Set NodeId) (dom : Dom) :
    Params.IsFree kept dom params :=
  fun entry he => Value.isFree_of_elements_nil (h entry he)

/-- Settings that are read from JSON data mention no elements. -/
theorem isPlain_ofFields (fields : Json.Fields) : IsPlain (Value.ofFields fields) := by
  intro entry he
  refine List.eq_nil_iff_forall_not_mem.2 fun id hid => ?_
  have hall := Value.mem_elementsOfFields.2 ⟨entry, he, hid⟩
  rw [Value.elementsOfFields_ofFields] at hall
  exact absurd hall List.not_mem_nil

theorem dropAbsent_free {cells : Value} (h : cells.IsFree kept dom) :
    (dropAbsent cells).IsFree kept dom := by
  cases cells with
  | list items =>
    exact Value.isFree_list.2 fun item hitem =>
      Value.isFree_list.1 h item (List.mem_filter.1 hitem).1
  | null | bool _ | integer _ | decimal _ | text _ | element _ | config _ => exact h

theorem isFree_own (rule : BlockRule) :
    Params.IsFree kept dom (rule.params.map fun (name, value) => (name, Value.ofJson value)) := by
  intro entry he
  obtain ⟨field, _, rfl⟩ := List.mem_map.1 he
  exact Value.isFree_of_elements_nil (Value.elements_ofJson field.2)

theorem findCells_careful (hfinder : CellFinder.Careful kept task.finder)
    (hg : Guarded kept element dom) (hp : Params.IsFree kept dom params) :
    Outcome.Careful kept dom (Value.IsFree kept) (findCells params task dom element) := by
  have hfound := hfinder dom element _ hg (hp.override (isFree_own task.rule))
  refine ⟨hfound.changes, fun value hvalue => ?_⟩
  obtain ⟨cells, hcells, rfl⟩ := Cell.exists_of_map_eq_ok hvalue
  exact dropAbsent_free (hfound.free cells hcells)

/-- What came of asking for a block, when all that was done to the page on the way are changes. -/
structure Made (fixed closed : Set NodeId) (before : Dom) (outcome : Outcome BlockFault α)
    (creation : α → Option Creation) : Prop where
  changes : Changes fixed closed before outcome.2
  pages : ∀ value, outcome.1 = .ok value → ∀ made ∈ creation value, ∀ page ∈ made.pages,
    Changes fixed closed before page

/-- The making and placing of a block moves nothing that must stay. -/
theorem createBlock_made (hhost : host.Careful) {cells : Value} {tag : Tag}
    (hg : Guarded kept element dom) (hcells : cells.IsFree kept dom) (hroot : root ∈ kept)
    (helement : element ∈ kept) (htag : dom.tag? root = some tag) (hfixed : fixed ⊆ kept)
    (hclosed : closed ⊆ kept) (hopened : root ∉ closed) (hsealed : Sealed fixed closed dom)
    (hmode : task.rule.mode = .replace → element ∉ fixed) :
    Made fixed closed dom (createBlock host root task dom element cells) some := by
  have wf := hg.wellFormed
  have hblock := hhost.createBlock kept element dom (host.blockName task.rule.type)
    task.rule.variants cells hg hcells
  have hmake := hblock.changes.mono hfixed hclosed
  have hunplaced {page : Dom} {request : Request} (hpage : request.page = dom)
      (hchanges : Changes fixed closed dom page) :
      Made fixed closed dom
        ((.ok ⟨request, none⟩, page) : Outcome BlockFault Creation) some := by
    refine ⟨hchanges, fun creation hok made hmade other hother => ?_⟩
    cases hok
    cases hmade
    rw [List.mem_singleton.1 hother, hpage]
  rw [createBlock]
  dsimp only
  split
  · exact ⟨hmake, fun creation hok => by cases hok⟩
  · exact hunplaced rfl hmake
  · next block hmade =>
    split
    · exact hunplaced rfl hmake
    · next after hplace =>
      have hplaced := place?_changes (hg.of_changes hblock.changes subset_rfl) hroot helement
        ((hmake.extends wf).element root tag htag) (hblock.free _ hmade block rfl) hfixed hopened
        (hmake.sealed wf hsealed) hmode hplace
      have hall : Changes fixed closed dom after := Relation.ReflTransGen.trans hmake hplaced
      refine ⟨hall, fun creation hok made hmade page hpage => ?_⟩
      cases hok
      cases hmade
      rcases List.mem_cons.1 hpage with rfl | hpage
      · exact .refl
      · rcases List.mem_cons.1 hpage with rfl | hpage
        · exact hmake
        · rw [List.mem_singleton.1 hpage]
          exact hall

/-- The block of an element moves nothing that must stay, whether or not it can be made. -/
theorem makeBlock_made (hhost : host.Careful)
    (hfinder : ∀ kept, CellFinder.Careful kept task.finder) (hp : IsPlain params)
    (hs : Stage kept fixed closed root dom) (has : dom.Has element)
    (helement : element ∉ kept ∨ element = root)
    (hmode : task.rule.mode = .replace → element ∉ fixed) :
    Made fixed closed dom (makeBlock host params root task dom element) id := by
  have wf := hs.guarded.wellFormed
  have hg := hs.guarded.around has helement
  generalize hall : kept ∪ {k | k = element ∨ dom.IsBelow k element} = all at hg
  have hkept : kept ⊆ all := hall ▸ Set.subset_union_left
  have hmem : element ∈ all := hall ▸ .inr (.inl rfl)
  have hfixed : fixed ⊆ all := hs.fixed_subset.trans hkept
  have hclosed : closed ⊆ all := hs.closed_subset.trans hkept
  have hcells := findCells_careful (hfinder all) hg (hp.isFree all dom)
  have hfind := hcells.changes.mono hfixed hclosed
  obtain ⟨tag, htag⟩ := hs.element
  obtain ⟨tag', htag'⟩ := (hfind.extends wf).element root tag htag
  rw [makeBlock]
  split
  · next fault mid hf =>
    rw [hf] at hfind
    exact ⟨hfind, fun creation hok => by cases hok⟩
  · next cells mid hf =>
    rw [hf] at hfind hcells htag'
    split
    · have hmade := createBlock_made hhost (hg.of_changes hcells.changes subset_rfl)
        (hcells.free cells rfl) (hkept hs.mem) hmem htag' hfixed hclosed hs.opened
        (hfind.sealed wf hs.sealed) hmode
      refine ⟨Relation.ReflTransGen.trans hfind hmade.changes,
        fun result hok made hin page hp => ?_⟩
      obtain ⟨creation, hcreation, rfl⟩ := Cell.exists_of_map_eq_ok hok
      exact Relation.ReflTransGen.trans hfind (hmade.pages creation hcreation made hin page hp)
    · refine ⟨hfind, fun result hok made hin => ?_⟩
      cases hok
      cases hin

/-- The blocks of several elements move nothing that must stay. -/
theorem makeEach_reaches (hhost : host.Careful)
    (hfinder : ∀ kept, CellFinder.Careful kept task.finder) (hp : IsPlain params)
    {start : Dom} (hs : Stage kept kept closed root start) {elements : List NodeId}
    (hreach : Changes kept closed start dom) (has : ∀ element ∈ elements, dom.Has element)
    (helements : ∀ element ∈ elements, element ∉ kept ∨ element = root)
    (hmode : task.rule.mode = .replace → ∀ element ∈ elements, element ∉ kept) :
    Changes kept closed start (makeEach host params root task dom elements).2 ∧
      ∀ creations, (makeEach host params root task dom elements).1 = .ok creations →
        ∀ creation ∈ creations, ∀ page ∈ creation.pages, Changes kept closed start page := by
  have wf := hs.guarded.wellFormed
  have hinduct := makeEach_induct host params
    (fun page => Changes kept closed start page ∧ ∀ x, dom.Has x → page.Has x)
    (fun creation => ∀ page ∈ creation.pages, Changes kept closed start page) root task elements
    ?_ ⟨hreach, fun _ hx => hx⟩
  · exact ⟨hinduct.1.1, hinduct.2⟩
  · rintro element helement page ⟨hpage, hhas⟩
    have hmade := makeBlock_made hhost hfinder hp (hs.of_changes hpage)
      (hhas element (has element helement)) (helements element helement)
      fun h => hmode h element helement
    refine ⟨⟨Relation.ReflTransGen.trans hpage hmade.changes, fun x hx => ?_⟩, ?_⟩
    · exact (hmade.changes.extends (hpage.wellFormed wf)).has x (hhas x hx)
    · intro creation hok other hother
      exact Relation.ReflTransGen.trans hpage (hmade.pages _ hok creation rfl other hother)

end Import

end PageBlocks
