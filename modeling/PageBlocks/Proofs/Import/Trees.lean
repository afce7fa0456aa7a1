import PageBlocks.Page.Reading
import PageBlocks.Proofs.Dom.Change
import PageBlocks.Proofs.Import.Steps
/-!
# Imports leave trees

Whatever the rules tell, an import only works below the element with the content.  The nodes outside
it are guarded during the whole run, together with the content itself, so that none of them is
moved, and none of them is given or loses a child.  The one exception are rules without a valid
selector that replace what they find, since these find the content as a whole.

A page that was read is a tree, and every run edits it by elementary changes, none of which moves a
node to a place inside itself.  So it ends without the mark that such a move would have left, and
the page is a tree after each edit, with all that was taken out of it or not been put into it yet,
whatever the rules tell and however often they are run.

To see that no place of a block lies inside it, all that is around the content is guarded while a
rule is followed.  A rule without a valid selector that replaces the content itself moves what is
guarded, but it finds nothing else, so that nothing has to be guarded after it.

## Main results

* `Import.run_changes` — a run is made of changes that leave all fixed that is not below the content.
* `Import.run_leaves_outside` — the nodes outside the content are what they were, and the content is
  where it was.
* `Dom.wellFormed_readBy` — a page that was read is well formed.
* `Import.run_lawful` — a run is made of elementary changes.
* `Import.runs_keep_trees` — the page is a tree after each edit of any number of runs.
-/

namespace PageBlocks

open Dom

/-! ## The content -/

theorem Dom.WellFormed.bodyOrDocument_element {dom : Dom} (wf : dom.WellFormed) :
    ∃ tag, dom.tag? dom.bodyOrDocument = some tag := by
  rw [bodyOrDocument]
  cases hb : dom.firstNamed? "body" with
  | none => exact wf.document
  | some body =>
    obtain ⟨node, hfind, hid⟩ := Option.map_eq_some_iff.1 hb
    obtain ⟨tag, htag⟩ := wf.document
    obtain ⟨document, hdocument⟩ := has_iff_find?.1 (has_of_tag? htag)
    have hmem : node ∈ document.children.nodes := by
      have hin := List.mem_of_find?_eq_some hfind
      rw [Dom.document, hdocument] at hin
      exact hin
    have hroots := Forest.nodes_children_subset (Forest.mem_nodes_of_find? hdocument) hmem
    have hnode := Forest.find?_of_mem_nodes wf.nodup hroots
    have hpred : (node.isElement && node.name == "body") = true := by
      simpa using List.find?_some hfind
    have helement := (Bool.and_eq_true_iff.1 hpred).1
    rw [Option.getD_some, ← hid, tag?, find?, hnode]
    cases node with
    | leaf id content => cases helement
    | element id tag children => exact ⟨tag, rfl⟩

namespace Import

theorem rootOf_element {dom : Dom} (wf : dom.WellFormed) (selector : Option String) :
    ∃ tag, dom.tag? (rootOf dom selector) = some tag := by
  rw [rootOf]
  cases hs : selector.bind (dom.selectFirst? documentId) with
  | none => exact wf.bodyOrDocument_element
  | some found =>
    obtain ⟨text, _, hfirst⟩ := Option.bind_eq_some_iff.1 hs
    exact (isBelow_of_mem_selectText wf (List.mem_of_mem_head? hfirst)).2

theorem candidates_cases {dom : Dom} {root x : NodeId} {selectors : List String}
    (wf : dom.WellFormed) (h : x ∈ candidates dom root selectors) :
    dom.IsBelow root x ∨ x = root ∧ ∀ s ∈ selectors, Selector.isValid s = false := by
  rw [candidates] at h
  split at h
  · next hnone =>
    refine .inr ⟨List.mem_singleton.1 h, fun s hs => ?_⟩
    by_contra hvalid
    rw [Bool.not_eq_false] at hvalid
    have hin : s ∈ selectors.filter Selector.isValid := List.mem_filter.2 ⟨hs, hvalid⟩
    rw [hnone] at hin
    exact absurd hin List.not_mem_nil
  · obtain ⟨selector, _, hx⟩ := List.mem_flatMap.1 h
    exact .inl (isBelow_of_mem_selectText wf hx).1

variable {host : Host} {params : Params} {kept closed : Set NodeId} {root : NodeId} {dom : Dom}

/-- The candidates of a rule may be taken up when the content must stay, unless the rule replaces
the content as a whole. -/
theorem candidates_stage (task : Task) (hs : Stage kept kept closed root dom)
    (hrule : task.rule.mode = .replace → ∃ s ∈ task.rule.selectors, Selector.isValid s = true) :
    (∀ x ∈ candidates dom root task.rule.selectors, dom.Has x) ∧
      (∀ x ∈ candidates dom root task.rule.selectors, x ∉ kept ∨ x = root) ∧
      (task.rule.mode = .replace → ∀ x ∈ candidates dom root task.rule.selectors, x ∉ kept) := by
  have hcases {x : NodeId} (hx : x ∈ candidates dom root task.rule.selectors) :=
    candidates_cases hs.guarded.wellFormed hx
  refine ⟨fun x hx => ?_, fun x hx => ?_, fun hmode x hx => ?_⟩
  · rcases hcases hx with hbelow | ⟨rfl, _⟩
    · exact hbelow.has_right
    · exact hs.guarded.has _ hs.mem
  · exact (hcases hx).imp hs.guarded.notMem_of_isBelow_scope And.left
  · rcases hcases hx with hbelow | ⟨_, hnone⟩
    · exact hs.guarded.notMem_of_isBelow_scope hbelow
    · obtain ⟨s, hmem, hvalid⟩ := hrule hmode
      rw [hnone s hmem] at hvalid
      cases hvalid

/-- A run is made of changes that leave all fixed that must stay. -/
theorem run_changes (hhost : host.Careful) (hp : IsPlain params) {document : RuleDocument}
    (hrules : ∀ rule ∈ document.blocks, rule.mode = .replace →
      ∃ s ∈ rule.selectors, Selector.isValid s = true)
    (hs : Stage kept kept closed (rootOf dom document.root) dom) :
    Changes kept closed dom (run host document params dom).2 := by
  refine (run_induct host params (fun page => Changes kept closed dom page)
    (fun creation => ∀ page ∈ creation.pages, Changes kept closed dom page) document ?_ ?_ .refl).1
  · intro entries page hpage
    have hremove := removeEntries_changes hhost entries (hs.of_changes hpage).guarded
    exact Relation.ReflTransGen.trans hpage (hremove.mono subset_rfl hs.closed_subset)
  · intro rule hrule page hpage
    obtain ⟨has, helements, hmode⟩ := candidates_stage (Task.ofRule host rule)
      (hs.of_changes hpage) (hrules rule hrule)
    exact makeEach_reaches hhost (fun kept => Strategy.finder_careful (hhost.metadata kept) _) hp hs
      hpage has helements hmode

/-! ## The nodes outside -/

/-- All that is not below the content must stay, and what is neither below it nor the content itself
is closed. -/
theorem stage_outside (wf : dom.WellFormed) (htag : ∃ tag, dom.tag? root = some tag) :
    Stage {k | dom.Has k ∧ ¬dom.IsBelow root k} {k | dom.Has k ∧ ¬dom.IsBelow root k}
      {k | dom.Has k ∧ ¬dom.IsBelow root k ∧ k ≠ root} root dom where
  guarded := by
    refine ⟨wf, fun k hk => hk.1, fun k hk p hp => ⟨⟨hp.has_left, fun hbelow => ?_⟩, ?_⟩⟩
    · exact hk.2 (wf.isBelow_of_holds hbelow hp)
    · rintro rfl
      exact hk.2 hp.isBelow
  mem := by
    obtain ⟨tag, htag⟩ := htag
    exact ⟨has_of_tag? htag, wf.not_isBelow_self root⟩
  element := htag
  fixed_subset := subset_rfl
  closed_subset := fun _ hk => ⟨hk.1, hk.2.1⟩
  opened := fun h => h.2.2 rfl
  sealed := by
    refine fun p hp => ⟨hp.1, fun x hx => ⟨hx.has_right, fun hbelow => ?_⟩⟩
    obtain ⟨q, hq, hcase⟩ := wf.isBelow_cases hbelow
    have hqp : q = p := wf.parent_unique (wf.parent?_eq_some_iff.1 hq) hx
    rw [hqp] at hcase
    rcases hcase with rfl | hcase
    · exact hp.2.2 rfl
    · exact hp.2.1 hcase

/-- A run leaves every node outside the content as it was, and the content where it was, as long as
each rule that replaces what it finds has a valid selector. -/
theorem run_leaves_outside (sanitize : Sanitize.Sanitizer) (document : RuleDocument)
    (settings : Json.Fields) {dom : Dom} (wf : dom.WellFormed)
    (hrules : ∀ rule ∈ document.blocks, rule.mode = .replace →
      ∃ s ∈ rule.selectors, Selector.isValid s = true) :
    let root := rootOf dom document.root
    let after := (run (standardHost sanitize) document (Value.ofFields settings) dom).2
    (∀ id, dom.Has id → id ≠ root → ¬dom.IsBelow root id → after.view? id = dom.view? id) ∧
      after.parent? root = dom.parent? root := by
  intro root after
  have hs := stage_outside wf (rootOf_element wf document.root)
  have hrun : Changes _ _ dom after :=
    run_changes (standardHost_careful sanitize) (isPlain_ofFields settings) hrules hs
  refine ⟨fun id has hne hout => ?_, ?_⟩
  · exact hrun.view?_eq wf hs.sealed ⟨has, hout, hne⟩
  · exact hrun.parent?_eq wf hs.mem (hs.guarded.has _ hs.mem)

/-- A page with a header beside its content. -/
def headedPage : Dom where
  roots := .element documentId documentTag
    (.element 1 ⟨"header", .html, []⟩ (.leaf 2 (.text .plain "Top") .nil)
      (.element 3 ⟨"main", .html, []⟩
        (.element 4 ⟨"p", .html, []⟩
          (.element 5 ⟨"b", .html, []⟩ (.leaf 6 (.text .plain "Body") .nil) .nil) .nil) .nil)) .nil
  fresh := 7
  looped := false

/-- Rules by which each paragraph becomes a note with what is bold in it. -/
def noteRules : RuleDocument :=
  { RuleDocument.standard with
    blocks := [⟨"note", [], ["p"], none, [("cells", .list [.text "b::text"])], .replace⟩] }

theorem run_leaves_header :
    (run (standardHost fun text => .ok text) noteRules (Value.ofFields []) headedPage).2.view? 2 =
        headedPage.view? 2 ∧
      (run (standardHost fun text => .ok text) noteRules (Value.ofFields []) headedPage).2.parent?
        3 = some documentId := by
  have hroot : rootOf headedPage noteRules.root = 3 := by decide +kernel
  have wf : headedPage.WellFormed :=
    ⟨by decide, (by decide : ∀ id ∈ headedPage.roots.ids, id < headedPage.fresh),
      ⟨documentTag, rfl⟩⟩
  have hrules : ∀ rule ∈ noteRules.blocks, rule.mode = .replace →
      ∃ s ∈ rule.selectors, Selector.isValid s = true := by
    intro rule hrule _
    rw [List.mem_singleton.1 hrule]
    exact ⟨"p", List.mem_cons_self, by decide +kernel⟩
  have h := run_leaves_outside (fun text => .ok text) noteRules [] wf hrules
  dsimp only at h
  rw [hroot] at h
  exact ⟨h.1 2 (by decide) (by decide) (by decide), h.2⟩

end Import

/-! ## Pages that were read -/

theorem Dom.ids_numbered (dom : Dom) :
    dom.numbered.roots.ids = List.range' 0 (dom.document.children.ids.length + 1) := by
  show documentId :: ((dom.document.children.renumber 1).1.ids ++ []) = _
  rw [List.append_nil, Forest.ids_renumber, List.range'_succ]
  rfl

theorem Dom.wellFormed_numbered (dom : Dom) : dom.numbered.WellFormed where
  nodup := by
    rw [ids_numbered]
    exact List.nodup_range'
  lt_fresh := by
    intro id has
    have hid : id < 1 + dom.document.children.ids.length := by
      rw [Has, ids_numbered, List.mem_range'_1, Nat.zero_add, Nat.add_comm] at has
      exact has.2
    show id < (dom.document.children.renumber 1).2
    rw [Forest.renumber_snd]
    exact hid
  document := ⟨documentTag, rfl⟩

/-- A page that was read is well formed. -/
theorem Dom.wellFormed_readBy (reader : PageReader) (markup : String) :
    (Dom.readBy reader markup).WellFormed :=
  wellFormed_numbered _

theorem Dom.looped_readBy (reader : PageReader) (markup : String) :
    (Dom.readBy reader markup).looped = false :=
  rfl

namespace Import

variable {host : Host} {params : Params} {root : NodeId} {dom : Dom}

/-! ## Lawful runs -/

/-- The content and all that is around it may be guarded while a rule is followed. -/
theorem exists_stage (wf : dom.WellFormed) (htag : ∃ tag, dom.tag? root = some tag) :
    ∃ kept, Stage kept kept ∅ root dom := by
  obtain ⟨tag, has⟩ := htag
  have hg := (Guarded.empty wf root).around (has_of_tag? has) (.inl (Set.notMem_empty root))
  exact ⟨_, { guarded := hg
              mem := .inr (.inl rfl)
              element := ⟨tag, has⟩
              fixed_subset := subset_rfl
              closed_subset := Set.empty_subset _
              opened := Set.notMem_empty root
              sealed := fun _ hp => absurd hp (Set.notMem_empty _) }⟩

/-- What is guarded need not be fixed. -/
theorem Stage.loosen {kept fixed closed : Set NodeId} (hs : Stage kept fixed closed root dom) :
    Stage kept ∅ ∅ root dom where
  guarded := hs.guarded
  mem := hs.mem
  element := hs.element
  fixed_subset := Set.empty_subset _
  closed_subset := Set.empty_subset _
  opened := Set.notMem_empty root
  sealed := fun _ hp => absurd hp (Set.notMem_empty _)

/-- The blocks of a rule are made by elementary changes. -/
theorem makeEach_lawful (hhost : host.Careful) (hp : IsPlain params) (rule : BlockRule)
    (wf : dom.WellFormed) (htag : ∃ tag, dom.tag? root = some tag) :
    let result := makeEach host params root (Task.ofRule host rule) dom
      (candidates dom root rule.selectors)
    Changes ∅ ∅ dom result.2 ∧
      ∀ creations, result.1 = .ok creations →
        ∀ creation ∈ creations, ∀ page ∈ creation.pages, Changes ∅ ∅ dom page := by
  intro result
  have hfinder (kept : Set NodeId) : CellFinder.Careful kept (Task.ofRule host rule).finder :=
    Strategy.finder_careful (hhost.metadata kept) _
  by_cases hrule : rule.mode = .replace → ∃ s ∈ rule.selectors, Selector.isValid s = true
  · obtain ⟨kept, hs⟩ := exists_stage wf htag
    obtain ⟨has, helements, hmode⟩ := candidates_stage (Task.ofRule host rule) hs hrule
    obtain ⟨hlast, hall⟩ := makeEach_reaches hhost hfinder hp hs .refl has helements hmode
    have hweak {page : Dom} (h : Changes kept ∅ dom page) : Changes ∅ ∅ dom page :=
      h.mono (Set.empty_subset _) subset_rfl
    exact ⟨hweak hlast, fun creations hok creation hin page hpage =>
      hweak (hall creations hok creation hin page hpage)⟩
  · -- The rule replaces the content itself: it is the only element that a block is made from.
    have honly : ∀ element ∈ candidates dom root rule.selectors, element = root := by
      intro element helement
      have hinvalid : rule.selectors.filter Selector.isValid = [] := by
        rw [List.filter_eq_nil_iff]
        intro s hs hvalid
        exact hrule fun _ => ⟨s, hs, hvalid⟩
      rw [candidates, hinvalid] at helement
      exact List.mem_singleton.1 helement
    refine makeEach_induct host params (fun page => Changes ∅ ∅ dom page)
      (fun creation => ∀ page ∈ creation.pages, Changes ∅ ∅ dom page) root (Task.ofRule host rule)
      (candidates dom root rule.selectors) ?_ .refl
    intro element helement page hpage
    have heq := honly element helement
    subst heq
    obtain ⟨tag, htag⟩ := htag
    have hext := hpage.extends wf
    obtain ⟨kept, hs⟩ := exists_stage hext.wellFormed (hext.element element tag htag)
    have hmade := makeBlock_made hhost hfinder hp hs.loosen (hs.guarded.has _ hs.mem) (.inr rfl)
      fun _ => Set.notMem_empty element
    refine ⟨Relation.ReflTransGen.trans hpage hmade.changes, fun creation hok other hother => ?_⟩
    exact Relation.ReflTransGen.trans hpage (hmade.pages _ hok creation rfl other hother)

/-- A run is made of elementary changes, whether or not it comes to its end. -/
theorem run_lawful (hhost : host.Careful) (hp : IsPlain params) (document : RuleDocument)
    (wf : dom.WellFormed) :
    Changes ∅ ∅ dom (run host document params dom).2 ∧
      ∀ root creations, (run host document params dom).1 = .ok (root, creations) →
        ∀ creation ∈ creations, ∀ page ∈ creation.pages, Changes ∅ ∅ dom page := by
  have hinduct := run_induct host params (fun page => Changes ∅ ∅ dom page)
    (fun creation => ∀ page ∈ creation.pages, Changes ∅ ∅ dom page) document ?_ ?_ .refl
  · exact ⟨hinduct.1, fun root creations hok => (hinduct.2 root creations hok).2⟩
  · intro entries page hpage
    have hg := Guarded.empty (hpage.wellFormed wf) (rootOf dom document.root)
    exact Relation.ReflTransGen.trans hpage (removeEntries_changes hhost entries hg)
  · intro rule hrule page hpage result
    obtain ⟨tag, htag⟩ := rootOf_element wf document.root
    have hext := hpage.extends wf
    obtain ⟨hlast, hall⟩ := makeEach_lawful hhost hp rule hext.wellFormed
      (hext.element _ tag htag)
    refine ⟨Relation.ReflTransGen.trans hpage hlast,
      fun creations hok creation hin other hother => ?_⟩
    exact Relation.ReflTransGen.trans hpage (hall creations hok creation hin other hother)

/-! ## Any number of runs -/

/-- The page after several runs, each with rules and settings of its own. -/
def runAll (host : Host) (runs : List (RuleDocument × Params)) (dom : Dom) : Dom :=
  runs.foldl (fun page (document, params) => (run host document params page).2) dom

theorem runAll_lawful (hhost : host.Careful) {runs : List (RuleDocument × Params)}
    (hruns : ∀ entry ∈ runs, IsPlain entry.2) (wf : dom.WellFormed) :
    Changes ∅ ∅ dom (runAll host runs dom) := by
  induction runs generalizing dom with
  | nil => exact .refl
  | cons entry runs ih =>
    have hfirst := (run_lawful hhost (hruns entry List.mem_cons_self) entry.1 wf).1
    have hrest := ih (fun other ho => hruns other (List.mem_cons_of_mem _ ho))
      (hfirst.wellFormed wf)
    exact Relation.ReflTransGen.trans hfirst hrest

/-- However often rules are run over a page that was read, each time with settings of their own, all
that is done to it are edits, and every page on the way is a tree, whichever way it was; and so are
the pages that the next run records: when it asks for a block, and before and after it places
one. -/
theorem runs_keep_trees (sanitize : Sanitize.Sanitizer) (reader : PageReader) (markup : String)
    (runs : List (RuleDocument × Json.Fields)) :
    let start := Dom.readBy reader markup
    let host := standardHost sanitize
    let after := runAll host (runs.map fun (document, fields) => (document, Value.ofFields fields))
      start
    (Edits start after ∧ ∀ page, Edits start page → Edits page after → page.IsTree) ∧
      ∀ document fields root creations,
        (run host document (Value.ofFields fields) after).1 = .ok (root, creations) →
          ∀ creation ∈ creations, ∀ page ∈ creation.pages, page.IsTree := by
  intro start host after
  have wf : start.WellFormed := wellFormed_readBy reader markup
  have hl : start.looped = false := looped_readBy reader markup
  have hhost := standardHost_careful sanitize
  have hruns : Changes ∅ ∅ start after := by
    refine runAll_lawful hhost (fun entry hentry => ?_) wf
    obtain ⟨⟨document, fields⟩, _, rfl⟩ := List.mem_map.1 hentry
    exact isPlain_ofFields fields
  refine ⟨⟨hruns.edits, fun page hfirst hrest => ?_⟩, ?_⟩
  · exact Edits.isTree hfirst hrest wf ((hruns.looped_eq wf).trans hl)
  · intro document fields root creations hok creation hin page hpage
    have hafter := hruns.wellFormed wf
    have hrun := (run_lawful hhost (isPlain_ofFields fields) document hafter).2 root creations hok
      creation hin page hpage
    have hall : Changes ∅ ∅ start page := Relation.ReflTransGen.trans hruns hrun
    exact (hall.wellFormed wf).isTree ((hall.looped_eq wf).trans hl)

end Import

end PageBlocks
