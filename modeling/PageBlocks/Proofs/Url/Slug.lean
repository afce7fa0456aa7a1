import PageBlocks.Block.Host
import PageBlocks.Proofs.Text.Search
import PageBlocks.Url.Path
/-!
# Paths of documents are slugs

A segment is cleaned by joining its words with single dashes, so that each cleaned segment is a slug,
whatever stood in it.  Only what is behind the last point of a path is kept as it is.  The path of a
document has no point when it comes to be cleaned: of the address nothing is left by then but small
letters, digits, slashes and dashes.

## Main results

* `Url.isSlug_dashed` — the words of any text make a slug.
* `Url.isSlugPath_cleanPath` — a path without points is cleaned to slugs.
* `Url.documentPath_slugs` — the path of a document is made of slugs.
-/

namespace PageBlocks

open PageBlocks.Text

namespace Url

/-! ## Slugs -/

/-- At least one small ASCII letter or digit, and nothing else. -/
def IsWord (word : List Char) : Prop :=
  word ≠ [] ∧ ∀ c ∈ word, isWordPart c = true

/-- Words joined by single dashes, if there are any. -/
def IsSlug (segment : List Char) : Prop :=
  ∃ words : List (List Char), (∀ word ∈ words, IsWord word) ∧ segment = joinWith ['-'] words

/-- Slugs with a slash in front of each of them. -/
def IsSlugPath (path : List Char) : Prop :=
  ∃ segments : List (List Char), (∀ segment ∈ segments, IsSlug segment) ∧
    path = segments.flatMap ('/' :: ·)

theorem isSlug_nil : IsSlug [] :=
  ⟨[], fun _ h => absurd h List.not_mem_nil, rfl⟩

/-- A slug has nothing but parts of words and dashes. -/
theorem IsSlug.isWordPart_or {segment : List Char} (h : IsSlug segment) {c : Char}
    (hc : c ∈ segment) : isWordPart c = true ∨ c = '-' := by
  obtain ⟨words, hwords, rfl⟩ := h
  cases words with
  | nil => exact absurd hc List.not_mem_nil
  | cons first words =>
    obtain ⟨hfirst, hrest⟩ := List.forall_mem_cons.1 hwords
    rw [joinWith_cons, List.mem_append] at hc
    rcases hc with hc | hc
    · exact .inl (hfirst.2 c hc)
    · obtain ⟨word, hword, hmem⟩ := List.mem_flatMap.1 hc
      rcases List.mem_cons.1 hmem with rfl | hmem
      · exact .inr rfl
      · exact .inl ((hrest word hword).2 c hmem)

theorem IsSlug.notMem {segment : List Char} (h : IsSlug segment) {c : Char}
    (hpart : isWordPart c = false) (hdash : c ≠ '-') : c ∉ segment := by
  intro hmem
  rcases h.isWordPart_or hmem with hword | heq
  · rw [hpart] at hword
    cases hword
  · exact hdash heq

/-- What is written is the rest of a word, unless a dash is due, and then words with a dash in front
of each of them. -/
theorem exists_words_dashedFrom (text : List Char) (pending : Bool) :
    ∃ (run : List Char) (words : List (List Char)), (∀ c ∈ run, isWordPart c = true) ∧
      (∀ word ∈ words, IsWord word) ∧ (pending = true → run = []) ∧
      dashedFrom pending text = run ++ words.flatMap ('-' :: ·) := by
  induction text generalizing pending with
  | nil => exact ⟨[], [], by simp, by simp, fun _ => rfl, rfl⟩
  | cons c text ih =>
    by_cases hc : isWordPart c = true
    · obtain ⟨run, words, hrun, hwords, -, heq⟩ := ih false
      have hfirst : ∀ d ∈ c :: run, isWordPart d = true := List.forall_mem_cons.2 ⟨hc, hrun⟩
      rw [dashedFrom, if_pos hc, heq]
      cases pending with
      | false => exact ⟨c :: run, words, hfirst, hwords, fun h => absurd h (by decide), rfl⟩
      | true =>
        have hword : IsWord (c :: run) := ⟨List.cons_ne_nil c run, hfirst⟩
        exact ⟨[], (c :: run) :: words, by simp, List.forall_mem_cons.2 ⟨hword, hwords⟩,
          fun _ => rfl, rfl⟩
    · obtain ⟨run, words, hrun, hwords, hpending, heq⟩ := ih true
      rw [dashedFrom, if_neg hc]
      exact ⟨run, words, hrun, hwords, fun _ => hpending rfl, heq⟩

/-- The words of any text make a slug. -/
theorem isSlug_dashed (text : List Char) : IsSlug (dashed text) := by
  rw [dashed]
  cases htext : text.dropWhile (!isWordPart ·) with
  | nil => exact isSlug_nil
  | cons c rest =>
    have hstart := List.head?_dropWhile_not (!isWordPart ·) text
    rw [htext] at hstart
    have hc : isWordPart c = true := by simpa using hstart
    obtain ⟨run, words, hrun, hwords, -, heq⟩ := exists_words_dashedFrom rest false
    refine ⟨(c :: run) :: words, List.forall_mem_cons.2 ⟨⟨List.cons_ne_nil c run, ?_⟩, hwords⟩, ?_⟩
    · exact List.forall_mem_cons.2 ⟨hc, hrun⟩
    · rw [dashedFrom, if_pos hc, heq, joinWith_cons]
      rfl

theorem isSlug_cleanSegment (segment : List Char) : IsSlug (cleanSegment segment) :=
  isSlug_dashed _

/-! ## Paths -/

/-- The pieces between the slashes of a path of slugs are slugs. -/
theorem IsSlugPath.isSlug_of_mem_splitOn {path piece : List Char} (h : IsSlugPath path)
    (hpiece : piece ∈ splitOn ['/'] path) : IsSlug piece := by
  obtain ⟨segments, hsegments, rfl⟩ := h
  have hslash : ∀ segment ∈ segments, '/' ∉ segment :=
    fun segment hsegment => (hsegments segment hsegment).notMem (by decide) (by decide)
  rw [splitOn_flatMap hslash] at hpiece
  rcases List.mem_cons.1 hpiece with rfl | hmem
  · exact isSlug_nil
  · exact hsegments piece hmem

theorem IsSlugPath.isWordPart_or {path : List Char} (h : IsSlugPath path) {c : Char}
    (hc : c ∈ path) : isWordPart c = true ∨ c = '-' ∨ c = '/' := by
  obtain ⟨segments, hsegments, rfl⟩ := h
  obtain ⟨segment, hsegment, hmem⟩ := List.mem_flatMap.1 hc
  rcases List.mem_cons.1 hmem with rfl | hmem
  · exact .inr (.inr rfl)
  · exact ((hsegments segment hsegment).isWordPart_or hmem).imp_right .inl

/-- A path without points has no extension, and all of it is cleaned. -/
theorem isSlugPath_cleanPath {path : List Char} (h : '.' ∉ path) : IsSlugPath (cleanPath path) := by
  have hcut : cutExtension path = (path, []) := by rw [cutExtension, cutLast?_eq_none h]
  refine ⟨((splitOn ['/'] path).filter (!·.isEmpty)).map cleanSegment, ?_, ?_⟩
  · intro segment hsegment
    obtain ⟨piece, -, rfl⟩ := List.mem_map.1 hsegment
    exact isSlug_cleanSegment piece
  · rw [cleanPath, hcut, List.flatMap_map]
    exact List.append_nil _

/-- All that is no part of a word but a slash has given way to dashes. -/
theorem point_notMem_rawDocumentPath {address raw : List Char}
    (h : rawDocumentPath address = .ok raw) : '.' ∉ raw := by
  rw [rawDocumentPath] at h
  cases hpath : pathOf address with
  | error fault =>
    rw [hpath] at h
    cases h
  | ok path =>
    rw [hpath] at h
    cases h
    intro hmem
    obtain ⟨c, -, hc⟩ := List.mem_map.1 hmem
    split at hc
    · next hkept =>
      subst hc
      exact absurd hkept (by decide)
    · exact absurd hc (by decide)

/-- An address that can be cut yields a path, and this path is made of slugs: it has neither points
nor any other character than small ASCII letters, digits, dashes and slashes, and so no step of it
leads upwards. -/
theorem documentPath_slugs (sanitize : Sanitize.Sanitizer) {address : List Char} {parts : Parts}
    (h : split address = .ok parts) :
    ∃ path, (rawDocumentPath address).map (standardHost sanitize).cleanPath = .ok path ∧
      IsSlugPath path ∧ (∀ c ∈ path, isWordPart c = true ∨ c = '-' ∨ c = '/') ∧
      ∀ piece ∈ splitOn ['/'] path, IsSlug piece ∧ piece ≠ ['.'] ∧ piece ≠ ['.', '.'] := by
  obtain ⟨raw, hraw⟩ : ∃ raw, rawDocumentPath address = .ok raw := by
    rw [rawDocumentPath, pathOf, h]
    exact ⟨_, rfl⟩
  have hpath : IsSlugPath (cleanPath raw) :=
    isSlugPath_cleanPath (point_notMem_rawDocumentPath hraw)
  refine ⟨cleanPath raw, by rw [hraw]; rfl, hpath, fun c hc => hpath.isWordPart_or hc, ?_⟩
  intro piece hpiece
  have hslug := hpath.isSlug_of_mem_splitOn hpiece
  have hpoint : '.' ∉ piece := hslug.notMem (by decide) (by decide)
  refine ⟨hslug, ?_, ?_⟩
  · rintro rfl
    exact hpoint List.mem_cons_self
  · rintro rfl
    exact hpoint List.mem_cons_self

/-- An address with escaped slashes and points, a capital beyond ASCII and two extensions. -/
def climbingAddress : List Char :=
  "https://site/a/%2e%2e/%2E./%c3%84 B%2Fc.tar.HTML?x".toList

/-- Of the points nothing but empty segments and a dash is left. -/
theorem documentPath_slugs_climbing :
    split climbingAddress = .ok ⟨"https".toList, "site".toList,
        "/a/%2e%2e/%2E./%c3%84 B%2Fc.tar.HTML".toList⟩ ∧
      ∃ path, path = "/a///b/c-tar".toList ∧
        (rawDocumentPath climbingAddress).map
          (standardHost Sanitize.standardSanitizer).cleanPath = .ok path ∧
        IsSlugPath path ∧ (∀ c ∈ path, isWordPart c = true ∨ c = '-' ∨ c = '/') ∧
        ∀ piece ∈ splitOn ['/'] path, IsSlug piece ∧ piece ≠ ['.'] ∧ piece ≠ ['.', '.'] := by
  have hsplit : split climbingAddress = .ok ⟨"https".toList, "site".toList,
      "/a/%2e%2e/%2E./%c3%84 B%2Fc.tar.HTML".toList⟩ := by
    decide +kernel
  have hclean : (rawDocumentPath climbingAddress).map cleanPath = .ok "/a///b/c-tar".toList := by
    decide +kernel
  obtain ⟨path, hpath, hslugs⟩ := documentPath_slugs Sanitize.standardSanitizer hsplit
  exact ⟨hsplit, path, Except.ok.inj (hpath.symm.trans hclean), hpath, hslugs⟩

end Url

end PageBlocks
