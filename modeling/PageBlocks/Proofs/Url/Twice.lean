import Mathlib.Data.List.TakeWhile
import PageBlocks.Proofs.Text.Case
import PageBlocks.Proofs.Url.Slug
/-!
# Cleaning a path twice

A clean segment is a slug, and a slug is cleaned to itself; what is behind the last point is kept as it
is both times.  So a path that was cleaned differs from what it is cleaned to in one thing alone.
Segments that are empty are dropped before they are cleaned, and not after: a segment of which nothing
is left stays as an empty one, and it is dropped only when the path is cleaned once more.

## Main results

* `Url.cleanSegment_slug` — a slug is cleaned to itself.
* `Url.cleanPath_slugs` — a path of slugs loses its empty segments, and nothing else.
* `Url.cleanPath_again_iff` — when the second cleaning changes nothing; the third one never does.
-/

namespace PageBlocks.Url

open PageBlocks.Text

/-! ## Slugs are clean -/

theorem isAscii_of_isWordPart {c : Char} (h : isWordPart c = true) : isAscii c = true := by
  simp only [isWordPart, isAsciiDigit, Bool.or_eq_true, Bool.and_eq_true, decide_eq_true_eq] at h
  rcases h with ⟨-, h⟩ | ⟨-, h⟩
  · exact isAscii_of_le h (by decide)
  · exact isAscii_of_le h (by decide)

theorem isAscii_of_slug {c : Char} (h : isWordPart c = true ∨ c = '-') : isAscii c = true := by
  rcases h with h | rfl
  · exact isAscii_of_isWordPart h
  · decide

/-- Neither parts of words nor dashes are capitals. -/
theorem asciiLowerChar_of_slug {c : Char} (h : isWordPart c = true ∨ c = '-') :
    asciiLowerChar c = c :=
  forall_ascii (P := fun c => isWordPart c = true ∨ c = '-' → asciiLowerChar c = c) (by decide)
    (isAscii_of_slug h) h

theorem lower_of_slug {text : List Char} (h : ∀ c ∈ text, isWordPart c = true ∨ c = '-') :
    lower text = text := by
  calc lower text = text.map asciiLowerChar := lower_eq_asciiLower fun c hc => isAscii_of_slug (h c hc)
    _ = text.map id := List.map_congr_left fun c hc => asciiLowerChar_of_slug (h c hc)
    _ = text := List.map_id text

theorem flatMap_unaccent_of_slug {text : List Char}
    (h : ∀ c ∈ text, isWordPart c = true ∨ c = '-') : text.flatMap unaccent = text := by
  calc text.flatMap unaccent = text.flatMap ([·]) :=
        List.flatMap_congr fun c hc => unaccent_of_isAscii (isAscii_of_slug (h c hc))
    _ = text := List.flatMap_singleton' text

theorem dashedFrom_word {word : List Char} (h : ∀ c ∈ word, isWordPart c = true)
    (rest : List Char) : dashedFrom false (word ++ rest) = word ++ dashedFrom false rest := by
  induction word with
  | nil => rfl
  | cons c word ih =>
    obtain ⟨hc, hword⟩ := List.forall_mem_cons.1 h
    rw [List.cons_append, dashedFrom, if_pos hc, ih hword]
    rfl

/-- Words with dashes in front of them keep their dashes. -/
theorem dashedFrom_words {words : List (List Char)} (h : ∀ word ∈ words, IsWord word) :
    dashedFrom false (words.flatMap ('-' :: ·)) = words.flatMap ('-' :: ·) := by
  induction words with
  | nil => rfl
  | cons word words ih =>
    obtain ⟨⟨hne, hparts⟩, hwords⟩ := List.forall_mem_cons.1 h
    obtain ⟨c, word, rfl⟩ := List.exists_cons_of_ne_nil hne
    obtain ⟨hc, hword⟩ := List.forall_mem_cons.1 hparts
    rw [List.flatMap_cons, List.cons_append, dashedFrom, if_neg (by decide), List.cons_append,
      dashedFrom, if_pos hc, dashedFrom_word hword, ih hwords]
    rfl

theorem dashed_slug {segment : List Char} (h : IsSlug segment) : dashed segment = segment := by
  obtain ⟨words, hwords, rfl⟩ := h
  cases words with
  | nil => rfl
  | cons first words =>
    obtain ⟨⟨hne, hparts⟩, hrest⟩ := List.forall_mem_cons.1 hwords
    obtain ⟨c, first, rfl⟩ := List.exists_cons_of_ne_nil hne
    have hc : isWordPart c = true := hparts c List.mem_cons_self
    rw [joinWith_cons, dashed, List.cons_append, List.dropWhile_cons_of_neg (by simp [hc]),
      ← List.cons_append, dashedFrom_word hparts]
    exact congrArg _ (dashedFrom_words hrest)

/-- A slug is cleaned to itself: it has neither escapes, capitals nor accents, and its words are joined
by single dashes already. -/
theorem cleanSegment_slug {segment : List Char} (h : IsSlug segment) :
    cleanSegment segment = segment := by
  have hparts : ∀ c ∈ segment, isWordPart c = true ∨ c = '-' := fun c hc => h.isWordPart_or hc
  have hpercent : '%' ∉ segment := h.notMem (by decide) (by decide)
  rw [cleanSegment, unescape_of_noPercent hpercent, lower_of_slug hparts,
    flatMap_unaccent_of_slug hparts, dashed_slug h]

/-! ## What is left of a segment -/

theorem dashedFrom_eq_nil_iff {text : List Char} {pending : Bool} :
    dashedFrom pending text = [] ↔ ∀ c ∈ text, isWordPart c = false := by
  induction text generalizing pending with
  | nil => simp [dashedFrom]
  | cons c text ih =>
    rw [dashedFrom, List.forall_mem_cons]
    by_cases hc : isWordPart c = true
    · cases pending <;> simp [hc]
    · rw [if_neg hc, ih]
      simp [hc]

/-- Nothing is left of a segment just when no part of a word is in it, with its escapes read and its
accents gone. -/
theorem cleanSegment_eq_nil_iff {segment : List Char} :
    cleanSegment segment = [] ↔
      ∀ c ∈ (lower (unescape segment)).flatMap unaccent, isWordPart c = false := by
  rw [cleanSegment, dashed, dashedFrom_eq_nil_iff]
  constructor
  · intro h c hc
    rw [← List.takeWhile_append_dropWhile (p := (!isWordPart ·)) (l := List.flatMap _ _)] at hc
    rcases List.mem_append.1 hc with hc | hc
    · simpa using List.mem_takeWhile_imp hc
    · exact h c hc
  · exact fun h c hc => h c ((List.dropWhile_sublist _).subset hc)

/-! ## Paths -/

/-- The extension of a path, with its point. -/
def dotted (extension : List Char) : List Char :=
  if extension.isEmpty then [] else '.' :: extension

/-- The segments of a path after they have been cleaned. -/
def cleanSegments (path : List Char) : List (List Char) :=
  ((splitOn ['/'] (cutExtension path).1).filter (!·.isEmpty)).map cleanSegment

theorem cleanPath_eq (path : List Char) :
    cleanPath path = (cleanSegments path).flatMap ('/' :: ·) ++ dotted (cutExtension path).2 := by
  rw [cleanPath, cleanSegments, List.flatMap_map]
  rfl

theorem isSlug_of_mem_cleanSegments {path segment : List Char} (h : segment ∈ cleanSegments path) :
    IsSlug segment := by
  obtain ⟨piece, -, rfl⟩ := List.mem_map.1 h
  exact isSlug_cleanSegment piece

/-- An extension has neither points nor slashes. -/
theorem notMem_cutExtension (path : List Char) :
    '.' ∉ (cutExtension path).2 ∧ '/' ∉ (cutExtension path).2 := by
  by_cases hpoint : '.' ∈ path
  · obtain ⟨after, before, hpath, hafter⟩ :=
      List.eq_append_cons_of_mem (List.mem_reverse.2 hpoint)
    have heq : path = before.reverse ++ '.' :: after.reverse := by
      rw [← List.reverse_reverse path, hpath]
      simp
    have hnot : '.' ∉ after.reverse := List.mem_reverse.not.2 hafter
    rw [cutExtension, heq, cutLast?_of_notMem hnot]
    by_cases hslash : '/' ∈ after.reverse
    · simp [hslash]
    · simpa [hslash] using hafter
  · rw [cutExtension, cutLast?_eq_none hpoint]
    simp

/-- A path is cut where an extension was put behind slugs. -/
theorem cutExtension_slugs {segments : List (List Char)} {extension : List Char}
    (hsegments : ∀ segment ∈ segments, IsSlug segment) (hpoint : '.' ∉ extension)
    (hslash : '/' ∉ extension) :
    cutExtension (segments.flatMap ('/' :: ·) ++ dotted extension) =
      (segments.flatMap ('/' :: ·), extension) := by
  cases extension with
  | nil =>
    have hnot : '.' ∉ segments.flatMap ('/' :: ·) := by
      intro hmem
      have hpath : IsSlugPath (segments.flatMap ('/' :: ·)) := ⟨segments, hsegments, rfl⟩
      exact absurd (hpath.isWordPart_or hmem) (by decide)
    rw [dotted, List.isEmpty_nil, if_pos rfl, List.append_nil, cutExtension, cutLast?_eq_none hnot]
  | cons c extension =>
    have hcut : cutLast? ['.'] (segments.flatMap ('/' :: ·) ++ '.' :: c :: extension) =
        some (segments.flatMap ('/' :: ·), c :: extension) := cutLast?_of_notMem hpoint
    rw [dotted, List.isEmpty_cons, if_neg Bool.false_ne_true, cutExtension, hcut]
    simpa using hslash

/-- A path of slugs loses its empty segments, and nothing else. -/
theorem cleanPath_slugs {segments : List (List Char)} {extension : List Char}
    (hsegments : ∀ segment ∈ segments, IsSlug segment) (hpoint : '.' ∉ extension)
    (hslash : '/' ∉ extension) :
    cleanPath (segments.flatMap ('/' :: ·) ++ dotted extension) =
      (segments.filter (!·.isEmpty)).flatMap ('/' :: ·) ++ dotted extension := by
  have hpieces : ∀ segment ∈ segments, '/' ∉ segment :=
    fun segment hsegment => (hsegments segment hsegment).notMem (by decide) (by decide)
  have hclean : ∀ segment ∈ segments.filter (!·.isEmpty), cleanSegment segment = segment :=
    fun segment hsegment => cleanSegment_slug (hsegments segment (List.mem_filter.1 hsegment).1)
  rw [cleanPath_eq, cleanSegments, cutExtension_slugs hsegments hpoint hslash,
    splitOn_flatMap hpieces, List.filter_cons_of_neg (by simp), List.map_congr_left hclean,
    List.map_id']

/-- Slugs in a path can be told apart. -/
theorem flatMap_slash_injective {first second : List (List Char)}
    (hfirst : ∀ segment ∈ first, IsSlug segment) (hsecond : ∀ segment ∈ second, IsSlug segment)
    (h : first.flatMap ('/' :: ·) = second.flatMap ('/' :: ·)) : first = second := by
  have hsplit {segments : List (List Char)} (hsegments : ∀ segment ∈ segments, IsSlug segment) :
      splitOn ['/'] (segments.flatMap ('/' :: ·)) = [] :: segments :=
    splitOn_flatMap fun segment hsegment =>
      (hsegments segment hsegment).notMem (by decide) (by decide)
  have heq := hsplit hfirst
  rw [h, hsplit hsecond] at heq
  exact (List.cons.inj heq).2.symm

/-- A path that was cleaned is cleaned to itself just when of each of its segments that are not empty,
with its escapes read and its accents gone, some small letter or digit is left; and a path that was
cleaned twice is cleaned to itself always. -/
theorem cleanPath_again_iff (path : List Char) :
    (cleanPath (cleanPath path) = cleanPath path ↔
      ∀ segment ∈ splitOn ['/'] (cutExtension path).1, segment ≠ [] →
        ∃ c ∈ (lower (unescape segment)).flatMap unaccent, isWordPart c = true) ∧
      cleanPath (cleanPath (cleanPath path)) = cleanPath (cleanPath path) := by
  obtain ⟨hpoint, hslash⟩ := notMem_cutExtension path
  have hslugs : ∀ segment ∈ cleanSegments path, IsSlug segment :=
    fun segment hsegment => isSlug_of_mem_cleanSegments hsegment
  have hkept : ∀ segment ∈ (cleanSegments path).filter (!·.isEmpty), IsSlug segment :=
    fun segment hsegment => hslugs segment (List.mem_filter.1 hsegment).1
  have htwice : cleanPath (cleanPath path) =
      ((cleanSegments path).filter (!·.isEmpty)).flatMap ('/' :: ·) ++
        dotted (cutExtension path).2 := by
    rw [cleanPath_eq path, cleanPath_slugs hslugs hpoint hslash]
  refine ⟨?_, ?_⟩
  · calc cleanPath (cleanPath path) = cleanPath path
        ↔ (cleanSegments path).filter (!·.isEmpty) = cleanSegments path := by
          rw [htwice, cleanPath_eq path, List.append_left_inj]
          exact ⟨flatMap_slash_injective hkept hslugs, congrArg (List.flatMap ('/' :: ·))⟩
      _ ↔ ∀ segment ∈ cleanSegments path, segment ≠ [] := by
          rw [List.filter_eq_self]
          simp
      _ ↔ _ := by
          simp only [cleanSegments, List.forall_mem_map, List.mem_filter, ne_eq,
            cleanSegment_eq_nil_iff, not_forall, exists_prop, Bool.not_eq_false, and_imp]
          simp
  · rw [htwice, cleanPath_slugs hkept hpoint hslash, List.filter_filter]
    simp

/-- A segment of which nothing is left is dropped the second time only. -/
theorem cleanPath_keeps_emptied :
    ¬ ∀ path, cleanPath (cleanPath path) = cleanPath path := by
  intro h
  exact absurd (h "/a/!".toList) (by decide +kernel)

end PageBlocks.Url
