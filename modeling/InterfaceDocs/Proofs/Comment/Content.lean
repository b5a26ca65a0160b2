import InterfaceDocs.Proofs.Comment.Code

/-!
# No text is lost

The characters of a comment without tags that are not blank are those of its elements, in order
and with the brackets of its code blocks (`nonblank_of_parse`).  The invariant of the reading is
that the lines read so far are the elements that have been completed, followed by what has been
read of the next one (`Reads.content_eq`).
-/

namespace InterfaceDocs

/-- The characters of an element that are not blank, with the brackets of a code block. -/
def DocElement.content : DocElement → List Char
  | .paragraph text => Text.nonblank text.toList
  | .codeBlock text => Comment.codeStart ++ Text.nonblank text.toList ++ Comment.codeStop
  | .tag _ => []

namespace Comment

/-- The characters that have been read of the next element and are not blank. -/
def Place.content : Place → List Char
  | .paragraph words => words.flatMap Text.nonblank
  | .code _ body => codeStart ++ body.flatMap Text.nonblank

/-! ### Text -/

/-- The content of a paragraph is that of its lines. -/
theorem content_paragraph (words : List (List Char)) :
  (paragraph words).flatMap DocElement.content = words.flatMap Text.nonblank
  := by
  rw [paragraph]
  split
  · rename_i h
    rw [h]
    rfl
  · rw [List.flatMap_singleton, DocElement.content, String.toList_ofList,
      Text.nonblank_intercalate (by decide)]

/-- The content of a code block is that of its lines, between the brackets. -/
theorem content_codeBlock (body : List (List Char)) :
  (codeBlock body).content = codeStart ++ body.flatMap Text.nonblank ++ codeStop
  := by
  rw [codeBlock, DocElement.content, String.toList_ofList, Text.nonblank_intercalate (by decide)]

/-- A line of a code block has the same content whether an empty one is left out or not. -/
theorem nonblank_codeLine (line : List Char) :
  (codeLine line).flatMap Text.nonblank = Text.nonblank line
  := by
  rw [codeLine]
  split
  · rename_i h
    rw [h]
    rfl
  · apply List.flatMap_singleton Text.nonblank line

/-- A line adds its characters to what has been read. -/
theorem Step.content_eq {n : Nat} {line : List Char} {place place' : Place}
    {elements : List DocElement} (h : Step n line place elements place')
    (htag : place.start? = none → ¬ ['@'] <+: Text.trim line) :
  place.content ++ Text.nonblank line = elements.flatMap DocElement.content ++ place'.content
  := by
  have hstart : Text.nonblank codeStart = codeStart := by decide
  have hstop : Text.nonblank codeStop = codeStop := by decide
  rw [← Text.nonblank_trim line]
  cases h with
  | blank h =>
    rw [h, content_paragraph]
    rfl
  | text => simp [Place.content]
  | tag h => exact absurd h (htag rfl)
  | @code words body h =>
    rw [h, Text.nonblank_append, Text.nonblank_append, hstart, hstop, List.flatMap_append,
      content_paragraph, List.flatMap_singleton, DocElement.content, String.toList_ofList,
      Text.nonblank_trim]
    simp [Place.content]
  | @opening words rest h =>
    rw [h, Text.nonblank_append, hstart, content_paragraph, Place.content, Place.content,
      nonblank_codeLine, Text.nonblank_trim]
  | @closing start body last h =>
    rw [h, Text.nonblank_append, hstop, List.flatMap_singleton, content_codeBlock,
      List.flatMap_append, nonblank_codeLine, Text.nonblank_trim]
    simp [Place.content]
  | inside => simp [Place.content, Text.nonblank_trim]

/-- Lines without tags have the content of the elements that are read and of what has been begun. -/
theorem Reads.content_eq {lines : List (List Char)} {elements : List DocElement} {place : Place}
    (h : Reads lines elements place) (htags : NoTags lines) :
  lines.flatMap Text.nonblank = elements.flatMap DocElement.content ++ place.content
  := by
  induction h with
  | nil => rfl
  | @concat lines elements place line completed place' hreads hstep ih =>
    have hbefore : NoTags lines := fun n line htag => htags n line (tagAt_concat.mpr (.inl htag))
    have hlast : place.start? = none → ¬ ['@'] <+: Text.trim line := by
      intro houtside htag
      rw [hreads.start?_eq] at houtside
      apply htags lines.length line (tagAt_concat.mpr (.inr ⟨rfl, rfl, houtside, htag⟩))
    calc (lines ++ [line]).flatMap Text.nonblank
      _ = lines.flatMap Text.nonblank ++ Text.nonblank line := by
        rw [List.flatMap_append, List.flatMap_singleton]
      _ = elements.flatMap DocElement.content ++ (place.content ++ Text.nonblank line) := by
        rw [ih hbefore, List.append_assoc]
      _ = (elements ++ completed).flatMap DocElement.content ++ place'.content := by
        rw [hstep.content_eq hlast, List.flatMap_append, List.append_assoc]

/-! ### Paragraphs -/

/-- What has been read of a paragraph has no empty lines. -/
def Place.Full : Place → Prop
  | .paragraph words => [] ∉ words
  | .code _ _ => True

/-- Lines that are not empty give no empty paragraph. -/
theorem paragraph_empty_notMem {words : List (List Char)} (h : [] ∉ words) :
  .paragraph "" ∉ paragraph words
  := by
  cases words with
  | nil => apply List.not_mem_nil
  | cons word words =>
    rw [paragraph, if_neg (List.cons_ne_nil word words), List.mem_singleton,
      DocElement.paragraph.injEq, eq_comm, String.ofList_eq_empty_iff]
    intro hempty
    have hword : word = [] := by
      cases words with
      | nil => rwa [List.intercalate_singleton] at hempty
      | cons next words =>
        rw [List.intercalate_cons_cons, List.append_assoc] at hempty
        apply List.append_eq_nil_iff.mp hempty |>.1
    rw [hword] at h
    apply h List.mem_cons_self

/-- One step gives no empty paragraph, and it leaves no empty line in a paragraph that has been
begun. -/
theorem Step.full {n : Nat} {line : List Char} {place place' : Place} {elements : List DocElement}
    (h : Step n line place elements place') (hplace : place.Full) :
  .paragraph "" ∉ elements ∧ place'.Full
  := by
  cases h with
  | blank => use paragraph_empty_notMem hplace, List.not_mem_nil
  | text hempty =>
    use List.not_mem_nil
    rw [Place.Full, List.mem_append, List.mem_singleton, not_or]
    use hplace, hempty.symm
  | tag => simp [paragraph_empty_notMem hplace, Place.Full]
  | code => simp [paragraph_empty_notMem hplace, Place.Full]
  | opening =>
    constructor
    · apply paragraph_empty_notMem hplace
    · trivial
  | closing => simp [codeBlock, Place.Full]
  | inside =>
    constructor
    · apply List.not_mem_nil
    · trivial

/-- No empty paragraph is read. -/
theorem Reads.full {lines : List (List Char)} {elements : List DocElement} {place : Place}
    (h : Reads lines elements place) :
  .paragraph "" ∉ elements ∧ place.Full
  := by
  induction h with
  | nil => use List.not_mem_nil, List.not_mem_nil
  | concat _ hstep ih =>
    obtain ⟨hcompleted, hplace'⟩ := hstep.full ih.2
    rw [List.mem_append, not_or]
    use ⟨ih.1, hcompleted⟩, hplace'

/-! ### Parsing -/

/-- A comment that can be parsed has been read up to the end of a paragraph. -/
theorem reads_of_parse {text : String} {loc : Location} {comment : Comment}
    (h : parse text loc = .ok comment) :
  ∃ elements words, Reads (Text.lines text.toList) elements (.paragraph words) ∧
    comment.elements = elements ++ paragraph words
  := by
  rcases reads_or_fails (Text.lines text.toList) with ⟨elements, place, hreads⟩ | ⟨n, fault, hfails⟩
  · rw [hreads.parse loc] at h
    cases place with
    | paragraph words =>
      cases h
      exact ⟨elements, words, hreads, rfl⟩
    | code start body => cases h
  · rw [hfails.parse loc] at h
    cases h

/-- The characters of a comment without tags that are not blank are those of its elements, and no
paragraph is empty. -/
theorem nonblank_of_parse {text : String} {loc : Location} {comment : Comment}
    (h : parse text loc = .ok comment) :
  (NoTags (Text.lines text.toList) →
    Text.nonblank text.toList = comment.elements.flatMap DocElement.content) ∧
  ∀ p, .paragraph p ∈ comment.elements → p ≠ ""
  := by
  obtain ⟨elements, words, hreads, hcomment⟩ := reads_of_parse h
  constructor
  · intro htags
    rw [← Text.nonblank_lines, hreads.content_eq htags, hcomment, List.flatMap_append,
      content_paragraph]
    rfl
  · rintro p hp rfl
    rw [hcomment, List.mem_append] at hp
    rcases hp with hp | hp
    · apply hreads.full.1 hp
    · apply paragraph_empty_notMem hreads.full.2 hp

/-- A comment with two paragraphs around a code block, which has text beside both of its brackets
and a line that looks like a tag. -/
def contentSample : String :=
  "one\n two \n\x7b[ let x = 1\n  @see y\n z ]\x7d\n\nend"

/-- The content of `contentSample`, which has no tags, is that of its three elements. -/
theorem nonblank_of_parse_contentSample :
  let comment : Comment :=
    ⟨[.paragraph "one two", .codeBlock "let x = 1\n  @see y\nz", .paragraph "end"]⟩
  parse contentSample .none = .ok comment ∧ NoTags (Text.lines contentSample.toList) ∧
  Text.nonblank contentSample.toList = comment.elements.flatMap DocElement.content ∧
  ("end" : String) ≠ ""
  := by
  intro comment
  have hparse : parse contentSample .none = .ok comment := rfl
  have htags : NoTags (Text.lines contentSample.toList) := by decide +kernel
  obtain ⟨hcontent, hfull⟩ := nonblank_of_parse hparse
  use hparse, htags, hcontent htags, hfull "end" (by decide)

end Comment

end InterfaceDocs
