import InterfaceDocs.Proofs.Comment.Reading

/-!
# Parsing what has been rendered

`Comment.render` writes a comment as a text, with a blank line between its elements.  The comments
that can be written without loss are the `Normal` ones, and parsing gives each of them back
(`parse_render`).  Reading the lines of an element completes it, or leaves it as a paragraph that
the next blank line completes (`Reads.lines_append`).
-/

namespace InterfaceDocs

/-! ### Tags -/

namespace Tag

/-- The name of a tag. -/
def name : Tag → String
  | .author _ => "author"
  | .before _ _ => "before"
  | .canonical _ => "canonical"
  | .deprecated _ => "deprecated"
  | .param _ _ => "param"
  | .raise _ _ => "raise"
  | .return _ => "return"
  | .see _ => "see"
  | .since _ => "since"
  | .version _ => "version"
  | .inline => "inline"
  | .open => "open"
  | .closed => "closed"

/-- The arguments of a tag, in order. -/
def arguments : Tag → List String
  | .before target text | .param target text | .raise target text => [target, text]
  | .author text | .canonical text | .deprecated text | .return text | .see text | .since text
  | .version text => [text]
  | .inline | .open | .closed => []

/-- The arguments of a tag as they are written, each after a space. -/
def renderArguments (tag : Tag) : List Char :=
  tag.arguments.flatMap fun argument => ' ' :: argument.toList

/-- The line on which a tag is written. -/
def render (tag : Tag) : List Char :=
  '@' :: tag.name.toList ++ tag.renderArguments

/-- The tag has the target or the path that it needs. -/
def Complete : Tag → Prop
  | .before target _ | .param target _ | .raise target _ =>
    target ≠ "" ∧ Text.IsWord target.toList
  | .canonical path => path ≠ ""
  | _ => True

/-- The tag can be written on a line. -/
def Normal (tag : Tag) : Prop :=
  (∀ argument ∈ tag.arguments, Text.IsTrimmed argument.toList ∧ Text.OneLine argument.toList) ∧
  tag.Complete

instance (tag : Tag) : Decidable tag.Complete :=
  match tag with
  | .before _ _ | .param _ _ | .raise _ _ => inferInstanceAs (Decidable (_ ∧ _))
  | .canonical _ => inferInstanceAs (Decidable (_ ≠ _))
  | .author _ | .deprecated _ | .return _ | .see _ | .since _ | .version _ | .inline | .open
  | .closed => inferInstanceAs (Decidable True)

instance (tag : Tag) : Decidable tag.Normal :=
  inferInstanceAs (Decidable (_ ∧ _))

/-- The name of a tag is a word. -/
theorem isWord_name (tag : Tag) :
  Text.IsWord tag.name.toList
  := by
  cases tag <;> (dsimp only [name]; decide)

theorem dropWhile_name (tag : Tag) (rest : List Char) :
  ('@' :: tag.name.toList ++ rest).dropWhile (· = '@') = tag.name.toList ++ rest
  := by
  cases tag <;> simp [name]

/-- The arguments of a tag begin with a blank, if there are any. -/
theorem isBlank_head?_renderArguments (tag : Tag) :
  ∀ c ∈ tag.renderArguments.head?, Text.isBlank c
  := by
  rw [renderArguments]
  cases tag.arguments with
  | nil => exact fun _ h => nomatch h
  | cons argument arguments =>
    rintro _ ⟨⟩
    decide

/-- Trimming the line of a tag trims the end of its arguments. -/
theorem trim_render (tag : Tag) :
  Text.trim tag.render = '@' :: tag.name.toList ++ Text.trimEnd tag.renderArguments
  := by
  have hword : Text.IsWord ('@' :: tag.name.toList) :=
    List.forall_mem_cons.mpr ⟨by decide, tag.isWord_name⟩
  apply Text.trim_word_append hword (List.cons_ne_nil _ _) _

/-- A normal tag is rendered as one line. -/
theorem oneLine_render {tag : Tag} (h : tag.Normal) :
  Text.OneLine tag.render
  := by
  have hname : Text.OneLine tag.name.toList := by
    cases tag <;> (dsimp only [name]; decide)
  have hfeed : ∀ argument ∈ tag.arguments, '\n' ∉ argument.toList := fun argument hargument =>
    (h.1 argument hargument).2.1
  have hreturn : ∀ argument ∈ tag.arguments, '\r' ∉ argument.toList := fun argument hargument =>
    (h.1 argument hargument).2.2
  constructor
  · simpa [render, renderArguments, hname.1] using hfeed
  · simpa [render, renderArguments, hname.2] using hreturn

end Tag

namespace Comment

/-- A written tag is read as its name and its arguments. -/
theorem parseTag_render (tag : Tag) :
  parseTag (Text.trim tag.render) = makeTag tag.name (Text.trim tag.renderArguments)
  := by
  have hrest := Text.isBlank_head?_trimEnd tag.isBlank_head?_renderArguments
  rw [Tag.trim_render, parseTag_eq, tagName, tagArgument, Tag.dropWhile_name,
    Text.firstWord_append tag.isWord_name hrest, Text.afterFirstWord_append tag.isWord_name hrest,
    Text.trim_trimEnd, String.ofList_toList]

/-- A trimmed text behind a blank is found by trimming. -/
theorem trim_renderArgument {text : String} (h : Text.IsTrimmed text.toList) :
  String.ofList (Text.trim (' ' :: text.toList)) = text
  := by
  rw [Text.trim_cons_of_blank (by decide), Text.trim_eq_self h, String.ofList_toList]

/-- A written target is read as the target, and what follows it as the text. -/
theorem namedTag_render {target text : String} (hne : target ≠ "")
    (htarget : Text.IsWord target.toList) (htext : Text.IsTrimmed text.toList)
    (make : String → String → Tag) (tag : String) :
  namedTag make tag (Text.trim (' ' :: (target.toList ++ ' ' :: text.toList)))
    = .ok (make target text)
  := by
  have hne : target.toList ≠ [] := by simpa using hne
  have hrest : ∀ c ∈ (Text.trimEnd (' ' :: text.toList)).head?, Text.isBlank c := by
    apply Text.isBlank_head?_trimEnd
    rintro _ ⟨⟩
    decide
  rw [Text.trim_cons_of_blank (by decide), Text.trim_word_append htarget hne,
    namedTag_eq (List.append_ne_nil_of_left_ne_nil hne _), Text.firstWord_append htarget hrest,
    Text.afterFirstWord_append htarget hrest, Text.trim_trimEnd, trim_renderArgument htext,
    String.ofList_toList]

/-- The line of a normal tag is parsed as the tag. -/
theorem parseTag_of_normal {tag : Tag} (h : tag.Normal) :
  parseTag (Text.trim tag.render) = .ok tag
  := by
  rw [parseTag_render]
  obtain ⟨harguments, hcomplete⟩ := h
  cases tag with
  | author text | deprecated text | «return» text | see text | since text | version text =>
    have htext := trim_renderArgument (harguments text List.mem_cons_self).1
    simp only [Tag.name, Tag.renderArguments, Tag.arguments, List.flatMap_singleton, makeTag, htext]
  | canonical path =>
    have hcomplete : path ≠ "" := hcomplete
    have hpath := (harguments path List.mem_cons_self).1
    have hne : Text.trim (' ' :: path.toList) ≠ [] := by
      rw [Text.trim_cons_of_blank (by decide), Text.trim_eq_self hpath]
      simpa using hcomplete
    simp only [Tag.name, Tag.renderArguments, Tag.arguments, List.flatMap_singleton, makeTag,
      if_neg hne, trim_renderArgument hpath]
  | before target text | param target text | raise target text =>
    have htext : Text.IsTrimmed text.toList := (harguments text (by simp [Tag.arguments])).1
    simp only [Tag.name, Tag.renderArguments, Tag.arguments, List.flatMap_cons, List.flatMap_nil,
      List.append_nil, List.cons_append, makeTag,
      namedTag_render hcomplete.1 hcomplete.2 htext]
  | inline | «open» | closed => rfl

theorem oneLine_codeStart :
  Text.OneLine codeStart
  := by decide

theorem oneLine_codeStop :
  Text.OneLine codeStop
  := by decide

end Comment

/-! ### Elements -/

namespace DocElement

/-- The text that an element is written as. -/
def render : DocElement → List Char
  | .paragraph text => text.toList
  | .codeBlock text => Comment.codeStart ++ '\n' :: text.toList ++ '\n' :: Comment.codeStop
  | .tag t => t.render

/-- The element can be written without loss. -/
def Normal : DocElement → Prop
  | .paragraph text =>
    text ≠ "" ∧ Text.IsTrimmed text.toList ∧ Text.OneLine text.toList ∧
      ¬ ['@'] <+: text.toList ∧ ¬ Comment.codeStart <+: text.toList
  | .codeBlock text =>
    '\r' ∉ text.toList ∧
      ∀ line ∈ Text.lines text.toList, ¬ Comment.codeStop <:+ Text.trim line
  | .tag t => t.Normal

instance (e : DocElement) : Decidable e.Normal :=
  match e with
  | .paragraph _ | .codeBlock _ => inferInstanceAs (Decidable (_ ∧ _))
  | .tag t => inferInstanceAs (Decidable t.Normal)

/-- The lines on which an element is written. -/
def lines : DocElement → List (List Char)
  | .paragraph text => [text.toList]
  | .codeBlock text =>
    Comment.codeStart :: (Text.splitOn '\n' text.toList ++ [Comment.codeStop])
  | .tag t => [t.render]

variable {e : DocElement}

/-- The lines of a normal element and of what follows it on the next line. -/
theorem lines_render_append (h : e.Normal) (back : List Char) :
  Text.lines (e.render ++ '\n' :: back) = e.lines ++ Text.lines back
  := by
  cases e with
  | paragraph text => apply Text.lines_append_of_oneLine h.2.2.1 back
  | codeBlock text =>
    simp only [render, List.append_assoc, List.cons_append]
    rw [Text.lines_append_of_oneLine Comment.oneLine_codeStart, Text.lines_append,
      Text.map_dropReturn_splitOn h.1, Text.lines_append_of_oneLine Comment.oneLine_codeStop, lines,
      List.cons_append, List.append_assoc, List.singleton_append]
  | tag t => apply Text.lines_append_of_oneLine (Tag.oneLine_render h) back

/-- The lines of a normal element. -/
theorem lines_render (h : e.Normal) :
  Text.lines e.render = e.lines
  := by
  cases e with
  | paragraph text =>
    have hne : text.toList ≠ [] := by simpa using h.1
    apply Text.lines_of_oneLine h.2.2.1 hne
  | codeBlock text =>
    simp only [render, List.append_assoc, List.cons_append]
    rw [Text.lines_append_of_oneLine Comment.oneLine_codeStart, Text.lines_append,
      Text.map_dropReturn_splitOn h.1,
      Text.lines_of_oneLine Comment.oneLine_codeStop (by decide), lines]
  | tag t => apply Text.lines_of_oneLine (Tag.oneLine_render h) (List.cons_ne_nil _ _)

/-- No line of the text of a normal code block closes it. -/
theorem not_codeStop_of_normal {text : String} (h : (codeBlock text).Normal) {line : List Char}
    (hline : line ∈ Text.splitOn '\n' text.toList) :
  ¬ Comment.codeStop <:+ Text.trim line
  := by
  by_cases hempty : line = []
  · rw [hempty]
    decide
  · have hreturn : '\r' ∉ line := fun hreturn => h.1 (Text.subset_of_mem_splitOn hline hreturn)
    apply h.2 line (Text.mem_linesOfPieces hline hempty hreturn)

end DocElement

/-! ### Comments -/

namespace Comment

/-- The text that elements are written as, with a blank line between them. -/
def renderElements (elements : List DocElement) : List Char :=
  ['\n', '\n'].intercalate (elements.map DocElement.render)

/-- The text that a comment is written as. -/
def render (comment : Comment) : String :=
  .ofList (renderElements comment.elements)

/-- The comment can be written without loss. -/
def Normal (comment : Comment) : Prop :=
  ∀ e ∈ comment.elements, e.Normal

instance (comment : Comment) : Decidable comment.Normal :=
  inferInstanceAs (Decidable (∀ e ∈ comment.elements, e.Normal))

/-- A normal element is separated by an empty line from the elements that follow it. -/
theorem lines_renderElements_cons {e : DocElement} (h : e.Normal) {others : List DocElement}
    (hne : others ≠ []) :
  Text.lines (renderElements (e :: others)) = e.lines ++ [] :: Text.lines (renderElements others)
  := by
  obtain ⟨next, others, rfl⟩ := List.exists_cons_of_ne_nil hne
  have hblank := Text.lines_append [] (renderElements (next :: others))
  rw [renderElements, List.map_cons, List.map_cons, List.intercalate_cons_cons, List.append_assoc]
  change Text.lines (e.render ++ '\n' :: ([] ++ '\n' :: renderElements (next :: others))) = _
  rw [DocElement.lines_render_append h, hblank]
  rfl

section

variable {front : List (List Char)} {elements : List DocElement}

/-- Lines that do not close a code block belong to it. -/
theorem Reads.code_append {start : Nat} {body : List (List Char)} {lines : List (List Char)}
    (h : Reads front elements (.code start body))
    (hlines : ∀ line ∈ lines, ¬ codeStop <:+ Text.trim line) :
  Reads (front ++ lines) elements (.code start (body ++ lines))
  := by
  induction lines using List.reverseRecOn with
  | nil => simpa using h
  | append_singleton lines line ih =>
    have hbefore := ih fun line hline => hlines line (List.mem_append_left _ hline)
    have hstep := hbefore.concat (.inside (hlines line List.mem_concat_self))
    simpa using hstep

/-- The lines of an element complete it, or they lead to the end of the paragraph that it is. -/
theorem Reads.lines_append (h : Reads front elements (.paragraph [])) {e : DocElement}
    (he : e.Normal) :
  ∃ completed words, Reads (front ++ e.lines) (elements ++ completed) (.paragraph words) ∧
    completed ++ paragraph words = [e]
  := by
  cases e with
  | paragraph text =>
    obtain ⟨hne, htrimmed, -, htag, hcode⟩ := he
    rw [← Text.trim_eq_self htrimmed] at htag hcode
    have hne : Text.trim text.toList ≠ [] := by
      rw [Text.trim_eq_self htrimmed]
      simpa using hne
    refine ⟨_, _, h.concat (.text hne hcode htag), ?_⟩
    simp [paragraph, Text.trim_eq_self htrimmed]
  | codeBlock text =>
    have hstart : Text.trim codeStart = codeStart ++ [] := by decide
    have hstop : Text.trim codeStop = [] ++ codeStop := by decide
    have hopen := h.concat (.opening hstart (by decide))
    have hinside := hopen.code_append fun _ => DocElement.not_codeStop_of_normal he
    have hclose := hinside.concat (.closing hstop)
    -- neither of the brackets has text beside it
    have hempty : codeLine (Text.trim []) = [] := rfl
    use [.codeBlock text], []
    constructor
    · simpa [DocElement.lines, paragraph, hempty, codeBlock, Text.intercalate_splitOn] using hclose
    · rfl
  | tag t =>
    have htag : ['@'] <+: Text.trim t.render := by
      rw [Tag.trim_render]
      apply List.prefix_append ['@'] _
    exact ⟨_, _, h.concat (.tag htag (parseTag_of_normal he)), rfl⟩

/-- The lines of rendered elements lead to these elements. -/
theorem Reads.render_append (h : Reads front elements (.paragraph [])) {others : List DocElement}
    (hothers : ∀ e ∈ others, e.Normal) :
  ∃ completed words,
    Reads (front ++ Text.lines (renderElements others)) completed (.paragraph words) ∧
    completed ++ paragraph words = elements ++ others
  := by
  induction others generalizing front elements with
  | nil =>
    use elements, []
    constructor
    · rwa [← List.append_nil front] at h
    · rfl
  | cons e others ih =>
    obtain ⟨he, hothers⟩ := List.forall_mem_cons.mp hothers
    obtain ⟨completed, words, hreads, hcompleted⟩ := h.lines_append he
    by_cases hne : others = []
    · subst hne
      use elements ++ completed, words
      constructor
      · rwa [renderElements, List.map_singleton, List.intercalate_singleton,
          DocElement.lines_render he]
      · rw [List.append_assoc, hcompleted]
    · have hempty : Text.trim [] = [] := rfl
      have hblank := hreads.concat (.blank hempty)
      rw [List.append_assoc elements, hcompleted] at hblank
      obtain ⟨completed', words', hreads', hcompleted'⟩ := ih hblank hothers
      use completed', words'
      constructor
      · rwa [lines_renderElements_cons he hne, List.append_cons, ← List.append_assoc,
          ← List.append_assoc]
      · rw [hcompleted', List.append_assoc, List.singleton_append]

end

/-- Parsing a normal comment that has been rendered gives it back. -/
theorem parse_render {comment : Comment} (h : comment.Normal) (loc : Location) :
  parse comment.render loc = .ok comment
  := by
  obtain ⟨completed, words, hreads, hcompleted⟩ := Reads.nil.render_append h
  have htext : comment.render.toList = renderElements comment.elements := String.toList_ofList
  rw [List.nil_append, ← htext] at hreads
  rw [hreads.parse loc]
  change Except.ok (Comment.mk (completed ++ paragraph words)) = _
  rw [hcompleted, List.nil_append]

/-- A comment with elements of every kind.  The code block begins and ends with an empty line, and
it has lines that look like a tag, like an opening and almost like a closing. -/
def renderSample : Comment :=
  ⟨[.paragraph "Sorts  a list.", .paragraph "See \x7b[sort]\x7d.",
    .codeBlock "\n@see b\n \x7b[ let x = []\n]\x7d ;;\n",
    .tag (.param "cmp" "an  order"), .tag (.raise "Not_found" ""), .tag (.canonical "A.b"),
    .tag .inline, .tag (.author ""), .codeBlock ""]⟩

/-- The rendering of `renderSample` is parsed as `renderSample`. -/
theorem parse_render_renderSample :
  renderSample.Normal ∧ parse renderSample.render .none = .ok renderSample
  := by
  have hnormal : renderSample.Normal := by decide +kernel
  constructor
  · apply hnormal
  · apply parse_render hnormal .none

end Comment

end InterfaceDocs
