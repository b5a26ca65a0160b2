import InterfaceDocs.Comment.Parser
import InterfaceDocs.Proofs.Text

/-!
# Steps of the reading of a comment

A comment is read line by line, and `Step` has one rule for each kind of line.  A line can be read
unless it is a bad tag outside of code blocks (`exists_step`).  `Reads` is what a list of lines
leads to from the beginning of a comment, so an invariant of `Step` holds wherever the reading
stands, and `Fails` is the first line that cannot be read.  Parsing ends where all of the lines lead
to (`Reads.parse`), or it fails at that line (`Fails.parse`).
-/

namespace InterfaceDocs.Comment

/-! ### Tags -/

/-- The name of the tag that a line spells. -/
def tagName (line : List Char) : List Char :=
  Text.firstWord (line.dropWhile (· = '@'))

/-- The argument of the tag that a line spells. -/
def tagArgument (line : List Char) : List Char :=
  Text.afterFirstWord (line.dropWhile (· = '@'))

/-- A line is parsed as a tag by its name and its argument. -/
theorem parseTag_eq (line : List Char) :
  parseTag line = makeTag (.ofList (tagName line)) (tagArgument line)
  := by
  rw [parseTag, tagName, tagArgument]
  cases h : Text.splitBlank? (line.dropWhile (· = '@')) with
  | none =>
    obtain ⟨hname, hargument⟩ := Text.splitBlank?_eq_none h
    rw [hname, hargument]
  | some parts =>
    obtain ⟨hname, hargument⟩ := Text.splitBlank?_eq_some h
    rw [hname, hargument]

/-- The argument of a tag with a name is split after its first word. -/
theorem namedTag_eq {argument : List Char} (h : argument ≠ []) (make : String → String → Tag)
    (tag : String) :
  namedTag make tag argument
    = .ok (make (.ofList (Text.firstWord argument)) (.ofList (Text.afterFirstWord argument)))
  := by
  rw [namedTag]
  cases hsplit : Text.splitBlank? argument with
  | none =>
    obtain ⟨htarget, htext⟩ := Text.splitBlank?_eq_none hsplit
    rw [htarget, htext]
    apply if_neg h
  | some parts =>
    obtain ⟨htarget, htext⟩ := Text.splitBlank?_eq_some hsplit
    rw [htarget, htext]

/-! ### Kinds of lines -/

namespace Line

variable {line body rest : List Char}

/-- A line with the brackets at both ends is a code block. -/
theorem ofTrimmed_code (h : Text.IsTrimmed (Comment.codeStart ++ body ++ codeStop)) :
  ofTrimmed (Comment.codeStart ++ body ++ codeStop) = .code (Text.trim body)
  := by
  rw [List.append_assoc] at h
  have hend : Text.trimEnd (body ++ codeStop) = body ++ codeStop :=
    Text.trimEnd_of_isTrimmed_append h
  unfold ofTrimmed
  rw [List.append_assoc, Text.stripFront?_eq_some.mpr rfl]
  simp only [hend, Text.stripBack?_eq_some.mpr rfl]

/-- A line with the opening brackets only begins a code block. -/
theorem ofTrimmed_codeStart (h : Text.IsTrimmed (Comment.codeStart ++ rest))
    (hstop : ¬ codeStop <:+ rest) :
  ofTrimmed (Comment.codeStart ++ rest) = .codeStart (Text.trim rest)
  := by
  unfold ofTrimmed
  rw [Text.stripFront?_eq_some.mpr rfl]
  simp only [Text.trimEnd_of_isTrimmed_append h, Text.stripBack?_eq_none.mpr hstop]

theorem ofTrimmed_tag (h : ['@'] <+: line) :
  ofTrimmed line = .tag line
  := by
  obtain ⟨rest, rfl⟩ := h
  rfl

/-- A line that is not empty and that has no mark at its beginning is text. -/
theorem ofTrimmed_text (hempty : line ≠ []) (hcode : ¬ Comment.codeStart <+: line)
    (htag : ¬ ['@'] <+: line) :
  ofTrimmed line = .text line
  := by
  unfold ofTrimmed
  rw [Text.stripFront?_eq_none.mpr hcode]
  dsimp only
  split
  · contradiction
  · exact absurd ⟨_, rfl⟩ htag
  · rfl

end Line

/-! ### One line -/

/-- What the `n`-th line does at a place, with one rule for each kind of line that can be read:
the elements that it completes, and the place after it. -/
inductive Step (n : Nat) (line : List Char) : Place → List DocElement → Place → Prop where
  | blank {words : List (List Char)} (h : Text.trim line = []) :
    Step n line (.paragraph words) (paragraph words) (.paragraph [])
  | text {words : List (List Char)} (hempty : Text.trim line ≠ [])
      (hcode : ¬ codeStart <+: Text.trim line) (htag : ¬ ['@'] <+: Text.trim line) :
    Step n line (.paragraph words) [] (.paragraph (words ++ [Text.trim line]))
  | tag {words : List (List Char)} {tag : Tag} (htag : ['@'] <+: Text.trim line)
      (hparse : parseTag (Text.trim line) = .ok tag) :
    Step n line (.paragraph words) (paragraph words ++ [.tag tag]) (.paragraph [])
  | code {words : List (List Char)} {body : List Char}
      (h : Text.trim line = codeStart ++ body ++ codeStop) :
    Step n line (.paragraph words) (paragraph words ++ [.codeBlock (.ofList (Text.trim body))])
      (.paragraph [])
  | opening {words : List (List Char)} {rest : List Char} (h : Text.trim line = codeStart ++ rest)
      (hstop : ¬ codeStop <:+ rest) :
    Step n line (.paragraph words) (paragraph words) (.code n (codeLine (Text.trim rest)))
  | closing {start : Nat} {body : List (List Char)} {last : List Char}
      (h : Text.trim line = last ++ codeStop) :
    Step n line (.code start body) [codeBlock (body ++ codeLine (Text.trim last))] (.paragraph [])
  | inside {start : Nat} {body : List (List Char)} (h : ¬ codeStop <:+ Text.trim line) :
    Step n line (.code start body) [] (.code start (body ++ [line]))

section

variable {n : Nat} {line : List Char} {place place' : Place} {elements : List DocElement}

/-- A step reads its line. -/
theorem readLine_of_step (h : Step n line place elements place') (loc : Location) :
  readLine loc n line place = .ok (elements, place')
  := by
  have htrimmed := Text.isTrimmed_trim line
  cases h with
  | blank h => rw [readLine, h, Line.ofTrimmed, Text.stripFront?_eq_none.mpr (by decide)]
  | text hempty hcode htag => rw [readLine, Line.ofTrimmed_text hempty hcode htag]
  | tag htag hparse => simp only [readLine, Line.ofTrimmed_tag htag, hparse]
  | code h =>
    rw [h] at htrimmed
    rw [readLine, h, Line.ofTrimmed_code htrimmed]
  | opening h hstop =>
    rw [h] at htrimmed
    rw [readLine, h, Line.ofTrimmed_codeStart htrimmed hstop]
  | @closing start body last h =>
    rw [h] at htrimmed
    have hlast : Text.trimEnd last = Text.trim last := by
      rw [Text.trim, Text.trimStart_of_isTrimmed_append htrimmed]
    simp only [readLine, h, Text.stripBack?_eq_some.mpr rfl, hlast, codeLine]
  | inside h => simp only [readLine, Text.stripBack?_eq_none.mpr h]

/-- A bad tag outside of code blocks fails at its line. -/
theorem readLine_of_fault {words : List (List Char)} {fault : DocFault}
    (htag : ['@'] <+: Text.trim line) (hparse : parseTag (Text.trim line) = .error fault)
    (loc : Location) :
  readLine loc n line (.paragraph words) = .error ⟨fault, loc.nthLine n⟩
  := by
  simp only [readLine, Line.ofTrimmed_tag htag, hparse]

/-- A line can be read at a place, unless it is a bad tag outside of code blocks. -/
theorem exists_step (n : Nat) (line : List Char) (place : Place) :
  (∃ elements place', Step n line place elements place') ∨
  ∃ words fault, place = .paragraph words ∧ ['@'] <+: Text.trim line ∧
    parseTag (Text.trim line) = .error fault
  := by
  cases place with
  | paragraph words =>
    by_cases hempty : Text.trim line = []
    · left
      exact ⟨_, _, .blank hempty⟩
    by_cases hcode : codeStart <+: Text.trim line
    · left
      obtain ⟨rest, hrest⟩ := hcode
      by_cases hstop : codeStop <:+ rest
      · obtain ⟨body, rfl⟩ := hstop
        rw [← List.append_assoc] at hrest
        exact ⟨_, _, .code hrest.symm⟩
      · exact ⟨_, _, .opening hrest.symm hstop⟩
    by_cases htag : ['@'] <+: Text.trim line
    · cases hparse : parseTag (Text.trim line) with
      | ok tag =>
        left
        exact ⟨_, _, .tag htag hparse⟩
      | error fault =>
        right
        exact ⟨words, fault, rfl, htag, rfl⟩
    · left
      exact ⟨_, _, .text hempty hcode htag⟩
  | code start body =>
    left
    by_cases hstop : codeStop <:+ Text.trim line
    · obtain ⟨last, hlast⟩ := hstop
      exact ⟨_, _, .closing hlast.symm⟩
    · exact ⟨_, _, .inside hstop⟩

end

/-! ### All lines -/

/-- Reading the lines from the beginning of a comment completes the elements and leads to the
place. -/
inductive Reads : List (List Char) → List DocElement → Place → Prop where
  | nil : Reads [] [] (.paragraph [])
  | concat {lines : List (List Char)} {elements : List DocElement} {place : Place}
      {line : List Char} {completed : List DocElement} {place' : Place}
      (h : Reads lines elements place) (hstep : Step lines.length line place completed place') :
    Reads (lines ++ [line]) (elements ++ completed) place'

section

variable {lines : List (List Char)} {elements : List DocElement} {place : Place} {text : String}

/-- Lines are read one after the other. -/
theorem readLines_cons (loc : Location) (n : Nat) (place : Place) (line : List Char)
    (lines : List (List Char)) :
  readLines loc n place (line :: lines)
    = (readLine loc n line place).bind fun result =>
      (readLines loc (n + 1) result.2 lines).map (result.1 ++ ·)
  := by
  rw [readLines]
  cases readLine loc n line place with
  | error e => rfl
  | ok result =>
    simp only [Except.bind]
    cases readLines loc (n + 1) result.2 lines with
    | error e => rfl
    | ok rest => rfl

/-- Behind lines that have been read, the reading goes on from where they lead to. -/
theorem Reads.readLines_append (h : Reads lines elements place) (loc : Location)
    (rest : List (List Char)) :
  readLines loc 0 (.paragraph []) (lines ++ rest)
    = (readLines loc lines.length place rest).map (elements ++ ·)
  := by
  induction h generalizing rest with
  | nil =>
    change readLines loc 0 (.paragraph []) rest = Except.map id _
    cases readLines loc 0 (.paragraph []) rest with
    | error e => rfl
    | ok others => rfl
  | @concat lines elements place line completed place' _ hstep ih =>
    rw [List.append_assoc, List.singleton_append, ih, readLines_cons, readLine_of_step hstep loc,
      List.length_append, List.length_singleton]
    cases hrest : readLines loc (lines.length + 1) place' rest with
    | error e => simp [Except.bind, Except.map, hrest]
    | ok others => simp [Except.bind, Except.map, hrest]

/-- Reading the lines fails at the `n`-th one: the lines before it can be read and lead to a place
outside of code blocks, where it is a bad tag. -/
inductive Fails : List (List Char) → Nat → DocFault → Prop where
  | mk {front : List (List Char)} {elements : List DocElement} {words : List (List Char)}
      {line : List Char} {fault : DocFault} (hfront : Reads front elements (.paragraph words))
      (htag : ['@'] <+: Text.trim line) (hparse : parseTag (Text.trim line) = .error fault)
      (back : List (List Char)) :
    Fails (front ++ line :: back) front.length fault

/-- Lines are read, or one of them is a bad tag. -/
theorem reads_or_fails (lines : List (List Char)) :
  (∃ elements place, Reads lines elements place) ∨ ∃ n fault, Fails lines n fault
  := by
  induction lines using List.reverseRecOn with
  | nil =>
    left
    exact ⟨[], _, .nil⟩
  | append_singleton lines line ih =>
    rcases ih with ⟨elements, place, hreads⟩ | ⟨n, fault, hfails⟩
    · rcases exists_step lines.length line place with
        ⟨completed, place', hstep⟩ | ⟨words, fault, rfl, htag, hparse⟩
      · left
        exact ⟨_, _, hreads.concat hstep⟩
      · right
        exact ⟨_, _, .mk hreads htag hparse []⟩
    · right
      obtain ⟨hfront, htag, hparse, back⟩ := hfails
      rw [List.append_assoc, List.cons_append]
      exact ⟨_, _, .mk hfront htag hparse (back ++ [line])⟩

/-- What has been begun when all lines are read is finished. -/
theorem Reads.parse (h : Reads (Text.lines text.toList) elements place) (loc : Location) :
  parse text loc = (finish loc place).map fun rest => ⟨elements ++ rest⟩
  := by
  have hlines := h.readLines_append loc []
  rw [List.append_nil] at hlines
  rw [Comment.parse, hlines, readLines]
  cases finish loc place <;> rfl

/-- A bad tag makes parsing fail at its line. -/
theorem Fails.parse {n : Nat} {fault : DocFault} (h : Fails (Text.lines text.toList) n fault)
    (loc : Location) :
  parse text loc = .error ⟨fault, loc.nthLine n⟩
  := by
  generalize hlines : Text.lines text.toList = lines at h
  obtain ⟨hfront, htag, hparse, back⟩ := h
  rw [Comment.parse, hlines, hfront.readLines_append, readLines_cons,
    readLine_of_fault htag hparse]
  rfl

end

end InterfaceDocs.Comment
