import InterfaceDocs.Proofs.Comment.Code

/-!
# Faults of comments

A comment cannot be parsed in two cases only: a line outside of code blocks is a bad tag, or the
comment ends inside of a code block.  `TagFault` says which tags are bad, and `FaultAt` where they
stand.  Parsing fails at the first of them, else at the line that opened the last code block
(`parse_eq_error`).
-/

namespace InterfaceDocs.Comment

/-! ### Bad tags -/

/-- The names of the tags. -/
def knownTags : List String :=
  ["author", "before", "param", "raise", "raises", "return", "returns", "version", "canonical",
    "deprecated", "see", "since", "inline", "open", "closed"]

/-- What is wrong with a tag of the given name and argument. -/
inductive TagFault (name : String) (argument : List Char) : DocFault → Prop where
  | unknown (h : name ∉ knownTags) :
    TagFault name argument (.unknownTag name)
  | path (hname : name = "canonical") (h : argument = []) :
    TagFault name argument .missingPath
  | target (hname : name ∈ ["before", "param", "raise", "raises"]) (h : argument = []) :
    TagFault name argument (.missingName name)

section

variable {name : String} {argument : List Char} {fault : DocFault}

/-- A tag with a name fails exactly when the name is missing. -/
theorem namedTag_eq_error {make : String → String → Tag} :
  namedTag make name argument = .error fault ↔ argument = [] ∧ fault = .missingName name
  := by
  by_cases h : argument = []
  · subst h
    simp [namedTag, Text.splitBlank?, eq_comm]
  · simp [namedTag_eq h, h]

/-- Tags of other names are unknown. -/
theorem makeTag_of_notMem (h : name ∉ knownTags) (argument : List Char) :
  makeTag name argument = .error (.unknownTag name)
  := by
  rw [makeTag]
  -- what remains is that the name is not the one of any other branch
  all_goals
    rintro rfl
    apply h (by decide)

theorem TagFault.makeTag_eq (h : TagFault name argument fault) :
  makeTag name argument = .error fault
  := by
  cases h with
  | unknown h => apply makeTag_of_notMem h argument
  | path hname h =>
    subst hname h
    rfl
  | target hname h =>
    subst h
    simp only [List.mem_cons, List.not_mem_nil, or_false] at hname
    rcases hname with rfl | rfl | rfl | rfl
    all_goals rfl

/-- A tag cannot be made exactly when something is wrong with it. -/
theorem makeTag_eq_error :
  makeTag name argument = .error fault ↔ TagFault name argument fault
  := by
  constructor
  · intro h
    by_cases hname : name ∈ knownTags
    · simp only [knownTags, List.mem_cons, List.not_mem_nil, or_false] at hname
      rcases hname with rfl | rfl | rfl | rfl | rfl | rfl | rfl | rfl | rfl | rfl | rfl | rfl |
        rfl | rfl | rfl
      all_goals simp only [makeTag, namedTag_eq_error, reduceCtorEq] at h
      -- what remains are the four tags with a target, and the one with a path
      iterate 4
        · obtain ⟨hargument, rfl⟩ := h
          exact .target (by decide) hargument
      · split at h
        · rename_i hargument
          cases h
          exact .path rfl hargument
        · cases h
    · rw [makeTag_of_notMem hname] at h
      cases h
      exact .unknown hname
  · apply TagFault.makeTag_eq

end

/-! ### The first fault -/

/-- The `n`-th of the lines is a bad tag outside of code blocks. -/
def FaultAt (lines : List (List Char)) (n : Nat) (fault : DocFault) : Prop :=
  ∃ line, TagAt lines n line ∧
    TagFault (.ofList (tagName (Text.trim line))) (tagArgument (Text.trim line)) fault

/-- The `n`-th of the lines is a bad tag outside of code blocks, and it is the first one. -/
structure FirstFault (lines : List (List Char)) (n : Nat) (fault : DocFault) : Prop where
  here : FaultAt lines n fault
  first : ∀ m < n, ∀ other, ¬ FaultAt lines m other

section

variable {lines : List (List Char)} {n : Nat} {fault : DocFault} {line : List Char}

/-- A line is bad exactly when it is a tag that cannot be parsed. -/
theorem faultAt_iff :
  FaultAt lines n fault ↔ ∃ line, TagAt lines n line ∧ parseTag (Text.trim line) = .error fault
  := by
  simp only [FaultAt, parseTag_eq, makeTag_eq_error]

/-- At most one thing is wrong with a line. -/
theorem FaultAt.unique {other : DocFault} (h : FaultAt lines n fault)
    (h' : FaultAt lines n other) :
  fault = other
  := by
  obtain ⟨line, hline, hfault⟩ := faultAt_iff.mp h
  obtain ⟨line', hline', hother⟩ := faultAt_iff.mp h'
  obtain rfl : line = line' := Option.some_inj.mp (hline.get.symm.trans hline'.get)
  apply Except.error.inj (hfault.symm.trans hother)

/-- There is at most one first fault. -/
theorem FirstFault.unique {m : Nat} {other : DocFault} (h : FirstFault lines n fault)
    (h' : FirstFault lines m other) :
  n = m ∧ fault = other
  := by
  obtain rfl : n = m := by
    rcases Nat.lt_trichotomy n m with hlt | heq | hlt
    · exact absurd h.here (h'.first n hlt fault)
    · apply heq
    · exact absurd h'.here (h.first m hlt other)
  use rfl, h.here.unique h'.here

/-- A tag that is read outside of code blocks is a good one. -/
theorem Step.exists_tag {place place' : Place} {elements : List DocElement}
    (h : Step n line place elements place') (houtside : place.start? = none)
    (htag : ['@'] <+: Text.trim line) :
  ∃ tag, parseTag (Text.trim line) = .ok tag
  := by
  have hcode := not_codeStart_of_tag htag
  cases h with
  | blank h =>
    rw [h] at htag
    exact absurd htag (by decide)
  | text _ _ hother => exact absurd htag hother
  | tag _ hparse => exact ⟨_, hparse⟩
  | code h =>
    rw [h, List.append_assoc] at hcode
    exact absurd (List.prefix_append _ _) hcode
  | opening h =>
    rw [h] at hcode
    exact absurd (List.prefix_append _ _) hcode
  | closing => cases houtside
  | inside => cases houtside

/-- Lines that can be read have no bad tag. -/
theorem Reads.not_faultAt {elements : List DocElement} {place : Place}
    (h : Reads lines elements place) (n : Nat) (fault : DocFault) :
  ¬ FaultAt lines n fault
  := by
  induction h with
  | nil =>
    rintro ⟨line, hline, -⟩
    cases hline.get
  | concat hreads hstep ih =>
    intro hfault
    obtain ⟨line, hline, hparse⟩ := faultAt_iff.mp hfault
    rcases tagAt_concat.mp hline with hbefore | ⟨-, rfl, houtside, htag⟩
    · apply ih (faultAt_iff.mpr ⟨line, hbefore, hparse⟩)
    · rw [← hreads.start?_eq] at houtside
      obtain ⟨tag, hok⟩ := hstep.exists_tag houtside htag
      rw [hok] at hparse
      cases hparse

/-- The first line that cannot be read is the first bad tag. -/
theorem Fails.firstFault (h : Fails lines n fault) :
  FirstFault lines n fault
  := by
  obtain ⟨hfront, htag, hparse, back⟩ := h
  constructor
  · apply faultAt_iff.mpr
    exact ⟨_, tagAt_append_length.mpr ⟨rfl, hfront.start?_eq.symm, htag⟩, hparse⟩
  · rintro m hm other ⟨line, hline, hfault⟩
    apply hfront.not_faultAt m other ⟨line, (tagAt_append_left hm).mp hline, hfault⟩

/-- If there is a fault, there is a first one. -/
theorem FaultAt.exists_firstFault (h : FaultAt lines n fault) :
  ∃ m other, FirstFault lines m other
  := by
  rcases reads_or_fails lines with ⟨elements, place, hreads⟩ | ⟨m, other, hfails⟩
  · exact absurd h (hreads.not_faultAt n fault)
  · exact ⟨m, other, hfails.firstFault⟩

/-- Lines without bad tags can be read. -/
theorem exists_reads (h : ∀ n fault, ¬ FaultAt lines n fault) :
  ∃ elements place, Reads lines elements place
  := by
  rcases reads_or_fails lines with hreads | ⟨n, fault, hfails⟩
  · apply hreads
  · exact absurd hfails.firstFault.here (h n fault)

end

/-! ### Parsing -/

section

variable {text : String}

/-- Parsing fails at the first bad tag. -/
theorem FirstFault.parse {n : Nat} {fault : DocFault}
    (h : FirstFault (Text.lines text.toList) n fault) (loc : Location) :
  parse text loc = .error ⟨fault, loc.nthLine n⟩
  := by
  rcases reads_or_fails (Text.lines text.toList) with ⟨elements, place, hreads⟩ | ⟨m, other, hfails⟩
  · exact absurd h.here (hreads.not_faultAt n fault)
  · obtain ⟨rfl, rfl⟩ := h.unique hfails.firstFault
    apply hfails.parse loc

/-- Without bad tags, parsing fails at the line that opened the code block in which the text
ends. -/
theorem parse_of_openCode_eq_some {start : Nat}
    (h : ∀ n fault, ¬ FaultAt (Text.lines text.toList) n fault)
    (hopen : openCode (Text.lines text.toList) = some start) (loc : Location) :
  parse text loc = .error ⟨.unterminatedCode, loc.nthLine start⟩
  := by
  obtain ⟨elements, place, hreads⟩ := exists_reads h
  rw [← hreads.start?_eq] at hopen
  cases place with
  | paragraph words => cases hopen
  | code start body =>
    cases hopen
    apply hreads.parse loc

/-- Without bad tags and an open code block, parsing gives a comment. -/
theorem parse_of_openCode_eq_none (h : ∀ n fault, ¬ FaultAt (Text.lines text.toList) n fault)
    (hopen : openCode (Text.lines text.toList) = none) (loc : Location) :
  ∃ comment, parse text loc = .ok comment
  := by
  obtain ⟨elements, place, hreads⟩ := exists_reads h
  rw [← hreads.start?_eq] at hopen
  cases place with
  | paragraph words => exact ⟨_, hreads.parse loc⟩
  | code start body => cases hopen

end

/-- Parsing fails exactly at the first bad tag outside of code blocks, or else at the line that
opened the code block in which the comment ends. -/
theorem parse_eq_error (text : String) (loc : Location) (e : DocError) :
  parse text loc = .error e ↔
    (∃ n fault, FirstFault (Text.lines text.toList) n fault ∧ e = ⟨fault, loc.nthLine n⟩) ∨
    ((∀ n fault, ¬ FaultAt (Text.lines text.toList) n fault) ∧
      ∃ start, openCode (Text.lines text.toList) = some start ∧
        e = ⟨.unterminatedCode, loc.nthLine start⟩ ∧ e.message = "unterminated code block")
  := by
  constructor
  · intro h
    by_cases hgood : ∀ n fault, ¬ FaultAt (Text.lines text.toList) n fault
    · right
      cases hopen : openCode (Text.lines text.toList) with
      | none =>
        obtain ⟨comment, hok⟩ := parse_of_openCode_eq_none hgood hopen loc
        rw [hok] at h
        cases h
      | some start =>
        rw [parse_of_openCode_eq_some hgood hopen loc] at h
        cases h
        use hgood, start, rfl, rfl
        rfl
    · left
      simp only [not_forall, not_not] at hgood
      obtain ⟨m, other, hfault⟩ := hgood
      obtain ⟨n, fault, hfirst⟩ := hfault.exists_firstFault
      rw [hfirst.parse loc] at h
      cases h
      exact ⟨n, fault, hfirst, rfl⟩
  · rintro (⟨n, fault, hfirst, rfl⟩ | ⟨hgood, start, hopen, rfl, -⟩)
    · apply hfirst.parse loc
    · apply parse_of_openCode_eq_some hgood hopen loc

end InterfaceDocs.Comment
