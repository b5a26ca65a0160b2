import InterfaceDocs.Proofs.Comment.Content

/-!
# Joined comments

After a comment that can be parsed, a blank line leads the reading back to where it began, so what
follows is read as a comment of its own (`parse_joined`).  Only the numbers of the lines are not the
ones it has alone: `Place.shift` moves them, and reading moved lines is reading the lines
(`Reads.append`).
-/

namespace InterfaceDocs

namespace Text

/-- A carriage return at the end of a line is blank. -/
theorem trim_dropReturn (cs : List Char) :
  trim (dropReturn cs) = trim cs
  := by
  rw [dropReturn]
  split
  · rename_i h
    obtain ⟨front, rfl⟩ := List.getLast?_eq_some_iff.mp h
    have hreturn : ∀ c ∈ ['\r'], isBlank c = true := List.forall_mem_singleton.mpr rfl
    rw [List.dropLast_concat, trim_append_of_blank front hreturn]
  · rfl

/-- The pieces between line feeds are the lines, but for an empty piece at the end and a carriage
return at the end of the last one. -/
theorem exists_lines_eq (cs : List Char) :
  ∃ front last, (splitOn '\n' cs).map dropReturn = front ++ [dropReturn last] ∧
    lines cs = if last = [] then front else front ++ [last]
  := by
  obtain ⟨front, last, hpieces⟩ : ∃ front last, splitOn '\n' cs = front ++ [last] :=
    ⟨_, _, (List.dropLast_append_getLast (splitOn_ne_nil '\n' cs)).symm⟩
  use front.map dropReturn, last, by rw [hpieces, List.map_append, List.map_singleton]
  rw [lines, hpieces, linesOfPieces_append front (List.cons_ne_nil last []), linesOfPieces]
  split
  · rw [List.append_nil]
  · rfl

end Text

namespace Comment

variable {n : Nat} {line : List Char} {lines front back : List (List Char)}
  {elements others : List DocElement} {place place' : Place} {words : List (List Char)}

/-! ### Moved lines -/

/-- The place with the number of its line moved. -/
def Place.shift (k : Nat) : Place → Place
  | .paragraph words => .paragraph words
  | .code start body => .code (k + start) body

/-- A step does not depend on the number of its line. -/
theorem Step.shift (h : Step n line place elements place') (k : Nat) :
  Step (k + n) line (place.shift k) elements (place'.shift k)
  := by
  cases h with
  | blank h => exact .blank h
  | text hempty hcode htag => exact .text hempty hcode htag
  | tag htag hparse => exact .tag htag hparse
  | code h => exact .code h
  | opening h hstop => exact .opening h hstop
  | closing h => exact .closing h
  | inside h => exact .inside h

/-- Behind lines that lead back to where the reading began, lines are read as they are alone. -/
theorem Reads.append (h : Reads front elements (.paragraph [])) (hback : Reads back others place) :
  Reads (front ++ back) (elements ++ others) (place.shift front.length)
  := by
  induction hback with
  | nil =>
    rw [List.append_nil, List.append_nil]
    apply h
  | concat _ hstep ih =>
    rw [← List.append_assoc, ← List.append_assoc]
    apply ih.concat
    rw [List.length_append]
    apply hstep.shift front.length

/-- Behind lines that lead back to where the reading began, a bad tag is one as it is alone. -/
theorem Reads.append_fails {fault : DocFault} (h : Reads front elements (.paragraph []))
    (hback : Fails back n fault) :
  Fails (front ++ back) (front.length + n) fault
  := by
  obtain ⟨hreads, htag, hparse, rest⟩ := hback
  rw [← List.append_assoc, ← List.length_append]
  exact .mk (h.append hreads) htag hparse rest

/-! ### A blank line -/

/-- The last of the lines that were read was read by a step. -/
theorem Reads.exists_of_concat (h : Reads (lines ++ [line]) elements place') :
  ∃ before completed place, Reads lines before place ∧
    Step lines.length line place completed place' ∧ elements = before ++ completed
  := by
  generalize hall : lines ++ [line] = all at h
  cases h with
  | nil => exact absurd hall (List.append_ne_nil_of_right_ne_nil lines (List.cons_ne_nil line []))
  | concat hreads hstep =>
    obtain ⟨rfl, rfl⟩ := List.append_singleton_inj.mp hall
    exact ⟨_, _, _, hreads, hstep, rfl⟩

/-- A carriage return at the end of a line has no meaning, unless the line stays in a code block. -/
theorem Step.dropReturn (h : Step n line place elements (.paragraph words)) :
  Step n (Text.dropReturn line) place elements (.paragraph words)
  := by
  have htrim := Text.trim_dropReturn line
  cases h with
  | blank h => exact .blank (htrim.trans h)
  | text hempty hcode htag =>
    rw [← htrim] at hempty hcode htag ⊢
    exact .text hempty hcode htag
  | tag htag hparse =>
    rw [← htrim] at htag hparse
    exact .tag htag hparse
  | code h => exact .code (htrim.trans h)
  | closing h => exact .closing (htrim.trans h)

/-- A blank line ends a paragraph. -/
theorem Reads.concat_blank (h : Reads lines elements (.paragraph words)) :
  Reads (lines ++ [[]]) (elements ++ paragraph words) (.paragraph [])
  := h.concat (.blank rfl)

/-- A blank line ends a text that leads to the end of a paragraph. -/
theorem Reads.pieces_concat_blank {cs : List Char}
    (h : Reads (Text.lines cs) elements (.paragraph words)) :
  Reads ((Text.splitOn '\n' cs).map Text.dropReturn ++ [[]]) (elements ++ paragraph words)
    (.paragraph [])
  := by
  obtain ⟨front, last, hpieces, hlines⟩ := Text.exists_lines_eq cs
  rw [hlines] at h
  rw [hpieces]
  by_cases hlast : last = []
  · subst hlast
    have hempty : Text.dropReturn [] = [] := rfl
    have hblank := h.concat_blank.concat_blank
    rw [hempty]
    simpa [paragraph] using hblank
  · rw [if_neg hlast] at h
    obtain ⟨before, completed, place, hreads, hstep, rfl⟩ := h.exists_of_concat
    exact (hreads.concat hstep.dropReturn).concat_blank

/-! ### Two comments -/

/-- The lines of two texts with a blank line between them are those of the texts and the blank
one. -/
theorem lines_joined (t₁ t₂ : String) :
  Text.lines (t₁ ++ "\n\n" ++ t₂).toList
    = ((Text.splitOn '\n' t₁.toList).map Text.dropReturn ++ [[]]) ++ Text.lines t₂.toList
  := by
  have hbreak : "\n\n".toList = ['\n', '\n'] := rfl
  have hblank : Text.lines ('\n' :: t₂.toList) = [] :: Text.lines t₂.toList :=
    Text.lines_append [] t₂.toList
  rw [String.toList_append, String.toList_append, hbreak, List.append_assoc, List.cons_append,
    List.singleton_append, Text.lines_append, hblank, List.append_assoc, List.singleton_append]

/-- A comment with another one behind it and a blank line between them can be parsed if both can be
parsed, and then its elements are theirs. -/
theorem parse_joined {t₁ : String} {loc₁ : Location} {a : Comment} (h : parse t₁ loc₁ = .ok a)
    (t₂ : String) (loc₂ loc : Location) :
  (∃ b, parse t₂ loc₂ = .ok b ∧
    parse (t₁ ++ "\n\n" ++ t₂) loc = .ok ⟨a.elements ++ b.elements⟩) ∨
  ∃ e e', parse t₂ loc₂ = .error e ∧ parse (t₁ ++ "\n\n" ++ t₂) loc = .error e'
  := by
  obtain ⟨elements, words, hreads, helements⟩ := reads_of_parse h
  have hfront := hreads.pieces_concat_blank
  rw [← helements] at hfront
  rcases reads_or_fails (Text.lines t₂.toList) with ⟨others, place, hback⟩ | ⟨n, fault, hfails⟩
  · have hall := hfront.append hback
    rw [← lines_joined] at hall
    rw [hback.parse loc₂, hall.parse loc]
    cases place with
    | paragraph words =>
      left
      use ⟨others ++ paragraph words⟩, rfl
      rw [← List.append_assoc]
      rfl
    | code start body =>
      right
      exact ⟨_, _, rfl, rfl⟩
  · right
    have hall := hfront.append_fails hfails
    rw [← lines_joined] at hall
    exact ⟨_, _, hfails.parse loc₂, hall.parse loc⟩

end Comment

end InterfaceDocs
