import InterfaceDocs.Proofs.Comment.Reading

/-!
# Lines of code blocks

Which lines of a comment are inside of a code block, told from the brackets of the lines alone:
`openCode` is the line that opened the code block in which a list of lines ends.  The reading of a
comment stands in a code block exactly when the lines read so far end in one (`Reads.start?_eq`),
so a line that looks like a tag is read as one exactly when it is outside of code blocks (`TagAt`).
-/

namespace InterfaceDocs.Comment

variable {n : Nat} {line : List Char} {lines front back : List (List Char)}

/-! ### Opening and closing -/

/-- Outside of code blocks, the line opens one and does not close it. -/
def OpensCode (line : List Char) : Prop :=
  codeStart <+: Text.trim line ∧ ¬ codeStop <:+ (Text.trim line).drop codeStart.length

/-- Inside of a code block, the line closes it. -/
def ClosesCode (line : List Char) : Prop :=
  codeStop <:+ Text.trim line

instance (line : List Char) : Decidable (OpensCode line) :=
  inferInstanceAs (Decidable (_ ∧ _))

instance (line : List Char) : Decidable (ClosesCode line) :=
  inferInstanceAs (Decidable (_ <:+ _))

/-- The line that opened the code block around what follows the `n`-th line, from the line that
opened the code block around the `n`-th line itself. -/
def codeAfter (n : Nat) (line : List Char) : Option Nat → Option Nat
  | none => if OpensCode line then some n else none
  | some start => if ClosesCode line then none else some start

/-- The line that opened the code block in which the lines end, if they end in one. -/
def openCode (lines : List (List Char)) : Option Nat :=
  lines.zipIdx.foldl (fun opened (line, n) => codeAfter n line opened) none

/-- One more line opens a code block, closes one or leaves things as they are. -/
theorem openCode_concat (lines : List (List Char)) (line : List Char) :
  openCode (lines ++ [line]) = codeAfter lines.length line (openCode lines)
  := by
  simp [openCode, List.zipIdx_append]

/-- A line that begins with the opening brackets opens a code block unless it ends with the closing
ones. -/
theorem opensCode_iff {rest : List Char} (h : Text.trim line = codeStart ++ rest) :
  OpensCode line ↔ ¬ codeStop <:+ rest
  := by
  rw [OpensCode, h, List.drop_left]
  apply and_iff_right (List.prefix_append codeStart rest)

/-- A line that does not begin with the opening brackets opens no code block. -/
theorem not_opensCode (h : ¬ codeStart <+: Text.trim line) :
  ¬ OpensCode line
  := fun hopens => h hopens.1

/-- A line that looks like a tag does not begin with the opening brackets. -/
theorem not_codeStart_of_tag (h : ['@'] <+: Text.trim line) :
  ¬ codeStart <+: Text.trim line
  := by
  intro hcode
  obtain ⟨rest, hrest⟩ := h
  rw [← hrest] at hcode
  exact absurd (List.cons_prefix_cons.mp hcode).1 (by decide)

/-! ### The place of the reading -/

/-- The line that opened the code block in which the reading stands, if it stands in one. -/
def Place.start? : Place → Option Nat
  | .paragraph _ => none
  | .code start _ => some start

/-- One step leads into a code block and out of it as the line says. -/
theorem Step.start?_eq {place place' : Place} {elements : List DocElement}
    (h : Step n line place elements place') :
  place'.start? = codeAfter n line place.start?
  := by
  cases h with
  | blank h =>
    have hcode : ¬ codeStart <+: Text.trim line := by
      rw [h]
      decide
    exact (if_neg (not_opensCode hcode)).symm
  | text _ hcode _ => exact (if_neg (not_opensCode hcode)).symm
  | tag htag _ => exact (if_neg (not_opensCode (not_codeStart_of_tag htag))).symm
  | @code words body h =>
    rw [List.append_assoc] at h
    have hcloses : ¬ OpensCode line := by
      rw [opensCode_iff h, not_not]
      apply List.suffix_append body codeStop
    exact (if_neg hcloses).symm
  | opening h hstop => exact (if_pos ((opensCode_iff h).mpr hstop)).symm
  | @closing start body last h =>
    have hcloses : ClosesCode line := by
      rw [ClosesCode, h]
      apply List.suffix_append last codeStop
    exact (if_pos hcloses).symm
  | inside h => exact (if_neg h).symm

/-- The reading stands in a code block exactly when the lines that have been read end in one. -/
theorem Reads.start?_eq {elements : List DocElement} {place : Place}
    (h : Reads lines elements place) :
  place.start? = openCode lines
  := by
  induction h with
  | nil => rfl
  | concat _ hstep ih => rw [hstep.start?_eq, ih, openCode_concat]

/-! ### Tags -/

/-- The `n`-th of the lines is outside of code blocks and looks like a tag. -/
structure TagAt (lines : List (List Char)) (n : Nat) (line : List Char) : Prop where
  get : lines[n]? = some line
  outside : openCode (lines.take n) = none
  tag : ['@'] <+: Text.trim line

instance (lines : List (List Char)) (n : Nat) (line : List Char) : Decidable (TagAt lines n line) :=
  decidable_of_iff
    (lines[n]? = some line ∧ openCode (lines.take n) = none ∧ ['@'] <+: Text.trim line)
    ⟨fun ⟨get, outside, tag⟩ => ⟨get, outside, tag⟩,
      fun ⟨get, outside, tag⟩ => ⟨get, outside, tag⟩⟩

/-- No line outside of code blocks looks like a tag. -/
def NoTags (lines : List (List Char)) : Prop :=
  ∀ n line, ¬ TagAt lines n line

theorem noTags_iff :
  NoTags lines ↔ ∀ p ∈ lines.zipIdx, ¬ TagAt lines p.2 p.1
  := by
  constructor
  · intro h p _
    apply h p.2 p.1
  · intro h n line htag
    exact h (line, n) (List.mk_mem_zipIdx_iff_getElem?.mpr htag.get) htag

instance (lines : List (List Char)) : Decidable (NoTags lines) :=
  decidable_of_iff _ noTags_iff.symm

/-- The lines behind do not change which of the lines in front are tags. -/
theorem tagAt_append_left (h : n < front.length) :
  TagAt (front ++ back) n line ↔ TagAt front n line
  := by
  have hget : (front ++ back)[n]? = front[n]? := List.getElem?_append_left h
  have htake : (front ++ back).take n = front.take n := List.take_append_of_le_length h.le
  constructor
  · rintro ⟨get, outside, tag⟩
    rw [hget] at get
    rw [htake] at outside
    exact ⟨get, outside, tag⟩
  · rintro ⟨get, outside, tag⟩
    rw [← hget] at get
    rw [← htake] at outside
    exact ⟨get, outside, tag⟩

/-- The line behind the lines in front is a tag if it looks like one and they do not end in a code
block. -/
theorem tagAt_append_length {other : List Char} :
  TagAt (front ++ line :: back) front.length other
    ↔ other = line ∧ openCode front = none ∧ ['@'] <+: Text.trim line
  := by
  constructor
  · rintro ⟨get, outside, tag⟩
    rw [List.getElem?_append_right le_rfl, Nat.sub_self, List.getElem?_cons_zero,
      Option.some_inj] at get
    rw [List.take_left] at outside
    subst get
    exact ⟨rfl, outside, tag⟩
  · rintro ⟨rfl, outside, tag⟩
    constructor
    · rw [List.getElem?_append_right le_rfl, Nat.sub_self, List.getElem?_cons_zero]
    · rwa [List.take_left]
    · apply tag

/-- A tag among the lines up to a last one is a tag among the lines before it, or it is the last
line. -/
theorem tagAt_concat {last : List Char} :
  TagAt (lines ++ [last]) n line
    ↔ TagAt lines n line ∨
      (n = lines.length ∧ line = last ∧ openCode lines = none ∧ ['@'] <+: Text.trim last)
  := by
  constructor
  · intro h
    obtain ⟨hlt, -⟩ := List.getElem?_eq_some_iff.mp h.get
    rw [List.length_append, List.length_singleton, Nat.lt_succ_iff_lt_or_eq] at hlt
    rcases hlt with hlt | rfl
    · left
      exact (tagAt_append_left hlt).mp h
    · right
      constructor
      · rfl
      · apply tagAt_append_length.mp h
  · rintro (h | ⟨rfl, h⟩)
    · obtain ⟨hlt, -⟩ := List.getElem?_eq_some_iff.mp h.get
      exact (tagAt_append_left hlt).mpr h
    · apply tagAt_append_length.mpr h

end InterfaceDocs.Comment
