import InterfaceDocs.Text.Split
import Mathlib.Data.List.DropRight
import Mathlib.Tactic.Use

/-!
# Trimmed texts, pieces and lines

What the operations on texts give, for the proofs about what is read from a text: trimming keeps
every character that is not blank and does nothing to a trimmed text, the pieces of a text joined
by the separator are the text, and the lines before and behind a line feed are cut independently
of each other (`lines_append`).
-/

namespace InterfaceDocs.Text

variable {cs front back rest : List Char}

/-! ### Trimming -/

/-- The text neither begins nor ends with a blank character. -/
def IsTrimmed (cs : List Char) : Prop :=
  (∀ c ∈ cs.head?, isBlank c = false) ∧ (∀ c ∈ cs.getLast?, isBlank c = false)

instance (cs : List Char) : Decidable (IsTrimmed cs) :=
  decidable_of_iff
    ((cs.head?.all fun c => !isBlank c) ∧ cs.getLast?.all fun c => !isBlank c)
    (by simp [IsTrimmed, Option.all_eq_true])

theorem trimStart_eq_self (h : ∀ c ∈ cs.head?, isBlank c = false) :
  trimStart cs = cs
  := by
  cases cs with
  | nil => rfl
  | cons c cs =>
    apply List.dropWhile_cons_of_neg
    rw [h c rfl]
    apply Bool.false_ne_true

theorem trimEnd_eq_self (h : ∀ c ∈ cs.getLast?, isBlank c = false) :
  trimEnd cs = cs
  := by
  apply List.rdropWhile_eq_self_iff.mpr
  intro hne
  rw [h _ (List.getLast_mem_getLast? hne)]
  apply Bool.false_ne_true

/-- A trimmed text is left as it is. -/
theorem trim_eq_self (h : IsTrimmed cs) :
  trim cs = cs
  := by
  rw [trim, trimStart_eq_self h.1, trimEnd_eq_self h.2]

/-- Trimming gives a trimmed text. -/
theorem isTrimmed_trim (cs : List Char) :
  IsTrimmed (trim cs)
  := by
  constructor
  · intro c hc
    obtain ⟨suffix, hsuffix⟩ : trim cs <+: trimStart cs :=
      List.rdropWhile_prefix isBlank (trimStart cs)
    have hhead : c ∈ (trimStart cs).head? := by
      rw [← hsuffix]
      apply List.mem_head?_append_of_mem_head? hc
    have h := List.head?_dropWhile_not isBlank cs
    rw [trimStart, Option.mem_def] at hhead
    rwa [hhead] at h
  · intro c hc
    obtain ⟨hne, rfl⟩ := List.mem_getLast?_eq_getLast hc
    apply Bool.eq_false_iff.mpr (List.rdropWhile_last_not isBlank (trimStart cs) hne)

/-- A text that is trimmed at its end is so from any place on. -/
theorem trimEnd_of_isTrimmed_append (h : IsTrimmed (front ++ back)) :
  trimEnd back = back
  := by
  apply trimEnd_eq_self
  intro c hc
  apply h.2 c (List.mem_getLast?_append_of_mem_getLast? hc)

/-- A text that is trimmed at its beginning is so up to any place. -/
theorem trimStart_of_isTrimmed_append (h : IsTrimmed (front ++ back)) :
  trimStart front = front
  := by
  apply trimStart_eq_self
  intro c hc
  apply h.1 c (List.mem_head?_append_of_mem_head? hc)

/-- The end of a text is trimmed first, and what is before it only if nothing is left. -/
theorem trimEnd_append (cs back : List Char) :
  trimEnd (cs ++ back) = if trimEnd back = [] then trimEnd cs else cs ++ trimEnd back
  := by
  simp only [trimEnd, List.reverse_append, List.dropWhile_append, List.isEmpty_iff,
    List.reverse_eq_nil_iff]
  split
  · rfl
  · simp

/-- Nothing is left of a blank text. -/
theorem trimEnd_eq_nil (h : ∀ c ∈ cs, isBlank c) :
  trimEnd cs = []
  := List.rdropWhile_eq_nil_iff.mpr h

/-- Blank characters at the end of a text are trimmed away. -/
theorem trim_append_of_blank (cs : List Char) (h : ∀ c ∈ back, isBlank c) :
  trim (cs ++ back) = trim cs
  := by
  rw [trim, trimStart, List.dropWhile_append]
  split
  · rename_i hempty
    rw [trim, trimStart, List.isEmpty_iff.mp hempty, List.dropWhile_eq_nil_iff.mpr h]
  · rw [trimEnd_append, if_pos (trimEnd_eq_nil h)]
    rfl

theorem trim_trimEnd (cs : List Char) :
  trim (trimEnd cs) = trim cs
  := by
  have hsplit : trimEnd cs ++ cs.rtakeWhile isBlank = cs := List.rdropWhile_append_rtakeWhile
  have hblank : ∀ c ∈ cs.rtakeWhile isBlank, isBlank c := fun _ => List.mem_rtakeWhile_imp
  rw [← trim_append_of_blank (trimEnd cs) hblank, hsplit]

/-! ### Characters that are not blank -/

/-- The characters of a text that are not blank. -/
def nonblank (cs : List Char) : List Char :=
  cs.filter fun c => !isBlank c

theorem nonblank_append (cs back : List Char) :
  nonblank (cs ++ back) = nonblank cs ++ nonblank back
  := List.filter_append cs back

theorem nonblank_trimStart (cs : List Char) :
  nonblank (trimStart cs) = nonblank cs
  := by
  induction cs with
  | nil => rfl
  | cons c cs ih =>
    cases hc : isBlank c with
    | true => simpa [trimStart, nonblank, hc] using ih
    | false => rw [trimStart, List.dropWhile_cons_of_neg (by simp [hc])]

theorem nonblank_reverse (cs : List Char) :
  nonblank cs.reverse = (nonblank cs).reverse
  := List.filter_reverse

theorem nonblank_trimEnd (cs : List Char) :
  nonblank (trimEnd cs) = nonblank cs
  := by
  have h := nonblank_trimStart cs.reverse
  rw [trimStart] at h
  rw [trimEnd, nonblank_reverse, h, nonblank_reverse, List.reverse_reverse]

/-- Trimming leaves the characters that are not blank. -/
theorem nonblank_trim (cs : List Char) :
  nonblank (trim cs) = nonblank cs
  := by
  rw [trim, nonblank_trimEnd, nonblank_trimStart]

/-- A blank separator adds no characters that are not blank. -/
theorem nonblank_intercalate {separator : Char} (h : isBlank separator)
    (pieces : List (List Char)) :
  nonblank ([separator].intercalate pieces) = pieces.flatMap nonblank
  := by
  induction pieces with
  | nil => rfl
  | cons piece pieces ih =>
    cases pieces with
    | nil => simp
    | cons next pieces =>
      rw [List.intercalate_cons_cons, nonblank_append, nonblank_append, ih, List.flatMap_cons]
      simp [nonblank, h]

/-- All characters of a text without blanks are left. -/
theorem nonblank_eq_self (h : ∀ c ∈ cs, isBlank c = false) :
  nonblank cs = cs
  := by
  apply List.filter_eq_self.mpr
  intro c hc
  rw [h c hc]
  rfl

/-! ### Beginnings and ends -/

/-- A beginning is stripped exactly off the texts that have it. -/
theorem stripFront?_eq_some :
  stripFront? front cs = some rest ↔ cs = front ++ rest
  := by
  rw [stripFront?]
  split
  · rename_i h
    obtain ⟨suffix, rfl⟩ := List.isPrefixOf_iff_prefix.mp h
    rw [List.drop_left, Option.some_inj, List.append_cancel_left_eq]
  · rename_i h
    constructor
    · intro hnone
      cases hnone
    · rintro rfl
      exact absurd (List.isPrefixOf_iff_prefix.mpr (List.prefix_append front rest)) h

/-- Nothing is stripped off a text that does not begin so. -/
theorem stripFront?_eq_none :
  stripFront? front cs = none ↔ ¬ front <+: cs
  := by
  rw [stripFront?, ← List.isPrefixOf_iff_prefix]
  split
  · simp [*]
  · simp [*]

/-- An end is stripped exactly off the texts that have it. -/
theorem stripBack?_eq_some :
  stripBack? back cs = some rest ↔ cs = rest ++ back
  := by
  rw [stripBack?]
  split
  · rename_i h
    obtain ⟨start, rfl⟩ := List.isSuffixOf_iff_suffix.mp h
    rw [List.length_append, Nat.add_sub_cancel, List.take_left, Option.some_inj,
      List.append_cancel_right_eq]
  · rename_i h
    constructor
    · intro hnone
      cases hnone
    · rintro rfl
      exact absurd (List.isSuffixOf_iff_suffix.mpr (List.suffix_append rest back)) h

/-- Nothing is stripped off a text that does not end so. -/
theorem stripBack?_eq_none :
  stripBack? back cs = none ↔ ¬ back <:+ cs
  := by
  rw [stripBack?, ← List.isSuffixOf_iff_suffix]
  split
  · simp [*]
  · simp [*]

section

variable {p : Char → Bool}

/-- Dropping stops where the property does. -/
theorem dropWhile_append_of_stop (hfront : ∀ c ∈ front, p c)
    (hrest : ∀ c ∈ rest.head?, p c = false) :
  (front ++ rest).dropWhile p = rest
  := by
  rw [List.dropWhile_append_of_pos hfront]
  cases rest with
  | nil => rfl
  | cons c rest => apply List.dropWhile_cons_of_neg (by simp [hrest c rfl])

/-- Two beginnings of a text are equal if each of them ends where the same property of its
characters ends. -/
theorem append_inj_of_stop {rest' : List Char} (hfront : ∀ c ∈ front, p c)
    (hback : ∀ c ∈ back, p c) (hrest : ∀ c ∈ rest.head?, p c = false)
    (hrest' : ∀ c ∈ rest'.head?, p c = false) (h : front ++ rest = back ++ rest') :
  front = back ∧ rest = rest'
  := by
  obtain rfl : rest = rest' := by
    rw [← dropWhile_append_of_stop hfront hrest, h, dropWhile_append_of_stop hback hrest']
  constructor
  · apply List.append_cancel_right h
  · rfl

/-- Two beginnings of a text are equal if both of them end at the first separator, or at the end. -/
theorem append_inj_of_notMem {separator : Char} {rest' : List Char} (hfront : separator ∉ front)
    (hback : separator ∉ back) (hrest : ∀ c ∈ rest.head?, c = separator)
    (hrest' : ∀ c ∈ rest'.head?, c = separator) (h : front ++ rest = back ++ rest') :
  front = back ∧ rest = rest'
  := by
  apply append_inj_of_stop (p := (· != separator)) _ _ _ _ h
  · exact fun c hc => bne_iff_ne.mpr fun heq => hfront (heq ▸ hc)
  · exact fun c hc => bne_iff_ne.mpr fun heq => hback (heq ▸ hc)
  · simpa using hrest
  · simpa using hrest'

end

/-! ### Words -/

/-- The text has no blank characters. -/
def IsWord (cs : List Char) : Prop :=
  ∀ c ∈ cs, isBlank c = false

instance (cs : List Char) : Decidable (IsWord cs) :=
  decidable_of_iff (cs.all fun c => !isBlank c) (by simp [IsWord])

/-- What is before the first blank character of a text. -/
def firstWord (cs : List Char) : List Char :=
  cs.takeWhile fun c => !isBlank c

/-- What is behind the first blank character of a text, trimmed. -/
def afterFirstWord (cs : List Char) : List Char :=
  trim (cs.dropWhile fun c => !isBlank c)

/-- Trimming drops a blank in front. -/
theorem trim_cons_of_blank {c : Char} (h : isBlank c) (cs : List Char) :
  trim (c :: cs) = trim cs
  := by
  rw [trim, trimStart, List.dropWhile_cons_of_pos h]
  rfl

/-- A text that can be split at a blank has its first word in front of it. -/
theorem splitBlank?_eq_some {word : List Char} (h : splitBlank? cs = some (word, rest)) :
  firstWord cs = word ∧ afterFirstWord cs = trim rest
  := by
  induction cs generalizing word rest with
  | nil => cases h
  | cons c cs ih =>
    rw [splitBlank?] at h
    cases hc : isBlank c with
    | true =>
      rw [hc] at h
      cases h
      simp [firstWord, afterFirstWord, hc, trim_cons_of_blank hc]
    | false =>
      rw [hc, if_neg Bool.false_ne_true, Option.map_eq_some_iff] at h
      obtain ⟨parts, hparts, heq⟩ := h
      cases heq
      simpa [firstWord, afterFirstWord, hc] using ih hparts

/-- A text without blanks is one word. -/
theorem splitBlank?_eq_none (h : splitBlank? cs = none) :
  firstWord cs = cs ∧ afterFirstWord cs = []
  := by
  induction cs with
  | nil => constructor <;> rfl
  | cons c cs ih =>
    rw [splitBlank?] at h
    cases hc : isBlank c with
    | true =>
      rw [hc] at h
      cases h
    | false =>
      rw [hc, if_neg Bool.false_ne_true, Option.map_eq_none_iff] at h
      simpa [firstWord, afterFirstWord, hc] using ih h

section

variable {word : List Char}

/-- What is behind a word is found where the word ends. -/
theorem dropWhile_word_append (hword : IsWord word)
    (hrest : ∀ c ∈ rest.head?, isBlank c) :
  (word ++ rest).dropWhile (fun c => !isBlank c) = rest
  := by
  apply dropWhile_append_of_stop
  · simpa [IsWord] using hword
  · simpa using hrest

/-- The first word of a text ends at the first blank. -/
theorem firstWord_append (hword : IsWord word)
    (hrest : ∀ c ∈ rest.head?, isBlank c) :
  firstWord (word ++ rest) = word
  := by
  have hsplit : firstWord (word ++ rest) ++ _ = word ++ rest := List.takeWhile_append_dropWhile
  rw [dropWhile_word_append hword hrest] at hsplit
  apply List.append_cancel_right hsplit

/-- What is behind the first word is trimmed. -/
theorem afterFirstWord_append (hword : IsWord word)
    (hrest : ∀ c ∈ rest.head?, isBlank c) :
  afterFirstWord (word ++ rest) = trim rest
  := by
  rw [afterFirstWord, dropWhile_word_append hword hrest]

/-- Trimming does nothing to a first word. -/
theorem trim_word_append (hword : IsWord word) (hne : word ≠ [])
    (rest : List Char) :
  trim (word ++ rest) = word ++ trimEnd rest
  := by
  have hend : trimEnd word = word :=
    trimEnd_eq_self fun c hc => hword c (List.mem_of_getLast? hc)
  obtain ⟨c, word, rfl⟩ := List.exists_cons_of_ne_nil hne
  have hstart : trimStart (c :: word ++ rest) = c :: word ++ rest := by
    apply trimStart_eq_self
    rintro _ ⟨⟩
    apply hword c List.mem_cons_self
  rw [trim, hstart, trimEnd_append]
  split
  · rename_i h
    rw [h, hend, List.append_nil]
  · rfl

/-- Trimming the end leaves a blank beginning blank. -/
theorem isBlank_head?_trimEnd (h : ∀ c ∈ rest.head?, isBlank c) :
  ∀ c ∈ (trimEnd rest).head?, isBlank c
  := by
  intro c hc
  obtain ⟨suffix, hsuffix⟩ : trimEnd rest <+: rest := List.rdropWhile_prefix isBlank rest
  apply h
  rw [← hsuffix]
  apply List.mem_head?_append_of_mem_head? hc

end

/-! ### Pieces and lines -/

theorem splitOn_eq (separator : Char) (cs : List Char) :
  splitOn separator cs = cs.splitOn separator
  := by
  induction cs with
  | nil => rfl
  | cons c cs ih =>
    rw [splitOn, List.splitOn_eq_splitOnP, List.splitOnP_cons_eq_if_modifyHead,
      ← List.splitOn_eq_splitOnP, ih]
    cases hpieces : cs.splitOn separator with
    | nil => exact absurd hpieces (List.splitOn_ne_nil separator cs)
    | cons piece pieces => simp

/-- A text is split at a separator in it. -/
theorem splitOn_append_cons (separator : Char) (cs back : List Char) :
  splitOn separator (cs ++ separator :: back) = splitOn separator cs ++ splitOn separator back
  := by
  rw [splitOn_eq, splitOn_eq, splitOn_eq, List.splitOn_eq_splitOnP]
  exact List.splitOnP_append_cons cs back (beq_self_eq_true separator)

theorem splitOn_ne_nil (separator : Char) (cs : List Char) :
  splitOn separator cs ≠ []
  := by
  rw [splitOn_eq]
  apply List.splitOn_ne_nil separator cs

/-- A text without separators is one piece. -/
theorem splitOn_of_notMem {separator : Char} (h : separator ∉ cs) :
  splitOn separator cs = [cs]
  := by
  rw [splitOn_eq]
  apply List.splitOn_eq_singleton h

/-- The pieces of a text, with the separators between them, are the text. -/
theorem intercalate_splitOn (separator : Char) (cs : List Char) :
  [separator].intercalate (splitOn separator cs) = cs
  := by
  rw [splitOn_eq]
  apply List.intercalate_splitOn separator

/-- Pieces without the separator, joined by it, are cut again where they were joined. -/
theorem splitOn_intercalate {separator : Char} {pieces : List (List Char)} (hne : pieces ≠ [])
    (h : ∀ piece ∈ pieces, separator ∉ piece) :
  splitOn separator ([separator].intercalate pieces) = pieces
  := by
  rw [splitOn_eq]
  apply List.splitOn_intercalate separator h hne

/-- The pieces of a text behind its first character are pieces of the whole text, except that the
first one of them gets this character if it is not the separator. -/
theorem mem_splitOn_cons {separator c : Char} {piece : List Char}
    (h : piece ∈ splitOn separator (c :: cs)) :
  piece = [] ∨ piece ∈ splitOn separator cs ∨
    c ≠ separator ∧ ∃ rest ∈ splitOn separator cs, piece = c :: rest
  := by
  rw [splitOn] at h
  split at h
  · rcases List.mem_cons.mp h with rfl | h
    · left
      rfl
    · right; left
      apply h
  · rename_i hc
    cases hpieces : splitOn separator cs with
    | nil => exact absurd hpieces (splitOn_ne_nil separator cs)
    | cons first pieces =>
      rw [hpieces] at h
      rcases List.mem_cons.mp h with rfl | h
      · right; right
        use hc, first
        constructor
        · apply List.mem_cons_self
        · rfl
      · right; left
        apply List.mem_cons_of_mem first h

/-- The characters of a piece are in the text. -/
theorem subset_of_mem_splitOn {separator : Char} {piece : List Char}
    (h : piece ∈ splitOn separator cs) :
  piece ⊆ cs
  := by
  induction cs generalizing piece with
  | nil =>
    rw [splitOn, List.mem_singleton] at h
    rw [h]
    apply List.Subset.refl []
  | cons c cs ih =>
    rcases mem_splitOn_cons h with rfl | h | ⟨-, rest, hrest, rfl⟩
    · apply List.nil_subset _
    · apply List.subset_cons_of_subset c (ih h)
    · apply List.cons_subset_cons c (ih hrest)

/-- No separator is in a piece. -/
theorem notMem_of_mem_splitOn {separator : Char} {piece : List Char}
    (h : piece ∈ splitOn separator cs) :
  separator ∉ piece
  := by
  induction cs generalizing piece with
  | nil =>
    rw [splitOn, List.mem_singleton] at h
    rw [h]
    apply List.not_mem_nil
  | cons c cs ih =>
    rcases mem_splitOn_cons h with rfl | h | ⟨hc, rest, hrest, rfl⟩
    · apply List.not_mem_nil
    · apply ih h
    · apply List.not_mem_cons_of_ne_of_not_mem hc.symm (ih hrest)

/-- Only the last piece may be left out of the lines. -/
theorem linesOfPieces_cons (piece : List Char) {pieces : List (List Char)} (h : pieces ≠ []) :
  linesOfPieces (piece :: pieces) = dropReturn piece :: linesOfPieces pieces
  := by
  cases pieces with
  | nil => contradiction
  | cons next pieces => rfl

/-- Pieces in front of others are lines. -/
theorem linesOfPieces_append (pieces : List (List Char)) {others : List (List Char)}
    (h : others ≠ []) :
  linesOfPieces (pieces ++ others) = pieces.map dropReturn ++ linesOfPieces others
  := by
  induction pieces with
  | nil => rfl
  | cons piece pieces ih =>
    rw [List.cons_append, linesOfPieces_cons piece (List.append_ne_nil_of_right_ne_nil _ h), ih]
    rfl

/-- The lines of a text up to a line feed are its pieces, and the lines behind are those of the
rest. -/
theorem lines_append (cs back : List Char) :
  lines (cs ++ '\n' :: back) = (splitOn '\n' cs).map dropReturn ++ lines back
  := by
  rw [lines, splitOn_append_cons, linesOfPieces_append _ (splitOn_ne_nil _ _), lines]

/-- The text has no line feed and no carriage return. -/
def OneLine (cs : List Char) : Prop :=
  '\n' ∉ cs ∧ '\r' ∉ cs

instance (cs : List Char) : Decidable (OneLine cs) :=
  inferInstanceAs (Decidable (_ ∧ _))

theorem dropReturn_eq_self (h : '\r' ∉ cs) :
  dropReturn cs = cs
  := if_neg fun hlast => h (List.mem_of_getLast? hlast)

/-- A text that is one line has this line only. -/
theorem lines_of_oneLine (h : OneLine cs) (hne : cs ≠ []) :
  lines cs = [cs]
  := by
  rw [lines, splitOn_of_notMem h.1, linesOfPieces, if_neg hne]

/-- One line and a line feed in front of a text are a line of their own. -/
theorem lines_append_of_oneLine (h : OneLine cs) (back : List Char) :
  lines (cs ++ '\n' :: back) = cs :: lines back
  := by
  rw [lines_append, splitOn_of_notMem h.1, List.map_singleton, dropReturn_eq_self h.2]
  rfl

/-- The pieces of a text without carriage returns have none at their ends. -/
theorem map_dropReturn_splitOn (h : '\r' ∉ cs) (separator : Char) :
  (splitOn separator cs).map dropReturn = splitOn separator cs
  := by
  have hpieces : ∀ piece ∈ splitOn separator cs, dropReturn piece = id piece := by
    intro piece hpiece
    apply dropReturn_eq_self fun hreturn => h (subset_of_mem_splitOn hpiece hreturn)
  rw [List.map_congr_left hpieces, List.map_id]

/-- A piece that is not empty and has no carriage returns is a line. -/
theorem mem_linesOfPieces {pieces : List (List Char)} {piece : List Char} (h : piece ∈ pieces)
    (hne : piece ≠ []) (hreturn : '\r' ∉ piece) :
  piece ∈ linesOfPieces pieces
  := by
  induction pieces with
  | nil => cases h
  | cons first pieces ih =>
    cases pieces with
    | nil =>
      rw [List.mem_singleton.mp h] at hne ⊢
      rw [linesOfPieces, if_neg hne]
      apply List.mem_singleton_self first
    | cons next pieces =>
      rw [linesOfPieces_cons first (List.cons_ne_nil next pieces)]
      rcases List.mem_cons.mp h with rfl | h
      · rw [dropReturn_eq_self hreturn]
        apply List.mem_cons_self
      · apply List.mem_cons_of_mem _ (ih h)

/-- A carriage return is blank. -/
theorem nonblank_dropReturn (cs : List Char) :
  nonblank (dropReturn cs) = nonblank cs
  := by
  rw [dropReturn]
  split
  · rename_i h
    obtain ⟨front, rfl⟩ := List.getLast?_eq_some_iff.mp h
    have hreturn : nonblank ['\r'] = [] := by decide
    rw [List.dropLast_concat, nonblank_append, hreturn, List.append_nil]
  · rfl

/-- The lines have all characters of the pieces that are not blank. -/
theorem nonblank_linesOfPieces (pieces : List (List Char)) :
  (linesOfPieces pieces).flatMap nonblank = pieces.flatMap nonblank
  := by
  induction pieces with
  | nil => rfl
  | cons piece pieces ih =>
    cases pieces with
    | nil =>
      rw [linesOfPieces]
      split
      · rename_i h
        rw [h]
        rfl
      · rfl
    | cons next pieces =>
      rw [linesOfPieces_cons piece (List.cons_ne_nil next pieces), List.flatMap_cons,
        nonblank_dropReturn, ih, ← List.flatMap_cons]

/-- Only blank characters are lost when a text is cut into lines. -/
theorem nonblank_lines (cs : List Char) :
  (lines cs).flatMap nonblank = nonblank cs
  := by
  have hblank : isBlank '\n' := by decide
  rw [lines, nonblank_linesOfPieces, ← nonblank_intercalate hblank, intercalate_splitOn]

end InterfaceDocs.Text
