import InterfaceDocs.Identifier
import InterfaceDocs.Proofs.Text

/-!
# Printed identifiers

The printed form of an identifier is the name of its root followed by one segment for each step from
the root down to it.  A segment begins with a dot, and with plain names no segment can be taken for
the beginning of another one (`Step.append_inj`): a word ends before the next dot, an operator ends
at its closing parenthesis, and the kinds that begin alike differ in front of the next hyphen.  So
identifiers with the same root are told apart by their printed forms (`text_unambiguous`).
-/

namespace InterfaceDocs

/-! ### Names -/

namespace Name

/-- The name is a word, without dots and hyphens. -/
structure PlainWord (name : String) : Prop where
  start : ∀ c ∈ name.toList.head?, isWordStart c
  dot : '.' ∉ name.toList
  hyphen : '-' ∉ name.toList

/-- The name is an operator, without blanks and parentheses. -/
structure PlainOperator (name : String) : Prop where
  start : ∃ c ∈ name.toList.head?, isWordStart c = false
  blank : ∀ c ∈ name.toList, Text.isBlank c = false
  opening : '(' ∉ name.toList
  closing : ')' ∉ name.toList

/-- The name is a word or an operator that can be printed without being confused with another. -/
def Plain (name : String) : Prop :=
  PlainWord name ∨ PlainOperator name

variable {m n : String} {rest rest' : List Char}

theorem plainWord_iff :
  PlainWord n ↔ n.toList.head?.all isWordStart ∧ '.' ∉ n.toList ∧ '-' ∉ n.toList
  := by
  rw [Option.all_eq_true]
  constructor
  · rintro ⟨hstart, hdot, hhyphen⟩
    use hstart, hdot, hhyphen
  · rintro ⟨hstart, hdot, hhyphen⟩
    use hstart, hdot, hhyphen

theorem plainOperator_iff :
  PlainOperator n ↔ n.toList.head?.any (fun c => !isWordStart c) ∧
    n.toList.all (fun c => !Text.isBlank c) ∧ '(' ∉ n.toList ∧ ')' ∉ n.toList
  := by
  simp only [Option.any_eq_true, List.all_eq_true, Bool.not_eq_true']
  constructor
  · rintro ⟨hstart, hblank, hopening, hclosing⟩
    use hstart, hblank, hopening, hclosing
  · rintro ⟨hstart, hblank, hopening, hclosing⟩
    use hstart, hblank, hopening, hclosing

instance (name : String) : Decidable (PlainWord name) :=
  decidable_of_iff _ plainWord_iff.symm

instance (name : String) : Decidable (PlainOperator name) :=
  decidable_of_iff _ plainOperator_iff.symm

instance (name : String) : Decidable (Plain name) :=
  inferInstanceAs (Decidable (_ ∨ _))

/-- A plain operator is printed as an operator. -/
theorem isOperator_eq_true (h : PlainOperator n) :
  isOperator n = true
  := by
  obtain ⟨c, hc, hstart⟩ := h.start
  obtain ⟨cs, hn⟩ := List.head?_eq_some_iff.mp hc
  simp [isOperator, hn, hstart]

theorem isOperator_eq_false (h : PlainWord n) :
  isOperator n = false
  := by
  rw [isOperator]
  split
  · rfl
  · rename_i c cs hn
    have hstart : isWordStart c = true := h.start c (by rw [hn]; rfl)
    simp [hstart]

/-- A plain word is printed as it is. -/
theorem parenthesised_of_word (h : PlainWord n) :
  parenthesised n = n
  := by
  simp [parenthesised, isOperator_eq_false h]

/-- An operator is shown in parentheses, and what is inside of them is the operator but for
blanks. -/
theorem parenthesised_of_operator (h : PlainOperator n) :
  ∃ inside, (parenthesised n).toList = '(' :: (inside ++ [')']) ∧
    ')' ∉ inside ∧ Text.nonblank inside = n.toList
  := by
  have hself : Text.nonblank n.toList = n.toList := Text.nonblank_eq_self h.blank
  have hblank : Text.nonblank [' '] = [] := by decide
  rw [parenthesised, isOperator_eq_true h]
  split
  · contradiction
  · split
    · use [' '] ++ n.toList ++ [' '], by simp, by simp [h.closing]
      rw [Text.nonblank_append, Text.nonblank_append, hblank, hself]
      simp
    · use n.toList, by simp, h.closing, hself

/-- A word, or the dot behind it, is no parenthesis. -/
theorem word_append_ne_parenthesis (h : PlainWord n) (hrest : ∀ c ∈ rest.head?, c = '.')
    (cs : List Char) :
  n.toList ++ rest ≠ '(' :: cs
  := by
  intro heq
  cases hn : n.toList with
  | nil =>
    rw [hn, List.nil_append] at heq
    rw [heq] at hrest
    exact absurd (hrest '(' rfl) (by decide)
  | cons c others =>
    rw [hn] at heq
    have hstart := h.start c (by rw [hn]; rfl)
    obtain ⟨rfl, -⟩ := List.cons.inj heq
    exact absurd hstart (by decide)

/-- A plain word ends in front of a dot or at the end of a text, so it is found in front of what
follows. -/
theorem word_append_inj (hm : PlainWord m) (hn : PlainWord n)
    (hrest : ∀ c ∈ rest.head?, c = '.') (hrest' : ∀ c ∈ rest'.head?, c = '.')
    (h : m.toList ++ rest = n.toList ++ rest') :
  m = n ∧ rest = rest'
  := by
  obtain ⟨hname, hrest⟩ := Text.append_inj_of_notMem hm.dot hn.dot hrest hrest' h
  use String.toList_injective hname, hrest

/-- A plain operator in parentheses is found in front of what follows, because it has none in it. -/
theorem operator_append_inj (hm : PlainOperator m) (hn : PlainOperator n)
    (h : (parenthesised m).toList ++ rest = (parenthesised n).toList ++ rest') :
  m = n ∧ rest = rest'
  := by
  obtain ⟨inside, hshown, hclosing, hinside⟩ := parenthesised_of_operator hm
  obtain ⟨inside', hshown', hclosing', hinside'⟩ := parenthesised_of_operator hn
  have h : inside ++ ')' :: rest = inside' ++ ')' :: rest' := by
    simpa [hshown, hshown'] using h
  obtain ⟨rfl, hrest⟩ :=
    Text.append_inj_of_notMem hclosing hclosing' (by simp) (by simp) h
  rw [hinside] at hinside'
  use String.toList_injective hinside', (List.cons.inj hrest).2

/-- A plain name that is shown in front of a dot, or at the end, can be read back. -/
theorem parenthesised_append_inj (hm : Plain m) (hn : Plain n)
    (hrest : ∀ c ∈ rest.head?, c = '.') (hrest' : ∀ c ∈ rest'.head?, c = '.')
    (h : (parenthesised m).toList ++ rest = (parenthesised n).toList ++ rest') :
  m = n ∧ rest = rest'
  := by
  rcases hm with hm | hm
  · rcases hn with hn | hn
    · rw [parenthesised_of_word hm, parenthesised_of_word hn] at h
      apply word_append_inj hm hn hrest hrest' h
    · obtain ⟨inside, hshown, -⟩ := parenthesised_of_operator hn
      rw [parenthesised_of_word hm, hshown] at h
      exact absurd h (word_append_ne_parenthesis hm hrest _)
  · rcases hn with hn | hn
    · obtain ⟨inside, hshown, -⟩ := parenthesised_of_operator hm
      rw [hshown, parenthesised_of_word hn] at h
      exact absurd h.symm (word_append_ne_parenthesis hn hrest' _)
    · apply operator_append_inj hm hn h

/-- A plain name is not shown as the rest of a kind of types. -/
theorem parenthesised_append_ne_type (hn : Plain n) (hrest : ∀ c ∈ rest.head?, c = '.')
    (cs : List Char) :
  (parenthesised n).toList ++ rest ≠ "type".toList ++ '-' :: cs
  := by
  intro h
  rcases hn with hn | hn
  · rw [parenthesised_of_word hn] at h
    have hword : ∀ c ∈ n.toList, (c != '.' && c != '-') = true := by
      intro c hc
      have hdot : c ≠ '.' := fun heq => hn.dot (heq ▸ hc)
      have hhyphen : c ≠ '-' := fun heq => hn.hyphen (heq ▸ hc)
      simp [hdot, hhyphen]
    have hend : ∀ c ∈ rest.head?, (c != '.' && c != '-') = false := by
      intro c hc
      simp [hrest c hc]
    -- the word ends in front of a dot, and the other text in front of a hyphen
    obtain ⟨-, rfl⟩ := Text.append_inj_of_stop hword (by simp) hend (by simp) h
    exact absurd (hrest '-' rfl) (by decide)
  · obtain ⟨inside, hshown, -⟩ := parenthesised_of_operator hn
    rw [hshown] at h
    exact absurd (List.cons.inj h).1 (by decide)

end Name

/-! ### Kinds -/

namespace IdentifierKind

/-- All kinds. -/
def all : List IdentifierKind :=
  .root :: .functorParameter :: nested

/-- All kinds are listed. -/
theorem mem_all (kind : IdentifierKind) :
  kind ∈ all
  := by
  cases kind <;> decide

/-- Of two kinds with a hyphen behind them, one begins the other only if the other one is the kind
of its types. -/
theorem eq_or_type_of_prefix {kind other : IdentifierKind}
    (h : kind.text.toList ++ ['-'] <+: other.text.toList ++ ['-']) :
  kind = other ∨ kind ≠ .functorParameter ∧
    other.text.toList = kind.text.toList ++ '-' :: "type".toList
  := by
  have hall : ∀ kind ∈ all, ∀ other ∈ all,
      kind.text.toList ++ ['-'] <+: other.text.toList ++ ['-'] →
      kind = other ∨ kind ≠ .functorParameter ∧
        other.text.toList = kind.text.toList ++ '-' :: "type".toList := by
    decide
  apply hall kind (mem_all kind) other (mem_all other) h

/-- A kind whose text begins the text of another one is that kind, or `type` follows in the other
one. -/
theorem append_inj_of_prefix {kind other : IdentifierKind} {cs cs' : List Char}
    (hfront : kind.text.toList ++ ['-'] <+: other.text.toList ++ ['-'])
    (h : kind.text.toList ++ '-' :: cs = other.text.toList ++ '-' :: cs') :
  (kind = other ∧ cs = cs') ∨ kind ≠ .functorParameter ∧ cs = "type".toList ++ '-' :: cs'
  := by
  rcases eq_or_type_of_prefix hfront with rfl | ⟨hkind, htype⟩
  · left
    use rfl, by simpa using h
  · right
    rw [htype] at h
    use hkind, by simpa using h

/-- A kind with a hyphen behind it can be read back, unless one of the texts goes on as the kind of
types does. -/
theorem append_hyphen_cases {kind other : IdentifierKind} {cs cs' : List Char}
    (h : kind.text.toList ++ '-' :: cs = other.text.toList ++ '-' :: cs') :
  (kind = other ∧ cs = cs') ∨
  (kind ≠ .functorParameter ∧ cs = "type".toList ++ '-' :: cs') ∨
  (other ≠ .functorParameter ∧ cs' = "type".toList ++ '-' :: cs)
  := by
  have hkind : kind.text.toList ++ ['-'] <+: kind.text.toList ++ '-' :: cs := ⟨cs, by simp⟩
  have hother : other.text.toList ++ ['-'] <+: kind.text.toList ++ '-' :: cs := ⟨cs', by simp [h]⟩
  rcases List.prefix_or_prefix_of_prefix hkind hother with hfront | hfront
  · rcases append_inj_of_prefix hfront h with hsame | htype
    · left
      apply hsame
    · right; left
      apply htype
  · rcases append_inj_of_prefix hfront h.symm with ⟨hkinds, hrest⟩ | htype
    · left
      use hkinds.symm, hrest.symm
    · right; right
      apply htype

end IdentifierKind

/-! ### Steps -/

namespace Identifier

/-- A step from an identifier to one directly under it. -/
inductive Step where
  | child (kind : IdentifierKind) (name : String)
  | argument (position : Nat) (name : String)

namespace Step

/-- The kind of what the step leads to. -/
def kind : Step → IdentifierKind
  | .child kind _ => kind
  | .argument _ _ => .functorParameter

/-- What is printed of a step behind its kind. -/
def label : Step → List Char
  | .child _ name => (Name.parenthesised name).toList
  | .argument position name => (toString position).toList ++ '-' :: name.toList

/-- The segment that is printed for a step. -/
def text (s : Step) : List Char :=
  '.' :: (s.kind.text.toList ++ '-' :: s.label)

/-- The step leads to a declaration with a plain name, or to a functor parameter whose name is a
word. -/
def Plain : Step → Prop
  | .child kind name => kind ≠ .root ∧ kind ≠ .functorParameter ∧ Name.Plain name
  | .argument _ name => Name.PlainWord name

instance (s : Step) : Decidable s.Plain :=
  match s with
  | .child _ _ => inferInstanceAs (Decidable (_ ∧ _))
  | .argument _ name => inferInstanceAs (Decidable (Name.PlainWord name))

variable {s t : Step} {rest rest' : List Char}

theorem toList_toString (n : Nat) :
  (toString n).toList = Nat.toDigits 10 n
  := by
  rw [Nat.toString_eq_repr, Nat.toList_repr]

/-- A number is written without hyphens. -/
theorem hyphen_notMem_toString (n : Nat) :
  '-' ∉ (toString n).toList
  := by
  rw [toList_toString]
  intro h
  exact absurd (Nat.isDigit_of_mem_toDigits (by decide) (by decide) h) (by decide)

/-- Numbers that are written alike are equal. -/
theorem eq_of_toList_toString_eq {m n : Nat} (h : (toString m).toList = (toString n).toList) :
  m = n
  := by
  rw [toList_toString, toList_toString] at h
  rw [← Nat.ofDigitChars_ten_toDigits (n := m), h, Nat.ofDigitChars_ten_toDigits]

/-- The labels of plain steps of one kind are found in front of what follows. -/
theorem label_append_inj (hs : s.Plain) (ht : t.Plain) (hkind : s.kind = t.kind)
    (hrest : ∀ c ∈ rest.head?, c = '.') (hrest' : ∀ c ∈ rest'.head?, c = '.')
    (h : s.label ++ rest = t.label ++ rest') :
  s = t ∧ rest = rest'
  := by
  cases s with
  | child kind name =>
    cases t with
    | child other name' =>
      obtain rfl : kind = other := hkind
      obtain ⟨rfl, hend⟩ := Name.parenthesised_append_inj hs.2.2 ht.2.2 hrest hrest' h
      use rfl, hend
    | argument position name' => exact absurd hkind hs.2.1
  | argument position name =>
    cases t with
    | child other name' => exact absurd hkind.symm ht.2.1
    | argument position' name' =>
      rw [label, label, List.append_assoc, List.append_assoc] at h
      obtain ⟨hposition, hname⟩ := Text.append_inj_of_notMem (hyphen_notMem_toString position)
        (hyphen_notMem_toString position') (by simp) (by simp) h
      obtain rfl := eq_of_toList_toString_eq hposition
      obtain ⟨rfl, hend⟩ := Name.word_append_inj hs ht hrest hrest' (List.cons.inj hname).2
      use rfl, hend

/-- The label of a plain step does not begin with `type` and a hyphen. -/
theorem label_append_ne_type (hs : s.Plain) (hkind : s.kind ≠ .functorParameter)
    (hrest : ∀ c ∈ rest.head?, c = '.') (cs : List Char) :
  s.label ++ rest ≠ "type".toList ++ '-' :: cs
  := by
  cases s with
  | child kind name => apply Name.parenthesised_append_ne_type hs.2.2 hrest cs
  | argument position name => contradiction

/-- The segment of a plain step can be read back from in front of another segment. -/
theorem append_inj (hs : s.Plain) (ht : t.Plain) (hrest : ∀ c ∈ rest.head?, c = '.')
    (hrest' : ∀ c ∈ rest'.head?, c = '.') (h : s.text ++ rest = t.text ++ rest') :
  s = t ∧ rest = rest'
  := by
  have h : s.kind.text.toList ++ '-' :: (s.label ++ rest)
      = t.kind.text.toList ++ '-' :: (t.label ++ rest') := by
    simpa [text] using h
  rcases IdentifierKind.append_hyphen_cases h with ⟨hkind, hlabel⟩ | ⟨hkind, htype⟩ | ⟨hkind, htype⟩
  · apply label_append_inj hs ht hkind hrest hrest' hlabel
  · exact absurd htype (label_append_ne_type hs hkind hrest _)
  · exact absurd htype (label_append_ne_type ht hkind hrest' _)

/-- Each step of a text begins with a dot. -/
theorem head?_flatMap_text (steps : List Step) :
  ∀ c ∈ (steps.flatMap text).head?, c = '.'
  := by
  cases steps with
  | nil => exact fun _ h => nomatch h
  | cons s steps =>
    rintro _ ⟨⟩
    rfl

/-- The segments of plain steps can be read back. -/
theorem flatMap_text_inj {steps others : List Step} (hsteps : ∀ s ∈ steps, s.Plain)
    (hothers : ∀ s ∈ others, s.Plain) (h : steps.flatMap text = others.flatMap text) :
  steps = others
  := by
  induction steps generalizing others with
  | nil =>
    cases others with
    | nil => rfl
    | cons t others => cases h
  | cons s steps ih =>
    cases others with
    | nil => cases h
    | cons t others =>
      rw [List.forall_mem_cons] at hsteps hothers
      rw [List.flatMap_cons, List.flatMap_cons] at h
      obtain ⟨rfl, hrest⟩ := append_inj hsteps.1 hothers.1 (head?_flatMap_text steps)
        (head?_flatMap_text others) h
      rw [ih hsteps.2 hothers.2 hrest]

end Step

/-! ### Identifiers -/

/-- The steps from the root of an identifier down to it. -/
def steps : Identifier → List Step
  | .root _ _ => []
  | .child parent kind name => parent.steps ++ [.child kind name]
  | .argument parent position name => parent.steps ++ [.argument position name]

/-- The identifier that a step leads to. -/
def next (x : Identifier) : Step → Identifier
  | .child kind name => .child x kind name
  | .argument position name => .argument x position name

/-- The steps of an identifier lead from its root to it. -/
theorem foldl_next_steps (x : Identifier) :
  x.steps.foldl next x.rootOf = x
  := by
  induction x with
  | root container name => rfl
  | child parent kind name ih => rw [steps, rootOf, List.foldl_concat, ih, next]
  | argument parent position name ih => rw [steps, rootOf, List.foldl_concat, ih, next]

/-- An identifier is printed as its root, followed by the segments of its steps. -/
theorem toList_text (x : Identifier) :
  x.text.toList = x.rootOf.text.toList ++ x.steps.flatMap Step.text
  := by
  induction x with
  | root container name => simp [rootOf, steps]
  | child parent kind name ih => simp [text, rootOf, steps, Step.text, Step.kind, Step.label, ih]
  | argument parent position name ih =>
    simp [text, rootOf, steps, Step.text, Step.kind, Step.label, IdentifierKind.text, ih]

/-- Identifiers with the same root and plain steps are equal if they are printed alike. -/
theorem text_unambiguous {x y : Identifier} (hx : ∀ s ∈ x.steps, s.Plain)
    (hy : ∀ s ∈ y.steps, s.Plain) (hroot : x.rootOf = y.rootOf) (h : x.text = y.text) :
  x = y
  := by
  have h : x.text.toList = y.text.toList := congrArg String.toList h
  rw [toList_text x, toList_text y, hroot] at h
  have hsteps : x.steps = y.steps := Step.flatMap_text_inj hx hy (List.append_cancel_left h)
  calc x
    _ = x.steps.foldl next x.rootOf := (foldl_next_steps x).symm
    _ = y.steps.foldl next y.rootOf := by rw [hsteps, hroot]
    _ = y := foldl_next_steps y

/-- The names of two modules are kinds, and the one of an operator has a dot and a hyphen. -/
theorem printedSample_unambiguous :
  let steps : List Step :=
    [.child .module "class", .argument 2 "X", .child .moduleType "type", .child .value "*.-"]
  let x : Identifier := steps.foldl next (.root "pkg" "Unit")
  let y : Identifier :=
    .child (.child (.argument (.child (.root "pkg" "Unit") .module "class") 2 "X") .moduleType
      "type") .value "*.-"
  (∀ s ∈ x.steps, s.Plain) ∧ (∀ s ∈ y.steps, s.Plain) ∧ x.rootOf = y.rootOf ∧
  x.text = y.text ∧ x = y
  := by
  intro steps x y
  have hx : ∀ s ∈ x.steps, s.Plain := by decide
  have hy : ∀ s ∈ y.steps, s.Plain := by decide
  exact ⟨hx, hy, rfl, rfl, text_unambiguous hx hy rfl rfl⟩

end Identifier

end InterfaceDocs
