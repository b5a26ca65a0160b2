import InterfaceDocs.LongIdent
import InterfaceDocs.Reference
import InterfaceDocs.Proofs.Text

/-!
# Dotted names

A dotted name is read as a long identifier or as a reference, and both of them are shown as dotted
names.  `DottedParts` says what the parts of a dotted name are without cutting it: they have no
dots, and joined by dots they are the name.  What is read from a name has its parts, in order, and
is shown as the name again (`dotted_names_faithful`).
-/

namespace InterfaceDocs

/-! ### The parts of a dotted name -/

/-- The strings are the parts of a dotted name, in order. -/
structure DottedParts (s : String) (parts : List String) : Prop where
  ne_nil : parts ≠ []
  undotted : ∀ part ∈ parts, '.' ∉ part.toList
  joined : ".".intercalate parts = s

theorem toList_intercalate_dot (parts : List String) :
  (".".intercalate parts).toList = ['.'].intercalate (parts.map String.toList)
  := String.toList_intercalate

theorem map_toList_pieces (separator : Char) (s : String) :
  (Text.pieces separator s).map String.toList = Text.splitOn separator s.toList
  := by
  have hid : String.toList ∘ String.ofList = id := funext fun _ => String.toList_ofList
  rw [Text.pieces, List.map_map, hid, List.map_id]

/-- Cutting a dotted name at its dots gives its parts. -/
theorem dottedParts_pieces (s : String) :
  DottedParts s (Text.pieces '.' s)
  := by
  have hpieces := map_toList_pieces '.' s
  constructor
  · intro hnil
    rw [hnil] at hpieces
    apply Text.splitOn_ne_nil '.' s.toList hpieces.symm
  · intro part hpart
    have hmem : part.toList ∈ Text.splitOn '.' s.toList := by
      rw [← hpieces]
      apply List.mem_map_of_mem hpart
    apply Text.notMem_of_mem_splitOn hmem
  · apply String.toList_injective
    rw [toList_intercalate_dot, hpieces, Text.intercalate_splitOn]

/-- The parts of a dotted name are the pieces that cutting it at its dots gives, and no others. -/
theorem DottedParts.eq_pieces {s : String} {parts : List String} (h : DottedParts s parts) :
  parts = Text.pieces '.' s
  := by
  obtain ⟨hne, hundotted, rfl⟩ := h
  have hne : parts.map String.toList ≠ [] := by simpa using hne
  have hundotted : ∀ piece ∈ parts.map String.toList, '.' ∉ piece := by simpa using hundotted
  have hid : String.ofList ∘ String.toList = id := funext fun _ => String.ofList_toList
  rw [Text.pieces, toList_intercalate_dot, Text.splitOn_intercalate hne hundotted, List.map_map,
    hid, List.map_id]

/-- The last name of a list stands behind a dot. -/
theorem intercalate_concat {names : List String} (hne : names ≠ []) (name : String) :
  ".".intercalate (names ++ [name]) = ".".intercalate names ++ "." ++ name
  := by
  rw [String.intercalate_append_of_ne_nil hne (List.cons_ne_nil name []),
    String.intercalate_singleton]

/-! ### Long identifiers -/

namespace LongIdent

variable {x : LongIdent} {names : List String}

/-- There is an application among the prefixes of a long identifier, itself included. -/
inductive AppliesOnSpine : LongIdent → Prop where
  | apply (functor argument : LongIdent) : AppliesOnSpine (.apply functor argument)
  | dot {head : LongIdent} (h : AppliesOnSpine head) (name : String) :
    AppliesOnSpine (.dot head name)

/-- The long identifier has no applications, and its names have no dots. -/
inductive Plain : LongIdent → Prop where
  | ident {name : String} (h : '.' ∉ name.toList) : Plain (.ident name)
  | dot {head : LongIdent} {name : String} (hhead : Plain head) (h : '.' ∉ name.toList) :
    Plain (.dot head name)

/-- A long identifier has no components exactly when it has an application on its spine. -/
theorem components_eq_none :
  x.components = none ↔ x.AppliesOnSpine
  := by
  induction x with
  | ident name => apply iff_of_false nofun nofun
  | dot head name ih =>
    rw [components, Option.map_eq_none_iff, ih]
    constructor
    · intro h
      apply h.dot name
    · rintro (_ | ⟨h, -⟩)
      apply h
  | apply functor argument => apply iff_of_true rfl (.apply functor argument)

/-- A long identifier has at least one component. -/
theorem components_ne_nil (h : x.components = some names) :
  names ≠ []
  := by
  cases x with
  | ident name =>
    cases h
    apply List.cons_ne_nil name []
  | dot head name =>
    obtain ⟨front, -, rfl⟩ := Option.map_eq_some_iff.mp h
    apply List.append_ne_nil_of_right_ne_nil front (List.cons_ne_nil name [])
  | apply functor argument => cases h

/-- A long identifier is shown as its components, joined by dots. -/
theorem text_of_components (h : x.components = some names) :
  x.text = ".".intercalate names
  := by
  induction x generalizing names with
  | ident name =>
    cases h
    rw [text, String.intercalate_singleton]
  | dot head name ih =>
    obtain ⟨front, hfront, rfl⟩ := Option.map_eq_some_iff.mp h
    rw [text, ih hfront, intercalate_concat (components_ne_nil hfront)]
  | apply functor argument => cases h

theorem ofComponents_concat (hne : names ≠ []) (name : String) :
  ofComponents (names ++ [name]) = .dot (ofComponents names) name
  := by
  obtain ⟨first, names, rfl⟩ := List.exists_cons_of_ne_nil hne
  apply List.foldl_concat dot (.ident first) name names

/-- The components that a long identifier is made of are its components. -/
theorem components_ofComponents (hne : names ≠ []) :
  (ofComponents names).components = some names
  := by
  induction names using List.reverseRecOn with
  | nil => contradiction
  | append_singleton names name ih =>
    by_cases hnames : names = []
    · subst hnames
      rfl
    · rw [ofComponents_concat hnames, components, ih hnames, Option.map_some]

/-- A long identifier without applications among its prefixes is made of its components. -/
theorem ofComponents_of_components (h : x.components = some names) :
  ofComponents names = x
  := by
  induction x generalizing names with
  | ident name =>
    cases h
    rfl
  | dot head name ih =>
    obtain ⟨front, hfront, rfl⟩ := Option.map_eq_some_iff.mp h
    rw [ofComponents_concat (components_ne_nil hfront), ih hfront]
  | apply functor argument => cases h

/-- A text is parsed to the long identifier of its pieces between dots. -/
theorem components_parse (s : String) :
  (parse s).components = some (Text.pieces '.' s)
  := components_ofComponents (dottedParts_pieces s).ne_nil

/-- Parsing and writing a long identifier gives the text. -/
theorem text_parse (s : String) :
  (parse s).text = s
  := by
  rw [text_of_components (components_parse s), (dottedParts_pieces s).joined]

/-- A plain long identifier has components, and no dot stands in them. -/
theorem Plain.exists_components (h : x.Plain) :
  ∃ names, x.components = some names ∧ ∀ name ∈ names, '.' ∉ name.toList
  := by
  induction h with
  | @ident name h => use [name], rfl, List.forall_mem_singleton.mpr h
  | @dot head name _ h ih =>
    obtain ⟨front, hfront, hundotted⟩ := ih
    use front ++ [name], by rw [components, hfront, Option.map_some]
    apply List.forall_mem_append.mpr ⟨hundotted, List.forall_mem_singleton.mpr h⟩

/-- The dotted name of a plain long identifier denotes it. -/
theorem Plain.parse_text (h : x.Plain) :
  parse x.text = x
  := by
  obtain ⟨names, hnames, hundotted⟩ := h.exists_components
  have hparts : DottedParts x.text names :=
    ⟨components_ne_nil hnames, hundotted, (text_of_components hnames).symm⟩
  rw [parse, ← hparts.eq_pieces, ofComponents_of_components hnames]

end LongIdent

/-! ### References -/

namespace Reference

variable {r : Reference} {names : List String}

/-- The reference is a unit and projections from it, with the given names in order. -/
inductive Chain : Reference → List String → Prop where
  | root (name : String) : Chain (.root name) [name]
  | dot {head : Reference} {names : List String} (h : Chain head names) (name : String) :
    Chain (.dot head name) (names ++ [name])

/-- A chain begins with a root, from which the other names are projected. -/
theorem Chain.exists_eq (h : r.Chain names) :
  ∃ name rest, names = name :: rest ∧ r = extend (.root name) rest
  := by
  induction h with
  | root name =>
    use name, [], rfl
    rfl
  | dot _ name ih =>
    obtain ⟨first, rest, rfl, rfl⟩ := ih
    use first, rest ++ [name], rfl
    rw [extend, extend, List.foldl_concat]

theorem Chain.ne_nil (h : r.Chain names) :
  names ≠ []
  := by
  obtain ⟨name, rest, rfl, -⟩ := h.exists_eq
  apply List.cons_ne_nil name rest

/-- A chain is determined by its names. -/
theorem Chain.unique {other : Reference} (h : r.Chain names) (h' : other.Chain names) :
  r = other
  := by
  obtain ⟨name, rest, hnames, rfl⟩ := h.exists_eq
  obtain ⟨_, _, hother, rfl⟩ := h'.exists_eq
  rw [hnames] at hother
  cases hother
  rfl

/-- Projecting names makes a chain longer. -/
theorem Chain.extend (h : r.Chain names) (more : List String) :
  (r.extend more).Chain (names ++ more)
  := by
  induction more using List.reverseRecOn with
  | nil => rwa [List.append_nil]
  | append_singleton more name ih =>
    rw [← List.append_assoc, Reference.extend, List.foldl_concat]
    apply ih.dot name

/-- A chain is shown as its names, joined by dots. -/
theorem Chain.text (h : r.Chain names) :
  r.text = ".".intercalate names
  := by
  induction h with
  | root name => rw [Reference.text, String.intercalate_singleton]
  | dot h name ih => rw [Reference.text, ih, intercalate_concat h.ne_nil]

section

variable {s : String} {parts : List String}

/-- A dotted name is read as the chain of its parts, unless one of them is empty. -/
theorem ofDotted_of_parts (h : DottedParts (Text.trimmed s) parts) :
  ∃ r : Reference, r.Chain parts ∧ ofDotted s = if "" ∈ parts then none else some r
  := by
  obtain ⟨name, names, hparts⟩ := List.exists_cons_of_ne_nil h.ne_nil
  use extend (.root name) names
  constructor
  · rw [hparts]
    exact (Chain.root name).extend names
  · simp only [ofDotted, ← h.eq_pieces, hparts, List.contains_iff_mem]

/-- A dotted name denotes nothing exactly when one of its parts is empty. -/
theorem ofDotted_eq_none (h : DottedParts (Text.trimmed s) parts) :
  ofDotted s = none ↔ "" ∈ parts
  := by
  obtain ⟨r, -, hr⟩ := ofDotted_of_parts h
  simp [hr]

/-- A dotted name without empty parts denotes the chain of its parts. -/
theorem ofDotted_eq_some (h : DottedParts (Text.trimmed s) parts) :
  ofDotted s = some r ↔ "" ∉ parts ∧ r.Chain parts
  := by
  obtain ⟨other, hother, hr⟩ := ofDotted_of_parts h
  have hunique : other = r ↔ r.Chain parts := by
    constructor
    · rintro rfl
      apply hother
    · apply hother.unique
  rw [← hunique, hr]
  simp

end

end Reference

/-! ### Reading and showing -/

/-- Dotted names are read and shown consistently.  A long identifier has the parts of the name that
it is read from, and reading inverts showing where there are no applications and no further dots.
A reference is the chain of the parts of the trimmed name, if none of them is empty. -/
theorem dotted_names_faithful :
  (∀ s : String, (LongIdent.parse s).text = s ∧
    ∃ parts, DottedParts s parts ∧ (LongIdent.parse s).components = some parts) ∧
  (∀ x : LongIdent, x.Plain → LongIdent.parse x.text = x) ∧
  (∀ x : LongIdent, x.components = none ↔ x.AppliesOnSpine) ∧
  ∀ s : String, ∃ parts, DottedParts (Text.trimmed s) parts ∧
    (Reference.ofDotted s = none ↔ "" ∈ parts) ∧
    ∀ r : Reference, Reference.ofDotted s = some r ↔
      "" ∉ parts ∧ r.Chain parts ∧ r.text = Text.trimmed s
  := by
  constructor
  · intro s
    exact ⟨LongIdent.text_parse s, _, dottedParts_pieces s, LongIdent.components_parse s⟩
  constructor
  · intro x h
    apply h.parse_text
  constructor
  · intro x
    apply LongIdent.components_eq_none
  · intro s
    have hparts := dottedParts_pieces (Text.trimmed s)
    refine ⟨_, hparts, Reference.ofDotted_eq_none hparts, fun r => ?_⟩
    rw [Reference.ofDotted_eq_some hparts]
    constructor
    · rintro ⟨hfull, hchain⟩
      use hfull, hchain, by rw [hchain.text, hparts.joined]
    · rintro ⟨hfull, hchain, -⟩
      use hfull, hchain

/-- A long identifier with an empty name, and a reference read from a name between blanks. -/
theorem dottedSample_faithful :
  let x : LongIdent := .dot (.dot (.ident "M") "") "t"
  let r : Reference := .dot (.root "Lib") "M"
  x.Plain ∧ LongIdent.parse x.text = x ∧
  Reference.ofDotted " Lib.M\n" = some r ∧ r.text = Text.trimmed " Lib.M\n"
  := by
  intro x r
  have hplain : x.Plain := ((LongIdent.Plain.ident (by decide)).dot (by decide)).dot (by decide)
  have hr : Reference.ofDotted " Lib.M\n" = some r := by decide
  obtain ⟨-, hparse, -, hdotted⟩ := dotted_names_faithful
  obtain ⟨parts, -, -, hchain⟩ := hdotted " Lib.M\n"
  exact ⟨hplain, hparse x hplain, hr, ((hchain r).mp hr).2.2⟩

end InterfaceDocs
