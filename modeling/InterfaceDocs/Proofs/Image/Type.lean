import InterfaceDocs.Load.WrittenType
import InterfaceDocs.Proofs.Image.Tree
import InterfaceDocs.Proofs.SameValue

/-!
# Documenting images of types

A written type and its compiled image are documented with the same value
(`TypeCompiles.document`).  The variables of an image are named, so the names that are found for
anonymous variables do not matter.
-/

namespace InterfaceDocs.Written

open Outcome (Same)

variable (config : Config) (scope : Scope) (names : VarNames)

/-! ### Tags of polymorphic variants -/

/-- The listed tags are the ones that are definitely present. -/
theorem RowCompiles.presentTags {fields : List RowField} {tags : List String}
    {entries : List Compiled.RowEntry} (h : RowCompiles fields tags entries) :
  Compiled.presentTags entries = tags
  := by
  induction entries generalizing fields tags with
  | nil =>
    cases h
    rfl
  | cons entry entries ih =>
    cases h with
    | constant hrest => apply congrArg _ (ih hrest)
    | applied _ hrest => apply congrArg _ (ih hrest)
    | possibleConstant hrest => apply ih hrest
    | possibleApplied _ hrest => apply ih hrest

/-- At most as many tags are listed as there are fields. -/
theorem RowCompiles.length_le {fields : List RowField} {tags : List String}
    {entries : List Compiled.RowEntry} (h : RowCompiles fields tags entries) :
  tags.length ≤ fields.length
  := by
  induction entries generalizing fields tags with
  | nil =>
    cases h
    apply Nat.le_refl _
  | cons entry entries ih =>
    cases h with
    | constant hrest => apply Nat.succ_le_succ (ih hrest)
    | applied _ hrest => apply Nat.succ_le_succ (ih hrest)
    | possibleConstant hrest => apply Nat.le_succ_of_le (ih hrest)
    | possibleApplied _ hrest => apply Nat.le_succ_of_le (ih hrest)

/-- Some tag is only possibly present exactly when not all tags are listed. -/
theorem RowCompiles.hasPossibleTag {fields : List RowField} {tags : List String}
    {entries : List Compiled.RowEntry} (h : RowCompiles fields tags entries) :
  Compiled.hasPossibleTag entries = decide (tags.length < fields.length)
  := by
  induction entries generalizing fields tags with
  | nil =>
    cases h
    rfl
  | cons entry entries ih =>
    cases h with
    | constant hrest =>
      rw [List.length_cons, List.length_cons]
      simp only [Nat.add_lt_add_iff_right]
      apply ih hrest
    | applied _ hrest =>
      rw [List.length_cons, List.length_cons]
      simp only [Nat.add_lt_add_iff_right]
      apply ih hrest
    | possibleConstant hrest =>
      have hlt := Nat.lt_succ_of_le hrest.length_le
      rw [List.length_cons, decide_eq_true hlt]
      rfl
    | possibleApplied _ hrest =>
      have hlt := Nat.lt_succ_of_le hrest.length_le
      rw [List.length_cons, decide_eq_true hlt]
      rfl

/-- The image of a closed variant is fixed when all tags are listed. -/
theorem RowCompiles.variantKind_fixed {fields : List RowField} {tags : List String}
    {entries : List Compiled.RowEntry} (h : RowCompiles fields tags entries)
    (hlength : tags.length = fields.length) :
  Compiled.variantKind entries true = .fixed
  := by
  have hpossible := h.hasPossibleTag
  rw [hlength, decide_eq_false (Nat.lt_irrefl _)] at hpossible
  simp [Compiled.variantKind, hpossible]

/-- The image of a closed variant has the listed tags when they are not all. -/
theorem RowCompiles.variantKind_closed {fields : List RowField} {tags : List String}
    {entries : List Compiled.RowEntry} (h : RowCompiles fields tags entries)
    (hlength : tags.length < fields.length) :
  Compiled.variantKind entries true = .closed tags
  := by
  have hpossible := h.hasPossibleTag
  rw [decide_eq_true hlength] at hpossible
  simp [Compiled.variantKind, hpossible, h.presentTags]

/-- The variables of the image of a quantifier have the names of the variables. -/
theorem quantifiedName_of_compiles {vars : List String} {vars' : List Compiled.TypeExpr}
    (h : List.Forall₂ (fun name v => ∃ id, v = .var (some name) id ∨ v = .univar (some name) id)
      vars vars') :
  vars'.filterMap (Compiled.quantifiedName names) = vars
  := by
  induction h with
  | nil => rfl
  | cons hv _ ih =>
    obtain ⟨id, rfl | rfl⟩ := hv
    · apply congrArg _ ih
    · apply congrArg _ ih

/-! ### Types -/

/-- The argument of an arrow is documented as its type if its label is not optional. -/
theorem documentArgument_of_not_optional {label : ArgLabel} (h : ∀ name, label ≠ .optional name)
    (arg : Compiled.TypeExpr) :
  Compiled.documentArgument scope names label arg = arg.document scope names
  := by
  cases label with
  | positional => rfl
  | labelled name => rfl
  | optional name => exact absurd rfl (h name)

/-- A single documented type before the steps after it. -/
theorem outcome_documentTypes_singleton_bind {α : Type} (type : CoreType)
    (k : List Model.TypeExpr → Reading α) :
  (documentTypes config scope [type] >>= k).outcome
    = (type.document config scope).outcome >>= fun t => (k [t]).outcome
  := by
  rw [documentTypes, documentTypes, Reading.outcome_bind, Reading.outcome_bind]
  rcases (type.document config scope).outcome with e | t <;> rfl

mutual

/-- A written type and its image are documented with the same value. -/
theorem TypeCompiles.document :
  ∀ {type : CoreType} {type' : Compiled.TypeExpr}, TypeCompiles type type' →
    Same (type.document config scope).outcome (type'.document scope names)
  | _, _, .var => Same.refl _
  | _, _, .univar => Same.refl _
  | _, _, .arrow hlabel harg hres => by
    rw [CoreType.document, Compiled.TypeExpr.document_arrow,
      documentArgument_of_not_optional scope names hlabel, Reading.outcome_bind]
    apply Same.bind harg.document
    intro a
    rw [Reading.outcome_bind]
    apply Same.bind hres.document
    intro r
    apply Same.refl
  | _, _, .optionalArrow hoption harg hres => by
    rw [CoreType.document, Compiled.TypeExpr.document_arrow, Compiled.documentArgument,
      if_pos hoption, Reading.outcome_bind]
    apply Same.bind harg.document
    intro a
    rw [Reading.outcome_bind]
    apply Same.bind hres.document
    intro r
    apply Same.refl
  | _, _, .tuple htypes => by
    rw [CoreType.document, Compiled.TypeExpr.document, Reading.outcome_bind]
    apply Same.bind htypes.document
    intro ts
    apply Same.refl
  | _, _, .constr hargs => by
    rw [CoreType.document, Compiled.TypeExpr.document, Reading.outcome_bind]
    apply Same.bind (Same.refl _)
    intro r
    rw [Reading.outcome_bind]
    apply Same.bind hargs.document
    intro ts
    apply Same.refl
  | _, _, .object hfields => by
    rw [CoreType.document, Compiled.TypeExpr.document, Reading.outcome_bind]
    apply Same.bind hfields.document
    intro ms
    apply Same.refl
  | _, _, .alias htype => by
    rw [CoreType.document, Compiled.TypeExpr.document, Reading.outcome_bind]
    apply Same.bind htype.document
    intro t
    apply Same.refl
  | _, _, .openVariant hrow => by
    rw [CoreType.document, Compiled.TypeExpr.document, Reading.outcome_bind]
    apply Same.bind hrow.document
    intro es
    apply Same.refl
  | _, _, .fixedVariant hrow hlength => by
    rw [CoreType.document, Compiled.TypeExpr.document, Reading.outcome_bind,
      hrow.variantKind_fixed hlength]
    apply Same.bind hrow.document
    intro es
    apply Same.refl
  | _, _, .closedVariant hrow hlength => by
    rw [CoreType.document, Compiled.TypeExpr.document, Reading.outcome_bind,
      hrow.variantKind_closed hlength]
    apply Same.bind hrow.document
    intro es
    apply Same.refl
  | _, _, .poly hvars hbody => by
    rw [CoreType.document, Compiled.TypeExpr.document, Reading.outcome_bind,
      quantifiedName_of_compiles names hvars]
    apply Same.bind hbody.document
    intro t
    apply Same.refl
  | _, _, .package hfields => by
    rw [CoreType.document, Compiled.TypeExpr.document, Reading.outcome_bind]
    apply Same.bind (Same.refl _)
    rintro ⟨r, subject⟩
    rw [Reading.outcome_bind]
    apply Same.bind (hfields.document subject)
    intro ss
    apply Same.refl

/-- Types and their images are documented with the same value. -/
theorem TypesCompile.document :
  ∀ {types : List CoreType} {types' : List Compiled.TypeExpr}, TypesCompile types types' →
    Same (documentTypes config scope types).outcome (Compiled.documentTypes scope names types')
  | _, _, .nil => Same.refl _
  | _, _, .cons htype htypes => by
    rw [documentTypes, Compiled.documentTypes, Reading.outcome_bind]
    apply Same.bind htype.document
    intro t
    rw [Reading.outcome_bind]
    apply Same.bind htypes.document
    intro ts
    apply Same.refl

/-- The fields of an object type and their images are documented with the same value. -/
theorem MethodsCompile.document :
  ∀ {fields : List ObjectField} {methods : List Compiled.ObjectMethod},
    MethodsCompile fields methods →
      Same (documentObjectFields config scope fields).outcome
        (Compiled.documentMethods scope names methods)
  | _, _, .nil => Same.refl _
  | _, _, .cons htype hfields => by
    rw [documentObjectFields, Compiled.documentMethods, Reading.outcome_bind]
    apply Same.bind htype.document
    intro t
    rw [Reading.outcome_bind]
    apply Same.bind hfields.document
    intro ms
    apply Same.refl

/-- The fields of a polymorphic variant and their images are documented with the same value. -/
theorem RowCompiles.document :
  ∀ {fields : List RowField} {tags : List String} {entries : List Compiled.RowEntry},
    RowCompiles fields tags entries →
      Same (documentRowFields config scope fields).outcome
        (Compiled.documentRow scope names entries)
  | _, _, _, .nil => Same.refl _
  | _, _, _, .constant hrow => by
    rw [documentRowFields, Compiled.documentRow]
    apply Same.skip rfl
    apply Same.skip (Load.outcome_readAnonymousDoc config _ [])
    rw [Reading.outcome_bind]
    apply Same.bind hrow.document
    intro es
    apply Same.refl
  | _, _, _, .applied htype hrow => by
    rw [documentRowFields, Compiled.documentRow, outcome_documentTypes_singleton_bind]
    apply Same.bind htype.document
    intro t
    apply Same.skip (Load.outcome_readAnonymousDoc config _ [])
    rw [Reading.outcome_bind]
    apply Same.bind hrow.document
    intro es
    apply Same.refl
  | _, _, _, .possibleConstant hrow => by
    rw [documentRowFields, Compiled.documentRow]
    apply Same.skip rfl
    apply Same.skip (Load.outcome_readAnonymousDoc config _ [])
    rw [Reading.outcome_bind]
    apply Same.bind hrow.document
    intro es
    apply Same.refl
  | _, _, _, .possibleApplied htype hrow => by
    rw [documentRowFields, Compiled.documentRow, Reading.outcome_bind]
    apply Same.bind (TypesCompile.cons htype .nil).document
    intro ts
    apply Same.skip (Load.outcome_readAnonymousDoc config _ [])
    rw [Reading.outcome_bind]
    apply Same.bind hrow.document
    intro es
    apply Same.refl

/-- The constraints of a package and their images are documented with the same value. -/
theorem PackageCompiles.document :
  ∀ {fields : List PackageField} {longNames : List LongIdent} {types : List Compiled.TypeExpr},
    PackageCompiles fields longNames types → ∀ subject : Subject,
      Same (documentPackageFields config scope subject fields).outcome
        (Compiled.documentPackage scope names subject longNames types)
  | _, _, _, .nil, _ => Same.refl _
  | _, _, _, .cons htype hfields, subject => by
    rw [documentPackageFields, Compiled.documentPackage, Reading.outcome_bind]
    apply Same.bind htype.document
    intro t
    rw [Reading.outcome_bind]
    apply Same.bind (hfields.document subject)
    intro ss
    apply Same.refl

end

end InterfaceDocs.Written
