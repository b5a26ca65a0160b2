import InterfaceDocs.Load.WrittenDeclaration
import InterfaceDocs.Proofs.Bare.Type

/-!
# Documenting bare declarations

Values, types, extensions and classes agree with their bare forms up to documentation,
whatever the configurations are.  Bare compiled declarations have the types of the
declarations, so their variables get the same names.
-/

namespace InterfaceDocs

open Reading (Agree)
open Load (readDoc_agree readCanonical_agree)

variable (config config' : Config) (scope : Scope)

namespace Compiled

/-! ### Types of bare declarations -/

theorem types_bareLabels (labels : List LabelDeclaration) :
  (labels.map LabelDeclaration.bare).map LabelDeclaration.type
    = labels.map LabelDeclaration.type
  := List.map_map

/-- The bare arguments of a constructor have the same types. -/
theorem ConstructorArguments.types_bare (args : ConstructorArguments) :
  args.bare.types = args.types
  := by
  cases args with
  | tuple types => rfl
  | record labels => apply types_bareLabels labels

/-- A bare kind of a type has the same types. -/
theorem TypeKind.types_bare (kind : TypeKind) :
  kind.bare.types = kind.types
  := by
  cases kind with
  | abstract => rfl
  | record labels => apply types_bareLabels labels
  | variant constructors =>
    rw [bare, types, List.flatMap_map, types]
    congr 1
    funext d
    rw [ConstructorDeclaration.bare, ConstructorArguments.types_bare]
  | extensible => rfl

/-- A bare type declaration has the same types, so the same names are collected for it. -/
theorem TypeDeclaration.types_bare (d : TypeDeclaration) :
  d.bare.types = d.types
  := congrArg (d.params ++ d.manifest.toList ++ ·) d.kind.types_bare

/-- A bare constructor has the same types, so the same names are collected for it. -/
theorem ExtensionConstructor.types_bare (d : ExtensionConstructor) :
  d.bare.types = d.types
  := congrArg (d.typeParams ++ · ++ d.result.toList) d.args.types_bare

/-! ### Compiled declarations -/

variable (names : VarNames) (parent : Identifier)

/-- A label and its bare form agree up to documentation. -/
theorem LabelDeclaration.document_bare (d : LabelDeclaration) :
  (d.document config scope names parent).Agree Model.Field.bare
    (d.bare.document config' scope names parent)
  := by
  apply Agree.bind (readDoc_agree config config' _ _ _)
  intro doc doc' _
  apply Agree.bind_right
  intro type
  apply Agree.pure
  rfl

theorem documentLabels_bare (labels : List LabelDeclaration) :
  (Reading.each (LabelDeclaration.document config scope names parent) labels).Agree
    (List.map Model.Field.bare)
    (Reading.each (LabelDeclaration.document config' scope names parent)
      (labels.map LabelDeclaration.bare))
  := Agree.each (LabelDeclaration.document_bare config config' scope names parent) labels

/-- The arguments of a constructor and their bare form agree up to documentation. -/
theorem ConstructorArguments.document_bare (args : ConstructorArguments) :
  (args.document config scope names parent).Agree Model.ConstructorArgs.bare
    (args.bare.document config' scope names parent)
  := by
  cases args with
  | tuple types =>
    apply Agree.bind_right
    intro ts
    apply Agree.pure
    rfl
  | record labels =>
    apply Agree.bind (documentLabels_bare config config' scope names parent labels)
    intro fs fs' hfs
    apply Agree.pure
    rw [Model.ConstructorArgs.bare, Model.ConstructorArgs.bare, hfs]

/-- A constructor agrees up to documentation with the one that has no attributes. -/
theorem documentConstructor_bare (x : Identifier) (args : ConstructorArguments)
    (result : Option TypeExpr) (attributes : List Attribute) :
  (documentConstructor config scope names x args result attributes).Agree
    Model.Constructor.bare
    (documentConstructor config' scope names x args.bare result [])
  := by
  apply Agree.bind (readDoc_agree config config' x attributes [])
  intro doc doc' _
  apply Agree.bind (args.document_bare config config' scope names x)
  intro as as' has
  apply Agree.bind_right
  intro r
  apply Agree.pure
  rw [Model.Constructor.bare, Model.Constructor.bare, has]

theorem ConstructorDeclaration.document_bare (d : ConstructorDeclaration) :
  (d.document config scope names parent).Agree Model.Constructor.bare
    (d.bare.document config' scope names parent)
  := documentConstructor_bare config config' scope names
    (parent.child .constructor d.ident.name) d.args d.result d.attributes

/-- The kind of a type and its bare form agree up to documentation. -/
theorem TypeKind.document_bare (kind : TypeKind) :
  (kind.document config scope names parent).Agree (Option.map Model.Representation.bare)
    (kind.bare.document config' scope names parent)
  := by
  cases kind with
  | abstract => apply Agree.refl
  | record labels =>
    apply Agree.bind (documentLabels_bare config config' scope names parent labels)
    intro fs fs' hfs
    apply Agree.pure
    rw [Option.map_some, Option.map_some, Model.Representation.bare, Model.Representation.bare,
      hfs]
  | variant constructors =>
    apply Agree.bind
      (Agree.each (ConstructorDeclaration.document_bare config config' scope names parent)
        constructors)
    intro cs cs' hcs
    apply Agree.pure
    rw [Option.map_some, Option.map_some, Model.Representation.bare, Model.Representation.bare,
      hcs]
  | extensible => apply Agree.refl

/-- A type declaration and its bare form agree up to documentation, to which the canonical path
belongs. -/
theorem TypeDeclaration.document_bare (x : Ident) (d : TypeDeclaration) :
  (d.document config scope parent x).Agree Model.TypeDecl.bare
    (d.bare.document config' scope parent x)
  := by
  unfold document
  rw [types_bare]
  apply Agree.bind (d.kind.document_bare config config' scope _ _)
  intro r r' hr
  apply Agree.bind (readDoc_agree config config' _ _ _)
  intro doc doc' _
  apply Agree.bind (readCanonical_agree doc doc')
  intro canonical canonical' _
  apply Agree.bind_right
  intro manifest
  apply Agree.pure
  rw [Model.TypeDecl.bare, Model.TypeDecl.bare, hr]
  rfl

/-- A constructor of an extensible type and its bare form agree up to documentation. -/
theorem ExtensionConstructor.document_bare (x : Identifier) (d : ExtensionConstructor) :
  (d.document config scope x).Agree Model.Constructor.bare (d.bare.document config' scope x)
  := by
  unfold document
  rw [types_bare]
  apply documentConstructor_bare config config' scope (.collect d.types) x d.args d.result
    d.attributes

/-- The extension that a constructor opens has no documentation, so it is the same for the bare
form. -/
theorem ExtensionConstructor.documentHead_bare (d : ExtensionConstructor)
    (constructors : List Model.Constructor) :
  d.bare.documentHead scope constructors = d.documentHead scope constructors
  := by
  unfold documentHead
  rw [types_bare]
  rfl

/-- A value and its bare form agree up to documentation. -/
theorem ValueDescription.document_bare (x : Ident) (d : ValueDescription) :
  (d.document config scope parent x).Agree Model.Item.bare
    (d.bare.document config' scope parent x)
  := by
  apply Agree.bind (readDoc_agree config config' _ _ _)
  intro doc doc' _
  apply Agree.bind_right
  intro type
  apply Agree.pure
  rcases d with ⟨_, _ | p, _, _⟩ <;> rfl

/-- A class and its bare form agree up to documentation. -/
theorem ClassDeclaration.document_bare (x : Ident) (d : ClassDeclaration) :
  (d.document config scope parent x).Agree Model.Class.bare
    (d.bare.document config' scope parent x)
  := by
  apply Agree.bind (readDoc_agree config config' _ _ _)
  intro doc doc' _
  apply Agree.bind_right
  intro type
  apply Agree.pure
  rfl

/-- A class type declaration and its bare form agree up to documentation. -/
theorem ClassTypeDeclaration.document_bare (x : Ident) (d : ClassTypeDeclaration) :
  (d.document config scope parent x).Agree Model.ClassType.bare
    (d.bare.document config' scope parent x)
  := by
  apply Agree.bind (readDoc_agree config config' _ _ _)
  intro doc doc' _
  apply Agree.bind_right
  intro type
  apply Agree.pure
  rfl

end Compiled

namespace Written

/-! ### Written declarations -/

variable (parent : Identifier)

/-- An optional type and its bare form agree up to documentation. -/
theorem documentOption_bare (type : Option CoreType) :
  (documentOption config scope type).Agree (Option.map Model.TypeExpr.bare)
    (documentOption config' scope (type.map CoreType.bare))
  := Agree.optional (CoreType.document_bare config config' scope) type

/-- The parameters of a bare declaration; also the location that an invalid one is reported
at is the same. -/
theorem documentParams_bare (owner : String) (ps : List TypeParam) :
  documentParams owner (ps.map TypeParam.bare) = documentParams owner ps
  := by
  have hparam (p : TypeParam) : p.bare.document owner = p.document owner := by
    rcases p with ⟨type, variance, injectivity⟩
    cases type <;> rfl
  induction ps with
  | nil => rfl
  | cons p ps ih => rw [List.map_cons, documentParams, hparam, ih, documentParams]

/-- A written value and its bare form agree up to documentation. -/
theorem ValueDescription.document_bare (d : ValueDescription) :
  (d.document config scope parent).Agree Model.Item.bare
    (d.bare.document config' scope parent)
  := by
  apply Agree.bind (readDoc_agree config config' _ _ _)
  intro doc doc' _
  apply Agree.bind (d.type.document_bare config config' scope)
  intro type type' htype
  apply Agree.pure
  rcases d with ⟨x, type, _ | ⟨name, names⟩, _, _⟩
  · apply congrArg (fun t => [Model.Item.value ⟨parent.child .value x.name, .absent, t⟩]) htype
  · apply congrArg
      (fun t => [Model.Item.external ⟨parent.child .value x.name, .absent, t, name :: names⟩])
      htype

theorem TypeConstraint.document_bare (c : TypeConstraint) :
  (c.document config scope).Agree Model.TypeConstraint.bare (c.bare.document config' scope)
  := by
  apply Agree.bind (c.left.document_bare config config' scope)
  intro l l' hl
  apply Agree.bind (c.right.document_bare config config' scope)
  intro r r' hr
  apply Agree.pure
  rw [Model.TypeConstraint.bare, Model.TypeConstraint.bare, hl, hr]

/-- The equation of a written type and that of its bare form agree up to documentation. -/
theorem TypeDeclaration.documentEquation_bare (d : TypeDeclaration) :
  (d.documentEquation config scope).Agree Model.TypeEquation.bare
    (d.bare.documentEquation config' scope)
  := by
  unfold documentEquation
  apply Agree.bind (documentOption_bare config config' scope d.manifest)
  intro m m' hm
  apply Agree.bind
    (Agree.each (TypeConstraint.document_bare config config' scope) d.constraints)
  intro cs cs' hcs
  rw [bare, documentParams_bare]
  apply Agree.bind_right
  intro params
  apply Agree.pure
  rw [Model.TypeEquation.bare, Model.TypeEquation.bare, hm, hcs]

theorem LabelDeclaration.document_bare (d : LabelDeclaration) :
  (d.document config scope parent).Agree Model.Field.bare
    (d.bare.document config' scope parent)
  := by
  apply Agree.bind (readDoc_agree config config' _ _ _)
  intro doc doc' _
  apply Agree.bind (d.type.document_bare config config' scope)
  intro type type' htype
  apply Agree.pure
  rw [Model.Field.bare, Model.Field.bare, htype]
  rfl

theorem documentLabels_bare (labels : List LabelDeclaration) :
  (Reading.each (LabelDeclaration.document config scope parent) labels).Agree
    (List.map Model.Field.bare)
    (Reading.each (LabelDeclaration.document config' scope parent)
      (labels.map LabelDeclaration.bare))
  := Agree.each (LabelDeclaration.document_bare config config' scope parent) labels

theorem ConstructorArguments.document_bare (args : ConstructorArguments) :
  (args.document config scope parent).Agree Model.ConstructorArgs.bare
    (args.bare.document config' scope parent)
  := by
  cases args with
  | tuple types =>
    apply Agree.bind (documentTypes_bare config config' scope types)
    intro ts ts' hts
    apply Agree.pure
    rw [Model.ConstructorArgs.bare, Model.ConstructorArgs.bare, hts]
  | record labels =>
    apply Agree.bind (documentLabels_bare config config' scope parent labels)
    intro fs fs' hfs
    apply Agree.pure
    rw [Model.ConstructorArgs.bare, Model.ConstructorArgs.bare, hfs]

/-- A written constructor and its bare form agree up to documentation. -/
theorem ConstructorDeclaration.document_bare (d : ConstructorDeclaration) :
  (d.document config scope parent).Agree Model.Constructor.bare
    (d.bare.document config' scope parent)
  := by
  apply Agree.bind (readDoc_agree config config' _ _ _)
  intro doc doc' _
  apply Agree.bind (d.args.document_bare config config' scope _)
  intro as as' has
  apply Agree.bind (documentOption_bare config config' scope d.result)
  intro r r' hr
  apply Agree.pure
  rw [Model.Constructor.bare, Model.Constructor.bare, has, hr]
  rfl

/-- The kind of a written type and its bare form agree up to documentation. -/
theorem TypeKind.document_bare (kind : TypeKind) :
  (kind.document config scope parent).Agree (Option.map Model.Representation.bare)
    (kind.bare.document config' scope parent)
  := by
  cases kind with
  | abstract => apply Agree.refl
  | variant constructors =>
    apply Agree.bind
      (Agree.each (ConstructorDeclaration.document_bare config config' scope parent)
        constructors)
    intro cs cs' hcs
    apply Agree.pure
    rw [Option.map_some, Option.map_some, Model.Representation.bare, Model.Representation.bare,
      hcs]
  | record labels =>
    apply Agree.bind (documentLabels_bare config config' scope parent labels)
    intro fs fs' hfs
    apply Agree.pure
    rw [Option.map_some, Option.map_some, Model.Representation.bare, Model.Representation.bare,
      hfs]
  | extensible => apply Agree.refl

/-- A written type declaration and its bare form agree up to documentation. -/
theorem TypeDeclaration.document_bare (d : TypeDeclaration) :
  (d.document config scope parent).Agree Model.TypeDecl.bare
    (d.bare.document config' scope parent)
  := by
  apply Agree.tell
  apply Agree.bind (readDoc_agree config config' _ _ _)
  intro doc doc' _
  apply Agree.bind (readCanonical_agree doc doc')
  intro canonical canonical' _
  apply Agree.bind (d.documentEquation_bare config config' scope)
  intro e e' he
  apply Agree.bind (d.kind.document_bare config config' scope _)
  intro r r' hr
  apply Agree.pure
  rw [Model.TypeDecl.bare, Model.TypeDecl.bare, he, hr]
  rfl

/-- A written constructor of an extensible type and its bare form agree up to documentation. -/
theorem ExtensionConstructor.document_bare (x : Identifier) (d : ExtensionConstructor) :
  (d.document config scope x).Agree Model.Constructor.bare (d.bare.document config' scope x)
  := by
  rcases d with ⟨ident, kind, loc, attributes⟩
  cases kind with
  | declared args result =>
    apply Agree.bind (args.document_bare config config' scope x)
    intro as as' has
    apply Agree.bind (documentOption_bare config config' scope result)
    intro r r' hr
    apply Agree.bind (readDoc_agree config config' x attributes [])
    intro doc doc' _
    apply Agree.pure
    rw [Model.Constructor.bare, Model.Constructor.bare, has, hr]
  | rebound path => apply Agree.refl

/-- An extension and its bare form agree up to documentation. -/
theorem TypeExtension.document_bare (d : TypeExtension) :
  (d.document config scope parent).Agree Model.Extension.bare
    (d.bare.document config' scope parent)
  := by
  unfold document
  apply Agree.bind_right
  intro typePath
  apply Agree.bind
    (Agree.each
      (fun c => c.document_bare config config' scope (parent.child .extension c.ident.name))
      d.constructors)
  intro cs cs' hcs
  apply Agree.bind (readDoc_agree config config' parent _ _)
  intro doc doc' _
  rw [bare, documentParams_bare]
  apply Agree.bind_right
  intro params
  apply Agree.pure
  rw [Model.Extension.bare, Model.Extension.bare, hcs]

/-! ### Written classes -/

/-- The type of the object itself is left out for the same types. -/
theorem documentSelf_bare (self : CoreType) :
  (documentSelf config scope self).Agree (Option.map Model.TypeExpr.bare)
    (documentSelf config' scope self.bare)
  := by
  cases self with
  | any info => apply Agree.refl
  | _ =>
    apply Agree.bind (CoreType.document_bare config config' scope _)
    intro t t' ht
    apply Agree.pure
    rw [Option.map_some, Option.map_some, ht]

mutual

/-- A written class type and its bare form agree up to documentation. -/
theorem ClassType.document_bare :
  ∀ (owner : Identifier) (type : ClassType),
    (type.document config scope owner).Agree Model.ClassTypeExpr.bare
      (type.bare.document config' scope owner)
  | _, .constr _ p args => by
    rw [ClassType.bare, ClassType.document, ClassType.document]
    apply Agree.bind_right
    intro r
    apply Agree.bind (documentTypes_bare config config' scope args)
    intro ts ts' hts
    apply Agree.pure
    rw [Model.ClassTypeExpr.bare, Model.ClassTypeExpr.bare, hts]
  | owner, .signature _ self fields => by
    rw [ClassType.bare, ClassType.document, ClassType.document]
    apply Agree.bind (documentSelf_bare config config' scope self)
    intro s s' hs
    apply Agree.bind (documentFields_bare owner fields)
    intro items items' hitems
    apply Agree.pure
    rw [Model.ClassTypeExpr.bare, Model.ClassTypeExpr.bare, hs, hitems]
  | _, .arrow _ _ _ _ => by
    rw [ClassType.bare, ClassType.document, ClassType.document]
    apply Agree.refl

/-- The fields of a class and their bare form agree up to documentation: floating comments are left
out. -/
theorem documentFields_bare :
  ∀ (owner : Identifier) (fields : List ClassField),
    (documentFields config scope owner fields).Agree Model.bareClassItems
      (documentFields config' scope owner (bareFields fields))
  | _, [] => by
    rw [bareFields, documentFields, documentFields]
    apply Agree.refl
  | owner, .inherit _ type :: fields => by
    rw [bareFields, documentFields, documentFields]
    apply Agree.bind (type.document_bare owner)
    intro t t' ht
    apply Agree.bind (documentFields_bare owner fields)
    intro items items' hitems
    apply Agree.pure
    rw [Model.bareClassItems, Model.bareClassItems, ht, hitems]
  | owner, .instanceVariable info name _ _ type :: fields => by
    rw [bareFields, documentFields, documentFields]
    apply Agree.bind (readDoc_agree config config' _ _ _)
    intro doc doc' _
    apply Agree.bind (type.document_bare config config' scope)
    intro t t' ht
    apply Agree.bind (documentFields_bare owner fields)
    intro items items' hitems
    apply Agree.pure
    rw [Model.bareClassItems, Model.bareClassItems, Model.InstanceVariable.bare,
      Model.InstanceVariable.bare, ht, hitems]
  | owner, .method info name _ _ type :: fields => by
    rw [bareFields, documentFields, documentFields]
    apply Agree.bind (readDoc_agree config config' _ _ _)
    intro doc doc' _
    apply Agree.bind (type.document_bare config config' scope)
    intro t t' ht
    apply Agree.bind (documentFields_bare owner fields)
    intro items items' hitems
    apply Agree.pure
    rw [Model.bareClassItems, Model.bareClassItems, Model.Method.bare, Model.Method.bare, ht,
      hitems]
  | owner, .constraint _ left right :: fields => by
    rw [bareFields, documentFields, documentFields]
    apply Agree.bind (left.document_bare config config' scope)
    intro l l' hl
    apply Agree.bind (right.document_bare config config' scope)
    intro r r' hr
    apply Agree.bind (documentFields_bare owner fields)
    intro items items' hitems
    apply Agree.pure
    rw [Model.bareClassItems, Model.bareClassItems, Model.TypeConstraint.bare,
      Model.TypeConstraint.bare, hl, hr, hitems]
  | owner, .floating _ a :: fields => by
    rw [bareFields, documentFields]
    apply Agree.skip (Load.outcome_readComments config [a])
    apply Agree.bind_pure (documentFields_bare owner fields)
    intro items
    rw [Model.bareClassItems_append, Model.bareClassItems_comments, List.nil_append]

end

theorem ClassType.documentDecl_bare (owner : Identifier) :
  ∀ type : ClassType,
    (type.documentDecl config scope owner).Agree Model.ClassDecl.bare
      (type.bare.documentDecl config' scope owner)
  | .constr info p args => by
    apply Agree.bind (document_bare config config' scope owner (.constr info p args))
    intro t t' ht
    apply Agree.pure
    rw [Model.ClassDecl.bare, Model.ClassDecl.bare, ht]
  | .signature info self fields => by
    apply Agree.bind (document_bare config config' scope owner (.signature info self fields))
    intro t t' ht
    apply Agree.pure
    rw [Model.ClassDecl.bare, Model.ClassDecl.bare, ht]
  | .arrow _ label arg res => by
    rw [bare, documentDecl, documentDecl]
    apply Agree.bind (arg.document_bare config config' scope)
    intro a a' ha
    apply Agree.bind (res.documentDecl_bare owner)
    intro r r' hr
    apply Agree.pure
    rw [Model.ClassDecl.bare, Model.ClassDecl.bare, ha, hr]

/-- A written class and its bare form agree up to documentation. -/
theorem ClassDeclaration.document_bare (d : ClassDeclaration) :
  (d.document config scope parent).Agree Model.Class.bare
    (d.bare.document config' scope parent)
  := by
  unfold document
  apply Agree.tell
  apply Agree.bind (readDoc_agree config config' _ _ _)
  intro doc doc' _
  rw [bare, documentParams_bare]
  apply Agree.bind_right
  intro params
  apply Agree.bind (d.type.documentDecl_bare config config' scope _)
  intro t t' ht
  apply Agree.pure
  rw [Model.Class.bare, Model.Class.bare, ht]

theorem ClassDeclaration.documentClassType_bare (d : ClassDeclaration) :
  (d.documentClassType config scope parent).Agree Model.ClassType.bare
    (d.bare.documentClassType config' scope parent)
  := by
  unfold documentClassType
  apply Agree.tell
  apply Agree.bind (readDoc_agree config config' _ _ _)
  intro doc doc' _
  rw [bare, documentParams_bare]
  apply Agree.bind_right
  intro params
  apply Agree.bind (d.type.document_bare config config' scope _)
  intro t t' ht
  apply Agree.pure
  rw [Model.ClassType.bare, Model.ClassType.bare, ht]

end Written

end InterfaceDocs
