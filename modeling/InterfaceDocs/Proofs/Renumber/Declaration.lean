import InterfaceDocs.Load.WrittenDeclaration
import InterfaceDocs.Proofs.Renumber.Type

/-!
# Renumbered declarations

Documenting a renumbered value, type, extension or class gives the documentation of the
declaration.
-/

namespace InterfaceDocs

variable (ρ : Renumbering) (config : Config) (scope : Scope) (parent : Identifier)

namespace Compiled

variable (names : VarNames)

/-- A renumbered label is documented like the label. -/
theorem LabelDeclaration.document_renumber (d : LabelDeclaration) :
  (d.renumber ρ).document config (scope.renumber ρ) (names.renumber ρ) parent
    = (d.document config scope names parent).renumber ρ
  := by
  simp only [document, renumber, Ident.renumber_name, TypeExpr.document_renumber,
    Reading.renumber_bind, Reading.renumber_liftM, Reading.renumber_pure, Load.readDoc_renumber]

theorem documentLabels_renumber (labels : List LabelDeclaration) :
  Reading.each (LabelDeclaration.document config (scope.renumber ρ) (names.renumber ρ) parent)
      (labels.map (LabelDeclaration.renumber ρ))
    = (Reading.each (LabelDeclaration.document config scope names parent) labels).renumber ρ
  := Reading.each_renumber ρ (LabelDeclaration.document_renumber ρ config scope parent names)
    labels

/-- The renumbered arguments of a constructor are documented like the arguments. -/
theorem ConstructorArguments.document_renumber (args : ConstructorArguments) :
  (args.renumber ρ).document config (scope.renumber ρ) (names.renumber ρ) parent
    = (args.document config scope names parent).renumber ρ
  := by
  cases args with
  | tuple types =>
    simp only [renumber, document, documentTypes_renumber, Reading.renumber_bind,
      Reading.renumber_liftM, Reading.renumber_pure]
  | record labels =>
    simp only [renumber, document, documentLabels_renumber, Reading.renumber_bind,
      Reading.renumber_pure]

/-- A constructor with renumbered arguments and a renumbered result is documented like the
constructor. -/
theorem documentConstructor_renumber (id : Identifier) (args : ConstructorArguments)
    (result : Option TypeExpr) (attributes : List Attribute) :
  documentConstructor config (scope.renumber ρ) (names.renumber ρ) id (args.renumber ρ)
      (result.map (TypeExpr.renumber ρ)) attributes
    = (documentConstructor config scope names id args result attributes).renumber ρ
  := by
  simp only [documentConstructor, ConstructorArguments.document_renumber,
    documentOption_renumber, Reading.renumber_bind, Reading.renumber_liftM,
    Reading.renumber_pure, Load.readDoc_renumber]

theorem ConstructorDeclaration.document_renumber (d : ConstructorDeclaration) :
  (d.renumber ρ).document config (scope.renumber ρ) (names.renumber ρ) parent
    = (d.document config scope names parent).renumber ρ
  := documentConstructor_renumber ρ config scope names (parent.child .constructor d.ident.name)
    d.args d.result d.attributes

/-- A renumbered kind of a type is documented like the kind. -/
theorem TypeKind.document_renumber (id : Identifier) (kind : TypeKind) :
  (kind.renumber ρ).document config (scope.renumber ρ) (names.renumber ρ) id
    = (kind.document config scope names id).renumber ρ
  := by
  cases kind with
  | abstract => rfl
  | record labels =>
    simp only [renumber, document, documentLabels_renumber, Reading.renumber_bind,
      Reading.renumber_pure]
  | variant constructors =>
    have h := Reading.each_renumber ρ
      (ConstructorDeclaration.document_renumber ρ config scope id names) constructors
    simp only [renumber, document, h, Reading.renumber_bind, Reading.renumber_pure]
  | extensible => rfl

/-! ### Types of a declaration -/

theorem LabelDeclaration.types_renumber (labels : List LabelDeclaration) :
  (labels.map (LabelDeclaration.renumber ρ)).map LabelDeclaration.type
    = (labels.map LabelDeclaration.type).map (TypeExpr.renumber ρ)
  := by
  rw [List.map_map, List.map_map]
  rfl

/-- The types of renumbered arguments are the renumbered types. -/
@[simp]
theorem ConstructorArguments.types_renumber (args : ConstructorArguments) :
  (args.renumber ρ).types = args.types.map (TypeExpr.renumber ρ)
  := by
  cases args with
  | tuple types => apply renumberTypes_eq_map ρ types
  | record labels => apply LabelDeclaration.types_renumber ρ labels

/-- The types of a renumbered kind are the renumbered types. -/
@[simp]
theorem TypeKind.types_renumber (kind : TypeKind) :
  (kind.renumber ρ).types = kind.types.map (TypeExpr.renumber ρ)
  := by
  cases kind with
  | abstract => rfl
  | record labels => apply LabelDeclaration.types_renumber ρ labels
  | variant constructors =>
    simp only [renumber, types, List.flatMap_map, List.map_flatMap]
    congr 1
    funext d
    simp only [ConstructorDeclaration.renumber, ConstructorArguments.types_renumber,
      Option.toList_map, List.map_append]
  | extensible => rfl

/-- The types of a renumbered type declaration are the renumbered types. -/
@[simp]
theorem TypeDeclaration.types_renumber (d : TypeDeclaration) :
  (d.renumber ρ).types = d.types.map (TypeExpr.renumber ρ)
  := by
  simp only [types, renumber, TypeKind.types_renumber, Option.toList_map, List.map_append]

/-- The types of a renumbered constructor are the renumbered types. -/
@[simp]
theorem ExtensionConstructor.types_renumber (d : ExtensionConstructor) :
  (d.renumber ρ).types = d.types.map (TypeExpr.renumber ρ)
  := by
  simp only [types, renumber, ConstructorArguments.types_renumber, Option.toList_map,
    List.map_append]

/-- The types of a renumbered class type are the renumbered types. -/
@[simp]
theorem ClassType.types_renumber (type : ClassType) :
  (type.renumber ρ).types = type.types.map (TypeExpr.renumber ρ)
  := by
  induction type with
  | constr p args => apply renumberTypes_eq_map ρ args
  | signature body =>
    simp only [renumber, types, Option.toList_map, List.map_map, List.map_append]
    rfl
  | arrow label arg res ih => simp only [renumber, types, ih, List.map_cons]

@[simp]
theorem ClassType.isVirtual_renumber (type : ClassType) :
  (type.renumber ρ).isVirtual = type.isVirtual
  := by
  induction type with
  | constr p args => rfl
  | signature body =>
    simp only [renumber, isVirtual, List.any_map]
    rfl
  | arrow label arg res ih => apply ih

/-! ### Documenting declarations -/

/-- A renumbered type declaration is documented like the declaration, with the names of its
renumbered variables. -/
theorem TypeDeclaration.document_renumber (x : Ident) (d : TypeDeclaration) :
  (d.renumber ρ).document config (scope.renumber ρ) parent (x.renumber ρ)
    = (d.document config scope parent x).renumber ρ
  := by
  have hnames : VarNames.collect (d.renumber ρ).types = (VarNames.collect d.types).renumber ρ := by
    rw [types_renumber, VarNames.collect_renumber]
  simp only [document, hnames, Ident.renumber_name, Reading.renumber_bind,
    Reading.renumber_liftM, Reading.renumber_pure, Load.readDoc_renumber,
    Load.readCanonical_renumber]
  simp only [renumber, TypeKind.document_renumber, documentOption_renumber,
    documentParams_renumber]

/-- A renumbered constructor of an extensible type is documented like the constructor. -/
theorem ExtensionConstructor.document_renumber (id : Identifier) (d : ExtensionConstructor) :
  (d.renumber ρ).document config (scope.renumber ρ) id
    = (d.document config scope id).renumber ρ
  := by
  rw [document, types_renumber, VarNames.collect_renumber]
  apply documentConstructor_renumber ρ config scope _ id d.args d.result d.attributes

/-- The extension that a renumbered constructor opens is that of the constructor. -/
theorem ExtensionConstructor.documentHead_renumber (d : ExtensionConstructor)
    (constructors : List Model.Constructor) :
  (d.renumber ρ).documentHead (scope.renumber ρ) constructors
    = Outcome.renumber ρ (d.documentHead scope constructors)
  := by
  simp only [documentHead, types_renumber, VarNames.collect_renumber]
  simp only [renumber, Scope.resolve_renumber, documentParams_renumber, Outcome.renumber_bind,
    Outcome.renumber_pure]

/-- A renumbered value is documented like the value. -/
theorem ValueDescription.document_renumber (x : Ident) (d : ValueDescription) :
  (d.renumber ρ).document config (scope.renumber ρ) parent (x.renumber ρ)
    = (d.document config scope parent x).renumber ρ
  := by
  have hnames := VarNames.collect_renumber ρ [d.type]
  simp only [List.map_cons, List.map_nil] at hnames
  simp only [document, renumber, hnames, Ident.renumber_name, TypeExpr.document_renumber,
    Reading.renumber_bind, Reading.renumber_liftM, Reading.renumber_pure, Load.readDoc_renumber]

/-- Renumbering commutes with documenting a list if it does with documenting the elements. -/
theorem documentEach_renumber {α β : Type} {f f' : α → Except LoadError β} {g : α → α}
    (h : ∀ a, f' (g a) = Outcome.renumber ρ (f a)) (as : List α) :
  documentEach f' (as.map g) = Outcome.renumber ρ (documentEach f as)
  := by
  induction as with
  | nil => rfl
  | cons a as ih =>
    simp only [List.map_cons, documentEach, h, ih, Outcome.renumber_bind, Outcome.renumber_pure]

theorem InstanceVariable.document_renumber (owner : Identifier) (v : InstanceVariable) :
  (v.renumber ρ).document (scope.renumber ρ) (names.renumber ρ) owner
    = Outcome.renumber ρ (v.document scope names owner)
  := by
  simp only [document, renumber, TypeExpr.document_renumber, Outcome.renumber_bind,
    Outcome.renumber_pure]

theorem Method.document_renumber (owner : Identifier) (m : Method) :
  (m.renumber ρ).document (scope.renumber ρ) (names.renumber ρ) owner
    = Outcome.renumber ρ (m.document scope names owner)
  := by
  simp only [document, renumber, TypeExpr.document_renumber, Outcome.renumber_bind,
    Outcome.renumber_pure]

/-- A renumbered class type is documented like the class type. -/
theorem ClassType.document_renumber (owner : Identifier) (type : ClassType) :
  (type.renumber ρ).document (scope.renumber ρ) (names.renumber ρ) owner
    = Outcome.renumber ρ (type.document scope names owner)
  := by
  cases type with
  | constr p args =>
    simp only [renumber, document, Scope.resolve_renumber, documentTypes_renumber,
      Outcome.renumber_bind, Outcome.renumber_pure]
  | signature body =>
    have hvars := documentEach_renumber ρ
      (InstanceVariable.document_renumber ρ scope names owner) body.instanceVariables
    have hmethods := documentEach_renumber ρ
      (Method.document_renumber ρ scope names owner) body.methods
    simp only [renumber, document, hvars, hmethods, documentOption_renumber,
      Outcome.renumber_bind, Outcome.renumber_pure]
  | arrow label arg res => rfl

/-- The renumbered type of a class is documented like the type. -/
theorem ClassType.documentDecl_renumber (owner : Identifier) (type : ClassType) :
  (type.renumber ρ).documentDecl (scope.renumber ρ) (names.renumber ρ) owner
    = Outcome.renumber ρ (type.documentDecl scope names owner)
  := by
  induction type with
  | constr p args =>
    have h := ClassType.document_renumber ρ scope names owner (.constr p args)
    simp only [renumber] at h
    simp only [renumber, documentDecl, h, Outcome.renumber_bind, Outcome.renumber_pure]
  | signature body =>
    have h := ClassType.document_renumber ρ scope names owner (.signature body)
    simp only [renumber] at h
    simp only [renumber, documentDecl, h, Outcome.renumber_bind, Outcome.renumber_pure]
  | arrow label arg res ih =>
    have harg := documentArgument_renumber ρ scope names label
      (TypeExpr.document_renumber ρ scope names arg)
    simp only [renumber, documentDecl, harg, ih, Outcome.renumber_bind, Outcome.renumber_pure]

/-- A renumbered class is documented like the class. -/
theorem ClassDeclaration.document_renumber (x : Ident) (d : ClassDeclaration) :
  (d.renumber ρ).document config (scope.renumber ρ) parent (x.renumber ρ)
    = (d.document config scope parent x).renumber ρ
  := by
  have htypes : (d.renumber ρ).types = d.types.map (TypeExpr.renumber ρ) := by
    simp only [types, renumber, ClassType.types_renumber, List.map_append]
  simp only [document, htypes, VarNames.collect_renumber, Ident.renumber_name,
    Reading.renumber_bind, Reading.renumber_liftM, Reading.renumber_pure, Load.readDoc_renumber]
  simp only [renumber, ClassType.documentDecl_renumber, ClassType.isVirtual_renumber,
    documentParams_renumber]

/-- A renumbered class type declaration is documented like the declaration. -/
theorem ClassTypeDeclaration.document_renumber (x : Ident) (d : ClassTypeDeclaration) :
  (d.renumber ρ).document config (scope.renumber ρ) parent (x.renumber ρ)
    = (d.document config scope parent x).renumber ρ
  := by
  have htypes : (d.renumber ρ).types = d.types.map (TypeExpr.renumber ρ) := by
    simp only [types, renumber, ClassType.types_renumber, List.map_append]
  simp only [document, htypes, VarNames.collect_renumber, Ident.renumber_name,
    Reading.renumber_bind, Reading.renumber_liftM, Reading.renumber_pure, Load.readDoc_renumber]
  simp only [renumber, ClassType.document_renumber, ClassType.isVirtual_renumber,
    documentParams_renumber]

end Compiled

namespace Written

/-- A renumbered written value is documented like the value. -/
theorem ValueDescription.document_renumber (d : ValueDescription) :
  (d.renumber ρ).document config (scope.renumber ρ) parent
    = (d.document config scope parent).renumber ρ
  := by
  simp only [document, renumber, Ident.renumber_name, CoreType.document_renumber,
    Reading.renumber_bind, Reading.renumber_pure, Load.readDoc_renumber]
  rfl

/-- A renumbered type parameter is documented like the parameter, because written parameters are
named. -/
theorem TypeParam.document_renumber (owner : String) (p : TypeParam) :
  (p.renumber ρ).document owner = Outcome.renumber ρ (p.document owner)
  := by
  rcases p with ⟨type, variance, injectivity⟩
  cases type <;> rfl

@[simp]
theorem documentParams_renumber (owner : String) (params : List TypeParam) :
  documentParams owner (params.map (TypeParam.renumber ρ))
    = Outcome.renumber ρ (documentParams owner params)
  := by
  induction params with
  | nil => rfl
  | cons p ps ih =>
    simp only [List.map_cons, documentParams, TypeParam.document_renumber, ih,
      Outcome.renumber_bind, Outcome.renumber_pure]

theorem documentOption_renumber (type : Option CoreType) :
  documentOption config (scope.renumber ρ) (type.map (CoreType.renumber ρ))
    = (documentOption config scope type).renumber ρ
  := Reading.optional_renumber ρ (CoreType.document_renumber ρ config scope) type

theorem TypeConstraint.document_renumber (c : TypeConstraint) :
  (c.renumber ρ).document config (scope.renumber ρ) = (c.document config scope).renumber ρ
  := by
  simp only [document, renumber, CoreType.document_renumber, Reading.renumber_bind,
    Reading.renumber_pure]

/-- The equation of a renumbered type is that of the type. -/
theorem TypeDeclaration.documentEquation_renumber (d : TypeDeclaration) :
  (d.renumber ρ).documentEquation config (scope.renumber ρ)
    = (d.documentEquation config scope).renumber ρ
  := by
  have hconstraints := Reading.each_renumber ρ
    (TypeConstraint.document_renumber ρ config scope) d.constraints
  simp only [documentEquation, renumber, Ident.renumber_name, documentOption_renumber,
    hconstraints, documentParams_renumber, Reading.renumber_bind, Reading.renumber_liftM,
    Reading.renumber_pure]

theorem LabelDeclaration.document_renumber (d : LabelDeclaration) :
  (d.renumber ρ).document config (scope.renumber ρ) parent
    = (d.document config scope parent).renumber ρ
  := by
  simp only [document, renumber, Ident.renumber_name, CoreType.document_renumber,
    Reading.renumber_bind, Reading.renumber_pure, Load.readDoc_renumber]

theorem documentLabels_renumber (labels : List LabelDeclaration) :
  Reading.each (LabelDeclaration.document config (scope.renumber ρ) parent)
      (labels.map (LabelDeclaration.renumber ρ))
    = (Reading.each (LabelDeclaration.document config scope parent) labels).renumber ρ
  := Reading.each_renumber ρ (LabelDeclaration.document_renumber ρ config scope parent) labels

theorem ConstructorArguments.document_renumber (args : ConstructorArguments) :
  (args.renumber ρ).document config (scope.renumber ρ) parent
    = (args.document config scope parent).renumber ρ
  := by
  cases args with
  | tuple types =>
    simp only [renumber, document, documentTypes_renumber, Reading.renumber_bind,
      Reading.renumber_pure]
  | record labels =>
    simp only [renumber, document, documentLabels_renumber, Reading.renumber_bind,
      Reading.renumber_pure]

/-- A renumbered written constructor is documented like the constructor. -/
theorem ConstructorDeclaration.document_renumber (d : ConstructorDeclaration) :
  (d.renumber ρ).document config (scope.renumber ρ) parent
    = (d.document config scope parent).renumber ρ
  := by
  simp only [document, renumber, Ident.renumber_name, ConstructorArguments.document_renumber,
    documentOption_renumber, Reading.renumber_bind, Reading.renumber_pure,
    Load.readDoc_renumber]

/-- A renumbered kind of a written type is documented like the kind. -/
theorem TypeKind.document_renumber (id : Identifier) (kind : TypeKind) :
  (kind.renumber ρ).document config (scope.renumber ρ) id
    = (kind.document config scope id).renumber ρ
  := by
  cases kind with
  | abstract => rfl
  | variant constructors =>
    have h := Reading.each_renumber ρ
      (ConstructorDeclaration.document_renumber ρ config scope id) constructors
    simp only [renumber, document, h, Reading.renumber_bind, Reading.renumber_pure]
  | record labels =>
    simp only [renumber, document, documentLabels_renumber, Reading.renumber_bind,
      Reading.renumber_pure]
  | extensible => rfl

/-- A renumbered written type declaration is documented like the declaration. -/
theorem TypeDeclaration.document_renumber (d : TypeDeclaration) :
  (d.renumber ρ).document config (scope.renumber ρ) parent
    = (d.document config scope parent).renumber ρ
  := by
  simp only [document, documentEquation_renumber, Reading.renumber_bind, Reading.renumber_pure,
    Reading.renumber_tell, Load.readDoc_renumber, Load.readCanonical_renumber]
  simp only [renumber, Ident.renumber_name, TypeKind.document_renumber]

/-- A renumbered written constructor of an extensible type is documented like the constructor. -/
theorem ExtensionConstructor.document_renumber (id : Identifier) (d : ExtensionConstructor) :
  (d.renumber ρ).document config (scope.renumber ρ) id
    = (d.document config scope id).renumber ρ
  := by
  rcases d with ⟨x, kind, loc, attributes⟩
  cases kind with
  | declared args result =>
    simp only [document, renumber, ExtensionKind.renumber,
      ConstructorArguments.document_renumber, documentOption_renumber, Reading.renumber_bind,
      Reading.renumber_pure, Load.readDoc_renumber]
  | rebound path => rfl

/-- A renumbered extension is documented like the extension. -/
theorem TypeExtension.document_renumber (d : TypeExtension) :
  (d.renumber ρ).document config (scope.renumber ρ) parent
    = (d.document config scope parent).renumber ρ
  := by
  have hconstructors :
      Reading.each (fun c => ExtensionConstructor.document config (scope.renumber ρ)
          (parent.child .extension c.ident.name) c)
        (d.constructors.map (ExtensionConstructor.renumber ρ))
      = (Reading.each (fun c => ExtensionConstructor.document config scope
          (parent.child .extension c.ident.name) c) d.constructors).renumber ρ := by
    apply Reading.each_renumber
    intro c
    apply ExtensionConstructor.document_renumber ρ config scope _ c
  simp only [document, renumber, Scope.resolve_renumber, hconstructors, documentParams_renumber,
    Path.renumber_last, Reading.renumber_bind, Reading.renumber_liftM, Reading.renumber_pure,
    Load.readDoc_renumber]

/-- Renumbering makes no type anonymous. -/
theorem CoreType.renumber_eq_any {type : CoreType} {info : NodeInfo} :
  type.renumber ρ = .any info ↔ type = .any info
  := by
  cases type <;> simp [CoreType.renumber]

/-- The type of the object itself is documented unless it is anonymous. -/
theorem documentSelf_of_ne_any {type : CoreType} (h : ∀ info, type ≠ .any info) :
  documentSelf config scope type = do return some (← type.document config scope)
  := by
  unfold documentSelf
  split
  · exact absurd rfl (h _)
  · rfl

/-- The renumbered type of the object itself is documented like the type. -/
theorem documentSelf_renumber (type : CoreType) :
  documentSelf config (scope.renumber ρ) (type.renumber ρ)
    = (documentSelf config scope type).renumber ρ
  := by
  by_cases h : ∃ info, type = .any info
  · obtain ⟨info, rfl⟩ := h
    rfl
  · rw [not_exists] at h
    rw [documentSelf_of_ne_any, documentSelf_of_ne_any config scope h]
    · simp only [CoreType.document_renumber, Reading.renumber_bind, Reading.renumber_pure]
    · intro info hinfo
      apply h info ((CoreType.renumber_eq_any ρ).mp hinfo)

mutual

/-- A renumbered written class type is documented like the class type. -/
theorem ClassType.document_renumber (owner : Identifier) :
  ∀ type : ClassType, (type.renumber ρ).document config (scope.renumber ρ) owner
    = (type.document config scope owner).renumber ρ
  | .constr _ p args => by
    simp only [ClassType.renumber, ClassType.document, Scope.resolve_renumber,
      documentTypes_renumber, Reading.renumber_bind, Reading.renumber_liftM,
      Reading.renumber_pure]
  | .signature _ self fields => by
    simp only [ClassType.renumber, ClassType.document, documentSelf_renumber,
      documentFields_renumber owner fields, Reading.renumber_bind, Reading.renumber_pure]
  | .arrow _ _ _ _ => rfl

/-- The renumbered fields of a class are documented like the fields. -/
theorem documentFields_renumber (owner : Identifier) :
  ∀ fields : List ClassField,
    documentFields config (scope.renumber ρ) owner (renumberFields ρ fields)
      = (documentFields config scope owner fields).renumber ρ
  | [] => rfl
  | .inherit _ type :: fields => by
    simp only [renumberFields, documentFields, ClassType.document_renumber owner type,
      documentFields_renumber owner fields, Reading.renumber_bind, Reading.renumber_pure]
  | .instanceVariable _ _ _ _ type :: fields => by
    simp only [renumberFields, documentFields, CoreType.document_renumber,
      documentFields_renumber owner fields, Reading.renumber_bind, Reading.renumber_pure,
      Load.readDoc_renumber]
  | .method _ _ _ _ type :: fields => by
    simp only [renumberFields, documentFields, CoreType.document_renumber,
      documentFields_renumber owner fields, Reading.renumber_bind, Reading.renumber_pure,
      Load.readDoc_renumber]
  | .constraint _ left right :: fields => by
    simp only [renumberFields, documentFields, CoreType.document_renumber,
      documentFields_renumber owner fields, Reading.renumber_bind, Reading.renumber_pure]
  | .floating _ a :: fields => by
    simp only [renumberFields, documentFields, documentFields_renumber owner fields,
      Reading.renumber_bind, Reading.renumber_pure, Load.readComments_renumber]

end

theorem ClassType.documentDecl_renumber (owner : Identifier) :
  ∀ type : ClassType, (type.renumber ρ).documentDecl config (scope.renumber ρ) owner
    = (type.documentDecl config scope owner).renumber ρ
  | .constr info p args => by
    have h := ClassType.document_renumber ρ config scope owner (.constr info p args)
    simp only [ClassType.renumber] at h
    simp only [ClassType.renumber, documentDecl, h, Reading.renumber_bind,
      Reading.renumber_pure]
  | .signature info self fields => by
    have h := ClassType.document_renumber ρ config scope owner (.signature info self fields)
    simp only [ClassType.renumber] at h
    simp only [ClassType.renumber, documentDecl, h, Reading.renumber_bind,
      Reading.renumber_pure]
  | .arrow _ label arg res => by
    simp only [ClassType.renumber, documentDecl, CoreType.document_renumber,
      documentDecl_renumber owner res, Reading.renumber_bind, Reading.renumber_pure]

/-- A renumbered written class is documented like the class. -/
theorem ClassDeclaration.document_renumber (d : ClassDeclaration) :
  (d.renumber ρ).document config (scope.renumber ρ) parent
    = (d.document config scope parent).renumber ρ
  := by
  simp only [document, renumber, Ident.renumber_name, documentParams_renumber,
    ClassType.documentDecl_renumber, Reading.renumber_bind, Reading.renumber_liftM,
    Reading.renumber_pure, Reading.renumber_tell, Load.readDoc_renumber]

theorem ClassDeclaration.documentClassType_renumber (d : ClassDeclaration) :
  (d.renumber ρ).documentClassType config (scope.renumber ρ) parent
    = (d.documentClassType config scope parent).renumber ρ
  := by
  simp only [documentClassType, renumber, Ident.renumber_name, documentParams_renumber,
    ClassType.document_renumber, Reading.renumber_bind, Reading.renumber_liftM,
    Reading.renumber_pure, Reading.renumber_tell, Load.readDoc_renumber]

end Written

end InterfaceDocs
