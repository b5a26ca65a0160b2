import InterfaceDocs.Load.WrittenDeclaration
import InterfaceDocs.Proofs.Visit.Type

/-!
# Visits to declarations

Documenting a value, a type, an extension or a class gives a value exactly when the visits to
the declaration are sound.
-/

namespace InterfaceDocs

variable {env : List Ident} {scope : Scope} {config : Config} {parent : Identifier}

namespace Compiled

variable {names : VarNames}

theorem LabelDeclaration.isOk_document (h : scope.Binds env) (d : LabelDeclaration) :
  Outcome.IsOk (d.document config scope names parent).outcome ↔ AllSound (d.visits env)
  := by
  simp [document, visits, TypeExpr.isOk_document h]

/-- The arguments of a constructor are documented exactly when the visits to them are sound. -/
theorem ConstructorArguments.isOk_document (h : scope.Binds env) (args : ConstructorArguments) :
  Outcome.IsOk (args.document config scope names parent).outcome ↔ AllSound (args.visits env)
  := by
  cases args with
  | tuple types => simp [document, visits, isOk_documentTypes h]
  | record labels =>
    simp [document, visits, Reading.isOk_each_iff (LabelDeclaration.isOk_document h)]

/-- A constructor is documented exactly when the visits to its arguments and its result are
sound. -/
theorem isOk_documentConstructor (h : scope.Binds env) {id : Identifier}
    {args : ConstructorArguments} {result : Option TypeExpr} {attributes : List Attribute} :
  Outcome.IsOk (documentConstructor config scope names id args result attributes).outcome ↔
    AllSound (visitsConstructor env args result)
  := by
  simp [documentConstructor, visitsConstructor, ConstructorArguments.isOk_document h,
    isOk_documentOption h]

/-- The kind of a type is documented exactly when the visits to it are sound. -/
theorem TypeKind.isOk_document (h : scope.Binds env) {id : Identifier} (kind : TypeKind) :
  Outcome.IsOk (kind.document config scope names id).outcome ↔ AllSound (kind.visits env)
  := by
  cases kind with
  | abstract => simp [document, visits]
  | record labels =>
    simp [document, visits, Reading.isOk_each_iff (LabelDeclaration.isOk_document h)]
  | variant constructors =>
    have hconstructor : ∀ d : ConstructorDeclaration,
        Outcome.IsOk (d.document config scope names id).outcome ↔ AllSound (d.visits env) := by
      intro d
      apply isOk_documentConstructor h
    simp [document, visits, Reading.isOk_each_iff hconstructor]
  | extensible => simp [document, visits]

/-- A type declaration is documented exactly when the visits to it are sound. -/
theorem TypeDeclaration.isOk_document (h : scope.Binds env) (x : Ident) (d : TypeDeclaration) :
  Outcome.IsOk (d.document config scope parent x).outcome ↔ AllSound (d.visits env)
  := by
  simp [document, visits, TypeKind.isOk_document h, isOk_documentOption h]

theorem ExtensionConstructor.isOk_document (h : scope.Binds env) {id : Identifier}
    (d : ExtensionConstructor) :
  Outcome.IsOk (d.document config scope id).outcome ↔ AllSound (d.visits env)
  := isOk_documentConstructor h

/-- An extension is opened exactly when the identifiers in the path of its type are bound. -/
theorem ExtensionConstructor.isOk_documentHead (h : scope.Binds env)
    {constructors : List Model.Constructor} (d : ExtensionConstructor) :
  Outcome.IsOk (d.documentHead scope constructors) ↔
    ∀ x ∈ d.typePath.idents, x.IsBound env
  := by
  simp [documentHead, h.isOk_resolve]

/-- A value is documented exactly when the visits to its type are sound. -/
theorem ValueDescription.isOk_document (h : scope.Binds env) (x : Ident)
    (d : ValueDescription) :
  Outcome.IsOk (d.document config scope parent x).outcome ↔ AllSound (d.visits env)
  := by
  simp [document, visits, TypeExpr.isOk_document h]

/-- A list is documented exactly when the visits to its elements are sound, if this is so for each
element. -/
theorem isOk_documentEach {α β : Type} {f : α → Except LoadError β} {visits : α → List Visit}
    (h : ∀ a, Outcome.IsOk (f a) ↔ AllSound (visits a)) {as : List α} :
  Outcome.IsOk (documentEach f as) ↔ AllSound (as.flatMap visits)
  := by
  induction as with
  | nil => simp [documentEach]
  | cons a as ih => simp [documentEach, h, ih]

/-- A class type is documented exactly when the visits to it are sound; an arrow is a defect. -/
theorem ClassType.isOk_document (h : scope.Binds env) {owner : Identifier} (type : ClassType) :
  Outcome.IsOk (type.document scope names owner) ↔ AllSound (type.visits env)
  := by
  cases type with
  | constr p args => simp [document, visits, h.isOk_resolve, isOk_documentTypes h]
  | signature body =>
    have hvar : ∀ v : InstanceVariable,
        Outcome.IsOk (v.document scope names owner) ↔ AllSound (v.type.visits env) := by
      intro v
      simp [InstanceVariable.document, TypeExpr.isOk_document h]
    have hmethod : ∀ m : Method,
        Outcome.IsOk (m.document scope names owner) ↔ AllSound (m.type.visits env) := by
      intro m
      simp [Method.document, TypeExpr.isOk_document h]
    simp [document, visits, isOk_documentEach hvar, isOk_documentEach hmethod,
      isOk_documentOption h]
  | arrow label arg res => simp [document, visits]

/-- The type of a class is documented exactly when the visits to it are sound. -/
theorem ClassType.isOk_documentDecl (h : scope.Binds env) {owner : Identifier}
    (type : ClassType) :
  Outcome.IsOk (type.documentDecl scope names owner) ↔ AllSound (type.visitsDecl env)
  := by
  induction type with
  | constr p args => simp [documentDecl, visitsDecl, ClassType.isOk_document h]
  | signature body => simp [documentDecl, visitsDecl, ClassType.isOk_document h]
  | arrow label arg res ih =>
    simp [documentDecl, visitsDecl, isOk_documentArgument, TypeExpr.isOk_document h, ih]

/-- A class is documented exactly when the visits to its type are sound. -/
theorem ClassDeclaration.isOk_document (h : scope.Binds env) (x : Ident)
    (d : ClassDeclaration) :
  Outcome.IsOk (d.document config scope parent x).outcome ↔ AllSound (d.type.visitsDecl env)
  := by
  simp [document, ClassType.isOk_documentDecl h]

/-- A class type declaration is documented exactly when the visits to its type are sound. -/
theorem ClassTypeDeclaration.isOk_document (h : scope.Binds env) (x : Ident)
    (d : ClassTypeDeclaration) :
  Outcome.IsOk (d.document config scope parent x).outcome ↔ AllSound (d.type.visits env)
  := by
  simp [document, ClassType.isOk_document h]

end Compiled

namespace Written

/-- A written value is documented exactly when the visits to its type are sound. -/
theorem ValueDescription.isOk_document (h : scope.Binds env) (d : ValueDescription) :
  Outcome.IsOk (d.document config scope parent).outcome ↔ AllSound (d.type.visits env)
  := by
  simp [document, CoreType.isOk_document h]

/-- A type parameter is documented exactly when it is a variable or anonymous. -/
theorem TypeParam.isOk_document {owner : String} (p : TypeParam) :
  Outcome.IsOk (p.document owner) ↔ AllSound p.visits
  := by
  rcases p with ⟨type, variance, injectivity⟩
  cases type <;> simp [document, visits]

theorem isOk_documentParams {owner : String} {params : List TypeParam} :
  Outcome.IsOk (documentParams owner params) ↔ AllSound (params.flatMap TypeParam.visits)
  := by
  induction params with
  | nil => simp [documentParams]
  | cons p ps ih => simp [documentParams, TypeParam.isOk_document, ih]

theorem isOk_documentOption (h : scope.Binds env) {type : Option CoreType} :
  Outcome.IsOk (documentOption config scope type).outcome ↔ AllSound (visitsOption env type)
  := Reading.isOk_optional_iff (CoreType.isOk_document h)

theorem TypeConstraint.isOk_document (h : scope.Binds env) (c : TypeConstraint) :
  Outcome.IsOk (c.document config scope).outcome ↔ AllSound (c.visits env)
  := by
  simp [document, visits, CoreType.isOk_document h]

/-- The equation of a type is documented exactly when the visits to its parts are sound. -/
theorem TypeDeclaration.isOk_documentEquation (h : scope.Binds env) (d : TypeDeclaration) :
  Outcome.IsOk (d.documentEquation config scope).outcome ↔ AllSound (d.visitsEquation env)
  := by
  simp [documentEquation, visitsEquation, isOk_documentOption h,
    Reading.isOk_each_iff (TypeConstraint.isOk_document h), isOk_documentParams]

theorem LabelDeclaration.isOk_document (h : scope.Binds env) (d : LabelDeclaration) :
  Outcome.IsOk (d.document config scope parent).outcome ↔ AllSound (d.visits env)
  := by
  simp [document, visits, CoreType.isOk_document h]

theorem ConstructorArguments.isOk_document (h : scope.Binds env) (args : ConstructorArguments) :
  Outcome.IsOk (args.document config scope parent).outcome ↔ AllSound (args.visits env)
  := by
  cases args with
  | tuple types => simp [document, visits, isOk_documentTypes h]
  | record labels =>
    simp [document, visits, Reading.isOk_each_iff (LabelDeclaration.isOk_document h)]

theorem ConstructorDeclaration.isOk_document (h : scope.Binds env)
    (d : ConstructorDeclaration) :
  Outcome.IsOk (d.document config scope parent).outcome ↔ AllSound (d.visits env)
  := by
  simp [document, visits, ConstructorArguments.isOk_document h, isOk_documentOption h]

/-- The kind of a written type is documented exactly when the visits to it are sound. -/
theorem TypeKind.isOk_document (h : scope.Binds env) {id : Identifier} (kind : TypeKind) :
  Outcome.IsOk (kind.document config scope id).outcome ↔ AllSound (kind.visits env)
  := by
  cases kind with
  | abstract => simp [document, visits]
  | variant constructors =>
    simp [document, visits, Reading.isOk_each_iff (ConstructorDeclaration.isOk_document h)]
  | record labels =>
    simp [document, visits, Reading.isOk_each_iff (LabelDeclaration.isOk_document h)]
  | extensible => simp [document, visits]

/-- A written type declaration is documented exactly when the visits to it are sound. -/
theorem TypeDeclaration.isOk_document (h : scope.Binds env) (d : TypeDeclaration) :
  Outcome.IsOk (d.document config scope parent).outcome ↔ AllSound (d.visits env)
  := by
  simp [document, visits, TypeDeclaration.isOk_documentEquation h, TypeKind.isOk_document h]

/-- A written constructor is documented exactly when it is declared and the visits to it are
sound. -/
theorem ExtensionConstructor.isOk_document (h : scope.Binds env) {id : Identifier}
    (d : ExtensionConstructor) :
  Outcome.IsOk (d.document config scope id).outcome ↔ AllSound (d.visits env)
  := by
  rcases d with ⟨x, kind, loc, attributes⟩
  cases kind with
  | declared args result =>
    simp [document, visits, ConstructorArguments.isOk_document h, isOk_documentOption h]
  | rebound path => simp [document, visits]

/-- An extension is documented exactly when the visits to it are sound. -/
theorem TypeExtension.isOk_document (h : scope.Binds env) (d : TypeExtension) :
  Outcome.IsOk (d.document config scope parent).outcome ↔ AllSound (d.visits env)
  := by
  have hconstructors : Outcome.IsOk (Reading.each (fun c =>
      ExtensionConstructor.document config scope (parent.child .extension c.ident.name) c)
      d.constructors).outcome ↔
        AllSound (d.constructors.flatMap (ExtensionConstructor.visits env)) := by
    apply Reading.isOk_each_iff
    intro c
    apply ExtensionConstructor.isOk_document h c
  simp [document, visits, h.isOk_resolve, hconstructors, isOk_documentParams]

/-- The type of the object itself is documented exactly when the visits to it are sound. -/
theorem isOk_documentSelf (h : scope.Binds env) {type : CoreType} :
  Outcome.IsOk (documentSelf config scope type).outcome ↔ AllSound (type.visits env)
  := by
  unfold documentSelf
  split
  · simp [CoreType.visits]
  · simp [CoreType.isOk_document h]

mutual

/-- A written class type is documented exactly when the visits to it are sound. -/
theorem ClassType.isOk_document (h : scope.Binds env) {owner : Identifier} :
  ∀ type : ClassType,
    Outcome.IsOk (type.document config scope owner).outcome ↔ AllSound (type.visits env)
  | .constr _ p args => by
    simp [ClassType.document, ClassType.visits, h.isOk_resolve, isOk_documentTypes h]
  | .signature _ self fields => by
    simp [ClassType.document, ClassType.visits, isOk_documentSelf h, isOk_documentFields h fields]
  | .arrow _ _ _ _ => by simp [ClassType.document, ClassType.visits]

/-- The fields of a class are documented exactly when the visits to them are sound. -/
theorem isOk_documentFields (h : scope.Binds env) {owner : Identifier} :
  ∀ fields : List ClassField,
    Outcome.IsOk (documentFields config scope owner fields).outcome ↔
      AllSound (visitsFields env fields)
  | [] => by simp [documentFields, visitsFields]
  | .inherit _ type :: fields => by
    simp [documentFields, visitsFields, ClassType.isOk_document h type,
      isOk_documentFields h fields]
  | .instanceVariable _ _ _ _ type :: fields => by
    simp [documentFields, visitsFields, CoreType.isOk_document h, isOk_documentFields h fields]
  | .method _ _ _ _ type :: fields => by
    simp [documentFields, visitsFields, CoreType.isOk_document h, isOk_documentFields h fields]
  | .constraint _ left right :: fields => by
    simp [documentFields, visitsFields, CoreType.isOk_document h, isOk_documentFields h fields]
  | .floating _ a :: fields => by
    simp [documentFields, visitsFields, isOk_documentFields h fields]

end

theorem ClassType.isOk_documentDecl (h : scope.Binds env) {owner : Identifier} :
  ∀ type : ClassType,
    Outcome.IsOk (type.documentDecl config scope owner).outcome ↔ AllSound (type.visitsDecl env)
  | .constr _ p args => by simp [documentDecl, visitsDecl, ClassType.isOk_document h]
  | .signature _ self fields => by simp [documentDecl, visitsDecl, ClassType.isOk_document h]
  | .arrow _ label arg res => by
    simp [documentDecl, visitsDecl, CoreType.isOk_document h, ClassType.isOk_documentDecl h res]

/-- A written class is documented exactly when the visits to it are sound. -/
theorem ClassDeclaration.isOk_document (h : scope.Binds env) (d : ClassDeclaration) :
  Outcome.IsOk (d.document config scope parent).outcome ↔ AllSound (d.visits env)
  := by
  simp [document, visits, isOk_documentParams, ClassType.isOk_documentDecl h]

theorem ClassDeclaration.isOk_documentClassType (h : scope.Binds env) (d : ClassDeclaration) :
  Outcome.IsOk (d.documentClassType config scope parent).outcome ↔
    AllSound (d.visitsClassType env)
  := by
  simp [documentClassType, visitsClassType, isOk_documentParams, ClassType.isOk_document h]

end Written

end InterfaceDocs
