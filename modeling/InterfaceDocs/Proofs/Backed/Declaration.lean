import InterfaceDocs.Proofs.Backed.Type

/-!
# References of declarations

In a backed scope, the documentation of values, types, extensions and classes points into the
list that backs the scope.
-/

namespace InterfaceDocs

variable {ids : List Identifier} {config : Config} {scope : Scope} {parent : Identifier}

/-- The items of a class point into a list when each of them does. -/
theorem Model.targetsClassItems_subset {items : List Model.ClassItem}
    (h : ∀ item ∈ items, Model.targetsClassItems [item] ⊆ ids) :
  Model.targetsClassItems items ⊆ ids
  := by
  induction items with
  | nil => simp [Model.targetsClassItems]
  | cons item items ih =>
    rw [← List.singleton_append, Model.targetsClassItems_append, List.append_subset]
    constructor
    · apply h item List.mem_cons_self
    · apply ih
      intro other hother
      apply h other (List.mem_cons_of_mem item hother)

namespace Compiled

variable {names : VarNames}

/-- The references in the documentation of a label point into the list. -/
theorem LabelDeclaration.document_targets (hscope : scope.Backed ids) {d : LabelDeclaration}
    {out : Model.Field} (h : (d.document config scope names parent).outcome = .ok out) :
  out.targets ⊆ ids
  := by
  simp [LabelDeclaration.document] at h
  obtain ⟨type, htype, rfl⟩ := h
  apply TypeExpr.document_targets hscope htype

theorem ConstructorArguments.document_targets (hscope : scope.Backed ids)
    {args : ConstructorArguments} {out : Model.ConstructorArgs}
    (h : (args.document config scope names parent).outcome = .ok out) :
  out.targets ⊆ ids
  := by
  cases args with
  | tuple types =>
    simp [ConstructorArguments.document] at h
    obtain ⟨types', htypes, rfl⟩ := h
    apply documentTypes_targets hscope htypes
  | record labels =>
    simp [ConstructorArguments.document] at h
    obtain ⟨fields, hfields, rfl⟩ := h
    apply flatMap_subset
    intro field hmem
    obtain ⟨d, -, hfield⟩ := Reading.exists_of_mem_each hfields hmem
    apply LabelDeclaration.document_targets hscope hfield

/-- The references in the documentation of a constructor point into the list, those of its arguments
and of its result. -/
theorem documentConstructor_targets (hscope : scope.Backed ids) {id : Identifier}
    {args : ConstructorArguments} {result : Option TypeExpr} {attributes : List Attribute}
    {out : Model.Constructor}
    (h : (documentConstructor config scope names id args result attributes).outcome = .ok out) :
  out.targets ⊆ ids
  := by
  simp [documentConstructor] at h
  obtain ⟨args', hargs, result', hresult, rfl⟩ := h
  simp [Model.Constructor.targets, ConstructorArguments.document_targets hscope hargs,
    documentOption_targets hscope hresult]

/-- The references in the representation of a type point into the list. -/
theorem TypeKind.document_targets (hscope : scope.Backed ids) {id : Identifier} {kind : TypeKind}
    {out : Option Model.Representation}
    (h : (kind.document config scope names id).outcome = .ok out) :
  out.toList.flatMap Model.Representation.targets ⊆ ids
  := by
  cases kind with
  | abstract =>
    obtain rfl := Except.ok.inj h
    simp
  | record labels =>
    simp [TypeKind.document] at h
    obtain ⟨fields, hfields, rfl⟩ := h
    simp only [Option.toList_some, List.flatMap_singleton]
    apply flatMap_subset
    intro field hmem
    obtain ⟨d, -, hfield⟩ := Reading.exists_of_mem_each hfields hmem
    apply LabelDeclaration.document_targets hscope hfield
  | variant constructors =>
    simp [TypeKind.document] at h
    obtain ⟨constructors', hconstructors, rfl⟩ := h
    simp only [Option.toList_some, List.flatMap_singleton]
    apply flatMap_subset
    intro constructor hmem
    obtain ⟨d, -, hconstructor⟩ := Reading.exists_of_mem_each hconstructors hmem
    apply documentConstructor_targets hscope hconstructor
  | extensible =>
    obtain rfl := Except.ok.inj h
    simp [Model.Representation.targets]

/-- The references in the documentation of a type declaration point into the list. -/
theorem TypeDeclaration.document_targets (hscope : scope.Backed ids) {x : Ident}
    {d : TypeDeclaration} {out : Model.TypeDecl}
    (h : (d.document config scope parent x).outcome = .ok out) :
  out.targets ⊆ ids
  := by
  simp [TypeDeclaration.document] at h
  obtain ⟨representation, hrepresentation, manifest, hmanifest, rfl⟩ := h
  simp [Model.TypeDecl.targets, Model.TypeEquation.targets,
    documentOption_targets hscope hmanifest, TypeKind.document_targets hscope hrepresentation]

/-- The path of the type that is extended points into the list. -/
theorem ExtensionConstructor.documentHead_targets (hscope : scope.Backed ids)
    {d : ExtensionConstructor} {constructors : List Model.Constructor} {out : Model.Extension}
    (h : d.documentHead scope constructors = .ok out) :
  out.typePath.targets ⊆ ids
  := by
  simp [ExtensionConstructor.documentHead] at h
  obtain ⟨typePath, htypePath, rfl⟩ := h
  apply hscope.resolve htypePath

/-- The references in the documentation of a value or an external point into the list. -/
theorem ValueDescription.document_targets (hscope : scope.Backed ids) {x : Ident}
    {d : ValueDescription} {out : Model.Item}
    (h : (d.document config scope parent x).outcome = .ok out) :
  out.targets ⊆ ids
  := by
  simp [ValueDescription.document] at h
  obtain ⟨type, htype, rfl⟩ := h
  split
  · apply TypeExpr.document_targets hscope htype
  · apply TypeExpr.document_targets hscope htype

/-- The references in the documentation of a class type point into the list. -/
theorem ClassType.document_targets (hscope : scope.Backed ids) {owner : Identifier}
    {type : ClassType} {out : Model.ClassTypeExpr}
    (h : type.document scope names owner = .ok out) :
  out.targets ⊆ ids
  := by
  cases type with
  | constr p args =>
    simp [ClassType.document] at h
    obtain ⟨r, hr, args', hargs, rfl⟩ := h
    simp [Model.ClassTypeExpr.targets, hscope.resolve hr, documentTypes_targets hscope hargs]
  | signature body =>
    simp [ClassType.document] at h
    obtain ⟨vars, hvars, methods, hmethods, self, hself, rfl⟩ := h
    have hvars' : Model.targetsClassItems vars ⊆ ids := by
      apply Model.targetsClassItems_subset
      intro item hmem
      obtain ⟨v, -, hitem⟩ := exists_of_mem_documentEach hvars hmem
      simp [InstanceVariable.document] at hitem
      obtain ⟨type, htype, rfl⟩ := hitem
      simpa [Model.targetsClassItems] using TypeExpr.document_targets hscope htype
    have hmethods' : Model.targetsClassItems methods ⊆ ids := by
      apply Model.targetsClassItems_subset
      intro item hmem
      obtain ⟨m, -, hitem⟩ := exists_of_mem_documentEach hmethods hmem
      simp [Method.document] at hitem
      obtain ⟨type, htype, rfl⟩ := hitem
      simpa [Model.targetsClassItems] using TypeExpr.document_targets hscope htype
    simp [Model.ClassTypeExpr.targets, Model.targetsClassItems_append, hvars', hmethods',
      documentOption_targets hscope hself]
  | arrow label arg res => cases h

/-- The references in the type of a class point into the list, whatever arguments the class
takes. -/
theorem ClassType.documentDecl_targets (hscope : scope.Backed ids) {owner : Identifier}
    {type : ClassType} {out : Model.ClassDecl}
    (h : type.documentDecl scope names owner = .ok out) :
  out.targets ⊆ ids
  := by
  induction type generalizing out with
  | constr p args =>
    simp [ClassType.documentDecl] at h
    obtain ⟨type, htype, rfl⟩ := h
    apply ClassType.document_targets hscope htype
  | signature body =>
    simp [ClassType.documentDecl] at h
    obtain ⟨type, htype, rfl⟩ := h
    apply ClassType.document_targets hscope htype
  | arrow label arg res ih =>
    simp [ClassType.documentDecl] at h
    obtain ⟨arg', harg, res', hres, rfl⟩ := h
    simp [Model.ClassDecl.targets, documentArgument_targets hscope harg, ih hres]

/-- The references in the documentation of a class point into the list. -/
theorem ClassDeclaration.document_targets (hscope : scope.Backed ids) {x : Ident}
    {d : ClassDeclaration} {out : Model.Class}
    (h : (d.document config scope parent x).outcome = .ok out) :
  out.type.targets ⊆ ids
  := by
  simp [ClassDeclaration.document] at h
  obtain ⟨type, htype, rfl⟩ := h
  apply ClassType.documentDecl_targets hscope htype

/-- The references in the documentation of a class type declaration point into the list. -/
theorem ClassTypeDeclaration.document_targets (hscope : scope.Backed ids) {x : Ident}
    {d : ClassTypeDeclaration} {out : Model.ClassType}
    (h : (d.document config scope parent x).outcome = .ok out) :
  out.type.targets ⊆ ids
  := by
  simp [ClassTypeDeclaration.document] at h
  obtain ⟨type, htype, rfl⟩ := h
  apply ClassType.document_targets hscope htype

end Compiled

namespace Written

theorem ValueDescription.document_targets (hscope : scope.Backed ids) {d : ValueDescription}
    {out : Model.Item} (h : (d.document config scope parent).outcome = .ok out) :
  out.targets ⊆ ids
  := by
  simp [ValueDescription.document] at h
  obtain ⟨type, htype, rfl⟩ := h
  split
  · apply CoreType.document_targets hscope htype
  · apply CoreType.document_targets hscope htype

/-- The references in the equation of a written type point into the list, those of its constraints
too. -/
theorem TypeDeclaration.documentEquation_targets (hscope : scope.Backed ids)
    {d : TypeDeclaration} {out : Model.TypeEquation}
    (h : (d.documentEquation config scope).outcome = .ok out) :
  out.targets ⊆ ids
  := by
  simp [TypeDeclaration.documentEquation] at h
  obtain ⟨manifest, hmanifest, constraints, hconstraints, params, -, rfl⟩ := h
  simp only [Model.TypeEquation.targets, List.append_subset]
  constructor
  · apply documentOption_targets hscope hmanifest
  · apply flatMap_subset
    intro out hmem
    obtain ⟨c, -, hout⟩ := Reading.exists_of_mem_each hconstraints hmem
    simp [TypeConstraint.document] at hout
    obtain ⟨left, hleft, right, hright, rfl⟩ := hout
    simp [Model.TypeConstraint.targets, CoreType.document_targets hscope hleft,
      CoreType.document_targets hscope hright]

theorem LabelDeclaration.document_targets (hscope : scope.Backed ids) {d : LabelDeclaration}
    {out : Model.Field} (h : (d.document config scope parent).outcome = .ok out) :
  out.targets ⊆ ids
  := by
  simp [LabelDeclaration.document] at h
  obtain ⟨type, htype, rfl⟩ := h
  apply CoreType.document_targets hscope htype

theorem ConstructorArguments.document_targets (hscope : scope.Backed ids)
    {args : ConstructorArguments} {out : Model.ConstructorArgs}
    (h : (args.document config scope parent).outcome = .ok out) :
  out.targets ⊆ ids
  := by
  cases args with
  | tuple types =>
    simp [ConstructorArguments.document] at h
    obtain ⟨types', htypes, rfl⟩ := h
    apply documentTypes_targets hscope htypes
  | record labels =>
    simp [ConstructorArguments.document] at h
    obtain ⟨fields, hfields, rfl⟩ := h
    apply flatMap_subset
    intro field hmem
    obtain ⟨d, -, hfield⟩ := Reading.exists_of_mem_each hfields hmem
    apply LabelDeclaration.document_targets hscope hfield

/-- The references in the documentation of a written constructor point into the list. -/
theorem ConstructorDeclaration.document_targets (hscope : scope.Backed ids)
    {d : ConstructorDeclaration} {out : Model.Constructor}
    (h : (d.document config scope parent).outcome = .ok out) :
  out.targets ⊆ ids
  := by
  simp [ConstructorDeclaration.document] at h
  obtain ⟨args, hargs, result, hresult, rfl⟩ := h
  simp [Model.Constructor.targets, ConstructorArguments.document_targets hscope hargs,
    documentOption_targets hscope hresult]

/-- The references in the representation of a written type point into the list. -/
theorem TypeKind.document_targets (hscope : scope.Backed ids) {id : Identifier} {kind : TypeKind}
    {out : Option Model.Representation}
    (h : (kind.document config scope id).outcome = .ok out) :
  out.toList.flatMap Model.Representation.targets ⊆ ids
  := by
  cases kind with
  | abstract =>
    obtain rfl := Except.ok.inj h
    simp
  | variant constructors =>
    simp [TypeKind.document] at h
    obtain ⟨constructors', hconstructors, rfl⟩ := h
    simp only [Option.toList_some, List.flatMap_singleton]
    apply flatMap_subset
    intro constructor hmem
    obtain ⟨d, -, hconstructor⟩ := Reading.exists_of_mem_each hconstructors hmem
    apply ConstructorDeclaration.document_targets hscope hconstructor
  | record labels =>
    simp [TypeKind.document] at h
    obtain ⟨fields, hfields, rfl⟩ := h
    simp only [Option.toList_some, List.flatMap_singleton]
    apply flatMap_subset
    intro field hmem
    obtain ⟨d, -, hfield⟩ := Reading.exists_of_mem_each hfields hmem
    apply LabelDeclaration.document_targets hscope hfield
  | extensible =>
    obtain rfl := Except.ok.inj h
    simp [Model.Representation.targets]

/-- The references in the documentation of a written type declaration point into the list. -/
theorem TypeDeclaration.document_targets (hscope : scope.Backed ids) {d : TypeDeclaration}
    {out : Model.TypeDecl} (h : (d.document config scope parent).outcome = .ok out) :
  out.targets ⊆ ids
  := by
  simp [TypeDeclaration.document] at h
  obtain ⟨equation, hequation, representation, hrepresentation, rfl⟩ := h
  simp [Model.TypeDecl.targets, TypeDeclaration.documentEquation_targets hscope hequation,
    TypeKind.document_targets hscope hrepresentation]

/-- The references in the documentation of a constructor of an extensible type point into the
list. -/
theorem ExtensionConstructor.document_targets (hscope : scope.Backed ids) {id : Identifier}
    {d : ExtensionConstructor} {out : Model.Constructor}
    (h : (d.document config scope id).outcome = .ok out) :
  out.targets ⊆ ids
  := by
  unfold ExtensionConstructor.document at h
  split at h
  · simp at h
    obtain ⟨args, hargs, result, hresult, rfl⟩ := h
    simp [Model.Constructor.targets, ConstructorArguments.document_targets hscope hargs,
      documentOption_targets hscope hresult]
  · cases h

/-- The references in the documentation of an extension point into the list, the path of the
extended type too. -/
theorem TypeExtension.document_targets (hscope : scope.Backed ids) {d : TypeExtension}
    {out : Model.Extension} (h : (d.document config scope parent).outcome = .ok out) :
  out.targets ⊆ ids
  := by
  simp [TypeExtension.document] at h
  obtain ⟨typePath, htypePath, constructors, hconstructors, params, -, rfl⟩ := h
  simp only [Model.Extension.targets, List.append_subset]
  constructor
  · apply hscope.resolve htypePath
  · apply flatMap_subset
    intro out hmem
    obtain ⟨c, -, hout⟩ := Reading.exists_of_mem_each hconstructors hmem
    apply ExtensionConstructor.document_targets hscope hout

/-- The references in the type of the object itself point into the list. -/
theorem documentSelf_targets (hscope : scope.Backed ids) {type : CoreType}
    {out : Option Model.TypeExpr} (h : (documentSelf config scope type).outcome = .ok out) :
  Model.targetsOption out ⊆ ids
  := by
  unfold documentSelf at h
  split at h
  · obtain rfl := Except.ok.inj h
    simp [Model.targetsOption]
  · simp at h
    obtain ⟨type', htype, rfl⟩ := h
    simpa [Model.targetsOption] using CoreType.document_targets hscope htype

mutual

theorem ClassType.document_targets (hscope : scope.Backed ids) {owner : Identifier} :
  ∀ {type : ClassType} {out : Model.ClassTypeExpr},
    (type.document config scope owner).outcome = .ok out → out.targets ⊆ ids
  | .constr _ p args, _, h => by
    simp [ClassType.document] at h
    obtain ⟨r, hr, args', hargs, rfl⟩ := h
    simp [Model.ClassTypeExpr.targets, hscope.resolve hr, documentTypes_targets hscope hargs]
  | .signature _ self fields, _, h => by
    simp [ClassType.document] at h
    obtain ⟨self', hself, items, hitems, rfl⟩ := h
    simp [Model.ClassTypeExpr.targets, documentSelf_targets hscope hself,
      documentFields_targets hscope hitems]
  | .arrow _ _ _ _, _, h => by cases h

/-- The references in the fields of a class point into the list. -/
theorem documentFields_targets (hscope : scope.Backed ids) {owner : Identifier} :
  ∀ {fields : List ClassField} {out : List Model.ClassItem},
    (documentFields config scope owner fields).outcome = .ok out →
      Model.targetsClassItems out ⊆ ids
  | [], _, h => by
    obtain rfl := Except.ok.inj h
    simp [Model.targetsClassItems]
  | .inherit _ type :: fields, _, h => by
    simp [documentFields] at h
    obtain ⟨type', htype, items, hitems, rfl⟩ := h
    simp [Model.targetsClassItems, ClassType.document_targets hscope htype,
      documentFields_targets hscope hitems]
  | .instanceVariable _ _ _ _ type :: fields, _, h => by
    simp [documentFields] at h
    obtain ⟨type', htype, items, hitems, rfl⟩ := h
    simp [Model.targetsClassItems, CoreType.document_targets hscope htype,
      documentFields_targets hscope hitems]
  | .method _ _ _ _ type :: fields, _, h => by
    simp [documentFields] at h
    obtain ⟨type', htype, items, hitems, rfl⟩ := h
    simp [Model.targetsClassItems, CoreType.document_targets hscope htype,
      documentFields_targets hscope hitems]
  | .constraint _ left right :: fields, _, h => by
    simp [documentFields] at h
    obtain ⟨left', hleft, right', hright, items, hitems, rfl⟩ := h
    simp [Model.targetsClassItems, Model.TypeConstraint.targets,
      CoreType.document_targets hscope hleft, CoreType.document_targets hscope hright,
      documentFields_targets hscope hitems]
  | .floating _ a :: fields, _, h => by
    simp [documentFields] at h
    obtain ⟨items, hitems, rfl⟩ := h
    simp [Model.targetsClassItems_append, documentFields_targets hscope hitems]

end

theorem ClassType.documentDecl_targets (hscope : scope.Backed ids) {owner : Identifier} :
  ∀ {type : ClassType} {out : Model.ClassDecl},
    (type.documentDecl config scope owner).outcome = .ok out → out.targets ⊆ ids
  | .constr _ _ _, _, h => by
    simp [ClassType.documentDecl] at h
    obtain ⟨type, htype, rfl⟩ := h
    apply ClassType.document_targets hscope htype
  | .signature _ _ _, _, h => by
    simp [ClassType.documentDecl] at h
    obtain ⟨type, htype, rfl⟩ := h
    apply ClassType.document_targets hscope htype
  | .arrow _ _ arg res, _, h => by
    simp [ClassType.documentDecl] at h
    obtain ⟨arg', harg, res', hres, rfl⟩ := h
    simp [Model.ClassDecl.targets, CoreType.document_targets hscope harg,
      ClassType.documentDecl_targets hscope hres]

theorem ClassDeclaration.document_targets (hscope : scope.Backed ids) {d : ClassDeclaration}
    {out : Model.Class} (h : (d.document config scope parent).outcome = .ok out) :
  out.type.targets ⊆ ids
  := by
  simp [ClassDeclaration.document] at h
  obtain ⟨params, -, type, htype, rfl⟩ := h
  apply ClassType.documentDecl_targets hscope htype

theorem ClassDeclaration.documentClassType_targets (hscope : scope.Backed ids)
    {d : ClassDeclaration} {out : Model.ClassType}
    (h : (d.documentClassType config scope parent).outcome = .ok out) :
  out.type.targets ⊆ ids
  := by
  simp [ClassDeclaration.documentClassType] at h
  obtain ⟨params, -, type, htype, rfl⟩ := h
  apply ClassType.document_targets hscope htype

end Written

end InterfaceDocs
