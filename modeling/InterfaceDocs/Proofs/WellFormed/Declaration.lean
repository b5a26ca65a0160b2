import InterfaceDocs.Proofs.WellFormed.Type

/-!
# Well-formed declarations

In a rooted scope and under a rooted parent, the documentation of values, types, extensions and
classes is well formed.
-/

namespace InterfaceDocs

variable {root : Identifier} {config : Config} {scope : Scope} {parent : Identifier}

/-! ### Compiled declarations -/

namespace Compiled

variable {names : VarNames}

/-- The documentation of a label is well formed: the field is named under the owner of the
record. -/
theorem LabelDeclaration.document_wellFormed (hscope : scope.Rooted root)
    (hparent : parent.Rooted root) {d : LabelDeclaration} {out : Model.Field}
    (h : (d.document config scope names parent).outcome = .ok out) :
  out.WellFormed root
  := by
  simp [LabelDeclaration.document] at h
  obtain ⟨type, htype, rfl⟩ := h
  use hparent.child .field rfl d.ident.name, TypeExpr.document_wellFormed hscope htype

/-- The documentation of the arguments of a constructor is well formed. -/
theorem ConstructorArguments.document_wellFormed (hscope : scope.Rooted root)
    (hparent : parent.Rooted root) {args : ConstructorArguments} {out : Model.ConstructorArgs}
    (h : (args.document config scope names parent).outcome = .ok out) :
  out.WellFormed root
  := by
  cases args with
  | tuple types =>
    simp [ConstructorArguments.document] at h
    obtain ⟨types', htypes, rfl⟩ := h
    constructor
    apply documentTypes_wellFormed hscope htypes
  | record labels =>
    simp [ConstructorArguments.document] at h
    obtain ⟨fields, hfields, rfl⟩ := h
    apply Model.ConstructorArgs.WellFormed.record
    intro field hmem
    obtain ⟨d, -, hfield⟩ := Reading.exists_of_mem_each hfields hmem
    apply LabelDeclaration.document_wellFormed hscope hparent hfield

/-- A constructor with a rooted identifier has well-formed documentation. -/
theorem documentConstructor_wellFormed (hscope : scope.Rooted root) {id : Identifier}
    (hid : id.Rooted root) {args : ConstructorArguments} {result : Option TypeExpr}
    {attributes : List Attribute} {out : Model.Constructor}
    (h : (documentConstructor config scope names id args result attributes).outcome = .ok out) :
  out.WellFormed root
  := by
  simp [documentConstructor] at h
  obtain ⟨args', hargs, result', hresult, rfl⟩ := h
  constructor
  · apply hid
  · apply ConstructorArguments.document_wellFormed hscope hid hargs
  · apply documentOption_wellFormed hscope hresult

/-- The representation of a type, if it has one, is well formed. -/
theorem TypeKind.document_wellFormed (hscope : scope.Rooted root) {id : Identifier}
    (hid : id.Rooted root) {kind : TypeKind} {out : Option Model.Representation}
    (h : (kind.document config scope names id).outcome = .ok out) :
  ∀ r ∈ out, r.WellFormed root
  := by
  cases kind with
  | abstract =>
    obtain rfl := Except.ok.inj h
    simp
  | record labels =>
    simp [TypeKind.document] at h
    obtain ⟨fields, hfields, rfl⟩ := h
    rintro _ ⟨⟩
    apply Model.Representation.WellFormed.record
    intro field hmem
    obtain ⟨d, -, hfield⟩ := Reading.exists_of_mem_each hfields hmem
    apply LabelDeclaration.document_wellFormed hscope hid hfield
  | variant constructors =>
    simp [TypeKind.document] at h
    obtain ⟨constructors', hconstructors, rfl⟩ := h
    rintro _ ⟨⟩
    apply Model.Representation.WellFormed.variant
    intro c hmem
    obtain ⟨d, -, hc⟩ := Reading.exists_of_mem_each hconstructors hmem
    apply documentConstructor_wellFormed hscope (hid.child .constructor rfl d.ident.name) hc
  | extensible =>
    obtain rfl := Except.ok.inj h
    rintro _ ⟨⟩
    apply Model.Representation.WellFormed.extensible

/-- The documentation of a type declaration is well formed; it has no constraints. -/
theorem TypeDeclaration.document_wellFormed (hscope : scope.Rooted root)
    (hparent : parent.Rooted root) {x : Ident} {d : TypeDeclaration} {out : Model.TypeDecl}
    (h : (d.document config scope parent x).outcome = .ok out) :
  out.WellFormed root
  := by
  simp [TypeDeclaration.document] at h
  obtain ⟨representation, hrepresentation, manifest, hmanifest, rfl⟩ := h
  have hid := hparent.child .type rfl x.name
  constructor
  · apply hid
  · rfl
  · use documentOption_wellFormed hscope hmanifest, by simp
  · apply TypeKind.document_wellFormed hscope hid hrepresentation

/-- The path of the type that is extended points at rooted identifiers. -/
theorem ExtensionConstructor.documentHead_rooted (hscope : scope.Rooted root)
    {d : ExtensionConstructor} {constructors : List Model.Constructor} {out : Model.Extension}
    (h : d.documentHead scope constructors = .ok out) :
  out.typePath.Rooted root
  := by
  simp [ExtensionConstructor.documentHead] at h
  obtain ⟨typePath, htypePath, rfl⟩ := h
  apply hscope.resolve htypePath

theorem ValueDescription.document_wellFormed (hscope : scope.Rooted root)
    (hparent : parent.Rooted root) {owner : Identifier} {x : Ident} {d : ValueDescription}
    {out : Model.Item} (h : (d.document config scope parent x).outcome = .ok out) :
  out.WellFormed config root owner
  := by
  simp [ValueDescription.document] at h
  obtain ⟨type, htype, rfl⟩ := h
  have hid := hparent.child .value rfl x.name
  have htype' := TypeExpr.document_wellFormed hscope htype
  split
  · constructor
    · apply hid
    · apply htype'
  · constructor
    · apply hid
    · apply htype'

/-- The documentation of a class type is well formed; its members are named under its owner. -/
theorem ClassType.document_wellFormed (hscope : scope.Rooted root) {owner : Identifier}
    (howner : owner.Rooted root) {type : ClassType} {out : Model.ClassTypeExpr}
    (h : type.document scope names owner = .ok out) :
  out.WellFormed root
  := by
  cases type with
  | constr p args =>
    simp [ClassType.document] at h
    obtain ⟨r, hr, args', hargs, rfl⟩ := h
    constructor
    · apply hscope.resolve hr
    · apply documentTypes_wellFormed hscope hargs
  | signature body =>
    simp [ClassType.document] at h
    obtain ⟨vars, hvars, methods, hmethods, self, hself, rfl⟩ := h
    apply Model.ClassTypeExpr.WellFormed.signature
    · apply documentOption_wellFormed hscope hself
    · rw [List.forall_mem_append]
      constructor
      · intro item hmem
        obtain ⟨v, -, hitem⟩ := exists_of_mem_documentEach hvars hmem
        simp [InstanceVariable.document] at hitem
        obtain ⟨type, htype, rfl⟩ := hitem
        constructor
        · apply howner.child .instanceVariable rfl v.name
        · apply TypeExpr.document_wellFormed hscope htype
      · intro item hmem
        obtain ⟨m, -, hitem⟩ := exists_of_mem_documentEach hmethods hmem
        simp [Method.document] at hitem
        obtain ⟨type, htype, rfl⟩ := hitem
        constructor
        · apply howner.child .method rfl m.name
        · apply TypeExpr.document_wellFormed hscope htype
  | arrow label arg res => cases h

/-- The documentation of the type of a class is well formed, whatever arguments the class takes. -/
theorem ClassType.documentDecl_wellFormed (hscope : scope.Rooted root) {owner : Identifier}
    (howner : owner.Rooted root) {type : ClassType} {out : Model.ClassDecl}
    (h : type.documentDecl scope names owner = .ok out) :
  out.WellFormed root
  := by
  induction type generalizing out with
  | constr p args =>
    simp [ClassType.documentDecl] at h
    obtain ⟨type, htype, rfl⟩ := h
    constructor
    apply ClassType.document_wellFormed hscope howner htype
  | signature body =>
    simp [ClassType.documentDecl] at h
    obtain ⟨type, htype, rfl⟩ := h
    constructor
    apply ClassType.document_wellFormed hscope howner htype
  | arrow label arg res ih =>
    simp [ClassType.documentDecl] at h
    obtain ⟨arg', harg, res', hres, rfl⟩ := h
    apply Model.ClassDecl.WellFormed.arrow
    · apply documentArgument_wellFormed (fun _ => TypeExpr.document_wellFormed hscope) harg
    · apply ih hres

/-- The documentation of a class is well formed. -/
theorem ClassDeclaration.document_wellFormed (hscope : scope.Rooted root)
    (hparent : parent.Rooted root) {x : Ident} {d : ClassDeclaration} {out : Model.Class}
    (h : (d.document config scope parent x).outcome = .ok out) :
  out.WellFormed root
  := by
  simp [ClassDeclaration.document] at h
  obtain ⟨type, htype, rfl⟩ := h
  have hid := hparent.child .classDef rfl x.name
  use hid, ClassType.documentDecl_wellFormed hscope hid htype

/-- The documentation of a class type declaration is well formed. -/
theorem ClassTypeDeclaration.document_wellFormed (hscope : scope.Rooted root)
    (hparent : parent.Rooted root) {x : Ident} {d : ClassTypeDeclaration}
    {out : Model.ClassType} (h : (d.document config scope parent x).outcome = .ok out) :
  out.WellFormed root
  := by
  simp [ClassTypeDeclaration.document] at h
  obtain ⟨type, htype, rfl⟩ := h
  have hid := hparent.child .classType rfl x.name
  use hid, ClassType.document_wellFormed hscope hid htype

end Compiled

/-! ### Written declarations -/

namespace Written

/-- The documentation of a written value or external is well formed. -/
theorem ValueDescription.document_wellFormed (hscope : scope.Rooted root)
    (hparent : parent.Rooted root) {owner : Identifier} {d : ValueDescription}
    {out : Model.Item} (h : (d.document config scope parent).outcome = .ok out) :
  out.WellFormed config root owner
  := by
  simp [ValueDescription.document] at h
  obtain ⟨type, htype, rfl⟩ := h
  have hid := hparent.child .value rfl d.ident.name
  have htype' := CoreType.document_wellFormed hscope htype
  split
  · constructor
    · apply hid
    · apply htype'
  · constructor
    · apply hid
    · apply htype'

/-- The equation of a written type is well formed, with its constraints. -/
theorem TypeDeclaration.documentEquation_wellFormed (hscope : scope.Rooted root)
    {d : TypeDeclaration} {out : Model.TypeEquation}
    (h : (d.documentEquation config scope).outcome = .ok out) :
  out.WellFormed root
  := by
  simp [TypeDeclaration.documentEquation] at h
  obtain ⟨manifest, hmanifest, constraints, hconstraints, params, -, rfl⟩ := h
  constructor
  · apply documentOption_wellFormed hscope hmanifest
  · intro out hmem
    obtain ⟨c, -, hout⟩ := Reading.exists_of_mem_each hconstraints hmem
    simp [TypeConstraint.document] at hout
    obtain ⟨left, hleft, right, hright, rfl⟩ := hout
    use CoreType.document_wellFormed hscope hleft, CoreType.document_wellFormed hscope hright

/-- The documentation of a written label is well formed. -/
theorem LabelDeclaration.document_wellFormed (hscope : scope.Rooted root)
    (hparent : parent.Rooted root) {d : LabelDeclaration} {out : Model.Field}
    (h : (d.document config scope parent).outcome = .ok out) :
  out.WellFormed root
  := by
  simp [LabelDeclaration.document] at h
  obtain ⟨type, htype, rfl⟩ := h
  use hparent.child .field rfl d.ident.name, CoreType.document_wellFormed hscope htype

theorem ConstructorArguments.document_wellFormed (hscope : scope.Rooted root)
    (hparent : parent.Rooted root) {args : ConstructorArguments} {out : Model.ConstructorArgs}
    (h : (args.document config scope parent).outcome = .ok out) :
  out.WellFormed root
  := by
  cases args with
  | tuple types =>
    simp [ConstructorArguments.document] at h
    obtain ⟨types', htypes, rfl⟩ := h
    constructor
    apply documentTypes_wellFormed hscope htypes
  | record labels =>
    simp [ConstructorArguments.document] at h
    obtain ⟨fields, hfields, rfl⟩ := h
    apply Model.ConstructorArgs.WellFormed.record
    intro field hmem
    obtain ⟨d, -, hfield⟩ := Reading.exists_of_mem_each hfields hmem
    apply LabelDeclaration.document_wellFormed hscope hparent hfield

/-- The documentation of a written constructor is well formed. -/
theorem ConstructorDeclaration.document_wellFormed (hscope : scope.Rooted root)
    (hparent : parent.Rooted root) {d : ConstructorDeclaration} {out : Model.Constructor}
    (h : (d.document config scope parent).outcome = .ok out) :
  out.WellFormed root
  := by
  simp [ConstructorDeclaration.document] at h
  obtain ⟨args, hargs, result, hresult, rfl⟩ := h
  have hid := hparent.child .constructor rfl d.ident.name
  constructor
  · apply hid
  · apply ConstructorArguments.document_wellFormed hscope hid hargs
  · apply documentOption_wellFormed hscope hresult

/-- The representation of a written type, if it has one, is well formed. -/
theorem TypeKind.document_wellFormed (hscope : scope.Rooted root) {id : Identifier}
    (hid : id.Rooted root) {kind : TypeKind} {out : Option Model.Representation}
    (h : (kind.document config scope id).outcome = .ok out) :
  ∀ r ∈ out, r.WellFormed root
  := by
  cases kind with
  | abstract =>
    obtain rfl := Except.ok.inj h
    simp
  | variant constructors =>
    simp [TypeKind.document] at h
    obtain ⟨constructors', hconstructors, rfl⟩ := h
    rintro _ ⟨⟩
    apply Model.Representation.WellFormed.variant
    intro c hmem
    obtain ⟨d, -, hc⟩ := Reading.exists_of_mem_each hconstructors hmem
    apply ConstructorDeclaration.document_wellFormed hscope hid hc
  | record labels =>
    simp [TypeKind.document] at h
    obtain ⟨fields, hfields, rfl⟩ := h
    rintro _ ⟨⟩
    apply Model.Representation.WellFormed.record
    intro field hmem
    obtain ⟨d, -, hfield⟩ := Reading.exists_of_mem_each hfields hmem
    apply LabelDeclaration.document_wellFormed hscope hid hfield
  | extensible =>
    obtain rfl := Except.ok.inj h
    rintro _ ⟨⟩
    apply Model.Representation.WellFormed.extensible

/-- The documentation of a written type declaration is well formed. -/
theorem TypeDeclaration.document_wellFormed (hscope : scope.Rooted root)
    (hparent : parent.Rooted root) {d : TypeDeclaration} {out : Model.TypeDecl}
    (h : (d.document config scope parent).outcome = .ok out) :
  out.WellFormed root
  := by
  simp [TypeDeclaration.document] at h
  obtain ⟨equation, hequation, representation, hrepresentation, rfl⟩ := h
  have hid := hparent.child .type rfl d.ident.name
  constructor
  · apply hid
  · rfl
  · apply TypeDeclaration.documentEquation_wellFormed hscope hequation
  · apply TypeKind.document_wellFormed hscope hid hrepresentation

/-- The documentation of a declared constructor of an extensible type is well formed; a rebound one
is an error. -/
theorem ExtensionConstructor.document_wellFormed (hscope : scope.Rooted root)
    {id : Identifier} (hid : id.Rooted root) {d : ExtensionConstructor}
    {out : Model.Constructor} (h : (d.document config scope id).outcome = .ok out) :
  out.WellFormed root
  := by
  unfold ExtensionConstructor.document at h
  split at h
  · simp at h
    obtain ⟨args, hargs, result, hresult, rfl⟩ := h
    constructor
    · apply hid
    · apply ConstructorArguments.document_wellFormed hscope hid hargs
    · apply documentOption_wellFormed hscope hresult
  · cases h

/-- The documentation of an extension is well formed: its constructors are named under the parent of
the extension. -/
theorem TypeExtension.document_wellFormed (hscope : scope.Rooted root)
    (hparent : parent.Rooted root) {d : TypeExtension} {out : Model.Extension}
    (h : (d.document config scope parent).outcome = .ok out) :
  out.WellFormed root
  := by
  simp [TypeExtension.document] at h
  obtain ⟨typePath, htypePath, constructors, hconstructors, params, -, rfl⟩ := h
  constructor
  · apply hscope.resolve htypePath
  · intro out hmem
    obtain ⟨c, -, hout⟩ := Reading.exists_of_mem_each hconstructors hmem
    have hid := hparent.child .extension rfl c.ident.name
    apply ExtensionConstructor.document_wellFormed hscope hid hout

/-- The type of the object itself, if it is given, is well formed. -/
theorem documentSelf_wellFormed (hscope : scope.Rooted root) {type : CoreType}
    {out : Option Model.TypeExpr} (h : (documentSelf config scope type).outcome = .ok out) :
  ∀ type ∈ out, type.WellFormed root
  := by
  unfold documentSelf at h
  split at h
  · obtain rfl := Except.ok.inj h
    simp
  · simp at h
    obtain ⟨type', htype, rfl⟩ := h
    simpa using CoreType.document_wellFormed hscope htype

mutual

/-- The documentation of a written class type is well formed. -/
theorem ClassType.document_wellFormed (hscope : scope.Rooted root) {owner : Identifier}
    (howner : owner.Rooted root) :
  ∀ {type : ClassType} {out : Model.ClassTypeExpr},
    (type.document config scope owner).outcome = .ok out → out.WellFormed root
  | .constr _ p args, _, h => by
    simp [ClassType.document] at h
    obtain ⟨r, hr, args', hargs, rfl⟩ := h
    constructor
    · apply hscope.resolve hr
    · apply documentTypes_wellFormed hscope hargs
  | .signature _ self fields, _, h => by
    simp [ClassType.document] at h
    obtain ⟨self', hself, items, hitems, rfl⟩ := h
    constructor
    · apply documentSelf_wellFormed hscope hself
    · apply documentFields_wellFormed hscope howner hitems
  | .arrow _ _ _ _, _, h => by cases h

/-- The documentation of the fields of a class is well formed, and so are the comments among
them. -/
theorem documentFields_wellFormed (hscope : scope.Rooted root) {owner : Identifier}
    (howner : owner.Rooted root) :
  ∀ {fields : List ClassField} {out : List Model.ClassItem},
    (documentFields config scope owner fields).outcome = .ok out →
      ∀ item ∈ out, item.WellFormed root
  | [], _, h => by
    obtain rfl := Except.ok.inj h
    simp
  | .inherit _ type :: fields, _, h => by
    simp [documentFields] at h
    obtain ⟨type', htype, items, hitems, rfl⟩ := h
    rw [List.forall_mem_cons]
    constructor
    · constructor
      apply ClassType.document_wellFormed hscope howner htype
    · apply documentFields_wellFormed hscope howner hitems
  | .instanceVariable _ name _ _ type :: fields, _, h => by
    simp [documentFields] at h
    obtain ⟨type', htype, items, hitems, rfl⟩ := h
    rw [List.forall_mem_cons]
    constructor
    · constructor
      · apply howner.child .instanceVariable rfl name
      · apply CoreType.document_wellFormed hscope htype
    · apply documentFields_wellFormed hscope howner hitems
  | .method _ name _ _ type :: fields, _, h => by
    simp [documentFields] at h
    obtain ⟨type', htype, items, hitems, rfl⟩ := h
    rw [List.forall_mem_cons]
    constructor
    · constructor
      · apply howner.child .method rfl name
      · apply CoreType.document_wellFormed hscope htype
    · apply documentFields_wellFormed hscope howner hitems
  | .constraint _ left right :: fields, _, h => by
    simp [documentFields] at h
    obtain ⟨left', hleft, right', hright, items, hitems, rfl⟩ := h
    rw [List.forall_mem_cons]
    constructor
    · constructor
      use CoreType.document_wellFormed hscope hleft, CoreType.document_wellFormed hscope hright
    · apply documentFields_wellFormed hscope howner hitems
  | .floating _ a :: fields, _, h => by
    simp [documentFields] at h
    obtain ⟨items, hitems, rfl⟩ := h
    rw [List.forall_mem_append]
    constructor
    · intro item hitem
      obtain ⟨c, -, rfl⟩ := List.mem_map.mp hitem
      apply Model.ClassItem.WellFormed.comment
    · apply documentFields_wellFormed hscope howner hitems

end

theorem ClassType.documentDecl_wellFormed (hscope : scope.Rooted root) {owner : Identifier}
    (howner : owner.Rooted root) :
  ∀ {type : ClassType} {out : Model.ClassDecl},
    (type.documentDecl config scope owner).outcome = .ok out → out.WellFormed root
  | .arrow _ label arg res, _, h => by
    simp [ClassType.documentDecl] at h
    obtain ⟨arg', harg, res', hres, rfl⟩ := h
    apply Model.ClassDecl.WellFormed.arrow
    · apply CoreType.document_wellFormed hscope harg
    · apply ClassType.documentDecl_wellFormed hscope howner hres
  | .constr _ _ _, _, h => by
    simp [ClassType.documentDecl] at h
    obtain ⟨type, htype, rfl⟩ := h
    constructor
    apply ClassType.document_wellFormed hscope howner htype
  | .signature _ _ _, _, h => by
    simp [ClassType.documentDecl] at h
    obtain ⟨type, htype, rfl⟩ := h
    constructor
    apply ClassType.document_wellFormed hscope howner htype

theorem ClassDeclaration.document_wellFormed (hscope : scope.Rooted root)
    (hparent : parent.Rooted root) {d : ClassDeclaration} {out : Model.Class}
    (h : (d.document config scope parent).outcome = .ok out) :
  out.WellFormed root
  := by
  simp [ClassDeclaration.document] at h
  obtain ⟨params, -, type, htype, rfl⟩ := h
  have hid := hparent.child .classDef rfl d.classIdent.name
  use hid, ClassType.documentDecl_wellFormed hscope hid htype

theorem ClassDeclaration.documentClassType_wellFormed (hscope : scope.Rooted root)
    (hparent : parent.Rooted root) {d : ClassDeclaration} {out : Model.ClassType}
    (h : (d.documentClassType config scope parent).outcome = .ok out) :
  out.WellFormed root
  := by
  simp [ClassDeclaration.documentClassType] at h
  obtain ⟨params, -, type, htype, rfl⟩ := h
  have hid := hparent.child .classType rfl d.classTypeIdent.name
  use hid, ClassType.document_wellFormed hscope hid htype

end Written

end InterfaceDocs
