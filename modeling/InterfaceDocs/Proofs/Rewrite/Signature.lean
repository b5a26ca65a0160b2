import InterfaceDocs.Load.Interface
import InterfaceDocs.Proofs.Rewrite.Tree

/-!
# Documenting rewritten signatures

Types are not looked at when a signature is bound, so a rewritten signature binds the same
identifiers with the same shapes (`Scope.bindWritten_rewrite`).  Its declarations are documented
alike, because their types are, and the whole load is the same (`Model.Interface.load_rewrite`).
-/

namespace InterfaceDocs

/-! ### Binding -/

namespace Scope

variable (r : Written.TypeRewriting)

/-- A rewritten clause removes the same member. -/
theorem removedMember_rewrite (clause : Written.WithClause) :
  removedMember (clause.rewrite r) = removedMember clause
  := by
  rcases clause with ⟨⟨name, loc⟩, constraint⟩
  cases constraint with
  | typeEq d => rfl
  | moduleEq p => rfl
  | typeSubst d => cases name <;> rfl
  | moduleSubst p => cases name <;> rfl

/-- The scope of a rewritten recursive group is the same. -/
theorem bindGroup_rewrite (parent : Identifier) (scope : Scope)
    (ds : List Written.ModuleDeclaration) :
  bindGroup parent scope (Written.rewriteModules r ds) = bindGroup parent scope ds
  := by
  induction ds generalizing scope with
  | nil => rfl
  | cons d ds ih =>
    rcases d with ⟨x, type, attributes, loc⟩
    apply ih (scope.add x (parent.child .module x.name) .unknown)

mutual

/-- The shape of a rewritten module type. -/
theorem writtenShape_rewrite :
  ∀ (scope : Scope) (parent : Identifier) (type : Written.ModuleType),
    scope.writtenShape parent (type.rewrite r) = scope.writtenShape parent type
  | _, _, .path _ _ => rfl
  | scope, parent, .signature _ items => by
    rw [Written.ModuleType.rewrite, writtenShape, bindWrittenItems_rewrite, writtenShape]
  | _, _, .functor _ .unit _ => rfl
  | _, _, .functor _ (.named _ _) _ => rfl
  | scope, parent, .constrained _ body clauses => by
    have hremoved : removedMember ∘ Written.WithClause.rewrite r = removedMember := by
      funext clause
      apply removedMember_rewrite
    rw [Written.ModuleType.rewrite, writtenShape, writtenShape_rewrite, List.filterMap_map,
      hremoved, writtenShape]
  | _, _, .typeOf _ _ => rfl
  | _, _, .alias _ _ => rfl

/-- Rewritten items bind the same. -/
theorem bindWrittenItems_rewrite :
  ∀ (parent : Identifier) (b : Bound) (items : List Written.SignatureItem),
    bindWrittenItems parent b (Written.rewriteItems r items) = bindWrittenItems parent b items
  | _, _, [] => rfl
  | parent, b, item :: items => by
    rw [Written.rewriteItems, bindWrittenItems, bindWrittenItem_rewrite,
      bindWrittenItems_rewrite, bindWrittenItems]

theorem bindWrittenItem_rewrite :
  ∀ (parent : Identifier) (b : Bound) (item : Written.SignatureItem),
    bindWrittenItem parent b (item.rewrite r) = bindWrittenItem parent b item
  | _, _, .value _ _ => rfl
  | _, _, .type _ _ _ => List.foldl_map
  | _, _, .typeSubst _ _ => List.foldl_map
  | _, _, .extension _ _ => rfl
  | _, _, .exception _ _ => rfl
  | parent, b, .module _ ⟨x, type, _, _⟩ => by
    rw [Written.SignatureItem.rewrite, Written.ModuleDeclaration.rewrite, bindWrittenItem,
      writtenShape_rewrite, bindWrittenItem]
  | _, _, .moduleSubst _ _ => rfl
  | parent, b, .recModule _ ds => by
    rw [Written.SignatureItem.rewrite, bindWrittenItem, bindGroup_rewrite,
      bindWrittenModules_rewrite, bindWrittenItem]
  | parent, b, .moduleType _ ⟨x, some type, _, _⟩ => by
    rw [Written.SignatureItem.rewrite, bindWrittenItem, writtenShape_rewrite, bindWrittenItem]
  | _, _, .moduleType _ ⟨_, none, _, _⟩ => rfl
  | _, _, .opened _ _ => rfl
  | _, _, .included _ ⟨_, _, _, _⟩ => rfl
  | _, _, .class _ _ => List.foldl_map
  | _, _, .classType _ _ => List.foldl_map
  | _, _, .floating _ _ => rfl

theorem bindWrittenModules_rewrite :
  ∀ (parent : Identifier) (group : Scope) (b : Bound) (ds : List Written.ModuleDeclaration),
    bindWrittenModules parent group b (Written.rewriteModules r ds)
      = bindWrittenModules parent group b ds
  | _, _, _, [] => rfl
  | parent, group, b, ⟨x, type, _, _⟩ :: ds => by
    rw [Written.rewriteModules, Written.ModuleDeclaration.rewrite, bindWrittenModules,
      writtenShape_rewrite, bindWrittenModules_rewrite, bindWrittenModules]

end

/-- A rewritten signature binds the same. -/
theorem bindWritten_rewrite (scope : Scope) (parent : Identifier) (items : Written.Signature) :
  scope.bindWritten parent (Written.rewriteItems r items) = scope.bindWritten parent items
  := bindWrittenItems_rewrite r parent ⟨scope, []⟩ items

/-- The subject of the constraints on a rewritten module type. -/
theorem subjectOf_rewrite (scope : Scope) (owner : Identifier) :
  ∀ type : Written.ModuleType,
    scope.subjectOf owner (type.rewrite r) = scope.subjectOf owner type
  | .path _ _ => rfl
  | .signature info items =>
    congrArg (Subject.mk (some owner))
      (writtenShape_rewrite r scope owner (.signature info items))
  | .functor _ .unit _ => rfl
  | .functor _ (.named _ _) _ => rfl
  | .constrained _ body _ => subjectOf_rewrite scope owner body
  | .typeOf _ _ => rfl
  | .alias _ _ => rfl

end Scope

/-! ### Declarations -/

/-- The readings of rewritten elements are those of the elements if each of them is. -/
theorem Reading.each_map {α β γ : Type} {f : β → Reading γ} {f' : α → Reading γ} {g : α → β}
    (h : ∀ a, f (g a) = f' a) (as : List α) :
  Reading.each f (as.map g) = Reading.each f' as
  := by
  induction as with
  | nil => rfl
  | cons a as ih => rw [List.map_cons, Reading.each, Reading.each, h, ih]

namespace Written

variable (r : TypeRewriting) (config : Config) (scope : Scope)

/-- Rewritten types are documented alike. -/
theorem documentTypes_map (types : List CoreType) :
  documentTypes config scope (types.map r.type) = documentTypes config scope types
  := by
  induction types with
  | nil => rfl
  | cons type types ih =>
    rw [List.map_cons, documentTypes, documentTypes, r.document_type, ih]

/-- An optional type that is changed to one documented alike is documented alike. -/
theorem documentOption_map {f : CoreType → CoreType}
    (hf : ∀ t, (f t).document config scope = t.document config scope) (type : Option CoreType) :
  documentOption config scope (type.map f) = documentOption config scope type
  := by
  cases type with
  | none => rfl
  | some type =>
    rw [Option.map_some, documentOption, Reading.optional, Reading.optional, hf]

/-- Rewritten type parameters are documented alike. -/
theorem documentParams_map (owner : String) (ps : List TypeParam) :
  documentParams owner (ps.map (TypeParam.rewrite r)) = documentParams owner ps
  := by
  induction ps with
  | nil => rfl
  | cons p ps ih =>
    rw [List.map_cons, documentParams, documentParams, TypeParam.rewrite, r.document_param, ih]

/-- A rewritten value is documented alike. -/
theorem ValueDescription.document_rewrite (parent : Identifier) (d : ValueDescription) :
  (d.rewrite r).document config scope parent = d.document config scope parent
  := by
  rw [document, rewrite, r.document_type]
  rfl

theorem TypeConstraint.document_rewrite (c : TypeConstraint) :
  (c.rewrite r).document config scope = c.document config scope
  := by
  rw [document, rewrite, r.document_type, r.document_type]
  rfl

theorem LabelDeclaration.document_rewrite (parent : Identifier) (d : LabelDeclaration) :
  (d.rewrite r).document config scope parent = d.document config scope parent
  := by
  rw [document, rewrite, r.document_type]
  rfl

theorem ConstructorArguments.document_rewrite (parent : Identifier)
    (args : ConstructorArguments) :
  (args.rewrite r).document config scope parent = args.document config scope parent
  := by
  cases args with
  | tuple types => rw [rewrite, document, document, documentTypes_map]
  | record labels =>
    rw [rewrite, document, document,
      Reading.each_map (LabelDeclaration.document_rewrite r config scope parent)]

/-- A rewritten constructor is documented alike. -/
theorem ConstructorDeclaration.document_rewrite (parent : Identifier)
    (d : ConstructorDeclaration) :
  (d.rewrite r).document config scope parent = d.document config scope parent
  := by
  rw [document, rewrite, ConstructorArguments.document_rewrite,
    documentOption_map config scope (r.document_type config scope)]
  rfl

/-- A rewritten kind of a type is documented alike. -/
theorem TypeKind.document_rewrite (id : Identifier) (kind : TypeKind) :
  (kind.rewrite r).document config scope id = kind.document config scope id
  := by
  cases kind with
  | abstract => rfl
  | variant constructors =>
    rw [rewrite, document, document,
      Reading.each_map (ConstructorDeclaration.document_rewrite r config scope id)]
  | record labels =>
    rw [rewrite, document, document,
      Reading.each_map (LabelDeclaration.document_rewrite r config scope id)]
  | extensible => rfl

/-- The equation of a rewritten type is the same if its manifest is documented alike. -/
theorem TypeDeclaration.documentEquation_rewriteWith {manifest : CoreType → CoreType}
    (h : ∀ t, (manifest t).document config scope = t.document config scope)
    (d : TypeDeclaration) :
  (d.rewriteWith r manifest).documentEquation config scope = d.documentEquation config scope
  := by
  rw [documentEquation, rewriteWith, documentOption_map config scope h,
    Reading.each_map (TypeConstraint.document_rewrite r config scope), documentParams_map]
  rfl

/-- A rewritten type declaration is documented alike. -/
theorem TypeDeclaration.document_rewrite (parent : Identifier) (d : TypeDeclaration) :
  (d.rewrite r).document config scope parent = d.document config scope parent
  := by
  rw [document, rewrite, documentEquation_rewriteWith r config scope (r.document_type config scope),
    rewriteWith, TypeKind.document_rewrite]
  rfl

/-- A rewritten constructor of an extensible type is documented alike. -/
theorem ExtensionConstructor.document_rewrite (id : Identifier) (d : ExtensionConstructor) :
  (d.rewrite r).document config scope id = d.document config scope id
  := by
  rcases d with ⟨x, ⟨args, result⟩ | path, loc, attributes⟩
  · simp only [document, rewrite, ExtensionKind.rewrite, ConstructorArguments.document_rewrite,
      documentOption_map config scope (r.document_type config scope)]
  · rfl

/-- A rewritten extension is documented alike. -/
theorem TypeExtension.document_rewrite (parent : Identifier) (d : TypeExtension) :
  (d.rewrite r).document config scope parent = d.document config scope parent
  := by
  have hconstructors (c : ExtensionConstructor) :
      (c.rewrite r).document config scope (parent.child .extension (c.rewrite r).ident.name)
        = c.document config scope (parent.child .extension c.ident.name) :=
    c.document_rewrite r config scope _
  rw [document, rewrite, Reading.each_map hconstructors, documentParams_map]
  rfl

mutual

/-- A rewritten class type is documented alike. -/
theorem ClassType.document_rewrite (owner : Identifier) :
  ∀ type : ClassType,
    (type.rewrite r).document config scope owner = type.document config scope owner
  | .constr _ p args => by
    rw [ClassType.rewrite, ClassType.document, documentTypes_map, ClassType.document]
  | .signature _ self fields => by
    rw [ClassType.rewrite, ClassType.document, r.document_self, documentFields_rewrite,
      ClassType.document]
  | .arrow _ _ _ _ => by
    rw [ClassType.rewrite, ClassType.document, ClassType.document]

/-- The rewritten fields of a class are documented alike. -/
theorem documentFields_rewrite (owner : Identifier) :
  ∀ fields : List ClassField,
    documentFields config scope owner (rewriteFields r fields)
      = documentFields config scope owner fields
  | [] => by rw [rewriteFields]
  | .inherit _ type :: fields => by
    rw [rewriteFields, documentFields, documentFields, type.document_rewrite,
      documentFields_rewrite]
  | .instanceVariable _ _ _ _ _ :: fields => by
    rw [rewriteFields, documentFields, documentFields, r.document_type, documentFields_rewrite]
  | .method _ _ _ _ _ :: fields => by
    rw [rewriteFields, documentFields, documentFields, r.document_type, documentFields_rewrite]
  | .constraint _ _ _ :: fields => by
    rw [rewriteFields, documentFields, documentFields, r.document_type, r.document_type,
      documentFields_rewrite]
  | .floating _ _ :: fields => by
    rw [rewriteFields, documentFields, documentFields, documentFields_rewrite]

end

theorem ClassType.documentDecl_rewrite (owner : Identifier) :
  ∀ type : ClassType,
    (type.rewrite r).documentDecl config scope owner = type.documentDecl config scope owner
  | .arrow _ _ arg res => by
    rw [rewrite, documentDecl, documentDecl, r.document_type, documentDecl_rewrite owner res]
  | .constr info p args => by
    have h := ClassType.document_rewrite r config scope owner (.constr info p args)
    rw [rewrite] at h ⊢
    rw [documentDecl, h, documentDecl] <;> simp
  | .signature info self fields => by
    have h := ClassType.document_rewrite r config scope owner (.signature info self fields)
    rw [rewrite] at h ⊢
    rw [documentDecl, h, documentDecl] <;> simp

/-- A rewritten class is documented alike. -/
theorem ClassDeclaration.document_rewrite (parent : Identifier) (d : ClassDeclaration) :
  (d.rewrite r).document config scope parent = d.document config scope parent
  := by
  rw [document, rewrite, documentParams_map, ClassType.documentDecl_rewrite]
  rfl

theorem ClassDeclaration.documentClassType_rewrite (parent : Identifier)
    (d : ClassDeclaration) :
  (d.rewrite r).documentClassType config scope parent = d.documentClassType config scope parent
  := by
  rw [documentClassType, rewrite, documentParams_map, ClassType.document_rewrite]
  rfl

/-! ### Signatures -/

/-- Groups are documented alike if their members are, with the same comments. -/
theorem documentGroup_map {α : Type} {attributes : α → List Attribute}
    {document : Model.RecFlag → α → Reading Model.Item} {g : α → α}
    (hattributes : ∀ a, attributes (g a) = attributes a)
    (hdocument : ∀ flag a, document flag (g a) = document flag a) (as : List α)
    (flag : Model.RecFlag) :
  documentGroup config attributes document flag (as.map g)
    = documentGroup config attributes document flag as
  := by
  induction as generalizing flag with
  | nil => rfl
  | cons a as ih =>
    rw [List.map_cons, documentGroup, documentGroup, hattributes, hdocument, ih]

/-- A rewritten clause is documented alike. -/
theorem WithClause.document_rewrite (subject : Subject) (c : WithClause) :
  (c.rewrite r).document config scope subject = c.document config scope subject
  := by
  rcases c with ⟨name, constraint⟩
  cases constraint with
  | typeEq d =>
    have hequation := d.documentEquation_rewriteWith r config scope (r.document_type config scope)
    simp only [document, rewrite, WithConstraint.rewrite, TypeDeclaration.rewrite, hequation]
  | moduleEq p => rfl
  | typeSubst d =>
    have hequation :=
      d.documentEquation_rewriteWith r config scope (r.document_manifest config scope)
    have hmanifest : (d.rewriteWith r r.manifest).manifest = d.manifest.map r.manifest := rfl
    simp only [document, rewrite, WithConstraint.rewrite, hmanifest, hequation]
    cases d.manifest with
    | none => rfl
    | some manifest => simp only [Option.map_some, r.documentHead_manifest]
  | moduleSubst p => rfl

mutual

/-- A rewritten module type is documented as the module type. -/
theorem ModuleType.document_rewrite :
  ∀ (scope : Scope) (owner : Identifier) (type : ModuleType),
    (type.rewrite r).document config scope owner = type.document config scope owner
  | _, _, .path _ _ => by
    rw [ModuleType.rewrite]
  | scope, owner, .signature _ items => by
    rw [ModuleType.rewrite, ModuleType.document, ModuleType.document, length_rewriteItems,
      Scope.bindWritten_rewrite, documentItems_rewrite]
  | scope, owner, .functor _ .unit result => by
    rw [ModuleType.rewrite, ModuleType.document, ModuleType.document, result.document_rewrite]
  | scope, owner, .functor _ (.named x arg) result => by
    simp only [ModuleType.rewrite, ModuleType.document, arg.document_rewrite,
      Scope.writtenShape_rewrite, result.document_rewrite, ModuleType.isSignature_rewrite]
  | scope, owner, .constrained _ body clauses => by
    have hclauses := Reading.each_map
      (WithClause.document_rewrite r config scope (scope.subjectOf owner body)) clauses
    simp only [ModuleType.rewrite, ModuleType.document, body.document_rewrite,
      Scope.subjectOf_rewrite, hclauses]
  | _, _, .typeOf _ _ => by
    rw [ModuleType.rewrite]
  | _, _, .alias _ _ => by
    rw [ModuleType.rewrite]

/-- Rewritten items are documented alike. -/
theorem documentItems_rewrite :
  ∀ (scope : Scope) (parent : Identifier) (items : List SignatureItem),
    documentItems config scope parent (rewriteItems r items)
      = documentItems config scope parent items
  | _, _, [] => by
    rw [rewriteItems]
  | scope, parent, item :: items => by
    rw [rewriteItems, documentItems, documentItems, item.document_rewrite,
      documentItems_rewrite scope parent items]

/-- A rewritten item is documented alike. -/
theorem SignatureItem.document_rewrite :
  ∀ (scope : Scope) (parent : Identifier) (item : SignatureItem),
    (item.rewrite r).document config scope parent = item.document config scope parent
  | scope, parent, .value _ d => by
    rw [SignatureItem.rewrite, SignatureItem.document, SignatureItem.document,
      d.document_rewrite, ValueDescription.rewrite]
  | scope, parent, .type _ flag ds => by
    rw [SignatureItem.rewrite, SignatureItem.document, SignatureItem.document,
      documentGroup_map]
    · intro d
      rfl
    · intro flag d
      rw [TypeDeclaration.documentItem, TypeDeclaration.documentItem, d.document_rewrite]
  | scope, parent, .typeSubst _ ds => by
    rw [SignatureItem.rewrite, SignatureItem.document, SignatureItem.document,
      documentGroup_map]
    · intro d
      rfl
    · intro flag d
      rw [TypeDeclaration.documentSubstitution, TypeDeclaration.documentSubstitution,
        d.document_rewrite]
  | scope, parent, .extension _ d => by
    rw [SignatureItem.rewrite, SignatureItem.document, SignatureItem.document,
      d.document_rewrite, TypeExtension.rewrite]
  | scope, parent, .exception _ d => by
    rw [SignatureItem.rewrite, SignatureItem.document, SignatureItem.document,
      ExtensionConstructor.documentException, d.document_rewrite, ExtensionConstructor.rewrite,
      ExtensionConstructor.documentException]
  | scope, parent, .module _ d => by
    rw [SignatureItem.rewrite, SignatureItem.document, SignatureItem.document,
      d.document_rewrite]
  | _, _, .moduleSubst _ _ => by
    rw [SignatureItem.rewrite]
  | scope, parent, .recModule _ ds => by
    rw [SignatureItem.rewrite, SignatureItem.document, SignatureItem.document,
      documentModules_rewrite]
  | scope, parent, .moduleType _ ⟨x, some type, attributes, _⟩ => by
    rw [SignatureItem.rewrite, SignatureItem.document, SignatureItem.document]
    simp only [type.document_rewrite, Option.any_some, ModuleType.isSignature_rewrite]
  | _, _, .moduleType _ ⟨_, none, _, _⟩ => by
    rw [SignatureItem.rewrite]
  | _, _, .opened _ _ => by
    rw [SignatureItem.rewrite]
  | scope, parent, .included _ ⟨type, content, _, attributes⟩ => by
    rw [SignatureItem.rewrite, SignatureItem.document, SignatureItem.document,
      type.document_rewrite]
  | scope, parent, .class _ ds => by
    rw [SignatureItem.rewrite, SignatureItem.document, SignatureItem.document,
      documentGroup_map]
    · intro d
      rfl
    · intro flag d
      rw [ClassDeclaration.documentItem, ClassDeclaration.documentItem, d.document_rewrite]
  | scope, parent, .classType _ ds => by
    rw [SignatureItem.rewrite, SignatureItem.document, SignatureItem.document,
      documentGroup_map]
    · intro d
      rfl
    · intro flag d
      rw [ClassDeclaration.documentClassTypeItem, ClassDeclaration.documentClassTypeItem,
        d.documentClassType_rewrite]
  | _, _, .floating _ _ => by
    rw [SignatureItem.rewrite]

theorem documentModules_rewrite :
  ∀ (scope : Scope) (parent : Identifier) (flag : Model.RecFlag) (ds : List ModuleDeclaration),
    documentModules config scope parent flag (rewriteModules r ds)
      = documentModules config scope parent flag ds
  | _, _, _, [] => by
    rw [rewriteModules]
  | scope, parent, flag, d :: ds => by
    rw [rewriteModules, documentModules, documentModules, d.document_rewrite,
      documentModules_rewrite scope parent .subsequent ds]

theorem ModuleDeclaration.document_rewrite :
  ∀ (scope : Scope) (parent : Identifier) (flag : Model.RecFlag) (d : ModuleDeclaration),
    (d.rewrite r).document config scope parent flag = d.document config scope parent flag
  | scope, parent, flag, ⟨x, type, attributes, loc⟩ => by
    simp only [ModuleDeclaration.rewrite, ModuleDeclaration.document, ModuleType.alias?_rewrite,
      ModuleType.isSignature_rewrite, type.document_rewrite]

end

/-- A rewritten signature is documented alike. -/
theorem Signature.document_rewrite (parent : Identifier) (items : Signature) :
  Signature.document config scope parent (items.rewrite r)
    = Signature.document config scope parent items
  := by
  rw [Signature.document, Signature.rewrite, length_rewriteItems, Scope.bindWritten_rewrite,
    documentItems_rewrite, Signature.document]

end Written

/-- A rewritten signature is loaded as the signature. -/
theorem Model.Interface.load_rewrite (r : Written.TypeRewriting) (config : Config)
    (container unit : String) (signature : Written.Signature) :
  load config container unit (signature.rewrite r) = load config container unit signature
  := by
  simp only [load, Written.Signature.document_rewrite]

end InterfaceDocs
