import InterfaceDocs.Load.CompiledDeclaration
import InterfaceDocs.Load.WrittenDeclaration
import InterfaceDocs.Proofs.Hygiene.Type

/-!
# Declarations in scopes that agree

Documenting a declaration gives the same in scopes that agree on its identifiers.
-/

namespace InterfaceDocs

/-- Readings of the elements of a list are the same if those of each element are. -/
theorem Reading.each_congr {α β : Type} {f g : α → Reading β} {as : List α}
    (h : ∀ a ∈ as, f a = g a) :
  Reading.each f as = Reading.each g as
  := by
  induction as with
  | nil => rfl
  | cons a as ih =>
    have has := ih fun b hb => h b (List.mem_cons_of_mem a hb)
    rw [Reading.each, Reading.each, h a List.mem_cons_self, has]

variable {xs : List Ident} {s t : Scope} (config : Config)

/-! ### Compiled declarations -/

namespace Compiled

variable (names : VarNames)

theorem LabelDeclaration.document_congr (h : s.Agree xs t) (parent : Identifier)
    {d : LabelDeclaration} (hx : d.type.idents ⊆ xs) :
  d.document config s names parent = d.document config t names parent
  := by
  rw [LabelDeclaration.document, LabelDeclaration.document,
    TypeExpr.document_congr names h d.type hx]

theorem documentLabels_congr (h : s.Agree xs t) (parent : Identifier)
    {labels : List LabelDeclaration} (hx : labels.flatMap (fun d => d.type.idents) ⊆ xs) :
  Reading.each (LabelDeclaration.document config s names parent) labels
    = Reading.each (LabelDeclaration.document config t names parent) labels
  := by
  apply Reading.each_congr
  intro d hd
  have htype := idents_subset_of_mem hx hd
  apply LabelDeclaration.document_congr config names h parent htype

/-- The arguments of a constructor are documented alike in scopes that agree on their
identifiers. -/
theorem ConstructorArguments.document_congr (h : s.Agree xs t) (parent : Identifier)
    {args : ConstructorArguments} (hx : args.idents ⊆ xs) :
  args.document config s names parent = args.document config t names parent
  := by
  cases args with
  | tuple types => simp only [ConstructorArguments.document, documentTypes_congr names h types hx]
  | record labels =>
    simp only [ConstructorArguments.document, documentLabels_congr config names h parent hx]

/-- A constructor is documented alike in scopes that agree on the identifiers of its arguments and
its result. -/
theorem documentConstructor_congr (h : s.Agree xs t) (id : Identifier)
    {args : ConstructorArguments} {result : Option TypeExpr}
    (hx : args.idents ++ identsOption result ⊆ xs) (attributes : List Attribute) :
  documentConstructor config s names id args result attributes
    = documentConstructor config t names id args result attributes
  := by
  obtain ⟨hargs, hresult⟩ := List.append_subset.mp hx
  rw [documentConstructor, documentConstructor,
    ConstructorArguments.document_congr config names h id hargs,
    documentOption_congr names h hresult]

/-- The kind of a type is documented alike in scopes that agree on its identifiers. -/
theorem TypeKind.document_congr (h : s.Agree xs t) (id : Identifier) {kind : TypeKind}
    (hx : kind.idents ⊆ xs) :
  kind.document config s names id = kind.document config t names id
  := by
  cases kind with
  | abstract => rfl
  | record labels => simp only [TypeKind.document, documentLabels_congr config names h id hx]
  | variant constructors =>
    have hconstructors : Reading.each (ConstructorDeclaration.document config s names id)
        constructors = Reading.each (ConstructorDeclaration.document config t names id)
        constructors := by
      apply Reading.each_congr
      intro d hd
      have hd := idents_subset_of_mem hx hd
      apply documentConstructor_congr config names h _ hd d.attributes
    simp only [TypeKind.document, hconstructors]
  | extensible => rfl

/-- A type declaration is documented alike in scopes that agree on its identifiers. -/
theorem TypeDeclaration.document_congr (h : s.Agree xs t) (parent : Identifier) (x : Ident)
    {d : TypeDeclaration} (hx : d.idents ⊆ xs) :
  d.document config s parent x = d.document config t parent x
  := by
  obtain ⟨hkind, hmanifest⟩ := List.append_subset.mp hx
  simp only [TypeDeclaration.document, TypeKind.document_congr config _ h _ hkind,
    documentOption_congr _ h hmanifest]

/-- A constructor of an extensible type is documented alike in scopes that agree on its
identifiers. -/
theorem ExtensionConstructor.document_congr (h : s.Agree xs t) (id : Identifier)
    {d : ExtensionConstructor} (hx : d.idents ⊆ xs) :
  d.document config s id = d.document config t id
  := documentConstructor_congr config _ h id (List.append_subset.mp hx).2 d.attributes

/-- The extended type is the same in scopes that agree on the identifiers of the constructor. -/
theorem ExtensionConstructor.documentHead_congr (h : s.Agree xs t) {d : ExtensionConstructor}
    (hx : d.idents ⊆ xs) (constructors : List Model.Constructor) :
  d.documentHead s constructors = d.documentHead t constructors
  := by
  rw [ExtensionConstructor.documentHead, ExtensionConstructor.documentHead,
    Scope.resolve_congr h .type (List.append_subset.mp hx).1]

/-- A value is documented alike in scopes that agree on its identifiers. -/
theorem ValueDescription.document_congr (h : s.Agree xs t) (parent : Identifier) (x : Ident)
    {d : ValueDescription} (hx : d.type.idents ⊆ xs) :
  d.document config s parent x = d.document config t parent x
  := by
  rw [ValueDescription.document, ValueDescription.document,
    TypeExpr.document_congr _ h d.type hx]

/-- Lists are documented alike if their elements are. -/
theorem documentEach_congr {α β : Type} {f g : α → Except LoadError β} {as : List α}
    (h : ∀ a ∈ as, f a = g a) :
  documentEach f as = documentEach g as
  := by
  induction as with
  | nil => rfl
  | cons a as ih =>
    have has := ih fun b hb => h b (List.mem_cons_of_mem a hb)
    rw [documentEach, documentEach, h a List.mem_cons_self, has]

/-- A class type is documented alike in scopes that agree on its identifiers. -/
theorem ClassType.document_congr (h : s.Agree xs t) (owner : Identifier) {type : ClassType}
    (hx : type.idents ⊆ xs) :
  type.document s names owner = type.document t names owner
  := by
  cases type with
  | constr p args =>
    obtain ⟨hp, hargs⟩ := List.append_subset.mp hx
    rw [ClassType.document, ClassType.document, Scope.resolve_congr h .classType hp,
      documentTypes_congr names h args hargs]
  | signature body =>
    obtain ⟨hvars, hrest⟩ := List.append_subset.mp hx
    obtain ⟨hmethods, hself⟩ := List.append_subset.mp hrest
    have hv : documentEach (InstanceVariable.document s names owner) body.instanceVariables
        = documentEach (InstanceVariable.document t names owner) body.instanceVariables := by
      apply documentEach_congr
      intro v hv
      have htype := idents_subset_of_mem hvars hv
      rw [InstanceVariable.document, InstanceVariable.document,
        TypeExpr.document_congr names h v.type htype]
    have hm : documentEach (Method.document s names owner) body.methods
        = documentEach (Method.document t names owner) body.methods := by
      apply documentEach_congr
      intro m hm
      have htype := idents_subset_of_mem hmethods hm
      rw [Method.document, Method.document, TypeExpr.document_congr names h m.type htype]
    rw [ClassType.document, ClassType.document, hv, hm, documentOption_congr names h hself]
  | arrow label arg res => rfl

theorem ClassType.documentDecl_congr (h : s.Agree xs t) (owner : Identifier) :
  ∀ type : ClassType, type.idents ⊆ xs →
    type.documentDecl s names owner = type.documentDecl t names owner
  | .arrow label arg res, hx => by
    obtain ⟨harg, hres⟩ := List.append_subset.mp hx
    rw [ClassType.documentDecl, ClassType.documentDecl,
      documentArgument_congr label (TypeExpr.document_congr names h arg harg),
      ClassType.documentDecl_congr h owner res hres]
  | .constr p args, hx => by
    rw [ClassType.documentDecl, ClassType.documentDecl,
      ClassType.document_congr names h owner hx] <;> simp
  | .signature body, hx => by
    rw [ClassType.documentDecl, ClassType.documentDecl,
      ClassType.document_congr names h owner hx] <;> simp

/-- A class is documented alike in scopes that agree on its identifiers. -/
theorem ClassDeclaration.document_congr (h : s.Agree xs t) (parent : Identifier) (x : Ident)
    {d : ClassDeclaration} (hx : d.type.idents ⊆ xs) :
  d.document config s parent x = d.document config t parent x
  := by
  simp only [ClassDeclaration.document, ClassType.documentDecl_congr _ h _ d.type hx]

/-- A class type declaration is documented alike in scopes that agree on its identifiers. -/
theorem ClassTypeDeclaration.document_congr (h : s.Agree xs t) (parent : Identifier) (x : Ident)
    {d : ClassTypeDeclaration} (hx : d.type.idents ⊆ xs) :
  d.document config s parent x = d.document config t parent x
  := by
  simp only [ClassTypeDeclaration.document, ClassType.document_congr _ h _ hx]

end Compiled

/-! ### Written declarations -/

namespace Written

/-- A written value is documented alike in scopes that agree on its identifiers. -/
theorem ValueDescription.document_congr (h : s.Agree xs t) (parent : Identifier)
    {d : ValueDescription} (hx : d.type.idents ⊆ xs) :
  d.document config s parent = d.document config t parent
  := by
  rw [ValueDescription.document, ValueDescription.document,
    CoreType.document_congr config h d.type hx]

theorem documentOption_congr (h : s.Agree xs t) {type : Option CoreType}
    (hx : identsOption type ⊆ xs) :
  documentOption config s type = documentOption config t type
  := by
  cases type with
  | none => rfl
  | some type =>
    have htype := idents_subset_of_mem hx List.mem_cons_self
    simp only [documentOption, Reading.optional, CoreType.document_congr config h type htype]

/-- The equation of a type is the same in scopes that agree on the identifiers of its manifest and
its constraints. -/
theorem TypeDeclaration.documentEquation_congr (h : s.Agree xs t) {d : TypeDeclaration}
    (hx : d.identsEquation ⊆ xs) :
  d.documentEquation config s = d.documentEquation config t
  := by
  obtain ⟨hmanifest, hconstraints⟩ := List.append_subset.mp hx
  have heach : Reading.each (TypeConstraint.document config s) d.constraints
      = Reading.each (TypeConstraint.document config t) d.constraints := by
    apply Reading.each_congr
    intro c hc
    have hsides := idents_subset_of_mem hconstraints hc
    obtain ⟨hleft, hright⟩ := List.append_subset.mp hsides
    rw [TypeConstraint.document, TypeConstraint.document,
      CoreType.document_congr config h c.left hleft,
      CoreType.document_congr config h c.right hright]
  rw [TypeDeclaration.documentEquation, TypeDeclaration.documentEquation,
    documentOption_congr config h hmanifest, heach]

theorem documentLabels_congr (h : s.Agree xs t) (parent : Identifier)
    {labels : List LabelDeclaration} (hx : labels.flatMap (fun d => d.type.idents) ⊆ xs) :
  Reading.each (LabelDeclaration.document config s parent) labels
    = Reading.each (LabelDeclaration.document config t parent) labels
  := by
  apply Reading.each_congr
  intro d hd
  have htype := idents_subset_of_mem hx hd
  rw [LabelDeclaration.document, LabelDeclaration.document,
    CoreType.document_congr config h d.type htype]

theorem ConstructorArguments.document_congr (h : s.Agree xs t) (parent : Identifier)
    {args : ConstructorArguments} (hx : args.idents ⊆ xs) :
  args.document config s parent = args.document config t parent
  := by
  cases args with
  | tuple types =>
    simp only [ConstructorArguments.document, documentTypes_congr config h types hx]
  | record labels =>
    simp only [ConstructorArguments.document, documentLabels_congr config h parent hx]

/-- The kind of a written type is documented alike in scopes that agree on its identifiers. -/
theorem TypeKind.document_congr (h : s.Agree xs t) (id : Identifier) {kind : TypeKind}
    (hx : kind.idents ⊆ xs) :
  kind.document config s id = kind.document config t id
  := by
  cases kind with
  | abstract => rfl
  | variant constructors =>
    have hconstructors : Reading.each (ConstructorDeclaration.document config s id) constructors
        = Reading.each (ConstructorDeclaration.document config t id) constructors := by
      apply Reading.each_congr
      intro d hd
      have hparts := idents_subset_of_mem hx hd
      obtain ⟨hargs, hresult⟩ := List.append_subset.mp hparts
      simp only [ConstructorDeclaration.document,
        ConstructorArguments.document_congr config h _ hargs,
        documentOption_congr config h hresult]
    simp only [TypeKind.document, hconstructors]
  | record labels => simp only [TypeKind.document, documentLabels_congr config h id hx]
  | extensible => rfl

/-- A written type declaration is documented alike in scopes that agree on its identifiers. -/
theorem TypeDeclaration.document_congr (h : s.Agree xs t) (parent : Identifier)
    {d : TypeDeclaration} (hx : d.idents ⊆ xs) :
  d.document config s parent = d.document config t parent
  := by
  obtain ⟨hequation, hkind⟩ := List.append_subset.mp hx
  rw [TypeDeclaration.document, TypeDeclaration.document,
    TypeDeclaration.documentEquation_congr config h hequation,
    TypeKind.document_congr config h _ hkind]

/-- A written constructor of an extensible type is documented alike in scopes that agree on its
identifiers. -/
theorem ExtensionConstructor.document_congr (h : s.Agree xs t) (id : Identifier)
    {d : ExtensionConstructor} (hx : d.idents ⊆ xs) :
  d.document config s id = d.document config t id
  := by
  unfold ExtensionConstructor.idents at hx
  unfold ExtensionConstructor.document
  split
  · rename_i args result hkind
    rw [hkind] at hx
    obtain ⟨hargs, hresult⟩ := List.append_subset.mp hx
    rw [ConstructorArguments.document_congr config h id hargs,
      documentOption_congr config h hresult]
  · rfl

/-- An extension is documented alike in scopes that agree on its identifiers. -/
theorem TypeExtension.document_congr (h : s.Agree xs t) (parent : Identifier) {d : TypeExtension}
    (hx : d.idents ⊆ xs) :
  d.document config s parent = d.document config t parent
  := by
  obtain ⟨hpath, hconstructors⟩ := List.append_subset.mp hx
  have heach : Reading.each
      (fun c => c.document config s (parent.child .extension c.ident.name)) d.constructors
      = Reading.each
        (fun c => c.document config t (parent.child .extension c.ident.name)) d.constructors := by
    apply Reading.each_congr
    intro c hc
    apply ExtensionConstructor.document_congr config h _ (idents_subset_of_mem hconstructors hc)
  rw [TypeExtension.document, TypeExtension.document, Scope.resolve_congr h .type hpath, heach]

theorem documentSelf_congr (h : s.Agree xs t) {type : CoreType} (hx : type.idents ⊆ xs) :
  documentSelf config s type = documentSelf config t type
  := by
  unfold documentSelf
  split
  · rfl
  · rw [CoreType.document_congr config h _ hx]

mutual

/-- Documenting a written class type depends on what its identifiers are bound to. -/
theorem ClassType.document_congr (h : s.Agree xs t) (owner : Identifier) :
  ∀ type : ClassType, type.idents ⊆ xs →
    type.document config s owner = type.document config t owner
  | .constr _ p args, hx => by
    obtain ⟨hp, hargs⟩ := List.append_subset.mp hx
    rw [ClassType.document, ClassType.document, Scope.resolve_congr h .classType hp,
      documentTypes_congr config h args hargs]
  | .signature _ self fields, hx => by
    obtain ⟨hself, hfields⟩ := List.append_subset.mp hx
    rw [ClassType.document, ClassType.document, documentSelf_congr config h hself,
      documentFields_congr h owner fields hfields]
  | .arrow _ _ _ _, _ => by
    rw [ClassType.document, ClassType.document]

/-- The fields of a class are documented alike in scopes that agree on their identifiers. -/
theorem documentFields_congr (h : s.Agree xs t) (owner : Identifier) :
  ∀ fields : List ClassField, identsFields fields ⊆ xs →
    documentFields config s owner fields = documentFields config t owner fields
  | [], _ => by
    rw [documentFields, documentFields]
  | .inherit _ type :: fields, hx => by
    obtain ⟨htype, hfields⟩ := List.append_subset.mp hx
    rw [documentFields, documentFields, ClassType.document_congr h owner type htype,
      documentFields_congr h owner fields hfields]
  | .instanceVariable _ _ _ _ type :: fields, hx => by
    obtain ⟨htype, hfields⟩ := List.append_subset.mp hx
    rw [documentFields, documentFields, CoreType.document_congr config h type htype,
      documentFields_congr h owner fields hfields]
  | .method _ _ _ _ type :: fields, hx => by
    obtain ⟨htype, hfields⟩ := List.append_subset.mp hx
    rw [documentFields, documentFields, CoreType.document_congr config h type htype,
      documentFields_congr h owner fields hfields]
  | .constraint _ left right :: fields, hx => by
    obtain ⟨hleft, hrest⟩ := List.append_subset.mp hx
    obtain ⟨hright, hfields⟩ := List.append_subset.mp hrest
    rw [documentFields, documentFields, CoreType.document_congr config h left hleft,
      CoreType.document_congr config h right hright, documentFields_congr h owner fields hfields]
  | .floating _ _ :: fields, hx => by
    rw [documentFields, documentFields, documentFields_congr h owner fields hx]

end

theorem ClassType.documentDecl_congr (h : s.Agree xs t) (owner : Identifier) :
  ∀ type : ClassType, type.idents ⊆ xs →
    type.documentDecl config s owner = type.documentDecl config t owner
  | .arrow _ label arg res, hx => by
    obtain ⟨harg, hres⟩ := List.append_subset.mp hx
    rw [ClassType.documentDecl, ClassType.documentDecl,
      CoreType.document_congr config h arg harg, ClassType.documentDecl_congr h owner res hres]
  | .constr _ _ _, hx => by
    rw [ClassType.documentDecl, ClassType.documentDecl,
      ClassType.document_congr config h owner _ hx] <;> simp
  | .signature _ _ _, hx => by
    rw [ClassType.documentDecl, ClassType.documentDecl,
      ClassType.document_congr config h owner _ hx] <;> simp

/-- A written class is documented alike in scopes that agree on its identifiers. -/
theorem ClassDeclaration.document_congr (h : s.Agree xs t) (parent : Identifier)
    {d : ClassDeclaration} (hx : d.type.idents ⊆ xs) :
  d.document config s parent = d.document config t parent
  := by
  rw [ClassDeclaration.document, ClassDeclaration.document,
    ClassType.documentDecl_congr config h _ d.type hx]

theorem ClassDeclaration.documentClassType_congr (h : s.Agree xs t) (parent : Identifier)
    {d : ClassDeclaration} (hx : d.type.idents ⊆ xs) :
  d.documentClassType config s parent = d.documentClassType config t parent
  := by
  rw [ClassDeclaration.documentClassType, ClassDeclaration.documentClassType,
    ClassType.document_congr config h _ d.type hx]

end Written

end InterfaceDocs
