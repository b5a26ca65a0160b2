import InterfaceDocs.Proofs.Renumber.Tree
import InterfaceDocs.Scope.Binding

/-!
# Renumbered scopes

Scopes bind identifiers by their stamps.  In a renumbered scope, a renumbered path resolves to
what the path resolves to in the scope (`Scope.resolve_renumber`), and binding a renumbered
signature renumbers the scope and keeps the shapes (`Scope.bindWrittenItems_renumber`).
-/

namespace InterfaceDocs

/-- The binding with its identifier renumbered. -/
def Binding.renumber (ρ : Renumbering) (b : Binding) : Binding :=
  ⟨b.ident.renumber ρ, b.id, b.shape⟩

/-- The scope with its identifiers renumbered. -/
def Scope.renumber (ρ : Renumbering) (scope : Scope) : Scope :=
  ⟨scope.bindings.map (Binding.renumber ρ), scope.functorParameter⟩

/-- The bound scope with its identifiers renumbered. -/
def Bound.renumber (ρ : Renumbering) (b : Bound) : Bound :=
  ⟨b.scope.renumber ρ, b.members⟩

variable (ρ : Renumbering)

/-! ### Resolving paths -/

namespace Scope

@[simp]
theorem renumber_empty :
  empty.renumber ρ = empty
  := rfl

@[simp]
theorem addFunctorParameter_renumber (scope : Scope) (x : Ident) (id : Identifier)
    (shape : Shape) :
  (scope.renumber ρ).addFunctorParameter (x.renumber ρ) id shape
    = (scope.addFunctorParameter x id shape).renumber ρ
  := rfl

@[simp]
theorem functorArgument_renumber (scope : Scope) (owner : Identifier) (name : String) :
  (scope.renumber ρ).functorArgument owner name = scope.functorArgument owner name
  := rfl

/-- The renumbered identifier is found in the renumbered scope where the identifier is found in the
scope. -/
theorem find?_renumber (scope : Scope) (x : Ident) :
  (scope.renumber ρ).find? (x.renumber ρ) = (scope.find? x).map (Binding.renumber ρ)
  := by
  simp only [find?, renumber, List.find?_map]
  congr 2
  funext b
  apply b.ident.renumber_same ρ x

/-- A renumbered path has the reference and the shape of the path. -/
theorem resolveWithShape_renumber (scope : Scope) (kind : PathKind) (p : Path) :
  (scope.renumber ρ).resolveWithShape kind (p.renumber ρ)
    = Outcome.renumber ρ (scope.resolveWithShape kind p)
  := by
  induction p generalizing kind with
  | ident x =>
    simp only [Path.renumber, resolveWithShape, Ident.renumber_isPredef,
      Ident.renumber_isPersistent, Ident.renumber_name, find?_renumber]
    split
    · rfl
    · split
      · rfl
      · cases scope.find? x with
        | none => rfl
        | some b => rfl
  | dot head name ih =>
    simp only [Path.renumber, resolveWithShape, ih]
    rcases scope.resolveWithShape .module head with e | ⟨r, shape⟩
    · rfl
    · cases r with
      | resolved parent =>
        simp only [Outcome.renumber_ok]
        split
        · rfl
        · rfl
      | root name => rfl
      | core name => rfl
      | dot r name => rfl
      | apply f a => rfl
  | apply functor argument ihf iha =>
    simp only [Path.renumber, resolveWithShape, ihf, iha]
    rcases scope.resolveWithShape .module functor with e | ⟨f, shape⟩
    · rfl
    · rcases scope.resolveWithShape .module argument with e | ⟨a, shape'⟩
      · rfl
      · rfl

/-- Renumbered paths resolve to the same references in the renumbered scope. -/
@[simp]
theorem resolve_renumber (scope : Scope) (kind : PathKind) (p : Path) :
  (scope.renumber ρ).resolve kind (p.renumber ρ) = Outcome.renumber ρ (scope.resolve kind p)
  := by
  rw [resolve, resolveWithShape_renumber, resolve, Outcome.renumber_map]

/-- Renumbered paths stand for the same subjects in the renumbered scope. -/
@[simp]
theorem resolveSubject_renumber (scope : Scope) (p : Path) :
  (scope.renumber ρ).resolveSubject (p.renumber ρ)
    = Outcome.renumber ρ (scope.resolveSubject p)
  := by
  rw [resolveSubject, resolveWithShape_renumber, resolveSubject, Outcome.renumber_map]

/-- Renumbered paths have the same shapes in the renumbered scope. -/
@[simp]
theorem pathShape_renumber (scope : Scope) (p : Path) :
  (scope.renumber ρ).pathShape (p.renumber ρ) = scope.pathShape p
  := by
  rw [pathShape, resolveWithShape_renumber, pathShape]
  cases scope.resolveWithShape .moduleType p with
  | error e => rfl
  | ok a => rfl

/-- Renumbered aliases have the same shapes in the renumbered scope. -/
@[simp]
theorem aliasShape_renumber (scope : Scope) (p : Path) :
  (scope.renumber ρ).aliasShape (p.renumber ρ) = scope.aliasShape p
  := by
  rw [aliasShape, resolveWithShape_renumber, aliasShape]
  cases scope.resolveWithShape .module p with
  | error e => rfl
  | ok a => rfl

end Scope

/-! ### Binding signatures -/

namespace Bound

@[simp]
theorem hide_renumber (b : Bound) (x : Ident) (id : Identifier) (shape : Shape) :
  (b.renumber ρ).hide (x.renumber ρ) id shape = (b.hide x id shape).renumber ρ
  := rfl

@[simp]
theorem expose_renumber (b : Bound) (space : Namespace) (name : String) (shape : Shape) :
  (b.renumber ρ).expose space name shape = (b.expose space name shape).renumber ρ
  := rfl

/-- Renumbered identifiers of one entity are bound to the same. -/
theorem hideAll_renumber (b : Bound) (xs : List Ident) (id : Identifier) :
  (b.renumber ρ).hideAll (xs.map (Ident.renumber ρ)) id = (b.hideAll xs id).renumber ρ
  := by
  induction xs generalizing b with
  | nil => rfl
  | cons x xs ih => apply ih (b.hide x id .unknown)

/-- A renumbered identifier declares the same member. -/
theorem declare_renumber (b : Bound) (parent : Identifier) (space : Namespace) (x : Ident)
    (companions : List Ident) (shape : Shape) :
  (b.renumber ρ).declare parent space (x.renumber ρ) (companions.map (Ident.renumber ρ)) shape
    = (b.declare parent space x companions shape).renumber ρ
  := by
  simp only [declare, hideAll_renumber, hide_renumber, expose_renumber, Ident.renumber_name]

/-- What a fold binds for renumbered elements is what it binds for the elements, renumbered. -/
theorem foldl_renumber {α : Type} {f : Bound → α → Bound} {g : α → α}
    (h : ∀ b a, f (b.renumber ρ) (g a) = (f b a).renumber ρ) (as : List α) (b : Bound) :
  (as.map g).foldl f (b.renumber ρ) = (as.foldl f b).renumber ρ
  := by
  induction as generalizing b with
  | nil => rfl
  | cons a as ih => simp only [List.map_cons, List.foldl_cons, h, ih]

end Bound

namespace Scope

mutual

/-- The shape of a renumbered compiled module type. -/
theorem compiledShape_renumber :
  ∀ (scope : Scope) (parent : Identifier) (type : Compiled.ModuleType),
    (scope.renumber ρ).compiledShape parent (type.renumber ρ) = scope.compiledShape parent type
  | scope, _, .path p => by
    simp only [Compiled.ModuleType.renumber, compiledShape, pathShape_renumber]
  | scope, parent, .signature items => by
    have h := bindCompiledItems_renumber parent ⟨scope, []⟩ items
    simp only [Bound.renumber] at h
    simp only [Compiled.ModuleType.renumber, compiledShape, h]
  | _, _, .functor _ none _ => rfl
  | _, _, .functor _ (some _) _ => rfl
  | scope, _, .alias p => by
    simp only [Compiled.ModuleType.renumber, compiledShape, aliasShape_renumber]

/-- Binding renumbered compiled items renumbers the bound scope. -/
theorem bindCompiledItems_renumber :
  ∀ (parent : Identifier) (b : Bound) (items : List Compiled.SignatureItem),
    bindCompiledItems parent (b.renumber ρ) (Compiled.renumberItems ρ items)
      = (bindCompiledItems parent b items).renumber ρ
  | _, _, [] => rfl
  | parent, b, item :: items => by
    rw [Compiled.renumberItems, bindCompiledItems, bindCompiledItem_renumber,
      bindCompiledItems_renumber, bindCompiledItems]

/-- A renumbered compiled item binds the renumbered identifiers to the same. -/
theorem bindCompiledItem_renumber :
  ∀ (parent : Identifier) (b : Bound) (item : Compiled.SignatureItem),
    bindCompiledItem parent (b.renumber ρ) (item.renumber ρ)
      = (bindCompiledItem parent b item).renumber ρ
  | _, _, .value _ _ => rfl
  | _, _, .extension _ _ _ => rfl
  | parent, b, .type x _ _ => b.declare_renumber ρ parent .type x [] .unknown
  | parent, b, .module x ⟨type, _, _⟩ _ => by
    have h := compiledShape_renumber b.scope (parent.child .module x.name) type
    simp only [Compiled.SignatureItem.renumber, bindCompiledItem, Ident.renumber_name]
    rw [← Bound.declare_renumber, ← h]
    rfl
  | parent, b, .moduleType x ⟨some type, _, _⟩ => by
    have h := compiledShape_renumber b.scope (parent.child .moduleType x.name) type
    simp only [Compiled.SignatureItem.renumber, bindCompiledItem, Ident.renumber_name]
    rw [← Bound.declare_renumber, ← h]
    rfl
  | parent, b, .moduleType x ⟨none, _, _⟩ => b.declare_renumber ρ parent .moduleType x [] .unknown
  | parent, b, .class x d _ => by
    simp only [Compiled.SignatureItem.renumber, bindCompiledItem, ← Bound.declare_renumber,
      List.map_append, Compiled.ClassDeclaration.renumber, Option.toList_map]
  | parent, b, .classType x d _ => by
    simp only [Compiled.SignatureItem.renumber, bindCompiledItem, ← Bound.declare_renumber,
      Compiled.ClassTypeDeclaration.renumber, Option.toList_map]

end

/-- A renumbered compiled signature binds the renumbered identifiers to the same. -/
@[simp]
theorem bindCompiled_renumber (scope : Scope) (parent : Identifier)
    (items : Compiled.Signature) :
  (scope.renumber ρ).bindCompiled parent (Compiled.renumberItems ρ items)
    = (scope.bindCompiled parent items).renumber ρ
  := bindCompiledItems_renumber ρ parent ⟨scope, []⟩ items

/-- A renumbered clause removes the same member. -/
theorem removedMember_renumber (clause : Written.WithClause) :
  removedMember (clause.renumber ρ) = removedMember clause
  := by
  rcases clause with ⟨⟨name, loc⟩, constraint⟩
  cases constraint with
  | typeEq d => rfl
  | moduleEq p => rfl
  | typeSubst d => cases name <;> rfl
  | moduleSubst p => cases name <;> rfl

/-- The scope of a renumbered recursive group is the renumbered scope. -/
theorem bindGroup_renumber (parent : Identifier) (ds : List Written.ModuleDeclaration) :
  ∀ scope : Scope, bindGroup parent (scope.renumber ρ) (Written.renumberModules ρ ds)
    = (bindGroup parent scope ds).renumber ρ
  := by
  induction ds with
  | nil =>
    intro scope
    rfl
  | cons d ds ih =>
    intro scope
    rcases d with ⟨x, type, attributes, loc⟩
    apply ih (scope.add x (parent.child .module x.name) .unknown)

theorem bindClass_renumber (parent : Identifier) (b : Bound) (d : Written.ClassDeclaration) :
  bindClass parent (b.renumber ρ) (d.renumber ρ) = (bindClass parent b d).renumber ρ
  := rfl

theorem bindClassType_renumber (parent : Identifier) (b : Bound)
    (d : Written.ClassDeclaration) :
  bindClassType parent (b.renumber ρ) (d.renumber ρ) = (bindClassType parent b d).renumber ρ
  := rfl

mutual

/-- The shape of a renumbered written module type. -/
theorem writtenShape_renumber :
  ∀ (scope : Scope) (parent : Identifier) (type : Written.ModuleType),
    (scope.renumber ρ).writtenShape parent (type.renumber ρ) = scope.writtenShape parent type
  | scope, _, .path _ p => by
    simp only [Written.ModuleType.renumber, writtenShape, pathShape_renumber]
  | scope, parent, .signature _ items => by
    have h := bindWrittenItems_renumber parent ⟨scope, []⟩ items
    simp only [Bound.renumber] at h
    simp only [Written.ModuleType.renumber, writtenShape, h]
  | _, _, .functor _ .unit _ => rfl
  | _, _, .functor _ (.named _ _) _ => rfl
  | scope, parent, .constrained _ body clauses => by
    have hremoved : removedMember ∘ Written.WithClause.renumber ρ = removedMember := by
      funext clause
      apply removedMember_renumber ρ clause
    simp only [Written.ModuleType.renumber, writtenShape, writtenShape_renumber scope parent body,
      List.filterMap_map, hremoved]
  | scope, parent, .typeOf _ expr => by
    have h : (expr.renumber ρ).info.type = expr.info.type.renumber ρ := by
      cases expr <;> rfl
    simp only [Written.ModuleType.renumber, writtenShape, h, compiledShape_renumber]
  | scope, _, .alias _ p => by
    simp only [Written.ModuleType.renumber, writtenShape, aliasShape_renumber]

/-- Binding renumbered written items renumbers the bound scope. -/
theorem bindWrittenItems_renumber :
  ∀ (parent : Identifier) (b : Bound) (items : List Written.SignatureItem),
    bindWrittenItems parent (b.renumber ρ) (Written.renumberItems ρ items)
      = (bindWrittenItems parent b items).renumber ρ
  | _, _, [] => rfl
  | parent, b, item :: items => by
    rw [Written.renumberItems, bindWrittenItems, bindWrittenItem_renumber,
      bindWrittenItems_renumber, bindWrittenItems]

/-- A renumbered written item binds the renumbered identifiers to the same. -/
theorem bindWrittenItem_renumber :
  ∀ (parent : Identifier) (b : Bound) (item : Written.SignatureItem),
    bindWrittenItem parent (b.renumber ρ) (item.renumber ρ)
      = (bindWrittenItem parent b item).renumber ρ
  | _, _, .value _ _ => rfl
  | parent, b, .type _ _ ds => by
    rw [Written.SignatureItem.renumber, bindWrittenItem, bindWrittenItem]
    apply Bound.foldl_renumber
    intro b d
    apply b.declare_renumber ρ parent .type d.ident [] .unknown
  | parent, b, .typeSubst _ ds => by
    rw [Written.SignatureItem.renumber, bindWrittenItem, bindWrittenItem]
    apply Bound.foldl_renumber
    intro b d
    rfl
  | _, _, .extension _ _ => rfl
  | _, _, .exception _ _ => rfl
  | parent, b, .module _ ⟨x, type, _, _⟩ => by
    have h := writtenShape_renumber b.scope (parent.child .module x.name) type
    rw [Written.SignatureItem.renumber, Written.ModuleDeclaration.renumber, bindWrittenItem,
      bindWrittenItem, ← h]
    apply b.declare_renumber ρ parent .module x [] _
  | parent, b, .moduleSubst _ d => by
    have h := b.scope.aliasShape_renumber ρ d.manifest
    rw [Written.SignatureItem.renumber, bindWrittenItem, bindWrittenItem, ← h]
    rfl
  | parent, b, .recModule _ ds => by
    have h := bindWrittenModules_renumber parent (bindGroup parent b.scope ds) b ds
    rw [← bindGroup_renumber] at h
    apply h
  | parent, b, .moduleType _ ⟨x, some type, _, _⟩ => by
    have h := writtenShape_renumber b.scope (parent.child .moduleType x.name) type
    rw [Written.SignatureItem.renumber, bindWrittenItem, bindWrittenItem, ← h]
    apply b.declare_renumber ρ parent .moduleType x [] _
  | parent, b, .moduleType _ ⟨x, none, _, _⟩ =>
    b.declare_renumber ρ parent .moduleType x [] .unknown
  | _, _, .opened _ _ => rfl
  | parent, b, .included _ ⟨_, content, _, _⟩ => by
    have h := b.scope.bindCompiled_renumber ρ parent content
    simp only [Written.SignatureItem.renumber, bindWrittenItem, Bound.renumber, h]
  | parent, b, .class _ ds => Bound.foldl_renumber ρ (bindClass_renumber ρ parent) ds b
  | parent, b, .classType _ ds => Bound.foldl_renumber ρ (bindClassType_renumber ρ parent) ds b
  | _, _, .floating _ _ => rfl

/-- The renumbered modules of a group bind the renumbered identifiers to the same. -/
theorem bindWrittenModules_renumber :
  ∀ (parent : Identifier) (group : Scope) (b : Bound) (ds : List Written.ModuleDeclaration),
    bindWrittenModules parent (group.renumber ρ) (b.renumber ρ) (Written.renumberModules ρ ds)
      = (bindWrittenModules parent group b ds).renumber ρ
  | _, _, _, [] => rfl
  | parent, group, b, ⟨x, type, _, _⟩ :: ds => by
    have h := writtenShape_renumber group (parent.child .module x.name) type
    have hb := b.declare_renumber ρ parent .module x []
    simp only [List.map_nil] at hb
    simp only [Written.renumberModules, Written.ModuleDeclaration.renumber, bindWrittenModules,
      Ident.renumber_name, h, hb, bindWrittenModules_renumber parent group _ ds]

end

/-- A renumbered written signature binds the renumbered identifiers to the same. -/
@[simp]
theorem bindWritten_renumber (scope : Scope) (parent : Identifier) (items : Written.Signature) :
  (scope.renumber ρ).bindWritten parent (Written.renumberItems ρ items)
    = (scope.bindWritten parent items).renumber ρ
  := bindWrittenItems_renumber ρ parent ⟨scope, []⟩ items

/-- The subject of the constraints on a renumbered module type. -/
theorem subjectOf_renumber (scope : Scope) (owner : Identifier) :
  ∀ type : Written.ModuleType,
    (scope.renumber ρ).subjectOf owner (type.renumber ρ) = scope.subjectOf owner type
  | .path _ p => by
    simp only [Written.ModuleType.renumber, subjectOf, resolveSubject_renumber]
    cases scope.resolveSubject p with
    | error e => rfl
    | ok a => rfl
  | .signature info items => by
    have h := writtenShape_renumber ρ scope owner (.signature info items)
    simp only [Written.ModuleType.renumber] at h
    simp only [Written.ModuleType.renumber, subjectOf, h]
  | .functor _ .unit _ => rfl
  | .functor _ (.named _ _) _ => rfl
  | .constrained _ body _ => by
    simp only [Written.ModuleType.renumber, subjectOf, subjectOf_renumber scope owner body]
  | .typeOf info expr => by
    have h := writtenShape_renumber ρ scope owner (.typeOf info expr)
    simp only [Written.ModuleType.renumber] at h
    simp only [Written.ModuleType.renumber, subjectOf, h]
  | .alias info p => by
    have h := writtenShape_renumber ρ scope owner (.alias info p)
    simp only [Written.ModuleType.renumber] at h
    simp only [Written.ModuleType.renumber, subjectOf, h]

end Scope

end InterfaceDocs
