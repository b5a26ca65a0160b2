import InterfaceDocs.Proofs.Bare.Tree
import InterfaceDocs.Proofs.Component.Scope

/-!
# Binding bare signatures

Attributes are not looked at when a signature is bound: a bare signature binds the same
identifiers with the same shapes (`Scope.bindWritten_bare`), and the shape of a bare module
type is the shape of the module type.
-/

namespace InterfaceDocs.Scope

mutual

/-- The shape of a bare compiled module type. -/
theorem compiledShape_bare :
  ∀ (scope : Scope) (parent : Identifier) (type : Compiled.ModuleType),
    scope.compiledShape parent type.bare = scope.compiledShape parent type
  | _, _, .path _ => rfl
  | scope, parent, .signature items => by
    rw [Compiled.ModuleType.bare, compiledShape, bindCompiledItems_bare, compiledShape]
  | _, _, .functor _ none _ => rfl
  | _, _, .functor _ (some _) _ => rfl
  | _, _, .alias _ => rfl

/-- Bare compiled items bind the same. -/
theorem bindCompiledItems_bare :
  ∀ (parent : Identifier) (b : Bound) (items : List Compiled.SignatureItem),
    bindCompiledItems parent b (Compiled.bareItems items) = bindCompiledItems parent b items
  | _, _, [] => rfl
  | parent, b, item :: items => by
    rw [Compiled.bareItems, bindCompiledItems, bindCompiledItem_bare, bindCompiledItems_bare,
      bindCompiledItems]

theorem bindCompiledItem_bare :
  ∀ (parent : Identifier) (b : Bound) (item : Compiled.SignatureItem),
    bindCompiledItem parent b item.bare = bindCompiledItem parent b item
  | _, _, .value _ _ => rfl
  | _, _, .extension _ _ _ => rfl
  | _, _, .type _ _ _ => rfl
  | parent, b, .module x ⟨type, _, _⟩ _ => by
    rw [Compiled.SignatureItem.bare, bindCompiledItem, compiledShape_bare, bindCompiledItem]
  | parent, b, .moduleType x ⟨some type, _, _⟩ => by
    rw [Compiled.SignatureItem.bare, bindCompiledItem, compiledShape_bare, bindCompiledItem]
  | _, _, .moduleType _ ⟨none, _, _⟩ => rfl
  | _, _, .class _ _ _ => rfl
  | _, _, .classType _ _ _ => rfl

end

/-- A bare compiled signature binds the same. -/
theorem bindCompiled_bare (scope : Scope) (parent : Identifier) (items : Compiled.Signature) :
  scope.bindCompiled parent (Compiled.bareItems items) = scope.bindCompiled parent items
  := bindCompiledItems_bare parent ⟨scope, []⟩ items

/-- A bare clause removes the same member. -/
theorem removedMember_bare (clause : Written.WithClause) :
  removedMember clause.bare = removedMember clause
  := by
  rcases clause with ⟨⟨name, loc⟩, constraint⟩
  cases constraint with
  | typeEq d => rfl
  | moduleEq p => rfl
  | typeSubst d => cases name <;> rfl
  | moduleSubst p => cases name <;> rfl

/-- The scope of a bare recursive group is the same. -/
theorem bindGroup_bare (parent : Identifier) (scope : Scope)
    (ds : List Written.ModuleDeclaration) :
  bindGroup parent scope (Written.bareModules ds) = bindGroup parent scope ds
  := by
  induction ds generalizing scope with
  | nil => rfl
  | cons d ds ih =>
    rcases d with ⟨x, type, attributes, loc⟩
    apply ih (scope.add x (parent.child .module x.name) .unknown)

mutual

/-- The shape of a bare written module type. -/
theorem writtenShape_bare :
  ∀ (scope : Scope) (parent : Identifier) (type : Written.ModuleType),
    scope.writtenShape parent type.bare = scope.writtenShape parent type
  | _, _, .path _ _ => rfl
  | scope, parent, .signature _ items => by
    rw [Written.ModuleType.bare, writtenShape, bindWrittenItems_bare, writtenShape]
  | _, _, .functor _ .unit _ => rfl
  | _, _, .functor _ (.named _ _) _ => rfl
  | scope, parent, .constrained _ body clauses => by
    have hremoved : removedMember ∘ Written.WithClause.bare = removedMember := by
      funext clause
      apply removedMember_bare
    rw [Written.ModuleType.bare, writtenShape, writtenShape_bare, List.filterMap_map, hremoved,
      writtenShape]
  | scope, parent, .typeOf _ expr => by
    rw [Written.ModuleType.bare, writtenShape, Written.ModuleExpr.info_bare, writtenShape]
    apply compiledShape_bare
  | _, _, .alias _ _ => rfl

/-- Binding bare items is binding the items. -/
theorem bindWrittenItems_bare :
  ∀ (parent : Identifier) (b : Bound) (items : List Written.SignatureItem),
    bindWrittenItems parent b (Written.bareItems items) = bindWrittenItems parent b items
  | _, _, [] => rfl
  | parent, b, item :: items => by
    rw [Written.bareItems, bindWrittenItems_append, bindWrittenItem_bare,
      bindWrittenItems_bare, bindWrittenItems]

theorem bindWrittenItem_bare :
  ∀ (parent : Identifier) (b : Bound) (item : Written.SignatureItem),
    bindWrittenItems parent b item.bare = bindWrittenItem parent b item
  | _, _, .value _ _ => rfl
  | _, _, .type _ _ _ => List.foldl_map
  | _, _, .typeSubst _ _ => List.foldl_map
  | _, _, .extension _ _ => rfl
  | _, _, .exception _ _ => rfl
  | parent, b, .module _ ⟨x, type, _, _⟩ => by
    rw [Written.SignatureItem.bare, Written.ModuleDeclaration.bare, bindWrittenItems,
      bindWrittenItem, writtenShape_bare, bindWrittenItems, bindWrittenItem]
  | _, _, .moduleSubst _ _ => rfl
  | parent, b, .recModule _ ds => by
    rw [Written.SignatureItem.bare, bindWrittenItems, bindWrittenItem, bindGroup_bare,
      bindWrittenModules_bare, bindWrittenItems, bindWrittenItem]
  | parent, b, .moduleType _ ⟨x, some type, _, _⟩ => by
    rw [Written.SignatureItem.bare, bindWrittenItems, bindWrittenItem, writtenShape_bare,
      bindWrittenItems, bindWrittenItem]
  | _, _, .moduleType _ ⟨_, none, _, _⟩ => rfl
  | _, _, .opened _ _ => rfl
  | parent, b, .included _ ⟨_, content, _, _⟩ => by
    rw [Written.SignatureItem.bare, bindWrittenItems, bindWrittenItem, bindCompiled_bare,
      bindWrittenItems, bindWrittenItem]
  | _, _, .class _ _ => List.foldl_map
  | _, _, .classType _ _ => List.foldl_map
  | _, _, .floating _ _ => rfl

theorem bindWrittenModules_bare :
  ∀ (parent : Identifier) (group : Scope) (b : Bound) (ds : List Written.ModuleDeclaration),
    bindWrittenModules parent group b (Written.bareModules ds)
      = bindWrittenModules parent group b ds
  | _, _, _, [] => rfl
  | parent, group, b, ⟨x, type, _, _⟩ :: ds => by
    rw [Written.bareModules, Written.ModuleDeclaration.bare, bindWrittenModules,
      writtenShape_bare, bindWrittenModules_bare, bindWrittenModules]

end

/-- A bare written signature binds the same. -/
theorem bindWritten_bare (scope : Scope) (parent : Identifier) (items : Written.Signature) :
  scope.bindWritten parent (Written.bareItems items) = scope.bindWritten parent items
  := bindWrittenItems_bare parent ⟨scope, []⟩ items

/-- The subject of the constraints on a bare module type. -/
theorem subjectOf_bare (scope : Scope) (owner : Identifier) :
  ∀ type : Written.ModuleType, scope.subjectOf owner type.bare = scope.subjectOf owner type
  | .path _ _ => rfl
  | .signature info items =>
    congrArg (Subject.mk (some owner)) (writtenShape_bare scope owner (.signature info items))
  | .functor _ .unit _ => rfl
  | .functor _ (.named _ _) _ => rfl
  | .constrained _ body _ => subjectOf_bare scope owner body
  | .typeOf info expr =>
    congrArg (Subject.mk none) (writtenShape_bare scope owner (.typeOf info expr))
  | .alias _ _ => rfl

end InterfaceDocs.Scope
