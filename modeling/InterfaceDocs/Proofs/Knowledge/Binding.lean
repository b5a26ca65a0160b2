import InterfaceDocs.Proofs.Knowledge.Scope

/-!
# Binding is monotone

The shape of a module type grows with the scope that it is computed in, and so does what a
signature binds and exposes (`Scope.writtenShape_mono`, `Scope.bindWrittenItems_mono`): a path
that did not resolve in the smaller scope had an unknown shape, and one that did leads to the
same declaration in the greater scope.
-/

namespace InterfaceDocs

/-- What is bound and exposed on the left is bound and exposed on the right, where more is
known. -/
structure Bound.Le (b b' : Bound) : Prop where
  scope : b.scope.Le b'.scope
  members : Member.ListLe b.members b'.members

namespace Bound.Le

variable {b b' : Bound}

theorem start {scope scope' : Scope} (h : scope.Le scope') :
  (Bound.mk scope []).Le ⟨scope', []⟩
  := ⟨h, .nil⟩

/-- Binding an identifier that is no member keeps what is known in order. -/
theorem hide (h : b.Le b') (x : Ident) (id : Identifier) {shape shape' : Shape}
    (hshape : shape.Le shape') :
  (b.hide x id shape).Le (b'.hide x id shape')
  := ⟨h.scope.add x id hshape, h.members⟩

/-- Exposing a member keeps what is known in order. -/
theorem expose (h : b.Le b') (space : Namespace) (name : String) {shape shape' : Shape}
    (hshape : shape.Le shape') :
  (b.expose space name shape).Le (b'.expose space name shape')
  := ⟨h.scope, h.members.insert space name hshape⟩

theorem hideAll (h : b.Le b') (xs : List Ident) (id : Identifier) :
  (b.hideAll xs id).Le (b'.hideAll xs id)
  := by
  induction xs generalizing b b' with
  | nil => apply h
  | cons x xs ih =>
    apply ih
    apply h.hide x id (.unknown .unknown)

/-- Declaring a member keeps what is known in order. -/
theorem declare (h : b.Le b') (parent : Identifier) (space : Namespace) (x : Ident)
    (companions : List Ident) {shape shape' : Shape} (hshape : shape.Le shape') :
  (b.declare parent space x companions shape).Le (b'.declare parent space x companions shape')
  := by
  apply expose _ space x.name hshape
  apply hide _ x _ hshape
  apply h.hideAll

/-- A fold is monotone if its steps are. -/
theorem foldl {α : Type} {f : Bound → α → Bound} (h : b.Le b')
    (hf : ∀ (b b' : Bound) (a : α), b.Le b' → (f b a).Le (f b' a)) (as : List α) :
  (as.foldl f b).Le (as.foldl f b')
  := by
  induction as generalizing b b' with
  | nil => apply h
  | cons a as ih =>
    apply ih
    apply hf b b' a h

end Bound.Le

namespace Scope

/-! ### Compiled signatures -/

mutual

/-- More is known of a compiled module type in a greater scope. -/
theorem compiledShape_mono :
  ∀ {scope scope' : Scope} (parent : Identifier) (type : Compiled.ModuleType),
    scope.Le scope' → (scope.compiledShape parent type).Le (scope'.compiledShape parent type)
  | _, _, _, .path p, h => h.pathShape p
  | _, _, parent, .signature items, h => by
    apply Shape.Le.signature
    apply (bindCompiledItems_mono parent items (.start h)).members
  | _, _, _, .functor _ _ _, _ => .unknown .unknown
  | _, _, _, .alias p, h => h.aliasShape p

/-- Compiled items that are bound in a greater scope give more. -/
theorem bindCompiledItems_mono :
  ∀ {b b' : Bound} (parent : Identifier) (items : List Compiled.SignatureItem), b.Le b' →
    (bindCompiledItems parent b items).Le (bindCompiledItems parent b' items)
  | _, _, _, [], h => h
  | _, _, parent, item :: items, h =>
    bindCompiledItems_mono parent items (bindCompiledItem_mono parent item h)

theorem bindCompiledItem_mono :
  ∀ {b b' : Bound} (parent : Identifier) (item : Compiled.SignatureItem), b.Le b' →
    (bindCompiledItem parent b item).Le (bindCompiledItem parent b' item)
  | _, _, _, .value _ _, h => h
  | _, _, _, .extension _ _ _, h => h
  | _, _, parent, .type x _ _, h => h.declare parent .type x [] (.unknown .unknown)
  | _, _, parent, .module x ⟨type, _, _⟩ _, h => by
    apply h.declare parent .module x []
    apply compiledShape_mono _ type h.scope
  | _, _, parent, .moduleType x ⟨some type, _, _⟩, h => by
    apply h.declare parent .moduleType x []
    apply compiledShape_mono _ type h.scope
  | _, _, parent, .moduleType x ⟨none, _, _⟩, h =>
    h.declare parent .moduleType x [] (.unknown .unknown)
  | _, _, parent, .class x _ _, h => h.declare parent .classDef x _ (.unknown .unknown)
  | _, _, parent, .classType x _ _, h => h.declare parent .classType x _ (.unknown .unknown)

end

/-! ### Written signatures -/

/-- A recursive group in a greater scope is greater. -/
theorem Le.bindGroup {scope scope' : Scope} (h : scope.Le scope') (parent : Identifier)
    (ds : List Written.ModuleDeclaration) :
  (Scope.bindGroup parent scope ds).Le (Scope.bindGroup parent scope' ds)
  := by
  induction ds generalizing scope scope' with
  | nil => apply h
  | cons d ds ih =>
    apply ih
    apply h.add d.ident _ (.unknown .unknown)

mutual

/-- More is known of a module type in a greater scope. -/
theorem writtenShape_mono :
  ∀ {scope scope' : Scope} (parent : Identifier) (type : Written.ModuleType),
    scope.Le scope' → (scope.writtenShape parent type).Le (scope'.writtenShape parent type)
  | _, _, _, .path _ p, h => h.pathShape p
  | _, _, parent, .signature _ items, h => by
    apply Shape.Le.signature
    apply (bindWrittenItems_mono parent items (.start h)).members
  | _, _, _, .functor _ _ _, _ => .unknown .unknown
  | _, _, parent, .constrained _ body clauses, h =>
    (writtenShape_mono parent body h).without (clauses.filterMap removedMember)
  | _, _, parent, .typeOf _ expr, h => compiledShape_mono parent expr.info.type h
  | _, _, _, .alias _ p, h => h.aliasShape p

/-- Binding the same items from comparable scopes gives comparable scopes and members. -/
theorem bindWrittenItems_mono :
  ∀ {b b' : Bound} (parent : Identifier) (items : List Written.SignatureItem), b.Le b' →
    (bindWrittenItems parent b items).Le (bindWrittenItems parent b' items)
  | _, _, _, [], h => h
  | _, _, parent, item :: items, h =>
    bindWrittenItems_mono parent items (bindWrittenItem_mono parent item h)

theorem bindWrittenItem_mono :
  ∀ {b b' : Bound} (parent : Identifier) (item : Written.SignatureItem), b.Le b' →
    (bindWrittenItem parent b item).Le (bindWrittenItem parent b' item)
  | _, _, _, .value _ _, h => h
  | _, _, _, .extension _ _, h => h
  | _, _, _, .exception _ _, h => h
  | _, _, _, .opened _ _, h => h
  | _, _, _, .floating _ _, h => h
  | _, _, parent, .type _ _ ds, h => by
    apply h.foldl
    intro b b' d h
    apply h.declare parent .type d.ident [] (.unknown .unknown)
  | _, _, parent, .typeSubst _ ds, h => by
    apply h.foldl
    intro b b' d h
    apply h.hide d.ident _ (.unknown .unknown)
  | _, _, parent, .module _ ⟨x, type, _, _⟩, h => by
    apply h.declare parent .module x []
    apply writtenShape_mono _ type h.scope
  | _, _, parent, .moduleSubst _ d, h => by
    apply h.hide d.ident
    apply h.scope.aliasShape d.manifest
  | _, _, parent, .recModule _ ds, h =>
    bindWrittenModules_mono parent ds (h.scope.bindGroup parent ds) h
  | _, _, parent, .moduleType _ ⟨x, some type, _, _⟩, h => by
    apply h.declare parent .moduleType x []
    apply writtenShape_mono _ type h.scope
  | _, _, parent, .moduleType _ ⟨x, none, _, _⟩, h =>
    h.declare parent .moduleType x [] (.unknown .unknown)
  | _, _, parent, .included _ ⟨_, content, _, _⟩, h => by
    have hincluded := bindCompiledItems_mono parent content (.start h.scope)
    constructor
    · apply hincluded.scope
    · apply h.members.insertAll hincluded.members
  | _, _, parent, .class _ ds, h => by
    apply h.foldl
    intro b b' d h
    apply (h.hideAll _ _).expose .classDef d.classIdent.name (.unknown .unknown)
  | _, _, parent, .classType _ ds, h => by
    apply h.foldl
    intro b b' d h
    apply (h.hideAll _ _).expose .classType d.classTypeIdent.name (.unknown .unknown)

/-- The modules of a group give more in a greater scope with a greater scope of the group. -/
theorem bindWrittenModules_mono :
  ∀ {group group' : Scope} {b b' : Bound} (parent : Identifier)
    (ds : List Written.ModuleDeclaration), group.Le group' → b.Le b' →
      (bindWrittenModules parent group b ds).Le (bindWrittenModules parent group' b' ds)
  | _, _, _, _, _, [], _, h => h
  | _, _, _, _, parent, ⟨x, type, _, _⟩ :: ds, hgroup, h => by
    apply bindWrittenModules_mono parent ds hgroup
    apply h.declare parent .module x []
    apply writtenShape_mono _ type hgroup

end

end Scope

end InterfaceDocs
