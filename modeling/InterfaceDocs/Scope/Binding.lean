import InterfaceDocs.Scope.Basic
import InterfaceDocs.Written.Signature

/-!
# Binding signatures

Before the items of a signature are read, all of them are bound.  Binding a signature under a
parent gives a scope and the members that the signature exposes; the members are the shape of
a module with that signature.  Paths that do not resolve have an unknown shape here, they
fail only when they are read.
-/

namespace InterfaceDocs

/-- A scope with the members that the bound items expose. -/
structure Bound where
  scope : Scope
  members : List Member

namespace Bound

/-- Binds an identifier that is not a member. -/
def hide (b : Bound) (x : Ident) (id : Identifier) (shape : Shape) : Bound :=
  ⟨b.scope.add x id shape, b.members⟩

/-- Exposes a member. -/
def expose (b : Bound) (space : Namespace) (name : String) (shape : Shape) : Bound :=
  ⟨b.scope, Member.insert (.mk space name shape) b.members⟩

/-- Binds identifiers of one entity of which nothing is known, one after the other. -/
def hideAll (b : Bound) (xs : List Ident) (id : Identifier) : Bound :=
  xs.foldl (fun b x => b.hide x id .unknown) b

/-- Declares a member under `parent`: binds its identifier, after its companions, and exposes
it. -/
def declare (b : Bound) (parent : Identifier) (space : Namespace) (x : Ident)
    (companions : List Ident) (shape : Shape) : Bound :=
  let id := parent.child space.kind x.name
  ((b.hideAll companions id).hide x id shape).expose space x.name shape

end Bound

namespace Scope

/-- The shape of a module type path. -/
def pathShape (scope : Scope) (p : Path) : Shape :=
  match scope.resolveWithShape .moduleType p with
  | .ok (_, shape) => shape
  | .error _ => .unknown

/-- The shape of an alias of a module. -/
def aliasShape (scope : Scope) (p : Path) : Shape :=
  match scope.resolveWithShape .module p with
  | .ok (.resolved target, shape) => .alias target shape
  | _ => .unknown

mutual

/-- The shape of a compiled module type; `parent` owns an inline signature. -/
def compiledShape (scope : Scope) (parent : Identifier) : Compiled.ModuleType → Shape
  | .path p => scope.pathShape p
  | .signature items => .signature (bindCompiledItems parent ⟨scope, []⟩ items).members
  | .functor _ _ _ => .unknown
  | .alias p => scope.aliasShape p

/-- Binds the items of a compiled signature. -/
def bindCompiledItems (parent : Identifier) (b : Bound) : List Compiled.SignatureItem → Bound
  | [] => b
  | item :: items => bindCompiledItems parent (bindCompiledItem parent b item) items

/-- Binds an item of a compiled signature. -/
def bindCompiledItem (parent : Identifier) (b : Bound) : Compiled.SignatureItem → Bound
  | .value _ _ => b
  | .extension _ _ _ => b
  | .type x _ _ => b.declare parent .type x [] .unknown
  | .module x ⟨type, _, _⟩ _ =>
    b.declare parent .module x [] (b.scope.compiledShape (parent.child .module x.name) type)
  | .moduleType x ⟨some type, _, _⟩ =>
    b.declare parent .moduleType x []
      (b.scope.compiledShape (parent.child .moduleType x.name) type)
  | .moduleType x ⟨none, _, _⟩ => b.declare parent .moduleType x [] .unknown
  | .class x d _ =>
    b.declare parent .classDef x (d.classTypeIdent.toList ++ d.objectIdent.toList) .unknown
  | .classType x d _ => b.declare parent .classType x d.objectIdent.toList .unknown

end

/-- Binds a compiled signature. -/
def bindCompiled (scope : Scope) (parent : Identifier) (items : Compiled.Signature) : Bound :=
  bindCompiledItems parent ⟨scope, []⟩ items

/-- The member that a constraint removes: substitutions of undotted names remove one. -/
def removedMember (clause : Written.WithClause) : Option (Namespace × String) :=
  match clause.constraint, clause.name.txt with
  | .typeSubst _, .ident name => some (.type, name)
  | .moduleSubst _, .ident name => some (.module, name)
  | _, _ => none

/-- Binds the members of a group of recursive modules of which nothing is known yet. -/
def bindGroup (parent : Identifier) (scope : Scope) (ds : List Written.ModuleDeclaration) :
    Scope :=
  ds.foldl (fun scope d => scope.add d.ident (parent.child .module d.ident.name) .unknown) scope

/-- Binds a class with its class type and its object type. -/
def bindClass (parent : Identifier) (b : Bound) (d : Written.ClassDeclaration) : Bound :=
  (b.hideAll [d.classIdent, d.classTypeIdent, d.objectIdent]
    (parent.child .classDef d.classIdent.name)).expose .classDef d.classIdent.name .unknown

/-- Binds a class type with its object type. -/
def bindClassType (parent : Identifier) (b : Bound) (d : Written.ClassDeclaration) : Bound :=
  (b.hideAll [d.classTypeIdent, d.objectIdent]
    (parent.child .classType d.classTypeIdent.name)).expose .classType d.classTypeIdent.name
      .unknown

mutual

/-- The shape of a written module type; `parent` owns an inline signature. -/
def writtenShape (scope : Scope) (parent : Identifier) : Written.ModuleType → Shape
  | .path _ p => scope.pathShape p
  | .signature _ items => .signature (bindWrittenItems parent ⟨scope, []⟩ items).members
  | .functor _ _ _ => .unknown
  | .constrained _ body clauses =>
    (scope.writtenShape parent body).without (clauses.filterMap removedMember)
  | .typeOf _ expr => scope.compiledShape parent expr.info.type
  | .alias _ p => scope.aliasShape p

/-- Binds the items of a written signature. -/
def bindWrittenItems (parent : Identifier) (b : Bound) : List Written.SignatureItem → Bound
  | [] => b
  | item :: items => bindWrittenItems parent (bindWrittenItem parent b item) items

/-- Binds an item of a written signature. -/
def bindWrittenItem (parent : Identifier) (b : Bound) : Written.SignatureItem → Bound
  | .value _ _ => b
  | .type _ _ ds => ds.foldl (fun b d => b.declare parent .type d.ident [] .unknown) b
  | .typeSubst _ ds =>
    ds.foldl (fun b d => b.hide d.ident (parent.child .type d.ident.name) .unknown) b
  | .extension _ _ => b
  | .exception _ _ => b
  | .module _ ⟨x, type, _, _⟩ =>
    b.declare parent .module x [] (b.scope.writtenShape (parent.child .module x.name) type)
  | .moduleSubst _ d =>
    b.hide d.ident (parent.child .module d.ident.name) (b.scope.aliasShape d.manifest)
  | .recModule _ ds => bindWrittenModules parent (bindGroup parent b.scope ds) b ds
  | .moduleType _ ⟨x, some type, _, _⟩ =>
    b.declare parent .moduleType x []
      (b.scope.writtenShape (parent.child .moduleType x.name) type)
  | .moduleType _ ⟨x, none, _, _⟩ => b.declare parent .moduleType x [] .unknown
  | .opened _ _ => b
  | .included _ ⟨_, content, _, _⟩ =>
    let included := b.scope.bindCompiled parent content
    ⟨included.scope, Member.insertAll b.members included.members⟩
  | .class _ ds => ds.foldl (bindClass parent) b
  | .classType _ ds => ds.foldl (bindClassType parent) b
  | .floating _ _ => b

/-- Binds the members of a group of recursive modules, whose types are looked at in the scope
of the group. -/
def bindWrittenModules (parent : Identifier) (group : Scope) (b : Bound) :
    List Written.ModuleDeclaration → Bound
  | [] => b
  | ⟨x, type, _, _⟩ :: ds =>
    bindWrittenModules parent group
      (b.declare parent .module x [] (group.writtenShape (parent.child .module x.name) type)) ds

end

/-- Binds a written signature. -/
def bindWritten (scope : Scope) (parent : Identifier) (items : Written.Signature) : Bound :=
  bindWrittenItems parent ⟨scope, []⟩ items

/-- The subject of the constraints on a module type that `owner` declares. -/
def subjectOf (scope : Scope) (owner : Identifier) : Written.ModuleType → Subject
  | .path _ p =>
    match scope.resolveSubject p with
    | .ok (_, subject) => subject
    | .error _ => .unknown
  | .signature info items => ⟨some owner, scope.writtenShape owner (.signature info items)⟩
  | .constrained _ body _ => scope.subjectOf owner body
  | type => ⟨none, scope.writtenShape owner type⟩

end Scope

end InterfaceDocs
