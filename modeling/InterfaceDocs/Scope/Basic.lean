import InterfaceDocs.Load.Error
import InterfaceDocs.LongIdent
import InterfaceDocs.Path
import InterfaceDocs.Scope.Shape

/-!
# Scopes

A scope maps compiler identifiers to documentation identifiers and shapes; the latest binding
of an identifier counts.  It also remembers the functor parameter whose result is being read,
from which the next parameter is numbered.  `Scope.resolve` turns a compiler path into a
reference, and `Subject.fragment` resolves the left side of a constraint against the
constrained signature.
-/

namespace InterfaceDocs

/-- A bound identifier. -/
structure Binding where
  ident : Ident
  id : Identifier
  shape : Shape

/-- A scope: its bindings from the latest to the earliest, and the functor parameter whose
result is being read. -/
structure Scope where
  bindings : List Binding
  functorParameter : Option Identifier

namespace Scope

/-- The scope without bindings. -/
def empty : Scope := ⟨[], none⟩

/-- Binds an identifier. -/
def add (scope : Scope) (x : Ident) (id : Identifier) (shape : Shape) : Scope :=
  ⟨⟨x, id, shape⟩ :: scope.bindings, scope.functorParameter⟩

/-- Binds a functor parameter for the result of the functor. -/
def addFunctorParameter (scope : Scope) (x : Ident) (id : Identifier) (shape : Shape) :
    Scope :=
  ⟨⟨x, id, shape⟩ :: scope.bindings, some id⟩

/-- The identifier of the next parameter of a functor that `owner` declares: in the result of
one of the owner's parameters the numbering goes on, and elsewhere it starts at 1. -/
def functorArgument (scope : Scope) (owner : Identifier) (name : String) : Identifier :=
  match scope.functorParameter with
  | some (.argument parent position _) =>
    .argument owner (if parent = owner then position + 1 else 1) name
  | _ => .argument owner 1 name

/-- The latest binding of an identifier. -/
def find? (scope : Scope) (x : Ident) : Option Binding :=
  scope.bindings.find? fun b => b.ident.same x

/-- The reference that a compiler path stands for, with the shape of what it points at.  A
projection is followed when its head is resolved and has the member, and kept otherwise. -/
def resolveWithShape (scope : Scope) : PathKind → Path → Except LoadError (Reference × Shape)
  | _, .ident x =>
    if x.isPredef then .ok (.core x.name, .unknown)
    else if x.isPersistent then .ok (.root x.name, .unknown)
    else
      match scope.find? x with
      | some b => .ok (.resolved b.id, b.shape)
      | none => .error (.unboundIdent x)
  | kind, .dot head name =>
    match scope.resolveWithShape .module head with
    | .error e => .error e
    | .ok (.resolved parent, shape) =>
      match shape.project? parent kind.namespaces name with
      | some (id, shape) => .ok (.resolved id, shape)
      | none => .ok (.dot (.resolved parent) name, .unknown)
    | .ok (r, _) => .ok (.dot r name, .unknown)
  | _, .apply functor argument =>
    match scope.resolveWithShape .module functor with
    | .error e => .error e
    | .ok (f, _) =>
      match scope.resolveWithShape .module argument with
      | .error e => .error e
      | .ok (a, _) => .ok (.apply f a, .unknown)

/-- The reference that a compiler path stands for. -/
def resolve (scope : Scope) (kind : PathKind) (p : Path) : Except LoadError Reference :=
  (scope.resolveWithShape kind p).map Prod.fst

end Scope

/-- The signature that constraints are resolved against: its shape, and the identifier that
its members live under if there is one. -/
structure Subject where
  origin : Option Identifier
  shape : Shape

namespace Subject

/-- The subject of which nothing is known. -/
def unknown : Subject := ⟨none, .unknown⟩

/-- The fragment that a long identifier stands for: resolved if all of its names can be
followed, and otherwise the unresolved names. -/
def fragment (subject : Subject) (kind : PathKind) (name : LongIdent) : Fragment :=
  match name.components with
  | none => .dot .root name.last
  | some names =>
    match subject.origin with
    | none => .ofComponents names
    | some origin =>
      match subject.shape.follow? kind origin names with
      | some id => .resolved id
      | none => .ofComponents names

end Subject

/-- The module type that a path stands for, as the subject of constraints. -/
def Scope.resolveSubject (scope : Scope) (p : Path) : Except LoadError (Reference × Subject) :=
  (scope.resolveWithShape .moduleType p).map fun (r, shape) => (r, ⟨r.identifier, shape⟩)

end InterfaceDocs
