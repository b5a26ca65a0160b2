import InterfaceDocs.Reference

/-!
# Shapes

A shape is what is known about a module or module type without expanding anything: nothing,
its members, or that it is an alias, whose members live under the target.  Members are kept
in the order of their first declaration, and a later declaration of the same name takes the
place of an earlier one.  `Shape.project?` looks a member up.
-/

namespace InterfaceDocs

/-- The namespaces that a member of a module can live in. -/
inductive Namespace where
  | module
  | moduleType
  | type
  | classDef
  | classType
  deriving DecidableEq

/-- The kind of the identifiers in a namespace. -/
def Namespace.kind : Namespace → IdentifierKind
  | .module => .module
  | .moduleType => .moduleType
  | .type => .type
  | .classDef => .classDef
  | .classType => .classType

/-- The namespaces that are searched, in order, for the last name of a path. -/
def PathKind.namespaces : PathKind → List Namespace
  | .module => [.module]
  | .moduleType => [.moduleType]
  | .type => [.type, .classDef, .classType]
  | .classType => [.classDef, .classType]

mutual

/-- What is known about a module or module type. -/
inductive Shape where
  | unknown
  | signature (members : List Member)
  | alias (target : Identifier) (shape : Shape)

/-- A member of a module, with its own shape. -/
inductive Member where
  | mk (space : Namespace) (name : String) (shape : Shape)

end

namespace Member

/-- The namespace and the name of a member. -/
def key : Member → Namespace × String
  | .mk space name _ => (space, name)

/-- The shape of a member. -/
def shape : Member → Shape
  | .mk _ _ shape => shape

/-- Adds a member, in the place of one with the same key if there is one. -/
def insert (m : Member) : List Member → List Member
  | [] => [m]
  | n :: members => if n.key = m.key then m :: members else n :: insert m members

/-- Adds members one after the other. -/
def insertAll (members : List Member) (ms : List Member) : List Member :=
  ms.foldl (fun members m => insert m members) members

/-- The shape of the member with the given key. -/
def find? (key : Namespace × String) : List Member → Option Shape
  | [] => none
  | m :: members => if m.key = key then some m.shape else find? key members

end Member

namespace Shape

/-- The keys of the members, in order. -/
def memberNames : Shape → List (Namespace × String)
  | .unknown => []
  | .signature members => members.map Member.key
  | .alias _ shape => shape.memberNames

/-- The shape without the given members; an alias keeps those of its target. -/
def without (removed : List (Namespace × String)) : Shape → Shape
  | .signature members => .signature (members.filter fun m => !removed.contains m.key)
  | shape => shape

/-- The member of the given name under `parent`, in the first of the given namespaces that
has one. -/
def project? (parent : Identifier) (spaces : List Namespace) (name : String) :
    Shape → Option (Identifier × Shape)
  | .unknown => none
  | .alias target shape => shape.project? target spaces name
  | .signature members =>
    spaces.findSome? fun space =>
      (Member.find? (space, name) members).map fun shape => (parent.child space.kind name, shape)

/-- The entity that a list of names leads to from `parent`: all names but the last one are
modules. -/
def follow? (kind : PathKind) : Identifier → Shape → List String → Option Identifier
  | _, _, [] => none
  | parent, shape, [name] => (shape.project? parent kind.namespaces name).map Prod.fst
  | parent, shape, name :: names =>
    match shape.project? parent PathKind.module.namespaces name with
    | some (id, shape) => follow? kind id shape names
    | none => none

end Shape

end InterfaceDocs
