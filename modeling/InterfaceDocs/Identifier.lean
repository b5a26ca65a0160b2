import InterfaceDocs.Name

/-!
# Documentation identifiers

An identifier names a documented entity by its place in the tree of declarations: the root
is a compilation unit, a child is declared under its parent with a kind and a name, and an
argument is a functor parameter, numbered along its owner's chain of parameters so that
parameters of the same name differ.  `Identifier.text` is the printed form.
-/

namespace InterfaceDocs

/-- The kinds of documented entities. -/
inductive IdentifierKind where
  | root
  | module
  | moduleType
  | type
  | value
  | exception
  | extension
  | classDef
  | classType
  | method
  | instanceVariable
  | constructor
  | field
  | functorParameter
  deriving DecidableEq

/-- The word that stands for a kind in printed identifiers. -/
def IdentifierKind.text : IdentifierKind → String
  | .root => "root"
  | .module => "module"
  | .moduleType => "module-type"
  | .type => "type"
  | .value => "val"
  | .exception => "exception"
  | .extension => "extension"
  | .classDef => "class"
  | .classType => "class-type"
  | .method => "method"
  | .instanceVariable => "instance-variable"
  | .constructor => "constructor"
  | .field => "field"
  | .functorParameter => "argument"

/-- The kinds of declarations nested under another one. -/
def IdentifierKind.nested : List IdentifierKind :=
  [.module, .moduleType, .type, .value, .exception, .extension, .classDef, .classType, .method,
    .instanceVariable, .constructor, .field]

/-- A stable name of a documented entity. -/
inductive Identifier where
  | root (container name : String)
  | child (parent : Identifier) (kind : IdentifierKind) (name : String)
  | argument (parent : Identifier) (position : Nat) (name : String)
  deriving DecidableEq

namespace Identifier

/-- The kind of the entity. -/
def kind : Identifier → IdentifierKind
  | .root _ _ => .root
  | .child _ kind _ => kind
  | .argument _ _ _ => .functorParameter

/-- The name of the entity. -/
def name : Identifier → String
  | .root _ name => name
  | .child _ _ name => name
  | .argument _ _ name => name

/-- The position of a functor parameter among the parameters of its owner. -/
def position : Identifier → Option Nat
  | .argument _ position _ => some position
  | _ => none

/-- The identifier that this one is nested under. -/
def parent : Identifier → Option Identifier
  | .root _ _ => none
  | .child parent _ _ => some parent
  | .argument parent _ _ => some parent

/-- The compilation unit that the entity belongs to. -/
def rootOf : Identifier → Identifier
  | .root container name => .root container name
  | .child parent _ _ => parent.rootOf
  | .argument parent _ _ => parent.rootOf

/-- Whether `x` is `y` or nested anywhere under it. -/
def isWithin (x y : Identifier) : Bool :=
  x == y ||
    match x with
    | .root _ _ => false
    | .child parent _ _ => parent.isWithin y
    | .argument parent _ _ => parent.isWithin y

/-- The printed form of an identifier. -/
def text : Identifier → String
  | .root _ name => name
  | .child parent kind name =>
    parent.text ++ "." ++ kind.text ++ "-" ++ Name.parenthesised name
  | .argument parent position name =>
    parent.text ++ ".argument-" ++ toString position ++ "-" ++ name

/-- The printed form of an identifier that also shows the container of a root. -/
def fullText : Identifier → String
  | .root container name => "Root(" ++ container ++ ", " ++ name ++ ")"
  | x => x.text

end Identifier

end InterfaceDocs
