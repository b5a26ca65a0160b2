import InterfaceDocs.Ident

/-!
# Compiler paths

A path is how the compiler refers to a type, a module, a module type or a class: an
identifier followed by projections and functor applications.
-/

namespace InterfaceDocs

/-- A compiler path. -/
inductive Path where
  | ident (x : Ident)
  | dot (head : Path) (name : String)
  | apply (functor argument : Path)
  deriving DecidableEq

namespace Path

/-- The path that projects the given names one after the other. -/
def extend (p : Path) (names : List String) : Path :=
  names.foldl dot p

/-- Whether two paths denote the same entity. -/
def same : Path → Path → Bool
  | .ident x, .ident y => x.same y
  | .dot p m, .dot q n => m == n && p.same q
  | .apply f a, .apply g b => f.same g && a.same b
  | _, _ => false

/-- The identifier that a path starts with, if it does not start with an application. -/
def head : Path → Option Ident
  | .ident x => some x
  | .dot p _ => p.head
  | .apply _ _ => none

/-- The last name of a path. -/
def last : Path → String
  | .ident x => x.name
  | .dot _ name => name
  | .apply _ argument => argument.last

/-- The path as it is written, without stamps. -/
def text : Path → String
  | .ident x => x.name
  | .dot p name => p.text ++ "." ++ name
  | .apply functor argument => functor.text ++ "(" ++ argument.text ++ ")"

end Path

end InterfaceDocs
