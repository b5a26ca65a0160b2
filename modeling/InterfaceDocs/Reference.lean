import InterfaceDocs.Identifier
import InterfaceDocs.Text.Split

/-!
# References

A reference is what a type expression or an alias of the documentation model points with.  It
is resolved when it could be followed to a declaration, and otherwise it records how far it
was followed.  A fragment is a reference relative to a constrained signature.
-/

namespace InterfaceDocs

/-- The namespace that a path is looked up in. -/
inductive PathKind where
  | module
  | moduleType
  | type
  | classType
  deriving DecidableEq

/-- A reference to a module, a module type, a type or a class: a declaration of this unit,
another unit, a predefined entity, a projection that was not followed, or a functor
application. -/
inductive Reference where
  | resolved (id : Identifier)
  | root (name : String)
  | core (name : String)
  | dot (head : Reference) (name : String)
  | apply (functor argument : Reference)
  deriving DecidableEq

namespace Reference

/-- The reference that projects the given names one after the other. -/
def extend (r : Reference) (names : List String) : Reference :=
  names.foldl dot r

/-- The reference to a unit and its components, as a dotted name spells it: surrounding
blanks are dropped, and a name with an empty component denotes nothing. -/
def ofDotted (s : String) : Option Reference :=
  match Text.pieces '.' (Text.trimmed s) with
  | [] => none
  | name :: names =>
    if (name :: names).contains "" then none else some (extend (.root name) names)

/-- The declaration that a reference points at, if it is resolved. -/
def identifier : Reference → Option Identifier
  | .resolved id => some id
  | _ => none

/-- Whether a reference is resolved. -/
def isResolved (r : Reference) : Bool :=
  r.identifier.isSome

/-- The printed form of a reference. -/
def text : Reference → String
  | .resolved id => id.text
  | .root name => name
  | .core name => name
  | .dot head name => head.text ++ "." ++ name
  | .apply functor argument => functor.text ++ "(" ++ argument.text ++ ")"

end Reference

/-- A reference relative to a constrained signature. -/
inductive Fragment where
  | root
  | resolved (id : Identifier)
  | dot (head : Fragment) (name : String)
  deriving DecidableEq

namespace Fragment

/-- The unresolved fragment with the given components. -/
def ofComponents (names : List String) : Fragment :=
  names.foldl dot root

/-- Whether a fragment is resolved. -/
def isResolved : Fragment → Bool
  | .resolved _ => true
  | _ => false

/-- The printed form of a fragment. -/
def text : Fragment → String
  | .root => ""
  | .resolved id => id.text
  | .dot .root name => name
  | .dot head name => head.text ++ "." ++ name

end Fragment

end InterfaceDocs
