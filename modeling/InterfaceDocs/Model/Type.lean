import InterfaceDocs.Comment.Basic
import InterfaceDocs.Reference

/-!
# Types of the documentation model

The type expressions of the documentation model refer to declarations by references.
`TypeExpr.quantified` builds a quantified type and never one without variables.
-/

namespace InterfaceDocs.Model

/-- The label of an argument that is not positional. -/
inductive Label where
  | label (name : String)
  | optional (name : String)
  deriving DecidableEq

/-- The kind of a polymorphic variant: more tags may be added, the tags are fixed, or the
tags may be left out down to the given ones. -/
inductive VariantKind where
  | opened
  | fixed
  | closed (tags : List String)
  deriving DecidableEq

mutual

/-- A type expression. -/
inductive TypeExpr where
  | any
  | var (name : String)
  | arrow (label : Option Label) (arg res : TypeExpr)
  | tuple (types : List TypeExpr)
  | constr (r : Reference) (args : List TypeExpr)
  | variant (kind : VariantKind) (elements : List VariantElement)
  | object (fields : List ObjectField) (isOpen : Bool)
  | class (r : Reference) (args : List TypeExpr)
  | alias (type : TypeExpr) (name : String)
  | poly (vars : List String) (body : TypeExpr)
  | package (r : Reference) (substitutions : List PackageSubstitution)

/-- An element of a polymorphic variant: a tag, or an inherited variant type. -/
inductive VariantElement where
  | constructor (name : String) (constant : Bool) (args : List TypeExpr) (doc : Doc)
  | type (type : TypeExpr)

/-- A field of an object type: a method, or an inherited object type. -/
inductive ObjectField where
  | method (name : String) (type : TypeExpr)
  | inherit (type : TypeExpr)

/-- A constraint of a package type. -/
inductive PackageSubstitution where
  | mk (fragment : Fragment) (type : TypeExpr)

end

namespace TypeExpr

/-- The body under a quantifier; without variables it is the body itself. -/
def quantified (vars : List String) (body : TypeExpr) : TypeExpr :=
  if vars.isEmpty then body else .poly vars body

/-- The constructor that a type expression applies. -/
def head? : TypeExpr → Option Reference
  | .constr r _ => some r
  | .class r _ => some r
  | _ => none

end TypeExpr

end InterfaceDocs.Model
