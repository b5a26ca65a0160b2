import InterfaceDocs.Flag
import InterfaceDocs.LongIdent
import InterfaceDocs.Path

/-!
# Compiled types

The type expressions of a compiled signature.  Variables are named or anonymous, and
anonymous variables with equal ids are the same variable.  `TypeExpr.nodes` lists a type
expression and all expressions in it, outermost first.
-/

namespace InterfaceDocs.Compiled

mutual

/-- A compiled type expression. -/
inductive TypeExpr where
  | var (name : Option String) (id : Int32)
  | arrow (label : ArgLabel) (arg res : TypeExpr)
  | tuple (types : List TypeExpr)
  | constr (path : Path) (args : List TypeExpr)
  | object (methods : List ObjectMethod) (isOpen : Bool)
  | variant (fields : List RowEntry) (isClosed : Bool) (name : Option RowName)
  | poly (body : TypeExpr) (vars : List TypeExpr)
  | univar (name : Option String) (id : Int32)
  | package (path : Path) (names : List LongIdent) (types : List TypeExpr)
  | alias (type : TypeExpr) (name : String)

/-- A method of an object type. -/
inductive ObjectMethod where
  | mk (name : String) (type : TypeExpr)

/-- A tag of a polymorphic variant: present with an optional argument, possibly present with
conjunctive arguments, or absent. -/
inductive RowField where
  | present (arg : Option TypeExpr)
  | either (constant : Bool) (args : List TypeExpr)
  | absent

/-- A tag of a polymorphic variant with its name. -/
inductive RowEntry where
  | mk (tag : String) (field : RowField)

/-- The abbreviation that a polymorphic variant was expanded from. -/
inductive RowName where
  | mk (path : Path) (args : List TypeExpr)

end

mutual

/-- The expressions in a type expression, itself first and then its parts from left to
right; the variables of a quantifier come before its body. -/
def TypeExpr.nodes : TypeExpr → List TypeExpr
  | .var name id => [.var name id]
  | .univar name id => [.univar name id]
  | .arrow label arg res => .arrow label arg res :: (arg.nodes ++ res.nodes)
  | .tuple types => .tuple types :: nodesList types
  | .constr path args => .constr path args :: nodesList args
  | .package path names types => .package path names types :: nodesList types
  | .object methods isOpen => .object methods isOpen :: nodesMethods methods
  | .variant fields isClosed name =>
    .variant fields isClosed name ::
      (nodesRow fields ++
        match name with
        | some (.mk _ args) => nodesList args
        | none => [])
  | .poly body vars => .poly body vars :: (nodesList vars ++ body.nodes)
  | .alias type name => .alias type name :: type.nodes

/-- The expressions in a list of type expressions. -/
def nodesList : List TypeExpr → List TypeExpr
  | [] => []
  | type :: types => type.nodes ++ nodesList types

/-- The expressions in a list of methods. -/
def nodesMethods : List ObjectMethod → List TypeExpr
  | [] => []
  | .mk _ type :: methods => type.nodes ++ nodesMethods methods

/-- The expressions in a list of tags. -/
def nodesRow : List RowEntry → List TypeExpr
  | [] => []
  | .mk _ (.present (some type)) :: entries => type.nodes ++ nodesRow entries
  | .mk _ (.present none) :: entries => nodesRow entries
  | .mk _ (.either _ types) :: entries => nodesList types ++ nodesRow entries
  | .mk _ .absent :: entries => nodesRow entries

end

end InterfaceDocs.Compiled
