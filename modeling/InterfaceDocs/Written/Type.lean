import InterfaceDocs.Attribute
import InterfaceDocs.Flag
import InterfaceDocs.LongIdent
import InterfaceDocs.Path

/-!
# Written types

The type expressions of an interface as its author wrote them, after type checking: every
reference is a compiler path.
-/

namespace InterfaceDocs.Written

/-- The location and the attributes of a node. -/
structure NodeInfo where
  loc : Location
  attributes : List Attribute
  deriving DecidableEq

mutual

/-- A written type expression. -/
inductive CoreType where
  | any (info : NodeInfo)
  | var (info : NodeInfo) (name : String)
  | arrow (info : NodeInfo) (label : ArgLabel) (arg res : CoreType)
  | tuple (info : NodeInfo) (types : List CoreType)
  | constr (info : NodeInfo) (path : Path) (args : List CoreType)
  | object (info : NodeInfo) (fields : List ObjectField) (closure : ClosedFlag)
  | class (info : NodeInfo) (path : Path) (args : List CoreType)
  | alias (info : NodeInfo) (type : CoreType) (name : String)
  | variant (info : NodeInfo) (fields : List RowField) (closure : ClosedFlag)
      (present : Option (List String))
  | poly (info : NodeInfo) (vars : List String) (body : CoreType)
  | package (info : NodeInfo) (path : Path) (fields : List PackageField) (loc : Location)

/-- A field of an object type: a method, or an inherited object type. -/
inductive ObjectField where
  | method (name : Located String) (attributes : List Attribute) (type : CoreType)
  | inherit (type : CoreType)

/-- A field of a polymorphic variant: a tag, or an inherited variant type. -/
inductive RowField where
  | tag (name : Located String) (attributes : List Attribute) (constant : Bool)
      (args : List CoreType)
  | inherit (type : CoreType)

/-- A constraint of a package type. -/
inductive PackageField where
  | mk (name : Located LongIdent) (type : CoreType)

end

/-- The location and the attributes of a type expression. -/
def CoreType.info : CoreType → NodeInfo
  | .any info => info
  | .var info _ => info
  | .arrow info _ _ _ => info
  | .tuple info _ => info
  | .constr info _ _ => info
  | .object info _ _ => info
  | .class info _ _ => info
  | .alias info _ _ => info
  | .variant info _ _ _ => info
  | .poly info _ _ => info
  | .package info _ _ _ => info

end InterfaceDocs.Written
