import InterfaceDocs.Model.Type

/-!
# Declarations of the documentation model

Values, types, extensions, exceptions and classes.  Each record carries the identifier and
the documentation of what it declares.
-/

namespace InterfaceDocs.Model

/-- The position of a declaration in its group of recursive declarations. -/
inductive RecFlag where
  | ordinary
  | subsequent
  | nonrecursive
  deriving DecidableEq

/-- The variance of a type parameter. -/
inductive Variance where
  | pos
  | neg
  deriving DecidableEq

/-- A type parameter; a parameter without a name is anonymous. -/
structure TypeParam where
  name : Option String
  variance : Option Variance
  injective : Bool
  deriving DecidableEq

/-- An equation between two types. -/
structure TypeConstraint where
  left : TypeExpr
  right : TypeExpr

/-- The parameters of a type, what it is equal to, and the constraints on it. -/
structure TypeEquation where
  params : List TypeParam
  isPrivate : Bool
  manifest : Option TypeExpr
  constraints : List TypeConstraint

/-- A field of a record. -/
structure Field where
  id : Identifier
  doc : Doc
  isMutable : Bool
  type : TypeExpr

/-- The arguments of a constructor. -/
inductive ConstructorArgs where
  | tuple (types : List TypeExpr)
  | record (fields : List Field)

/-- A constructor of a variant type or of an extensible type, or an exception. -/
structure Constructor where
  id : Identifier
  doc : Doc
  args : ConstructorArgs
  result : Option TypeExpr

/-- The representation of a type that is not abstract. -/
inductive Representation where
  | variant (constructors : List Constructor)
  | record (fields : List Field)
  | extensible

/-- A type declaration. -/
structure TypeDecl where
  id : Identifier
  doc : Doc
  canonical : Option Reference
  equation : TypeEquation
  representation : Option Representation

/-- An extension of an extensible type. -/
structure Extension where
  typePath : Reference
  doc : Doc
  typeParams : List TypeParam
  isPrivate : Bool
  constructors : List Constructor

/-- A value. -/
structure Value where
  id : Identifier
  doc : Doc
  type : TypeExpr

/-- A value that is bound to primitives. -/
structure External where
  id : Identifier
  doc : Doc
  type : TypeExpr
  primitives : List String

/-- A method of a class. -/
structure Method where
  id : Identifier
  doc : Doc
  isPrivate : Bool
  isVirtual : Bool
  type : TypeExpr

/-- An instance variable of a class. -/
structure InstanceVariable where
  id : Identifier
  doc : Doc
  isMutable : Bool
  isVirtual : Bool
  type : TypeExpr

mutual

/-- A class type: an applied class, or a body whose self type may be anonymous. -/
inductive ClassTypeExpr where
  | constr (r : Reference) (args : List TypeExpr)
  | signature (self : Option TypeExpr) (items : List ClassItem)

/-- An item of the body of a class. -/
inductive ClassItem where
  | method (m : Method)
  | instanceVariable (v : InstanceVariable)
  | constraint (c : TypeConstraint)
  | inherit (type : ClassTypeExpr)
  | comment (c : CommentItem)

end

/-- The type of a class: the arguments of its constructor in front of its class type. -/
inductive ClassDecl where
  | classType (type : ClassTypeExpr)
  | arrow (label : Option Label) (arg : TypeExpr) (res : ClassDecl)

/-- A class. -/
structure Class where
  id : Identifier
  doc : Doc
  isVirtual : Bool
  params : List TypeParam
  type : ClassDecl

/-- A class type declaration. -/
structure ClassType where
  id : Identifier
  doc : Doc
  isVirtual : Bool
  params : List TypeParam
  type : ClassTypeExpr

end InterfaceDocs.Model
