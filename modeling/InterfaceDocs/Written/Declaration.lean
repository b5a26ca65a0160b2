import InterfaceDocs.Written.Type

/-!
# Written declarations

Values, types, extensions and classes as their author wrote them.
-/

namespace InterfaceDocs.Written

/-- The description of a value; an external value has the names of its primitives. -/
structure ValueDescription where
  ident : Ident
  type : CoreType
  primitives : List String
  loc : Location
  attributes : List Attribute

/-- A type parameter with its marks. -/
structure TypeParam where
  type : CoreType
  variance : VarianceMark
  injectivity : Injectivity

/-- A clause that equates two types. -/
structure TypeConstraint where
  left : CoreType
  right : CoreType
  loc : Location

/-- A field of a record. -/
structure LabelDeclaration where
  ident : Ident
  mutability : MutableFlag
  type : CoreType
  loc : Location
  attributes : List Attribute

/-- The arguments of a constructor. -/
inductive ConstructorArguments where
  | tuple (types : List CoreType)
  | record (labels : List LabelDeclaration)

/-- A constructor of a variant type. -/
structure ConstructorDeclaration where
  ident : Ident
  args : ConstructorArguments
  result : Option CoreType
  loc : Location
  attributes : List Attribute

/-- The representation of a type. -/
inductive TypeKind where
  | abstract
  | variant (constructors : List ConstructorDeclaration)
  | record (labels : List LabelDeclaration)
  | extensible

/-- A type declaration. -/
structure TypeDeclaration where
  ident : Ident
  params : List TypeParam
  constraints : List TypeConstraint
  kind : TypeKind
  privacy : PrivateFlag
  manifest : Option CoreType
  loc : Location
  attributes : List Attribute

/-- A constructor of an extensible type is declared, or it is another name of an existing
one. -/
inductive ExtensionKind where
  | declared (args : ConstructorArguments) (result : Option CoreType)
  | rebound (path : Path)

/-- A constructor of an extensible type, or an exception. -/
structure ExtensionConstructor where
  ident : Ident
  kind : ExtensionKind
  loc : Location
  attributes : List Attribute

/-- An extension of an extensible type. -/
structure TypeExtension where
  path : Path
  params : List TypeParam
  constructors : List ExtensionConstructor
  privacy : PrivateFlag
  loc : Location
  attributes : List Attribute

mutual

/-- A class type. -/
inductive ClassType where
  | constr (info : NodeInfo) (path : Path) (args : List CoreType)
  | signature (info : NodeInfo) (self : CoreType) (fields : List ClassField)
  | arrow (info : NodeInfo) (label : ArgLabel) (arg : CoreType) (res : ClassType)

/-- A field of the body of a class. -/
inductive ClassField where
  | inherit (info : NodeInfo) (type : ClassType)
  | instanceVariable (info : NodeInfo) (name : String) (mutability : MutableFlag)
      (virtuality : VirtualFlag) (type : CoreType)
  | method (info : NodeInfo) (name : String) (privacy : PrivateFlag)
      (virtuality : VirtualFlag) (type : CoreType)
  | constraint (info : NodeInfo) (left right : CoreType)
  | floating (info : NodeInfo) (a : Attribute)

end

/-- A class or class type declaration, with the identifiers of the class, of its class type
and of its object type. -/
structure ClassDeclaration where
  virtuality : VirtualFlag
  params : List TypeParam
  classIdent : Ident
  classTypeIdent : Ident
  objectIdent : Ident
  type : ClassType
  loc : Location
  attributes : List Attribute

end InterfaceDocs.Written
