import InterfaceDocs.Attribute
import InterfaceDocs.Compiled.Type
import InterfaceDocs.Variance

/-!
# Compiled declarations

Values, types, extension constructors and classes as the type checker computed them.
-/

namespace InterfaceDocs.Compiled

/-- The names of a primitive; the native name is empty when it is the first one. -/
structure Primitive where
  name : String
  arity : Int32
  nativeName : String
  deriving DecidableEq

/-- The names as they are written in an external declaration. -/
def Primitive.names (p : Primitive) : List String :=
  if p.nativeName = "" then [p.name] else [p.name, p.nativeName]

/-- A value is regular or bound to a primitive. -/
inductive ValueKind where
  | regular
  | primitive (p : Primitive)
  deriving DecidableEq

/-- The description of a value. -/
structure ValueDescription where
  type : TypeExpr
  kind : ValueKind
  loc : Location
  attributes : List Attribute

/-- A field of a record. -/
structure LabelDeclaration where
  ident : Ident
  mutability : MutableFlag
  type : TypeExpr
  loc : Location
  attributes : List Attribute

/-- The arguments of a constructor. -/
inductive ConstructorArguments where
  | tuple (types : List TypeExpr)
  | record (labels : List LabelDeclaration)

/-- The types of the arguments of a constructor. -/
def ConstructorArguments.types : ConstructorArguments → List TypeExpr
  | .tuple types => types
  | .record labels => labels.map LabelDeclaration.type

/-- A constructor of a variant type. -/
structure ConstructorDeclaration where
  ident : Ident
  args : ConstructorArguments
  result : Option TypeExpr
  loc : Location
  attributes : List Attribute

/-- The representation of a type. -/
inductive TypeKind where
  | abstract
  | record (labels : List LabelDeclaration)
  | variant (constructors : List ConstructorDeclaration)
  | extensible

/-- A type declaration; the variances belong to the parameters in order. -/
structure TypeDeclaration where
  params : List TypeExpr
  kind : TypeKind
  privacy : PrivateFlag
  manifest : Option TypeExpr
  variance : List Variance
  loc : Location
  attributes : List Attribute

/-- A constructor of an extensible type, or an exception. -/
structure ExtensionConstructor where
  typePath : Path
  typeParams : List TypeExpr
  args : ConstructorArguments
  result : Option TypeExpr
  privacy : PrivateFlag
  loc : Location
  attributes : List Attribute

/-- An instance variable of a class. -/
structure InstanceVariable where
  name : String
  mutability : MutableFlag
  virtuality : VirtualFlag
  type : TypeExpr

/-- A method of a class. -/
structure Method where
  name : String
  privacy : PrivateFlag
  virtuality : VirtualFlag
  type : TypeExpr

/-- The body of a class; an absent self type is the anonymous object type. -/
structure ClassSignature where
  self : Option TypeExpr
  instanceVariables : List InstanceVariable
  methods : List Method

/-- A class type. -/
inductive ClassType where
  | constr (path : Path) (args : List TypeExpr)
  | signature (body : ClassSignature)
  | arrow (label : ArgLabel) (arg : TypeExpr) (res : ClassType)

/-- A class is virtual when some method or instance variable of its final body is. -/
def ClassType.isVirtual : ClassType → Bool
  | .constr _ _ => false
  | .arrow _ _ res => res.isVirtual
  | .signature body =>
    body.instanceVariables.any (·.virtuality.isVirtual) ||
      body.methods.any (·.virtuality.isVirtual)

/-- The types in a class type, from left to right. -/
def ClassType.types : ClassType → List TypeExpr
  | .constr _ args => args
  | .arrow _ arg res => arg :: res.types
  | .signature body =>
    body.self.toList ++ body.instanceVariables.map InstanceVariable.type ++
      body.methods.map Method.type

/-- A class; its class type and object type have identifiers of their own. -/
structure ClassDeclaration where
  classTypeIdent : Option Ident
  objectIdent : Option Ident
  params : List TypeExpr
  type : ClassType
  variance : List Variance
  loc : Location
  attributes : List Attribute

/-- A class type declaration; its object type has an identifier of its own. -/
structure ClassTypeDeclaration where
  objectIdent : Option Ident
  params : List TypeExpr
  type : ClassType
  variance : List Variance
  loc : Location
  attributes : List Attribute

end InterfaceDocs.Compiled
