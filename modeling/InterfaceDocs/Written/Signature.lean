import InterfaceDocs.Compiled.Signature
import InterfaceDocs.Written.Declaration

/-!
# Written signatures

The signature of an interface as its author wrote it, after type checking: every binder
carries its identifier, and documentation comments are still attributes.  Compiled signatures
stand in it as the realized content of includes and as the types of module expressions.
-/

namespace InterfaceDocs.Written

/-- The computed type and the location of a module expression. -/
structure ModuleExprInfo where
  type : Compiled.ModuleType
  loc : Location

/-- The operand of `module type of`. -/
inductive ModuleExpr where
  | path (info : ModuleExprInfo) (p : Path)
  | body (info : ModuleExprInfo)
  | functor (info : ModuleExprInfo)
  | apply (info : ModuleExprInfo) (functor argument : ModuleExpr)
  | constraint (info : ModuleExprInfo) (expr : ModuleExpr)
  | unpack (info : ModuleExprInfo)

/-- The computed type and the location of a module expression. -/
def ModuleExpr.info : ModuleExpr → ModuleExprInfo
  | .path info _ => info
  | .body info => info
  | .functor info => info
  | .apply info _ _ => info
  | .constraint info _ => info
  | .unpack info => info

/-- A constraint on a module type: an equation, or a substitution that removes the
constrained component. -/
inductive WithConstraint where
  | typeEq (d : TypeDeclaration)
  | moduleEq (p : Path)
  | typeSubst (d : TypeDeclaration)
  | moduleSubst (p : Path)

/-- A constraint with the component that it constrains. -/
structure WithClause where
  name : Located LongIdent
  constraint : WithConstraint

/-- A local name of a module. -/
structure ModuleSubstitution where
  ident : Ident
  manifest : Path
  attributes : List Attribute
  loc : Location

/-- An opened module. -/
structure OpenDescription where
  path : Path
  loc : Location
  attributes : List Attribute

mutual

/-- A written module type. -/
inductive ModuleType where
  | path (info : NodeInfo) (p : Path)
  | signature (info : NodeInfo) (items : List SignatureItem)
  | functor (info : NodeInfo) (param : FunctorParameter) (result : ModuleType)
  | constrained (info : NodeInfo) (body : ModuleType) (clauses : List WithClause)
  | typeOf (info : NodeInfo) (expr : ModuleExpr)
  | alias (info : NodeInfo) (p : Path)

/-- The parameter of a functor. -/
inductive FunctorParameter where
  | unit
  | named (x : Ident) (type : ModuleType)

/-- An item of a written signature. -/
inductive SignatureItem where
  | value (loc : Location) (d : ValueDescription)
  | type (loc : Location) (flag : RecFlag) (ds : List TypeDeclaration)
  | typeSubst (loc : Location) (ds : List TypeDeclaration)
  | extension (loc : Location) (d : TypeExtension)
  | exception (loc : Location) (d : ExtensionConstructor)
  | module (loc : Location) (d : ModuleDeclaration)
  | moduleSubst (loc : Location) (d : ModuleSubstitution)
  | recModule (loc : Location) (ds : List ModuleDeclaration)
  | moduleType (loc : Location) (d : ModuleTypeDeclaration)
  | opened (loc : Location) (d : OpenDescription)
  | included (loc : Location) (d : IncludeDescription)
  | class (loc : Location) (ds : List ClassDeclaration)
  | classType (loc : Location) (ds : List ClassDeclaration)
  | floating (loc : Location) (a : Attribute)

/-- A module declaration. -/
structure ModuleDeclaration where
  ident : Ident
  type : ModuleType
  attributes : List Attribute
  loc : Location

/-- A module type declaration, abstract if it has no type. -/
structure ModuleTypeDeclaration where
  ident : Ident
  type : Option ModuleType
  attributes : List Attribute
  loc : Location

/-- An include: the written module type and the realized signature, whose identifiers the
rest of the enclosing signature uses. -/
structure IncludeDescription where
  type : ModuleType
  content : Compiled.Signature
  loc : Location
  attributes : List Attribute

end

/-- A written signature. -/
abbrev Signature := List SignatureItem

/-- The location and the attributes of a module type. -/
def ModuleType.info : ModuleType → NodeInfo
  | .path info _ => info
  | .signature info _ => info
  | .functor info _ _ => info
  | .constrained info _ _ => info
  | .typeOf info _ => info
  | .alias info _ => info

/-- The module that a module type names as the type of a module alias. -/
def ModuleType.alias? : ModuleType → Option Path
  | .alias _ p => some p
  | _ => none

/-- Whether a module type is a plain signature. -/
def ModuleType.isSignature : ModuleType → Bool
  | .signature _ _ => true
  | _ => false

end InterfaceDocs.Written
