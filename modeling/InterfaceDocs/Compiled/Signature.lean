import InterfaceDocs.Compiled.Declaration

/-!
# Compiled signatures

The signature that the type checker computed, as opposed to the one that the author wrote.
It is the realized content of an include, and the type of the operand of `module type of`.
-/

namespace InterfaceDocs.Compiled

/-- The position of an item in its group of recursive declarations. -/
inductive RecStatus where
  | alone
  | first
  | next
  deriving DecidableEq

/-- Whether an extension constructor opens an extension, continues one, or is an exception. -/
inductive ExtStatus where
  | first
  | next
  | exception
  deriving DecidableEq

mutual

/-- A compiled module type; a functor without a parameter type takes no argument. -/
inductive ModuleType where
  | path (p : Path)
  | signature (items : List SignatureItem)
  | functor (param : Ident) (paramType : Option ModuleType) (result : ModuleType)
  | alias (p : Path)

/-- An item of a compiled signature, with the identifier it binds. -/
inductive SignatureItem where
  | value (x : Ident) (d : ValueDescription)
  | type (x : Ident) (d : TypeDeclaration) (status : RecStatus)
  | extension (x : Ident) (d : ExtensionConstructor) (status : ExtStatus)
  | module (x : Ident) (d : ModuleDeclaration) (status : RecStatus)
  | moduleType (x : Ident) (d : ModuleTypeDeclaration)
  | class (x : Ident) (d : ClassDeclaration) (status : RecStatus)
  | classType (x : Ident) (d : ClassTypeDeclaration) (status : RecStatus)

/-- A module declaration. -/
structure ModuleDeclaration where
  type : ModuleType
  attributes : List Attribute
  loc : Location

/-- A module type declaration, abstract if it has no type. -/
structure ModuleTypeDeclaration where
  type : Option ModuleType
  attributes : List Attribute
  loc : Location

end

/-- A compiled signature. -/
abbrev Signature := List SignatureItem

/-- The module that a module type names as the type of a module alias. -/
def ModuleType.alias? : ModuleType → Option Path
  | .alias p => some p
  | _ => none

/-- Whether a module type is a plain signature. -/
def ModuleType.isSignature : ModuleType → Bool
  | .signature _ => true
  | _ => false

namespace SignatureItem

/-- The identifier that an item binds. -/
def ident : SignatureItem → Ident
  | .value x _ => x
  | .type x _ _ => x
  | .extension x _ _ => x
  | .module x _ _ => x
  | .moduleType x _ => x
  | .class x _ _ => x
  | .classType x _ _ => x

/-- The identifiers that a class or a class type binds besides its own. -/
def companions : SignatureItem → List Ident
  | .class _ d _ => d.classTypeIdent.toList ++ d.objectIdent.toList
  | .classType _ d _ => d.objectIdent.toList
  | _ => []

end SignatureItem

end InterfaceDocs.Compiled
