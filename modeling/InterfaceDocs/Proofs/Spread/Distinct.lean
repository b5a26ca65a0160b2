import InterfaceDocs.Identifier
import InterfaceDocs.Written.Signature

/-!
# Distinct declarations

A signature is distinct when no two entities of the same kind and name are declared in it or
in the contents of its includes, and when this holds of the signatures nested in it too.  The
constructors of a variant, the labels of a record and the methods and instance variables of a
class have different names.  The operands of includes need not be distinct.
-/

namespace InterfaceDocs

/-- A declared entity, by its kind and its name. -/
abbrev Entity := IdentifierKind × String

namespace Compiled

/-- The entity that a label declares. -/
def LabelDeclaration.entity (d : LabelDeclaration) : Entity :=
  (.field, d.ident.name)

/-- The entity that a constructor declares. -/
def ConstructorDeclaration.entity (d : ConstructorDeclaration) : Entity :=
  (.constructor, d.ident.name)

/-- The entity that an instance variable declares. -/
def InstanceVariable.entity (v : InstanceVariable) : Entity :=
  (.instanceVariable, v.name)

/-- The entity that a method declares. -/
def Method.entity (m : Method) : Entity :=
  (.method, m.name)

/-- The entities that a class type declares. -/
def ClassType.entities : ClassType → List Entity
  | .constr _ _ => []
  | .signature body =>
    body.instanceVariables.map InstanceVariable.entity ++ body.methods.map Method.entity
  | .arrow _ _ res => res.entities

/-- The entity that an item of a signature declares. -/
def SignatureItem.entity : SignatureItem → Entity
  | .value x _ => (.value, x.name)
  | .type x _ _ => (.type, x.name)
  | .extension x _ .exception => (.exception, x.name)
  | .extension x _ _ => (.extension, x.name)
  | .module x _ _ => (.module, x.name)
  | .moduleType x _ => (.moduleType, x.name)
  | .class x _ _ => (.classDef, x.name)
  | .classType x _ _ => (.classType, x.name)

/-- Whether the labels in the arguments of a constructor are distinct. -/
def ConstructorArguments.isDistinct : ConstructorArguments → Bool
  | .tuple _ => true
  | .record labels => (labels.map LabelDeclaration.entity).Nodup

/-- Whether the constructors or labels of a type are distinct. -/
def TypeKind.isDistinct : TypeKind → Bool
  | .variant constructors =>
    (constructors.map ConstructorDeclaration.entity).Nodup &&
      constructors.all (·.args.isDistinct)
  | .record labels => (labels.map LabelDeclaration.entity).Nodup
  | .abstract => true
  | .extensible => true

mutual

/-- Whether the declarations of a compiled module type are distinct. -/
def ModuleType.isDistinct : ModuleType → Bool
  | .path _ => true
  | .signature items => (items.map SignatureItem.entity).Nodup && distinctItems items
  | .functor _ none result => result.isDistinct
  | .functor _ (some arg) result => arg.isDistinct && result.isDistinct
  | .alias _ => true

/-- Whether the declarations in each item of a compiled signature are distinct. -/
def distinctItems : List SignatureItem → Bool
  | [] => true
  | item :: items => item.isDistinct && distinctItems items

/-- Whether the declarations in an item of a compiled signature are distinct. -/
def SignatureItem.isDistinct : SignatureItem → Bool
  | .value _ _ => true
  | .type _ d _ => d.kind.isDistinct
  | .extension _ d _ => d.args.isDistinct
  | .module _ ⟨type, _, _⟩ _ => type.isDistinct
  | .moduleType _ ⟨some type, _, _⟩ => type.isDistinct
  | .moduleType _ ⟨none, _, _⟩ => true
  | .class _ d _ => d.type.entities.Nodup
  | .classType _ d _ => d.type.entities.Nodup

end

end Compiled

namespace Written

/-- The entity that a label declares. -/
def LabelDeclaration.entity (d : LabelDeclaration) : Entity :=
  (.field, d.ident.name)

/-- The entity that a constructor declares. -/
def ConstructorDeclaration.entity (d : ConstructorDeclaration) : Entity :=
  (.constructor, d.ident.name)

/-- The entity that a constructor of an extension declares. -/
def ExtensionConstructor.entity (d : ExtensionConstructor) : Entity :=
  (.extension, d.ident.name)

/-- The entity that a type or a type substitution declares. -/
def TypeDeclaration.entity (d : TypeDeclaration) : Entity :=
  (.type, d.ident.name)

/-- The entity that a class declares. -/
def ClassDeclaration.entity (d : ClassDeclaration) : Entity :=
  (.classDef, d.classIdent.name)

/-- The entity that a class type declares. -/
def ClassDeclaration.classTypeEntity (d : ClassDeclaration) : Entity :=
  (.classType, d.classTypeIdent.name)

/-- The entity that a module declares. -/
def ModuleDeclaration.entity (d : ModuleDeclaration) : Entity :=
  (.module, d.ident.name)

mutual

/-- The entities that a class type declares, those of inherited bodies among them. -/
def ClassType.entities : ClassType → List Entity
  | .constr _ _ _ => []
  | .signature _ _ fields => fieldEntities fields
  | .arrow _ _ _ res => res.entities

/-- The entities that the fields of a class declare. -/
def fieldEntities : List ClassField → List Entity
  | [] => []
  | .inherit _ type :: fields => type.entities ++ fieldEntities fields
  | .instanceVariable _ name _ _ _ :: fields =>
    (.instanceVariable, name) :: fieldEntities fields
  | .method _ name _ _ _ :: fields => (.method, name) :: fieldEntities fields
  | .constraint _ _ _ :: fields => fieldEntities fields
  | .floating _ _ :: fields => fieldEntities fields

end

/-- The entities that an item of a signature declares; an include declares those of its
content. -/
def SignatureItem.entities : SignatureItem → List Entity
  | .value _ d => [(.value, d.ident.name)]
  | .type _ _ ds => ds.map TypeDeclaration.entity
  | .typeSubst _ ds => ds.map TypeDeclaration.entity
  | .extension _ d => d.constructors.map ExtensionConstructor.entity
  | .exception _ d => [(.exception, d.ident.name)]
  | .module _ d => [d.entity]
  | .moduleSubst _ d => [(.module, d.ident.name)]
  | .recModule _ ds => ds.map ModuleDeclaration.entity
  | .moduleType _ d => [(.moduleType, d.ident.name)]
  | .opened _ _ => []
  | .included _ d => d.content.map Compiled.SignatureItem.entity
  | .class _ ds => ds.map ClassDeclaration.entity
  | .classType _ ds => ds.map ClassDeclaration.classTypeEntity
  | .floating _ _ => []

/-- Whether the labels in the arguments of a constructor are distinct. -/
def ConstructorArguments.isDistinct : ConstructorArguments → Bool
  | .tuple _ => true
  | .record labels => (labels.map LabelDeclaration.entity).Nodup

/-- Whether the constructors or labels of a type are distinct. -/
def TypeKind.isDistinct : TypeKind → Bool
  | .variant constructors =>
    (constructors.map ConstructorDeclaration.entity).Nodup &&
      constructors.all (·.args.isDistinct)
  | .record labels => (labels.map LabelDeclaration.entity).Nodup
  | .abstract => true
  | .extensible => true

/-- Whether the labels of an extension constructor are distinct. -/
def ExtensionConstructor.isDistinct (d : ExtensionConstructor) : Bool :=
  match d.kind with
  | .declared args _ => args.isDistinct
  | .rebound _ => true

/-- Whether the declarations in the operand of `module type of` are distinct; a path has none. -/
def ModuleExpr.isDistinct : ModuleExpr → Bool
  | .path _ _ => true
  | expr => expr.info.type.isDistinct

mutual

/-- Whether the declarations of a written module type are distinct. -/
def ModuleType.isDistinct : ModuleType → Bool
  | .path _ _ => true
  | .signature _ items => (items.flatMap SignatureItem.entities).Nodup && distinctItems items
  | .functor _ .unit result => result.isDistinct
  | .functor _ (.named _ arg) result => arg.isDistinct && result.isDistinct
  | .constrained _ body _ => body.isDistinct
  | .typeOf _ expr => expr.isDistinct
  | .alias _ _ => true

/-- Whether the declarations in each item of a written signature are distinct. -/
def distinctItems : List SignatureItem → Bool
  | [] => true
  | item :: items => item.isDistinct && distinctItems items

/-- Whether the declarations in an item of a written signature are distinct. -/
def SignatureItem.isDistinct : SignatureItem → Bool
  | .value _ _ => true
  | .type _ _ ds => ds.all (·.kind.isDistinct)
  | .typeSubst _ ds => ds.all (·.kind.isDistinct)
  | .extension _ d => d.constructors.all ExtensionConstructor.isDistinct
  | .exception _ d => d.isDistinct
  | .module _ ⟨_, type, _, _⟩ => type.isDistinct
  | .moduleSubst _ _ => true
  | .recModule _ ds => distinctModules ds
  | .moduleType _ ⟨_, some type, _, _⟩ => type.isDistinct
  | .moduleType _ ⟨_, none, _, _⟩ => true
  | .opened _ _ => true
  | .included _ ⟨_, content, _, _⟩ => Compiled.distinctItems content
  | .class _ ds => ds.all fun d => d.type.entities.Nodup
  | .classType _ ds => ds.all fun d => d.type.entities.Nodup
  | .floating _ _ => true

/-- Whether the declarations in each member of a group of modules are distinct. -/
def distinctModules : List ModuleDeclaration → Bool
  | [] => true
  | ⟨_, type, _, _⟩ :: ds => type.isDistinct && distinctModules ds

end

/-- Whether the declarations of a written signature are distinct. -/
def Signature.isDistinct (items : Signature) : Bool :=
  (items.flatMap SignatureItem.entities).Nodup && distinctItems items

end Written

end InterfaceDocs
