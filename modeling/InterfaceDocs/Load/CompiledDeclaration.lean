import InterfaceDocs.Load.CompiledType
import InterfaceDocs.Load.Docs

/-!
# Documenting compiled declarations

Values, types, extension constructors and classes of compiled signatures.  The variables of a
declaration are named once for all of its types.
-/

namespace InterfaceDocs.Compiled

open Load

/-- Documents a field of a record that `parent` declares. -/
def LabelDeclaration.document (config : Config) (scope : Scope) (names : VarNames)
    (parent : Identifier) (d : LabelDeclaration) : Reading Model.Field := do
  let id := parent.child .field d.ident.name
  let doc ← readDoc config id d.attributes
  let type ← d.type.document scope names
  return ⟨id, doc, d.mutability.isMutable, type⟩

/-- Documents the arguments of the constructor `parent`. -/
def ConstructorArguments.document (config : Config) (scope : Scope) (names : VarNames)
    (parent : Identifier) : ConstructorArguments → Reading Model.ConstructorArgs
  | .tuple types => do return .tuple (← documentTypes scope names types)
  | .record labels => do
    return .record (← Reading.each (LabelDeclaration.document config scope names parent) labels)

/-- Documents the constructor `id`. -/
def documentConstructor (config : Config) (scope : Scope) (names : VarNames) (id : Identifier)
    (args : ConstructorArguments) (result : Option TypeExpr) (attributes : List Attribute) :
    Reading Model.Constructor := do
  let doc ← readDoc config id attributes
  let args ← args.document config scope names id
  let result ← documentOption scope names result
  return ⟨id, doc, args, result⟩

/-- Documents a constructor of the type `parent`. -/
def ConstructorDeclaration.document (config : Config) (scope : Scope) (names : VarNames)
    (parent : Identifier) (d : ConstructorDeclaration) : Reading Model.Constructor :=
  documentConstructor config scope names (parent.child .constructor d.ident.name) d.args
    d.result d.attributes

/-- Documents the representation of the type `id`. -/
def TypeKind.document (config : Config) (scope : Scope) (names : VarNames) (id : Identifier) :
    TypeKind → Reading (Option Model.Representation)
  | .abstract => return none
  | .variant constructors => do
    return some (.variant
      (← Reading.each (ConstructorDeclaration.document config scope names id) constructors))
  | .record labels => do
    return some (.record
      (← Reading.each (LabelDeclaration.document config scope names id) labels))
  | .extensible => return some .extensible

/-- The types in the representation of a type. -/
def TypeKind.types : TypeKind → List TypeExpr
  | .variant constructors => constructors.flatMap fun d => d.args.types ++ d.result.toList
  | .record labels => labels.map LabelDeclaration.type
  | .abstract => []
  | .extensible => []

/-- The types in a type declaration, in the order in which their variables are named. -/
def TypeDeclaration.types (d : TypeDeclaration) : List TypeExpr :=
  d.params ++ d.manifest.toList ++ d.kind.types

/-- Documents a type declaration. -/
def TypeDeclaration.document (config : Config) (scope : Scope) (parent : Identifier)
    (x : Ident) (d : TypeDeclaration) : Reading Model.TypeDecl := do
  let id := parent.child .type x.name
  let names := VarNames.collect d.types
  let representation ← d.kind.document config scope names id
  let doc ← readDoc config id d.attributes
  let canonical ← readCanonical doc
  let manifest ← documentOption scope names d.manifest
  return ⟨id, doc, canonical,
    ⟨documentParams names d.params d.variance, d.privacy.isPrivate, manifest, []⟩,
    representation⟩

/-- The types in an extension constructor, in the order in which their variables are named. -/
def ExtensionConstructor.types (d : ExtensionConstructor) : List TypeExpr :=
  d.typeParams ++ d.args.types ++ d.result.toList

/-- Documents an extension constructor or exception with the given identifier. -/
def ExtensionConstructor.document (config : Config) (scope : Scope) (id : Identifier)
    (d : ExtensionConstructor) : Reading Model.Constructor :=
  documentConstructor config scope (.collect d.types) id d.args d.result d.attributes

/-- Documents the extension that a constructor opens, given its documented constructors. -/
def ExtensionConstructor.documentHead (scope : Scope) (d : ExtensionConstructor)
    (constructors : List Model.Constructor) : Except LoadError Model.Extension := do
  let typePath ← scope.resolve .type d.typePath
  return ⟨typePath, .absent, documentParams (.collect d.types) d.typeParams [],
    d.privacy.isPrivate, constructors⟩

/-- Documents a value. -/
def ValueDescription.document (config : Config) (scope : Scope) (parent : Identifier)
    (x : Ident) (d : ValueDescription) : Reading Model.Item := do
  let id := parent.child .value x.name
  let doc ← readDoc config id d.attributes
  let type ← d.type.document scope (.collect [d.type])
  return match d.kind with
    | .regular => .value ⟨id, doc, type⟩
    | .primitive p => .external ⟨id, doc, type, p.names⟩

/-! ### Classes -/

/-- Documents an instance variable of the class `owner`. -/
def InstanceVariable.document (scope : Scope) (names : VarNames) (owner : Identifier)
    (v : InstanceVariable) : Except LoadError Model.ClassItem := do
  let type ← v.type.document scope names
  return .instanceVariable ⟨owner.child .instanceVariable v.name, .absent,
    v.mutability.isMutable, v.virtuality.isVirtual, type⟩

/-- Documents a method of the class `owner`. -/
def Method.document (scope : Scope) (names : VarNames) (owner : Identifier) (m : Method) :
    Except LoadError Model.ClassItem := do
  let type ← m.type.document scope names
  return .method ⟨owner.child .method m.name, .absent, m.privacy.isPrivate,
    m.virtuality.isVirtual, type⟩

/-- Documents the elements of a list, one after the other. -/
def documentEach {α β : Type} (f : α → Except LoadError β) :
    List α → Except LoadError (List β)
  | [] => .ok []
  | a :: as => do return (← f a) :: (← documentEach f as)

/-- Documents a class type where only a path or a body may stand. -/
def ClassType.document (scope : Scope) (names : VarNames) (owner : Identifier) :
    ClassType → Except LoadError Model.ClassTypeExpr
  | .constr p args => do
    return .constr (← scope.resolve .classType p) (← documentTypes scope names args)
  | .signature body => do
    let vars ← documentEach (InstanceVariable.document scope names owner) body.instanceVariables
    let methods ← documentEach (Method.document scope names owner) body.methods
    let self ← documentOption scope names body.self
    return .signature self (vars ++ methods)
  | .arrow _ _ _ => .error (.classArrowInSignature .none)

/-- Documents the type of a class, which may begin with arguments. -/
def ClassType.documentDecl (scope : Scope) (names : VarNames) (owner : Identifier) :
    ClassType → Except LoadError Model.ClassDecl
  | .arrow label arg res => do
    return .arrow label.document (← documentArgument scope names label arg)
      (← res.documentDecl scope names owner)
  | type => do return .classType (← type.document scope names owner)

/-- The types in a class, in the order in which their variables are named. -/
def ClassDeclaration.types (d : ClassDeclaration) : List TypeExpr :=
  d.params ++ d.type.types

/-- Documents a class. -/
def ClassDeclaration.document (config : Config) (scope : Scope) (parent : Identifier)
    (x : Ident) (d : ClassDeclaration) : Reading Model.Class := do
  let id := parent.child .classDef x.name
  let names := VarNames.collect d.types
  let doc ← readDoc config id d.attributes
  let type ← d.type.documentDecl scope names id
  return ⟨id, doc, d.type.isVirtual, documentParams names d.params d.variance, type⟩

/-- The types in a class type declaration, in the order in which their variables are named. -/
def ClassTypeDeclaration.types (d : ClassTypeDeclaration) : List TypeExpr :=
  d.params ++ d.type.types

/-- Documents a class type declaration. -/
def ClassTypeDeclaration.document (config : Config) (scope : Scope) (parent : Identifier)
    (x : Ident) (d : ClassTypeDeclaration) : Reading Model.ClassType := do
  let id := parent.child .classType x.name
  let names := VarNames.collect d.types
  let doc ← readDoc config id d.attributes
  let type ← d.type.document scope names id
  return ⟨id, doc, d.type.isVirtual, documentParams names d.params d.variance, type⟩

end InterfaceDocs.Compiled
