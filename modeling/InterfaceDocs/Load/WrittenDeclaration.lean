import InterfaceDocs.Load.WrittenType
import InterfaceDocs.Written.Declaration

/-!
# Documenting written declarations

Values, types, extensions, exceptions and classes of written signatures.
-/

namespace InterfaceDocs.Written

open Load

/-- Documents a value. -/
def ValueDescription.document (config : Config) (scope : Scope) (parent : Identifier)
    (d : ValueDescription) : Reading Model.Item := do
  let id := parent.child .value d.ident.name
  let doc ← readDoc config id d.attributes
  let type ← d.type.document config scope
  return if d.primitives.isEmpty then .value ⟨id, doc, type⟩
    else .external ⟨id, doc, type, d.primitives⟩

/-- Documents a type parameter of the declaration that `owner` names. -/
def TypeParam.document (owner : String) (p : TypeParam) : Except LoadError Model.TypeParam :=
  match p.type with
  | .any _ => .ok ⟨none, p.variance.document, p.injectivity.isInjective⟩
  | .var _ name => .ok ⟨some name, p.variance.document, p.injectivity.isInjective⟩
  | type => .error (.invalidTypeParameter owner type.info.loc)

/-- Documents the type parameters of the declaration that `owner` names. -/
def documentParams (owner : String) :
    List TypeParam → Except LoadError (List Model.TypeParam)
  | [] => .ok []
  | p :: ps => do return (← p.document owner) :: (← documentParams owner ps)

/-- Documents an optional type expression. -/
def documentOption (config : Config) (scope : Scope) :
    Option CoreType → Reading (Option Model.TypeExpr) :=
  Reading.optional (CoreType.document config scope)

/-- Documents a clause that equates two types. -/
def TypeConstraint.document (config : Config) (scope : Scope) (c : TypeConstraint) :
    Reading Model.TypeConstraint := do
  let left ← c.left.document config scope
  let right ← c.right.document config scope
  return ⟨left, right⟩

/-- Documents the parameters, the manifest and the constraints of a type. -/
def TypeDeclaration.documentEquation (config : Config) (scope : Scope) (d : TypeDeclaration) :
    Reading Model.TypeEquation := do
  let manifest ← documentOption config scope d.manifest
  let constraints ← Reading.each (TypeConstraint.document config scope) d.constraints
  let params ← documentParams d.ident.name d.params
  return ⟨params, d.privacy.isPrivate, manifest, constraints⟩

/-- Documents a field of a record that `parent` declares. -/
def LabelDeclaration.document (config : Config) (scope : Scope) (parent : Identifier)
    (d : LabelDeclaration) : Reading Model.Field := do
  let id := parent.child .field d.ident.name
  let doc ← readDoc config id d.attributes
  let type ← d.type.document config scope
  return ⟨id, doc, d.mutability.isMutable, type⟩

/-- Documents the arguments of the constructor `parent`. -/
def ConstructorArguments.document (config : Config) (scope : Scope) (parent : Identifier) :
    ConstructorArguments → Reading Model.ConstructorArgs
  | .tuple types => do return .tuple (← documentTypes config scope types)
  | .record labels => do
    return .record (← Reading.each (LabelDeclaration.document config scope parent) labels)

/-- Documents a constructor of the type `parent`. -/
def ConstructorDeclaration.document (config : Config) (scope : Scope) (parent : Identifier)
    (d : ConstructorDeclaration) : Reading Model.Constructor := do
  let id := parent.child .constructor d.ident.name
  let doc ← readDoc config id d.attributes
  let args ← d.args.document config scope id
  let result ← documentOption config scope d.result
  return ⟨id, doc, args, result⟩

/-- Documents the representation of the type `id`. -/
def TypeKind.document (config : Config) (scope : Scope) (id : Identifier) :
    TypeKind → Reading (Option Model.Representation)
  | .abstract => return none
  | .variant constructors => do
    return some (.variant
      (← Reading.each (ConstructorDeclaration.document config scope id) constructors))
  | .record labels => do
    return some (.record (← Reading.each (LabelDeclaration.document config scope id) labels))
  | .extensible => return some .extensible

/-- Documents a type declaration. -/
def TypeDeclaration.document (config : Config) (scope : Scope) (parent : Identifier)
    (d : TypeDeclaration) : Reading Model.TypeDecl := do
  let id := parent.child .type d.ident.name
  Reading.tell (.readingType id)
  let doc ← readDoc config id d.attributes
  let canonical ← readCanonical doc
  let equation ← d.documentEquation config scope
  let representation ← d.kind.document config scope id
  return ⟨id, doc, canonical, equation, representation⟩

/-- Documents an extension constructor or exception with the given identifier. -/
def ExtensionConstructor.document (config : Config) (scope : Scope) (id : Identifier)
    (d : ExtensionConstructor) : Reading Model.Constructor := do
  match d.kind with
  | .declared args result =>
    let args ← args.document config scope id
    let result ← documentOption config scope result
    let doc ← readDoc config id d.attributes
    return ⟨id, doc, args, result⟩
  | .rebound _ => Reading.fail (.extensionRebind d.ident.name d.loc)

/-- Documents a type extension. -/
def TypeExtension.document (config : Config) (scope : Scope) (parent : Identifier)
    (d : TypeExtension) : Reading Model.Extension := do
  let typePath ← scope.resolve .type d.path
  let constructors ← Reading.each
    (fun c => c.document config scope (parent.child .extension c.ident.name)) d.constructors
  let doc ← readDoc config parent d.attributes
  let params ← documentParams d.path.last d.params
  return ⟨typePath, doc, params, d.privacy.isPrivate, constructors⟩

/-- Documents an exception. -/
def ExtensionConstructor.documentException (config : Config) (scope : Scope)
    (parent : Identifier) (d : ExtensionConstructor) : Reading Model.Constructor :=
  d.document config scope (parent.child .exception d.ident.name)

/-! ### Classes -/

/-- Documents the self type of a class, which is left out if it is anonymous. -/
def documentSelf (config : Config) (scope : Scope) : CoreType → Reading (Option Model.TypeExpr)
  | .any _ => return none
  | type => do return some (← type.document config scope)

mutual

/-- Documents a class type where only a path or a body may stand. -/
def ClassType.document (config : Config) (scope : Scope) (owner : Identifier) :
    ClassType → Reading Model.ClassTypeExpr
  | .constr _ p args => do
    let r ← scope.resolve .classType p
    return .constr r (← documentTypes config scope args)
  | .signature _ self fields => do
    let self ← documentSelf config scope self
    return .signature self (← documentFields config scope owner fields)
  | .arrow info _ _ _ => Reading.fail (.classArrowInSignature info.loc)

/-- Documents the fields of the class `owner`. -/
def documentFields (config : Config) (scope : Scope) (owner : Identifier) :
    List ClassField → Reading (List Model.ClassItem)
  | [] => return []
  | .inherit _ type :: fields => do
    let type ← type.document config scope owner
    return .inherit type :: (← documentFields config scope owner fields)
  | .instanceVariable info name mutability virtuality type :: fields => do
    let id := owner.child .instanceVariable name
    let doc ← readDoc config id info.attributes
    let type ← type.document config scope
    return .instanceVariable
        ⟨id, doc, mutability.isMutable, virtuality.isVirtual, type⟩ ::
      (← documentFields config scope owner fields)
  | .method info name privacy virtuality type :: fields => do
    let id := owner.child .method name
    let doc ← readDoc config id info.attributes
    let type ← type.document config scope
    return .method ⟨id, doc, privacy.isPrivate, virtuality.isVirtual, type⟩ ::
      (← documentFields config scope owner fields)
  | .constraint _ left right :: fields => do
    let left ← left.document config scope
    let right ← right.document config scope
    return .constraint ⟨left, right⟩ :: (← documentFields config scope owner fields)
  | .floating _ a :: fields => do
    let comments ← readComments config [a]
    return comments.map .comment ++ (← documentFields config scope owner fields)

end

/-- Documents the type of a class, which may begin with arguments. -/
def ClassType.documentDecl (config : Config) (scope : Scope) (owner : Identifier) :
    ClassType → Reading Model.ClassDecl
  | .arrow _ label arg res => do
    let arg ← arg.document config scope
    let res ← res.documentDecl config scope owner
    return .arrow label.document arg res
  | type => do return .classType (← type.document config scope owner)

/-- Documents a class. -/
def ClassDeclaration.document (config : Config) (scope : Scope) (parent : Identifier)
    (d : ClassDeclaration) : Reading Model.Class := do
  let id := parent.child .classDef d.classIdent.name
  Reading.tell (.readingClass id)
  let doc ← readDoc config id d.attributes
  let params ← documentParams d.classIdent.name d.params
  let type ← d.type.documentDecl config scope id
  return ⟨id, doc, d.virtuality.isVirtual, params, type⟩

/-- Documents a class type declaration. -/
def ClassDeclaration.documentClassType (config : Config) (scope : Scope) (parent : Identifier)
    (d : ClassDeclaration) : Reading Model.ClassType := do
  let id := parent.child .classType d.classTypeIdent.name
  Reading.tell (.readingClassType id)
  let doc ← readDoc config id d.attributes
  let params ← documentParams d.classTypeIdent.name d.params
  let type ← d.type.document config scope id
  return ⟨id, doc, d.virtuality.isVirtual, params, type⟩

end InterfaceDocs.Written
