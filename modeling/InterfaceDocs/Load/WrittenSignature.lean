import InterfaceDocs.Load.CompiledSignature
import InterfaceDocs.Load.WrittenDeclaration

/-!
# Documenting written signatures

All items of a written signature are bound before they are documented in order.  The
standalone comments that a declaration carries come right before its record.
-/

namespace InterfaceDocs.Written

open Load

/-- The position of the first member of a group of types. -/
def firstFlag : RecFlag → Model.RecFlag
  | .recursive => .ordinary
  | .nonrecursive => .nonrecursive

/-- A documented item after the standalone comments that its attributes hold. -/
def documentCommented (config : Config) (attributes : List Attribute)
    (item : Reading Model.Item) : Reading (List Model.Item) := do
  let comments ← readComments config attributes
  let item ← item
  return comments.map .comment ++ [item]

/-- Documents the members of a group, of which the first one has the given position. -/
def documentGroup {α : Type} (config : Config) (attributes : α → List Attribute)
    (document : Model.RecFlag → α → Reading Model.Item) :
    Model.RecFlag → List α → Reading (List Model.Item)
  | _, [] => return []
  | flag, d :: ds => do
    let items ← documentCommented config (attributes d) (document flag d)
    return items ++ (← documentGroup config attributes document .subsequent ds)

/-- Documents a member of a group of types. -/
def TypeDeclaration.documentItem (config : Config) (scope : Scope) (parent : Identifier)
    (flag : Model.RecFlag) (d : TypeDeclaration) : Reading Model.Item := do
  return .type flag (← d.document config scope parent)

/-- Documents a member of a group of type substitutions. -/
def TypeDeclaration.documentSubstitution (config : Config) (scope : Scope)
    (parent : Identifier) (_ : Model.RecFlag) (d : TypeDeclaration) : Reading Model.Item := do
  return .typeSubstitution (← d.document config scope parent)

/-- Documents a member of a group of classes. -/
def ClassDeclaration.documentItem (config : Config) (scope : Scope) (parent : Identifier)
    (flag : Model.RecFlag) (d : ClassDeclaration) : Reading Model.Item := do
  return .class flag (← d.document config scope parent)

/-- Documents a member of a group of class types. -/
def ClassDeclaration.documentClassTypeItem (config : Config) (scope : Scope)
    (parent : Identifier) (flag : Model.RecFlag) (d : ClassDeclaration) :
    Reading Model.Item := do
  return .classType flag (← d.documentClassType config scope parent)

/-- Documents a local name of a module. -/
def ModuleSubstitution.document (scope : Scope) (config : Config) (parent : Identifier)
    (d : ModuleSubstitution) : Reading Model.Item := do
  let id := parent.child .module d.ident.name
  let doc ← readDoc config id d.attributes
  let manifest ← scope.resolve .module d.manifest
  return .moduleSubstitution ⟨id, doc, manifest⟩

/-- The head of a type substitution, if its manifest is an applied constructor. -/
def documentHead (scope : Scope) : CoreType → Except LoadError (Option Reference)
  | .constr _ p _ => (scope.resolve .type p).map some
  | _ => .ok none

/-- Documents a constraint on the module type with the given subject. -/
def WithClause.document (config : Config) (scope : Scope) (subject : Subject) (c : WithClause) :
    Reading Model.Substitution := do
  match c.constraint with
  | .typeEq d =>
    let equation ← d.documentEquation config scope
    return .typeEq (subject.fragment .type c.name.txt) equation
  | .moduleEq p =>
    let target ← scope.resolve .module p
    return .moduleEq (subject.fragment .module c.name.txt) target
  | .typeSubst d =>
    let fragment := subject.fragment .type c.name.txt
    match d.manifest with
    | none => Reading.fail (.missingSubstitutionManifest fragment d.loc)
    | some manifest =>
      let head ← documentHead scope manifest
      let equation ← d.documentEquation config scope
      return .typeSubst fragment ⟨head, equation⟩
  | .moduleSubst p =>
    let target ← scope.resolve .module p
    return .moduleSubst (subject.fragment .module c.name.txt) target

/-- Documents a module expression as the operand of `module type of`. -/
def ModuleExpr.document (config : Config) (scope : Scope) (owner : Identifier) :
    ModuleExpr → Reading Model.ModuleDeclType
  | .path _ p => do return .alias (← scope.resolve .module p)
  | expr => do return .moduleType (← expr.info.type.document config scope owner)

mutual

/-- Documents a module type that `owner` declares. -/
def ModuleType.document (config : Config) (scope : Scope) (owner : Identifier) :
    ModuleType → Reading Model.ModuleTypeExpr
  | .path _ p => do return .path (← scope.resolve .moduleType p)
  | .signature _ items => do
    Reading.tell (.readingSignature owner items.length)
    let items ← documentItems config (scope.bindWritten owner items).scope owner items
    return .signature (.ofItems config.liftTopComment items)
  | .functor _ .unit result => do
    return .functor .unit (← result.document config scope owner)
  | .functor _ (.named x arg) result => do
    let id := scope.functorArgument owner x.name
    Reading.tell (.readingFunctorParameter id)
    let type ← arg.document config scope id
    let inner := scope.addFunctorParameter x id (scope.writtenShape id arg)
    let result ← result.document config inner owner
    return .functor (.named id type arg.isSignature) result
  | .constrained _ body clauses => do
    let type ← body.document config scope owner
    let subject := scope.subjectOf owner body
    return .constrained type
      (← Reading.each (WithClause.document config scope subject) clauses)
  | .typeOf _ expr => do return .typeOf (← expr.document config scope owner)
  | .alias info p => Reading.fail (.moduleTypeAlias p.text info.loc)

/-- Documents the items of a signature. -/
def documentItems (config : Config) (scope : Scope) (parent : Identifier) :
    List SignatureItem → Reading (List Model.Item)
  | [] => return []
  | item :: items => do
    let documented ← item.document config scope parent
    return documented ++ (← documentItems config scope parent items)

/-- Documents an item of a signature. -/
def SignatureItem.document (config : Config) (scope : Scope) (parent : Identifier) :
    SignatureItem → Reading (List Model.Item)
  | .value _ d => documentCommented config d.attributes (d.document config scope parent)
  | .type _ flag ds =>
    documentGroup config TypeDeclaration.attributes
      (TypeDeclaration.documentItem config scope parent) (firstFlag flag) ds
  | .typeSubst _ ds =>
    documentGroup config TypeDeclaration.attributes
      (TypeDeclaration.documentSubstitution config scope parent) .ordinary ds
  | .extension _ d =>
    documentCommented config d.attributes do
      return .extension (← d.document config scope parent)
  | .exception _ d =>
    documentCommented config d.attributes do
      return .exception (← d.documentException config scope parent)
  | .module _ d => d.document config scope parent .ordinary
  | .moduleSubst _ d =>
    documentCommented config d.attributes (d.document scope config parent)
  | .recModule _ ds => documentModules config scope parent .ordinary ds
  | .moduleType _ ⟨x, type, attributes, _⟩ =>
    documentCommented config attributes do
      let id := parent.child .moduleType x.name
      Reading.tell (.readingModuleType id)
      let doc ← readDoc config id attributes
      let declType ←
        match type with
        | none => pure none
        | some type => do pure (some (← type.document config scope id))
      let canonical ← readCanonical doc
      return .moduleType ⟨id, doc, declType, canonical, type.any ModuleType.isSignature⟩
  | .opened _ _ => return []
  | .included _ ⟨type, content, _, attributes⟩ =>
    documentCommented config attributes do
      let doc ← readDoc config parent attributes
      let type ← type.document config scope parent
      let content ← Compiled.Signature.document config scope parent content
      Reading.tell (.realizedInclude parent content.items.length)
      return .included ⟨parent, doc, type, includeStatus doc, false, content⟩
  | .class _ ds =>
    documentGroup config ClassDeclaration.attributes
      (ClassDeclaration.documentItem config scope parent) .ordinary ds
  | .classType _ ds =>
    documentGroup config ClassDeclaration.attributes
      (ClassDeclaration.documentClassTypeItem config scope parent) .ordinary ds
  | .floating _ a => do
    let comments ← readComments config [a]
    return comments.map .comment

/-- Documents the members of a group of modules, of which the first one has the given
position. -/
def documentModules (config : Config) (scope : Scope) (parent : Identifier) :
    Model.RecFlag → List ModuleDeclaration → Reading (List Model.Item)
  | _, [] => return []
  | flag, d :: ds => do
    let items ← d.document config scope parent flag
    return items ++ (← documentModules config scope parent .subsequent ds)

/-- Documents a module that has the given position in its group. -/
def ModuleDeclaration.document (config : Config) (scope : Scope) (parent : Identifier)
    (flag : Model.RecFlag) : ModuleDeclaration → Reading (List Model.Item)
  | ⟨x, type, attributes, _⟩ =>
    documentCommented config attributes do
      let id := parent.child .module x.name
      Reading.tell (.readingModule id)
      let doc ← readDoc config id attributes
      let canonical ← readCanonical doc
      let declType ←
        match type.alias? with
        | some p => do pure (.alias (← scope.resolve .module p))
        | none => do pure (.moduleType (← type.document config scope id))
      return .module flag
        ⟨id, doc, declType, canonical, isHidden config x.name canonical, type.isSignature⟩

end

/-- Documents a signature whose items belong to `parent`. -/
def Signature.document (config : Config) (scope : Scope) (parent : Identifier)
    (items : Signature) : Reading Model.Signature := do
  Reading.tell (.readingSignature parent items.length)
  let items ← documentItems config (scope.bindWritten parent items).scope parent items
  return .ofItems config.liftTopComment items

end InterfaceDocs.Written
