import InterfaceDocs.Load.CompiledDeclaration
import InterfaceDocs.Scope.Binding

/-!
# Documenting compiled signatures

All items of a compiled signature are bound before they are documented in order.  Extension
constructors that continue the extension before them are gathered into it.
-/

namespace InterfaceDocs.Compiled

open Load

/-- The position of a type or class in its group. -/
def RecStatus.document : RecStatus → Model.RecFlag
  | .alone => .nonrecursive
  | .first => .ordinary
  | .next => .subsequent

/-- The position of a module in its group. -/
def RecStatus.documentModule : RecStatus → Model.RecFlag
  | .next => .subsequent
  | _ => .ordinary

/-- Documented items behind an item: the constructors that continue the extension of that
item, and the items after them. -/
structure Following where
  constructors : List Model.Constructor
  items : List Model.Item

/-- The documented items behind an item that is put in front. -/
def Following.cons (item : Model.Item) (following : Following) : Following :=
  ⟨[], item :: following.items⟩

mutual

/-- Documents a module type that `owner` declares. -/
def ModuleType.document (config : Config) (scope : Scope) (owner : Identifier) :
    ModuleType → Reading Model.ModuleTypeExpr
  | .path p => do return .path (← scope.resolve .moduleType p)
  | .signature items => do
    Reading.tell (.readingCompiledSignature owner items.length)
    let following ←
      documentItems config (scope.bindCompiled owner items).scope owner false items
    return .signature (.ofItems config.liftTopComment following.items)
  | .functor _ none result => do
    return .functor .unit (← result.document config scope owner)
  | .functor x (some arg) result => do
    let id := scope.functorArgument owner x.name
    let type ← arg.document config scope id
    let inner := scope.addFunctorParameter x id (scope.compiledShape id arg)
    let result ← result.document config inner owner
    return .functor (.named id type arg.isSignature) result
  | .alias p => Reading.fail (.moduleTypeAlias p.text .none)

/-- Documents the items of a signature; `continues` tells whether the item before them
belongs to an extension. -/
def documentItems (config : Config) (scope : Scope) (parent : Identifier) (continues : Bool) :
    List SignatureItem → Reading Following
  | [] => return ⟨[], []⟩
  | .value x d :: items => do
    let item ← d.document config scope parent x
    return .cons item (← documentItems config scope parent false items)
  | .type x d status :: items => do
    let decl ← d.document config scope parent x
    return .cons (.type status.document decl)
      (← documentItems config scope parent false items)
  | .extension x d .exception :: items => do
    let constructor ← d.document config scope (parent.child .exception x.name)
    return .cons (.exception constructor) (← documentItems config scope parent false items)
  | .extension x d status :: items => do
    let constructor ← d.document config scope (parent.child .extension x.name)
    if continues && status = .next then
      let following ← documentItems config scope parent true items
      return ⟨constructor :: following.constructors, following.items⟩
    else
      let extension ← d.documentHead scope []
      let following ← documentItems config scope parent true items
      return .cons
        (.extension { extension with constructors := constructor :: following.constructors })
        following
  | .module x ⟨type, attributes, _⟩ status :: items => do
    let id := parent.child .module x.name
    let doc ← readDoc config id attributes
    let canonical ← readCanonical doc
    let declType ←
      match type.alias? with
      | some p => do pure (.alias (← scope.resolve .module p))
      | none => do pure (.moduleType (← type.document config scope id))
    let module : Model.Module :=
      ⟨id, doc, declType, canonical, isHidden config x.name canonical, type.isSignature⟩
    return .cons (.module status.documentModule module)
      (← documentItems config scope parent false items)
  | .moduleType x ⟨type, attributes, _⟩ :: items => do
    let id := parent.child .moduleType x.name
    let doc ← readDoc config id attributes
    let declType ←
      match type with
      | none => pure none
      | some type => do pure (some (← type.document config scope id))
    let canonical ← readCanonical doc
    let moduleType : Model.ModuleType :=
      ⟨id, doc, declType, canonical, type.any ModuleType.isSignature⟩
    return .cons (.moduleType moduleType) (← documentItems config scope parent false items)
  | .class x d status :: items => do
    let c ← d.document config scope parent x
    return .cons (.class status.document c) (← documentItems config scope parent false items)
  | .classType x d status :: items => do
    let c ← d.document config scope parent x
    return .cons (.classType status.document c)
      (← documentItems config scope parent false items)

end

/-- Documents a signature whose items belong to `parent`. -/
def Signature.document (config : Config) (scope : Scope) (parent : Identifier)
    (items : Signature) : Reading Model.Signature := do
  Reading.tell (.readingCompiledSignature parent items.length)
  let following ←
    documentItems config (scope.bindCompiled parent items).scope parent false items
  return .ofItems config.liftTopComment following.items

end InterfaceDocs.Compiled
