import InterfaceDocs.Load.CompiledType
import InterfaceDocs.Load.Docs
import InterfaceDocs.Written.Type

/-!
# Documenting written types

`CoreType.document` turns a written type expression into one of the documentation model.
-/

namespace InterfaceDocs.Written

open Load

/-- The kind of a written polymorphic variant. -/
def variantKind (closure : ClosedFlag) (present : Option (List String)) : Model.VariantKind :=
  match closure, present with
  | .opened, _ => .opened
  | .closed, some tags => .closed tags
  | .closed, none => .fixed

mutual

/-- Documents a type expression. -/
def CoreType.document (config : Config) (scope : Scope) : CoreType → Reading Model.TypeExpr
  | .any _ => return .any
  | .var _ name => return .var name
  | .arrow _ label arg res => do
    let arg ← arg.document config scope
    let res ← res.document config scope
    return .arrow label.document arg res
  | .tuple _ types => do return .tuple (← documentTypes config scope types)
  | .constr _ p args => do
    let r ← scope.resolve .type p
    return .constr r (← documentTypes config scope args)
  | .object _ fields closure => do
    return .object (← documentObjectFields config scope fields) closure.isOpen
  | .class _ p args => do
    let r ← scope.resolve .classType p
    return .class r (← documentTypes config scope args)
  | .alias _ type name => do return .alias (← type.document config scope) name
  | .variant _ fields closure present => do
    return .variant (variantKind closure present) (← documentRowFields config scope fields)
  | .poly _ vars body => do return .quantified vars (← body.document config scope)
  | .package _ p fields _ => do
    let (r, subject) ← scope.resolveSubject p
    return .package r (← documentPackageFields config scope subject fields)

/-- Documents a list of type expressions. -/
def documentTypes (config : Config) (scope : Scope) :
    List CoreType → Reading (List Model.TypeExpr)
  | [] => return []
  | type :: types => do
    let type ← type.document config scope
    return type :: (← documentTypes config scope types)

/-- Documents the fields of an object type. -/
def documentObjectFields (config : Config) (scope : Scope) :
    List ObjectField → Reading (List Model.ObjectField)
  | [] => return []
  | .method name _ type :: fields => do
    let type ← type.document config scope
    return .method name.txt type :: (← documentObjectFields config scope fields)
  | .inherit type :: fields => do
    let type ← type.document config scope
    return .inherit type :: (← documentObjectFields config scope fields)

/-- Documents the fields of a polymorphic variant. -/
def documentRowFields (config : Config) (scope : Scope) :
    List RowField → Reading (List Model.VariantElement)
  | [] => return []
  | .tag name attributes constant args :: fields => do
    let args ← documentTypes config scope args
    let doc ← readAnonymousDoc config name.txt attributes
    return .constructor name.txt constant args doc :: (← documentRowFields config scope fields)
  | .inherit type :: fields => do
    let type ← type.document config scope
    return .type type :: (← documentRowFields config scope fields)

/-- Documents the constraints of a package type. -/
def documentPackageFields (config : Config) (scope : Scope) (subject : Subject) :
    List PackageField → Reading (List Model.PackageSubstitution)
  | [] => return []
  | .mk name type :: fields => do
    let type ← type.document config scope
    return .mk (subject.fragment .type name.txt) type ::
      (← documentPackageFields config scope subject fields)

end

end InterfaceDocs.Written
