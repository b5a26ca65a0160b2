import InterfaceDocs.Compiled.Declaration
import InterfaceDocs.Load.VarNames
import InterfaceDocs.Model.Declaration
import InterfaceDocs.Scope.Basic

/-!
# Documenting compiled types

`TypeExpr.document` turns a compiled type expression into one of the documentation model.  An
optional argument is compiled to an argument of an option type, which is taken off again.
-/

namespace InterfaceDocs

/-- The label of an argument in the documentation model. -/
def ArgLabel.document : ArgLabel → Option Model.Label
  | .positional => none
  | .labelled name => some (.label name)
  | .optional name => some (.optional name)

/-- The variance of a parameter with the given mark. -/
def VarianceMark.document : VarianceMark → Option Model.Variance
  | .covariant => some .pos
  | .contravariant => some .neg
  | .unmarked => none

namespace Compiled

/-- Whether a path is the predefined option type. -/
def isOptionPath : Path → Bool
  | .ident x => x.isPredef && x.name == "option"
  | _ => false

/-- The names of the tags that are definitely present. -/
def presentTags (entries : List RowEntry) : List String :=
  entries.filterMap fun
    | .mk tag (.present _) => some tag
    | _ => none

/-- Whether some tag is only possibly present. -/
def hasPossibleTag (entries : List RowEntry) : Bool :=
  entries.any fun
    | .mk _ (.either _ _) => true
    | _ => false

/-- The kind of a polymorphic variant with the given tags. -/
def variantKind (entries : List RowEntry) (isClosed : Bool) : Model.VariantKind :=
  if !isClosed then .opened
  else if hasPossibleTag entries then .closed (presentTags entries)
  else .fixed

/-- The name of a variable that a quantifier binds. -/
def quantifiedName (names : VarNames) : TypeExpr → Option String
  | .var name id => some (names.name name id)
  | .univar name id => some (names.name name id)
  | _ => none

mutual

/-- Documents a type expression. -/
def TypeExpr.document (scope : Scope) (names : VarNames) :
    TypeExpr → Except LoadError Model.TypeExpr
  | .var name id => .ok (.var (names.name name id))
  | .univar name id => .ok (.var (names.name name id))
  | .arrow label arg res => do
    let arg ←
      match label, arg with
      | .optional _, .constr p [type] =>
        if isOptionPath p then type.document scope names
        else TypeExpr.document scope names (.constr p [type])
      | _, arg => arg.document scope names
    return .arrow label.document arg (← res.document scope names)
  | .tuple types => do return .tuple (← documentTypes scope names types)
  | .constr p args => do
    return .constr (← scope.resolve .type p) (← documentTypes scope names args)
  | .object methods isOpen => do
    return .object (← documentMethods scope names methods) isOpen
  | .variant _ isClosed (some (.mk p args)) => do
    let constr := .constr (← scope.resolve .type p) (← documentTypes scope names args)
    return if isClosed then constr else .variant .opened [.type constr]
  | .variant entries isClosed none => do
    return .variant (variantKind entries isClosed) (← documentRow scope names entries)
  | .poly body vars => do
    return .quantified (vars.filterMap (quantifiedName names)) (← body.document scope names)
  | .package p fields types => do
    let (r, subject) ← scope.resolveSubject p
    return .package r (← documentPackage scope names subject fields types)
  | .alias type name => do return .alias (← type.document scope names) name

/-- Documents a list of type expressions. -/
def documentTypes (scope : Scope) (names : VarNames) :
    List TypeExpr → Except LoadError (List Model.TypeExpr)
  | [] => .ok []
  | type :: types => do
    return (← type.document scope names) :: (← documentTypes scope names types)

/-- Documents the methods of an object type. -/
def documentMethods (scope : Scope) (names : VarNames) :
    List ObjectMethod → Except LoadError (List Model.ObjectField)
  | [] => .ok []
  | .mk name type :: methods => do
    return .method name (← type.document scope names) ::
      (← documentMethods scope names methods)

/-- Documents the tags of a polymorphic variant; absent tags are left out. -/
def documentRow (scope : Scope) (names : VarNames) :
    List RowEntry → Except LoadError (List Model.VariantElement)
  | [] => .ok []
  | .mk tag (.present none) :: entries => do
    return .constructor tag true [] .absent :: (← documentRow scope names entries)
  | .mk tag (.present (some type)) :: entries => do
    return .constructor tag false [← type.document scope names] .absent ::
      (← documentRow scope names entries)
  | .mk tag (.either constant types) :: entries => do
    return .constructor tag constant (← documentTypes scope names types) .absent ::
      (← documentRow scope names entries)
  | .mk _ .absent :: entries => documentRow scope names entries

/-- Documents the constraints of a package type. -/
def documentPackage (scope : Scope) (names : VarNames) (subject : Subject) :
    List LongIdent → List TypeExpr → Except LoadError (List Model.PackageSubstitution)
  | field :: fields, type :: types => do
    return .mk (subject.fragment .type field) (← type.document scope names) ::
      (← documentPackage scope names subject fields types)
  | _, _ => .ok []

end

/-- Documents an optional type expression. -/
def documentOption (scope : Scope) (names : VarNames) :
    Option TypeExpr → Except LoadError (Option Model.TypeExpr)
  | none => .ok none
  | some type => do return some (← type.document scope names)

/-- Documents the type of an argument: of an optional argument the option type is taken
off. -/
def documentArgument (scope : Scope) (names : VarNames) (label : ArgLabel) (arg : TypeExpr) :
    Except LoadError Model.TypeExpr :=
  match label, arg with
  | .optional _, .constr p [type] =>
    if isOptionPath p then type.document scope names else arg.document scope names
  | _, _ => arg.document scope names

/-- Documents a type parameter with the given variance. -/
def documentParam (names : VarNames) (param : TypeExpr) (v : Variance) : Model.TypeParam :=
  ⟨match param with
    | .var name id => some (names.name name id)
    | _ => none,
    v.mark.document, v.injectivity.isInjective⟩

/-- Documents type parameters; those beyond the given variances have none. -/
def documentParams (names : VarNames) : List TypeExpr → List Variance → List Model.TypeParam
  | [], _ => []
  | param :: params, [] => documentParam names param .null :: documentParams names params []
  | param :: params, v :: vs => documentParam names param v :: documentParams names params vs

end Compiled

end InterfaceDocs
