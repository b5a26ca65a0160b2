import InterfaceDocs.Proofs.Renumber.Basic
import InterfaceDocs.Written.Signature

/-!
# Renumbered signatures

The action of a renumbering on compiled and written signatures: every identifier, at its
binding and in paths, gets its new stamp, and every anonymous variable of a compiled type its
new id.
-/

namespace InterfaceDocs

namespace Compiled

mutual

/-- The type expression with its numbers replaced; the ids of named variables stay. -/
def TypeExpr.renumber (ρ : Renumbering) : TypeExpr → TypeExpr
  | .var none id => .var none (ρ.var id)
  | .var (some name) id => .var (some name) id
  | .univar none id => .univar none (ρ.var id)
  | .univar (some name) id => .univar (some name) id
  | .arrow label arg res => .arrow label (arg.renumber ρ) (res.renumber ρ)
  | .tuple types => .tuple (renumberTypes ρ types)
  | .constr p args => .constr (p.renumber ρ) (renumberTypes ρ args)
  | .object methods isOpen => .object (renumberMethods ρ methods) isOpen
  | .variant entries isClosed none => .variant (renumberRow ρ entries) isClosed none
  | .variant entries isClosed (some (.mk p args)) =>
    .variant (renumberRow ρ entries) isClosed (some (.mk (p.renumber ρ) (renumberTypes ρ args)))
  | .poly body vars => .poly (body.renumber ρ) (renumberTypes ρ vars)
  | .package p names types => .package (p.renumber ρ) names (renumberTypes ρ types)
  | .alias type name => .alias (type.renumber ρ) name

/-- The type expressions with their numbers replaced. -/
def renumberTypes (ρ : Renumbering) : List TypeExpr → List TypeExpr
  | [] => []
  | type :: types => type.renumber ρ :: renumberTypes ρ types

/-- The methods with their numbers replaced. -/
def renumberMethods (ρ : Renumbering) : List ObjectMethod → List ObjectMethod
  | [] => []
  | .mk name type :: methods => .mk name (type.renumber ρ) :: renumberMethods ρ methods

/-- The tags with their numbers replaced. -/
def renumberRow (ρ : Renumbering) : List RowEntry → List RowEntry
  | [] => []
  | .mk tag (.present none) :: entries => .mk tag (.present none) :: renumberRow ρ entries
  | .mk tag (.present (some type)) :: entries =>
    .mk tag (.present (some (type.renumber ρ))) :: renumberRow ρ entries
  | .mk tag (.either constant types) :: entries =>
    .mk tag (.either constant (renumberTypes ρ types)) :: renumberRow ρ entries
  | .mk tag .absent :: entries => .mk tag .absent :: renumberRow ρ entries

end

/-- The label with its numbers replaced. -/
def LabelDeclaration.renumber (ρ : Renumbering) (d : LabelDeclaration) : LabelDeclaration :=
  { d with ident := d.ident.renumber ρ, type := d.type.renumber ρ }

/-- The arguments of a constructor with their numbers replaced. -/
def ConstructorArguments.renumber (ρ : Renumbering) : ConstructorArguments → ConstructorArguments
  | .tuple types => .tuple (renumberTypes ρ types)
  | .record labels => .record (labels.map (LabelDeclaration.renumber ρ))

/-- The constructor with its numbers replaced. -/
def ConstructorDeclaration.renumber (ρ : Renumbering) (d : ConstructorDeclaration) :
    ConstructorDeclaration :=
  { d with
    ident := d.ident.renumber ρ
    args := d.args.renumber ρ
    result := d.result.map (TypeExpr.renumber ρ) }

/-- The representation of a type with its numbers replaced. -/
def TypeKind.renumber (ρ : Renumbering) : TypeKind → TypeKind
  | .abstract => .abstract
  | .record labels => .record (labels.map (LabelDeclaration.renumber ρ))
  | .variant constructors => .variant (constructors.map (ConstructorDeclaration.renumber ρ))
  | .extensible => .extensible

/-- The type declaration with its numbers replaced. -/
def TypeDeclaration.renumber (ρ : Renumbering) (d : TypeDeclaration) : TypeDeclaration :=
  { d with
    params := d.params.map (TypeExpr.renumber ρ)
    kind := d.kind.renumber ρ
    manifest := d.manifest.map (TypeExpr.renumber ρ) }

/-- The extension constructor with its numbers replaced. -/
def ExtensionConstructor.renumber (ρ : Renumbering) (d : ExtensionConstructor) :
    ExtensionConstructor :=
  { d with
    typePath := d.typePath.renumber ρ
    typeParams := d.typeParams.map (TypeExpr.renumber ρ)
    args := d.args.renumber ρ
    result := d.result.map (TypeExpr.renumber ρ) }

/-- The value with its numbers replaced. -/
def ValueDescription.renumber (ρ : Renumbering) (d : ValueDescription) : ValueDescription :=
  { d with type := d.type.renumber ρ }

/-- The instance variable with its numbers replaced. -/
def InstanceVariable.renumber (ρ : Renumbering) (v : InstanceVariable) : InstanceVariable :=
  { v with type := v.type.renumber ρ }

/-- The method with its numbers replaced. -/
def Method.renumber (ρ : Renumbering) (m : Method) : Method :=
  { m with type := m.type.renumber ρ }

/-- The class type with its numbers replaced. -/
def ClassType.renumber (ρ : Renumbering) : ClassType → ClassType
  | .constr p args => .constr (p.renumber ρ) (renumberTypes ρ args)
  | .signature ⟨self, instanceVariables, methods⟩ =>
    .signature ⟨self.map (TypeExpr.renumber ρ), instanceVariables.map (InstanceVariable.renumber ρ),
      methods.map (Method.renumber ρ)⟩
  | .arrow label arg res => .arrow label (arg.renumber ρ) (res.renumber ρ)

/-- The class with its numbers replaced. -/
def ClassDeclaration.renumber (ρ : Renumbering) (d : ClassDeclaration) : ClassDeclaration :=
  { d with
    classTypeIdent := d.classTypeIdent.map (Ident.renumber ρ)
    objectIdent := d.objectIdent.map (Ident.renumber ρ)
    params := d.params.map (TypeExpr.renumber ρ)
    type := d.type.renumber ρ }

/-- The class type declaration with its numbers replaced. -/
def ClassTypeDeclaration.renumber (ρ : Renumbering) (d : ClassTypeDeclaration) :
    ClassTypeDeclaration :=
  { d with
    objectIdent := d.objectIdent.map (Ident.renumber ρ)
    params := d.params.map (TypeExpr.renumber ρ)
    type := d.type.renumber ρ }

mutual

/-- The module type with its numbers replaced. -/
def ModuleType.renumber (ρ : Renumbering) : ModuleType → ModuleType
  | .path p => .path (p.renumber ρ)
  | .signature items => .signature (renumberItems ρ items)
  | .functor x none result => .functor (x.renumber ρ) none (result.renumber ρ)
  | .functor x (some arg) result =>
    .functor (x.renumber ρ) (some (arg.renumber ρ)) (result.renumber ρ)
  | .alias p => .alias (p.renumber ρ)

/-- The items with their numbers replaced. -/
def renumberItems (ρ : Renumbering) : List SignatureItem → List SignatureItem
  | [] => []
  | item :: items => item.renumber ρ :: renumberItems ρ items

/-- The item with its numbers replaced. -/
def SignatureItem.renumber (ρ : Renumbering) : SignatureItem → SignatureItem
  | .value x d => .value (x.renumber ρ) (d.renumber ρ)
  | .type x d status => .type (x.renumber ρ) (d.renumber ρ) status
  | .extension x d status => .extension (x.renumber ρ) (d.renumber ρ) status
  | .module x ⟨type, attributes, loc⟩ status =>
    .module (x.renumber ρ) ⟨type.renumber ρ, attributes, loc⟩ status
  | .moduleType x ⟨some type, attributes, loc⟩ =>
    .moduleType (x.renumber ρ) ⟨some (type.renumber ρ), attributes, loc⟩
  | .moduleType x ⟨none, attributes, loc⟩ => .moduleType (x.renumber ρ) ⟨none, attributes, loc⟩
  | .class x d status => .class (x.renumber ρ) (d.renumber ρ) status
  | .classType x d status => .classType (x.renumber ρ) (d.renumber ρ) status

end

theorem renumberTypes_eq_map (ρ : Renumbering) (types : List TypeExpr) :
  renumberTypes ρ types = types.map (TypeExpr.renumber ρ)
  := by
  induction types with
  | nil => rfl
  | cons type types ih => simp only [renumberTypes, List.map_cons, ih]

/-- A renumbered signature has as many items. -/
@[simp]
theorem length_renumberItems (ρ : Renumbering) (items : List SignatureItem) :
  (renumberItems ρ items).length = items.length
  := by
  induction items with
  | nil => rfl
  | cons item items ih => simp only [renumberItems, List.length_cons, ih]

end Compiled

namespace Written

mutual

/-- The type expression with its stamps replaced. -/
def CoreType.renumber (ρ : Renumbering) : CoreType → CoreType
  | .any info => .any info
  | .var info name => .var info name
  | .arrow info label arg res => .arrow info label (arg.renumber ρ) (res.renumber ρ)
  | .tuple info types => .tuple info (renumberTypes ρ types)
  | .constr info p args => .constr info (p.renumber ρ) (renumberTypes ρ args)
  | .object info fields closure => .object info (renumberObjectFields ρ fields) closure
  | .class info p args => .class info (p.renumber ρ) (renumberTypes ρ args)
  | .alias info type name => .alias info (type.renumber ρ) name
  | .variant info fields closure present =>
    .variant info (renumberRowFields ρ fields) closure present
  | .poly info vars body => .poly info vars (body.renumber ρ)
  | .package info p fields loc =>
    .package info (p.renumber ρ) (renumberPackageFields ρ fields) loc

/-- The type expressions with their stamps replaced. -/
def renumberTypes (ρ : Renumbering) : List CoreType → List CoreType
  | [] => []
  | type :: types => type.renumber ρ :: renumberTypes ρ types

/-- The fields of an object type with their stamps replaced. -/
def renumberObjectFields (ρ : Renumbering) : List ObjectField → List ObjectField
  | [] => []
  | .method name attributes type :: fields =>
    .method name attributes (type.renumber ρ) :: renumberObjectFields ρ fields
  | .inherit type :: fields => .inherit (type.renumber ρ) :: renumberObjectFields ρ fields

/-- The fields of a polymorphic variant with their stamps replaced. -/
def renumberRowFields (ρ : Renumbering) : List RowField → List RowField
  | [] => []
  | .tag name attributes constant args :: fields =>
    .tag name attributes constant (renumberTypes ρ args) :: renumberRowFields ρ fields
  | .inherit type :: fields => .inherit (type.renumber ρ) :: renumberRowFields ρ fields

/-- The constraints of a package type with their stamps replaced. -/
def renumberPackageFields (ρ : Renumbering) : List PackageField → List PackageField
  | [] => []
  | .mk name type :: fields => .mk name (type.renumber ρ) :: renumberPackageFields ρ fields

end

/-- The value with its stamps replaced. -/
def ValueDescription.renumber (ρ : Renumbering) (d : ValueDescription) : ValueDescription :=
  { d with ident := d.ident.renumber ρ, type := d.type.renumber ρ }

/-- The type parameter with its stamps replaced. -/
def TypeParam.renumber (ρ : Renumbering) (p : TypeParam) : TypeParam :=
  { p with type := p.type.renumber ρ }

/-- The clause with its stamps replaced. -/
def TypeConstraint.renumber (ρ : Renumbering) (c : TypeConstraint) : TypeConstraint :=
  { c with left := c.left.renumber ρ, right := c.right.renumber ρ }

/-- The label with its stamps replaced. -/
def LabelDeclaration.renumber (ρ : Renumbering) (d : LabelDeclaration) : LabelDeclaration :=
  { d with ident := d.ident.renumber ρ, type := d.type.renumber ρ }

/-- The arguments of a constructor with their stamps replaced. -/
def ConstructorArguments.renumber (ρ : Renumbering) : ConstructorArguments → ConstructorArguments
  | .tuple types => .tuple (renumberTypes ρ types)
  | .record labels => .record (labels.map (LabelDeclaration.renumber ρ))

/-- The constructor with its stamps replaced. -/
def ConstructorDeclaration.renumber (ρ : Renumbering) (d : ConstructorDeclaration) :
    ConstructorDeclaration :=
  { d with
    ident := d.ident.renumber ρ
    args := d.args.renumber ρ
    result := d.result.map (CoreType.renumber ρ) }

/-- The representation of a type with its stamps replaced. -/
def TypeKind.renumber (ρ : Renumbering) : TypeKind → TypeKind
  | .abstract => .abstract
  | .variant constructors => .variant (constructors.map (ConstructorDeclaration.renumber ρ))
  | .record labels => .record (labels.map (LabelDeclaration.renumber ρ))
  | .extensible => .extensible

/-- The type declaration with its stamps replaced. -/
def TypeDeclaration.renumber (ρ : Renumbering) (d : TypeDeclaration) : TypeDeclaration :=
  { d with
    ident := d.ident.renumber ρ
    params := d.params.map (TypeParam.renumber ρ)
    constraints := d.constraints.map (TypeConstraint.renumber ρ)
    kind := d.kind.renumber ρ
    manifest := d.manifest.map (CoreType.renumber ρ) }

/-- The kind of an extension constructor with its stamps replaced. -/
def ExtensionKind.renumber (ρ : Renumbering) : ExtensionKind → ExtensionKind
  | .declared args result => .declared (args.renumber ρ) (result.map (CoreType.renumber ρ))
  | .rebound path => .rebound (path.renumber ρ)

/-- The extension constructor with its stamps replaced. -/
def ExtensionConstructor.renumber (ρ : Renumbering) (d : ExtensionConstructor) :
    ExtensionConstructor :=
  { d with ident := d.ident.renumber ρ, kind := d.kind.renumber ρ }

/-- The extension with its stamps replaced. -/
def TypeExtension.renumber (ρ : Renumbering) (d : TypeExtension) : TypeExtension :=
  { d with
    path := d.path.renumber ρ
    params := d.params.map (TypeParam.renumber ρ)
    constructors := d.constructors.map (ExtensionConstructor.renumber ρ) }

mutual

/-- The class type with its stamps replaced. -/
def ClassType.renumber (ρ : Renumbering) : ClassType → ClassType
  | .constr info p args => .constr info (p.renumber ρ) (renumberTypes ρ args)
  | .signature info self fields => .signature info (self.renumber ρ) (renumberFields ρ fields)
  | .arrow info label arg res => .arrow info label (arg.renumber ρ) (res.renumber ρ)

/-- The fields of a class with their stamps replaced. -/
def renumberFields (ρ : Renumbering) : List ClassField → List ClassField
  | [] => []
  | .inherit info type :: fields => .inherit info (type.renumber ρ) :: renumberFields ρ fields
  | .instanceVariable info name mutability virtuality type :: fields =>
    .instanceVariable info name mutability virtuality (type.renumber ρ) :: renumberFields ρ fields
  | .method info name privacy virtuality type :: fields =>
    .method info name privacy virtuality (type.renumber ρ) :: renumberFields ρ fields
  | .constraint info left right :: fields =>
    .constraint info (left.renumber ρ) (right.renumber ρ) :: renumberFields ρ fields
  | .floating info a :: fields => .floating info a :: renumberFields ρ fields

end

/-- The class with its stamps replaced. -/
def ClassDeclaration.renumber (ρ : Renumbering) (d : ClassDeclaration) : ClassDeclaration :=
  { d with
    params := d.params.map (TypeParam.renumber ρ)
    classIdent := d.classIdent.renumber ρ
    classTypeIdent := d.classTypeIdent.renumber ρ
    objectIdent := d.objectIdent.renumber ρ
    type := d.type.renumber ρ }

/-- The computed type of a module expression with its numbers replaced. -/
def ModuleExprInfo.renumber (ρ : Renumbering) (info : ModuleExprInfo) : ModuleExprInfo :=
  { info with type := info.type.renumber ρ }

/-- The module expression with its numbers replaced. -/
def ModuleExpr.renumber (ρ : Renumbering) : ModuleExpr → ModuleExpr
  | .path info p => .path (info.renumber ρ) (p.renumber ρ)
  | .body info => .body (info.renumber ρ)
  | .functor info => .functor (info.renumber ρ)
  | .apply info f argument => .apply (info.renumber ρ) (f.renumber ρ) (argument.renumber ρ)
  | .constraint info expr => .constraint (info.renumber ρ) (expr.renumber ρ)
  | .unpack info => .unpack (info.renumber ρ)

/-- The constraint with its stamps replaced. -/
def WithConstraint.renumber (ρ : Renumbering) : WithConstraint → WithConstraint
  | .typeEq d => .typeEq (d.renumber ρ)
  | .moduleEq p => .moduleEq (p.renumber ρ)
  | .typeSubst d => .typeSubst (d.renumber ρ)
  | .moduleSubst p => .moduleSubst (p.renumber ρ)

/-- The clause with its stamps replaced. -/
def WithClause.renumber (ρ : Renumbering) (c : WithClause) : WithClause :=
  { c with constraint := c.constraint.renumber ρ }

/-- The local name of a module with its stamps replaced. -/
def ModuleSubstitution.renumber (ρ : Renumbering) (d : ModuleSubstitution) :
    ModuleSubstitution :=
  { d with ident := d.ident.renumber ρ, manifest := d.manifest.renumber ρ }

/-- The opened module with its stamps replaced. -/
def OpenDescription.renumber (ρ : Renumbering) (d : OpenDescription) : OpenDescription :=
  { d with path := d.path.renumber ρ }

mutual

/-- The module type with its numbers replaced. -/
def ModuleType.renumber (ρ : Renumbering) : ModuleType → ModuleType
  | .path info p => .path info (p.renumber ρ)
  | .signature info items => .signature info (renumberItems ρ items)
  | .functor info .unit result => .functor info .unit (result.renumber ρ)
  | .functor info (.named x arg) result =>
    .functor info (.named (x.renumber ρ) (arg.renumber ρ)) (result.renumber ρ)
  | .constrained info body clauses =>
    .constrained info (body.renumber ρ) (clauses.map (WithClause.renumber ρ))
  | .typeOf info expr => .typeOf info (expr.renumber ρ)
  | .alias info p => .alias info (p.renumber ρ)

/-- The items with their numbers replaced. -/
def renumberItems (ρ : Renumbering) : List SignatureItem → List SignatureItem
  | [] => []
  | item :: items => item.renumber ρ :: renumberItems ρ items

/-- The item with its numbers replaced. -/
def SignatureItem.renumber (ρ : Renumbering) : SignatureItem → SignatureItem
  | .value loc d => .value loc (d.renumber ρ)
  | .type loc flag ds => .type loc flag (ds.map (TypeDeclaration.renumber ρ))
  | .typeSubst loc ds => .typeSubst loc (ds.map (TypeDeclaration.renumber ρ))
  | .extension loc d => .extension loc (d.renumber ρ)
  | .exception loc d => .exception loc (d.renumber ρ)
  | .module loc d => .module loc (d.renumber ρ)
  | .moduleSubst loc d => .moduleSubst loc (d.renumber ρ)
  | .recModule loc ds => .recModule loc (renumberModules ρ ds)
  | .moduleType loc ⟨x, some type, attributes, loc'⟩ =>
    .moduleType loc ⟨x.renumber ρ, some (type.renumber ρ), attributes, loc'⟩
  | .moduleType loc ⟨x, none, attributes, loc'⟩ =>
    .moduleType loc ⟨x.renumber ρ, none, attributes, loc'⟩
  | .opened loc d => .opened loc (d.renumber ρ)
  | .included loc ⟨type, content, loc', attributes⟩ =>
    .included loc ⟨type.renumber ρ, Compiled.renumberItems ρ content, loc', attributes⟩
  | .class loc ds => .class loc (ds.map (ClassDeclaration.renumber ρ))
  | .classType loc ds => .classType loc (ds.map (ClassDeclaration.renumber ρ))
  | .floating loc a => .floating loc a

/-- The modules with their numbers replaced. -/
def renumberModules (ρ : Renumbering) : List ModuleDeclaration → List ModuleDeclaration
  | [] => []
  | d :: ds => d.renumber ρ :: renumberModules ρ ds

/-- The module with its numbers replaced. -/
def ModuleDeclaration.renumber (ρ : Renumbering) : ModuleDeclaration → ModuleDeclaration
  | ⟨x, type, attributes, loc⟩ => ⟨x.renumber ρ, type.renumber ρ, attributes, loc⟩

end

@[simp]
theorem length_renumberItems (ρ : Renumbering) (items : List SignatureItem) :
  (renumberItems ρ items).length = items.length
  := by
  induction items with
  | nil => rfl
  | cons item items ih => simp only [renumberItems, List.length_cons, ih]

end Written

end InterfaceDocs
