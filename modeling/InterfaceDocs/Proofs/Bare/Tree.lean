import InterfaceDocs.Written.Signature

/-!
# Bare signatures

A signature is bare when its attributes are taken away: all lists of attributes are empty, and
the floating attributes of signatures and classes are gone.  Written signatures and the
compiled ones in them become bare alike.  Compiled types have no attributes.
-/

namespace InterfaceDocs

namespace Compiled

/-! ### Compiled declarations -/

/-- The label without attributes. -/
def LabelDeclaration.bare (d : LabelDeclaration) : LabelDeclaration :=
  { d with attributes := [] }

/-- The arguments of a constructor without attributes. -/
def ConstructorArguments.bare : ConstructorArguments → ConstructorArguments
  | .tuple types => .tuple types
  | .record labels => .record (labels.map LabelDeclaration.bare)

/-- The constructor without attributes. -/
def ConstructorDeclaration.bare (d : ConstructorDeclaration) : ConstructorDeclaration :=
  { d with args := d.args.bare, attributes := [] }

/-- The representation of a type without attributes. -/
def TypeKind.bare : TypeKind → TypeKind
  | .abstract => .abstract
  | .record labels => .record (labels.map LabelDeclaration.bare)
  | .variant constructors => .variant (constructors.map ConstructorDeclaration.bare)
  | .extensible => .extensible

/-- The type declaration without attributes. -/
def TypeDeclaration.bare (d : TypeDeclaration) : TypeDeclaration :=
  { d with kind := d.kind.bare, attributes := [] }

/-- The extension constructor without attributes. -/
def ExtensionConstructor.bare (d : ExtensionConstructor) : ExtensionConstructor :=
  { d with args := d.args.bare, attributes := [] }

/-- The value without attributes. -/
def ValueDescription.bare (d : ValueDescription) : ValueDescription :=
  { d with attributes := [] }

/-- The class without attributes. -/
def ClassDeclaration.bare (d : ClassDeclaration) : ClassDeclaration :=
  { d with attributes := [] }

/-- The class type declaration without attributes. -/
def ClassTypeDeclaration.bare (d : ClassTypeDeclaration) : ClassTypeDeclaration :=
  { d with attributes := [] }

/-! ### Compiled signatures -/

mutual

/-- The module type without attributes. -/
def ModuleType.bare : ModuleType → ModuleType
  | .path p => .path p
  | .signature items => .signature (bareItems items)
  | .functor x none result => .functor x none result.bare
  | .functor x (some arg) result => .functor x (some arg.bare) result.bare
  | .alias p => .alias p

/-- The items without attributes. -/
def bareItems : List SignatureItem → List SignatureItem
  | [] => []
  | item :: items => item.bare :: bareItems items

/-- The item without attributes. -/
def SignatureItem.bare : SignatureItem → SignatureItem
  | .value x d => .value x d.bare
  | .type x d status => .type x d.bare status
  | .extension x d status => .extension x d.bare status
  | .module x ⟨type, _, loc⟩ status => .module x ⟨type.bare, [], loc⟩ status
  | .moduleType x ⟨some type, _, loc⟩ => .moduleType x ⟨some type.bare, [], loc⟩
  | .moduleType x ⟨none, _, loc⟩ => .moduleType x ⟨none, [], loc⟩
  | .class x d status => .class x d.bare status
  | .classType x d status => .classType x d.bare status

end

theorem ModuleType.alias?_bare (type : ModuleType) :
  type.bare.alias? = type.alias?
  := by
  rcases type with _ | _ | ⟨_, _ | _, _⟩ | _ <;> rfl

theorem ModuleType.isSignature_bare (type : ModuleType) :
  type.bare.isSignature = type.isSignature
  := by
  rcases type with _ | _ | ⟨_, _ | _, _⟩ | _ <;> rfl

end Compiled

namespace Written

/-! ### Written types -/

/-- The location of a node, without its attributes. -/
def NodeInfo.bare (info : NodeInfo) : NodeInfo :=
  { info with attributes := [] }

mutual

/-- The type expression without attributes. -/
def CoreType.bare : CoreType → CoreType
  | .any info => .any info.bare
  | .var info name => .var info.bare name
  | .arrow info label arg res => .arrow info.bare label arg.bare res.bare
  | .tuple info types => .tuple info.bare (bareTypes types)
  | .constr info p args => .constr info.bare p (bareTypes args)
  | .object info fields closure => .object info.bare (bareObjectFields fields) closure
  | .class info p args => .class info.bare p (bareTypes args)
  | .alias info type name => .alias info.bare type.bare name
  | .variant info fields closure present =>
    .variant info.bare (bareRowFields fields) closure present
  | .poly info vars body => .poly info.bare vars body.bare
  | .package info p fields loc => .package info.bare p (barePackageFields fields) loc

/-- The type expressions without attributes. -/
def bareTypes : List CoreType → List CoreType
  | [] => []
  | type :: types => type.bare :: bareTypes types

/-- The fields of an object type without attributes. -/
def bareObjectFields : List ObjectField → List ObjectField
  | [] => []
  | .method name _ type :: fields => .method name [] type.bare :: bareObjectFields fields
  | .inherit type :: fields => .inherit type.bare :: bareObjectFields fields

/-- The fields of a polymorphic variant without attributes. -/
def bareRowFields : List RowField → List RowField
  | [] => []
  | .tag name _ constant args :: fields =>
    .tag name [] constant (bareTypes args) :: bareRowFields fields
  | .inherit type :: fields => .inherit type.bare :: bareRowFields fields

/-- The constraints of a package type without attributes. -/
def barePackageFields : List PackageField → List PackageField
  | [] => []
  | .mk name type :: fields => .mk name type.bare :: barePackageFields fields

end

/-! ### Written declarations -/

/-- The value without attributes. -/
def ValueDescription.bare (d : ValueDescription) : ValueDescription :=
  { d with type := d.type.bare, attributes := [] }

/-- The type parameter without attributes. -/
def TypeParam.bare (p : TypeParam) : TypeParam :=
  { p with type := p.type.bare }

/-- The clause without attributes. -/
def TypeConstraint.bare (c : TypeConstraint) : TypeConstraint :=
  { c with left := c.left.bare, right := c.right.bare }

/-- The label without attributes. -/
def LabelDeclaration.bare (d : LabelDeclaration) : LabelDeclaration :=
  { d with type := d.type.bare, attributes := [] }

/-- The arguments of a constructor without attributes. -/
def ConstructorArguments.bare : ConstructorArguments → ConstructorArguments
  | .tuple types => .tuple (bareTypes types)
  | .record labels => .record (labels.map LabelDeclaration.bare)

/-- The constructor without attributes. -/
def ConstructorDeclaration.bare (d : ConstructorDeclaration) : ConstructorDeclaration :=
  { d with args := d.args.bare, result := d.result.map CoreType.bare, attributes := [] }

/-- The representation of a type without attributes. -/
def TypeKind.bare : TypeKind → TypeKind
  | .abstract => .abstract
  | .variant constructors => .variant (constructors.map ConstructorDeclaration.bare)
  | .record labels => .record (labels.map LabelDeclaration.bare)
  | .extensible => .extensible

/-- The type declaration without attributes. -/
def TypeDeclaration.bare (d : TypeDeclaration) : TypeDeclaration :=
  { d with
    params := d.params.map TypeParam.bare
    constraints := d.constraints.map TypeConstraint.bare
    kind := d.kind.bare
    manifest := d.manifest.map CoreType.bare
    attributes := [] }

/-- The kind of an extension constructor without attributes. -/
def ExtensionKind.bare : ExtensionKind → ExtensionKind
  | .declared args result => .declared args.bare (result.map CoreType.bare)
  | .rebound path => .rebound path

/-- The extension constructor without attributes. -/
def ExtensionConstructor.bare (d : ExtensionConstructor) : ExtensionConstructor :=
  { d with kind := d.kind.bare, attributes := [] }

/-- The extension without attributes. -/
def TypeExtension.bare (d : TypeExtension) : TypeExtension :=
  { d with
    params := d.params.map TypeParam.bare
    constructors := d.constructors.map ExtensionConstructor.bare
    attributes := [] }

mutual

/-- The class type without attributes. -/
def ClassType.bare : ClassType → ClassType
  | .constr info p args => .constr info.bare p (bareTypes args)
  | .signature info self fields => .signature info.bare self.bare (bareFields fields)
  | .arrow info label arg res => .arrow info.bare label arg.bare res.bare

/-- The fields of a class without attributes; floating attributes are dropped. -/
def bareFields : List ClassField → List ClassField
  | [] => []
  | .inherit info type :: fields => .inherit info.bare type.bare :: bareFields fields
  | .instanceVariable info name mutability virtuality type :: fields =>
    .instanceVariable info.bare name mutability virtuality type.bare :: bareFields fields
  | .method info name privacy virtuality type :: fields =>
    .method info.bare name privacy virtuality type.bare :: bareFields fields
  | .constraint info left right :: fields =>
    .constraint info.bare left.bare right.bare :: bareFields fields
  | .floating _ _ :: fields => bareFields fields

end

/-- The class without attributes. -/
def ClassDeclaration.bare (d : ClassDeclaration) : ClassDeclaration :=
  { d with params := d.params.map TypeParam.bare, type := d.type.bare, attributes := [] }

/-! ### Written signatures -/

/-- The computed type of a module expression without attributes. -/
def ModuleExprInfo.bare (info : ModuleExprInfo) : ModuleExprInfo :=
  { info with type := info.type.bare }

/-- The module expression without attributes. -/
def ModuleExpr.bare : ModuleExpr → ModuleExpr
  | .path info p => .path info.bare p
  | .body info => .body info.bare
  | .functor info => .functor info.bare
  | .apply info f argument => .apply info.bare f.bare argument.bare
  | .constraint info expr => .constraint info.bare expr.bare
  | .unpack info => .unpack info.bare

/-- The constraint without attributes. -/
def WithConstraint.bare : WithConstraint → WithConstraint
  | .typeEq d => .typeEq d.bare
  | .moduleEq p => .moduleEq p
  | .typeSubst d => .typeSubst d.bare
  | .moduleSubst p => .moduleSubst p

/-- The clause without attributes. -/
def WithClause.bare (c : WithClause) : WithClause :=
  { c with constraint := c.constraint.bare }

/-- The local name of a module without attributes. -/
def ModuleSubstitution.bare (d : ModuleSubstitution) : ModuleSubstitution :=
  { d with attributes := [] }

/-- The opened module without attributes. -/
def OpenDescription.bare (d : OpenDescription) : OpenDescription :=
  { d with attributes := [] }

mutual

/-- The module type without attributes. -/
def ModuleType.bare : ModuleType → ModuleType
  | .path info p => .path info.bare p
  | .signature info items => .signature info.bare (bareItems items)
  | .functor info .unit result => .functor info.bare .unit result.bare
  | .functor info (.named x arg) result =>
    .functor info.bare (.named x arg.bare) result.bare
  | .constrained info body clauses =>
    .constrained info.bare body.bare (clauses.map WithClause.bare)
  | .typeOf info expr => .typeOf info.bare expr.bare
  | .alias info p => .alias info.bare p

/-- The items without attributes. -/
def bareItems : List SignatureItem → List SignatureItem
  | [] => []
  | item :: items => item.bare ++ bareItems items

/-- The item without attributes; nothing is left of a floating attribute. -/
def SignatureItem.bare : SignatureItem → List SignatureItem
  | .value loc d => [.value loc d.bare]
  | .type loc flag ds => [.type loc flag (ds.map TypeDeclaration.bare)]
  | .typeSubst loc ds => [.typeSubst loc (ds.map TypeDeclaration.bare)]
  | .extension loc d => [.extension loc d.bare]
  | .exception loc d => [.exception loc d.bare]
  | .module loc d => [.module loc d.bare]
  | .moduleSubst loc d => [.moduleSubst loc d.bare]
  | .recModule loc ds => [.recModule loc (bareModules ds)]
  | .moduleType loc ⟨x, some type, _, loc'⟩ =>
    [.moduleType loc ⟨x, some type.bare, [], loc'⟩]
  | .moduleType loc ⟨x, none, _, loc'⟩ => [.moduleType loc ⟨x, none, [], loc'⟩]
  | .opened loc d => [.opened loc d.bare]
  | .included loc ⟨type, content, loc', _⟩ =>
    [.included loc ⟨type.bare, Compiled.bareItems content, loc', []⟩]
  | .class loc ds => [.class loc (ds.map ClassDeclaration.bare)]
  | .classType loc ds => [.classType loc (ds.map ClassDeclaration.bare)]
  | .floating _ _ => []

/-- The modules without attributes. -/
def bareModules : List ModuleDeclaration → List ModuleDeclaration
  | [] => []
  | d :: ds => d.bare :: bareModules ds

/-- The module without attributes. -/
def ModuleDeclaration.bare : ModuleDeclaration → ModuleDeclaration
  | ⟨x, type, _, loc⟩ => ⟨x, type.bare, [], loc⟩

end

/-- The signature without attributes. -/
def Signature.bare (signature : Signature) : Signature :=
  bareItems signature

theorem ModuleExpr.info_bare (expr : ModuleExpr) :
  expr.bare.info = expr.info.bare
  := by
  cases expr <;> rfl

theorem ModuleType.alias?_bare (type : ModuleType) :
  type.bare.alias? = type.alias?
  := by
  rcases type with _ | _ | ⟨_, _ | _, _⟩ | _ | _ | _ <;> rfl

theorem ModuleType.isSignature_bare (type : ModuleType) :
  type.bare.isSignature = type.isSignature
  := by
  rcases type with _ | _ | ⟨_, _ | _, _⟩ | _ | _ | _ <;> rfl

end Written

end InterfaceDocs
