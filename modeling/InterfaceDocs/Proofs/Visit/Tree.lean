import InterfaceDocs.Proofs.Visit.Basic
import InterfaceDocs.Written.Signature

/-!
# Visits to signatures

What a load looks at in types, declarations and signatures, in terms of the identifiers that
are in scope.  A signature brings all identifiers into scope that it declares, and a functor
its parameter in its result.  Not visited are the paths of opened modules, attributes, the
tags of a polymorphic variant that has the name of an abbreviation, the variables of a
quantifier, the parameters of compiled declarations, package types without a name, the type
of an extension in constructors that continue it, and the computed type of a path in
`module type of`.
-/

namespace InterfaceDocs

namespace Compiled

/-! ### Compiled types -/

mutual

/-- The visits to a type expression. -/
def TypeExpr.visits (env : List Ident) : TypeExpr → List Visit
  | .var _ _ => []
  | .univar _ _ => []
  | .arrow _ arg res => arg.visits env ++ res.visits env
  | .tuple types => visitsTypes env types
  | .constr p args => .path env p :: visitsTypes env args
  | .object methods _ => visitsMethods env methods
  | .variant _ _ (some (.mk p args)) => .path env p :: visitsTypes env args
  | .variant entries _ none => visitsRow env entries
  | .poly body _ => body.visits env
  | .package p names types => .path env p :: visitsPackage env names types
  | .alias type _ => type.visits env

/-- The visits to a list of type expressions. -/
def visitsTypes (env : List Ident) : List TypeExpr → List Visit
  | [] => []
  | type :: types => type.visits env ++ visitsTypes env types

/-- The visits to the methods of an object type. -/
def visitsMethods (env : List Ident) : List ObjectMethod → List Visit
  | [] => []
  | .mk _ type :: methods => type.visits env ++ visitsMethods env methods

/-- The visits to the tags of a polymorphic variant. -/
def visitsRow (env : List Ident) : List RowEntry → List Visit
  | [] => []
  | .mk _ (.present none) :: entries => visitsRow env entries
  | .mk _ (.present (some type)) :: entries => type.visits env ++ visitsRow env entries
  | .mk _ (.either _ types) :: entries => visitsTypes env types ++ visitsRow env entries
  | .mk _ .absent :: entries => visitsRow env entries

/-- The visits to the constraints of a package type. -/
def visitsPackage (env : List Ident) : List LongIdent → List TypeExpr → List Visit
  | _ :: names, type :: types => type.visits env ++ visitsPackage env names types
  | _, _ => []

end

/-- The visits to an optional type expression. -/
def visitsOption (env : List Ident) (type : Option TypeExpr) : List Visit :=
  type.toList.flatMap (TypeExpr.visits env)

/-! ### Compiled declarations -/

/-- The visits to a label. -/
def LabelDeclaration.visits (env : List Ident) (d : LabelDeclaration) : List Visit :=
  d.type.visits env

/-- The visits to the arguments of a constructor. -/
def ConstructorArguments.visits (env : List Ident) : ConstructorArguments → List Visit
  | .tuple types => visitsTypes env types
  | .record labels => labels.flatMap (LabelDeclaration.visits env)

/-- The visits to a constructor with the given arguments and result. -/
def visitsConstructor (env : List Ident) (args : ConstructorArguments)
    (result : Option TypeExpr) : List Visit :=
  args.visits env ++ visitsOption env result

/-- The visits to a constructor. -/
def ConstructorDeclaration.visits (env : List Ident) (d : ConstructorDeclaration) : List Visit :=
  visitsConstructor env d.args d.result

/-- The visits to the representation of a type. -/
def TypeKind.visits (env : List Ident) : TypeKind → List Visit
  | .abstract => []
  | .record labels => labels.flatMap (LabelDeclaration.visits env)
  | .variant constructors => constructors.flatMap (ConstructorDeclaration.visits env)
  | .extensible => []

/-- The visits to a type declaration. -/
def TypeDeclaration.visits (env : List Ident) (d : TypeDeclaration) : List Visit :=
  d.kind.visits env ++ visitsOption env d.manifest

/-- The visits to an extension constructor or exception. -/
def ExtensionConstructor.visits (env : List Ident) (d : ExtensionConstructor) : List Visit :=
  visitsConstructor env d.args d.result

/-- The visits to a value. -/
def ValueDescription.visits (env : List Ident) (d : ValueDescription) : List Visit :=
  d.type.visits env

/-- The visits to a class type where only a path or a body may stand. -/
def ClassType.visits (env : List Ident) : ClassType → List Visit
  | .constr p args => .path env p :: visitsTypes env args
  | .signature body =>
    body.instanceVariables.flatMap (fun v => v.type.visits env) ++
      (body.methods.flatMap (fun m => m.type.visits env) ++ visitsOption env body.self)
  | .arrow _ _ _ => [.defect .classArrow]

/-- The visits to the type of a class, which may begin with arguments. -/
def ClassType.visitsDecl (env : List Ident) : ClassType → List Visit
  | .arrow _ arg res => arg.visits env ++ res.visitsDecl env
  | type => type.visits env

/-! ### Compiled signatures -/

/-- The identifiers that an item declares for paths to refer to. -/
def SignatureItem.declaredIdents : SignatureItem → List Ident
  | .value _ _ => []
  | .extension _ _ _ => []
  | item => item.ident :: item.companions

mutual

/-- The visits to a module type. -/
def ModuleType.visits (env : List Ident) : ModuleType → List Visit
  | .path p => [.path env p]
  | .signature items =>
    visitsItems (items.flatMap SignatureItem.declaredIdents ++ env) false items
  | .functor _ none result => result.visits env
  | .functor x (some arg) result => arg.visits env ++ result.visits (x :: env)
  | .alias _ => [.defect .moduleAlias]

/-- The visits to the items of a signature; `continues` tells whether the item before them
belongs to an extension. -/
def visitsItems (env : List Ident) (continues : Bool) : List SignatureItem → List Visit
  | [] => []
  | .value _ d :: items => d.visits env ++ visitsItems env false items
  | .type _ d _ :: items => d.visits env ++ visitsItems env false items
  | .extension _ d .exception :: items => d.visits env ++ visitsItems env false items
  | .extension _ d status :: items =>
    d.visits env ++
      ((if continues && status = .next then [] else [.path env d.typePath]) ++
        visitsItems env true items)
  | .module _ ⟨type, _, _⟩ _ :: items =>
    (match type.alias? with
      | some p => [.path env p]
      | none => type.visits env) ++ visitsItems env false items
  | .moduleType _ ⟨some type, _, _⟩ :: items => type.visits env ++ visitsItems env false items
  | .moduleType _ ⟨none, _, _⟩ :: items => visitsItems env false items
  | .class _ d _ :: items => d.type.visitsDecl env ++ visitsItems env false items
  | .classType _ d _ :: items => d.type.visits env ++ visitsItems env false items

end

/-- The visits to a signature. -/
def Signature.visits (env : List Ident) (items : Signature) : List Visit :=
  visitsItems (items.flatMap SignatureItem.declaredIdents ++ env) false items

end Compiled

namespace Written

/-! ### Written types -/

mutual

/-- The visits to a type expression. -/
def CoreType.visits (env : List Ident) : CoreType → List Visit
  | .any _ => []
  | .var _ _ => []
  | .arrow _ _ arg res => arg.visits env ++ res.visits env
  | .tuple _ types => visitsTypes env types
  | .constr _ p args => .path env p :: visitsTypes env args
  | .object _ fields _ => visitsObjectFields env fields
  | .class _ p args => .path env p :: visitsTypes env args
  | .alias _ type _ => type.visits env
  | .variant _ fields _ _ => visitsRowFields env fields
  | .poly _ _ body => body.visits env
  | .package _ p fields _ => .path env p :: visitsPackageFields env fields

/-- The visits to a list of type expressions. -/
def visitsTypes (env : List Ident) : List CoreType → List Visit
  | [] => []
  | type :: types => type.visits env ++ visitsTypes env types

/-- The visits to the fields of an object type. -/
def visitsObjectFields (env : List Ident) : List ObjectField → List Visit
  | [] => []
  | .method _ _ type :: fields => type.visits env ++ visitsObjectFields env fields
  | .inherit type :: fields => type.visits env ++ visitsObjectFields env fields

/-- The visits to the fields of a polymorphic variant. -/
def visitsRowFields (env : List Ident) : List RowField → List Visit
  | [] => []
  | .tag _ _ _ args :: fields => visitsTypes env args ++ visitsRowFields env fields
  | .inherit type :: fields => type.visits env ++ visitsRowFields env fields

/-- The visits to the constraints of a package type. -/
def visitsPackageFields (env : List Ident) : List PackageField → List Visit
  | [] => []
  | .mk _ type :: fields => type.visits env ++ visitsPackageFields env fields

end

/-- The visits to an optional type expression. -/
def visitsOption (env : List Ident) (type : Option CoreType) : List Visit :=
  type.toList.flatMap (CoreType.visits env)

/-! ### Written declarations -/

/-- The visits to a type parameter, which should be a variable or anonymous. -/
def TypeParam.visits (p : TypeParam) : List Visit :=
  match p.type with
  | .any _ => []
  | .var _ _ => []
  | _ => [.defect .typeParameter]

/-- The visits to a clause that equates two types. -/
def TypeConstraint.visits (env : List Ident) (c : TypeConstraint) : List Visit :=
  c.left.visits env ++ c.right.visits env

/-- The visits to the manifest, the constraints and the parameters of a type. -/
def TypeDeclaration.visitsEquation (env : List Ident) (d : TypeDeclaration) : List Visit :=
  visitsOption env d.manifest ++
    (d.constraints.flatMap (TypeConstraint.visits env) ++ d.params.flatMap TypeParam.visits)

/-- The visits to a label. -/
def LabelDeclaration.visits (env : List Ident) (d : LabelDeclaration) : List Visit :=
  d.type.visits env

/-- The visits to the arguments of a constructor. -/
def ConstructorArguments.visits (env : List Ident) : ConstructorArguments → List Visit
  | .tuple types => visitsTypes env types
  | .record labels => labels.flatMap (LabelDeclaration.visits env)

/-- The visits to a constructor. -/
def ConstructorDeclaration.visits (env : List Ident) (d : ConstructorDeclaration) : List Visit :=
  d.args.visits env ++ visitsOption env d.result

/-- The visits to the representation of a type. -/
def TypeKind.visits (env : List Ident) : TypeKind → List Visit
  | .abstract => []
  | .variant constructors => constructors.flatMap (ConstructorDeclaration.visits env)
  | .record labels => labels.flatMap (LabelDeclaration.visits env)
  | .extensible => []

/-- The visits to a type declaration. -/
def TypeDeclaration.visits (env : List Ident) (d : TypeDeclaration) : List Visit :=
  d.visitsEquation env ++ d.kind.visits env

/-- The visits to an extension constructor or exception. -/
def ExtensionConstructor.visits (env : List Ident) (d : ExtensionConstructor) : List Visit :=
  match d.kind with
  | .declared args result => args.visits env ++ visitsOption env result
  | .rebound _ => [.defect .rebind]

/-- The visits to a type extension. -/
def TypeExtension.visits (env : List Ident) (d : TypeExtension) : List Visit :=
  .path env d.path ::
    (d.constructors.flatMap (ExtensionConstructor.visits env) ++ d.params.flatMap TypeParam.visits)

mutual

/-- The visits to a class type where only a path or a body may stand. -/
def ClassType.visits (env : List Ident) : ClassType → List Visit
  | .constr _ p args => .path env p :: visitsTypes env args
  | .signature _ self fields => self.visits env ++ visitsFields env fields
  | .arrow _ _ _ _ => [.defect .classArrow]

/-- The visits to the fields of a class. -/
def visitsFields (env : List Ident) : List ClassField → List Visit
  | [] => []
  | .inherit _ type :: fields => type.visits env ++ visitsFields env fields
  | .instanceVariable _ _ _ _ type :: fields => type.visits env ++ visitsFields env fields
  | .method _ _ _ _ type :: fields => type.visits env ++ visitsFields env fields
  | .constraint _ left right :: fields =>
    left.visits env ++ (right.visits env ++ visitsFields env fields)
  | .floating _ _ :: fields => visitsFields env fields

end

/-- The visits to the type of a class, which may begin with arguments. -/
def ClassType.visitsDecl (env : List Ident) : ClassType → List Visit
  | .arrow _ _ arg res => arg.visits env ++ res.visitsDecl env
  | type => type.visits env

/-- The visits to a class. -/
def ClassDeclaration.visits (env : List Ident) (d : ClassDeclaration) : List Visit :=
  d.params.flatMap TypeParam.visits ++ d.type.visitsDecl env

/-- The visits to a class type declaration. -/
def ClassDeclaration.visitsClassType (env : List Ident) (d : ClassDeclaration) : List Visit :=
  d.params.flatMap TypeParam.visits ++ d.type.visits env

/-! ### Written signatures -/

/-- The identifiers that an item declares for paths to refer to; an include declares those of
its content. -/
def SignatureItem.declaredIdents : SignatureItem → List Ident
  | .value _ _ => []
  | .type _ _ ds => ds.map TypeDeclaration.ident
  | .typeSubst _ ds => ds.map TypeDeclaration.ident
  | .extension _ _ => []
  | .exception _ _ => []
  | .module _ d => [d.ident]
  | .moduleSubst _ d => [d.ident]
  | .recModule _ ds => ds.map ModuleDeclaration.ident
  | .moduleType _ d => [d.ident]
  | .opened _ _ => []
  | .included _ d => d.content.flatMap Compiled.SignatureItem.declaredIdents
  | .class _ ds => ds.flatMap fun d => [d.classIdent, d.classTypeIdent, d.objectIdent]
  | .classType _ ds => ds.flatMap fun d => [d.classTypeIdent, d.objectIdent]
  | .floating _ _ => []

/-- The visits to a constraint on a module type. -/
def WithClause.visits (env : List Ident) (c : WithClause) : List Visit :=
  match c.constraint with
  | .typeEq d => d.visitsEquation env
  | .moduleEq p => [.path env p]
  | .typeSubst d => if d.manifest.isNone then [.defect .missingManifest] else d.visitsEquation env
  | .moduleSubst p => [.path env p]

/-- The visits to the operand of `module type of`. -/
def ModuleExpr.visits (env : List Ident) : ModuleExpr → List Visit
  | .path _ p => [.path env p]
  | expr => expr.info.type.visits env

mutual

/-- The visits to a module type. -/
def ModuleType.visits (env : List Ident) : ModuleType → List Visit
  | .path _ p => [.path env p]
  | .signature _ items => visitsItems (items.flatMap SignatureItem.declaredIdents ++ env) items
  | .functor _ .unit result => result.visits env
  | .functor _ (.named x arg) result => arg.visits env ++ result.visits (x :: env)
  | .constrained _ body clauses => body.visits env ++ clauses.flatMap (WithClause.visits env)
  | .typeOf _ expr => expr.visits env
  | .alias _ _ => [.defect .moduleAlias]

/-- The visits to the items of a signature. -/
def visitsItems (env : List Ident) : List SignatureItem → List Visit
  | [] => []
  | item :: items => item.visits env ++ visitsItems env items

/-- The visits to an item of a signature. -/
def SignatureItem.visits (env : List Ident) : SignatureItem → List Visit
  | .value _ d => d.type.visits env
  | .type _ _ ds => ds.flatMap (TypeDeclaration.visits env)
  | .typeSubst _ ds => ds.flatMap (TypeDeclaration.visits env)
  | .extension _ d => d.visits env
  | .exception _ d => d.visits env
  | .module _ d => d.visits env
  | .moduleSubst _ d => [.path env d.manifest]
  | .recModule _ ds => visitsModules env ds
  | .moduleType _ ⟨_, some type, _, _⟩ => type.visits env
  | .moduleType _ ⟨_, none, _, _⟩ => []
  | .opened _ _ => []
  | .included _ ⟨type, content, _, _⟩ => type.visits env ++ Compiled.Signature.visits env content
  | .class _ ds => ds.flatMap (ClassDeclaration.visits env)
  | .classType _ ds => ds.flatMap (ClassDeclaration.visitsClassType env)
  | .floating _ _ => []

/-- The visits to the members of a group of modules. -/
def visitsModules (env : List Ident) : List ModuleDeclaration → List Visit
  | [] => []
  | d :: ds => d.visits env ++ visitsModules env ds

/-- The visits to a module, which may be an alias. -/
def ModuleDeclaration.visits (env : List Ident) : ModuleDeclaration → List Visit
  | ⟨_, type, _, _⟩ =>
    match type.alias? with
    | some p => [.path env p]
    | none => type.visits env

end

/-- The visits to the signature of a compilation unit, outside of which nothing is in scope. -/
def Signature.visits (items : Signature) : List Visit :=
  visitsItems (items.flatMap SignatureItem.declaredIdents) items

end Written

end InterfaceDocs
