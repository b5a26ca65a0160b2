import InterfaceDocs.Proofs.Visit.Basic
import InterfaceDocs.Written.Signature

/-!
# Identifiers that occur in trees

The identifiers that occur in the paths of types, declarations and signatures.  Left out are the
identifiers that a tree declares and the paths that are never looked at: those of opened modules,
of rebound extension constructors, of type parameters and of quantified variables, of the tags of
a polymorphic variant that has the name of an abbreviation, and of the operands inside a module
expression.  So agreement on the identifiers of a tree asks for less than agreement on all
identifiers in it.
-/

namespace InterfaceDocs

namespace Compiled

/-! ### Compiled types and declarations -/

mutual

/-- The identifiers in a type expression. -/
def TypeExpr.idents : TypeExpr → List Ident
  | .var _ _ => []
  | .univar _ _ => []
  | .arrow _ arg res => arg.idents ++ res.idents
  | .tuple types => identsTypes types
  | .constr p args => p.idents ++ identsTypes args
  | .object methods _ => identsMethods methods
  | .variant _ _ (some (.mk p args)) => p.idents ++ identsTypes args
  | .variant entries _ none => identsRow entries
  | .poly body _ => body.idents
  | .package p _ types => p.idents ++ identsTypes types
  | .alias type _ => type.idents

/-- The identifiers in a list of type expressions. -/
def identsTypes : List TypeExpr → List Ident
  | [] => []
  | type :: types => type.idents ++ identsTypes types

/-- The identifiers in the methods of an object type. -/
def identsMethods : List ObjectMethod → List Ident
  | [] => []
  | .mk _ type :: methods => type.idents ++ identsMethods methods

/-- The identifiers in the tags of a polymorphic variant. -/
def identsRow : List RowEntry → List Ident
  | [] => []
  | .mk _ (.present none) :: entries => identsRow entries
  | .mk _ (.present (some type)) :: entries => type.idents ++ identsRow entries
  | .mk _ (.either _ types) :: entries => identsTypes types ++ identsRow entries
  | .mk _ .absent :: entries => identsRow entries

end

/-- The identifiers in an optional type expression. -/
def identsOption (type : Option TypeExpr) : List Ident :=
  type.toList.flatMap TypeExpr.idents

/-- The identifiers in the arguments of a constructor. -/
def ConstructorArguments.idents : ConstructorArguments → List Ident
  | .tuple types => identsTypes types
  | .record labels => labels.flatMap fun d => d.type.idents

/-- The identifiers in the representation of a type. -/
def TypeKind.idents : TypeKind → List Ident
  | .abstract => []
  | .record labels => labels.flatMap fun d => d.type.idents
  | .variant constructors =>
    constructors.flatMap fun d => d.args.idents ++ identsOption d.result
  | .extensible => []

/-- The identifiers in a type declaration. -/
def TypeDeclaration.idents (d : TypeDeclaration) : List Ident :=
  d.kind.idents ++ identsOption d.manifest

/-- The identifiers in an extension constructor or exception. -/
def ExtensionConstructor.idents (d : ExtensionConstructor) : List Ident :=
  d.typePath.idents ++ (d.args.idents ++ identsOption d.result)

/-- The identifiers in a class type. -/
def ClassType.idents : ClassType → List Ident
  | .constr p args => p.idents ++ identsTypes args
  | .signature body =>
    body.instanceVariables.flatMap (fun v => v.type.idents) ++
      (body.methods.flatMap (fun m => m.type.idents) ++ identsOption body.self)
  | .arrow _ arg res => arg.idents ++ res.idents

/-! ### Compiled signatures -/

mutual

/-- The identifiers in a module type. -/
def ModuleType.idents : ModuleType → List Ident
  | .path p => p.idents
  | .signature items => identsItems items
  | .functor _ none result => result.idents
  | .functor _ (some arg) result => arg.idents ++ result.idents
  | .alias p => p.idents

/-- The identifiers in the items of a signature. -/
def identsItems : List SignatureItem → List Ident
  | [] => []
  | item :: items => item.idents ++ identsItems items

/-- The identifiers in an item of a signature. -/
def SignatureItem.idents : SignatureItem → List Ident
  | .value _ d => d.type.idents
  | .type _ d _ => d.idents
  | .extension _ d _ => d.idents
  | .module _ ⟨type, _, _⟩ _ => type.idents
  | .moduleType _ ⟨some type, _, _⟩ => type.idents
  | .moduleType _ ⟨none, _, _⟩ => []
  | .class _ d _ => d.type.idents
  | .classType _ d _ => d.type.idents

end

end Compiled

namespace Written

/-! ### Written types and declarations -/

mutual

/-- The identifiers in a type expression. -/
def CoreType.idents : CoreType → List Ident
  | .any _ => []
  | .var _ _ => []
  | .arrow _ _ arg res => arg.idents ++ res.idents
  | .tuple _ types => identsTypes types
  | .constr _ p args => p.idents ++ identsTypes args
  | .object _ fields _ => identsObjectFields fields
  | .class _ p args => p.idents ++ identsTypes args
  | .alias _ type _ => type.idents
  | .variant _ fields _ _ => identsRowFields fields
  | .poly _ _ body => body.idents
  | .package _ p fields _ => p.idents ++ identsPackageFields fields

/-- The identifiers in a list of type expressions. -/
def identsTypes : List CoreType → List Ident
  | [] => []
  | type :: types => type.idents ++ identsTypes types

/-- The identifiers in the fields of an object type. -/
def identsObjectFields : List ObjectField → List Ident
  | [] => []
  | .method _ _ type :: fields => type.idents ++ identsObjectFields fields
  | .inherit type :: fields => type.idents ++ identsObjectFields fields

/-- The identifiers in the fields of a polymorphic variant. -/
def identsRowFields : List RowField → List Ident
  | [] => []
  | .tag _ _ _ args :: fields => identsTypes args ++ identsRowFields fields
  | .inherit type :: fields => type.idents ++ identsRowFields fields

/-- The identifiers in the constraints of a package type. -/
def identsPackageFields : List PackageField → List Ident
  | [] => []
  | .mk _ type :: fields => type.idents ++ identsPackageFields fields

end

/-- The identifiers in an optional type expression. -/
def identsOption (type : Option CoreType) : List Ident :=
  type.toList.flatMap CoreType.idents

/-- The identifiers in the arguments of a constructor. -/
def ConstructorArguments.idents : ConstructorArguments → List Ident
  | .tuple types => identsTypes types
  | .record labels => labels.flatMap fun d => d.type.idents

/-- The identifiers in the representation of a type. -/
def TypeKind.idents : TypeKind → List Ident
  | .abstract => []
  | .variant constructors =>
    constructors.flatMap fun d => d.args.idents ++ identsOption d.result
  | .record labels => labels.flatMap fun d => d.type.idents
  | .extensible => []

/-- The identifiers in the manifest and the constraints of a type. -/
def TypeDeclaration.identsEquation (d : TypeDeclaration) : List Ident :=
  identsOption d.manifest ++ d.constraints.flatMap fun c => c.left.idents ++ c.right.idents

/-- The identifiers in a type declaration. -/
def TypeDeclaration.idents (d : TypeDeclaration) : List Ident :=
  d.identsEquation ++ d.kind.idents

/-- The identifiers in an extension constructor or exception. -/
def ExtensionConstructor.idents (d : ExtensionConstructor) : List Ident :=
  match d.kind with
  | .declared args result => args.idents ++ identsOption result
  | .rebound _ => []

/-- The identifiers in a type extension. -/
def TypeExtension.idents (d : TypeExtension) : List Ident :=
  d.path.idents ++ d.constructors.flatMap ExtensionConstructor.idents

mutual

/-- The identifiers in a class type. -/
def ClassType.idents : ClassType → List Ident
  | .constr _ p args => p.idents ++ identsTypes args
  | .signature _ self fields => self.idents ++ identsFields fields
  | .arrow _ _ arg res => arg.idents ++ res.idents

/-- The identifiers in the fields of a class. -/
def identsFields : List ClassField → List Ident
  | [] => []
  | .inherit _ type :: fields => type.idents ++ identsFields fields
  | .instanceVariable _ _ _ _ type :: fields => type.idents ++ identsFields fields
  | .method _ _ _ _ type :: fields => type.idents ++ identsFields fields
  | .constraint _ left right :: fields => left.idents ++ (right.idents ++ identsFields fields)
  | .floating _ _ :: fields => identsFields fields

end

/-! ### Written signatures -/

/-- The identifiers in a constraint on a module type. -/
def WithClause.idents (c : WithClause) : List Ident :=
  match c.constraint with
  | .typeEq d => d.identsEquation
  | .moduleEq p => p.idents
  | .typeSubst d => d.identsEquation
  | .moduleSubst p => p.idents

/-- The identifiers in the operand of `module type of` and in its computed type. -/
def ModuleExpr.idents : ModuleExpr → List Ident
  | .path info p => p.idents ++ info.type.idents
  | expr => expr.info.type.idents

mutual

/-- The identifiers in a module type. -/
def ModuleType.idents : ModuleType → List Ident
  | .path _ p => p.idents
  | .signature _ items => identsItems items
  | .functor _ .unit result => result.idents
  | .functor _ (.named _ arg) result => arg.idents ++ result.idents
  | .constrained _ body clauses => body.idents ++ clauses.flatMap WithClause.idents
  | .typeOf _ expr => expr.idents
  | .alias _ p => p.idents

/-- The identifiers in the items of a signature. -/
def identsItems : List SignatureItem → List Ident
  | [] => []
  | item :: items => item.idents ++ identsItems items

/-- The identifiers in an item of a signature. -/
def SignatureItem.idents : SignatureItem → List Ident
  | .value _ d => d.type.idents
  | .type _ _ ds => ds.flatMap TypeDeclaration.idents
  | .typeSubst _ ds => ds.flatMap TypeDeclaration.idents
  | .extension _ d => d.idents
  | .exception _ d => d.idents
  | .module _ d => d.idents
  | .moduleSubst _ d => d.manifest.idents
  | .recModule _ ds => identsModules ds
  | .moduleType _ ⟨_, some type, _, _⟩ => type.idents
  | .moduleType _ ⟨_, none, _, _⟩ => []
  | .opened _ _ => []
  | .included _ ⟨type, content, _, _⟩ => type.idents ++ Compiled.identsItems content
  | .class _ ds => ds.flatMap fun d => d.type.idents
  | .classType _ ds => ds.flatMap fun d => d.type.idents
  | .floating _ _ => []

/-- The identifiers in the members of a group of modules. -/
def identsModules : List ModuleDeclaration → List Ident
  | [] => []
  | d :: ds => d.idents ++ identsModules ds

/-- The identifiers in a module. -/
def ModuleDeclaration.idents : ModuleDeclaration → List Ident
  | ⟨_, type, _, _⟩ => type.idents

end

end Written

end InterfaceDocs
