import InterfaceDocs.Model.Signature

/-!
# Names of variables in the documentation model

The names of type variables that a documentation model prints, from left to right: those of the
variables in its types, of the variables that quantifiers bind, and of type parameters.  The name
that an alias gives to a type is not among them.
-/

namespace InterfaceDocs.Model

mutual

/-- The names of the variables in a type expression. -/
def TypeExpr.variables : TypeExpr → List String
  | .any => []
  | .var name => [name]
  | .arrow _ arg res => arg.variables ++ res.variables
  | .tuple types => variablesTypes types
  | .constr _ args => variablesTypes args
  | .variant _ elements => variablesElements elements
  | .object fields _ => variablesFields fields
  | .class _ args => variablesTypes args
  | .alias type _ => type.variables
  | .poly vars body => vars ++ body.variables
  | .package _ substitutions => variablesPackage substitutions

/-- The names of the variables in a list of type expressions. -/
def variablesTypes : List TypeExpr → List String
  | [] => []
  | type :: types => type.variables ++ variablesTypes types

/-- The names of the variables in the elements of a polymorphic variant. -/
def variablesElements : List VariantElement → List String
  | [] => []
  | .constructor _ _ args _ :: elements => variablesTypes args ++ variablesElements elements
  | .type type :: elements => type.variables ++ variablesElements elements

/-- The names of the variables in the fields of an object type. -/
def variablesFields : List ObjectField → List String
  | [] => []
  | .method _ type :: fields => type.variables ++ variablesFields fields
  | .inherit type :: fields => type.variables ++ variablesFields fields

/-- The names of the variables in the constraints of a package type. -/
def variablesPackage : List PackageSubstitution → List String
  | [] => []
  | .mk _ type :: substitutions => type.variables ++ variablesPackage substitutions

end

/-- A quantifier prints its variables in front of its body, whether there are any or not. -/
theorem TypeExpr.variables_quantified (vars : List String) (body : TypeExpr) :
  (quantified vars body).variables = vars ++ body.variables
  := by
  rw [quantified]
  split
  · rename_i h
    rw [List.isEmpty_iff.mp h, List.nil_append]
  · rfl

/-- The names of the variables in an optional type expression. -/
def variablesOption (type : Option TypeExpr) : List String :=
  type.toList.flatMap TypeExpr.variables

/-- The names of type parameters that are not anonymous. -/
def variablesParams (params : List TypeParam) : List String :=
  params.filterMap TypeParam.name

/-- The names of the variables in an equation between two types. -/
def TypeConstraint.variables (c : TypeConstraint) : List String :=
  c.left.variables ++ c.right.variables

/-- The names of the variables in the equation of a type. -/
def TypeEquation.variables (e : TypeEquation) : List String :=
  variablesParams e.params ++ variablesOption e.manifest ++
    e.constraints.flatMap TypeConstraint.variables

/-- The names of the variables in a field. -/
def Field.variables (f : Field) : List String :=
  f.type.variables

/-- The names of the variables in the arguments of a constructor. -/
def ConstructorArgs.variables : ConstructorArgs → List String
  | .tuple types => variablesTypes types
  | .record fields => fields.flatMap Field.variables

/-- The names of the variables in a constructor. -/
def Constructor.variables (c : Constructor) : List String :=
  c.args.variables ++ variablesOption c.result

/-- The names of the variables in the representation of a type. -/
def Representation.variables : Representation → List String
  | .variant constructors => constructors.flatMap Constructor.variables
  | .record fields => fields.flatMap Field.variables
  | .extensible => []

/-- The names of the variables in a type declaration. -/
def TypeDecl.variables (d : TypeDecl) : List String :=
  d.equation.variables ++ d.representation.toList.flatMap Representation.variables

mutual

/-- The names of the variables in a class type. -/
def ClassTypeExpr.variables : ClassTypeExpr → List String
  | .constr _ args => variablesTypes args
  | .signature self items => variablesOption self ++ variablesClassItems items

/-- The names of the variables in the items of a class. -/
def variablesClassItems : List ClassItem → List String
  | [] => []
  | .method m :: items => m.type.variables ++ variablesClassItems items
  | .instanceVariable v :: items => v.type.variables ++ variablesClassItems items
  | .constraint c :: items => c.variables ++ variablesClassItems items
  | .inherit type :: items => type.variables ++ variablesClassItems items
  | .comment _ :: items => variablesClassItems items

end

/-- The names in the items of a class are listed item by item. -/
theorem variablesClassItems_append (items others : List ClassItem) :
  variablesClassItems (items ++ others)
    = variablesClassItems items ++ variablesClassItems others
  := by
  induction items with
  | nil => rfl
  | cons item items ih => cases item <;> simp [variablesClassItems, ih]

/-- The names of the variables in the type of a class. -/
def ClassDecl.variables : ClassDecl → List String
  | .classType type => type.variables
  | .arrow _ arg res => arg.variables ++ res.variables

/-- The names of the variables in a class. -/
def Class.variables (c : Class) : List String :=
  variablesParams c.params ++ c.type.variables

/-- The names of the variables in a class type declaration. -/
def ClassType.variables (c : ClassType) : List String :=
  variablesParams c.params ++ c.type.variables

/-- The names of the variables in the type of a value, if the item describes one. -/
def Item.valueVariables : Item → List String
  | .value v => v.type.variables
  | .external e => e.type.variables
  | _ => []

end InterfaceDocs.Model
