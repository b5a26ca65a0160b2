import InterfaceDocs.Model.Signature

/-!
# Targets of references

The identifiers that a documentation model points at: those inside resolved references and
resolved fragments, anywhere in types, classes, aliases, constraints and module types.
-/

namespace InterfaceDocs

/-- What is listed element by element is in a list if it is for each element. -/
theorem flatMap_subset {α : Type} {f : α → List Identifier} {as : List α}
    {ids : List Identifier} (h : ∀ a ∈ as, f a ⊆ ids) :
  as.flatMap f ⊆ ids
  := by
  intro id hid
  obtain ⟨a, ha, hid⟩ := List.mem_flatMap.mp hid
  apply h a ha hid

/-- The identifiers inside a reference. -/
def Reference.targets : Reference → List Identifier
  | .resolved id => [id]
  | .root _ => []
  | .core _ => []
  | .dot head _ => head.targets
  | .apply functor argument => functor.targets ++ argument.targets

/-- The identifiers inside a fragment. -/
def Fragment.targets : Fragment → List Identifier
  | .root => []
  | .resolved id => [id]
  | .dot head _ => head.targets

namespace Model

mutual

/-- The identifiers that a type expression points at. -/
def TypeExpr.targets : TypeExpr → List Identifier
  | .any => []
  | .var _ => []
  | .arrow _ arg res => arg.targets ++ res.targets
  | .tuple types => targetsTypes types
  | .constr r args => r.targets ++ targetsTypes args
  | .variant _ elements => targetsElements elements
  | .object fields _ => targetsFields fields
  | .class r args => r.targets ++ targetsTypes args
  | .alias type _ => type.targets
  | .poly _ body => body.targets
  | .package r substitutions => r.targets ++ targetsPackage substitutions

/-- The identifiers that a list of type expressions points at. -/
def targetsTypes : List TypeExpr → List Identifier
  | [] => []
  | type :: types => type.targets ++ targetsTypes types

/-- The identifiers that the elements of a polymorphic variant point at. -/
def targetsElements : List VariantElement → List Identifier
  | [] => []
  | .constructor _ _ args _ :: elements => targetsTypes args ++ targetsElements elements
  | .type type :: elements => type.targets ++ targetsElements elements

/-- The identifiers that the fields of an object type point at. -/
def targetsFields : List ObjectField → List Identifier
  | [] => []
  | .method _ type :: fields => type.targets ++ targetsFields fields
  | .inherit type :: fields => type.targets ++ targetsFields fields

/-- The identifiers that the constraints of a package type point at. -/
def targetsPackage : List PackageSubstitution → List Identifier
  | [] => []
  | .mk fragment type :: substitutions =>
    fragment.targets ++ type.targets ++ targetsPackage substitutions

end

/-- The identifiers that an optional type expression points at. -/
def targetsOption (type : Option TypeExpr) : List Identifier :=
  type.toList.flatMap TypeExpr.targets

/-- The identifiers that an equation between types points at. -/
def TypeConstraint.targets (c : TypeConstraint) : List Identifier :=
  c.left.targets ++ c.right.targets

/-- The identifiers that the equation of a type points at. -/
def TypeEquation.targets (e : TypeEquation) : List Identifier :=
  targetsOption e.manifest ++ e.constraints.flatMap TypeConstraint.targets

/-- The identifiers that a field points at. -/
def Field.targets (f : Field) : List Identifier :=
  f.type.targets

/-- The identifiers that the arguments of a constructor point at. -/
def ConstructorArgs.targets : ConstructorArgs → List Identifier
  | .tuple types => targetsTypes types
  | .record fields => fields.flatMap Field.targets

/-- The identifiers that a constructor points at. -/
def Constructor.targets (c : Constructor) : List Identifier :=
  c.args.targets ++ targetsOption c.result

/-- The identifiers that the representation of a type points at. -/
def Representation.targets : Representation → List Identifier
  | .variant constructors => constructors.flatMap Constructor.targets
  | .record fields => fields.flatMap Field.targets
  | .extensible => []

/-- The identifiers that a canonical path points at. -/
def targetsCanonical (canonical : Option Reference) : List Identifier :=
  canonical.toList.flatMap Reference.targets

/-- The identifiers that a type declaration points at. -/
def TypeDecl.targets (d : TypeDecl) : List Identifier :=
  targetsCanonical d.canonical ++ d.equation.targets ++
    d.representation.toList.flatMap Representation.targets

/-- The identifiers that an extension points at. -/
def Extension.targets (e : Extension) : List Identifier :=
  e.typePath.targets ++ e.constructors.flatMap Constructor.targets

mutual

/-- The identifiers that a class type points at. -/
def ClassTypeExpr.targets : ClassTypeExpr → List Identifier
  | .constr r args => r.targets ++ targetsTypes args
  | .signature self items => targetsOption self ++ targetsClassItems items

/-- The identifiers that the items of a class point at. -/
def targetsClassItems : List ClassItem → List Identifier
  | [] => []
  | .method m :: items => m.type.targets ++ targetsClassItems items
  | .instanceVariable v :: items => v.type.targets ++ targetsClassItems items
  | .constraint c :: items => c.targets ++ targetsClassItems items
  | .inherit type :: items => type.targets ++ targetsClassItems items
  | .comment _ :: items => targetsClassItems items

end

/-- The identifiers that the type of a class points at. -/
def ClassDecl.targets : ClassDecl → List Identifier
  | .classType type => type.targets
  | .arrow _ arg res => arg.targets ++ res.targets

/-- The identifiers that a constraint on a module type points at. -/
def Substitution.targets : Substitution → List Identifier
  | .moduleEq fragment target => fragment.targets ++ target.targets
  | .typeEq fragment equation => fragment.targets ++ equation.targets
  | .moduleSubst fragment target => fragment.targets ++ target.targets
  | .typeSubst fragment ⟨head, equation⟩ =>
    fragment.targets ++ head.toList.flatMap Reference.targets ++ equation.targets

mutual

/-- The identifiers that a module type points at. -/
def ModuleTypeExpr.targets : ModuleTypeExpr → List Identifier
  | .path r => r.targets
  | .signature ⟨items, _⟩ => targetsItems items
  | .functor .unit result => result.targets
  | .functor (.named _ type _) result => type.targets ++ result.targets
  | .constrained body substitutions =>
    body.targets ++ substitutions.flatMap Substitution.targets
  | .typeOf type => type.targets

/-- The identifiers that the type of a module points at. -/
def ModuleDeclType.targets : ModuleDeclType → List Identifier
  | .alias r => r.targets
  | .moduleType type => type.targets

/-- The identifiers that the items of a signature point at. -/
def targetsItems : List Item → List Identifier
  | [] => []
  | item :: items => item.targets ++ targetsItems items

/-- The identifiers that an item of a signature points at. -/
def Item.targets : Item → List Identifier
  | .module _ ⟨_, _, type, canonical, _, _⟩ => targetsCanonical canonical ++ type.targets
  | .moduleType ⟨_, _, none, canonical, _⟩ => targetsCanonical canonical
  | .moduleType ⟨_, _, some type, canonical, _⟩ => targetsCanonical canonical ++ type.targets
  | .moduleSubstitution s => s.manifest.targets
  | .type _ d => d.targets
  | .typeSubstitution d => d.targets
  | .extension e => e.targets
  | .exception c => c.targets
  | .value v => v.type.targets
  | .external e => e.type.targets
  | .class _ c => c.type.targets
  | .classType _ c => c.type.targets
  | .included ⟨_, _, type, _, _, ⟨items, _⟩⟩ => type.targets ++ targetsItems items
  | .comment _ => []

end

/-- The identifiers that an interface points at. -/
def Interface.targets (i : Interface) : List Identifier :=
  targetsItems i.items

/-- The targets in the items of a class are listed item by item. -/
theorem targetsClassItems_append (items others : List ClassItem) :
  targetsClassItems (items ++ others) = targetsClassItems items ++ targetsClassItems others
  := by
  induction items with
  | nil => rfl
  | cons item items ih => cases item <;> simp [targetsClassItems, ih]

@[simp]
theorem targetsClassItems_comments (comments : List CommentItem) :
  targetsClassItems (comments.map .comment) = []
  := by
  induction comments with
  | nil => rfl
  | cons c comments ih => simp [targetsClassItems, ih]

/-- The targets in items are listed item by item. -/
theorem targetsItems_append (items others : List Item) :
  targetsItems (items ++ others) = targetsItems items ++ targetsItems others
  := by
  induction items with
  | nil => rfl
  | cons item items ih => simp [targetsItems, ih]

/-- Comments have no targets. -/
@[simp]
theorem targetsItems_comments (comments : List CommentItem) :
  targetsItems (comments.map .comment) = []
  := by
  induction comments with
  | nil => rfl
  | cons c comments ih => simp [targetsItems, Item.targets, ih]

@[simp]
theorem targets_signature (s : Signature) :
  (ModuleTypeExpr.signature s).targets = targetsItems s.items
  := by
  cases s
  rfl

/-- The targets of an include are those of its operand and of its content. -/
@[simp]
theorem targets_included (parent : Identifier) (doc : Doc) (type : ModuleTypeExpr)
    (status : IncludeStatus) (resolved : Bool) (content : Signature) :
  (Item.included ⟨parent, doc, type, status, resolved, content⟩).targets
    = type.targets ++ targetsItems content.items
  := by
  cases content
  rfl

/-- Lifting a leading comment into the summary keeps the references. -/
@[simp]
theorem targetsItems_ofItems (lift : Bool) (items : List Item) :
  targetsItems (Signature.ofItems lift items).items = targetsItems items
  := by
  unfold Signature.ofItems
  split
  · split
    · simp [targetsItems, Item.targets]
    · rfl
  · rfl

end Model

end InterfaceDocs
