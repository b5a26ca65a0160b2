import InterfaceDocs.Model.Signature

/-!
# Bare records

A record of the documentation model is bare when its documentation is taken away: all docs are
absent, there are no comments among the items of signatures and classes, and what is read off
the documentation, which is the canonical path, whether a module is hidden and how an include
is shown, is blanked out.  Identifiers, references, types and the order of the declarations
stay.
-/

namespace InterfaceDocs.Model

/-! ### Types -/

mutual

/-- The type expression without documentation. -/
def TypeExpr.bare : TypeExpr → TypeExpr
  | .any => .any
  | .var name => .var name
  | .arrow label arg res => .arrow label arg.bare res.bare
  | .tuple types => .tuple (bareTypes types)
  | .constr r args => .constr r (bareTypes args)
  | .variant kind elements => .variant kind (bareElements elements)
  | .object fields isOpen => .object (bareObjectFields fields) isOpen
  | .class r args => .class r (bareTypes args)
  | .alias type name => .alias type.bare name
  | .poly vars body => .poly vars body.bare
  | .package r substitutions => .package r (barePackage substitutions)

/-- The type expressions without documentation. -/
def bareTypes : List TypeExpr → List TypeExpr
  | [] => []
  | type :: types => type.bare :: bareTypes types

/-- The elements of a polymorphic variant without documentation. -/
def bareElements : List VariantElement → List VariantElement
  | [] => []
  | .constructor name constant args _ :: elements =>
    .constructor name constant (bareTypes args) .absent :: bareElements elements
  | .type type :: elements => .type type.bare :: bareElements elements

/-- The fields of an object type without documentation. -/
def bareObjectFields : List ObjectField → List ObjectField
  | [] => []
  | .method name type :: fields => .method name type.bare :: bareObjectFields fields
  | .inherit type :: fields => .inherit type.bare :: bareObjectFields fields

/-- The constraints of a package type without documentation. -/
def barePackage : List PackageSubstitution → List PackageSubstitution
  | [] => []
  | .mk fragment type :: substitutions => .mk fragment type.bare :: barePackage substitutions

end

/-- A quantifier stays one without documentation. -/
theorem TypeExpr.bare_quantified (vars : List String) (body : TypeExpr) :
  (TypeExpr.quantified vars body).bare = .quantified vars body.bare
  := by
  unfold TypeExpr.quantified
  split
  · rfl
  · rfl

/-! ### Declarations -/

/-- The equation between types without documentation. -/
def TypeConstraint.bare (c : TypeConstraint) : TypeConstraint :=
  ⟨c.left.bare, c.right.bare⟩

/-- The type equation without documentation. -/
def TypeEquation.bare (e : TypeEquation) : TypeEquation :=
  { e with
    manifest := e.manifest.map TypeExpr.bare
    constraints := e.constraints.map TypeConstraint.bare }

/-- The field without documentation. -/
def Field.bare (f : Field) : Field :=
  { f with doc := .absent, type := f.type.bare }

/-- The arguments of a constructor without documentation. -/
def ConstructorArgs.bare : ConstructorArgs → ConstructorArgs
  | .tuple types => .tuple (bareTypes types)
  | .record fields => .record (fields.map Field.bare)

/-- The constructor without documentation. -/
def Constructor.bare (c : Constructor) : Constructor :=
  { c with doc := .absent, args := c.args.bare, result := c.result.map TypeExpr.bare }

/-- The representation without documentation. -/
def Representation.bare : Representation → Representation
  | .variant constructors => .variant (constructors.map Constructor.bare)
  | .record fields => .record (fields.map Field.bare)
  | .extensible => .extensible

/-- The type declaration without documentation. -/
def TypeDecl.bare (d : TypeDecl) : TypeDecl :=
  { d with
    doc := .absent
    canonical := none
    equation := d.equation.bare
    representation := d.representation.map Representation.bare }

/-- The extension without documentation. -/
def Extension.bare (e : Extension) : Extension :=
  { e with doc := .absent, constructors := e.constructors.map Constructor.bare }

/-- The value without documentation. -/
def Value.bare (v : Value) : Value :=
  { v with doc := .absent, type := v.type.bare }

/-- The external value without documentation. -/
def External.bare (e : External) : External :=
  { e with doc := .absent, type := e.type.bare }

/-- The method without documentation. -/
def Method.bare (m : Method) : Method :=
  { m with doc := .absent, type := m.type.bare }

/-- The instance variable without documentation. -/
def InstanceVariable.bare (v : InstanceVariable) : InstanceVariable :=
  { v with doc := .absent, type := v.type.bare }

mutual

/-- The class type without documentation. -/
def ClassTypeExpr.bare : ClassTypeExpr → ClassTypeExpr
  | .constr r args => .constr r (bareTypes args)
  | .signature self items => .signature (self.map TypeExpr.bare) (bareClassItems items)

/-- The items of a class without documentation and without comments. -/
def bareClassItems : List ClassItem → List ClassItem
  | [] => []
  | .method m :: items => .method m.bare :: bareClassItems items
  | .instanceVariable v :: items => .instanceVariable v.bare :: bareClassItems items
  | .constraint c :: items => .constraint c.bare :: bareClassItems items
  | .inherit type :: items => .inherit type.bare :: bareClassItems items
  | .comment _ :: items => bareClassItems items

end

/-- The type of a class without documentation. -/
def ClassDecl.bare : ClassDecl → ClassDecl
  | .classType type => .classType type.bare
  | .arrow label arg res => .arrow label arg.bare res.bare

/-- The class without documentation. -/
def Class.bare (c : Class) : Class :=
  { c with doc := .absent, type := c.type.bare }

/-- The class type declaration without documentation. -/
def ClassType.bare (c : ClassType) : ClassType :=
  { c with doc := .absent, type := c.type.bare }

/-! ### Signatures -/

/-- The constraint on a module type without documentation. -/
def Substitution.bare : Substitution → Substitution
  | .moduleEq fragment target => .moduleEq fragment target
  | .typeEq fragment equation => .typeEq fragment equation.bare
  | .moduleSubst fragment target => .moduleSubst fragment target
  | .typeSubst fragment substitution =>
    .typeSubst fragment { substitution with equation := substitution.equation.bare }

mutual

/-- The module type without documentation. -/
def ModuleTypeExpr.bare : ModuleTypeExpr → ModuleTypeExpr
  | .path r => .path r
  | .signature ⟨items, _⟩ => .signature ⟨bareItems items, .absent⟩
  | .functor .unit result => .functor .unit result.bare
  | .functor (.named id type expanded) result =>
    .functor (.named id type.bare expanded) result.bare
  | .constrained body substitutions =>
    .constrained body.bare (substitutions.map Substitution.bare)
  | .typeOf type => .typeOf type.bare

/-- The type of a module without documentation. -/
def ModuleDeclType.bare : ModuleDeclType → ModuleDeclType
  | .alias r => .alias r
  | .moduleType type => .moduleType type.bare

/-- The items of a signature without documentation and without comments. -/
def bareItems : List Item → List Item
  | [] => []
  | item :: items => item.bare ++ bareItems items

/-- The item without documentation; nothing is left of a comment. -/
def Item.bare : Item → List Item
  | .module flag ⟨id, _, type, _, _, expanded⟩ =>
    [.module flag ⟨id, .absent, type.bare, none, false, expanded⟩]
  | .moduleType ⟨id, _, none, _, expanded⟩ =>
    [.moduleType ⟨id, .absent, none, none, expanded⟩]
  | .moduleType ⟨id, _, some type, _, expanded⟩ =>
    [.moduleType ⟨id, .absent, some type.bare, none, expanded⟩]
  | .moduleSubstitution s => [.moduleSubstitution { s with doc := .absent }]
  | .type flag d => [.type flag d.bare]
  | .typeSubstitution d => [.typeSubstitution d.bare]
  | .extension e => [.extension e.bare]
  | .exception c => [.exception c.bare]
  | .value v => [.value v.bare]
  | .external e => [.external e.bare]
  | .class flag c => [.class flag c.bare]
  | .classType flag c => [.classType flag c.bare]
  | .included ⟨parent, _, type, _, resolved, ⟨content, _⟩⟩ =>
    [.included
      ⟨parent, .absent, type.bare, .default, resolved, ⟨bareItems content, .absent⟩⟩]
  | .comment _ => []

end

/-- The signature without documentation. -/
def Signature.bare (s : Signature) : Signature :=
  ⟨bareItems s.items, .absent⟩

/-- The interface without documentation. -/
def Interface.bare (i : Interface) : Interface :=
  { i with doc := .absent, items := bareItems i.items }

/-! ### Comments -/

theorem bareClassItems_append (items others : List ClassItem) :
  bareClassItems (items ++ others) = bareClassItems items ++ bareClassItems others
  := by
  induction items with
  | nil => rfl
  | cons item items ih => cases item <;> simp [bareClassItems, ih]

/-- Comments in a class are left out. -/
@[simp]
theorem bareClassItems_comments (comments : List CommentItem) :
  bareClassItems (comments.map .comment) = []
  := by
  induction comments with
  | nil => rfl
  | cons c comments ih => apply ih

theorem bareItems_singleton (item : Item) :
  bareItems [item] = item.bare
  := List.append_nil _

/-- Documentation is left out item by item. -/
theorem bareItems_append (items others : List Item) :
  bareItems (items ++ others) = bareItems items ++ bareItems others
  := by
  induction items with
  | nil => rfl
  | cons item items ih =>
    rw [List.cons_append, bareItems, ih, bareItems, List.append_assoc]

/-- Comments are left out. -/
@[simp]
theorem bareItems_comments (comments : List CommentItem) :
  bareItems (comments.map .comment) = []
  := by
  induction comments with
  | nil => rfl
  | cons c comments ih => apply ih

/-- Lifting a leading comment into the summary is not seen in the bare signature. -/
@[simp]
theorem bare_ofItems (lift : Bool) (items : List Item) :
  (Signature.ofItems lift items).bare = ⟨bareItems items, .absent⟩
  := by
  unfold Signature.ofItems
  split
  · split
    · rfl
    · rfl
  · rfl

@[simp]
theorem bare_signature (s : Signature) :
  (ModuleTypeExpr.signature s).bare = .signature s.bare
  := by
  cases s
  rfl

/-- An include without documentation has the default status. -/
theorem bare_included (parent : Identifier) (doc : Doc) (type : ModuleTypeExpr)
    (status : IncludeStatus) (resolved : Bool) (content : Signature) :
  (Item.included ⟨parent, doc, type, status, resolved, content⟩).bare
    = [.included ⟨parent, .absent, type.bare, .default, resolved, content.bare⟩]
  := by
  cases content
  rfl

/-- A module type without documentation has no canonical path. -/
theorem bare_moduleType (id : Identifier) (doc : Doc) (type : Option ModuleTypeExpr)
    (canonical : Option Reference) (expanded : Bool) :
  (Item.moduleType ⟨id, doc, type, canonical, expanded⟩).bare
    = [.moduleType ⟨id, .absent, type.map ModuleTypeExpr.bare, none, expanded⟩]
  := by
  cases type <;> rfl

end InterfaceDocs.Model
