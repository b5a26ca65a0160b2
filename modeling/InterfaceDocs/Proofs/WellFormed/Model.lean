import InterfaceDocs.Config
import InterfaceDocs.Proofs.Model.Targets

/-!
# Well-formed interfaces

An identifier is rooted in a unit when it belongs to the unit and every child on the way to it
has a kind that children may have.  An interface is well formed when, at every depth, its
identifiers and the targets of its references are rooted in it, its quantifiers bind variables,
the marks on modules, module types and functor parameters say what their types and their
documentation say, and its includes belong to the signatures that they stand in.

The rules for module types and items have the owner of the signature as an index: the nearest
module, module type, functor parameter or unit around it.
-/

namespace InterfaceDocs

/-! ### Identifiers -/

namespace Identifier

/-- The kinds of the children on the way from the root to an identifier, the last one first. -/
def childKinds : Identifier → List IdentifierKind
  | .root _ _ => []
  | .child parent kind _ => kind :: parent.childKinds
  | .argument parent _ _ => parent.childKinds

/-- The identifier belongs to the unit `root`, and on the way to it no child is a root or a
functor parameter. -/
structure Rooted (id root : Identifier) : Prop where
  rootOf_eq : id.rootOf = root
  root_notMem : .root ∉ id.childKinds
  functorParameter_notMem : .functorParameter ∉ id.childKinds

namespace Rooted

variable {root parent : Identifier}

/-- A unit is rooted in itself. -/
theorem unit (container name : String) :
  (Identifier.root container name).Rooted (.root container name)
  := ⟨rfl, List.not_mem_nil, List.not_mem_nil⟩

/-- A child of a rooted identifier is rooted if it has a kind that children can have. -/
theorem child (h : parent.Rooted root) (kind : IdentifierKind)
    (hkind : IdentifierKind.nested.contains kind = true) (name : String) :
  (parent.child kind name).Rooted root
  := by
  constructor
  · apply h.rootOf_eq
  · rw [childKinds, List.mem_cons, not_or]
    constructor
    · rintro rfl
      apply Bool.false_ne_true hkind
    · apply h.root_notMem
  · rw [childKinds, List.mem_cons, not_or]
    constructor
    · rintro rfl
      apply Bool.false_ne_true hkind
    · apply h.functorParameter_notMem

/-- An argument of a rooted functor is rooted. -/
theorem argument (h : parent.Rooted root) (position : Nat) (name : String) :
  (parent.argument position name).Rooted root
  := ⟨h.rootOf_eq, h.root_notMem, h.functorParameter_notMem⟩

end Rooted

end Identifier

/-- The identifiers inside a reference are rooted in a unit. -/
def Reference.Rooted (root : Identifier) (r : Reference) : Prop :=
  ∀ id ∈ r.targets, id.Rooted root

/-- The identifiers inside a fragment are rooted in a unit. -/
def Fragment.Rooted (root : Identifier) (f : Fragment) : Prop :=
  ∀ id ∈ f.targets, id.Rooted root

namespace Model

/-! ### Types -/

mutual

/-- A type expression is well formed: its references are rooted, and a quantifier in it binds
at least one variable. -/
inductive TypeExpr.WellFormed (root : Identifier) : TypeExpr → Prop where
  | any : TypeExpr.WellFormed root .any
  | var {name : String} : TypeExpr.WellFormed root (.var name)
  | arrow {label : Option Label} {arg res : TypeExpr} :
      TypeExpr.WellFormed root arg → TypeExpr.WellFormed root res →
      TypeExpr.WellFormed root (.arrow label arg res)
  | tuple {types : List TypeExpr} :
      (∀ type ∈ types, TypeExpr.WellFormed root type) → TypeExpr.WellFormed root (.tuple types)
  | constr {r : Reference} {args : List TypeExpr} :
      r.Rooted root → (∀ arg ∈ args, TypeExpr.WellFormed root arg) →
      TypeExpr.WellFormed root (.constr r args)
  | variant {kind : VariantKind} {elements : List VariantElement} :
      (∀ element ∈ elements, VariantElement.WellFormed root element) →
      TypeExpr.WellFormed root (.variant kind elements)
  | object {fields : List ObjectField} {isOpen : Bool} :
      (∀ field ∈ fields, ObjectField.WellFormed root field) →
      TypeExpr.WellFormed root (.object fields isOpen)
  | class {r : Reference} {args : List TypeExpr} :
      r.Rooted root → (∀ arg ∈ args, TypeExpr.WellFormed root arg) →
      TypeExpr.WellFormed root (.class r args)
  | alias {type : TypeExpr} {name : String} :
      TypeExpr.WellFormed root type → TypeExpr.WellFormed root (.alias type name)
  | poly {vars : List String} {body : TypeExpr} :
      vars ≠ [] → TypeExpr.WellFormed root body → TypeExpr.WellFormed root (.poly vars body)
  | package {r : Reference} {substitutions : List PackageSubstitution} :
      r.Rooted root → (∀ s ∈ substitutions, PackageSubstitution.WellFormed root s) →
      TypeExpr.WellFormed root (.package r substitutions)

/-- The types in an element of a polymorphic variant are well formed. -/
inductive VariantElement.WellFormed (root : Identifier) : VariantElement → Prop where
  | constructor {name : String} {constant : Bool} {args : List TypeExpr} {doc : Doc} :
      (∀ arg ∈ args, TypeExpr.WellFormed root arg) →
      VariantElement.WellFormed root (.constructor name constant args doc)
  | type {type : TypeExpr} :
      TypeExpr.WellFormed root type → VariantElement.WellFormed root (.type type)

/-- The type of a field of an object type is well formed. -/
inductive ObjectField.WellFormed (root : Identifier) : ObjectField → Prop where
  | method {name : String} {type : TypeExpr} :
      TypeExpr.WellFormed root type → ObjectField.WellFormed root (.method name type)
  | inherit {type : TypeExpr} :
      TypeExpr.WellFormed root type → ObjectField.WellFormed root (.inherit type)

/-- The fragment of a constraint of a package type is rooted, and its type is well formed. -/
inductive PackageSubstitution.WellFormed (root : Identifier) : PackageSubstitution → Prop where
  | mk {fragment : Fragment} {type : TypeExpr} :
      fragment.Rooted root → TypeExpr.WellFormed root type →
      PackageSubstitution.WellFormed root (.mk fragment type)

end

/-- A quantified type with a well-formed body is well formed, because without variables it is
the body. -/
theorem TypeExpr.WellFormed.quantified {root : Identifier} {body : TypeExpr}
    (h : body.WellFormed root) (vars : List String) :
  (TypeExpr.quantified vars body).WellFormed root
  := by
  unfold TypeExpr.quantified
  split
  · apply h
  · rename_i hvars
    exact .poly (by simpa using hvars) h

/-! ### Declarations -/

/-- Both sides of an equation are well formed. -/
structure TypeConstraint.WellFormed (root : Identifier) (c : TypeConstraint) : Prop where
  left : c.left.WellFormed root
  right : c.right.WellFormed root

/-- The manifest and the constraints of a type are well formed. -/
structure TypeEquation.WellFormed (root : Identifier) (e : TypeEquation) : Prop where
  manifest : ∀ type ∈ e.manifest, type.WellFormed root
  constraints : ∀ c ∈ e.constraints, c.WellFormed root

/-- The identifier of a field is rooted, and its type is well formed. -/
structure Field.WellFormed (root : Identifier) (f : Field) : Prop where
  id : f.id.Rooted root
  type : f.type.WellFormed root

/-- The arguments of a constructor are well formed. -/
inductive ConstructorArgs.WellFormed (root : Identifier) : ConstructorArgs → Prop where
  | tuple {types : List TypeExpr} :
      (∀ type ∈ types, type.WellFormed root) → ConstructorArgs.WellFormed root (.tuple types)
  | record {fields : List Field} :
      (∀ field ∈ fields, field.WellFormed root) →
      ConstructorArgs.WellFormed root (.record fields)

/-- The identifier of a constructor is rooted, and its types are well formed. -/
structure Constructor.WellFormed (root : Identifier) (c : Constructor) : Prop where
  id : c.id.Rooted root
  args : c.args.WellFormed root
  result : ∀ type ∈ c.result, type.WellFormed root

/-- The constructors or fields of a type are well formed. -/
inductive Representation.WellFormed (root : Identifier) : Representation → Prop where
  | variant {constructors : List Constructor} :
      (∀ c ∈ constructors, c.WellFormed root) →
      Representation.WellFormed root (.variant constructors)
  | record {fields : List Field} :
      (∀ field ∈ fields, field.WellFormed root) → Representation.WellFormed root (.record fields)
  | extensible : Representation.WellFormed root .extensible

/-- A type declaration is well formed: besides its parts being so, its canonical path is the
one that the first tag of its documentation about it spells. -/
structure TypeDecl.WellFormed (root : Identifier) (d : TypeDecl) : Prop where
  id : d.id.Rooted root
  canonical : d.canonical = d.doc.canonical.bind Reference.ofDotted
  equation : d.equation.WellFormed root
  representation : ∀ r ∈ d.representation, r.WellFormed root

/-- The extended type is rooted, and the constructors of an extension are well formed. -/
structure Extension.WellFormed (root : Identifier) (e : Extension) : Prop where
  typePath : e.typePath.Rooted root
  constructors : ∀ c ∈ e.constructors, c.WellFormed root

mutual

/-- A class type is well formed when all in it is. -/
inductive ClassTypeExpr.WellFormed (root : Identifier) : ClassTypeExpr → Prop where
  | constr {r : Reference} {args : List TypeExpr} :
      r.Rooted root → (∀ arg ∈ args, arg.WellFormed root) →
      ClassTypeExpr.WellFormed root (.constr r args)
  | signature {self : Option TypeExpr} {items : List ClassItem} :
      (∀ type ∈ self, type.WellFormed root) →
      (∀ item ∈ items, ClassItem.WellFormed root item) →
      ClassTypeExpr.WellFormed root (.signature self items)

/-- An item of a class is well formed when all in it is. -/
inductive ClassItem.WellFormed (root : Identifier) : ClassItem → Prop where
  | method {m : Method} :
      m.id.Rooted root → m.type.WellFormed root → ClassItem.WellFormed root (.method m)
  | instanceVariable {v : InstanceVariable} :
      v.id.Rooted root → v.type.WellFormed root → ClassItem.WellFormed root (.instanceVariable v)
  | constraint {c : TypeConstraint} :
      c.WellFormed root → ClassItem.WellFormed root (.constraint c)
  | inherit {type : ClassTypeExpr} :
      ClassTypeExpr.WellFormed root type → ClassItem.WellFormed root (.inherit type)
  | comment {c : CommentItem} : ClassItem.WellFormed root (.comment c)

end

/-- The arguments and the class type of a class are well formed. -/
inductive ClassDecl.WellFormed (root : Identifier) : ClassDecl → Prop where
  | classType {type : ClassTypeExpr} :
      type.WellFormed root → ClassDecl.WellFormed root (.classType type)
  | arrow {label : Option Label} {arg : TypeExpr} {res : ClassDecl} :
      arg.WellFormed root → ClassDecl.WellFormed root res →
      ClassDecl.WellFormed root (.arrow label arg res)

/-- The identifier of a class is rooted, and its type is well formed. -/
structure Class.WellFormed (root : Identifier) (c : Class) : Prop where
  id : c.id.Rooted root
  type : c.type.WellFormed root

/-- The identifier of a class type declaration is rooted, and its type is well formed. -/
structure ClassType.WellFormed (root : Identifier) (c : ClassType) : Prop where
  id : c.id.Rooted root
  type : c.type.WellFormed root

/-! ### Signatures -/

/-- The fragment and the target of a constraint are rooted, and its types are well formed. -/
inductive Substitution.WellFormed (root : Identifier) : Substitution → Prop where
  | moduleEq {fragment : Fragment} {target : Reference} :
      fragment.Rooted root → target.Rooted root →
      Substitution.WellFormed root (.moduleEq fragment target)
  | typeEq {fragment : Fragment} {equation : TypeEquation} :
      fragment.Rooted root → equation.WellFormed root →
      Substitution.WellFormed root (.typeEq fragment equation)
  | moduleSubst {fragment : Fragment} {target : Reference} :
      fragment.Rooted root → target.Rooted root →
      Substitution.WellFormed root (.moduleSubst fragment target)
  | typeSubst {fragment : Fragment} {substitution : TypeSubstitution} :
      fragment.Rooted root → (∀ r ∈ substitution.head, r.Rooted root) →
      substitution.equation.WellFormed root →
      Substitution.WellFormed root (.typeSubst fragment substitution)

/-- The identifier and the marks of a module: its canonical path is the one that its
documentation spells; it is hidden exactly when it has none and its name contains the marker of
internal names; and it is expanded exactly when its type is a plain signature. -/
structure Module.Marked (config : Config) (root : Identifier) (m : Module) : Prop where
  id : m.id.Rooted root
  canonical : m.canonical = m.doc.canonical.bind Reference.ofDotted
  hidden : m.hidden ↔ m.canonical = none ∧ config.hiddenMarker ≠ "" ∧
    config.hiddenMarker.toList <:+: m.id.name.toList
  expanded : m.expanded ↔ ∃ s, m.type = .moduleType (.signature s)
  expandedItems : m.expandedItems.isSome ↔ ∃ s, m.type = .moduleType (.signature s)

/-- The identifier and the marks of a module type: its canonical path is the one that its
documentation spells, and it is expanded exactly when its type is a plain signature. -/
structure ModuleType.Marked (root : Identifier) (t : ModuleType) : Prop where
  id : t.id.Rooted root
  canonical : t.canonical = t.doc.canonical.bind Reference.ofDotted
  expanded : t.expanded ↔ ∃ s, t.type = some (.signature s)
  expandedItems : t.expandedItems.isSome ↔ ∃ s, t.type = some (.signature s)

mutual

/-- A module type of the given owner is well formed.  The parameter of a functor owns its own
type and is expanded exactly when that is a plain signature; the result has the owner of the
functor. -/
inductive ModuleTypeExpr.WellFormed (config : Config) (root : Identifier) :
    Identifier → ModuleTypeExpr → Prop where
  | path {owner : Identifier} {r : Reference} :
      r.Rooted root → ModuleTypeExpr.WellFormed config root owner (.path r)
  | signature {owner : Identifier} {s : Signature} :
      (∀ item ∈ s.items, Item.WellFormed config root owner item) →
      ModuleTypeExpr.WellFormed config root owner (.signature s)
  | generative {owner : Identifier} {result : ModuleTypeExpr} :
      ModuleTypeExpr.WellFormed config root owner result →
      ModuleTypeExpr.WellFormed config root owner (.functor .unit result)
  | functor {owner id : Identifier} {type result : ModuleTypeExpr} {expanded : Bool} :
      id.Rooted root → ModuleTypeExpr.WellFormed config root id type →
      (expanded ↔ ∃ s, type = .signature s) →
      ModuleTypeExpr.WellFormed config root owner result →
      ModuleTypeExpr.WellFormed config root owner (.functor (.named id type expanded) result)
  | constrained {owner : Identifier} {body : ModuleTypeExpr}
      {substitutions : List Substitution} :
      ModuleTypeExpr.WellFormed config root owner body →
      (∀ s ∈ substitutions, s.WellFormed root) →
      ModuleTypeExpr.WellFormed config root owner (.constrained body substitutions)
  | typeOf {owner : Identifier} {type : ModuleDeclType} :
      ModuleDeclType.WellFormed config root owner type →
      ModuleTypeExpr.WellFormed config root owner (.typeOf type)

/-- The type of a module of the given owner is well formed. -/
inductive ModuleDeclType.WellFormed (config : Config) (root : Identifier) :
    Identifier → ModuleDeclType → Prop where
  | alias {owner : Identifier} {r : Reference} :
      r.Rooted root → ModuleDeclType.WellFormed config root owner (.alias r)
  | moduleType {owner : Identifier} {type : ModuleTypeExpr} :
      ModuleTypeExpr.WellFormed config root owner type →
      ModuleDeclType.WellFormed config root owner (.moduleType type)

/-- An item of a signature of the given owner is well formed.  An include is not resolved, and
its parent is the owner. -/
inductive Item.WellFormed (config : Config) (root : Identifier) :
    Identifier → Item → Prop where
  | module {owner : Identifier} {flag : RecFlag} {m : Module} :
      m.Marked config root → ModuleDeclType.WellFormed config root m.id m.type →
      Item.WellFormed config root owner (.module flag m)
  | moduleType {owner : Identifier} {t : ModuleType} :
      t.Marked root → (∀ type ∈ t.type, ModuleTypeExpr.WellFormed config root t.id type) →
      Item.WellFormed config root owner (.moduleType t)
  | moduleSubstitution {owner : Identifier} {s : ModuleSubstitution} :
      s.id.Rooted root → s.manifest.Rooted root →
      Item.WellFormed config root owner (.moduleSubstitution s)
  | type {owner : Identifier} {flag : RecFlag} {d : TypeDecl} :
      d.WellFormed root → Item.WellFormed config root owner (.type flag d)
  | typeSubstitution {owner : Identifier} {d : TypeDecl} :
      d.WellFormed root → Item.WellFormed config root owner (.typeSubstitution d)
  | extension {owner : Identifier} {e : Extension} :
      e.WellFormed root → Item.WellFormed config root owner (.extension e)
  | exception {owner : Identifier} {c : Constructor} :
      c.WellFormed root → Item.WellFormed config root owner (.exception c)
  | value {owner : Identifier} {v : Value} :
      v.id.Rooted root → v.type.WellFormed root → Item.WellFormed config root owner (.value v)
  | external {owner : Identifier} {e : External} :
      e.id.Rooted root → e.type.WellFormed root → Item.WellFormed config root owner (.external e)
  | class {owner : Identifier} {flag : RecFlag} {c : Class} :
      c.WellFormed root → Item.WellFormed config root owner (.class flag c)
  | classType {owner : Identifier} {flag : RecFlag} {c : ClassType} :
      c.WellFormed root → Item.WellFormed config root owner (.classType flag c)
  | included {owner : Identifier} {i : Include} :
      i.resolved = false → i.parent = owner →
      ModuleTypeExpr.WellFormed config root owner i.type →
      (∀ item ∈ i.content.items, Item.WellFormed config root owner item) →
      Item.WellFormed config root owner (.included i)
  | comment {owner : Identifier} {c : CommentItem} :
      Item.WellFormed config root owner (.comment c)

end

/-- An interface is well formed: it is a unit, and its items are well formed and owned by it. -/
structure Interface.WellFormed (config : Config) (i : Interface) : Prop where
  id : i.id.Rooted i.id
  items : ∀ item ∈ i.items, item.WellFormed config i.id i.id

/-! ### Lists of items -/

/-- Items that are comments are well formed. -/
theorem wellFormed_comments {config : Config} {root owner : Identifier}
    (comments : List CommentItem) :
  ∀ item ∈ comments.map Item.comment, item.WellFormed config root owner
  := by
  intro item hitem
  obtain ⟨c, -, rfl⟩ := List.mem_map.mp hitem
  exact .comment

/-- Lifting a leading comment into the summary adds no items. -/
theorem Signature.mem_of_mem_ofItems {lift : Bool} {items : List Item} {item : Item}
    (h : item ∈ (Signature.ofItems lift items).items) :
  item ∈ items
  := by
  unfold Signature.ofItems at h
  split at h
  · split at h
    · apply List.mem_cons_of_mem _ h
    · apply h
  · apply h

end Model

end InterfaceDocs
