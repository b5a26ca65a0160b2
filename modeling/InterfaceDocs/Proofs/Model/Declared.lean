import InterfaceDocs.Model.Signature

/-!
# Declared identifiers

The identifiers of the declarations in a documentation model: `Item.declared` collects those
of an item and of everything nested in it, through inline signatures, the parameters and
results of functors, constrained module types, computed module types and the contents of
includes.  The written operand of an include is looked into when `operands` is set.
-/

namespace InterfaceDocs.Model

/-- The identifiers that the arguments of a constructor declare. -/
def ConstructorArgs.declared : ConstructorArgs → List Identifier
  | .tuple _ => []
  | .record fields => fields.map Field.id

/-- The identifiers that a constructor declares: its own and those of its fields. -/
def Constructor.declared (c : Constructor) : List Identifier :=
  c.id :: c.args.declared

/-- The identifiers that the representation of a type declares. -/
def Representation.declared : Representation → List Identifier
  | .variant constructors => constructors.flatMap Constructor.declared
  | .record fields => fields.map Field.id
  | .extensible => []

/-- The identifiers that a type declares. -/
def TypeDecl.declared (d : TypeDecl) : List Identifier :=
  d.id :: d.representation.toList.flatMap Representation.declared

/-- The identifiers that an extension declares. -/
def Extension.declared (e : Extension) : List Identifier :=
  e.constructors.flatMap Constructor.declared

mutual

/-- The identifiers that a class type declares. -/
def ClassTypeExpr.declared : ClassTypeExpr → List Identifier
  | .constr _ _ => []
  | .signature _ items => declaredClassItems items

/-- The identifiers that the items of a class declare. -/
def declaredClassItems : List ClassItem → List Identifier
  | [] => []
  | .method m :: items => m.id :: declaredClassItems items
  | .instanceVariable v :: items => v.id :: declaredClassItems items
  | .constraint _ :: items => declaredClassItems items
  | .inherit type :: items => type.declared ++ declaredClassItems items
  | .comment _ :: items => declaredClassItems items

end

/-- The identifiers that the type of a class declares. -/
def ClassDecl.declared : ClassDecl → List Identifier
  | .classType type => type.declared
  | .arrow _ _ res => res.declared

/-- The identifiers that a class declares. -/
def Class.declared (c : Class) : List Identifier :=
  c.id :: c.type.declared

/-- The identifiers that a class type declaration declares. -/
def ClassType.declared (c : ClassType) : List Identifier :=
  c.id :: c.type.declared

mutual

/-- The identifiers that a module type declares. -/
def ModuleTypeExpr.declared (operands : Bool) : ModuleTypeExpr → List Identifier
  | .path _ => []
  | .signature ⟨items, _⟩ => declaredItems operands items
  | .functor .unit result => result.declared operands
  | .functor (.named id type _) result =>
    id :: (type.declared operands ++ result.declared operands)
  | .constrained body _ => body.declared operands
  | .typeOf type => type.declared operands

/-- The identifiers that the type of a module declares. -/
def ModuleDeclType.declared (operands : Bool) : ModuleDeclType → List Identifier
  | .alias _ => []
  | .moduleType type => type.declared operands

/-- The identifiers that the items of a signature declare. -/
def declaredItems (operands : Bool) : List Item → List Identifier
  | [] => []
  | item :: items => item.declared operands ++ declaredItems operands items

/-- The identifiers that an item of a signature declares. -/
def Item.declared (operands : Bool) : Item → List Identifier
  | .module _ ⟨id, _, type, _, _, _⟩ => id :: type.declared operands
  | .moduleType ⟨id, _, none, _, _⟩ => [id]
  | .moduleType ⟨id, _, some type, _, _⟩ => id :: type.declared operands
  | .moduleSubstitution s => [s.id]
  | .type _ d => d.declared
  | .typeSubstitution d => d.declared
  | .extension e => e.declared
  | .exception c => c.declared
  | .value v => [v.id]
  | .external e => [e.id]
  | .class _ c => c.declared
  | .classType _ c => c.declared
  | .included ⟨_, _, type, _, _, ⟨items, _⟩⟩ =>
    (if operands then type.declared operands else []) ++ declaredItems operands items
  | .comment _ => []

end

/-- The identifiers that the items of an interface declare. -/
def Interface.declared (operands : Bool) (i : Interface) : List Identifier :=
  declaredItems operands i.items

/-- What the items of a class declare is listed item by item. -/
theorem declaredClassItems_append (items others : List ClassItem) :
  declaredClassItems (items ++ others) = declaredClassItems items ++ declaredClassItems others
  := by
  induction items with
  | nil => rfl
  | cons item items ih => cases item <;> simp [declaredClassItems, ih]

@[simp]
theorem declaredClassItems_comments (comments : List CommentItem) :
  declaredClassItems (comments.map .comment) = []
  := by
  induction comments with
  | nil => rfl
  | cons c comments ih => simp [declaredClassItems, ih]

/-- What items declare is listed item by item. -/
theorem declaredItems_append (operands : Bool) (items others : List Item) :
  declaredItems operands (items ++ others)
    = declaredItems operands items ++ declaredItems operands others
  := by
  induction items with
  | nil => rfl
  | cons item items ih => simp [declaredItems, ih]

/-- Comments declare nothing. -/
@[simp]
theorem declaredItems_comments (operands : Bool) (comments : List CommentItem) :
  declaredItems operands (comments.map .comment) = []
  := by
  induction comments with
  | nil => rfl
  | cons c comments ih => simp [declaredItems, Item.declared, ih]

@[simp]
theorem declared_signature (operands : Bool) (s : Signature) :
  (ModuleTypeExpr.signature s).declared operands = declaredItems operands s.items
  := by
  cases s
  rfl

/-- An include declares what its content declares, and what its operand does if operands count. -/
@[simp]
theorem declared_included (operands : Bool) (parent : Identifier) (doc : Doc)
    (type : ModuleTypeExpr) (status : IncludeStatus) (resolved : Bool) (content : Signature) :
  (Item.included ⟨parent, doc, type, status, resolved, content⟩).declared operands
    = (if operands then type.declared operands else []) ++ declaredItems operands content.items
  := by
  cases content
  rfl

/-- Lifting a leading comment into the summary keeps the declarations. -/
@[simp]
theorem declaredItems_ofItems (operands lift : Bool) (items : List Item) :
  declaredItems operands (Signature.ofItems lift items).items = declaredItems operands items
  := by
  unfold Signature.ofItems
  split
  · split
    · simp [declaredItems, Item.declared]
    · rfl
  · rfl

end InterfaceDocs.Model
