import InterfaceDocs.Load.WrittenSignature

/-!
# Rewriting the types of a signature

A rewriting replaces the types in a written signature by types that are documented alike.  The
readers look at a type in four ways, and a rewriting has a function for each of them: most types
are only documented, a type parameter has to be a variable, the self type of a class is left out
if it is anonymous, and the manifest of a substitution of a type has a head.
-/

namespace InterfaceDocs.Written

/-- Replacements of types that are documented alike. -/
structure TypeRewriting where
  /-- The replacement of a type that is only documented. -/
  type : CoreType → CoreType
  /-- The replacement of a type parameter. -/
  param : CoreType → CoreType
  /-- The replacement of the self type of a class. -/
  self : CoreType → CoreType
  /-- The replacement of the manifest of a type in a substitution constraint. -/
  manifest : CoreType → CoreType
  document_type : ∀ config scope t, (type t).document config scope = t.document config scope
  document_param : ∀ (owner : String) (p : TypeParam),
    TypeParam.document owner { p with type := param p.type } = p.document owner
  document_self : ∀ config scope t,
    documentSelf config scope (self t) = documentSelf config scope t
  document_manifest : ∀ config scope t,
    (manifest t).document config scope = t.document config scope
  documentHead_manifest : ∀ scope t, documentHead scope (manifest t) = documentHead scope t

variable (r : TypeRewriting)

/-! ### Declarations -/

/-- The value with its type rewritten. -/
def ValueDescription.rewrite (d : ValueDescription) : ValueDescription :=
  { d with type := r.type d.type }

/-- The type parameter, rewritten. -/
def TypeParam.rewrite (p : TypeParam) : TypeParam :=
  { p with type := r.param p.type }

/-- The clause with its types rewritten. -/
def TypeConstraint.rewrite (c : TypeConstraint) : TypeConstraint :=
  { c with left := r.type c.left, right := r.type c.right }

/-- The label with its type rewritten. -/
def LabelDeclaration.rewrite (d : LabelDeclaration) : LabelDeclaration :=
  { d with type := r.type d.type }

/-- The arguments of a constructor with their types rewritten. -/
def ConstructorArguments.rewrite : ConstructorArguments → ConstructorArguments
  | .tuple types => .tuple (types.map r.type)
  | .record labels => .record (labels.map (LabelDeclaration.rewrite r))

/-- The constructor with its types rewritten. -/
def ConstructorDeclaration.rewrite (d : ConstructorDeclaration) : ConstructorDeclaration :=
  { d with args := d.args.rewrite r, result := d.result.map r.type }

/-- The representation of a type with its types rewritten. -/
def TypeKind.rewrite : TypeKind → TypeKind
  | .abstract => .abstract
  | .variant constructors => .variant (constructors.map (ConstructorDeclaration.rewrite r))
  | .record labels => .record (labels.map (LabelDeclaration.rewrite r))
  | .extensible => .extensible

/-- The type declaration with its types rewritten, where the manifest is replaced by the given
function. -/
def TypeDeclaration.rewriteWith (manifest : CoreType → CoreType) (d : TypeDeclaration) :
    TypeDeclaration :=
  { d with
    params := d.params.map (TypeParam.rewrite r)
    constraints := d.constraints.map (TypeConstraint.rewrite r)
    kind := d.kind.rewrite r
    manifest := d.manifest.map manifest }

/-- The type declaration with its types rewritten. -/
def TypeDeclaration.rewrite : TypeDeclaration → TypeDeclaration :=
  TypeDeclaration.rewriteWith r r.type

/-- The kind of an extension constructor with its types rewritten. -/
def ExtensionKind.rewrite : ExtensionKind → ExtensionKind
  | .declared args result => .declared (args.rewrite r) (result.map r.type)
  | .rebound path => .rebound path

/-- The extension constructor with its types rewritten. -/
def ExtensionConstructor.rewrite (d : ExtensionConstructor) : ExtensionConstructor :=
  { d with kind := d.kind.rewrite r }

/-- The extension with its types rewritten. -/
def TypeExtension.rewrite (d : TypeExtension) : TypeExtension :=
  { d with
    params := d.params.map (TypeParam.rewrite r)
    constructors := d.constructors.map (ExtensionConstructor.rewrite r) }

mutual

/-- The class type with its types rewritten. -/
def ClassType.rewrite : ClassType → ClassType
  | .constr info p args => .constr info p (args.map r.type)
  | .signature info self fields => .signature info (r.self self) (rewriteFields fields)
  | .arrow info label arg res => .arrow info label (r.type arg) res.rewrite

/-- The fields of a class with their types rewritten. -/
def rewriteFields : List ClassField → List ClassField
  | [] => []
  | .inherit info type :: fields => .inherit info type.rewrite :: rewriteFields fields
  | .instanceVariable info name mutability virtuality type :: fields =>
    .instanceVariable info name mutability virtuality (r.type type) :: rewriteFields fields
  | .method info name privacy virtuality type :: fields =>
    .method info name privacy virtuality (r.type type) :: rewriteFields fields
  | .constraint info left right :: fields =>
    .constraint info (r.type left) (r.type right) :: rewriteFields fields
  | .floating info a :: fields => .floating info a :: rewriteFields fields

end

/-- The class with its types rewritten. -/
def ClassDeclaration.rewrite (d : ClassDeclaration) : ClassDeclaration :=
  { d with params := d.params.map (TypeParam.rewrite r), type := d.type.rewrite r }

/-! ### Signatures -/

/-- The constraint with its types rewritten. -/
def WithConstraint.rewrite : WithConstraint → WithConstraint
  | .typeEq d => .typeEq (d.rewrite r)
  | .moduleEq p => .moduleEq p
  | .typeSubst d => .typeSubst (d.rewriteWith r r.manifest)
  | .moduleSubst p => .moduleSubst p

/-- The clause of a constraint with its types rewritten. -/
def WithClause.rewrite (c : WithClause) : WithClause :=
  { c with constraint := c.constraint.rewrite r }

mutual

/-- The module type with its types rewritten. -/
def ModuleType.rewrite : ModuleType → ModuleType
  | .path info p => .path info p
  | .signature info items => .signature info (rewriteItems items)
  | .functor info .unit result => .functor info .unit result.rewrite
  | .functor info (.named x arg) result => .functor info (.named x arg.rewrite) result.rewrite
  | .constrained info body clauses =>
    .constrained info body.rewrite (clauses.map (WithClause.rewrite r))
  | .typeOf info expr => .typeOf info expr
  | .alias info p => .alias info p

/-- The items with their types rewritten. -/
def rewriteItems : List SignatureItem → List SignatureItem
  | [] => []
  | item :: items => item.rewrite :: rewriteItems items

/-- The item with its types rewritten; the realized content of an include stays as it is. -/
def SignatureItem.rewrite : SignatureItem → SignatureItem
  | .value loc d => .value loc (d.rewrite r)
  | .type loc flag ds => .type loc flag (ds.map (TypeDeclaration.rewrite r))
  | .typeSubst loc ds => .typeSubst loc (ds.map (TypeDeclaration.rewrite r))
  | .extension loc d => .extension loc (d.rewrite r)
  | .exception loc d => .exception loc (d.rewrite r)
  | .module loc d => .module loc d.rewrite
  | .moduleSubst loc d => .moduleSubst loc d
  | .recModule loc ds => .recModule loc (rewriteModules ds)
  | .moduleType loc ⟨x, some type, attributes, loc'⟩ =>
    .moduleType loc ⟨x, some type.rewrite, attributes, loc'⟩
  | .moduleType loc ⟨x, none, attributes, loc'⟩ => .moduleType loc ⟨x, none, attributes, loc'⟩
  | .opened loc d => .opened loc d
  | .included loc ⟨type, content, loc', attributes⟩ =>
    .included loc ⟨type.rewrite, content, loc', attributes⟩
  | .class loc ds => .class loc (ds.map (ClassDeclaration.rewrite r))
  | .classType loc ds => .classType loc (ds.map (ClassDeclaration.rewrite r))
  | .floating loc a => .floating loc a

/-- The modules with their types rewritten. -/
def rewriteModules : List ModuleDeclaration → List ModuleDeclaration
  | [] => []
  | d :: ds => d.rewrite :: rewriteModules ds

/-- The module with its types rewritten. -/
def ModuleDeclaration.rewrite : ModuleDeclaration → ModuleDeclaration
  | ⟨x, type, attributes, loc⟩ => ⟨x, type.rewrite, attributes, loc⟩

end

/-- The signature with its types rewritten. -/
def Signature.rewrite (signature : Signature) : Signature :=
  rewriteItems r signature

theorem ModuleType.alias?_rewrite (type : ModuleType) :
  (type.rewrite r).alias? = type.alias?
  := by
  rcases type with _ | _ | ⟨_, _ | _, _⟩ | _ | _ | _ <;> rfl

theorem ModuleType.isSignature_rewrite (type : ModuleType) :
  (type.rewrite r).isSignature = type.isSignature
  := by
  rcases type with _ | _ | ⟨_, _ | _, _⟩ | _ | _ | _ <;> rfl

theorem length_rewriteItems (items : List SignatureItem) :
  (rewriteItems r items).length = items.length
  := by
  induction items with
  | nil => rfl
  | cons item items ih => rw [rewriteItems, List.length_cons, List.length_cons, ih]

end InterfaceDocs.Written
