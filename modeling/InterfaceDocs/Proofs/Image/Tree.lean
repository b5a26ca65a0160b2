import InterfaceDocs.Config
import InterfaceDocs.Load.CompiledType
import InterfaceDocs.Written.Signature
import Mathlib.Data.List.Forall2

/-!
# Compiled images

The compiled image of a written signature has a node for each of its nodes.  An optional
argument gets an option type, a group of types becomes a sequence of types with a status, an
extension becomes the sequence of its constructors, and a closed polymorphic variant marks its
tags as present or as possibly present.  What a written node does not say is arbitrary in its
image: the numbers of variables, the arities of primitives and the locations.

The relations say at the same time which written signatures have an image.  Left out are the
nodes of which compiled signatures keep no trace or of which they keep the result only:
anonymous and class types, inherited fields and tags, constraints of types, rebound
constructors, constrained module types, operands of `module type of`, includes, opened modules,
substitutions, classes, groups of recursive modules, and standalone comments.
-/

namespace InterfaceDocs.Written

/-! ### Types -/

mutual

/-- The compiled type is an image of the written type. -/
inductive TypeCompiles : CoreType → Compiled.TypeExpr → Prop
  | var {info name id} : TypeCompiles (.var info name) (.var (some name) id)
  | univar {info name id} : TypeCompiles (.var info name) (.univar (some name) id)
  | arrow {info label arg arg' res res'} : (∀ name, label ≠ .optional name) →
      TypeCompiles arg arg' → TypeCompiles res res' →
      TypeCompiles (.arrow info label arg res) (.arrow label arg' res')
  | optionalArrow {info name arg arg' res res' p} : Compiled.isOptionPath p →
      TypeCompiles arg arg' → TypeCompiles res res' →
      TypeCompiles (.arrow info (.optional name) arg res)
        (.arrow (.optional name) (.constr p [arg']) res')
  | tuple {info types types'} : TypesCompile types types' →
      TypeCompiles (.tuple info types) (.tuple types')
  | constr {info p args args'} : TypesCompile args args' →
      TypeCompiles (.constr info p args) (.constr p args')
  | object {info fields closure methods} : MethodsCompile fields methods →
      TypeCompiles (.object info fields closure) (.object methods closure.isOpen)
  | alias {info type type' name} : TypeCompiles type type' →
      TypeCompiles (.alias info type name) (.alias type' name)
  | openVariant {info fields present tags entries} : RowCompiles fields tags entries →
      TypeCompiles (.variant info fields .opened present) (.variant entries false none)
  | fixedVariant {info fields tags entries} : RowCompiles fields tags entries →
      tags.length = fields.length →
      TypeCompiles (.variant info fields .closed none) (.variant entries true none)
  | closedVariant {info fields tags entries} : RowCompiles fields tags entries →
      tags.length < fields.length →
      TypeCompiles (.variant info fields .closed (some tags)) (.variant entries true none)
  | poly {info vars vars' body body'} :
      List.Forall₂ (fun name v => ∃ id, v = .var (some name) id ∨ v = .univar (some name) id)
        vars vars' →
      TypeCompiles body body' → TypeCompiles (.poly info vars body) (.poly body' vars')
  | package {info p fields loc names types} : PackageCompiles fields names types →
      TypeCompiles (.package info p fields loc) (.package p names types)

/-- The compiled types are images of the written types. -/
inductive TypesCompile : List CoreType → List Compiled.TypeExpr → Prop
  | nil : TypesCompile [] []
  | cons {type type' types types'} : TypeCompiles type type' → TypesCompile types types' →
      TypesCompile (type :: types) (type' :: types')

/-- The compiled methods are images of the fields of an object type. -/
inductive MethodsCompile : List ObjectField → List Compiled.ObjectMethod → Prop
  | nil : MethodsCompile [] []
  | cons {name attributes type type' fields methods} : TypeCompiles type type' →
      MethodsCompile fields methods →
      MethodsCompile (.method name attributes type :: fields) (.mk name.txt type' :: methods)

/-- The compiled tags are images of the fields of a polymorphic variant, and the listed ones of
them are present. -/
inductive RowCompiles : List RowField → List String → List Compiled.RowEntry → Prop
  | nil : RowCompiles [] [] []
  | constant {name fields tags entries} : RowCompiles fields tags entries →
      RowCompiles (.tag name [] true [] :: fields) (name.txt :: tags)
        (.mk name.txt (.present none) :: entries)
  | applied {name type type' fields tags entries} : TypeCompiles type type' →
      RowCompiles fields tags entries →
      RowCompiles (.tag name [] false [type] :: fields) (name.txt :: tags)
        (.mk name.txt (.present (some type')) :: entries)
  | possibleConstant {name fields tags entries} : RowCompiles fields tags entries →
      RowCompiles (.tag name [] true [] :: fields) tags
        (.mk name.txt (.either true []) :: entries)
  | possibleApplied {name type type' fields tags entries} : TypeCompiles type type' →
      RowCompiles fields tags entries →
      RowCompiles (.tag name [] false [type] :: fields) tags
        (.mk name.txt (.either false [type']) :: entries)

/-- The names and the compiled types are images of the constraints of a package type. -/
inductive PackageCompiles : List PackageField → List LongIdent → List Compiled.TypeExpr → Prop
  | nil : PackageCompiles [] [] []
  | cons {name type type' fields names types} : TypeCompiles type type' →
      PackageCompiles fields names types →
      PackageCompiles (.mk name type :: fields) (name.txt :: names) (type' :: types)

end

/-! ### Declarations -/

/-- The kind of a compiled value for the names of primitives. -/
inductive PrimitivesCompile : List String → Compiled.ValueKind → Prop
  | regular : PrimitivesCompile [] .regular
  | single {name arity} : PrimitivesCompile [name] (.primitive ⟨name, arity, ""⟩)
  | native {name arity nativeName} : nativeName ≠ "" →
      PrimitivesCompile [name, nativeName] (.primitive ⟨name, arity, nativeName⟩)

/-- The compiled value is an image of the written value. -/
structure ValueCompiles (d : ValueDescription) (d' : Compiled.ValueDescription) : Prop where
  type : TypeCompiles d.type d'.type
  kind : PrimitivesCompile d.primitives d'.kind
  attributes : d'.attributes = d.attributes

/-- The compiled label is an image of the written label. -/
structure LabelCompiles (d : LabelDeclaration) (d' : Compiled.LabelDeclaration) : Prop where
  ident : d'.ident = d.ident
  mutability : d'.mutability = d.mutability
  type : TypeCompiles d.type d'.type
  attributes : d'.attributes = d.attributes

/-- The compiled arguments are images of the arguments of a constructor. -/
inductive ArgumentsCompile : ConstructorArguments → Compiled.ConstructorArguments → Prop
  | tuple {types types'} : TypesCompile types types' →
      ArgumentsCompile (.tuple types) (.tuple types')
  | record {labels labels'} : List.Forall₂ LabelCompiles labels labels' →
      ArgumentsCompile (.record labels) (.record labels')

/-- The compiled constructor is an image of the written constructor. -/
structure ConstructorCompiles (d : ConstructorDeclaration)
    (d' : Compiled.ConstructorDeclaration) : Prop where
  ident : d'.ident = d.ident
  args : ArgumentsCompile d.args d'.args
  result : Option.Rel TypeCompiles d.result d'.result
  attributes : d'.attributes = d.attributes

/-- The compiled representation is an image of the written representation. -/
inductive KindCompiles : TypeKind → Compiled.TypeKind → Prop
  | abstract : KindCompiles .abstract .abstract
  | variant {constructors constructors'} :
      List.Forall₂ ConstructorCompiles constructors constructors' →
      KindCompiles (.variant constructors) (.variant constructors')
  | record {labels labels'} : List.Forall₂ LabelCompiles labels labels' →
      KindCompiles (.record labels) (.record labels')
  | extensible : KindCompiles .extensible .extensible

/-- The compiled variable is an image of the type parameter, whose marks are those of the
computed variance. -/
inductive ParamCompiles : TypeParam → Compiled.TypeExpr → Variance → Prop
  | mk {info name id v} :
      ParamCompiles ⟨.var info name, v.mark, v.injectivity⟩ (.var (some name) id) v

/-- The compiled variables are images of the type parameters, with a variance for each. -/
inductive ParamsCompile : List TypeParam → List Compiled.TypeExpr → List Variance → Prop
  | nil : ParamsCompile [] [] []
  | cons {p type v ps types vs} : ParamCompiles p type v → ParamsCompile ps types vs →
      ParamsCompile (p :: ps) (type :: types) (v :: vs)

/-- The compiled type declaration is an image of the written one. -/
structure TypeDeclarationCompiles (d : TypeDeclaration) (d' : Compiled.TypeDeclaration) :
    Prop where
  params : ParamsCompile d.params d'.params d'.variance
  constraints : d.constraints = []
  kind : KindCompiles d.kind d'.kind
  privacy : d'.privacy = d.privacy
  manifest : Option.Rel TypeCompiles d.manifest d'.manifest
  attributes : d'.attributes = d.attributes

/-- The compiled constructor is an image of the written extension constructor or exception. -/
inductive ExtensionConstructorCompiles :
    ExtensionConstructor → Compiled.ExtensionConstructor → Prop
  | mk {x args result loc attributes} {d' : Compiled.ExtensionConstructor} :
      ArgumentsCompile args d'.args → Option.Rel TypeCompiles result d'.result →
      d'.attributes = attributes →
      ExtensionConstructorCompiles ⟨x, .declared args result, loc, attributes⟩ d'

/-- The compiled constructor says of its type what the extension says. -/
structure HeadCompiles (d : TypeExtension) (d' : Compiled.ExtensionConstructor) : Prop where
  typePath : d'.typePath = d.path
  params : List.Forall₂ (fun p type => ParamCompiles p type .null) d.params d'.typeParams
  privacy : d'.privacy = d.privacy

/-- The compiled items are images of the constructors of the extension, of which the first one
has the given status and the others continue the extension. -/
inductive ExtensionCompiles (d : TypeExtension) :
    Compiled.ExtStatus → List ExtensionConstructor → List Compiled.SignatureItem → Prop
  | nil {status} : ExtensionCompiles d status [] []
  | cons {status c c' cs items} : ExtensionConstructorCompiles c c' → HeadCompiles d c' →
      ExtensionCompiles d .next cs items →
      ExtensionCompiles d status (c :: cs) (.extension c.ident c' status :: items)

/-! ### Signatures -/

/-- None of the attributes holds a standalone comment. -/
def NoText (config : Config) (attributes : List Attribute) : Prop :=
  ∀ a ∈ attributes, config.isTextAttribute a.name.txt = false

/-- The status of the first type of a group. -/
def firstStatus : RecFlag → Compiled.RecStatus
  | .recursive => .first
  | .nonrecursive => .alone

/-- The compiled items are images of the types of a group, of which the first one has the given
status. -/
inductive TypeGroupCompiles (config : Config) :
    Compiled.RecStatus → List TypeDeclaration → List Compiled.SignatureItem → Prop
  | nil {status} : TypeGroupCompiles config status [] []
  | cons {status d d' ds items} : NoText config d.attributes → TypeDeclarationCompiles d d' →
      TypeGroupCompiles config .next ds items →
      TypeGroupCompiles config status (d :: ds) (.type d.ident d' status :: items)

mutual

/-- The compiled module type is an image of the written module type. -/
inductive ModuleTypeCompiles (config : Config) : ModuleType → Compiled.ModuleType → Prop
  | path {info p} : ModuleTypeCompiles config (.path info p) (.path p)
  | signature {info items items'} : ItemsCompile config items items' →
      ModuleTypeCompiles config (.signature info items) (.signature items')
  | generative {info x result result'} : ModuleTypeCompiles config result result' →
      ModuleTypeCompiles config (.functor info .unit result) (.functor x none result')
  | functor {info x arg arg' result result'} : ModuleTypeCompiles config arg arg' →
      ModuleTypeCompiles config result result' →
      ModuleTypeCompiles config (.functor info (.named x arg) result)
        (.functor x (some arg') result')
  | alias {info p} : ModuleTypeCompiles config (.alias info p) (.alias p)

/-- The compiled items are images of the items of a signature. -/
inductive ItemsCompile (config : Config) :
    List SignatureItem → List Compiled.SignatureItem → Prop
  | nil : ItemsCompile config [] []
  | cons {item items first rest} : ItemCompiles config item first →
      ItemsCompile config items rest → ItemsCompile config (item :: items) (first ++ rest)

/-- The compiled items are images of an item of a signature. -/
inductive ItemCompiles (config : Config) : SignatureItem → List Compiled.SignatureItem → Prop
  | value {loc d d'} : NoText config d.attributes → ValueCompiles d d' →
      ItemCompiles config (.value loc d) [.value d.ident d']
  | type {loc flag ds items} : TypeGroupCompiles config (firstStatus flag) ds items →
      ItemCompiles config (.type loc flag ds) items
  | extension {loc d items} : d.attributes = [] → d.constructors ≠ [] →
      ExtensionCompiles d .first d.constructors items →
      ItemCompiles config (.extension loc d) items
  | exception {loc d d'} : NoText config d.attributes → ExtensionConstructorCompiles d d' →
      ItemCompiles config (.exception loc d) [.extension d.ident d' .exception]
  | module {loc x type type' attributes loc₁ loc₂ status} : NoText config attributes →
      ModuleTypeCompiles config type type' → status ≠ .next →
      ItemCompiles config (.module loc ⟨x, type, attributes, loc₁⟩)
        [.module x ⟨type', attributes, loc₂⟩ status]
  | moduleType {loc x type type' attributes loc₁ loc₂} : NoText config attributes →
      ModuleTypeCompiles config type type' →
      ItemCompiles config (.moduleType loc ⟨x, some type, attributes, loc₁⟩)
        [.moduleType x ⟨some type', attributes, loc₂⟩]
  | abstractModuleType {loc x attributes loc₁ loc₂} : NoText config attributes →
      ItemCompiles config (.moduleType loc ⟨x, none, attributes, loc₁⟩)
        [.moduleType x ⟨none, attributes, loc₂⟩]

end

end InterfaceDocs.Written
