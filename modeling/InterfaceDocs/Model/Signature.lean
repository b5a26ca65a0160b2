import InterfaceDocs.Model.Declaration

/-!
# Signatures of the documentation model

Modules, module types, includes and the signatures made of them, up to the interface of a
compilation unit.  A module, module type or functor argument is marked as expanded when its
type is a plain signature.  `Signature.ofItems` builds a signature and lifts a leading
comment into its summary.
-/

namespace InterfaceDocs.Model

/-- The right-hand side of a type substitution: its parameters, its manifest, and the head of
the manifest if that is an applied constructor. -/
structure TypeSubstitution where
  head : Option Reference
  equation : TypeEquation

/-- A constraint on a module type: an equation, or a substitution that removes the
constrained component. -/
inductive Substitution where
  | moduleEq (fragment : Fragment) (target : Reference)
  | typeEq (fragment : Fragment) (equation : TypeEquation)
  | moduleSubst (fragment : Fragment) (target : Reference)
  | typeSubst (fragment : Fragment) (substitution : TypeSubstitution)

/-- A local name of a module. -/
structure ModuleSubstitution where
  id : Identifier
  doc : Doc
  manifest : Reference

/-- How the content of an include is to be shown. -/
inductive IncludeStatus where
  | default
  | inline
  | opened
  | closed
  deriving DecidableEq

mutual

/-- A module type expression. -/
inductive ModuleTypeExpr where
  | path (r : Reference)
  | signature (s : Signature)
  | functor (param : FunctorParameter) (result : ModuleTypeExpr)
  | constrained (body : ModuleTypeExpr) (substitutions : List Substitution)
  | typeOf (type : ModuleDeclType)

/-- The type of a module: it is an alias of another module, or it has a module type. -/
inductive ModuleDeclType where
  | alias (r : Reference)
  | moduleType (type : ModuleTypeExpr)

/-- The parameter of a functor. -/
inductive FunctorParameter where
  | unit
  | named (id : Identifier) (type : ModuleTypeExpr) (expanded : Bool)

/-- A list of declarations with a summary. -/
structure Signature where
  items : List Item
  doc : Doc

/-- An item of a signature. -/
inductive Item where
  | module (flag : RecFlag) (m : Module)
  | moduleType (t : ModuleType)
  | moduleSubstitution (s : ModuleSubstitution)
  | type (flag : RecFlag) (d : TypeDecl)
  | typeSubstitution (d : TypeDecl)
  | extension (e : Extension)
  | exception (c : Constructor)
  | value (v : Value)
  | external (e : External)
  | class (flag : RecFlag) (c : Class)
  | classType (flag : RecFlag) (c : ClassType)
  | included (i : Include)
  | comment (c : CommentItem)

/-- A module. -/
structure Module where
  id : Identifier
  doc : Doc
  type : ModuleDeclType
  canonical : Option Reference
  hidden : Bool
  expanded : Bool

/-- A module type declaration, abstract if it has no type. -/
structure ModuleType where
  id : Identifier
  doc : Doc
  type : Option ModuleTypeExpr
  canonical : Option Reference
  expanded : Bool

/-- An include: the signature it stands in, the included module type, and its realized
content, which a later pass may merge with the parent. -/
structure Include where
  parent : Identifier
  doc : Doc
  type : ModuleTypeExpr
  status : IncludeStatus
  resolved : Bool
  content : Signature

end

/-- The interface of a compilation unit. -/
structure Interface where
  id : Identifier
  doc : Doc
  items : List Item

/-- The signature with the given items.  A documentation comment in front of them becomes the
summary when `lift` is set; a stop comment never does. -/
def Signature.ofItems (lift : Bool) : List Item → Signature
  | .comment (.docs doc) :: items =>
    if lift then ⟨items, doc⟩ else ⟨.comment (.docs doc) :: items, .absent⟩
  | items => ⟨items, .absent⟩

/-- The items of a module's own signature, if the module is expanded. -/
def Module.expandedItems (m : Module) : Option (List Item) :=
  match m.expanded, m.type with
  | true, .moduleType (.signature s) => some s.items
  | _, _ => none

/-- The items of a module type's own signature, if the module type is expanded. -/
def ModuleType.expandedItems (t : ModuleType) : Option (List Item) :=
  match t.expanded, t.type with
  | true, some (.signature s) => some s.items
  | _, _ => none

namespace Item

/-- The identifier of an item that declares exactly one entity. -/
def id? : Item → Option Identifier
  | .module _ m => some m.id
  | .moduleType t => some t.id
  | .moduleSubstitution s => some s.id
  | .type _ d => some d.id
  | .typeSubstitution d => some d.id
  | .exception c => some c.id
  | .value v => some v.id
  | .external e => some e.id
  | .class _ c => some c.id
  | .classType _ c => some c.id
  | .extension _ => none
  | .included _ => none
  | .comment _ => none

/-- The documentation of an item. -/
def doc? : Item → Option Doc
  | .module _ m => some m.doc
  | .moduleType t => some t.doc
  | .moduleSubstitution s => some s.doc
  | .type _ d => some d.doc
  | .typeSubstitution d => some d.doc
  | .extension e => some e.doc
  | .exception c => some c.doc
  | .value v => some v.doc
  | .external e => some e.doc
  | .class _ c => some c.doc
  | .classType _ c => some c.doc
  | .included i => some i.doc
  | .comment (.docs d) => some d
  | .comment .stop => none

end Item

end InterfaceDocs.Model
