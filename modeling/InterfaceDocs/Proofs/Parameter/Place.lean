import InterfaceDocs.Proofs.Component.Scope
import InterfaceDocs.Proofs.Grouping
import InterfaceDocs.Proofs.Parameter.Source
import Mathlib.Logic.Relation

/-!
# Places inside a module type

Documenting a module type documents the module types and the items inside it, each in a scope of
its own.  A place is such a part with its scope and the identifier that it belongs to, and a step
leads to a part right inside (`Place.Step`).  What is documented at a place is part of what is
documented around it (`Place.Inside.documents`), and as long as an identifier is not bound on the
way, it denotes the same everywhere inside (`Place.Inside.find?_eq`).
-/

namespace InterfaceDocs

/-! ### Parts -/

/-- The module type of a module, with the identifier that it belongs to; an alias has none. -/
def Written.ModuleDeclaration.inner (owner : Identifier) (d : Written.ModuleDeclaration) :
    List (Identifier × Source) :=
  match d.type.alias? with
  | some _ => []
  | none => [(owner.child .module d.ident.name, .written d.type)]

/-- The module types in an item, with the identifiers that they belong to; the content of an
include is a signature. -/
def Written.SignatureItem.inner (owner : Identifier) :
    Written.SignatureItem → List (Identifier × Source)
  | .module _ d => d.inner owner
  | .recModule _ ds => ds.flatMap (Written.ModuleDeclaration.inner owner)
  | .moduleType _ ⟨x, some body, _, _⟩ => [(owner.child .moduleType x.name, .written body)]
  | .included _ d => [(owner, .written d.type), (owner, .compiled (.signature d.content))]
  | _ => []

/-- The module types in an item, with the identifiers that they belong to. -/
def Compiled.SignatureItem.inner (owner : Identifier) :
    Compiled.SignatureItem → List (Identifier × Source)
  | .module x ⟨body, _, _⟩ _ =>
    match body.alias? with
    | some _ => []
    | none => [(owner.child .module x.name, .compiled body)]
  | .moduleType x ⟨some body, _, _⟩ => [(owner.child .moduleType x.name, .compiled body)]
  | _ => []

/-- What is documented by itself: a module type, or the items of a signature. -/
inductive Part where
  | type (source : Source)
  | writtenItems (items : List Written.SignatureItem)
  | compiledItems (items : List Compiled.SignatureItem)

namespace Part

/-- The module types in the items of a signature. -/
def inner (owner : Identifier) : Part → List (Identifier × Source)
  | .type _ => []
  | .writtenItems items => items.flatMap (Written.SignatureItem.inner owner)
  | .compiledItems items => items.flatMap (Compiled.SignatureItem.inner owner)

/-- The components that the items of a signature declare. -/
def components : Part → List Component
  | .type _ => []
  | .writtenItems items => items.flatMap Written.SignatureItem.components
  | .compiledItems items => items.flatMap Compiled.SignatureItem.components

/-- The scope in which the items of a signature are documented. -/
def bound (scope : Scope) (owner : Identifier) : Part → Scope
  | .type _ => scope
  | .writtenItems items => (scope.bindWritten owner items).scope
  | .compiledItems items => (scope.bindCompiled owner items).scope

end Part

namespace Source

/-- The items of a plain signature. -/
def items? : Source → Option Part
  | .written (.signature _ items) => some (.writtenItems items)
  | .compiled (.signature items) => some (.compiledItems items)
  | _ => none

/-- The module type that constraints are on, or the computed type of an operand of
`module type of`. -/
def body? : Source → Option Source
  | .written (.constrained _ body _) => some (.written body)
  | .written (.typeOf _ (.path _ _)) => none
  | .written (.typeOf _ expr) => some (.compiled expr.info.type)
  | _ => none

end Source

/-! ### Places -/

/-- A part with the scope that it is documented in and the identifier that it belongs to. -/
structure Place where
  scope : Scope
  owner : Identifier
  part : Part

namespace Place

/-- The second place is right inside the first one, and the identifier is not bound between
them. -/
inductive Step (x : Ident) : Place → Place → Prop where
  | parameter {scope : Scope} {owner : Identifier} {source type rest : Source} {y : Ident}
      (h : source.functor? = some (some (y, type), rest)) :
    Step x ⟨scope, owner, .type source⟩ ⟨scope, scope.functorArgument owner y.name, .type type⟩
  | result {scope : Scope} {owner : Identifier} {source type rest : Source} {y : Ident}
      (h : source.functor? = some (some (y, type), rest)) (hy : y.stamp ≠ x.stamp) :
    Step x ⟨scope, owner, .type source⟩ ⟨Source.scopeOfResult scope owner y type, owner, .type rest⟩
  | unit {scope : Scope} {owner : Identifier} {source rest : Source}
      (h : source.functor? = some (none, rest)) :
    Step x ⟨scope, owner, .type source⟩ ⟨scope, owner, .type rest⟩
  | body {scope : Scope} {owner : Identifier} {source body : Source}
      (h : source.body? = some body) :
    Step x ⟨scope, owner, .type source⟩ ⟨scope, owner, .type body⟩
  | items {scope : Scope} {owner : Identifier} {source : Source} {part : Part}
      (h : source.items? = some part)
      (hx : ∀ c ∈ part.components, ∀ y ∈ c.idents, y.stamp ≠ x.stamp) :
    Step x ⟨scope, owner, .type source⟩ ⟨part.bound scope owner, owner, part⟩
  | inner {scope : Scope} {owner id : Identifier} {part : Part} {source : Source}
      (h : (id, source) ∈ part.inner owner) :
    Step x ⟨scope, owner, part⟩ ⟨scope, id, .type source⟩

/-- The second place is somewhere inside the first one, and the identifier is not bound between
them. -/
def Inside (x : Ident) : Place → Place → Prop :=
  Relation.ReflTransGen (Step x)

variable {x : Ident} {place place' : Place}

theorem adds_addFunctorParameter (scope : Scope) (y : Ident) (id : Identifier) (shape : Shape) :
  scope.Adds [(y, id)] (scope.addFunctorParameter y id shape)
  := ⟨[_], rfl, rfl⟩

/-- A step that does not bind an identifier does not change what it denotes. -/
theorem Step.find?_eq (h : Step x place place') :
  place'.scope.find? x = place.scope.find? x
  := by
  cases h with
  | parameter h => rfl
  | @result scope owner source type rest y h hy =>
    apply (adds_addFunctorParameter scope y _ _).find?_of_stamps_ne
    rwa [List.forall_mem_singleton]
  | unit h => rfl
  | body h => rfl
  | @items scope owner source part h hx =>
    have hadds : scope.Adds (part.components.flatMap (Component.entries owner))
        (part.bound scope owner) := by
      cases part with
      | type source => exact .refl scope
      | writtenItems items => exact (Scope.bindWrittenItems_declares owner _ items).scope
      | compiledItems items =>
        exact ((Bound.declares_compositional owner).bindCompiledItems _ items).scope
    apply hadds.find?_of_stamps_ne
    intro entry hentry
    obtain ⟨c, hc, hmem⟩ := List.mem_flatMap.mp hentry
    obtain ⟨y, hy, rfl⟩ := List.mem_map.mp hmem
    apply hx c hc y hy
  | inner h => rfl

/-- Where an identifier is not bound, it denotes the same inside. -/
theorem Inside.find?_eq (h : Inside x place place') :
  place'.scope.find? x = place.scope.find? x
  := by
  induction h with
  | refl => rfl
  | tail _ hstep ih => apply hstep.find?_eq.trans ih

end Place

/-! ### Documentation at places -/

/-- The module types in a documented item; the content of an include is a signature. -/
def Model.Item.inner : Model.Item → List Model.ModuleTypeExpr
  | .module _ m =>
    match m.type with
    | .alias _ => []
    | .moduleType body => [body]
  | .moduleType t => t.type.toList
  | .included i => [i.type, .signature i.content]
  | _ => []

/-- What a part is documented as: a module type, or items. -/
inductive Documentation where
  | type (out : Model.ModuleTypeExpr)
  | items (out : List Model.Item)

/-- The second documentation is right inside the first one. -/
inductive Documentation.Holds : Documentation → Documentation → Prop where
  | parameter {id : Identifier} {type result : Model.ModuleTypeExpr} {expanded : Bool} :
    Holds (.type (.functor (.named id type expanded) result)) (.type type)
  | result {param : Model.FunctorParameter} {result : Model.ModuleTypeExpr} :
    Holds (.type (.functor param result)) (.type result)
  | constrained {body : Model.ModuleTypeExpr} {substitutions : List Model.Substitution} :
    Holds (.type (.constrained body substitutions)) (.type body)
  | typeOf {type : Model.ModuleTypeExpr} :
    Holds (.type (.typeOf (.moduleType type))) (.type type)
  | items {lift : Bool} {items : List Model.Item} :
    Holds (.type (.signature (.ofItems lift items))) (.items items)
  | inner {items : List Model.Item} {item : Model.Item} {type : Model.ModuleTypeExpr}
      (hitem : item ∈ items) (htype : type ∈ item.inner) :
    Holds (.items items) (.type type)

/-- What is documented at a place. -/
inductive Place.Documents (config : Config) : Place → Documentation → Prop where
  | type {scope : Scope} {owner : Identifier} {source : Source} {out : Model.ModuleTypeExpr}
      (h : (source.document config scope owner).outcome = .ok out) :
    Documents config ⟨scope, owner, .type source⟩ (.type out)
  | writtenItems {scope : Scope} {owner : Identifier} {items : List Written.SignatureItem}
      {out : List Model.Item}
      (h : (Written.documentItems config scope owner items).outcome = .ok out) :
    Documents config ⟨scope, owner, .writtenItems items⟩ (.items out)
  | compiledItems {scope : Scope} {owner : Identifier} {items : List Compiled.SignatureItem}
      {following : Compiled.Following}
      (h : (Compiled.documentItems config scope owner false items).outcome = .ok following) :
    Documents config ⟨scope, owner, .compiledItems items⟩ (.items following.items)

variable {config : Config} {scope : Scope} {owner : Identifier}

/-! ### Documentation of items -/

namespace Compiled

/-- Behind an item the other items are documented, and nothing of that is lost. -/
theorem documentItems_rest {item : SignatureItem} {items : List SignatureItem} {continues : Bool}
    {following : Following}
    (h : (documentItems config scope owner continues (item :: items)).outcome = .ok following) :
  ∃ continues' rest, (documentItems config scope owner continues' items).outcome = .ok rest ∧
    rest.items ⊆ following.items
  := by
  cases hitem : item.isConstructor with
  | false =>
    obtain ⟨record, rest, hrest, rfl, -⟩ := documentItems_of_isConstructor_eq_false hitem h
    use false, rest, hrest, List.subset_cons_self _ _
  | true =>
    obtain ⟨x, d, status, rfl, hstatus⟩ := SignatureItem.exists_of_isConstructor hitem
    obtain ⟨c, rest, -, hrest, hcase⟩ := documentItems_constructor hstatus h
    rcases hcase with ⟨-, -, rfl⟩ | ⟨-, e, -, -, rfl⟩
    · use true, rest, hrest, List.Subset.refl _
    · use true, rest, hrest, List.subset_cons_self _ _

/-- The module types in the first of the compiled items are documented. -/
theorem documentItems_inner_head {item : SignatureItem} {items : List SignatureItem}
    {continues : Bool} {following : Following} {id : Identifier} {source : Source}
    (h : (documentItems config scope owner continues (item :: items)).outcome = .ok following)
    (hinner : (id, source) ∈ item.inner owner) :
  ∃ record ∈ following.items, ∃ type ∈ record.inner,
    (source.document config scope id).outcome = .ok type
  := by
  cases item with
  | module x d status =>
    obtain ⟨type, attributes, loc⟩ := d
    obtain ⟨declType, rest, -, rfl, htype⟩ := documentItems_module_marks h
    rcases htype with ⟨p, r, rfl, -, -⟩ | ⟨halias, out, hout, rfl⟩
    · cases hinner
    · rw [SignatureItem.inner, halias, List.mem_singleton] at hinner
      cases hinner
      exact ⟨_, List.mem_cons_self, out, List.mem_singleton_self out, hout⟩
  | moduleType x d =>
    obtain ⟨type, attributes, loc⟩ := d
    cases type with
    | none => cases hinner
    | some type =>
      rw [SignatureItem.inner, List.mem_singleton] at hinner
      cases hinner
      simp [documentItems] at h
      obtain ⟨out, hout, rest, -, rfl⟩ := h
      exact ⟨_, List.mem_cons_self, out, List.mem_singleton_self out, hout⟩
  | _ => cases hinner

/-- The module types in compiled items are documented. -/
theorem documentItems_inner {items : List SignatureItem} {continues : Bool}
    {following : Following} {id : Identifier} {source : Source}
    (h : (documentItems config scope owner continues items).outcome = .ok following)
    (hinner : (id, source) ∈ items.flatMap (SignatureItem.inner owner)) :
  ∃ record ∈ following.items, ∃ type ∈ record.inner,
    (source.document config scope id).outcome = .ok type
  := by
  induction items generalizing continues following with
  | nil => cases hinner
  | cons item items ih =>
    rw [List.flatMap_cons, List.mem_append] at hinner
    rcases hinner with hhead | htail
    · exact documentItems_inner_head h hhead
    · obtain ⟨continues', rest, hrest, hsubset⟩ := documentItems_rest h
      obtain ⟨record, hrecord, htype⟩ := ih hrest htail
      use record
      constructor
      · apply hsubset hrecord
      · apply htype

end Compiled

namespace Written

/-- The module type of a module is documented. -/
theorem ModuleDeclaration.document_inner {d : ModuleDeclaration} {flag : Model.RecFlag}
    {out : List Model.Item} {id : Identifier} {source : Source}
    (h : (d.document config scope owner flag).outcome = .ok out)
    (hinner : (id, source) ∈ d.inner owner) :
  ∃ record ∈ out, ∃ type ∈ record.inner, (source.document config scope id).outcome = .ok type
  := by
  obtain ⟨x, type, attributes, loc⟩ := d
  obtain ⟨comments, declType, rfl, htype⟩ := ModuleDeclaration.document_marks h
  rcases htype with ⟨info, p, r, rfl, -, -⟩ | ⟨halias, type', htype', rfl⟩
  · cases hinner
  · rw [ModuleDeclaration.inner, halias, List.mem_singleton] at hinner
    cases hinner
    refine ⟨_, List.mem_append_right _ (List.mem_singleton_self _), type', ?_, htype'⟩
    apply List.mem_singleton_self type'

/-- The module types of a group of modules are documented. -/
theorem documentModules_inner {ds : List ModuleDeclaration} {flag : Model.RecFlag}
    {out : List Model.Item} {id : Identifier} {source : Source}
    (h : (documentModules config scope owner flag ds).outcome = .ok out)
    (hinner : (id, source) ∈ ds.flatMap (ModuleDeclaration.inner owner)) :
  ∃ record ∈ out, ∃ type ∈ record.inner, (source.document config scope id).outcome = .ok type
  := by
  induction ds generalizing flag out with
  | nil => cases hinner
  | cons d ds ih =>
    simp [documentModules] at h
    obtain ⟨first, hfirst, rest, hrest, rfl⟩ := h
    rw [List.flatMap_cons, List.mem_append] at hinner
    rcases hinner with hhead | htail
    · obtain ⟨record, hrecord, htype⟩ := ModuleDeclaration.document_inner hfirst hhead
      use record
      constructor
      · apply List.mem_append_left rest hrecord
      · apply htype
    · obtain ⟨record, hrecord, htype⟩ := ih hrest htail
      use record
      constructor
      · apply List.mem_append_right first hrecord
      · apply htype

/-- The module types in a written item are documented. -/
theorem SignatureItem.document_inner {item : SignatureItem} {out : List Model.Item}
    {id : Identifier} {source : Source}
    (h : (item.document config scope owner).outcome = .ok out)
    (hinner : (id, source) ∈ item.inner owner) :
  ∃ record ∈ out, ∃ type ∈ record.inner, (source.document config scope id).outcome = .ok type
  := by
  cases item with
  | module loc d =>
    rw [SignatureItem.document] at h
    exact ModuleDeclaration.document_inner h hinner
  | recModule loc ds =>
    rw [SignatureItem.document] at h
    apply documentModules_inner h hinner
  | moduleType loc d =>
    obtain ⟨x, type, attributes, loc'⟩ := d
    cases type with
    | none => cases hinner
    | some type =>
      rw [SignatureItem.inner, List.mem_singleton] at hinner
      cases hinner
      simp [SignatureItem.document, documentCommented] at h
      obtain ⟨type', htype', rfl⟩ := h
      refine ⟨_, List.mem_append_right _ (List.mem_singleton_self _), type', ?_, htype'⟩
      apply List.mem_singleton_self type'
  | included loc d =>
    obtain ⟨type, content, loc', attributes⟩ := d
    simp [SignatureItem.document, documentCommented, Compiled.Signature.document] at h
    obtain ⟨type', htype', following, hcontent, rfl⟩ := h
    refine ⟨_, List.mem_append_right _ (List.mem_singleton_self _), ?_⟩
    simp [SignatureItem.inner] at hinner
    rcases hinner with ⟨rfl, rfl⟩ | ⟨rfl, rfl⟩
    · use type', List.mem_cons_self, htype'
    · refine ⟨_, List.mem_cons_of_mem _ List.mem_cons_self, ?_⟩
      simp [Source.document, Compiled.ModuleType.document, hcontent]
  | _ => cases hinner

/-- The module types in written items are documented. -/
theorem documentItems_inner {items : List SignatureItem} {out : List Model.Item}
    {id : Identifier} {source : Source}
    (h : (documentItems config scope owner items).outcome = .ok out)
    (hinner : (id, source) ∈ items.flatMap (SignatureItem.inner owner)) :
  ∃ record ∈ out, ∃ type ∈ record.inner, (source.document config scope id).outcome = .ok type
  := by
  induction items generalizing out with
  | nil => cases hinner
  | cons item items ih =>
    simp [documentItems] at h
    obtain ⟨first, hfirst, rest, hrest, rfl⟩ := h
    rw [List.flatMap_cons, List.mem_append] at hinner
    rcases hinner with hhead | htail
    · obtain ⟨record, hrecord, htype⟩ := SignatureItem.document_inner hfirst hhead
      use record
      constructor
      · apply List.mem_append_left rest hrecord
      · apply htype
    · obtain ⟨record, hrecord, htype⟩ := ih hrest htail
      use record
      constructor
      · apply List.mem_append_right first hrecord
      · apply htype

end Written

/-! ### Documentation inside -/

namespace Source

/-- The items of a signature are documented in the scope that binds them. -/
theorem document_items {source : Source} {part : Part} {out : Model.ModuleTypeExpr}
    (hitems : source.items? = some part)
    (h : (source.document config scope owner).outcome = .ok out) :
  ∃ out', (Documentation.type out).Holds (.items out') ∧
    Place.Documents config ⟨part.bound scope owner, owner, part⟩ (.items out')
  := by
  unfold items? at hitems
  split at hitems <;> cases hitems
  · simp [document, Written.ModuleType.document] at h
    obtain ⟨items, hitems, rfl⟩ := h
    use items, .items, .writtenItems hitems
  · simp [document, Compiled.ModuleType.document] at h
    obtain ⟨following, hitems, rfl⟩ := h
    use following.items, .items, .compiledItems hitems

/-- What is constrained and the operand of `module type of` are documented where they stand. -/
theorem document_body {source body : Source} {out : Model.ModuleTypeExpr}
    (hbody : source.body? = some body)
    (h : (source.document config scope owner).outcome = .ok out) :
  ∃ out', (Documentation.type out).Holds (.type out') ∧
    (body.document config scope owner).outcome = .ok out'
  := by
  unfold body? at hbody
  split at hbody <;> cases hbody
  · simp [document, Written.ModuleType.document] at h
    obtain ⟨body', hbody', clauses', -, rfl⟩ := h
    use body', .constrained, hbody'
  · rename_i info expr hexpr
    simp [document, Written.ModuleType.document] at h
    obtain ⟨type', htype', rfl⟩ := h
    cases expr with
    | path info' p => exact absurd rfl (hexpr info' p)
    | _ =>
      simp [Written.ModuleExpr.document] at htype'
      obtain ⟨out', hout', rfl⟩ := htype'
      use out', .typeOf, hout'

end Source

namespace Place

variable {x : Ident} {place place' : Place} {out : Documentation}

/-- What is documented right inside a place is right inside its documentation. -/
theorem Step.documents (h : Step x place place') (hout : place.Documents config out) :
  ∃ out', out.Holds out' ∧ place'.Documents config out'
  := by
  cases h with
  | parameter h =>
    cases hout with
    | type hout =>
      obtain ⟨type', expanded, result', htype', -, rfl⟩ := Source.document_named h hout
      use .type type', .parameter, .type htype'
  | result h hy =>
    cases hout with
    | type hout =>
      obtain ⟨type', expanded, result', -, hresult', rfl⟩ := Source.document_named h hout
      use .type result', .result, .type hresult'
  | unit h =>
    cases hout with
    | type hout =>
      obtain ⟨result', hresult', rfl⟩ := Source.document_unit h hout
      use .type result', .result, .type hresult'
  | body h =>
    cases hout with
    | type hout =>
      obtain ⟨body', hholds, hbody'⟩ := Source.document_body h hout
      use .type body', hholds, .type hbody'
  | items h hx =>
    cases hout with
    | type hout =>
      obtain ⟨items', hholds, hitems'⟩ := Source.document_items h hout
      use .items items', hholds, hitems'
  | inner h =>
    cases hout with
    | type hout => cases h
    | writtenItems hout =>
      obtain ⟨record, hrecord, type', hinner, htype'⟩ := Written.documentItems_inner hout h
      use .type type', .inner hrecord hinner, .type htype'
    | compiledItems hout =>
      obtain ⟨record, hrecord, type', hinner, htype'⟩ := Compiled.documentItems_inner hout h
      use .type type', .inner hrecord hinner, .type htype'

/-- What is documented inside a place is inside its documentation. -/
theorem Inside.documents (h : Inside x place place') (hout : place.Documents config out) :
  ∃ out', Relation.ReflTransGen Documentation.Holds out out' ∧ place'.Documents config out'
  := by
  induction h with
  | refl => use out, .refl, hout
  | tail _ hstep ih =>
    obtain ⟨middle, hmiddle, hdocuments⟩ := ih
    obtain ⟨out', hholds, hout'⟩ := hstep.documents hdocuments
    use out', hmiddle.tail hholds, hout'

end Place

end InterfaceDocs
