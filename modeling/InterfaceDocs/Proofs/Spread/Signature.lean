import InterfaceDocs.Proofs.Spread.Declaration

/-!
# Identifiers of distinct signatures

The identifiers that the documentation of a distinct signature declares are different
(`load_declared_nodup`).  Those of an item are spread over the entities of the item, and those
of a module type that `owner` declares are spread over the children of `owner` and over its
parameters that have not been numbered yet: the result of a functor shares its owner with the
functor, but the parameters in it have greater numbers.
-/

namespace InterfaceDocs

open Model

variable {config : Config}

/-! ### Functors -/

namespace Scope

/-- The number of the next parameter of a functor that `owner` declares. -/
def nextPosition (scope : Scope) (owner : Identifier) : Nat :=
  match scope.functorParameter with
  | some (.argument parent position _) => if parent = owner then position + 1 else 1
  | _ => 1

/-- The identifiers under `owner`, of the parameters only those from the next one on. -/
def fresh (scope : Scope) (owner : Identifier) : Set Identifier :=
  {r | r.parent = some owner ∧ ∀ n, r.position = some n → scope.nextPosition owner ≤ n}

variable {scope : Scope} {owner : Identifier}

/-- A functor parameter has the next number of the scope. -/
theorem functorArgument_eq (scope : Scope) (owner : Identifier) (name : String) :
  scope.functorArgument owner name = .argument owner (scope.nextPosition owner) name
  := by
  rcases h : scope.functorParameter with _ | parameter
  · simp [functorArgument, nextPosition, h]
  · cases parameter <;> simp [functorArgument, nextPosition, h]

/-- In the result of a functor the next number is one greater. -/
theorem nextPosition_addFunctorParameter (x : Ident) (name : String) (shape : Shape) :
  (scope.addFunctorParameter x (scope.functorArgument owner name) shape).nextPosition owner
    = scope.nextPosition owner + 1
  := by
  rw [functorArgument_eq]
  simp [nextPosition, addFunctorParameter]

/-- What is fresh for an owner is nested under it. -/
theorem fresh_subset_nested (scope : Scope) (owner : Identifier) :
  scope.fresh owner ⊆ owner.nested
  := by
  intro r hr
  apply hr.1

/-- Entities of an owner are fresh, because they are no functor parameters. -/
theorem children_subset_fresh (scope : Scope) (owner : Identifier) (es : List Entity) :
  owner.children es ⊆ scope.fresh owner
  := by
  rintro _ ⟨e, -, rfl⟩
  constructor
  · rfl
  · intro n hn
    cases hn

end Scope

/-- The identifiers of a functor are those of its parameter, with what is under it, and those
of its result, in which the numbering goes on. -/
theorem Spread.functor {scope : Scope} {owner : Identifier} {x : Ident} {name : String}
    {shape : Shape} {arg result : List Identifier}
    (harg : Spread (scope.functorArgument owner name).nested arg)
    (hresult : Spread ((scope.addFunctorParameter x (scope.functorArgument owner name)
      shape).fresh owner) result) :
  Spread (scope.fresh owner) (scope.functorArgument owner name :: (arg ++ result))
  := by
  have hid : scope.functorArgument owner name ∈ owner.nested := by
    rw [Scope.functorArgument_eq]
    rfl
  have hspread := harg.node.append hresult (Set.singleton_subset_iff.mpr hid)
    (Scope.fresh_subset_nested _ owner) (by
      rintro _ rfl ⟨-, hposition⟩
      rw [Scope.nextPosition_addFunctorParameter] at hposition
      have hle := hposition (scope.nextPosition owner) (by rw [Scope.functorArgument_eq]; rfl)
      omega)
  apply hspread.mono
  rintro r (rfl | ⟨hparent, hposition⟩)
  · rw [Scope.functorArgument_eq]
    constructor
    · rfl
    · intro n hn
      exact (Option.some.inj hn).le
  · use hparent
    intro n hn
    have hle := hposition n hn
    rw [Scope.nextPosition_addFunctorParameter] at hle
    omega

/-! ### Compiled signatures -/

namespace Compiled

/-- The identifiers of the documented items behind an item. -/
def Following.declared (following : Following) : List Identifier :=
  following.constructors.flatMap Constructor.declared ++ declaredItems false following.items

theorem SignatureItem.entity_extension {x : Ident} {d : ExtensionConstructor}
    {status : ExtStatus} (h : status ≠ .exception) :
  (SignatureItem.extension x d status).entity = (.extension, x.name)
  := by
  cases status with
  | first => rfl
  | next => rfl
  | exception => contradiction

/-- An item and the items behind it are spread over their entities, if these differ. -/
theorem Following.cons_spread {parent : Identifier} {item : Item} {following : Following}
    {e : Entity} {es : List Entity} (hitem : Spread {parent.ofEntity e} (item.declared false))
    (hfollowing : Spread (parent.children es) following.declared) (hnodup : (e :: es).Nodup) :
  Spread (parent.children (e :: es)) (Following.cons item following).declared
  := by
  have hchild : Spread (parent.children [e]) (item.declared false) := by
    rw [Identifier.children_singleton]
    apply hitem
  have hitems : Spread (parent.children es) (declaredItems false following.items) :=
    hfollowing.sublist (List.sublist_append_right _ _)
  apply hchild.append_children hitems hnodup

/-- An extension constructor in front of those that continue its extension. -/
theorem Following.constructor_spread {parent : Identifier} {c : Constructor}
    {following : Following} {e : Entity} {es : List Entity}
    (hc : Spread {parent.ofEntity e} c.declared)
    (hfollowing : Spread (parent.children es) following.declared) (hnodup : (e :: es).Nodup) :
  Spread (parent.children (e :: es)) (c.declared ++ following.declared)
  := by
  have hchild : Spread (parent.children [e]) c.declared := by
    rw [Identifier.children_singleton]
    apply hc
  apply hchild.append_children hfollowing hnodup

mutual

/-- The identifiers of a documented distinct module type are spread under its owner. -/
theorem ModuleType.document_spread :
  ∀ {type : ModuleType} {scope : Scope} {owner : Identifier} {out : ModuleTypeExpr},
    type.isDistinct → (type.document config scope owner).outcome = .ok out →
      Spread (scope.fresh owner) (out.declared false)
  | .path p, _, _, _, _, hdoc => by
    simp [ModuleType.document] at hdoc
    obtain ⟨r, -, rfl⟩ := hdoc
    apply Spread.nil
  | .signature items, scope, owner, _, hdistinct, hdoc => by
    simp [ModuleType.document] at hdoc
    obtain ⟨following, hfollowing, rfl⟩ := hdoc
    simp only [ModuleType.isDistinct, Bool.and_eq_true, decide_eq_true_eq] at hdistinct
    have hspread := documentItems_spread hdistinct.2 hdistinct.1 hfollowing
    simp only [declared_signature, declaredItems_ofItems]
    apply (hspread.sublist (List.sublist_append_right _ _)).mono
    apply scope.children_subset_fresh owner _
  | .functor _ none result, _, _, _, hdistinct, hdoc => by
    simp [ModuleType.document] at hdoc
    obtain ⟨result', hresult, rfl⟩ := hdoc
    rw [ModuleType.isDistinct] at hdistinct
    rw [ModuleTypeExpr.declared]
    apply ModuleType.document_spread hdistinct hresult
  | .functor x (some arg) result, _, _, _, hdistinct, hdoc => by
    simp [ModuleType.document] at hdoc
    obtain ⟨arg', harg, result', hresult, rfl⟩ := hdoc
    simp only [ModuleType.isDistinct, Bool.and_eq_true] at hdistinct
    rw [ModuleTypeExpr.declared]
    apply Spread.functor
    · exact (ModuleType.document_spread hdistinct.1 harg).mono (Scope.fresh_subset_nested _ _)
    · apply ModuleType.document_spread hdistinct.2 hresult
  | .alias p, _, _, _, _, hdoc => by cases hdoc

/-- The identifiers of documented items are spread over the entities of the items. -/
theorem documentItems_spread :
  ∀ {items : List SignatureItem} {scope : Scope} {parent : Identifier} {continues : Bool}
    {following : Following},
    distinctItems items → (items.map SignatureItem.entity).Nodup →
      (documentItems config scope parent continues items).outcome = .ok following →
        Spread (parent.children (items.map SignatureItem.entity)) following.declared
  | [], _, _, _, _, _, _, hdoc => by
    obtain rfl := Except.ok.inj hdoc
    apply Spread.nil
  | .value x d :: items, _, _, _, _, hdistinct, hnodup, hdoc => by
    simp [documentItems] at hdoc
    obtain ⟨item, hitem, rest, hrest, rfl⟩ := hdoc
    simp only [distinctItems, Bool.and_eq_true] at hdistinct
    apply Following.cons_spread _ _ hnodup
    · rw [ValueDescription.document_declared hitem]
      apply Spread.singleton _
    · apply documentItems_spread hdistinct.2 hnodup.of_cons hrest
  | .type x d status :: items, _, _, _, _, hdistinct, hnodup, hdoc => by
    simp [documentItems] at hdoc
    obtain ⟨decl, hdecl, rest, hrest, rfl⟩ := hdoc
    simp only [distinctItems, SignatureItem.isDistinct, Bool.and_eq_true] at hdistinct
    apply Following.cons_spread _ _ hnodup
    · apply TypeDeclaration.document_spread hdistinct.1 hdecl
    · apply documentItems_spread hdistinct.2 hnodup.of_cons hrest
  | .extension x d status :: items, _, parent, _, _, hdistinct, hnodup, hdoc => by
    simp only [distinctItems, SignatureItem.isDistinct, Bool.and_eq_true] at hdistinct
    by_cases hexception : status = .exception
    · subst hexception
      simp [documentItems] at hdoc
      obtain ⟨c, hc, rest, hrest, rfl⟩ := hdoc
      apply Following.cons_spread _ _ hnodup
      · apply documentConstructor_spread hdistinct.1 hc
      · apply documentItems_spread hdistinct.2 hnodup.of_cons hrest
    · simp [documentItems] at hdoc
      obtain ⟨c, hc, hdoc⟩ := hdoc
      rw [List.map_cons, SignatureItem.entity_extension hexception] at hnodup ⊢
      have hc' : Spread {parent.ofEntity (.extension, x.name)} c.declared :=
        documentConstructor_spread hdistinct.1 hc
      split at hdoc
      · simp at hdoc
        obtain ⟨rest, hrest, rfl⟩ := hdoc
        have hspread := Following.constructor_spread hc'
          (documentItems_spread hdistinct.2 hnodup.of_cons hrest) hnodup
        simpa [Following.declared] using hspread
      · simp at hdoc
        obtain ⟨head, hhead, rest, hrest, rfl⟩ := hdoc
        have hspread := Following.constructor_spread hc'
          (documentItems_spread hdistinct.2 hnodup.of_cons hrest) hnodup
        simpa [Following.declared, Following.cons, declaredItems, Item.declared,
          Extension.declared] using hspread
  | .module x ⟨type, attributes, loc⟩ status :: items, _, _, _, _, hdistinct, hnodup, hdoc => by
    obtain ⟨declType, _, _, _, rest, hrest, rfl, rfl, htype⟩ := documentItems_module hdoc
    simp only [distinctItems, SignatureItem.isDistinct, Bool.and_eq_true] at hdistinct
    apply Following.cons_spread _ _ hnodup
    · rw [Item.declared]
      apply Spread.node
      rcases htype with ⟨p, r, -, -, rfl⟩ | ⟨-, out, hout, rfl⟩
      · apply Spread.nil
      · apply (ModuleType.document_spread hdistinct.1 hout).mono
        apply Scope.fresh_subset_nested _ _
    · apply documentItems_spread hdistinct.2 hnodup.of_cons hrest
  | .moduleType x ⟨some type, attributes, loc⟩ :: items, _, _, _, _, hdistinct, hnodup,
      hdoc => by
    simp [documentItems] at hdoc
    obtain ⟨out, hout, rest, hrest, rfl⟩ := hdoc
    simp only [distinctItems, SignatureItem.isDistinct, Bool.and_eq_true] at hdistinct
    apply Following.cons_spread _ _ hnodup
    · rw [Item.declared]
      apply Spread.node
      apply (ModuleType.document_spread hdistinct.1 hout).mono
      apply Scope.fresh_subset_nested _ _
    · apply documentItems_spread hdistinct.2 hnodup.of_cons hrest
  | .moduleType x ⟨none, attributes, loc⟩ :: items, _, _, _, _, hdistinct, hnodup, hdoc => by
    simp [documentItems] at hdoc
    obtain ⟨rest, hrest, rfl⟩ := hdoc
    simp only [distinctItems, Bool.and_eq_true] at hdistinct
    apply Following.cons_spread _ _ hnodup
    · apply Spread.singleton _
    · apply documentItems_spread hdistinct.2 hnodup.of_cons hrest
  | .class x d status :: items, _, _, _, _, hdistinct, hnodup, hdoc => by
    simp [documentItems] at hdoc
    obtain ⟨decl, hdecl, rest, hrest, rfl⟩ := hdoc
    simp only [distinctItems, SignatureItem.isDistinct, Bool.and_eq_true,
      decide_eq_true_eq] at hdistinct
    apply Following.cons_spread _ _ hnodup
    · apply ClassDeclaration.document_spread hdistinct.1 hdecl
    · apply documentItems_spread hdistinct.2 hnodup.of_cons hrest
  | .classType x d status :: items, _, _, _, _, hdistinct, hnodup, hdoc => by
    simp [documentItems] at hdoc
    obtain ⟨decl, hdecl, rest, hrest, rfl⟩ := hdoc
    simp only [distinctItems, SignatureItem.isDistinct, Bool.and_eq_true,
      decide_eq_true_eq] at hdistinct
    apply Following.cons_spread _ _ hnodup
    · apply ClassTypeDeclaration.document_spread hdistinct.1 hdecl
    · apply documentItems_spread hdistinct.2 hnodup.of_cons hrest

end

end Compiled

/-! ### Written signatures -/

namespace Written

/-- If the members of a group are spread over their entities, and these differ, then so is the
group. -/
theorem documentGroup_spread {α : Type} {attributes : α → List Attribute}
    {document : Model.RecFlag → α → Reading Item} {entity : α → Entity} {parent : Identifier} :
  ∀ {ds : List α} {flag : Model.RecFlag} {items : List Item},
    (∀ d ∈ ds, ∀ (flag : Model.RecFlag) (item : Item), (document flag d).outcome = .ok item →
      Spread {parent.ofEntity (entity d)} (item.declared false)) →
    (ds.map entity).Nodup →
      (documentGroup config attributes document flag ds).outcome = .ok items →
        Spread (parent.children (ds.map entity)) (declaredItems false items)
  | [], _, _, _, _, hdoc => by
    obtain rfl := Except.ok.inj hdoc
    apply Spread.nil
  | d :: ds, flag, _, hdocument, hnodup, hdoc => by
    simp [documentGroup, documentCommented] at hdoc
    obtain ⟨item, hitem, rest, hrest, rfl⟩ := hdoc
    have hhead : Spread (parent.children [entity d]) (item.declared false) := by
      rw [Identifier.children_singleton]
      apply hdocument d List.mem_cons_self flag item hitem
    have htail := documentGroup_spread
      (fun d' hd' => hdocument d' (List.mem_cons_of_mem d hd')) hnodup.of_cons hrest
    simpa [declaredItems_append, declaredItems] using hhead.append_children htail hnodup

/-- What the type of a module expression declares is spread over what is fresh for its owner. -/
theorem ModuleExpr.document_spread {scope : Scope} {expr : ModuleExpr} {owner : Identifier}
    {out : ModuleDeclType} (hdistinct : expr.isDistinct)
    (hdoc : (expr.document config scope owner).outcome = .ok out) :
  Spread (scope.fresh owner) (out.declared false)
  := by
  unfold ModuleExpr.document at hdoc
  split at hdoc
  · simp at hdoc
    obtain ⟨r, -, rfl⟩ := hdoc
    apply Spread.nil
  · simp at hdoc
    obtain ⟨type, htype, rfl⟩ := hdoc
    unfold ModuleExpr.isDistinct at hdistinct
    split at hdistinct
    · simp at *
    · apply Compiled.ModuleType.document_spread hdistinct htype

mutual

/-- The identifiers of a documented distinct module type are spread under its owner. -/
theorem ModuleType.document_spread :
  ∀ {type : ModuleType} {scope : Scope} {owner : Identifier} {out : ModuleTypeExpr},
    type.isDistinct → (type.document config scope owner).outcome = .ok out →
      Spread (scope.fresh owner) (out.declared false)
  | .path _ p, _, _, _, _, hdoc => by
    simp [ModuleType.document] at hdoc
    obtain ⟨r, -, rfl⟩ := hdoc
    apply Spread.nil
  | .signature _ items, scope, owner, _, hdistinct, hdoc => by
    simp [ModuleType.document] at hdoc
    obtain ⟨documented, hitems, rfl⟩ := hdoc
    simp only [ModuleType.isDistinct, Bool.and_eq_true, decide_eq_true_eq] at hdistinct
    simp only [declared_signature, declaredItems_ofItems]
    apply (documentItems_spread hdistinct.2 hdistinct.1 hitems).mono
    apply scope.children_subset_fresh owner _
  | .functor _ .unit result, _, _, _, hdistinct, hdoc => by
    simp [ModuleType.document] at hdoc
    obtain ⟨result', hresult, rfl⟩ := hdoc
    rw [ModuleType.isDistinct] at hdistinct
    rw [ModuleTypeExpr.declared]
    apply ModuleType.document_spread hdistinct hresult
  | .functor _ (.named x arg) result, _, _, _, hdistinct, hdoc => by
    simp [ModuleType.document] at hdoc
    obtain ⟨arg', harg, result', hresult, rfl⟩ := hdoc
    simp only [ModuleType.isDistinct, Bool.and_eq_true] at hdistinct
    rw [ModuleTypeExpr.declared]
    apply Spread.functor
    · exact (ModuleType.document_spread hdistinct.1 harg).mono (Scope.fresh_subset_nested _ _)
    · apply ModuleType.document_spread hdistinct.2 hresult
  | .constrained _ body clauses, _, _, _, hdistinct, hdoc => by
    simp [ModuleType.document] at hdoc
    obtain ⟨type, htype, substitutions, -, rfl⟩ := hdoc
    rw [ModuleType.isDistinct] at hdistinct
    rw [ModuleTypeExpr.declared]
    apply ModuleType.document_spread hdistinct htype
  | .typeOf _ expr, _, _, _, hdistinct, hdoc => by
    simp [ModuleType.document] at hdoc
    obtain ⟨type, htype, rfl⟩ := hdoc
    rw [ModuleTypeExpr.declared]
    apply ModuleExpr.document_spread hdistinct htype
  | .alias _ p, _, _, _, _, hdoc => by cases hdoc

/-- The identifiers of documented items are spread over the entities of the items. -/
theorem documentItems_spread :
  ∀ {items : List SignatureItem} {scope : Scope} {parent : Identifier} {documented : List Item},
    distinctItems items → (items.flatMap SignatureItem.entities).Nodup →
      (documentItems config scope parent items).outcome = .ok documented →
        Spread (parent.children (items.flatMap SignatureItem.entities))
          (declaredItems false documented)
  | [], _, _, _, _, _, hdoc => by
    obtain rfl := Except.ok.inj hdoc
    apply Spread.nil
  | item :: items, _, _, _, hdistinct, hnodup, hdoc => by
    simp [documentItems] at hdoc
    obtain ⟨head, hhead, rest, hrest, rfl⟩ := hdoc
    simp only [distinctItems, Bool.and_eq_true] at hdistinct
    rw [List.flatMap_cons] at hnodup ⊢
    rw [declaredItems_append]
    apply Spread.append_children _ _ hnodup
    · apply SignatureItem.document_spread hdistinct.1 hnodup.of_append_left hhead
    · apply documentItems_spread hdistinct.2 hnodup.of_append_right hrest

/-- The identifiers of a documented item are spread over the entities of the item. -/
theorem SignatureItem.document_spread :
  ∀ {item : SignatureItem} {scope : Scope} {parent : Identifier} {documented : List Item},
    item.isDistinct → item.entities.Nodup →
      (item.document config scope parent).outcome = .ok documented →
        Spread (parent.children item.entities) (declaredItems false documented)
  | .value _ d, _, _, _, _, _, hdoc => by
    simp [SignatureItem.document, documentCommented] at hdoc
    obtain ⟨item, hitem, rfl⟩ := hdoc
    simp [declaredItems_append, declaredItems, ValueDescription.document_declared hitem,
      SignatureItem.entities, Spread.singleton]
  | .type _ _ ds, _, _, _, hdistinct, hnodup, hdoc => by
    rw [SignatureItem.document] at hdoc
    rw [SignatureItem.isDistinct, List.all_eq_true] at hdistinct
    apply documentGroup_spread _ hnodup hdoc
    intro d hd flag item hitem
    simp [TypeDeclaration.documentItem] at hitem
    obtain ⟨decl, hdecl, rfl⟩ := hitem
    apply TypeDeclaration.document_spread (hdistinct d hd) hdecl
  | .typeSubst _ ds, _, _, _, hdistinct, hnodup, hdoc => by
    rw [SignatureItem.document] at hdoc
    rw [SignatureItem.isDistinct, List.all_eq_true] at hdistinct
    apply documentGroup_spread _ hnodup hdoc
    intro d hd flag item hitem
    simp [TypeDeclaration.documentSubstitution] at hitem
    obtain ⟨decl, hdecl, rfl⟩ := hitem
    apply TypeDeclaration.document_spread (hdistinct d hd) hdecl
  | .extension _ d, _, _, _, hdistinct, hnodup, hdoc => by
    simp [SignatureItem.document, documentCommented] at hdoc
    obtain ⟨extension, hextension, rfl⟩ := hdoc
    rw [SignatureItem.isDistinct] at hdistinct
    simpa [declaredItems_append, declaredItems, Item.declared, SignatureItem.entities]
      using TypeExtension.document_spread hdistinct hnodup hextension
  | .exception _ d, _, _, _, hdistinct, _, hdoc => by
    simp [SignatureItem.document, documentCommented] at hdoc
    obtain ⟨c, hc, rfl⟩ := hdoc
    rw [SignatureItem.isDistinct] at hdistinct
    simpa [declaredItems_append, declaredItems, Item.declared, SignatureItem.entities]
      using ExtensionConstructor.document_spread hdistinct hc
  | .module _ ⟨x, type, attributes, loc⟩, _, _, _, hdistinct, _, hdoc => by
    rw [SignatureItem.document] at hdoc
    rw [SignatureItem.isDistinct] at hdistinct
    rw [SignatureItem.entities, Identifier.children_singleton]
    apply ModuleDeclaration.document_spread hdistinct hdoc
  | .moduleSubst _ d, _, _, _, _, _, hdoc => by
    simp [SignatureItem.document, documentCommented, ModuleSubstitution.document] at hdoc
    obtain ⟨r, -, rfl⟩ := hdoc
    simp [declaredItems_append, declaredItems, Item.declared, SignatureItem.entities,
      Spread.singleton]
  | .recModule _ ds, _, _, _, hdistinct, hnodup, hdoc => by
    rw [SignatureItem.document] at hdoc
    rw [SignatureItem.isDistinct] at hdistinct
    apply documentModules_spread hdistinct hnodup hdoc
  | .moduleType _ ⟨x, some type, attributes, loc⟩, _, _, _, hdistinct, _, hdoc => by
    simp [SignatureItem.document, documentCommented] at hdoc
    obtain ⟨out, hout, rfl⟩ := hdoc
    rw [SignatureItem.isDistinct] at hdistinct
    have hspread := (ModuleType.document_spread hdistinct hout).mono
      (Scope.fresh_subset_nested _ _)
    simpa [declaredItems_append, declaredItems, Item.declared, SignatureItem.entities]
      using hspread.node
  | .moduleType _ ⟨x, none, attributes, loc⟩, _, _, _, _, _, hdoc => by
    simp [SignatureItem.document, documentCommented] at hdoc
    obtain rfl := hdoc
    simp [declaredItems_append, declaredItems, Item.declared, SignatureItem.entities,
      Spread.singleton]
  | .opened _ _, _, _, _, _, _, hdoc => by
    obtain rfl := Except.ok.inj hdoc
    apply Spread.nil
  | .included _ ⟨type, content, loc, attributes⟩, _, _, _, hdistinct, hnodup, hdoc => by
    simp [SignatureItem.document, documentCommented, Compiled.Signature.document] at hdoc
    obtain ⟨type', -, following, hfollowing, rfl⟩ := hdoc
    rw [SignatureItem.isDistinct] at hdistinct
    have hspread := (Compiled.documentItems_spread hdistinct hnodup hfollowing).sublist
      (List.sublist_append_right _ _)
    simpa [declaredItems_append, declaredItems, SignatureItem.entities] using hspread
  | .class _ ds, _, _, _, hdistinct, hnodup, hdoc => by
    rw [SignatureItem.document] at hdoc
    simp only [SignatureItem.isDistinct, List.all_eq_true, decide_eq_true_eq] at hdistinct
    apply documentGroup_spread _ hnodup hdoc
    intro d hd flag item hitem
    simp [ClassDeclaration.documentItem] at hitem
    obtain ⟨decl, hdecl, rfl⟩ := hitem
    apply ClassDeclaration.document_spread (hdistinct d hd) hdecl
  | .classType _ ds, _, _, _, hdistinct, hnodup, hdoc => by
    rw [SignatureItem.document] at hdoc
    simp only [SignatureItem.isDistinct, List.all_eq_true, decide_eq_true_eq] at hdistinct
    apply documentGroup_spread _ hnodup hdoc
    intro d hd flag item hitem
    simp [ClassDeclaration.documentClassTypeItem] at hitem
    obtain ⟨decl, hdecl, rfl⟩ := hitem
    apply ClassDeclaration.documentClassType_spread (hdistinct d hd) hdecl
  | .floating _ a, _, _, _, _, _, hdoc => by
    simp [SignatureItem.document] at hdoc
    obtain rfl := hdoc
    rw [declaredItems_comments]
    apply Spread.nil

/-- What the modules of a group declare is spread over their identifiers. -/
theorem documentModules_spread :
  ∀ {ds : List ModuleDeclaration} {scope : Scope} {parent : Identifier} {flag : Model.RecFlag}
    {documented : List Item},
    distinctModules ds → (ds.map ModuleDeclaration.entity).Nodup →
      (documentModules config scope parent flag ds).outcome = .ok documented →
        Spread (parent.children (ds.map ModuleDeclaration.entity))
          (declaredItems false documented)
  | [], _, _, _, _, _, _, hdoc => by
    obtain rfl := Except.ok.inj hdoc
    apply Spread.nil
  | ⟨x, type, attributes, loc⟩ :: ds, _, parent, _, _, hdistinct, hnodup, hdoc => by
    simp [documentModules] at hdoc
    obtain ⟨head, hhead, rest, hrest, rfl⟩ := hdoc
    simp only [distinctModules, Bool.and_eq_true] at hdistinct
    have hmodule : Spread (parent.children [(.module, x.name)]) (declaredItems false head) := by
      rw [Identifier.children_singleton]
      apply ModuleDeclaration.document_spread hdistinct.1 hhead
    rw [declaredItems_append]
    apply hmodule.append_children (documentModules_spread hdistinct.2 hnodup.of_cons hrest)
      hnodup

/-- The identifiers of a documented module are spread over that of the module. -/
theorem ModuleDeclaration.document_spread :
  ∀ {d : ModuleDeclaration} {scope : Scope} {parent : Identifier} {flag : Model.RecFlag}
    {documented : List Item},
    d.type.isDistinct → (d.document config scope parent flag).outcome = .ok documented →
      Spread {parent.ofEntity d.entity} (declaredItems false documented)
  | ⟨x, type, attributes, loc⟩, _, parent, _, _, hdistinct, hdoc => by
    obtain ⟨_, declType, _, _, _, rfl, rfl, htype⟩ := ModuleDeclaration.document_eq_ok hdoc
    have hdecl : Spread (parent.child .module x.name).nested (declType.declared false) := by
      rcases htype with ⟨info, p, r, rfl, -, rfl⟩ | ⟨-, out, hout, rfl⟩
      · apply Spread.nil
      · exact (ModuleType.document_spread hdistinct hout).mono (Scope.fresh_subset_nested _ _)
    simpa [declaredItems_append, declaredItems, Item.declared, Identifier.ofEntity,
      ModuleDeclaration.entity] using hdecl.node

end

end Written

/-- The identifiers that a loaded interface declares are all different, if the declarations of
the signature are distinct. -/
theorem load_declared_nodup {container unit : String} {signature : Written.Signature}
    {interface : Model.Interface} (hdistinct : signature.isDistinct)
    (hload : (Model.Interface.load config container unit signature).outcome = .ok interface) :
  (interface.declared false).Nodup
  := by
  simp [Model.Interface.load, Written.Signature.document] at hload
  obtain ⟨documented, hitems, rfl⟩ := hload
  simp only [Written.Signature.isDistinct, Bool.and_eq_true, decide_eq_true_eq] at hdistinct
  simp only [Model.Interface.declared, declaredItems_ofItems]
  exact (Written.documentItems_spread hdistinct.2 hdistinct.1 hitems).nodup

/-- A signature whose declarations share names but not kinds or parents: the parameters of a
functor, a type and its constructor and label, a module with the name of an exception, a method
with the name of an instance variable, and a value in the content of an include. -/
def distinctSample : Written.Signature :=
  let info : Written.NodeInfo := ⟨.none, []⟩
  let unknown : Written.CoreType := .any info
  let label : Written.LabelDeclaration := ⟨⟨"a", 1, 0⟩, .immutable, unknown, .none, []⟩
  let constructor : Written.ConstructorDeclaration :=
    ⟨⟨"A", 2, 0⟩, .record [label], none, .none, []⟩
  [.type .none .recursive
      [⟨⟨"a", 3, 0⟩, [], [], .variant [constructor], .publicly, none, .none, []⟩],
    .module .none ⟨⟨"A", 4, 0⟩,
      .functor info (.named ⟨"X", 5, 0⟩ (.signature info []))
        (.functor info (.named ⟨"X", 6, 0⟩ (.signature info [])) (.signature info
          [.moduleType .none ⟨⟨"X", 7, 0⟩, none, [], .none⟩])), [], .none⟩,
    .exception .none ⟨⟨"A", 8, 0⟩, .declared (.record [label]) none, .none, []⟩,
    .class .none [⟨.concrete, [], ⟨"a", 9, 0⟩, ⟨"a", 10, 0⟩, ⟨"a", 11, 0⟩,
      .signature info unknown [.method info "a" .publicly .concrete unknown,
        .instanceVariable info "a" .immutable .concrete unknown], .none, []⟩],
    .included .none ⟨.signature info [],
      [.value ⟨"a", 12, 0⟩ ⟨.var none 0, .regular, .none, []⟩], .none, []⟩]

/-- What `distinctSample` declares has no repetitions. -/
theorem distinctSample_declared_nodup :
  distinctSample.isDistinct = true ∧ ∃ interface,
    (Model.Interface.load .standard "pkg" "U" distinctSample).outcome = .ok interface ∧
      (interface.declared false).map Identifier.text
        = ["U.type-a", "U.type-a.constructor-A", "U.type-a.constructor-A.field-a", "U.module-A",
          "U.module-A.argument-1-X", "U.module-A.argument-2-X", "U.module-A.module-type-X",
          "U.exception-A", "U.exception-A.field-a", "U.class-a", "U.class-a.method-a",
          "U.class-a.instance-variable-a", "U.val-a"] ∧
      (interface.declared false).Nodup
  := by
  have hdistinct : distinctSample.isDistinct := by decide
  use hdistinct
  obtain ⟨interface, hload⟩ : ∃ interface,
    (Model.Interface.load .standard "pkg" "U" distinctSample).outcome = .ok interface := ⟨_, rfl⟩
  use interface, hload
  constructor
  · obtain rfl := Except.ok.inj hload
    rfl
  · apply load_declared_nodup hdistinct hload

end InterfaceDocs
