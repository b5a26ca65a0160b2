import InterfaceDocs.Load.Interface
import InterfaceDocs.Proofs.Bare.Declaration
import InterfaceDocs.Proofs.Bare.Scope

/-!
# Documentation does not interfere

Signatures agree with their bare forms up to documentation, whatever the configurations are
(`Written.Signature.document_bare`).  Two signatures with the same bare form therefore load
alike: documentation and configuration decide neither whether an interface loads nor what it
says apart from documentation (`load_agree_of_bare_eq`).
-/

namespace InterfaceDocs

open Reading (Agree)
open Load (readDoc_agree readCanonical_agree readComments_agree)

variable (config config' : Config)

namespace Compiled

/-! ### Compiled signatures -/

/-- The documented items without documentation. -/
def Following.bare (following : Following) : Following :=
  ⟨following.constructors.map Model.Constructor.bare, Model.bareItems following.items⟩

/-- Documented items agree if the first ones do and the following ones do. -/
theorem Following.cons_agree {item item' : Model.Item} {rest rest' : Reading Following}
    (hitem : item.bare = item'.bare) (hrest : rest.Agree bare rest') :
  Agree bare (rest >>= fun following => pure (.cons item following))
    (rest' >>= fun following => pure (.cons item' following))
  := by
  apply Agree.bind hrest
  intro f f' hf
  apply Agree.pure
  have hitems : Model.bareItems f.items = Model.bareItems f'.items := congrArg items hf
  rw [bare, cons, Model.bareItems, hitem, hitems]
  rfl

/-- A constructor in front of items that continue its extension. -/
theorem Following.continued_agree {c c' : Model.Constructor} {rest rest' : Reading Following}
    (hc : c.bare = c'.bare) (hrest : rest.Agree bare rest') :
  Agree bare
    (rest >>= fun following => pure ⟨c :: following.constructors, following.items⟩)
    (rest' >>= fun following => pure ⟨c' :: following.constructors, following.items⟩)
  := by
  apply Agree.bind hrest
  intro f f' hf
  apply Agree.pure
  have hconstructors : f.constructors.map Model.Constructor.bare
      = f'.constructors.map Model.Constructor.bare := congrArg constructors hf
  have hitems : Model.bareItems f.items = Model.bareItems f'.items := congrArg items hf
  rw [bare, bare, List.map_cons, List.map_cons, hc, hconstructors, hitems]

/-- A constructor that opens an extension, in front of the items behind it. -/
theorem Following.opened_agree (scope : Scope) (d : ExtensionConstructor)
    {c c' : Model.Constructor} {rest rest' : Reading Following} (hc : c.bare = c'.bare)
    (hrest : rest.Agree bare rest') :
  Agree bare
    (do
      let extension ← d.documentHead scope []
      let following ← rest
      return .cons (.extension { extension with constructors := c :: following.constructors })
        following)
    (do
      let extension ← d.bare.documentHead scope []
      let following ← rest'
      return .cons (.extension { extension with constructors := c' :: following.constructors })
        following)
  := by
  rw [d.documentHead_bare scope]
  apply Agree.bind_right
  intro extension
  apply Agree.bind hrest
  intro f f' hf
  apply Agree.pure
  have hconstructors : f.constructors.map Model.Constructor.bare
      = f'.constructors.map Model.Constructor.bare := congrArg constructors hf
  have hitems : Model.bareItems f.items = Model.bareItems f'.items := congrArg items hf
  rw [bare, bare, cons, cons, Model.bareItems, Model.bareItems, Model.Item.bare,
    Model.Item.bare, Model.Extension.bare, Model.Extension.bare, List.map_cons, List.map_cons,
    hc, hconstructors, hitems]

mutual

/-- A compiled module type agrees with its bare form up to documentation. -/
theorem ModuleType.document_bare :
  ∀ (scope : Scope) (owner : Identifier) (type : ModuleType),
    (type.document config scope owner).Agree Model.ModuleTypeExpr.bare
      (type.bare.document config' scope owner)
  | _, _, .path p => by
    rw [ModuleType.bare, ModuleType.document, ModuleType.document]
    apply Agree.refl
  | scope, owner, .signature items => by
    rw [ModuleType.bare, ModuleType.document, ModuleType.document, Scope.bindCompiled_bare]
    apply Agree.tell
    apply Agree.bind (documentItems_bare _ owner false items)
    intro f f' hf
    apply Agree.pure
    have hitems : Model.bareItems f.items = Model.bareItems f'.items :=
      congrArg Following.items hf
    rw [Model.bare_signature, Model.bare_signature, Model.bare_ofItems, Model.bare_ofItems,
      hitems]
  | scope, owner, .functor x none result => by
    rw [ModuleType.bare, ModuleType.document, ModuleType.document]
    apply Agree.bind (result.document_bare scope owner)
    intro r r' hr
    apply Agree.pure
    rw [Model.ModuleTypeExpr.bare, Model.ModuleTypeExpr.bare, hr]
  | scope, owner, .functor x (some arg) result => by
    rw [ModuleType.bare, ModuleType.document, ModuleType.document, Scope.compiledShape_bare,
      ModuleType.isSignature_bare]
    apply Agree.bind (arg.document_bare scope _)
    intro a a' ha
    apply Agree.bind (result.document_bare _ owner)
    intro r r' hr
    apply Agree.pure
    rw [Model.ModuleTypeExpr.bare, Model.ModuleTypeExpr.bare, ha, hr]
  | _, _, .alias p => by
    rw [ModuleType.bare, ModuleType.document, ModuleType.document]
    apply Agree.refl

/-- The items of a compiled signature agree with their bare forms up to documentation. -/
theorem documentItems_bare :
  ∀ (scope : Scope) (parent : Identifier) (continues : Bool) (items : List SignatureItem),
    (documentItems config scope parent continues items).Agree Following.bare
      (documentItems config' scope parent continues (bareItems items))
  | _, _, _, [] => by
    rw [bareItems, documentItems, documentItems]
    apply Agree.refl
  | scope, parent, _, .value x d :: items => by
    rw [bareItems, SignatureItem.bare, documentItems, documentItems]
    apply Agree.bind (d.document_bare config config' scope parent x)
    intro item item' hitem
    apply Following.cons_agree hitem (documentItems_bare scope parent false items)
  | scope, parent, _, .type x d status :: items => by
    rw [bareItems, SignatureItem.bare, documentItems, documentItems]
    apply Agree.bind (d.document_bare config config' scope parent x)
    intro decl decl' hdecl
    apply Following.cons_agree _ (documentItems_bare scope parent false items)
    rw [Model.Item.bare, Model.Item.bare, hdecl]
  | scope, parent, _, .extension x d .exception :: items => by
    rw [bareItems, SignatureItem.bare, documentItems, documentItems]
    apply Agree.bind (d.document_bare config config' scope _)
    intro c c' hc
    apply Following.cons_agree _ (documentItems_bare scope parent false items)
    rw [Model.Item.bare, Model.Item.bare, hc]
  | scope, parent, continues, .extension x d .first :: items => by
    simp only [bareItems, SignatureItem.bare, documentItems, reduceCtorEq, decide_false,
      Bool.and_false, Bool.false_eq_true, if_false]
    apply Agree.bind (d.document_bare config config' scope _)
    intro c c' hc
    apply Following.opened_agree scope d hc (documentItems_bare scope parent true items)
  | scope, parent, false, .extension x d .next :: items => by
    simp only [bareItems, SignatureItem.bare, documentItems, Bool.false_and,
      Bool.false_eq_true, if_false]
    apply Agree.bind (d.document_bare config config' scope _)
    intro c c' hc
    apply Following.opened_agree scope d hc (documentItems_bare scope parent true items)
  | scope, parent, true, .extension x d .next :: items => by
    simp only [bareItems, SignatureItem.bare, documentItems, decide_true, Bool.and_true,
      if_true]
    apply Agree.bind (d.document_bare config config' scope _)
    intro c c' hc
    apply Following.continued_agree hc (documentItems_bare scope parent true items)
  | scope, parent, _, .module x ⟨type, attributes, loc⟩ status :: items => by
    rw [bareItems, SignatureItem.bare, documentItems, documentItems,
      ModuleType.isSignature_bare, ModuleType.alias?_bare]
    apply Agree.bind (readDoc_agree config config' _ attributes [])
    intro doc doc' _
    apply Agree.bind (readCanonical_agree doc doc')
    intro canonical canonical' _
    cases type.alias? with
    | some p =>
      apply Agree.bind_right
      intro r
      apply Agree.bind_right
      intro declType
      apply Following.cons_agree _ (documentItems_bare scope parent false items)
      rfl
    | none =>
      apply Agree.bind (type.document_bare scope _)
      intro t t' ht
      have htype : (Model.ModuleDeclType.moduleType t).bare
          = (Model.ModuleDeclType.moduleType t').bare := by
        rw [Model.ModuleDeclType.bare, Model.ModuleDeclType.bare, ht]
      apply Agree.bind (Agree.pure htype)
      intro declType declType' hdecl
      apply Following.cons_agree _ (documentItems_bare scope parent false items)
      rw [Model.Item.bare, Model.Item.bare, hdecl]
  | scope, parent, _, .moduleType x ⟨some type, attributes, loc⟩ :: items => by
    rw [bareItems, SignatureItem.bare, documentItems, documentItems, Option.any_some,
      Option.any_some, ModuleType.isSignature_bare]
    apply Agree.bind (readDoc_agree config config' _ attributes [])
    intro doc doc' _
    apply Agree.bind (type.document_bare scope _)
    intro t t' ht
    have htype : (some t).map Model.ModuleTypeExpr.bare
        = (some t').map Model.ModuleTypeExpr.bare := by
      rw [Option.map_some, Option.map_some, ht]
    apply Agree.bind (Agree.pure htype)
    intro declType declType' hdecl
    apply Agree.bind (readCanonical_agree doc doc')
    intro canonical canonical' _
    apply Following.cons_agree _ (documentItems_bare scope parent false items)
    rw [Model.bare_moduleType, Model.bare_moduleType, hdecl]
  | scope, parent, _, .moduleType x ⟨none, attributes, loc⟩ :: items => by
    rw [bareItems, SignatureItem.bare, documentItems, documentItems]
    apply Agree.bind (readDoc_agree config config' _ attributes [])
    intro doc doc' _
    apply Agree.bind_right
    intro declType
    apply Agree.bind (readCanonical_agree doc doc')
    intro canonical canonical' _
    apply Following.cons_agree _ (documentItems_bare scope parent false items)
    rw [Model.bare_moduleType, Model.bare_moduleType]
  | scope, parent, _, .class x d status :: items => by
    rw [bareItems, SignatureItem.bare, documentItems, documentItems]
    apply Agree.bind (d.document_bare config config' scope parent x)
    intro c c' hc
    apply Following.cons_agree _ (documentItems_bare scope parent false items)
    rw [Model.Item.bare, Model.Item.bare, hc]
  | scope, parent, _, .classType x d status :: items => by
    rw [bareItems, SignatureItem.bare, documentItems, documentItems]
    apply Agree.bind (d.document_bare config config' scope parent x)
    intro c c' hc
    apply Following.cons_agree _ (documentItems_bare scope parent false items)
    rw [Model.Item.bare, Model.Item.bare, hc]

end

/-- A compiled signature agrees with its bare form up to documentation. -/
theorem Signature.document_bare (scope : Scope) (parent : Identifier) (items : Signature) :
  (Signature.document config scope parent items).Agree Model.Signature.bare
    (Signature.document config' scope parent (bareItems items))
  := by
  unfold Signature.document
  rw [Scope.bindCompiled_bare]
  apply Agree.tell
  apply Agree.bind (documentItems_bare config config' _ parent false items)
  intro f f' hf
  apply Agree.pure
  have hitems : Model.bareItems f.items = Model.bareItems f'.items :=
    congrArg Following.items hf
  rw [Model.bare_ofItems, Model.bare_ofItems, hitems]

end Compiled

namespace Written

/-! ### Written signatures -/

/-- Comments in front of an item do not matter. -/
theorem documentCommented_agree {item item' : Reading Model.Item}
    (attributes : List Attribute) (h : item.Agree Model.Item.bare item') :
  (documentCommented config attributes item).Agree Model.bareItems
    (documentCommented config' [] item')
  := by
  apply Agree.bind (readComments_agree config config' attributes [])
  intro comments comments' _
  apply Agree.bind h
  intro i i' hi
  apply Agree.pure
  rw [Model.bareItems_append, Model.bareItems_append, Model.bareItems_comments,
    Model.bareItems_comments, Model.bareItems_singleton, Model.bareItems_singleton, hi]

/-- The members of a group agree with their bare forms if each of them does. -/
theorem documentGroup_agree {α : Type} {attributes : α → List Attribute} {bare : α → α}
    {document document' : Model.RecFlag → α → Reading Model.Item}
    (hattributes : ∀ d, attributes (bare d) = [])
    (h : ∀ flag d, (document flag d).Agree Model.Item.bare (document' flag (bare d)))
    (ds : List α) (flag : Model.RecFlag) :
  (documentGroup config attributes document flag ds).Agree Model.bareItems
    (documentGroup config' attributes document' flag (ds.map bare))
  := by
  induction ds generalizing flag with
  | nil => apply Agree.refl
  | cons d ds ih =>
    rw [List.map_cons, documentGroup, documentGroup, hattributes]
    apply Agree.bind (documentCommented_agree config config' (attributes d) (h flag d))
    intro items items' hitems
    apply Agree.bind (ih .subsequent)
    intro rest rest' hrest
    apply Agree.pure
    rw [Model.bareItems_append, Model.bareItems_append, hitems, hrest]

section

variable (scope : Scope) (parent : Identifier)

/-- The items of a type and of its bare form agree up to documentation. -/
theorem TypeDeclaration.documentItem_bare (flag : Model.RecFlag) (d : TypeDeclaration) :
  (d.documentItem config scope parent flag).Agree Model.Item.bare
    (d.bare.documentItem config' scope parent flag)
  := by
  apply Agree.bind (d.document_bare config config' scope parent)
  intro decl decl' hdecl
  apply Agree.pure
  rw [Model.Item.bare, Model.Item.bare, hdecl]

/-- The items of a local name of a type and of its bare form agree up to documentation. -/
theorem TypeDeclaration.documentSubstitution_bare (flag : Model.RecFlag)
    (d : TypeDeclaration) :
  (d.documentSubstitution config scope parent flag).Agree Model.Item.bare
    (d.bare.documentSubstitution config' scope parent flag)
  := by
  apply Agree.bind (d.document_bare config config' scope parent)
  intro decl decl' hdecl
  apply Agree.pure
  rw [Model.Item.bare, Model.Item.bare, hdecl]

theorem ClassDeclaration.documentItem_bare (flag : Model.RecFlag) (d : ClassDeclaration) :
  (d.documentItem config scope parent flag).Agree Model.Item.bare
    (d.bare.documentItem config' scope parent flag)
  := by
  apply Agree.bind (d.document_bare config config' scope parent)
  intro c c' hc
  apply Agree.pure
  rw [Model.Item.bare, Model.Item.bare, hc]

theorem ClassDeclaration.documentClassTypeItem_bare (flag : Model.RecFlag)
    (d : ClassDeclaration) :
  (d.documentClassTypeItem config scope parent flag).Agree Model.Item.bare
    (d.bare.documentClassTypeItem config' scope parent flag)
  := by
  apply Agree.bind (d.documentClassType_bare config config' scope parent)
  intro c c' hc
  apply Agree.pure
  rw [Model.Item.bare, Model.Item.bare, hc]

/-- The items of a local name of a module and of its bare form agree up to documentation. -/
theorem ModuleSubstitution.document_bare (d : ModuleSubstitution) :
  (d.document scope config parent).Agree Model.Item.bare
    (d.bare.document scope config' parent)
  := by
  apply Agree.bind (readDoc_agree config config' _ _ _)
  intro doc doc' _
  apply Agree.bind_right
  intro r
  apply Agree.pure
  rfl

/-- A bare type has the same head. -/
theorem documentHead_bare (type : CoreType) :
  documentHead scope type.bare = documentHead scope type
  := by
  cases type <;> rfl

/-- A clause and its bare form agree up to documentation. -/
theorem WithClause.document_bare (subject : Subject) (c : WithClause) :
  (c.document config scope subject).Agree Model.Substitution.bare
    (c.bare.document config' scope subject)
  := by
  rcases c with ⟨name, constraint⟩
  cases constraint with
  | typeEq d =>
    apply Agree.bind (d.documentEquation_bare config config' scope)
    intro e e' he
    apply Agree.pure
    rw [Model.Substitution.bare, Model.Substitution.bare, he]
    rfl
  | moduleEq p => apply Agree.refl
  | typeSubst d =>
    cases hmanifest : d.manifest with
    | none =>
      simp only [bare, WithConstraint.bare, document, TypeDeclaration.bare, hmanifest,
        Option.map_none]
      apply Agree.refl
    | some manifest =>
      have hbare : d.bare.manifest = some manifest.bare := by
        rw [TypeDeclaration.bare, hmanifest, Option.map_some]
      simp only [bare, WithConstraint.bare, document, hbare, hmanifest,
        documentHead_bare scope manifest]
      apply Agree.bind_right
      intro head
      apply Agree.bind (d.documentEquation_bare config config' scope)
      intro e e' he
      apply Agree.pure
      rw [Model.Substitution.bare, Model.Substitution.bare, he]
  | moduleSubst p => apply Agree.refl

/-- A module expression and its bare form agree up to documentation. -/
theorem ModuleExpr.document_bare (expr : ModuleExpr) :
  (expr.document config scope parent).Agree Model.ModuleDeclType.bare
    (expr.bare.document config' scope parent)
  := by
  have hcomputed := expr.info.type.document_bare config config' scope parent
  cases expr with
  | path info p => apply Agree.refl
  | _ =>
    apply Agree.bind hcomputed
    intro t t' ht
    apply Agree.pure
    rw [Model.ModuleDeclType.bare, Model.ModuleDeclType.bare, ht]

theorem outcome_documentItems_singleton (item : SignatureItem) :
  (documentItems config scope parent [item]).outcome
    = (item.document config scope parent).outcome
  := by
  rw [documentItems, documentItems, Reading.outcome_bind]
  rcases (item.document config scope parent).outcome with e | items
  · rfl
  · apply congrArg Except.ok (List.append_nil items)

/-- Items are documented in front of those that follow them. -/
theorem outcome_documentItems_append (items others : List SignatureItem) :
  (documentItems config scope parent (items ++ others)).outcome
    = (do
        let documented ← documentItems config scope parent items
        return documented ++ (← documentItems config scope parent others)).outcome
  := by
  induction items with
  | nil =>
    simp only [List.nil_append, documentItems, Reading.outcome_bind, Reading.outcome_pure]
    rcases (documentItems config scope parent others).outcome with e | rest <;> rfl
  | cons item items ih =>
    simp only [List.cons_append, documentItems, Reading.outcome_bind, Reading.outcome_pure, ih]
    rcases (item.document config scope parent).outcome with e | first
    · rfl
    rcases (documentItems config scope parent items).outcome with e | second
    · rfl
    rcases (documentItems config scope parent others).outcome with e | third
    · rfl
    apply congrArg Except.ok (List.append_assoc first second third).symm

/-- Items agree with a list of items if they agree with the parts of that list. -/
theorem append_agree {first rest : Reading (List Model.Item)} {items others : List SignatureItem}
    (hfirst : first.Agree Model.bareItems (documentItems config scope parent items))
    (hrest : rest.Agree Model.bareItems (documentItems config scope parent others)) :
  Agree Model.bareItems (do return (← first) ++ (← rest))
    (documentItems config scope parent (items ++ others))
  := by
  unfold Agree
  rw [outcome_documentItems_append]
  apply Agree.bind hfirst
  intro a a' ha
  apply Agree.bind hrest
  intro b b' hb
  apply Agree.pure
  rw [Model.bareItems_append, Model.bareItems_append, ha, hb]

/-- Items agree with a single item if they agree with its records. -/
theorem singleton_agree {documented : Reading (List Model.Item)} {item : SignatureItem}
    (h : documented.Agree Model.bareItems (item.document config scope parent)) :
  documented.Agree Model.bareItems (documentItems config scope parent [item])
  := by
  unfold Agree
  rw [outcome_documentItems_singleton]
  apply h

end

mutual

/-- A module type agrees with its bare form up to documentation. -/
theorem ModuleType.document_bare :
  ∀ (scope : Scope) (owner : Identifier) (type : ModuleType),
    (type.document config scope owner).Agree Model.ModuleTypeExpr.bare
      (type.bare.document config' scope owner)
  | _, _, .path _ p => by
    rw [ModuleType.bare, ModuleType.document, ModuleType.document]
    apply Agree.refl
  | scope, owner, .signature _ items => by
    rw [ModuleType.bare, ModuleType.document, ModuleType.document, Scope.bindWritten_bare]
    apply Agree.tell
    apply Agree.bind (documentItems_bare _ owner items)
    intro is is' his
    apply Agree.pure
    rw [Model.bare_signature, Model.bare_signature, Model.bare_ofItems, Model.bare_ofItems,
      his]
  | scope, owner, .functor _ .unit result => by
    rw [ModuleType.bare, ModuleType.document, ModuleType.document]
    apply Agree.bind (result.document_bare scope owner)
    intro r r' hr
    apply Agree.pure
    rw [Model.ModuleTypeExpr.bare, Model.ModuleTypeExpr.bare, hr]
  | scope, owner, .functor _ (.named x arg) result => by
    rw [ModuleType.bare, ModuleType.document, ModuleType.document, Scope.writtenShape_bare,
      ModuleType.isSignature_bare]
    apply Agree.tell
    apply Agree.bind (arg.document_bare scope _)
    intro a a' ha
    apply Agree.bind (result.document_bare _ owner)
    intro r r' hr
    apply Agree.pure
    rw [Model.ModuleTypeExpr.bare, Model.ModuleTypeExpr.bare, ha, hr]
  | scope, owner, .constrained _ body clauses => by
    rw [ModuleType.bare, ModuleType.document, ModuleType.document, Scope.subjectOf_bare]
    apply Agree.bind (body.document_bare scope owner)
    intro t t' ht
    apply Agree.bind (Agree.each (WithClause.document_bare config config' scope _) clauses)
    intro ss ss' hss
    apply Agree.pure
    rw [Model.ModuleTypeExpr.bare, Model.ModuleTypeExpr.bare, ht, hss]
  | scope, owner, .typeOf _ expr => by
    rw [ModuleType.bare, ModuleType.document, ModuleType.document]
    apply Agree.bind (expr.document_bare config config' scope owner)
    intro t t' ht
    apply Agree.pure
    rw [Model.ModuleTypeExpr.bare, Model.ModuleTypeExpr.bare, ht]
  | _, _, .alias _ p => by
    rw [ModuleType.bare, ModuleType.document, ModuleType.document]
    apply Agree.refl

/-- The items of a signature agree with their bare forms up to documentation. -/
theorem documentItems_bare :
  ∀ (scope : Scope) (parent : Identifier) (items : List SignatureItem),
    (documentItems config scope parent items).Agree Model.bareItems
      (documentItems config' scope parent (bareItems items))
  | _, _, [] => by
    rw [bareItems, documentItems, documentItems]
    apply Agree.refl
  | scope, parent, item :: items => by
    rw [bareItems, documentItems]
    apply append_agree config' scope parent (item.document_bare scope parent)
      (documentItems_bare scope parent items)

/-- An item agrees with its bare form up to documentation. -/
theorem SignatureItem.document_bare :
  ∀ (scope : Scope) (parent : Identifier) (item : SignatureItem),
    (item.document config scope parent).Agree Model.bareItems
      (documentItems config' scope parent item.bare)
  | scope, parent, .value _ d => by
    apply singleton_agree
    rw [SignatureItem.document, SignatureItem.document]
    apply documentCommented_agree config config' d.attributes
      (d.document_bare config config' scope parent)
  | scope, parent, .type _ flag ds => by
    apply singleton_agree
    rw [SignatureItem.document, SignatureItem.document]
    apply documentGroup_agree config config' (fun _ => rfl)
      (TypeDeclaration.documentItem_bare config config' scope parent) ds (firstFlag flag)
  | scope, parent, .typeSubst _ ds => by
    apply singleton_agree
    rw [SignatureItem.document, SignatureItem.document]
    apply documentGroup_agree config config' (fun _ => rfl)
      (TypeDeclaration.documentSubstitution_bare config config' scope parent) ds .ordinary
  | scope, parent, .extension _ d => by
    apply singleton_agree
    rw [SignatureItem.document, SignatureItem.document]
    apply documentCommented_agree config config' d.attributes
    apply Agree.bind (d.document_bare config config' scope parent)
    intro e e' he
    apply Agree.pure
    rw [Model.Item.bare, Model.Item.bare, he]
  | scope, parent, .exception _ d => by
    apply singleton_agree
    rw [SignatureItem.document, SignatureItem.document]
    apply documentCommented_agree config config' d.attributes
    apply Agree.bind (d.document_bare config config' scope _)
    intro c c' hc
    apply Agree.pure
    rw [Model.Item.bare, Model.Item.bare, hc]
  | scope, parent, .module _ d => by
    apply singleton_agree
    rw [SignatureItem.document, SignatureItem.document]
    apply d.document_bare scope parent .ordinary
  | scope, parent, .moduleSubst _ d => by
    apply singleton_agree
    rw [SignatureItem.document, SignatureItem.document]
    apply documentCommented_agree config config' d.attributes
      (d.document_bare config config' scope parent)
  | scope, parent, .recModule _ ds => by
    apply singleton_agree
    rw [SignatureItem.document, SignatureItem.document]
    apply documentModules_bare scope parent .ordinary ds
  | scope, parent, .moduleType _ ⟨x, some type, attributes, loc⟩ => by
    apply singleton_agree
    rw [SignatureItem.document, SignatureItem.document, Option.any_some, Option.any_some,
      ModuleType.isSignature_bare]
    apply documentCommented_agree config config' attributes
    apply Agree.tell
    apply Agree.bind (readDoc_agree config config' _ attributes [])
    intro doc doc' _
    apply Agree.bind (type.document_bare scope _)
    intro t t' ht
    have htype : (some t).map Model.ModuleTypeExpr.bare
        = (some t').map Model.ModuleTypeExpr.bare := by
      rw [Option.map_some, Option.map_some, ht]
    apply Agree.bind (Agree.pure htype)
    intro declType declType' hdecl
    apply Agree.bind (readCanonical_agree doc doc')
    intro canonical canonical' _
    apply Agree.pure
    rw [Model.bare_moduleType, Model.bare_moduleType, hdecl]
  | scope, parent, .moduleType _ ⟨x, none, attributes, loc⟩ => by
    apply singleton_agree
    rw [SignatureItem.document, SignatureItem.document]
    apply documentCommented_agree config config' attributes
    apply Agree.tell
    apply Agree.bind (readDoc_agree config config' _ attributes [])
    intro doc doc' _
    apply Agree.bind_right
    intro declType
    apply Agree.bind (readCanonical_agree doc doc')
    intro canonical canonical' _
    apply Agree.pure
    rw [Model.bare_moduleType, Model.bare_moduleType]
  | scope, parent, .opened _ _ => by
    apply singleton_agree
    rw [SignatureItem.document, SignatureItem.document]
    apply Agree.refl
  | scope, parent, .included _ ⟨type, content, loc, attributes⟩ => by
    apply singleton_agree
    rw [SignatureItem.document, SignatureItem.document]
    apply documentCommented_agree config config' attributes
    apply Agree.bind (readDoc_agree config config' parent attributes [])
    intro doc doc' _
    apply Agree.bind (type.document_bare scope parent)
    intro t t' ht
    apply Agree.bind (Compiled.Signature.document_bare config config' scope parent content)
    intro s s' hs
    apply Agree.tell
    apply Agree.pure
    rw [Model.bare_included, Model.bare_included, ht, hs]
  | scope, parent, .class _ ds => by
    apply singleton_agree
    rw [SignatureItem.document, SignatureItem.document]
    apply documentGroup_agree config config' (fun _ => rfl)
      (ClassDeclaration.documentItem_bare config config' scope parent) ds .ordinary
  | scope, parent, .classType _ ds => by
    apply singleton_agree
    rw [SignatureItem.document, SignatureItem.document]
    apply documentGroup_agree config config' (fun _ => rfl)
      (ClassDeclaration.documentClassTypeItem_bare config config' scope parent) ds .ordinary
  | scope, parent, .floating _ a => by
    rw [SignatureItem.document, SignatureItem.bare, documentItems]
    apply Agree.skip (Load.outcome_readComments config [a])
    apply Agree.pure
    rw [Model.bareItems_comments, Model.bareItems]

/-- The members of a group of modules agree with their bare forms up to documentation. -/
theorem documentModules_bare :
  ∀ (scope : Scope) (parent : Identifier) (flag : Model.RecFlag) (ds : List ModuleDeclaration),
    (documentModules config scope parent flag ds).Agree Model.bareItems
      (documentModules config' scope parent flag (bareModules ds))
  | _, _, _, [] => by
    rw [bareModules, documentModules, documentModules]
    apply Agree.refl
  | scope, parent, flag, d :: ds => by
    rw [bareModules, documentModules, documentModules]
    apply Agree.bind (d.document_bare scope parent flag)
    intro items items' hitems
    apply Agree.bind (documentModules_bare scope parent .subsequent ds)
    intro rest rest' hrest
    apply Agree.pure
    rw [Model.bareItems_append, Model.bareItems_append, hitems, hrest]

/-- A module agrees with its bare form up to documentation. -/
theorem ModuleDeclaration.document_bare :
  ∀ (scope : Scope) (parent : Identifier) (flag : Model.RecFlag) (d : ModuleDeclaration),
    (d.document config scope parent flag).Agree Model.bareItems
      (d.bare.document config' scope parent flag)
  | scope, parent, flag, ⟨x, type, attributes, loc⟩ => by
    rw [ModuleDeclaration.bare, ModuleDeclaration.document, ModuleDeclaration.document,
      ModuleType.isSignature_bare, ModuleType.alias?_bare]
    apply documentCommented_agree config config' attributes
    apply Agree.tell
    apply Agree.bind (readDoc_agree config config' _ attributes [])
    intro doc doc' _
    apply Agree.bind (readCanonical_agree doc doc')
    intro canonical canonical' _
    cases type.alias? with
    | some p =>
      apply Agree.bind_right
      intro r
      apply Agree.bind_right
      intro declType
      apply Agree.pure
      rfl
    | none =>
      apply Agree.bind (type.document_bare scope _)
      intro t t' ht
      have htype : (Model.ModuleDeclType.moduleType t).bare
          = (Model.ModuleDeclType.moduleType t').bare := by
        rw [Model.ModuleDeclType.bare, Model.ModuleDeclType.bare, ht]
      apply Agree.bind (Agree.pure htype)
      intro declType declType' hdecl
      apply Agree.pure
      rw [Model.Item.bare, Model.Item.bare, hdecl]

end

/-- A signature agrees with its bare form up to documentation. -/
theorem Signature.document_bare (scope : Scope) (parent : Identifier) (items : Signature) :
  (Signature.document config scope parent items).Agree Model.Signature.bare
    (Signature.document config' scope parent items.bare)
  := by
  unfold Signature.document
  rw [Signature.bare, Scope.bindWritten_bare]
  apply Agree.tell
  apply Agree.bind (documentItems_bare config config' _ parent items)
  intro is is' his
  apply Agree.pure
  rw [Model.bare_ofItems, Model.bare_ofItems, his]

end Written

/-! ### Interfaces -/

/-- Loading a signature agrees with loading its bare form up to documentation. -/
theorem Model.Interface.load_bare (container unit : String) (signature : Written.Signature) :
  (load config container unit signature).Agree bare
    (load config' container unit signature.bare)
  := by
  apply Agree.tell
  apply Agree.bind (signature.document_bare config config' .empty (.root container unit))
  intro s s' hs
  apply Agree.pure
  have hitems : bareItems s.items = bareItems s'.items := congrArg Signature.items hs
  rw [bare, bare, hitems]

/-- Signatures that differ in their attributes alone load alike under any configurations: both
fail with the same error, or both give interfaces that differ in their documentation alone. -/
theorem load_agree_of_bare_eq (container unit : String)
    {signature signature' : Written.Signature} (h : signature.bare = signature'.bare) :
  (∃ e, (Model.Interface.load config container unit signature).outcome = .error e ∧
      (Model.Interface.load config' container unit signature').outcome = .error e) ∨
    ∃ interface interface',
      (Model.Interface.load config container unit signature).outcome = .ok interface ∧
        (Model.Interface.load config' container unit signature').outcome = .ok interface' ∧
          interface.bare = interface'.bare
  := by
  apply Reading.agree_iff.mp
  have hleft := Model.Interface.load_bare config config' container unit signature
  have hright := Model.Interface.load_bare config' config' container unit signature'
  rw [h] at hleft
  apply hleft.trans hright.symm

/-- A signature with a module and a class that carry the attributes `docs` and bodies that begin
with the floating attributes `texts`, as the signature itself does. -/
def commentedSample (docs texts : List Attribute) : Written.Signature :=
  let info : Written.NodeInfo := ⟨.none, docs⟩
  let type : Written.SignatureItem :=
    .type .none .recursive [⟨⟨"t", 2, 0⟩, [], [], .abstract, .publicly, none, .none, docs⟩]
  texts.map (.floating .none) ++
    [.module .none ⟨⟨"M__impl", 1, 0⟩,
        .signature info (texts.map (.floating .none) ++ [type]), docs, .none⟩,
      .class .none [⟨.concrete, [], ⟨"c", 3, 0⟩, ⟨"c", 4, 0⟩, ⟨"c", 5, 0⟩,
        .signature info (.any info) (texts.map (.floating info) ++
          [.method info "m" .publicly .concrete
            (.constr info (.dot (.ident ⟨"M__impl", 1, 0⟩) "t") [])]), .none, docs⟩]]

/-- Documentation, of which the text is not well formed, against none, and two configurations. -/
theorem commentedSample_agree :
  let docs : List Attribute := [⟨⟨"doc", .none⟩, .str "@canonical Base.M", .none⟩]
  let texts : List Attribute := [⟨⟨"text", .none⟩, .str "\x7bb open", .none⟩]
  (commentedSample docs texts).bare = (commentedSample [] []).bare ∧
    ∃ interface interface',
      (Model.Interface.load .standard "pkg" "Unit" (commentedSample docs texts)).outcome
          = .ok interface ∧
        (Model.Interface.load ⟨"", [], [], false⟩ "pkg" "Unit" (commentedSample [] [])).outcome
            = .ok interface' ∧
          interface.bare = interface'.bare
  := by
  intro docs texts
  have hbare : (commentedSample docs texts).bare = (commentedSample [] []).bare := rfl
  use hbare
  rcases load_agree_of_bare_eq .standard ⟨"", [], [], false⟩ "pkg" "Unit" hbare with
    ⟨e, -, hfail⟩ | hload
  · cases hfail
  · apply hload

end InterfaceDocs
