import InterfaceDocs.Proofs.Backed.Inline
import InterfaceDocs.Proofs.Backed.Scope
import InterfaceDocs.Proofs.Identity
import InterfaceDocs.Proofs.Model.Declared

/-!
# Binding what is documented

If an inline signature is documented, and all that its documentation declares is in a list,
then binding the signature keeps scopes backed by the list.  The scope in which the signature
is bound need not be the one in which it is documented.
-/

namespace InterfaceDocs

open Model

variable {ids : List Identifier} {config : Config}

namespace Compiled

mutual

/-- The shape of an inline module type is backed by what its documentation declares. -/
theorem ModuleType.compiledShape_backed :
  ∀ {type : ModuleType} {scope outer : Scope} {owner : Identifier} {out : ModuleTypeExpr},
    scope.Backed ids → type.isInline false →
      (type.document config outer owner).outcome = .ok out → out.declared true ⊆ ids →
        (scope.compiledShape owner type).Backed ids owner
  | .signature items, _, _, _, _, hscope, hinline, hdoc, hids => by
    simp [ModuleType.document] at hdoc
    obtain ⟨following, hitems, rfl⟩ := hdoc
    simp at hids
    apply Bound.Backed.shape
    apply bindCompiledItems_backed ⟨hscope, by simp⟩ hinline hitems hids
  | .functor _ _ _, _, _, _, _, _, _, _, _ => Shape.Backed.unknown

/-- Binding inline items keeps scopes and members backed by what their documentation
declares. -/
theorem bindCompiledItems_backed :
  ∀ {items : List SignatureItem} {outer : Scope} {parent : Identifier} {continues : Bool}
    {b : Bound} {following : Following},
    b.Backed ids parent → inlineItems items →
      (documentItems config outer parent continues items).outcome = .ok following →
        declaredItems true following.items ⊆ ids →
          (Scope.bindCompiledItems parent b items).Backed ids parent
  | [], _, _, _, _, _, hb, _, _, _ => hb
  | .value x d :: items, _, _, _, _, _, hb, hinline, hdoc, hids => by
    simp [documentItems] at hdoc
    obtain ⟨_, -, rest, hrest, rfl⟩ := hdoc
    simp [Following.cons, declaredItems] at hids
    simp only [inlineItems, Bool.and_eq_true] at hinline
    rw [Scope.bindCompiledItems]
    apply bindCompiledItems_backed hb hinline.2 hrest hids.2
  | .type x d status :: items, _, _, _, _, _, hb, hinline, hdoc, hids => by
    simp [documentItems] at hdoc
    obtain ⟨decl, hdecl, rest, hrest, rfl⟩ := hdoc
    simp [Following.cons, declaredItems, Item.declared, TypeDecl.declared,
      TypeDeclaration.document_id hdecl] at hids
    obtain ⟨hid, -, hids⟩ := hids
    simp only [inlineItems, Bool.and_eq_true] at hinline
    rw [Scope.bindCompiledItems]
    exact bindCompiledItems_backed (hb.declare hid .unknown) hinline.2 hrest hids
  | .extension x d status :: items, _, _, continues, _, _, hb, hinline, hdoc, hids => by
    simp only [inlineItems, Bool.and_eq_true] at hinline
    rw [Scope.bindCompiledItems]
    by_cases hexception : status = .exception
    · subst hexception
      simp [documentItems] at hdoc
      obtain ⟨_, -, rest, hrest, rfl⟩ := hdoc
      simp [Following.cons, declaredItems] at hids
      apply bindCompiledItems_backed hb hinline.2 hrest hids.2
    · simp [documentItems] at hdoc
      obtain ⟨_, -, hdoc⟩ := hdoc
      split at hdoc
      · simp at hdoc
        obtain ⟨rest, hrest, rfl⟩ := hdoc
        apply bindCompiledItems_backed hb hinline.2 hrest hids
      · simp at hdoc
        obtain ⟨_, -, rest, hrest, rfl⟩ := hdoc
        simp [Following.cons, declaredItems] at hids
        apply bindCompiledItems_backed hb hinline.2 hrest hids.2
  | .module x ⟨type, attributes, loc⟩ status :: items, _, parent, _, _, _, hb, hinline, hdoc,
      hids => by
    obtain ⟨declType, canonical, hidden, expanded, rest, hrest, rfl, -, htype⟩ :=
      documentItems_module hdoc
    simp [Following.cons, declaredItems, Item.declared] at hids
    obtain ⟨hid, hout', hids⟩ := hids
    simp only [inlineItems, SignatureItem.isInline, Bool.and_eq_true, Bool.or_eq_true]
      at hinline
    rw [Scope.bindCompiledItems, Scope.bindCompiledItem]
    rcases htype with ⟨p, r, rfl, -, -⟩ | ⟨halias, out, hout, rfl⟩
    · have hshape := hb.scope.aliasShape p (parent.child .module x.name)
      exact bindCompiledItems_backed (hb.declare hid hshape) hinline.2 hrest hids
    · simp [halias] at hinline
      have hshape := ModuleType.compiledShape_backed hb.scope hinline.1 hout hout'
      exact bindCompiledItems_backed (hb.declare hid hshape) hinline.2 hrest hids
  | .moduleType x ⟨some type, attributes, loc⟩ :: items, _, _, _, _, _, hb, hinline, hdoc,
      hids => by
    simp [documentItems] at hdoc
    obtain ⟨out, hout, rest, hrest, rfl⟩ := hdoc
    simp [Following.cons, declaredItems, Item.declared] at hids
    simp only [inlineItems, SignatureItem.isInline, Bool.and_eq_true] at hinline
    rw [Scope.bindCompiledItems, Scope.bindCompiledItem]
    obtain ⟨hid, hout', hids⟩ := hids
    have hshape := ModuleType.compiledShape_backed hb.scope hinline.1 hout hout'
    exact bindCompiledItems_backed (hb.declare hid hshape) hinline.2 hrest hids
  | .moduleType x ⟨none, attributes, loc⟩ :: items, _, _, _, _, _, hb, hinline, hdoc,
      hids => by
    simp [documentItems] at hdoc
    obtain ⟨rest, hrest, rfl⟩ := hdoc
    simp [Following.cons, declaredItems, Item.declared] at hids
    simp only [inlineItems, Bool.and_eq_true] at hinline
    rw [Scope.bindCompiledItems, Scope.bindCompiledItem]
    exact bindCompiledItems_backed (hb.declare hids.1 .unknown) hinline.2 hrest hids.2
  | .class x d status :: items, _, _, _, _, _, hb, hinline, hdoc, hids => by
    simp [documentItems] at hdoc
    obtain ⟨decl, hdecl, rest, hrest, rfl⟩ := hdoc
    simp [Following.cons, declaredItems, Item.declared, Class.declared,
      ClassDeclaration.document_id hdecl] at hids
    obtain ⟨hid, -, hids⟩ := hids
    simp only [inlineItems, Bool.and_eq_true] at hinline
    rw [Scope.bindCompiledItems]
    exact bindCompiledItems_backed (hb.declare hid .unknown) hinline.2 hrest hids
  | .classType x d status :: items, _, _, _, _, _, hb, hinline, hdoc, hids => by
    simp [documentItems] at hdoc
    obtain ⟨decl, hdecl, rest, hrest, rfl⟩ := hdoc
    simp [Following.cons, declaredItems, Item.declared, Model.ClassType.declared,
      ClassTypeDeclaration.document_id hdecl] at hids
    obtain ⟨hid, -, hids⟩ := hids
    simp only [inlineItems, Bool.and_eq_true] at hinline
    rw [Scope.bindCompiledItems]
    exact bindCompiledItems_backed (hb.declare hid .unknown) hinline.2 hrest hids

end

end Compiled

namespace Written

/-- If the members of a group are documented as items that declare their identifiers, then
binding them one after the other keeps scopes backed. -/
theorem documentGroup_backed {α : Type} {attributes : α → List Attribute}
    {document : Model.RecFlag → α → Reading Item} {bind : Bound → α → Bound}
    {parent : Identifier}
    (hbind : ∀ (b : Bound) (flag : Model.RecFlag) (d : α) (item : Item),
      b.Backed ids parent → (document flag d).outcome = .ok item → item.declared true ⊆ ids →
        (bind b d).Backed ids parent) :
  ∀ {ds : List α} {flag : Model.RecFlag} {b : Bound} {items : List Item}, b.Backed ids parent →
    (documentGroup config attributes document flag ds).outcome = .ok items →
      declaredItems true items ⊆ ids → (ds.foldl bind b).Backed ids parent
  | [], _, _, _, hb, _, _ => hb
  | d :: ds, flag, b, _, hb, hdoc, hids => by
    simp [documentGroup, documentCommented] at hdoc
    obtain ⟨item, hitem, rest, hrest, rfl⟩ := hdoc
    simp [declaredItems_append, declaredItems] at hids
    rw [List.foldl_cons]
    apply documentGroup_backed hbind (hbind b flag d item hb hitem hids.1) hrest hids.2

/-- Binding a group of modules of which nothing is known keeps scopes backed. -/
theorem bindGroup_backed {parent : Identifier} :
  ∀ {ds : List ModuleDeclaration} {scope : Scope}, scope.Backed ids →
    (∀ d ∈ ds, parent.child .module d.ident.name ∈ ids) →
      (Scope.bindGroup parent scope ds).Backed ids
  | [], _, h, _ => h
  | d :: ds, _, h, hids => by
    have hd := hids d List.mem_cons_self
    apply bindGroup_backed (h.add d.ident hd .unknown)
    intro e he
    apply hids e (List.mem_cons_of_mem d he)

theorem documentModules_ids {scope : Scope} {parent : Identifier} :
  ∀ {ds : List ModuleDeclaration} {flag : Model.RecFlag} {items : List Item},
    (documentModules config scope parent flag ds).outcome = .ok items →
      declaredItems true items ⊆ ids → ∀ d ∈ ds, parent.child .module d.ident.name ∈ ids
  | [], _, _, _, _ => by simp
  | ⟨x, type, attributes, loc⟩ :: ds, _, _, hdoc, hids => by
    simp [documentModules] at hdoc
    obtain ⟨_, hmodule, rest, hrest, rfl⟩ := hdoc
    obtain ⟨_, _, _, _, _, rfl, -, -⟩ := ModuleDeclaration.document_eq_ok hmodule
    simp [declaredItems_append, declaredItems, Item.declared] at hids
    obtain ⟨hid, -, hids⟩ := hids
    intro d hd
    rcases List.mem_cons.mp hd with rfl | hd
    · apply hid
    · apply documentModules_ids hrest hids d hd

/-- The shape of an inline operand of `module type of` is backed. -/
theorem ModuleExpr.compiledShape_backed {expr : ModuleExpr} {scope outer : Scope}
    {owner : Identifier} {out : ModuleDeclType} (hscope : scope.Backed ids)
    (hinline : expr.isInline false) (hdoc : (expr.document config outer owner).outcome = .ok out)
    (hids : out.declared true ⊆ ids) :
  (scope.compiledShape owner expr.info.type).Backed ids owner
  := by
  unfold ModuleExpr.document at hdoc
  split at hdoc
  · simp [ModuleExpr.isInline] at hinline
  · rename_i hpath
    simp at hdoc
    obtain ⟨type, htype, rfl⟩ := hdoc
    apply Compiled.ModuleType.compiledShape_backed hscope _ htype hids
    unfold ModuleExpr.isInline at hinline
    split at hinline
    · cases hinline
    · apply hinline

mutual

/-- The shape of an inline module type is backed by what its documentation declares. -/
theorem ModuleType.writtenShape_backed :
  ∀ {type : ModuleType} {scope outer : Scope} {owner : Identifier} {out : ModuleTypeExpr},
    scope.Backed ids → type.isInline false →
      (type.document config outer owner).outcome = .ok out → out.declared true ⊆ ids →
        (scope.writtenShape owner type).Backed ids owner
  | .signature _ items, _, _, _, _, hscope, hinline, hdoc, hids => by
    simp [ModuleType.document] at hdoc
    obtain ⟨documented, hitems, rfl⟩ := hdoc
    simp at hids
    apply Bound.Backed.shape
    apply bindWrittenItems_backed ⟨hscope, by simp⟩ hinline hitems hids
  | .functor _ _ _, _, _, _, _, _, _, _, _ => Shape.Backed.unknown
  | .constrained _ body clauses, _, _, _, _, hscope, hinline, hdoc, hids => by
    simp [ModuleType.document] at hdoc
    obtain ⟨type, htype, _, -, rfl⟩ := hdoc
    apply Shape.Backed.without
    exact ModuleType.writtenShape_backed hscope hinline htype hids
  | .typeOf _ expr, _, _, _, _, hscope, hinline, hdoc, hids => by
    simp [ModuleType.document] at hdoc
    obtain ⟨type, htype, rfl⟩ := hdoc
    apply ModuleExpr.compiledShape_backed hscope hinline htype hids

/-- Binding inline items keeps scopes and members backed by what their documentation
declares. -/
theorem bindWrittenItems_backed :
  ∀ {items : List SignatureItem} {outer : Scope} {parent : Identifier} {b : Bound}
    {documented : List Item},
    b.Backed ids parent → inlineItems items →
      (documentItems config outer parent items).outcome = .ok documented →
        declaredItems true documented ⊆ ids →
          (Scope.bindWrittenItems parent b items).Backed ids parent
  | [], _, _, _, _, hb, _, _, _ => hb
  | item :: items, _, _, _, _, hb, hinline, hdoc, hids => by
    simp [documentItems] at hdoc
    obtain ⟨head, hhead, rest, hrest, rfl⟩ := hdoc
    simp [declaredItems_append] at hids
    simp only [inlineItems, Bool.and_eq_true] at hinline
    rw [Scope.bindWrittenItems]
    have hitem := bindWrittenItem_backed hb hinline.1 hhead hids.1
    apply bindWrittenItems_backed hitem hinline.2 hrest hids.2

/-- Binding an inline item keeps scopes and members backed by what its documentation
declares. -/
theorem bindWrittenItem_backed :
  ∀ {item : SignatureItem} {outer : Scope} {parent : Identifier} {b : Bound}
    {documented : List Item},
    b.Backed ids parent → item.isInline →
      (item.document config outer parent).outcome = .ok documented →
        declaredItems true documented ⊆ ids →
          (Scope.bindWrittenItem parent b item).Backed ids parent
  | .value _ _, _, _, _, _, hb, _, _, _ => hb
  | .type _ _ ds, _, _, _, _, hb, _, hdoc, hids => by
    apply documentGroup_backed _ hb hdoc hids
    intro b flag d item hb hitem hids
    simp [TypeDeclaration.documentItem] at hitem
    obtain ⟨decl, hdecl, rfl⟩ := hitem
    simp [Item.declared, TypeDecl.declared, TypeDeclaration.document_id hdecl] at hids
    exact hb.declare hids.1 .unknown
  | .typeSubst _ ds, _, _, _, _, hb, _, hdoc, hids => by
    apply documentGroup_backed _ hb hdoc hids
    intro b flag d item hb hitem hids
    simp [TypeDeclaration.documentSubstitution] at hitem
    obtain ⟨decl, hdecl, rfl⟩ := hitem
    simp [Item.declared, TypeDecl.declared, TypeDeclaration.document_id hdecl] at hids
    apply hb.hide d.ident hids.1 .unknown
  | .extension _ _, _, _, _, _, hb, _, _, _ => hb
  | .exception _ _, _, _, _, _, hb, _, _, _ => hb
  | .module _ ⟨x, type, attributes, loc⟩, _, parent, b, _, hb, hinline, hdoc, hids => by
    rw [SignatureItem.document] at hdoc
    obtain ⟨_, declType, _, _, _, rfl, -, htype⟩ := ModuleDeclaration.document_eq_ok hdoc
    simp [declaredItems_append, declaredItems, Item.declared] at hids
    rw [Scope.bindWrittenItem]
    exact hb.declare hids.1 (moduleShape_backed hb.scope hinline htype hids.2)
  | .moduleSubst _ d, _, _, _, _, hb, _, hdoc, hids => by
    simp [SignatureItem.document, documentCommented, ModuleSubstitution.document] at hdoc
    obtain ⟨r, hr, rfl⟩ := hdoc
    simp [declaredItems_append, declaredItems, Item.declared] at hids
    apply hb.hide d.ident hids (hb.scope.aliasShape d.manifest _)
  | .recModule _ ds, _, _, _, _, hb, hinline, hdoc, hids => by
    have hgroup := bindGroup_backed hb.scope (documentModules_ids hdoc hids)
    apply bindWrittenModules_backed hgroup hb hinline hdoc hids
  | .moduleType _ ⟨x, some type, attributes, loc⟩, _, _, _, _, hb, hinline, hdoc, hids => by
    simp [SignatureItem.document, documentCommented] at hdoc
    obtain ⟨out, hout, rfl⟩ := hdoc
    simp [declaredItems_append, declaredItems, Item.declared] at hids
    exact hb.declare hids.1 (ModuleType.writtenShape_backed hb.scope hinline hout hids.2)
  | .moduleType _ ⟨x, none, attributes, loc⟩, _, _, _, _, hb, _, hdoc, hids => by
    simp [SignatureItem.document, documentCommented] at hdoc
    obtain rfl := hdoc
    simp [declaredItems_append, declaredItems, Item.declared] at hids
    exact hb.declare hids .unknown
  | .opened _ _, _, _, _, _, hb, _, _, _ => hb
  | .included _ ⟨type, content, loc, attributes⟩, _, _, b, _, hb, hinline, hdoc, hids => by
    simp [SignatureItem.document, documentCommented, Compiled.Signature.document] at hdoc
    obtain ⟨_, -, following, hfollowing, rfl⟩ := hdoc
    simp [declaredItems_append, declaredItems] at hids
    simp only [SignatureItem.isInline, Bool.and_eq_true] at hinline
    have hcontent := Compiled.bindCompiledItems_backed (b := ⟨b.scope, []⟩) ⟨hb.scope, by simp⟩
      hinline.2 hfollowing hids.2
    constructor
    · apply hcontent.scope
    · intro m hm
      rcases Member.mem_insertAll hm with hm | hm
      · apply hb.members m hm
      · apply hcontent.members m hm
  | .class _ ds, _, _, _, _, hb, _, hdoc, hids => by
    apply documentGroup_backed _ hb hdoc hids
    intro b flag d item hb hitem hids
    simp [ClassDeclaration.documentItem] at hitem
    obtain ⟨decl, hdecl, rfl⟩ := hitem
    simp [Item.declared, Class.declared, ClassDeclaration.document_id hdecl] at hids
    exact (hb.hideAll _ hids.1).expose hids.1 .unknown
  | .classType _ ds, _, _, _, _, hb, _, hdoc, hids => by
    apply documentGroup_backed _ hb hdoc hids
    intro b flag d item hb hitem hids
    simp [ClassDeclaration.documentClassTypeItem] at hitem
    obtain ⟨decl, hdecl, rfl⟩ := hitem
    simp [Item.declared, Model.ClassType.declared, ClassDeclaration.documentClassType_id hdecl]
      at hids
    exact (hb.hideAll _ hids.1).expose hids.1 .unknown
  | .floating _ _, _, _, _, _, hb, _, _, _ => hb

/-- Binding a group of inline modules keeps scopes and members backed. -/
theorem bindWrittenModules_backed :
  ∀ {ds : List ModuleDeclaration} {outer group : Scope} {parent : Identifier} {b : Bound}
    {flag : Model.RecFlag} {documented : List Item},
    group.Backed ids → b.Backed ids parent → inlineModules ds →
      (documentModules config outer parent flag ds).outcome = .ok documented →
        declaredItems true documented ⊆ ids →
          (Scope.bindWrittenModules parent group b ds).Backed ids parent
  | [], _, _, _, _, _, _, _, hb, _, _, _ => hb
  | ⟨x, type, attributes, loc⟩ :: ds, _, _, _, _, _, _, hgroup, hb, hinline, hdoc, hids => by
    simp [documentModules] at hdoc
    obtain ⟨_, hmodule, rest, hrest, rfl⟩ := hdoc
    obtain ⟨_, declType, _, _, _, rfl, -, htype⟩ := ModuleDeclaration.document_eq_ok hmodule
    simp [declaredItems_append, declaredItems, Item.declared] at hids
    obtain ⟨hid, hout, hids⟩ := hids
    simp only [inlineModules, Bool.and_eq_true] at hinline
    rw [Scope.bindWrittenModules]
    have hshape := moduleShape_backed hgroup hinline.1 htype hout
    exact bindWrittenModules_backed hgroup (hb.declare hid hshape) hinline.2 hrest hids

/-- The shape of the type of an inline module is backed by what its documentation declares. -/
theorem moduleShape_backed :
  ∀ {d : ModuleDeclaration} {scope outer : Scope} {id : Identifier} {declType : ModuleDeclType},
    scope.Backed ids → d.isInline →
      ((∃ info p r, d.type = .alias info p ∧ outer.resolve .module p = .ok r ∧
          declType = .alias r) ∨
        (d.type.alias? = none ∧ ∃ out,
          (d.type.document config outer id).outcome = .ok out ∧
            declType = .moduleType out)) →
      declType.declared true ⊆ ids → (scope.writtenShape id d.type).Backed ids id
  | ⟨x, type, attributes, loc⟩, _, _, id, _, hscope, hinline, htype, hids => by
    rcases htype with ⟨info, p, r, rfl, -, -⟩ | ⟨halias, out, hout, rfl⟩
    · apply hscope.aliasShape p id
    · simp [ModuleDeclaration.isInline, halias] at hinline
      apply ModuleType.writtenShape_backed hscope hinline hout hids

end

end Written

end InterfaceDocs
