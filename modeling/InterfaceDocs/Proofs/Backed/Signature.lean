import InterfaceDocs.Proofs.Backed.Binding
import InterfaceDocs.Proofs.Backed.Declaration

/-!
# No reference dangles

The references of a loaded interface point at declarations of the same interface
(`load_targets_subset_declared`), if its signature is inline.  Every scope of the load is
backed by what the finished interface declares: binding keeps it so, and a backed scope
resolves into what backs it.
-/

namespace InterfaceDocs

open Model

variable {ids : List Identifier} {config : Config}

namespace Compiled

mutual

/-- The documentation of an inline module type points into a list that backs the scope and
contains what the documentation declares. -/
theorem ModuleType.document_targets :
  ∀ {type : ModuleType} {operand : Bool} {scope : Scope} {owner : Identifier}
    {out : ModuleTypeExpr},
    scope.Backed ids → type.isInline operand →
      (type.document config scope owner).outcome = .ok out → out.declared true ⊆ ids →
        out.targets ⊆ ids
  | .path p, _, _, _, _, hscope, _, hdoc, _ => by
    simp [ModuleType.document] at hdoc
    obtain ⟨r, hr, rfl⟩ := hdoc
    apply hscope.resolve hr
  | .signature items, _, scope, _, _, hscope, hinline, hdoc, hids => by
    simp [ModuleType.document] at hdoc
    obtain ⟨following, hitems, rfl⟩ := hdoc
    simp at hids
    have hbound := bindCompiledItems_backed (b := ⟨scope, []⟩) ⟨hscope, by simp⟩ hinline hitems
      hids
    simpa using (documentItems_targets hbound.scope hinline hitems hids).2
  | .functor x none result, _, _, _, _, hscope, hinline, hdoc, hids => by
    simp [ModuleType.document] at hdoc
    obtain ⟨result', hresult, rfl⟩ := hdoc
    rw [ModuleType.isInline] at hinline
    rw [ModuleTypeExpr.targets]
    apply ModuleType.document_targets hscope hinline hresult hids
  | .functor x (some arg) result, _, _, _, _, hscope, hinline, hdoc, hids => by
    simp [ModuleType.document] at hdoc
    obtain ⟨arg', harg, result', hresult, rfl⟩ := hdoc
    simp [ModuleTypeExpr.declared] at hids
    obtain ⟨hid, harg', hresult'⟩ := hids
    simp only [ModuleType.isInline, Bool.and_eq_true] at hinline
    have hshape := ModuleType.compiledShape_backed hscope hinline.1 harg harg'
    have hinner := hscope.addFunctorParameter x hid hshape
    simp only [ModuleTypeExpr.targets, List.append_subset]
    constructor
    · apply ModuleType.document_targets hscope hinline.1 harg harg'
    · apply ModuleType.document_targets hinner hinline.2 hresult hresult'
  | .alias p, _, _, _, _, _, _, hdoc, _ => by cases hdoc

/-- The documentation of inline items points into a list that backs the scope and contains
what the documentation declares. -/
theorem documentItems_targets :
  ∀ {items : List SignatureItem} {scope : Scope} {parent : Identifier} {continues : Bool}
    {following : Following},
    scope.Backed ids → inlineItems items →
      (documentItems config scope parent continues items).outcome = .ok following →
        declaredItems true following.items ⊆ ids →
          following.constructors.flatMap Constructor.targets ⊆ ids ∧
            targetsItems following.items ⊆ ids
  | [], _, _, _, _, _, _, hdoc, _ => by
    obtain rfl := Except.ok.inj hdoc
    simp [targetsItems]
  | .value x d :: items, _, _, _, _, hscope, hinline, hdoc, hids => by
    simp [documentItems] at hdoc
    obtain ⟨item, hitem, rest, hrest, rfl⟩ := hdoc
    simp [Following.cons, declaredItems] at hids
    simp only [inlineItems, Bool.and_eq_true] at hinline
    have htargets := documentItems_targets hscope hinline.2 hrest hids.2
    simp [Following.cons, targetsItems, ValueDescription.document_targets hscope hitem,
      htargets.2]
  | .type x d status :: items, _, _, _, _, hscope, hinline, hdoc, hids => by
    simp [documentItems] at hdoc
    obtain ⟨decl, hdecl, rest, hrest, rfl⟩ := hdoc
    simp [Following.cons, declaredItems] at hids
    simp only [inlineItems, Bool.and_eq_true] at hinline
    have htargets := documentItems_targets hscope hinline.2 hrest hids.2
    simp [Following.cons, targetsItems, Item.targets,
      TypeDeclaration.document_targets hscope hdecl, htargets.2]
  | .extension x d status :: items, _, _, _, _, hscope, hinline, hdoc, hids => by
    simp only [inlineItems, Bool.and_eq_true] at hinline
    by_cases hexception : status = .exception
    · subst hexception
      simp [documentItems] at hdoc
      obtain ⟨c, hc, rest, hrest, rfl⟩ := hdoc
      simp [Following.cons, declaredItems] at hids
      have htargets := documentItems_targets hscope hinline.2 hrest hids.2
      simp [Following.cons, targetsItems, Item.targets, documentConstructor_targets hscope hc,
        htargets.2]
    · simp [documentItems] at hdoc
      obtain ⟨c, hc, hdoc⟩ := hdoc
      have hc' := documentConstructor_targets hscope hc
      split at hdoc
      · simp at hdoc
        obtain ⟨rest, hrest, rfl⟩ := hdoc
        have htargets := documentItems_targets hscope hinline.2 hrest hids
        simpa [hc'] using htargets
      · simp at hdoc
        obtain ⟨head, hhead, rest, hrest, rfl⟩ := hdoc
        simp [Following.cons, declaredItems] at hids
        have htargets := documentItems_targets hscope hinline.2 hrest hids.2
        simpa [Following.cons, targetsItems, Item.targets, Extension.targets, hc',
          ExtensionConstructor.documentHead_targets hscope hhead] using htargets
  | .module x ⟨type, attributes, loc⟩ status :: items, _, _, _, _, hscope, hinline, hdoc,
      hids => by
    obtain ⟨declType, canonical, hidden, expanded, rest, hrest, rfl, rfl, htype⟩ :=
      documentItems_module hdoc
    simp [Following.cons, declaredItems, Item.declared] at hids
    obtain ⟨-, hout', hids⟩ := hids
    simp only [inlineItems, SignatureItem.isInline, Bool.and_eq_true, Bool.or_eq_true]
      at hinline
    have htargets := documentItems_targets hscope hinline.2 hrest hids
    have hdecl : declType.targets ⊆ ids := by
      rcases htype with ⟨p, r, rfl, hr, rfl⟩ | ⟨halias, out, hout, rfl⟩
      · apply hscope.resolve hr
      · simp [halias] at hinline
        apply ModuleType.document_targets hscope hinline.1 hout hout'
    simp [Following.cons, targetsItems, Item.targets, hdecl, htargets.2]
  | .moduleType x ⟨some type, attributes, loc⟩ :: items, _, _, _, _, hscope, hinline, hdoc,
      hids => by
    simp [documentItems] at hdoc
    obtain ⟨out, hout, rest, hrest, rfl⟩ := hdoc
    simp [Following.cons, declaredItems, Item.declared] at hids
    obtain ⟨-, hout', hids⟩ := hids
    simp only [inlineItems, SignatureItem.isInline, Bool.and_eq_true] at hinline
    have htargets := documentItems_targets hscope hinline.2 hrest hids
    simp [Following.cons, targetsItems, Item.targets, htargets.2,
      ModuleType.document_targets hscope hinline.1 hout hout']
  | .moduleType x ⟨none, attributes, loc⟩ :: items, _, _, _, _, hscope, hinline, hdoc,
      hids => by
    simp [documentItems] at hdoc
    obtain ⟨rest, hrest, rfl⟩ := hdoc
    simp [Following.cons, declaredItems, Item.declared] at hids
    simp only [inlineItems, Bool.and_eq_true] at hinline
    have htargets := documentItems_targets hscope hinline.2 hrest hids.2
    simp [Following.cons, targetsItems, Item.targets, htargets.2]
  | .class x d status :: items, _, _, _, _, hscope, hinline, hdoc, hids => by
    simp [documentItems] at hdoc
    obtain ⟨decl, hdecl, rest, hrest, rfl⟩ := hdoc
    simp [Following.cons, declaredItems] at hids
    simp only [inlineItems, Bool.and_eq_true] at hinline
    have htargets := documentItems_targets hscope hinline.2 hrest hids.2
    simp [Following.cons, targetsItems, Item.targets,
      ClassDeclaration.document_targets hscope hdecl, htargets.2]
  | .classType x d status :: items, _, _, _, _, hscope, hinline, hdoc, hids => by
    simp [documentItems] at hdoc
    obtain ⟨decl, hdecl, rest, hrest, rfl⟩ := hdoc
    simp [Following.cons, declaredItems] at hids
    simp only [inlineItems, Bool.and_eq_true] at hinline
    have htargets := documentItems_targets hscope hinline.2 hrest hids.2
    simp [Following.cons, targetsItems, Item.targets,
      ClassTypeDeclaration.document_targets hscope hdecl, htargets.2]

end

end Compiled

namespace Written

/-- If the members of a group are documented as items that point into a list, then so is the
group. -/
theorem documentGroup_targets {α : Type} {attributes : α → List Attribute}
    {document : Model.RecFlag → α → Reading Item}
    (hdocument : ∀ (flag : Model.RecFlag) (d : α) (item : Item),
      (document flag d).outcome = .ok item → item.targets ⊆ ids) :
  ∀ {ds : List α} {flag : Model.RecFlag} {items : List Item},
    (documentGroup config attributes document flag ds).outcome = .ok items →
      targetsItems items ⊆ ids
  | [], _, _, hdoc => by
    obtain rfl := Except.ok.inj hdoc
    simp [targetsItems]
  | d :: ds, flag, _, hdoc => by
    simp [documentGroup, documentCommented] at hdoc
    obtain ⟨item, hitem, rest, hrest, rfl⟩ := hdoc
    simp [targetsItems_append, targetsItems, hdocument flag d item hitem,
      documentGroup_targets hdocument hrest]

/-- The references in a clause point into the list if the subject of the constraints is backed by
it. -/
theorem WithClause.document_targets {scope : Scope} (hscope : scope.Backed ids)
    {subject : Subject} (hsubject : subject.Backed ids) {c : WithClause} {out : Substitution}
    (h : (c.document config scope subject).outcome = .ok out) :
  out.targets ⊆ ids
  := by
  unfold WithClause.document at h
  split at h
  · simp at h
    obtain ⟨equation, hequation, rfl⟩ := h
    simp [Substitution.targets, hsubject.fragment,
      TypeDeclaration.documentEquation_targets hscope hequation]
  · simp at h
    obtain ⟨target, htarget, rfl⟩ := h
    simp [Substitution.targets, hsubject.fragment, hscope.resolve htarget]
  · split at h
    · cases h
    · rename_i manifest _
      simp at h
      obtain ⟨head, hhead, equation, hequation, rfl⟩ := h
      have hhead' : head.toList.flatMap Reference.targets ⊆ ids := by
        unfold documentHead at hhead
        split at hhead
        · simp at hhead
          obtain ⟨r, hr, rfl⟩ := hhead
          simpa using hscope.resolve hr
        · obtain rfl := Except.ok.inj hhead
          simp
      simp [Substitution.targets, hsubject.fragment, hhead',
        TypeDeclaration.documentEquation_targets hscope hequation]
  · simp at h
    obtain ⟨target, htarget, rfl⟩ := h
    simp [Substitution.targets, hsubject.fragment, hscope.resolve htarget]

/-- The references in the type of a module expression point into the list if it declares into it. -/
theorem ModuleExpr.document_targets {scope : Scope} (hscope : scope.Backed ids)
    {expr : ModuleExpr} {operand : Bool} {owner : Identifier} {out : ModuleDeclType}
    (hinline : expr.isInline operand)
    (hdoc : (expr.document config scope owner).outcome = .ok out)
    (hids : out.declared true ⊆ ids) :
  out.targets ⊆ ids
  := by
  unfold ModuleExpr.document at hdoc
  split at hdoc
  · simp at hdoc
    obtain ⟨r, hr, rfl⟩ := hdoc
    apply hscope.resolve hr
  · simp at hdoc
    obtain ⟨type, htype, rfl⟩ := hdoc
    unfold ModuleExpr.isInline at hinline
    split at hinline
    · simp at *
    · apply Compiled.ModuleType.document_targets hscope hinline htype hids

/-- The subject of the constraints on a documented inline module type is backed. -/
theorem ModuleType.subjectOf_backed {scope : Scope} (hscope : scope.Backed ids)
    {outer : Scope} {owner : Identifier} {operand : Bool} :
  ∀ {type : ModuleType} {out : ModuleTypeExpr}, type.isInline operand →
    (type.document config outer owner).outcome = .ok out → out.declared true ⊆ ids →
      (scope.subjectOf owner type).Backed ids
  | .path _ p, _, _, _, _ => by
    unfold Scope.subjectOf
    split
    · rename_i hr
      exact (hscope.resolveSubject hr).2
    · intro id hid
      cases hid
  | .signature info items, _, hinline, hdoc, hids => by
    rintro _ ⟨⟩
    change (scope.writtenShape owner (.signature info items)).Backed ids owner
    exact ModuleType.writtenShape_backed hscope hinline hdoc hids
  | .functor _ _ _, _, _, _, _ => by rintro _ ⟨⟩
  | .constrained _ body clauses, _, hinline, hdoc, hids => by
    simp [ModuleType.document] at hdoc
    obtain ⟨type, htype, _, -, rfl⟩ := hdoc
    rw [ModuleType.isInline] at hinline
    rw [Scope.subjectOf]
    apply ModuleType.subjectOf_backed hscope hinline htype hids
  | .typeOf _ _, _, _, _, _ => by rintro _ ⟨⟩
  | .alias _ _, _, _, _, _ => by rintro _ ⟨⟩

mutual

/-- The documentation of an inline module type points into a list that backs the scope and
contains what the documentation declares. -/
theorem ModuleType.document_targets :
  ∀ {type : ModuleType} {operand : Bool} {scope : Scope} {owner : Identifier}
    {out : ModuleTypeExpr},
    scope.Backed ids → type.isInline operand →
      (type.document config scope owner).outcome = .ok out → out.declared true ⊆ ids →
        out.targets ⊆ ids
  | .path _ p, _, _, _, _, hscope, _, hdoc, _ => by
    simp [ModuleType.document] at hdoc
    obtain ⟨r, hr, rfl⟩ := hdoc
    apply hscope.resolve hr
  | .signature _ items, _, scope, _, _, hscope, hinline, hdoc, hids => by
    simp [ModuleType.document] at hdoc
    obtain ⟨documented, hitems, rfl⟩ := hdoc
    simp at hids
    have hbound := bindWrittenItems_backed (b := ⟨scope, []⟩) ⟨hscope, by simp⟩ hinline hitems
      hids
    simpa using documentItems_targets hbound.scope hinline hitems hids
  | .functor _ .unit result, _, _, _, _, hscope, hinline, hdoc, hids => by
    simp [ModuleType.document] at hdoc
    obtain ⟨result', hresult, rfl⟩ := hdoc
    rw [ModuleType.isInline] at hinline
    rw [ModuleTypeExpr.targets]
    apply ModuleType.document_targets hscope hinline hresult hids
  | .functor _ (.named x arg) result, _, _, _, _, hscope, hinline, hdoc, hids => by
    simp [ModuleType.document] at hdoc
    obtain ⟨arg', harg, result', hresult, rfl⟩ := hdoc
    simp [ModuleTypeExpr.declared] at hids
    obtain ⟨hid, harg', hresult'⟩ := hids
    simp only [ModuleType.isInline, Bool.and_eq_true] at hinline
    have hshape := ModuleType.writtenShape_backed hscope hinline.1 harg harg'
    have hinner := hscope.addFunctorParameter x hid hshape
    simp only [ModuleTypeExpr.targets, List.append_subset]
    constructor
    · apply ModuleType.document_targets hscope hinline.1 harg harg'
    · apply ModuleType.document_targets hinner hinline.2 hresult hresult'
  | .constrained _ body clauses, _, _, _, _, hscope, hinline, hdoc, hids => by
    simp [ModuleType.document] at hdoc
    obtain ⟨type, htype, substitutions, hsubstitutions, rfl⟩ := hdoc
    rw [ModuleType.isInline] at hinline
    rw [ModuleTypeExpr.declared] at hids
    have hsubject := ModuleType.subjectOf_backed hscope hinline htype hids
    simp only [ModuleTypeExpr.targets, List.append_subset]
    constructor
    · apply ModuleType.document_targets hscope hinline htype hids
    · apply flatMap_subset
      intro out hmem
      obtain ⟨c, -, hout⟩ := Reading.exists_of_mem_each hsubstitutions hmem
      apply WithClause.document_targets hscope hsubject hout
  | .typeOf _ expr, _, _, _, _, hscope, hinline, hdoc, hids => by
    simp [ModuleType.document] at hdoc
    obtain ⟨type, htype, rfl⟩ := hdoc
    apply ModuleExpr.document_targets hscope hinline htype hids
  | .alias _ _, _, _, _, _, _, _, hdoc, _ => by cases hdoc

theorem documentItems_targets :
  ∀ {items : List SignatureItem} {scope : Scope} {parent : Identifier}
    {documented : List Item},
    scope.Backed ids → inlineItems items →
      (documentItems config scope parent items).outcome = .ok documented →
        declaredItems true documented ⊆ ids → targetsItems documented ⊆ ids
  | [], _, _, _, _, _, hdoc, _ => by
    obtain rfl := Except.ok.inj hdoc
    simp [targetsItems]
  | item :: items, _, _, _, hscope, hinline, hdoc, hids => by
    simp [documentItems] at hdoc
    obtain ⟨head, hhead, rest, hrest, rfl⟩ := hdoc
    simp [declaredItems_append] at hids
    simp only [inlineItems, Bool.and_eq_true] at hinline
    simp [targetsItems_append, SignatureItem.document_targets hscope hinline.1 hhead hids.1,
      documentItems_targets hscope hinline.2 hrest hids.2]

/-- The documentation of an inline item points into a list that backs the scope and contains
what the documentation declares. -/
theorem SignatureItem.document_targets :
  ∀ {item : SignatureItem} {scope : Scope} {parent : Identifier} {documented : List Item},
    scope.Backed ids → item.isInline →
      (item.document config scope parent).outcome = .ok documented →
        declaredItems true documented ⊆ ids → targetsItems documented ⊆ ids
  | .value _ d, _, _, _, hscope, _, hdoc, _ => by
    simp [SignatureItem.document, documentCommented] at hdoc
    obtain ⟨item, hitem, rfl⟩ := hdoc
    simp [targetsItems_append, targetsItems, ValueDescription.document_targets hscope hitem]
  | .type _ _ ds, _, _, _, hscope, _, hdoc, _ => by
    rw [SignatureItem.document] at hdoc
    apply documentGroup_targets _ hdoc
    intro flag d item hitem
    simp [TypeDeclaration.documentItem] at hitem
    obtain ⟨decl, hdecl, rfl⟩ := hitem
    apply TypeDeclaration.document_targets hscope hdecl
  | .typeSubst _ ds, _, _, _, hscope, _, hdoc, _ => by
    rw [SignatureItem.document] at hdoc
    apply documentGroup_targets _ hdoc
    intro flag d item hitem
    simp [TypeDeclaration.documentSubstitution] at hitem
    obtain ⟨decl, hdecl, rfl⟩ := hitem
    apply TypeDeclaration.document_targets hscope hdecl
  | .extension _ d, _, _, _, hscope, _, hdoc, _ => by
    simp [SignatureItem.document, documentCommented] at hdoc
    obtain ⟨extension, hextension, rfl⟩ := hdoc
    simp [targetsItems_append, targetsItems, Item.targets,
      TypeExtension.document_targets hscope hextension]
  | .exception _ d, _, _, _, hscope, _, hdoc, _ => by
    simp [SignatureItem.document, documentCommented] at hdoc
    obtain ⟨c, hc, rfl⟩ := hdoc
    simp [targetsItems_append, targetsItems, Item.targets,
      ExtensionConstructor.document_targets hscope hc]
  | .module _ d, _, _, _, hscope, hinline, hdoc, hids => by
    rw [SignatureItem.document] at hdoc
    apply ModuleDeclaration.document_targets hscope hinline hdoc hids
  | .moduleSubst _ d, _, _, _, hscope, _, hdoc, _ => by
    simp [SignatureItem.document, documentCommented, ModuleSubstitution.document] at hdoc
    obtain ⟨r, hr, rfl⟩ := hdoc
    simp [targetsItems_append, targetsItems, Item.targets, hscope.resolve hr]
  | .recModule _ ds, _, _, _, hscope, hinline, hdoc, hids => by
    rw [SignatureItem.document] at hdoc
    apply documentModules_targets hscope hinline hdoc hids
  | .moduleType _ ⟨x, some type, attributes, loc⟩, _, _, _, hscope, hinline, hdoc, hids => by
    simp [SignatureItem.document, documentCommented] at hdoc
    obtain ⟨out, hout, rfl⟩ := hdoc
    simp [declaredItems_append, declaredItems, Item.declared] at hids
    simp [targetsItems_append, targetsItems, Item.targets,
      ModuleType.document_targets hscope hinline hout hids.2]
  | .moduleType _ ⟨x, none, attributes, loc⟩, _, _, _, _, _, hdoc, _ => by
    simp [SignatureItem.document, documentCommented] at hdoc
    obtain rfl := hdoc
    simp [targetsItems_append, targetsItems, Item.targets]
  | .opened _ _, _, _, _, _, _, hdoc, _ => by
    obtain rfl := Except.ok.inj hdoc
    simp [targetsItems]
  | .included _ ⟨type, content, loc, attributes⟩, scope, _, _, hscope, hinline, hdoc, hids => by
    simp [SignatureItem.document, documentCommented, Compiled.Signature.document] at hdoc
    obtain ⟨type', htype, following, hfollowing, rfl⟩ := hdoc
    simp [declaredItems_append, declaredItems] at hids
    simp only [SignatureItem.isInline, Bool.and_eq_true] at hinline
    have hbound := Compiled.bindCompiledItems_backed (b := ⟨scope, []⟩) ⟨hscope, by simp⟩
      hinline.2 hfollowing hids.2
    have hcontent := Compiled.documentItems_targets hbound.scope hinline.2 hfollowing hids.2
    simp [targetsItems_append, targetsItems, hcontent.2,
      ModuleType.document_targets hscope hinline.1 htype hids.1]
  | .class _ ds, _, _, _, hscope, _, hdoc, _ => by
    rw [SignatureItem.document] at hdoc
    apply documentGroup_targets _ hdoc
    intro flag d item hitem
    simp [ClassDeclaration.documentItem] at hitem
    obtain ⟨decl, hdecl, rfl⟩ := hitem
    apply ClassDeclaration.document_targets hscope hdecl
  | .classType _ ds, _, _, _, hscope, _, hdoc, _ => by
    rw [SignatureItem.document] at hdoc
    apply documentGroup_targets _ hdoc
    intro flag d item hitem
    simp [ClassDeclaration.documentClassTypeItem] at hitem
    obtain ⟨decl, hdecl, rfl⟩ := hitem
    apply ClassDeclaration.documentClassType_targets hscope hdecl
  | .floating _ a, _, _, _, _, _, hdoc, _ => by
    simp [SignatureItem.document] at hdoc
    obtain rfl := hdoc
    simp

theorem documentModules_targets :
  ∀ {ds : List ModuleDeclaration} {scope : Scope} {parent : Identifier} {flag : Model.RecFlag}
    {documented : List Item},
    scope.Backed ids → inlineModules ds →
      (documentModules config scope parent flag ds).outcome = .ok documented →
        declaredItems true documented ⊆ ids → targetsItems documented ⊆ ids
  | [], _, _, _, _, _, _, hdoc, _ => by
    obtain rfl := Except.ok.inj hdoc
    simp [targetsItems]
  | d :: ds, _, _, _, _, hscope, hinline, hdoc, hids => by
    simp [documentModules] at hdoc
    obtain ⟨head, hhead, rest, hrest, rfl⟩ := hdoc
    simp [declaredItems_append] at hids
    simp only [inlineModules, Bool.and_eq_true] at hinline
    simp [targetsItems_append, ModuleDeclaration.document_targets hscope hinline.1 hhead hids.1,
      documentModules_targets hscope hinline.2 hrest hids.2]

theorem ModuleDeclaration.document_targets :
  ∀ {d : ModuleDeclaration} {scope : Scope} {parent : Identifier} {flag : Model.RecFlag}
    {documented : List Item},
    scope.Backed ids → d.isInline →
      (d.document config scope parent flag).outcome = .ok documented →
        declaredItems true documented ⊆ ids → targetsItems documented ⊆ ids
  | ⟨x, type, attributes, loc⟩, _, _, _, _, hscope, hinline, hdoc, hids => by
    obtain ⟨_, declType, _, _, _, rfl, rfl, htype⟩ := ModuleDeclaration.document_eq_ok hdoc
    simp [declaredItems_append, declaredItems, Item.declared] at hids
    have hdecl : declType.targets ⊆ ids := by
      rcases htype with ⟨info, p, r, rfl, hr, rfl⟩ | ⟨halias, out, hout, rfl⟩
      · apply hscope.resolve hr
      · simp [ModuleDeclaration.isInline, halias] at hinline
        apply ModuleType.document_targets hscope hinline hout hids.2
    simp [targetsItems_append, targetsItems, Item.targets, hdecl]

end

end Written

/-- Every identifier that a loaded interface points at is declared in the interface, if the
signature is inline: a reference is never resolved to something that is not there. -/
theorem load_targets_subset_declared {container unit : String} {signature : Written.Signature}
    {interface : Model.Interface} (hinline : Written.inlineItems signature)
    (hload : (Model.Interface.load config container unit signature).outcome = .ok interface) :
  interface.targets ⊆ interface.declared true
  := by
  simp [Model.Interface.load, Written.Signature.document] at hload
  obtain ⟨documented, hitems, rfl⟩ := hload
  simp only [Model.Interface.targets, Model.Interface.declared, targetsItems_ofItems,
    declaredItems_ofItems]
  have hids : declaredItems true documented ⊆ declaredItems true documented :=
    List.Subset.refl _
  have hbound := Written.bindWrittenItems_backed (b := ⟨.empty, []⟩)
    ⟨Scope.Backed.empty, by simp⟩ hinline hitems hids
  apply Written.documentItems_targets hbound.scope hinline hitems hids

/-- A signature with a module, an alias of it, a functor whose result is constrained, and an
include.  Its references go through the alias, to the parameter of the functor, to a
constrained component and to the operand of the include. -/
def inlineSample : Written.Signature :=
  let info : Written.NodeInfo := ⟨.none, []⟩
  let abstract (x : Ident) : Written.SignatureItem :=
    .type .none .recursive [⟨x, [], [], .abstract, .publicly, none, .none, []⟩]
  let value (x : Ident) (p : Path) : Written.SignatureItem :=
    .value .none ⟨x, .constr info p [], [], .none, []⟩
  let equation (p : Path) : Written.TypeDeclaration :=
    ⟨⟨"b", 20, 0⟩, [], [], .abstract, .publicly, some (.constr info p []), .none, []⟩
  [.module .none ⟨⟨"M", 1, 0⟩, .signature info [abstract ⟨"t", 2, 0⟩], [], .none⟩,
    .module .none ⟨⟨"N", 3, 0⟩, .alias info (.ident ⟨"M", 1, 0⟩), [], .none⟩,
    value ⟨"y", 4, 0⟩ (.dot (.ident ⟨"N", 3, 0⟩) "t"),
    .module .none ⟨⟨"F", 5, 0⟩,
      .functor info (.named ⟨"X", 6, 0⟩ (.signature info [abstract ⟨"a", 7, 0⟩]))
        (.constrained info (.signature info [abstract ⟨"b", 8, 0⟩])
          [⟨⟨.ident "b", .none⟩, .typeEq (equation (.dot (.ident ⟨"X", 6, 0⟩) "a"))⟩]),
      [], .none⟩,
    .moduleType .none ⟨⟨"S", 9, 0⟩, some (.signature info [abstract ⟨"u", 10, 0⟩]), [], .none⟩,
    .included .none ⟨.path info (.ident ⟨"S", 9, 0⟩),
      [.type ⟨"u", 11, 0⟩ ⟨[], .abstract, .publicly, none, [], .none, []⟩ .first], .none, []⟩]

/-- All targets of `inlineSample` are declared in it. -/
theorem inlineSample_targets_subset_declared :
  Written.inlineItems inlineSample = true ∧ ∃ interface,
    (Model.Interface.load .standard "pkg" "Unit" inlineSample).outcome = .ok interface ∧
      interface.targets.map Identifier.text
        = ["Unit.module-M", "Unit.module-M.type-t", "Unit.module-F.type-b",
          "Unit.module-F.argument-1-X.type-a", "Unit.module-type-S"] ∧
      interface.targets ⊆ interface.declared true
  := by
  have hinline : Written.inlineItems inlineSample := rfl
  use hinline
  obtain ⟨interface, hload⟩ : ∃ interface,
    (Model.Interface.load .standard "pkg" "Unit" inlineSample).outcome = .ok interface := ⟨_, rfl⟩
  use interface, hload
  constructor
  · obtain rfl := Except.ok.inj hload
    rfl
  · apply load_targets_subset_declared hinline hload

end InterfaceDocs
