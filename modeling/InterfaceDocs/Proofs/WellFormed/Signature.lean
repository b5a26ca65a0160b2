import InterfaceDocs.Load.Interface
import InterfaceDocs.Proofs.Identity
import InterfaceDocs.Proofs.WellFormed.Declaration

/-!
# Loaded interfaces are well formed

In a rooted scope and under a rooted owner, the documentation of a signature is well formed:
the module types and items of compiled signatures first, then those of written ones.  The scope
of a loaded interface is empty at first, and binding keeps it rooted, so every loaded interface
is well formed (`load_wellFormed`).
-/

namespace InterfaceDocs

open Model

variable {root : Identifier} {config : Config}

/-! ### Marks -/

theorem Text.occursIn_iff {part cs : List Char} :
  Text.occursIn part cs ↔ part <:+: cs
  := by
  induction cs with
  | nil => simp [Text.occursIn]
  | cons c cs ih => simp [Text.occursIn, ih, List.infix_cons_iff]

/-- A module is hidden exactly when it has no canonical path and its name contains the marker of
internal names. -/
theorem Load.isHidden_iff {name : String} {canonical : Option Reference} :
  Load.isHidden config name canonical ↔ canonical = none ∧ config.hiddenMarker ≠ "" ∧
    config.hiddenMarker.toList <:+: name.toList
  := by
  simp [Load.isHidden, Name.isInternal, Text.occursIn_iff]

namespace Model

/-- The items of an expanded module can be seen exactly when its type is a plain signature, if
it is expanded exactly then. -/
theorem Module.isSome_expandedItems_iff {m : Module}
    (h : m.expanded ↔ ∃ s, m.type = .moduleType (.signature s)) :
  m.expandedItems.isSome ↔ ∃ s, m.type = .moduleType (.signature s)
  := by
  unfold Module.expandedItems
  split
  · rename_i hexpanded htype
    simp [htype]
  · rename_i hneither
    simp only [Option.isSome_none, Bool.false_eq_true, false_iff]
    rintro ⟨s, hs⟩
    apply hneither s (h.mpr ⟨s, hs⟩) hs

theorem ModuleType.isSome_expandedItems_iff {t : ModuleType}
    (h : t.expanded ↔ ∃ s, t.type = some (.signature s)) :
  t.expandedItems.isSome ↔ ∃ s, t.type = some (.signature s)
  := by
  unfold ModuleType.expandedItems
  split
  · rename_i hexpanded htype
    simp [htype]
  · rename_i hneither
    simp only [Option.isSome_none, Bool.false_eq_true, false_iff]
    rintro ⟨s, hs⟩
    apply hneither s (h.mpr ⟨s, hs⟩) hs

/-- The marks that a module gets from its documentation and its type are the right ones. -/
theorem Module.marked {parent : Identifier} (hparent : parent.Rooted root) (name : String)
    (doc : Doc) {declType : ModuleDeclType} {expanded : Bool}
    (hexpanded : expanded ↔ ∃ s, declType = .moduleType (.signature s)) :
  Module.Marked config root ⟨parent.child .module name, doc, declType, Load.canonicalPath doc,
    Load.isHidden config name (Load.canonicalPath doc), expanded⟩
  := by
  constructor
  · apply hparent.child .module rfl name
  · rfl
  · apply Load.isHidden_iff
  · apply hexpanded
  · apply Module.isSome_expandedItems_iff hexpanded

/-- The marks that a module type gets from its documentation and its type are the right ones. -/
theorem ModuleType.marked {parent : Identifier} (hparent : parent.Rooted root) (name : String)
    (doc : Doc) {type : Option ModuleTypeExpr} {expanded : Bool}
    (hexpanded : expanded ↔ ∃ s, type = some (.signature s)) :
  ModuleType.Marked root ⟨parent.child .moduleType name, doc, type, Load.canonicalPath doc,
    expanded⟩
  := by
  constructor
  · apply hparent.child .moduleType rfl name
  · rfl
  · apply hexpanded
  · apply ModuleType.isSome_expandedItems_iff hexpanded

/-- The signature of well-formed items is well formed. -/
theorem ModuleTypeExpr.WellFormed.ofItems {owner : Identifier} {items : List Item}
    (h : ∀ item ∈ items, item.WellFormed config root owner) (lift : Bool) :
  (ModuleTypeExpr.signature (.ofItems lift items)).WellFormed config root owner
  := by
  apply ModuleTypeExpr.WellFormed.signature
  intro item hitem
  apply h item (Signature.mem_of_mem_ofItems hitem)

end Model

/-! ### Compiled signatures -/

namespace Compiled

/-- The documentation of a module type is a signature exactly when the module type is. -/
theorem ModuleType.isSignature_iff {type : ModuleType} {scope : Scope} {owner : Identifier}
    {out : ModuleTypeExpr} (h : (type.document config scope owner).outcome = .ok out) :
  type.isSignature ↔ ∃ s, out = .signature s
  := by
  cases type with
  | path p =>
    simp [ModuleType.document] at h
    obtain ⟨r, -, rfl⟩ := h
    simp [ModuleType.isSignature]
  | signature items =>
    simp [ModuleType.document] at h
    obtain ⟨following, -, rfl⟩ := h
    simp [ModuleType.isSignature]
  | functor x param result =>
    cases param with
    | none =>
      simp [ModuleType.document] at h
      obtain ⟨result', -, rfl⟩ := h
      simp [ModuleType.isSignature]
    | some arg =>
      simp [ModuleType.document] at h
      obtain ⟨arg', -, result', -, rfl⟩ := h
      simp [ModuleType.isSignature]
  | «alias» p => cases h

/-- A documented module has a plain signature exactly when its type is one; an alias has
none. -/
theorem ModuleType.isSignature_iff_declType {type : ModuleType} {scope : Scope}
    {id : Identifier} {declType : ModuleDeclType}
    (h : (∃ p r, type = .alias p ∧ scope.resolve .module p = .ok r ∧ declType = .alias r) ∨
      (type.alias? = none ∧ ∃ out, (type.document config scope id).outcome = .ok out ∧
        declType = .moduleType out)) :
  type.isSignature ↔ ∃ s, declType = .moduleType (.signature s)
  := by
  rcases h with ⟨p, r, rfl, -, rfl⟩ | ⟨-, out, hout, rfl⟩
  · simp [ModuleType.isSignature]
  · simpa using ModuleType.isSignature_iff hout

/-- The documented items behind an item are well formed, and so are the constructors that
continue the extension of that item. -/
structure Following.WellFormed (config : Config) (root owner : Identifier)
    (following : Following) : Prop where
  constructors : ∀ c ∈ following.constructors, c.WellFormed root
  items : ∀ item ∈ following.items, item.WellFormed config root owner

theorem Following.WellFormed.cons {owner : Identifier} {item : Item} {following : Following}
    (hitem : item.WellFormed config root owner)
    (hfollowing : following.WellFormed config root owner) :
  (Following.cons item following).WellFormed config root owner
  := by
  constructor
  · simp [Following.cons]
  · apply List.forall_mem_cons.mpr ⟨hitem, hfollowing.items⟩

mutual

/-- The documentation of a compiled module type of a rooted owner is well formed. -/
theorem ModuleType.document_wellFormed :
  ∀ {type : ModuleType} {scope : Scope} {owner : Identifier} {out : ModuleTypeExpr},
    scope.Rooted root → owner.Rooted root →
      (type.document config scope owner).outcome = .ok out → out.WellFormed config root owner
  | .path p, _, _, _, hscope, _, hdoc => by
    simp [ModuleType.document] at hdoc
    obtain ⟨r, hr, rfl⟩ := hdoc
    constructor
    apply hscope.resolve hr
  | .signature items, _, _, _, hscope, howner, hdoc => by
    simp [ModuleType.document] at hdoc
    obtain ⟨following, hitems, rfl⟩ := hdoc
    have hbound := hscope.bindCompiled howner items
    exact .ofItems (documentItems_wellFormed hbound.scope howner hitems).items _
  | .functor _ none result, _, _, _, hscope, howner, hdoc => by
    simp [ModuleType.document] at hdoc
    obtain ⟨result', hresult, rfl⟩ := hdoc
    constructor
    apply ModuleType.document_wellFormed hscope howner hresult
  | .functor x (some arg) result, scope, owner, _, hscope, howner, hdoc => by
    simp [ModuleType.document] at hdoc
    obtain ⟨arg', harg, result', hresult, rfl⟩ := hdoc
    have hid := scope.functorArgument_rooted howner x.name
    have hinner := hscope.addFunctorParameter x hid (Scope.compiledShape_rooted arg hscope hid)
    apply ModuleTypeExpr.WellFormed.functor hid
    · apply ModuleType.document_wellFormed hscope hid harg
    · apply ModuleType.isSignature_iff harg
    · apply ModuleType.document_wellFormed hinner howner hresult
  | .alias _, _, _, _, _, _, hdoc => by cases hdoc

/-- The documentation of compiled items is well formed. -/
theorem documentItems_wellFormed :
  ∀ {items : List SignatureItem} {scope : Scope} {parent : Identifier} {continues : Bool}
    {following : Following}, scope.Rooted root → parent.Rooted root →
      (documentItems config scope parent continues items).outcome = .ok following →
        following.WellFormed config root parent
  | [], _, _, _, _, _, _, hdoc => by
    obtain rfl := Except.ok.inj hdoc
    use by simp, by simp
  | .value x d :: items, _, _, _, _, hscope, hparent, hdoc => by
    simp [documentItems] at hdoc
    obtain ⟨item, hitem, rest, hrest, rfl⟩ := hdoc
    apply Following.WellFormed.cons
    · apply ValueDescription.document_wellFormed hscope hparent hitem
    · apply documentItems_wellFormed hscope hparent hrest
  | .type x d status :: items, _, _, _, _, hscope, hparent, hdoc => by
    simp [documentItems] at hdoc
    obtain ⟨decl, hdecl, rest, hrest, rfl⟩ := hdoc
    apply Following.WellFormed.cons
    · constructor
      apply TypeDeclaration.document_wellFormed hscope hparent hdecl
    · apply documentItems_wellFormed hscope hparent hrest
  | .extension x d status :: items, _, parent, _, _, hscope, hparent, hdoc => by
    by_cases hexception : status = .exception
    · subst hexception
      simp [documentItems] at hdoc
      obtain ⟨c, hc, rest, hrest, rfl⟩ := hdoc
      have hid := hparent.child .exception rfl x.name
      apply Following.WellFormed.cons
      · constructor
        apply documentConstructor_wellFormed hscope hid hc
      · apply documentItems_wellFormed hscope hparent hrest
    · simp [documentItems] at hdoc
      obtain ⟨c, hc, hdoc⟩ := hdoc
      have hid := hparent.child .extension rfl x.name
      have hc' := documentConstructor_wellFormed hscope hid hc
      -- The constructor continues the extension before it, or it opens one of its own.
      split at hdoc
      · simp at hdoc
        obtain ⟨rest, hrest, rfl⟩ := hdoc
        have hfollowing := documentItems_wellFormed hscope hparent hrest
        use List.forall_mem_cons.mpr ⟨hc', hfollowing.constructors⟩, hfollowing.items
      · simp at hdoc
        obtain ⟨head, hhead, rest, hrest, rfl⟩ := hdoc
        have hpath := ExtensionConstructor.documentHead_rooted hscope hhead
        have hfollowing := documentItems_wellFormed hscope hparent hrest
        apply Following.WellFormed.cons _ hfollowing
        apply Item.WellFormed.extension
        use hpath, List.forall_mem_cons.mpr ⟨hc', hfollowing.constructors⟩
  | .module x ⟨type, attributes, loc⟩ status :: items, _, _, _, _, hscope, hparent, hdoc => by
    obtain ⟨declType, rest, hrest, rfl, htype⟩ := documentItems_module_marks hdoc
    apply Following.WellFormed.cons
    · apply Item.WellFormed.module
      · apply Module.marked hparent x.name _ (ModuleType.isSignature_iff_declType htype)
      · rcases htype with ⟨p, r, -, hr, rfl⟩ | ⟨-, out, hout, rfl⟩
        · constructor
          apply hscope.resolve hr
        · have hid := hparent.child .module rfl x.name
          constructor
          apply ModuleType.document_wellFormed hscope hid hout
    · apply documentItems_wellFormed hscope hparent hrest
  | .moduleType x ⟨some type, attributes, loc⟩ :: items, _, _, _, _, hscope, hparent,
      hdoc => by
    simp [documentItems] at hdoc
    obtain ⟨out, hout, rest, hrest, rfl⟩ := hdoc
    apply Following.WellFormed.cons
    · apply Item.WellFormed.moduleType
      · apply ModuleType.marked hparent x.name
        simpa using ModuleType.isSignature_iff hout
      · rintro _ ⟨⟩
        apply ModuleType.document_wellFormed hscope (hparent.child .moduleType rfl x.name) hout
    · apply documentItems_wellFormed hscope hparent hrest
  | .moduleType x ⟨none, attributes, loc⟩ :: items, _, _, _, _, hscope, hparent, hdoc => by
    simp [documentItems] at hdoc
    obtain ⟨rest, hrest, rfl⟩ := hdoc
    apply Following.WellFormed.cons
    · apply Item.WellFormed.moduleType
      · apply ModuleType.marked hparent x.name _ (by simp)
      · simp
    · apply documentItems_wellFormed hscope hparent hrest
  | .class x d status :: items, _, _, _, _, hscope, hparent, hdoc => by
    simp [documentItems] at hdoc
    obtain ⟨decl, hdecl, rest, hrest, rfl⟩ := hdoc
    apply Following.WellFormed.cons
    · constructor
      apply ClassDeclaration.document_wellFormed hscope hparent hdecl
    · apply documentItems_wellFormed hscope hparent hrest
  | .classType x d status :: items, _, _, _, _, hscope, hparent, hdoc => by
    simp [documentItems] at hdoc
    obtain ⟨decl, hdecl, rest, hrest, rfl⟩ := hdoc
    apply Following.WellFormed.cons
    · constructor
      apply ClassTypeDeclaration.document_wellFormed hscope hparent hdecl
    · apply documentItems_wellFormed hscope hparent hrest

end

end Compiled

/-! ### Written signatures -/

namespace Written

/-- The documentation of a module type is a signature exactly when the module type is. -/
theorem ModuleType.isSignature_iff {type : ModuleType} {scope : Scope} {owner : Identifier}
    {out : ModuleTypeExpr} (h : (type.document config scope owner).outcome = .ok out) :
  type.isSignature ↔ ∃ s, out = .signature s
  := by
  cases type with
  | path info p =>
    simp [ModuleType.document] at h
    obtain ⟨r, -, rfl⟩ := h
    simp [ModuleType.isSignature]
  | signature info items =>
    simp [ModuleType.document] at h
    obtain ⟨documented, -, rfl⟩ := h
    simp [ModuleType.isSignature]
  | functor info param result =>
    cases param with
    | unit =>
      simp [ModuleType.document] at h
      obtain ⟨result', -, rfl⟩ := h
      simp [ModuleType.isSignature]
    | named x arg =>
      simp [ModuleType.document] at h
      obtain ⟨arg', -, result', -, rfl⟩ := h
      simp [ModuleType.isSignature]
  | constrained info body clauses =>
    simp [ModuleType.document] at h
    obtain ⟨body', -, substitutions, -, rfl⟩ := h
    simp [ModuleType.isSignature]
  | typeOf info expr =>
    simp [ModuleType.document] at h
    obtain ⟨type, -, rfl⟩ := h
    simp [ModuleType.isSignature]
  | «alias» info p => cases h

/-- A documented module has a plain signature exactly when its type is one; an alias has
none. -/
theorem ModuleType.isSignature_iff_declType {type : ModuleType} {scope : Scope}
    {id : Identifier} {declType : ModuleDeclType}
    (h : (∃ info p r, type = .alias info p ∧ scope.resolve .module p = .ok r ∧
        declType = .alias r) ∨
      (type.alias? = none ∧ ∃ out, (type.document config scope id).outcome = .ok out ∧
        declType = .moduleType out)) :
  type.isSignature ↔ ∃ s, declType = .moduleType (.signature s)
  := by
  rcases h with ⟨info, p, r, rfl, -, rfl⟩ | ⟨-, out, hout, rfl⟩
  · simp [ModuleType.isSignature]
  · simpa using ModuleType.isSignature_iff hout

/-- An item is well formed together with the comments in front of it. -/
theorem documentCommented_wellFormed {owner : Identifier} {attributes : List Attribute}
    {reading : Reading Item} {items : List Item}
    (h : (documentCommented config attributes reading).outcome = .ok items)
    (hitem : ∀ item, reading.outcome = .ok item → item.WellFormed config root owner) :
  ∀ item ∈ items, item.WellFormed config root owner
  := by
  simp [documentCommented] at h
  obtain ⟨item, hreading, rfl⟩ := h
  rw [List.forall_mem_append, List.forall_mem_singleton]
  use wellFormed_comments _, hitem item hreading

/-- The members of a group are well formed if each of them is. -/
theorem documentGroup_wellFormed {α : Type} {owner : Identifier}
    {attributes : α → List Attribute} {document : Model.RecFlag → α → Reading Item}
    (hdocument : ∀ (flag : Model.RecFlag) (d : α) (item : Item),
      (document flag d).outcome = .ok item → item.WellFormed config root owner) :
  ∀ {ds : List α} {flag : Model.RecFlag} {items : List Item},
    (documentGroup config attributes document flag ds).outcome = .ok items →
      ∀ item ∈ items, item.WellFormed config root owner
  | [], _, _, h => by
    obtain rfl := Except.ok.inj h
    simp
  | d :: ds, flag, _, h => by
    simp only [documentGroup, Reading.outcome_bind, Outcome.bind_eq_ok, Reading.outcome_pure,
      Except.ok.injEq] at h
    obtain ⟨head, hhead, rest, hrest, rfl⟩ := h
    rw [List.forall_mem_append]
    constructor
    · apply documentCommented_wellFormed hhead (hdocument flag d)
    · apply documentGroup_wellFormed hdocument hrest

/-- The head that is recorded of a substituted type points at rooted identifiers. -/
theorem documentHead_rooted {scope : Scope} (hscope : scope.Rooted root) {type : CoreType}
    {out : Option Reference} (h : documentHead scope type = .ok out) :
  ∀ r ∈ out, r.Rooted root
  := by
  unfold documentHead at h
  split at h
  · obtain ⟨r, hr, rfl⟩ := Outcome.map_eq_ok.mp h
    rintro _ ⟨⟩
    apply hscope.resolve hr
  · obtain rfl := Except.ok.inj h
    simp

/-- The documentation of a clause is well formed if the subject of the constraints is rooted. -/
theorem WithClause.document_wellFormed {scope : Scope} (hscope : scope.Rooted root)
    {subject : Subject} (hsubject : subject.Rooted root) {c : WithClause} {out : Substitution}
    (h : (c.document config scope subject).outcome = .ok out) :
  out.WellFormed root
  := by
  unfold WithClause.document at h
  split at h
  · simp at h
    obtain ⟨equation, hequation, rfl⟩ := h
    constructor
    · apply hsubject.fragment .type c.name.txt
    · apply TypeDeclaration.documentEquation_wellFormed hscope hequation
  · simp at h
    obtain ⟨r, hr, rfl⟩ := h
    constructor
    · apply hsubject.fragment .module c.name.txt
    · apply hscope.resolve hr
  · split at h
    · cases h
    · simp at h
      obtain ⟨head, hhead, equation, hequation, rfl⟩ := h
      apply Substitution.WellFormed.typeSubst (hsubject.fragment .type c.name.txt)
      · apply documentHead_rooted hscope hhead
      · apply TypeDeclaration.documentEquation_wellFormed hscope hequation
  · simp at h
    obtain ⟨r, hr, rfl⟩ := h
    constructor
    · apply hsubject.fragment .module c.name.txt
    · apply hscope.resolve hr

theorem ModuleExpr.document_wellFormed {scope : Scope} (hscope : scope.Rooted root)
    {owner : Identifier} (howner : owner.Rooted root) {expr : ModuleExpr} {out : ModuleDeclType}
    (h : (expr.document config scope owner).outcome = .ok out) :
  out.WellFormed config root owner
  := by
  unfold ModuleExpr.document at h
  split at h
  · simp at h
    obtain ⟨r, hr, rfl⟩ := h
    constructor
    apply hscope.resolve hr
  · simp at h
    obtain ⟨type, htype, rfl⟩ := h
    constructor
    apply Compiled.ModuleType.document_wellFormed hscope howner htype

mutual

/-- The documentation of a written module type of a rooted owner is well formed. -/
theorem ModuleType.document_wellFormed :
  ∀ {type : ModuleType} {scope : Scope} {owner : Identifier} {out : ModuleTypeExpr},
    scope.Rooted root → owner.Rooted root →
      (type.document config scope owner).outcome = .ok out → out.WellFormed config root owner
  | .path _ p, _, _, _, hscope, _, hdoc => by
    simp [ModuleType.document] at hdoc
    obtain ⟨r, hr, rfl⟩ := hdoc
    constructor
    apply hscope.resolve hr
  | .signature _ items, _, _, _, hscope, howner, hdoc => by
    simp [ModuleType.document] at hdoc
    obtain ⟨documented, hitems, rfl⟩ := hdoc
    have hbound := hscope.bindWritten howner items
    exact .ofItems (documentItems_wellFormed hbound.scope howner hitems) _
  | .functor _ .unit result, _, _, _, hscope, howner, hdoc => by
    simp [ModuleType.document] at hdoc
    obtain ⟨result', hresult, rfl⟩ := hdoc
    constructor
    apply ModuleType.document_wellFormed hscope howner hresult
  | .functor _ (.named x arg) result, scope, owner, _, hscope, howner, hdoc => by
    simp [ModuleType.document] at hdoc
    obtain ⟨arg', harg, result', hresult, rfl⟩ := hdoc
    have hid := scope.functorArgument_rooted howner x.name
    -- The parameter owns its own type, and the result still belongs to the owner.
    have hinner := hscope.addFunctorParameter x hid (Scope.writtenShape_rooted arg hscope hid)
    apply ModuleTypeExpr.WellFormed.functor hid
    · apply ModuleType.document_wellFormed hscope hid harg
    · apply ModuleType.isSignature_iff harg
    · apply ModuleType.document_wellFormed hinner howner hresult
  | .constrained _ body clauses, _, _, _, hscope, howner, hdoc => by
    simp [ModuleType.document] at hdoc
    obtain ⟨type, htype, substitutions, hsubstitutions, rfl⟩ := hdoc
    have hsubject := hscope.subjectOf howner body
    apply ModuleTypeExpr.WellFormed.constrained
    · apply ModuleType.document_wellFormed hscope howner htype
    · intro out hmem
      obtain ⟨c, -, hout⟩ := Reading.exists_of_mem_each hsubstitutions hmem
      apply WithClause.document_wellFormed hscope hsubject hout
  | .typeOf _ expr, _, _, _, hscope, howner, hdoc => by
    simp [ModuleType.document] at hdoc
    obtain ⟨type, htype, rfl⟩ := hdoc
    constructor
    apply ModuleExpr.document_wellFormed hscope howner htype
  | .alias _ _, _, _, _, _, _, hdoc => by cases hdoc

/-- The documentation of written items is well formed. -/
theorem documentItems_wellFormed :
  ∀ {items : List SignatureItem} {scope : Scope} {parent : Identifier}
    {documented : List Item}, scope.Rooted root → parent.Rooted root →
      (documentItems config scope parent items).outcome = .ok documented →
        ∀ item ∈ documented, item.WellFormed config root parent
  | [], _, _, _, _, _, hdoc => by
    obtain rfl := Except.ok.inj hdoc
    simp
  | item :: items, _, _, _, hscope, hparent, hdoc => by
    simp [documentItems] at hdoc
    obtain ⟨head, hhead, rest, hrest, rfl⟩ := hdoc
    rw [List.forall_mem_append]
    constructor
    · apply SignatureItem.document_wellFormed hscope hparent hhead
    · apply documentItems_wellFormed hscope hparent hrest

/-- The documentation of a written item is well formed. -/
theorem SignatureItem.document_wellFormed :
  ∀ {item : SignatureItem} {scope : Scope} {parent : Identifier} {documented : List Item},
    scope.Rooted root → parent.Rooted root →
      (item.document config scope parent).outcome = .ok documented →
        ∀ item ∈ documented, item.WellFormed config root parent
  | .value _ d, _, _, _, hscope, hparent, hdoc => by
    rw [SignatureItem.document] at hdoc
    apply documentCommented_wellFormed hdoc
    intro item hitem
    apply ValueDescription.document_wellFormed hscope hparent hitem
  | .type _ _ ds, _, _, _, hscope, hparent, hdoc => by
    rw [SignatureItem.document] at hdoc
    apply documentGroup_wellFormed _ hdoc
    intro flag d item hitem
    simp [TypeDeclaration.documentItem] at hitem
    obtain ⟨decl, hdecl, rfl⟩ := hitem
    constructor
    apply TypeDeclaration.document_wellFormed hscope hparent hdecl
  | .typeSubst _ ds, _, _, _, hscope, hparent, hdoc => by
    rw [SignatureItem.document] at hdoc
    apply documentGroup_wellFormed _ hdoc
    intro flag d item hitem
    simp [TypeDeclaration.documentSubstitution] at hitem
    obtain ⟨decl, hdecl, rfl⟩ := hitem
    constructor
    apply TypeDeclaration.document_wellFormed hscope hparent hdecl
  | .extension _ d, _, _, _, hscope, hparent, hdoc => by
    rw [SignatureItem.document] at hdoc
    apply documentCommented_wellFormed hdoc
    intro item hitem
    simp at hitem
    obtain ⟨extension, hextension, rfl⟩ := hitem
    constructor
    apply TypeExtension.document_wellFormed hscope hparent hextension
  | .exception _ d, _, _, _, hscope, hparent, hdoc => by
    rw [SignatureItem.document] at hdoc
    apply documentCommented_wellFormed hdoc
    intro item hitem
    simp [ExtensionConstructor.documentException] at hitem
    obtain ⟨c, hc, rfl⟩ := hitem
    have hid := hparent.child .exception rfl d.ident.name
    constructor
    apply ExtensionConstructor.document_wellFormed hscope hid hc
  | .module _ d, _, _, _, hscope, hparent, hdoc => by
    rw [SignatureItem.document] at hdoc
    apply ModuleDeclaration.document_wellFormed hscope hparent hdoc
  | .moduleSubst _ d, _, _, _, hscope, hparent, hdoc => by
    rw [SignatureItem.document] at hdoc
    apply documentCommented_wellFormed hdoc
    intro item hitem
    simp [ModuleSubstitution.document] at hitem
    obtain ⟨r, hr, rfl⟩ := hitem
    constructor
    · apply hparent.child .module rfl d.ident.name
    · apply hscope.resolve hr
  | .recModule _ ds, _, _, _, hscope, hparent, hdoc => by
    rw [SignatureItem.document] at hdoc
    apply documentModules_wellFormed hscope hparent hdoc
  | .moduleType _ ⟨x, some type, attributes, loc⟩, _, _, _, hscope, hparent, hdoc => by
    rw [SignatureItem.document] at hdoc
    apply documentCommented_wellFormed hdoc
    intro item hitem
    simp at hitem
    obtain ⟨out, hout, rfl⟩ := hitem
    apply Item.WellFormed.moduleType
    · apply ModuleType.marked hparent x.name
      simpa using ModuleType.isSignature_iff hout
    · rintro _ ⟨⟩
      apply ModuleType.document_wellFormed hscope (hparent.child .moduleType rfl x.name) hout
  | .moduleType _ ⟨x, none, attributes, loc⟩, _, _, _, _, hparent, hdoc => by
    rw [SignatureItem.document] at hdoc
    apply documentCommented_wellFormed hdoc
    intro item hitem
    simp at hitem
    subst hitem
    apply Item.WellFormed.moduleType
    · apply ModuleType.marked hparent x.name _ (by simp)
    · simp
  | .opened _ _, _, _, _, _, _, hdoc => by
    obtain rfl := Except.ok.inj hdoc
    simp
  | .included _ ⟨type, content, loc, attributes⟩, _, _, _, hscope, hparent, hdoc => by
    rw [SignatureItem.document] at hdoc
    apply documentCommented_wellFormed hdoc
    intro item hitem
    simp [Compiled.Signature.document] at hitem
    obtain ⟨type', htype, following, hfollowing, rfl⟩ := hitem
    -- The operand and the content are both read under the parent of the include.
    have hbound := hscope.bindCompiled hparent content
    have hitems := Compiled.documentItems_wellFormed hbound.scope hparent hfollowing
    constructor
    · rfl
    · rfl
    · apply ModuleType.document_wellFormed hscope hparent htype
    · intro item hitem
      apply hitems.items item (Signature.mem_of_mem_ofItems hitem)
  | .class _ ds, _, _, _, hscope, hparent, hdoc => by
    rw [SignatureItem.document] at hdoc
    apply documentGroup_wellFormed _ hdoc
    intro flag d item hitem
    simp [ClassDeclaration.documentItem] at hitem
    obtain ⟨decl, hdecl, rfl⟩ := hitem
    constructor
    apply ClassDeclaration.document_wellFormed hscope hparent hdecl
  | .classType _ ds, _, _, _, hscope, hparent, hdoc => by
    rw [SignatureItem.document] at hdoc
    apply documentGroup_wellFormed _ hdoc
    intro flag d item hitem
    simp [ClassDeclaration.documentClassTypeItem] at hitem
    obtain ⟨decl, hdecl, rfl⟩ := hitem
    constructor
    apply ClassDeclaration.documentClassType_wellFormed hscope hparent hdecl
  | .floating _ a, _, _, _, _, _, hdoc => by
    simp [SignatureItem.document] at hdoc
    obtain rfl := hdoc
    apply wellFormed_comments _

theorem documentModules_wellFormed :
  ∀ {ds : List ModuleDeclaration} {scope : Scope} {parent : Identifier} {flag : Model.RecFlag}
    {documented : List Item}, scope.Rooted root → parent.Rooted root →
      (documentModules config scope parent flag ds).outcome = .ok documented →
        ∀ item ∈ documented, item.WellFormed config root parent
  | [], _, _, _, _, _, _, hdoc => by
    obtain rfl := Except.ok.inj hdoc
    simp
  | d :: ds, _, _, _, _, hscope, hparent, hdoc => by
    simp [documentModules] at hdoc
    obtain ⟨head, hhead, rest, hrest, rfl⟩ := hdoc
    rw [List.forall_mem_append]
    constructor
    · apply ModuleDeclaration.document_wellFormed hscope hparent hhead
    · apply documentModules_wellFormed hscope hparent hrest

theorem ModuleDeclaration.document_wellFormed :
  ∀ {d : ModuleDeclaration} {scope : Scope} {parent : Identifier} {flag : Model.RecFlag}
    {documented : List Item}, scope.Rooted root → parent.Rooted root →
      (d.document config scope parent flag).outcome = .ok documented →
        ∀ item ∈ documented, item.WellFormed config root parent
  | ⟨x, type, attributes, loc⟩, _, _, _, _, hscope, hparent, hdoc => by
    obtain ⟨comments, declType, rfl, htype⟩ := ModuleDeclaration.document_marks hdoc
    rw [List.forall_mem_append, List.forall_mem_singleton]
    constructor
    · apply wellFormed_comments comments
    · apply Item.WellFormed.module
      · apply Module.marked hparent x.name _ (ModuleType.isSignature_iff_declType htype)
      · rcases htype with ⟨info, p, r, -, hr, rfl⟩ | ⟨-, out, hout, rfl⟩
        · constructor
          apply hscope.resolve hr
        · have hid := hparent.child .module rfl x.name
          constructor
          apply ModuleType.document_wellFormed hscope hid hout

end

end Written

/-- Every loaded interface is well formed, and its signature was read in a scope that is rooted
in it: no identifier is built with a kind that children cannot have. -/
theorem load_wellFormed {container unit : String} {signature : Written.Signature}
    {interface : Model.Interface}
    (hload : (Model.Interface.load config container unit signature).outcome = .ok interface) :
  interface.WellFormed config ∧
    (Scope.empty.bindWritten interface.id signature).scope.Rooted interface.id
  := by
  simp [Model.Interface.load, Written.Signature.document] at hload
  obtain ⟨documented, hitems, rfl⟩ := hload
  have hid := Identifier.Rooted.unit container unit
  have hbound := Scope.Rooted.empty.bindWritten hid signature
  constructor
  · constructor
    · apply hid
    · intro item hitem
      apply Written.documentItems_wellFormed hbound.scope hid hitems item
        (Signature.mem_of_mem_ofItems hitem)
  · apply hbound.scope

/-- A module with an internal name, another one with a canonical path and a quantifier without
variables in it, an alias, a functor whose parameter is not a plain signature, and an include. -/
def markedSample : Written.Signature :=
  let info : Written.NodeInfo := ⟨.none, []⟩
  let canonical : Attribute := ⟨⟨"doc", .none⟩, .str "@canonical Lib.Api", .none⟩
  let value : Written.SignatureItem :=
    .value .none ⟨⟨"v", 5, 0⟩, .poly info [] (.var info "a"), [], .none, []⟩
  [.module .none ⟨⟨"Lib__impl", 1, 0⟩, .signature info [], [], .none⟩,
    .module .none ⟨⟨"Lib__api", 2, 0⟩, .signature info [value], [canonical], .none⟩,
    .module .none ⟨⟨"A", 3, 0⟩, .alias info (.ident ⟨"Lib__impl", 1, 0⟩), [], .none⟩,
    .moduleType .none ⟨⟨"S", 4, 0⟩, some (.signature info []), [], .none⟩,
    .module .none ⟨⟨"F", 6, 0⟩,
      .functor info (.named ⟨"X", 7, 0⟩ (.path info (.ident ⟨"S", 4, 0⟩))) (.signature info []),
      [], .none⟩,
    .included .none ⟨.path info (.ident ⟨"S", 4, 0⟩), [], .none, []⟩]

/-- The marks of the modules of `markedSample`, in an interface that is well formed. -/
theorem markedSample_wellFormed :
  ∃ interface,
    (Model.Interface.load .standard "pkg" "Unit" markedSample).outcome = .ok interface ∧
    (interface.items.filterMap fun
      | .module _ m => some (m.id.text, m.canonical, m.hidden, m.expanded)
      | _ => none)
      = [("Unit.module-Lib__impl", none, true, true),
        ("Unit.module-Lib__api", some (.dot (.root "Lib") "Api"), false, true),
        ("Unit.module-A", none, false, false), ("Unit.module-F", none, false, false)] ∧
    interface.WellFormed .standard
  := by
  obtain ⟨interface, hload⟩ : ∃ interface,
    (Model.Interface.load .standard "pkg" "Unit" markedSample).outcome = .ok interface := ⟨_, rfl⟩
  use interface, hload
  constructor
  · obtain rfl := Except.ok.inj hload
    rfl
  · apply (load_wellFormed hload).1

end InterfaceDocs
