import InterfaceDocs.Load.WrittenSignature
import InterfaceDocs.Proofs.Hygiene.Declaration
import InterfaceDocs.Proofs.Identity

/-!
# Signatures in scopes that agree

Documenting a signature binds its items and then reads them in the bound scope, so it gives the
same in scopes that agree on its identifiers.  Hence nothing else of a scope can be observed:
`scope_hygiene`.
-/

namespace InterfaceDocs

variable {xs : List Ident} (config : Config)

/-! ### Compiled signatures -/

namespace Compiled

mutual

/-- Documenting a compiled module type depends on what its identifiers are bound to. -/
theorem ModuleType.document_congr :
  ∀ {s t : Scope}, s.Agree xs t → ∀ (owner : Identifier) (type : ModuleType),
    type.idents ⊆ xs → type.document config s owner = type.document config t owner
  | _, _, h, _, .path p, hx => by
    rw [ModuleType.document, ModuleType.document, Scope.resolve_congr h .moduleType hx]
  | _, _, h, owner, .signature items, hx => by
    have hbound := Scope.bindCompiled_congr h owner hx
    rw [ModuleType.document, ModuleType.document,
      documentItems_congr hbound.scope owner false items hx]
  | _, _, h, owner, .functor _ none result, hx => by
    rw [ModuleType.document, ModuleType.document, ModuleType.document_congr h owner result hx]
  | s, t, h, owner, .functor x (some arg) result, hx => by
    obtain ⟨harg, hresult⟩ := List.append_subset.mp hx
    have hid := Scope.functorArgument_congr h owner x.name
    have hshape := Scope.compiledShape_congr h (t.functorArgument owner x.name) arg harg
    have hinner := h.addFunctorParameter x (t.functorArgument owner x.name)
      (t.compiledShape (t.functorArgument owner x.name) arg)
    simp only [ModuleType.document, hid, hshape, ModuleType.document_congr h _ arg harg,
      ModuleType.document_congr hinner owner result hresult]
  | _, _, _, _, .alias _, _ => by
    rw [ModuleType.document, ModuleType.document]

/-- Documenting compiled items depends on what their identifiers are bound to. -/
theorem documentItems_congr :
  ∀ {s t : Scope}, s.Agree xs t →
    ∀ (parent : Identifier) (continues : Bool) (items : List SignatureItem),
      identsItems items ⊆ xs →
        documentItems config s parent continues items
          = documentItems config t parent continues items
  | _, _, _, _, _, [], _ => by
    rw [documentItems, documentItems]
  | _, _, h, parent, _, .value x d :: items, hx => by
    obtain ⟨hd, hitems⟩ := List.append_subset.mp hx
    rw [documentItems, documentItems, ValueDescription.document_congr config h parent x hd,
      documentItems_congr h parent false items hitems]
  | _, _, h, parent, _, .type x d status :: items, hx => by
    obtain ⟨hd, hitems⟩ := List.append_subset.mp hx
    rw [documentItems, documentItems, TypeDeclaration.document_congr config h parent x hd,
      documentItems_congr h parent false items hitems]
  | _, _, h, parent, continues, .extension x d status :: items, hx => by
    obtain ⟨hd, hitems⟩ := List.append_subset.mp hx
    have hconstructor (id : Identifier) := ExtensionConstructor.document_congr config h id hd
    have hhead := ExtensionConstructor.documentHead_congr h hd []
    have hrest (continues : Bool) := documentItems_congr h parent continues items hitems
    cases status <;> simp only [documentItems, hconstructor, hhead, hrest]
  | _, _, h, parent, _, .module x ⟨type, attributes, loc⟩ status :: items, hx => by
    obtain ⟨htype, hitems⟩ := List.append_subset.mp hx
    have hrest := documentItems_congr h parent false items hitems
    cases halias : type.alias? with
    | some p =>
      obtain rfl := ModuleType.alias?_eq_some halias
      simp only [documentItems, halias, Scope.resolve_congr h .module htype, hrest]
    | none =>
      have hout (id : Identifier) := ModuleType.document_congr h id type htype
      simp only [documentItems, halias, hout, hrest]
  | _, _, h, parent, _, .moduleType x ⟨some type, attributes, loc⟩ :: items, hx => by
    obtain ⟨htype, hitems⟩ := List.append_subset.mp hx
    have hout (id : Identifier) := ModuleType.document_congr h id type htype
    have hrest := documentItems_congr h parent false items hitems
    simp only [documentItems, hout, hrest]
  | _, _, h, parent, _, .moduleType x ⟨none, attributes, loc⟩ :: items, hx => by
    have hrest := documentItems_congr h parent false items hx
    simp only [documentItems, hrest]
  | _, _, h, parent, _, .class x d status :: items, hx => by
    obtain ⟨hd, hitems⟩ := List.append_subset.mp hx
    rw [documentItems, documentItems, ClassDeclaration.document_congr config h parent x hd,
      documentItems_congr h parent false items hitems]
  | _, _, h, parent, _, .classType x d status :: items, hx => by
    obtain ⟨hd, hitems⟩ := List.append_subset.mp hx
    rw [documentItems, documentItems, ClassTypeDeclaration.document_congr config h parent x hd,
      documentItems_congr h parent false items hitems]

end

/-- A compiled signature is documented alike in scopes that agree on its identifiers. -/
theorem Signature.document_congr {s t : Scope} (h : s.Agree xs t) (parent : Identifier)
    {items : Signature} (hx : identsItems items ⊆ xs) :
  Signature.document config s parent items = Signature.document config t parent items
  := by
  have hbound := Scope.bindCompiled_congr h parent hx
  rw [Signature.document, Signature.document,
    documentItems_congr config hbound.scope parent false items hx]

end Compiled

/-! ### Written signatures -/

namespace Written

variable {s t : Scope}

/-- Groups are documented alike if their members are. -/
theorem documentGroup_congr {α : Type} {attributes : α → List Attribute}
    {document document' : Model.RecFlag → α → Reading Model.Item} {ds : List α}
    (h : ∀ flag, ∀ d ∈ ds, document flag d = document' flag d) (flag : Model.RecFlag) :
  documentGroup config attributes document flag ds
    = documentGroup config attributes document' flag ds
  := by
  induction ds generalizing flag with
  | nil => rfl
  | cons d ds ih =>
    have hds := ih (fun flag e he => h flag e (List.mem_cons_of_mem d he)) .subsequent
    rw [documentGroup, documentGroup, h flag d List.mem_cons_self, hds]

/-- The head of a substitution is looked up like the rest of its manifest. -/
theorem documentHead_congr (h : s.Agree xs t) {type : CoreType} (hx : type.idents ⊆ xs) :
  documentHead s type = documentHead t type
  := by
  cases type with
  | constr info p args =>
    rw [documentHead, documentHead, Scope.resolve_congr h .type (List.append_subset.mp hx).1]
  | _ => rfl

/-- A clause is documented alike in scopes that agree on its identifiers. -/
theorem WithClause.document_congr (h : s.Agree xs t) (subject : Subject) {c : WithClause}
    (hx : c.idents ⊆ xs) :
  c.document config s subject = c.document config t subject
  := by
  rcases c with ⟨name, constraint⟩
  cases constraint with
  | typeEq d => simp only [WithClause.document, d.documentEquation_congr config h hx]
  | moduleEq p => simp only [WithClause.document, Scope.resolve_congr h .module hx]
  | typeSubst d =>
    have hequation := d.documentEquation_congr config h hx
    cases hmanifest : d.manifest with
    | none => simp only [WithClause.document, hmanifest]
    | some manifest =>
      have hidents : manifest.idents ⊆ xs := by
        have hoption := (List.append_subset.mp hx).1
        rw [hmanifest] at hoption
        apply idents_subset_of_mem hoption List.mem_cons_self
      simp only [WithClause.document, hmanifest, documentHead_congr h hidents, hequation]
  | moduleSubst p => simp only [WithClause.document, Scope.resolve_congr h .module hx]

/-- A module expression is documented alike in scopes that agree on its identifiers. -/
theorem ModuleExpr.document_congr (h : s.Agree xs t) (owner : Identifier) {expr : ModuleExpr}
    (hx : expr.idents ⊆ xs) :
  expr.document config s owner = expr.document config t owner
  := by
  cases expr with
  | path info p =>
    rw [ModuleExpr.document, ModuleExpr.document,
      Scope.resolve_congr h .module (List.append_subset.mp hx).1]
  | _ =>
    simp only [ModuleExpr.document]
    rw [Compiled.ModuleType.document_congr config h owner _ hx]

mutual

/-- Documenting a written module type depends on what its identifiers are bound to. -/
theorem ModuleType.document_congr :
  ∀ {s t : Scope}, s.Agree xs t → ∀ (owner : Identifier) (type : ModuleType),
    type.idents ⊆ xs → type.document config s owner = type.document config t owner
  | _, _, h, _, .path _ p, hx => by
    rw [ModuleType.document, ModuleType.document, Scope.resolve_congr h .moduleType hx]
  | _, _, h, owner, .signature _ items, hx => by
    have hbound := Scope.bindWritten_congr h owner hx
    rw [ModuleType.document, ModuleType.document,
      documentItems_congr hbound.scope owner items hx]
  | _, _, h, owner, .functor _ .unit result, hx => by
    rw [ModuleType.document, ModuleType.document, ModuleType.document_congr h owner result hx]
  | _, t, h, owner, .functor _ (.named x arg) result, hx => by
    obtain ⟨harg, hresult⟩ := List.append_subset.mp hx
    have hid := Scope.functorArgument_congr h owner x.name
    have hshape := Scope.writtenShape_congr h (t.functorArgument owner x.name) arg harg
    have hinner := h.addFunctorParameter x (t.functorArgument owner x.name)
      (t.writtenShape (t.functorArgument owner x.name) arg)
    simp only [ModuleType.document, hid, hshape, ModuleType.document_congr h _ arg harg,
      ModuleType.document_congr hinner owner result hresult]
  | s, t, h, owner, .constrained _ body clauses, hx => by
    obtain ⟨hbody, hclauses⟩ := List.append_subset.mp hx
    have heach : Reading.each (WithClause.document config s (t.subjectOf owner body)) clauses
        = Reading.each (WithClause.document config t (t.subjectOf owner body)) clauses := by
      apply Reading.each_congr
      intro c hc
      apply WithClause.document_congr config h _ (idents_subset_of_mem hclauses hc)
    simp only [ModuleType.document, ModuleType.document_congr h owner body hbody,
      Scope.subjectOf_congr h owner body hbody, heach]
  | _, _, h, owner, .typeOf _ expr, hx => by
    rw [ModuleType.document, ModuleType.document, ModuleExpr.document_congr config h owner hx]
  | _, _, _, _, .alias _ _, _ => by
    rw [ModuleType.document, ModuleType.document]

/-- Documenting written items depends on what their identifiers are bound to. -/
theorem documentItems_congr :
  ∀ {s t : Scope}, s.Agree xs t → ∀ (parent : Identifier) (items : List SignatureItem),
    identsItems items ⊆ xs →
      documentItems config s parent items = documentItems config t parent items
  | _, _, _, _, [], _ => by
    rw [documentItems, documentItems]
  | _, _, h, parent, item :: items, hx => by
    obtain ⟨hitem, hitems⟩ := List.append_subset.mp hx
    rw [documentItems, documentItems, SignatureItem.document_congr h parent item hitem,
      documentItems_congr h parent items hitems]

/-- An item is documented alike in scopes that agree on its identifiers. -/
theorem SignatureItem.document_congr :
  ∀ {s t : Scope}, s.Agree xs t → ∀ (parent : Identifier) (item : SignatureItem),
    item.idents ⊆ xs → item.document config s parent = item.document config t parent
  | _, _, h, parent, .value _ d, hx => by
    rw [SignatureItem.document, SignatureItem.document,
      ValueDescription.document_congr config h parent hx]
  | _, _, h, parent, .type _ flag ds, hx => by
    rw [SignatureItem.document, SignatureItem.document]
    apply documentGroup_congr
    intro flag d hd
    rw [TypeDeclaration.documentItem, TypeDeclaration.documentItem,
      d.document_congr config h parent (idents_subset_of_mem hx hd)]
  | _, _, h, parent, .typeSubst _ ds, hx => by
    rw [SignatureItem.document, SignatureItem.document]
    apply documentGroup_congr
    intro flag d hd
    rw [TypeDeclaration.documentSubstitution, TypeDeclaration.documentSubstitution,
      d.document_congr config h parent (idents_subset_of_mem hx hd)]
  | _, _, h, parent, .extension _ d, hx => by
    rw [SignatureItem.document, SignatureItem.document, d.document_congr config h parent hx]
  | _, _, h, parent, .exception _ d, hx => by
    rw [SignatureItem.document, SignatureItem.document, ExtensionConstructor.documentException,
      ExtensionConstructor.documentException, d.document_congr config h _ hx]
  | _, _, h, parent, .module _ d, hx => by
    rw [SignatureItem.document, SignatureItem.document,
      ModuleDeclaration.document_congr h parent .ordinary d hx]
  | _, _, h, parent, .moduleSubst _ d, hx => by
    rw [SignatureItem.document, SignatureItem.document, ModuleSubstitution.document,
      ModuleSubstitution.document, Scope.resolve_congr h .module hx]
  | _, _, h, parent, .recModule _ ds, hx => by
    rw [SignatureItem.document, SignatureItem.document,
      documentModules_congr h parent .ordinary ds hx]
  | _, _, h, parent, .moduleType _ ⟨x, some type, attributes, loc⟩, hx => by
    have hout (id : Identifier) := ModuleType.document_congr h id type hx
    simp only [SignatureItem.document, hout]
  | _, _, _, _, .moduleType _ ⟨x, none, attributes, loc⟩, _ => by
    simp only [SignatureItem.document]
  | _, _, _, _, .opened _ _, _ => by
    rw [SignatureItem.document, SignatureItem.document]
  | _, _, h, parent, .included _ ⟨type, content, loc, attributes⟩, hx => by
    obtain ⟨htype, hcontent⟩ := List.append_subset.mp hx
    rw [SignatureItem.document, SignatureItem.document,
      ModuleType.document_congr h parent type htype,
      Compiled.Signature.document_congr config h parent hcontent]
  | _, _, h, parent, .class _ ds, hx => by
    rw [SignatureItem.document, SignatureItem.document]
    apply documentGroup_congr
    intro flag d hd
    have htype := idents_subset_of_mem hx hd
    rw [ClassDeclaration.documentItem, ClassDeclaration.documentItem,
      d.document_congr config h parent htype]
  | _, _, h, parent, .classType _ ds, hx => by
    rw [SignatureItem.document, SignatureItem.document]
    apply documentGroup_congr
    intro flag d hd
    have htype := idents_subset_of_mem hx hd
    rw [ClassDeclaration.documentClassTypeItem, ClassDeclaration.documentClassTypeItem,
      d.documentClassType_congr config h parent htype]
  | _, _, _, _, .floating _ _, _ => by
    rw [SignatureItem.document, SignatureItem.document]

theorem documentModules_congr :
  ∀ {s t : Scope}, s.Agree xs t →
    ∀ (parent : Identifier) (flag : Model.RecFlag) (ds : List ModuleDeclaration),
      identsModules ds ⊆ xs →
        documentModules config s parent flag ds = documentModules config t parent flag ds
  | _, _, _, _, _, [], _ => by
    rw [documentModules, documentModules]
  | _, _, h, parent, flag, d :: ds, hx => by
    obtain ⟨hd, hds⟩ := List.append_subset.mp hx
    rw [documentModules, documentModules, ModuleDeclaration.document_congr h parent flag d hd,
      documentModules_congr h parent .subsequent ds hds]

theorem ModuleDeclaration.document_congr :
  ∀ {s t : Scope}, s.Agree xs t →
    ∀ (parent : Identifier) (flag : Model.RecFlag) (d : ModuleDeclaration),
      d.idents ⊆ xs → d.document config s parent flag = d.document config t parent flag
  | _, _, h, parent, flag, ⟨x, type, attributes, loc⟩, hx => by
    cases halias : type.alias? with
    | some p =>
      obtain ⟨info, rfl⟩ := ModuleType.alias?_eq_some halias
      simp only [ModuleDeclaration.document, halias, Scope.resolve_congr h .module hx]
    | none =>
      have hout (id : Identifier) := ModuleType.document_congr h id type hx
      simp only [ModuleDeclaration.document, halias, hout]

end

/-- A written signature is documented alike in scopes that agree on its identifiers. -/
theorem Signature.document_congr (h : s.Agree xs t) (parent : Identifier) {items : Signature}
    (hx : identsItems items ⊆ xs) :
  Signature.document config s parent items = Signature.document config t parent items
  := by
  have hbound := Scope.bindWritten_congr h parent hx
  rw [Signature.document, Signature.document,
    documentItems_congr config hbound.scope parent items hx]

end Written

/-! ### Hygiene -/

/-- Every tree whose identifiers are among the given ones is read with the same events and the
same outcome in the two scopes. -/
structure Scope.SameReadings (xs : List Ident) (s t : Scope) : Prop where
  signature : ∀ (config : Config) (owner : Identifier) (items : Written.Signature),
    Written.identsItems items ⊆ xs →
      Written.Signature.document config s owner items
        = Written.Signature.document config t owner items
  moduleType : ∀ (config : Config) (owner : Identifier) (type : Written.ModuleType),
    type.idents ⊆ xs → type.document config s owner = type.document config t owner
  coreType : ∀ (config : Config) (type : Written.CoreType),
    type.idents ⊆ xs → type.document config s = type.document config t
  compiledSignature : ∀ (config : Config) (owner : Identifier) (items : Compiled.Signature),
    Compiled.identsItems items ⊆ xs →
      Compiled.Signature.document config s owner items
        = Compiled.Signature.document config t owner items
  compiledModuleType : ∀ (config : Config) (owner : Identifier) (type : Compiled.ModuleType),
    type.idents ⊆ xs → type.document config s owner = type.document config t owner

/-- All readers read the same in scopes that agree. -/
theorem Scope.Agree.sameReadings {s t : Scope} (h : s.Agree xs t) :
  s.SameReadings xs t
  where
  signature config owner _ hx := Written.Signature.document_congr config h owner hx
  moduleType config owner type hx := type.document_congr config h owner hx
  coreType config type hx := type.document_congr config h hx
  compiledSignature config owner _ hx := Compiled.Signature.document_congr config h owner hx
  compiledModuleType config owner type hx := type.document_congr config h owner hx

/-- Scopes in the result of the same functor parameter are told apart only by what they bind the
identifiers of a tree to.  Hence a binding cannot be observed where it is shadowed or where its
identifier does not occur, and neither can the order of bindings of different identifiers. -/
theorem scope_hygiene :
  (∀ (xs : List Ident) (s t : Scope), s.functorParameter = t.functorParameter →
    (∀ x ∈ xs, s.lookup x = t.lookup x) → s.SameReadings xs t) ∧
  (∀ (xs : List Ident) (before after : List Binding) (b : Binding)
    (parameter : Option Identifier), (∃ c ∈ before, c.ident.same b.ident) →
      Scope.SameReadings xs ⟨before ++ b :: after, parameter⟩ ⟨before ++ after, parameter⟩) ∧
  (∀ (xs : List Ident) (before after : List Binding) (b : Binding)
    (parameter : Option Identifier), (∀ x ∈ xs, b.ident.same x = false) →
      Scope.SameReadings xs ⟨before ++ b :: after, parameter⟩ ⟨before ++ after, parameter⟩) ∧
  (∀ (xs : List Ident) (before after : List Binding) (b c : Binding)
    (parameter : Option Identifier), b.ident.same c.ident = false →
      Scope.SameReadings xs ⟨before ++ b :: c :: after, parameter⟩
        ⟨before ++ c :: b :: after, parameter⟩)
  := by
  constructor
  · intro xs s t hparameter hlookup
    apply Scope.Agree.sameReadings ⟨hparameter, hlookup⟩
  constructor
  · intro xs before after b parameter h
    exact (Scope.agree_of_shadowed before after parameter xs h).sameReadings
  constructor
  · intro xs before after b parameter h
    exact (Scope.agree_of_unused before after parameter h).sameReadings
  · intro xs before after b c parameter h
    exact (Scope.agree_of_swap before after parameter xs h).sameReadings

/-- A value of a type that is bound outside. -/
def hygieneSample : Written.Signature :=
  [.value .none ⟨⟨"v", 2, 0⟩, .constr ⟨.none, []⟩ (.ident ⟨"t", 1, 0⟩) [], [], .none, []⟩]

/-- The binding of a type of the unit. -/
def hygieneSample.binding (name : String) (stamp : Int32) : Binding :=
  ⟨⟨name, stamp, 0⟩, .child (.root "pkg" "U") .type name, .unknown⟩

/-- The binding of the type may shadow another one and stand behind one of another identifier. -/
theorem hygieneSample_sameReadings :
  let scope : Scope :=
    ⟨[hygieneSample.binding "u" 3, hygieneSample.binding "t" 1, hygieneSample.binding "s" 1],
      none⟩
  let scope' : Scope := ⟨[hygieneSample.binding "t" 1], none⟩
  ∃ s,
    (Written.Signature.document .standard scope (.root "pkg" "U") hygieneSample).outcome = .ok s ∧
    (Written.Signature.document .standard scope' (.root "pkg" "U") hygieneSample).outcome = .ok s
  := by
  intro scope scope'
  have hlookup : ∀ x ∈ Written.identsItems hygieneSample, scope.lookup x = scope'.lookup x := by
    intro x hx
    rw [List.mem_singleton.mp hx]
    rfl
  have hsame := scope_hygiene.1 (Written.identsItems hygieneSample) scope scope' rfl hlookup
  obtain ⟨s, hs⟩ : ∃ s,
      (Written.Signature.document .standard scope' (.root "pkg" "U") hygieneSample).outcome
        = .ok s := ⟨_, rfl⟩
  rw [hsame.signature .standard (.root "pkg" "U") hygieneSample (List.Subset.refl _)]
  use s, hs, hs

end InterfaceDocs
