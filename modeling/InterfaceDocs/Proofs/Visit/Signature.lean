import InterfaceDocs.Load.Interface
import InterfaceDocs.Proofs.Visit.Declaration

/-!
# When a load succeeds

Documenting a signature gives a value exactly when the visits to the signature are sound.  So
a load gives an interface exactly when all identifiers in the paths that it visits are bound
and it comes upon no defect (`load_isOk_iff`).
-/

namespace InterfaceDocs

variable {config : Config}

namespace Compiled

mutual

/-- A compiled module type is documented exactly when the visits to it are sound. -/
theorem ModuleType.isOk_document :
  ∀ {scope : Scope} {env : List Ident} {owner : Identifier} (type : ModuleType),
    scope.Binds env →
      (Outcome.IsOk (type.document config scope owner).outcome ↔ AllSound (type.visits env))
  | _, _, _, .path p, h => by
    simp [ModuleType.document, ModuleType.visits, h.isOk_resolve]
  | _, _, owner, .signature items, h => by
    simp [ModuleType.document, ModuleType.visits,
      isOk_documentItems items (h.bindCompiled owner items)]
  | _, _, _, .functor _ none result, h => by
    simp [ModuleType.document, ModuleType.visits, ModuleType.isOk_document result h]
  | scope, _, owner, .functor x (some arg) result, h => by
    have hinner := h.addFunctorParameter x (scope.functorArgument owner x.name)
      (scope.compiledShape (scope.functorArgument owner x.name) arg)
    simp [ModuleType.document, ModuleType.visits, ModuleType.isOk_document arg h,
      ModuleType.isOk_document result hinner]
  | _, _, _, .alias p, _ => by simp [ModuleType.document, ModuleType.visits]

/-- Compiled items are documented exactly when the visits to them are sound. -/
theorem isOk_documentItems :
  ∀ {scope : Scope} {env : List Ident} {parent : Identifier} {continues : Bool}
    (items : List SignatureItem),
    scope.Binds env →
      (Outcome.IsOk (documentItems config scope parent continues items).outcome ↔
        AllSound (visitsItems env continues items))
  | _, _, _, _, [], _ => by simp [documentItems, visitsItems]
  | _, _, _, _, .value x d :: items, h => by
    simp [documentItems, visitsItems, ValueDescription.isOk_document h,
      isOk_documentItems items h]
  | _, _, _, _, .type x d status :: items, h => by
    simp [documentItems, visitsItems, TypeDeclaration.isOk_document h,
      isOk_documentItems items h]
  | _, _, _, continues, .extension x d status :: items, h => by
    by_cases hexception : status = .exception
    · subst hexception
      simp [documentItems, visitsItems, ExtensionConstructor.isOk_document h,
        isOk_documentItems items h]
    · by_cases hcontinues : continues = true ∧ status = .next
      · simp [documentItems, visitsItems, hcontinues, ExtensionConstructor.isOk_document h,
          isOk_documentItems items h]
      · simp [documentItems, visitsItems, hcontinues,
          ExtensionConstructor.isOk_document h, ExtensionConstructor.isOk_documentHead h,
          isOk_documentItems items h]
  | _, _, _, _, .module x ⟨type, attributes, loc⟩ status :: items, h => by
    cases halias : type.alias? with
    | some p =>
      simp [documentItems, visitsItems, halias, h.isOk_resolve, isOk_documentItems items h]
    | none =>
      simp [documentItems, visitsItems, halias, ModuleType.isOk_document type h,
        isOk_documentItems items h]
  | _, _, _, _, .moduleType x ⟨some type, attributes, loc⟩ :: items, h => by
    simp [documentItems, visitsItems, ModuleType.isOk_document type h,
      isOk_documentItems items h]
  | _, _, _, _, .moduleType x ⟨none, attributes, loc⟩ :: items, h => by
    simp [documentItems, visitsItems, isOk_documentItems items h]
  | _, _, _, _, .class x d status :: items, h => by
    simp [documentItems, visitsItems, ClassDeclaration.isOk_document h,
      isOk_documentItems items h]
  | _, _, _, _, .classType x d status :: items, h => by
    simp [documentItems, visitsItems, ClassTypeDeclaration.isOk_document h,
      isOk_documentItems items h]

end

/-- A compiled signature is documented exactly when the visits to it are sound. -/
theorem Signature.isOk_document {scope : Scope} {env : List Ident} {parent : Identifier}
    (h : scope.Binds env) (items : Signature) :
  Outcome.IsOk (Signature.document config scope parent items).outcome ↔
    AllSound (Signature.visits env items)
  := by
  simp [Signature.document, Signature.visits,
    isOk_documentItems items (h.bindCompiled parent items)]

end Compiled

namespace Written

/-- The comments that belong to an item do not matter. -/
@[simp]
theorem isOk_documentCommented {attributes : List Attribute} {item : Reading Model.Item} :
  Outcome.IsOk (documentCommented config attributes item).outcome ↔ Outcome.IsOk item.outcome
  := by
  simp [documentCommented]

/-- The members of a group have documentations exactly when the visits to them are sound, if
this is so for each member. -/
theorem isOk_documentGroup {α : Type} {attributes : α → List Attribute}
    {document : Model.RecFlag → α → Reading Model.Item} {visits : α → List Visit}
    (h : ∀ flag d, Outcome.IsOk (document flag d).outcome ↔ AllSound (visits d))
    {flag : Model.RecFlag} {ds : List α} :
  Outcome.IsOk (documentGroup config attributes document flag ds).outcome ↔
    AllSound (ds.flatMap visits)
  := by
  induction ds generalizing flag with
  | nil => simp [documentGroup]
  | cons d ds ih => simp [documentGroup, h, ih]

/-- The head of a type is found if the type can be documented. -/
theorem isOk_documentHead {scope : Scope} {env : List Ident} (h : scope.Binds env)
    {type : CoreType} (htype : AllSound (type.visits env)) :
  Outcome.IsOk (documentHead scope type)
  := by
  unfold documentHead
  split
  · rw [CoreType.visits, allSound_path] at htype
    rw [Outcome.isOk_map]
    exact (h.isOk_resolve .type _).mpr htype.1
  · simp

/-- A clause is documented exactly when the visits to it are sound. -/
theorem WithClause.isOk_document {scope : Scope} {env : List Ident} (h : scope.Binds env)
    {subject : Subject} (c : WithClause) :
  Outcome.IsOk (c.document config scope subject).outcome ↔ AllSound (c.visits env)
  := by
  rcases c with ⟨name, constraint⟩
  cases constraint with
  | typeEq d => simp [document, visits, TypeDeclaration.isOk_documentEquation h]
  | moduleEq p => simp [document, visits, h.isOk_resolve]
  | typeSubst d =>
    cases hmanifest : d.manifest with
    | none => simp [document, visits, hmanifest]
    | some manifest =>
      simp [document, visits, hmanifest, TypeDeclaration.isOk_documentEquation h]
      intro hequation
      apply isOk_documentHead h
      simp [TypeDeclaration.visitsEquation, hmanifest, visitsOption] at hequation
      apply hequation.1
  | moduleSubst p => simp [document, visits, h.isOk_resolve]

/-- A module expression is documented exactly when the visits to it are sound. -/
theorem ModuleExpr.isOk_document {scope : Scope} {env : List Ident} (h : scope.Binds env)
    {owner : Identifier} (expr : ModuleExpr) :
  Outcome.IsOk (expr.document config scope owner).outcome ↔ AllSound (expr.visits env)
  := by
  cases expr with
  | path info p => simp [document, visits, h.isOk_resolve]
  | _ => simp [document, visits, Compiled.ModuleType.isOk_document _ h]

mutual

/-- A written module type is documented exactly when the visits to it are sound. -/
theorem ModuleType.isOk_document :
  ∀ {scope : Scope} {env : List Ident} {owner : Identifier} (type : ModuleType),
    scope.Binds env →
      (Outcome.IsOk (type.document config scope owner).outcome ↔ AllSound (type.visits env))
  | _, _, _, .path _ p, h => by
    simp [ModuleType.document, ModuleType.visits, h.isOk_resolve]
  | _, _, owner, .signature _ items, h => by
    simp [ModuleType.document, ModuleType.visits,
      isOk_documentItems items (h.bindWritten owner items)]
  | _, _, _, .functor _ .unit result, h => by
    simp [ModuleType.document, ModuleType.visits, ModuleType.isOk_document result h]
  | scope, _, owner, .functor _ (.named x arg) result, h => by
    have hinner := h.addFunctorParameter x (scope.functorArgument owner x.name)
      (scope.writtenShape (scope.functorArgument owner x.name) arg)
    simp [ModuleType.document, ModuleType.visits, ModuleType.isOk_document arg h,
      ModuleType.isOk_document result hinner]
  | _, _, _, .constrained _ body clauses, h => by
    simp [ModuleType.document, ModuleType.visits, ModuleType.isOk_document body h,
      Reading.isOk_each_iff (WithClause.isOk_document h)]
  | _, _, _, .typeOf _ expr, h => by
    simp [ModuleType.document, ModuleType.visits, ModuleExpr.isOk_document h]
  | _, _, _, .alias _ p, _ => by simp [ModuleType.document, ModuleType.visits]

/-- Written items are documented exactly when the visits to them are sound. -/
theorem isOk_documentItems :
  ∀ {scope : Scope} {env : List Ident} {parent : Identifier} (items : List SignatureItem),
    scope.Binds env →
      (Outcome.IsOk (documentItems config scope parent items).outcome ↔
        AllSound (visitsItems env items))
  | _, _, _, [], _ => by simp [documentItems, visitsItems]
  | _, _, _, item :: items, h => by
    simp [documentItems, visitsItems, SignatureItem.isOk_document item h,
      isOk_documentItems items h]

theorem SignatureItem.isOk_document :
  ∀ {scope : Scope} {env : List Ident} {parent : Identifier} (item : SignatureItem),
    scope.Binds env →
      (Outcome.IsOk (item.document config scope parent).outcome ↔ AllSound (item.visits env))
  | _, _, _, .value _ d, h => by
    simp [SignatureItem.document, SignatureItem.visits, ValueDescription.isOk_document h]
  | _, _, _, .type _ _ ds, h => by
    rw [SignatureItem.document, SignatureItem.visits]
    apply isOk_documentGroup
    intro flag d
    simp [TypeDeclaration.documentItem, TypeDeclaration.isOk_document h]
  | _, _, _, .typeSubst _ ds, h => by
    rw [SignatureItem.document, SignatureItem.visits]
    apply isOk_documentGroup
    intro flag d
    simp [TypeDeclaration.documentSubstitution, TypeDeclaration.isOk_document h]
  | _, _, _, .extension _ d, h => by
    simp [SignatureItem.document, SignatureItem.visits, TypeExtension.isOk_document h]
  | _, _, _, .exception _ d, h => by
    simp [SignatureItem.document, SignatureItem.visits, ExtensionConstructor.documentException,
      ExtensionConstructor.isOk_document h]
  | _, _, _, .module _ d, h => by
    simp [SignatureItem.document, SignatureItem.visits, ModuleDeclaration.isOk_document d h]
  | _, _, _, .moduleSubst _ d, h => by
    simp [SignatureItem.document, SignatureItem.visits, ModuleSubstitution.document,
      h.isOk_resolve]
  | _, _, _, .recModule _ ds, h => by
    simp [SignatureItem.document, SignatureItem.visits, isOk_documentModules ds h]
  | _, _, _, .moduleType _ ⟨x, some type, attributes, loc⟩, h => by
    simp [SignatureItem.document, SignatureItem.visits, ModuleType.isOk_document type h]
  | _, _, _, .moduleType _ ⟨x, none, attributes, loc⟩, _ => by
    simp [SignatureItem.document, SignatureItem.visits]
  | _, _, _, .opened _ _, _ => by simp [SignatureItem.document, SignatureItem.visits]
  | _, _, _, .included _ ⟨type, content, loc, attributes⟩, h => by
    simp [SignatureItem.document, SignatureItem.visits, ModuleType.isOk_document type h,
      Compiled.Signature.isOk_document h]
  | _, _, _, .class _ ds, h => by
    rw [SignatureItem.document, SignatureItem.visits]
    apply isOk_documentGroup
    intro flag d
    simp [ClassDeclaration.documentItem, ClassDeclaration.isOk_document h]
  | _, _, _, .classType _ ds, h => by
    rw [SignatureItem.document, SignatureItem.visits]
    apply isOk_documentGroup
    intro flag d
    simp [ClassDeclaration.documentClassTypeItem, ClassDeclaration.isOk_documentClassType h]
  | _, _, _, .floating _ _, _ => by simp [SignatureItem.document, SignatureItem.visits]

theorem isOk_documentModules :
  ∀ {scope : Scope} {env : List Ident} {parent : Identifier} {flag : Model.RecFlag}
    (ds : List ModuleDeclaration),
    scope.Binds env →
      (Outcome.IsOk (documentModules config scope parent flag ds).outcome ↔
        AllSound (visitsModules env ds))
  | _, _, _, _, [], _ => by simp [documentModules, visitsModules]
  | _, _, _, _, d :: ds, h => by
    simp [documentModules, visitsModules, ModuleDeclaration.isOk_document d h,
      isOk_documentModules ds h]

theorem ModuleDeclaration.isOk_document :
  ∀ {scope : Scope} {env : List Ident} {parent : Identifier} {flag : Model.RecFlag}
    (d : ModuleDeclaration),
    scope.Binds env →
      (Outcome.IsOk (d.document config scope parent flag).outcome ↔ AllSound (d.visits env))
  | _, _, _, _, ⟨x, type, attributes, loc⟩, h => by
    cases halias : type.alias? with
    | some p =>
      simp [ModuleDeclaration.document, ModuleDeclaration.visits, halias, h.isOk_resolve]
    | none =>
      simp [ModuleDeclaration.document, ModuleDeclaration.visits, halias,
        ModuleType.isOk_document type h]

end

/-- A written signature is documented exactly when the visits to it are sound. -/
theorem Signature.isOk_document {parent : Identifier} (signature : Signature) :
  Outcome.IsOk (Signature.document config .empty parent signature).outcome ↔
    AllSound signature.visits
  := by
  have hscope := Scope.Binds.empty.bindWritten parent signature
  rw [List.append_nil] at hscope
  simp [Signature.document, Signature.visits, isOk_documentItems signature hscope]

end Written

/-- A load gives an interface exactly when every identifier in a visited path is predefined,
persistent or the same as one in scope there, and no defect is visited. -/
theorem load_isOk_iff (config : Config) (container unit : String)
    (signature : Written.Signature) :
  (∃ interface,
    (Model.Interface.load config container unit signature).outcome = .ok interface) ↔
  (∀ env p, Visit.path env p ∈ signature.visits →
    ∀ x ∈ p.idents, x.isPredef ∨ x.stamp = 0 ∨ ∃ y ∈ env, y.same x) ∧
  (∀ d, Visit.defect d ∉ signature.visits)
  := by
  have hsound : Outcome.IsOk (Model.Interface.load config container unit signature).outcome ↔
      AllSound signature.visits := by
    simp [Model.Interface.load, Written.Signature.isOk_document]
  apply hsound.trans allSound_iff

end InterfaceDocs
