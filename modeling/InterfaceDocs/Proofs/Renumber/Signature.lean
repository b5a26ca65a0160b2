import InterfaceDocs.Load.Interface
import InterfaceDocs.Proofs.Renumber.Declaration

/-!
# Renumbered interfaces

Loading a renumbered signature tells the same events and gives the same interface, and if it
fails then with the renumbered error (`Model.Interface.load_renumber`): the numbers of the
compiler never show in an interface.
-/

namespace InterfaceDocs

variable (ρ : Renumbering) (config : Config)

namespace Compiled

@[simp]
theorem ModuleType.alias?_renumber (type : ModuleType) :
  (type.renumber ρ).alias? = type.alias?.map (Path.renumber ρ)
  := by
  rcases type with p | items | ⟨x, _ | arg, result⟩ | p <;> rfl

@[simp]
theorem ModuleType.isSignature_renumber (type : ModuleType) :
  (type.renumber ρ).isSignature = type.isSignature
  := by
  rcases type with p | items | ⟨x, _ | arg, result⟩ | p <;> rfl

mutual

/-- Documenting a renumbered module type gives the documentation of the module type. -/
theorem ModuleType.document_renumber :
  ∀ (scope : Scope) (owner : Identifier) (type : ModuleType),
    (type.renumber ρ).document config (scope.renumber ρ) owner
      = (type.document config scope owner).renumber ρ
  | scope, _, .path p => by
    simp only [ModuleType.renumber, ModuleType.document, Scope.resolve_renumber,
      Reading.renumber_bind, Reading.renumber_liftM, Reading.renumber_pure]
  | scope, owner, .signature items => by
    have hscope : ((scope.renumber ρ).bindCompiled owner (renumberItems ρ items)).scope
        = (scope.bindCompiled owner items).scope.renumber ρ := by
      rw [Scope.bindCompiled_renumber]
      rfl
    simp only [ModuleType.renumber, ModuleType.document, length_renumberItems, hscope,
      documentItems_renumber _ owner false items, Reading.renumber_bind,
      Reading.renumber_tell, Reading.renumber_pure]
  | scope, owner, .functor x none result => by
    simp only [ModuleType.renumber, ModuleType.document,
      ModuleType.document_renumber scope owner result, Reading.renumber_bind,
      Reading.renumber_pure]
  | scope, owner, .functor x (some arg) result => by
    simp only [ModuleType.renumber, ModuleType.document, Ident.renumber_name,
      Scope.functorArgument_renumber, Scope.compiledShape_renumber,
      Scope.addFunctorParameter_renumber, ModuleType.document_renumber _ _ arg,
      ModuleType.document_renumber _ owner result, ModuleType.isSignature_renumber,
      Reading.renumber_bind, Reading.renumber_pure]
  | _, _, .alias p => by
    simp only [ModuleType.renumber, ModuleType.document, Path.renumber_text,
      Reading.renumber_fail]
    rfl

/-- Renumbered compiled items are documented like the items. -/
theorem documentItems_renumber :
  ∀ (scope : Scope) (parent : Identifier) (continues : Bool) (items : List SignatureItem),
    documentItems config (scope.renumber ρ) parent continues (renumberItems ρ items)
      = (documentItems config scope parent continues items).renumber ρ
  | _, _, _, [] => by
    simp only [renumberItems, documentItems, Reading.renumber_pure]
  | scope, parent, _, .value x d :: items => by
    simp only [renumberItems, SignatureItem.renumber, documentItems,
      ValueDescription.document_renumber, documentItems_renumber scope parent false items,
      Reading.renumber_bind, Reading.renumber_pure]
  | scope, parent, _, .type x d status :: items => by
    simp only [renumberItems, SignatureItem.renumber, documentItems,
      TypeDeclaration.document_renumber, documentItems_renumber scope parent false items,
      Reading.renumber_bind, Reading.renumber_pure]
  | scope, parent, _, .extension x d .exception :: items => by
    simp only [renumberItems, SignatureItem.renumber, documentItems, Ident.renumber_name,
      ExtensionConstructor.document_renumber, documentItems_renumber scope parent false items,
      Reading.renumber_bind, Reading.renumber_pure]
  | scope, parent, continues, .extension x d .first :: items => by
    simp only [renumberItems, SignatureItem.renumber, documentItems, Ident.renumber_name,
      ExtensionConstructor.document_renumber, reduceCtorEq, decide_false, Bool.and_false,
      Bool.false_eq_true, if_false, ExtensionConstructor.documentHead_renumber,
      documentItems_renumber scope parent true items, Reading.renumber_bind,
      Reading.renumber_liftM, Reading.renumber_pure]
  | scope, parent, true, .extension x d .next :: items => by
    simp only [renumberItems, SignatureItem.renumber, documentItems, Ident.renumber_name,
      ExtensionConstructor.document_renumber, decide_true, Bool.and_true, if_true,
      documentItems_renumber scope parent true items, Reading.renumber_bind,
      Reading.renumber_pure]
  | scope, parent, false, .extension x d .next :: items => by
    simp only [renumberItems, SignatureItem.renumber, documentItems, Ident.renumber_name,
      ExtensionConstructor.document_renumber, Bool.false_and, Bool.false_eq_true, if_false,
      ExtensionConstructor.documentHead_renumber, documentItems_renumber scope parent true items,
      Reading.renumber_bind, Reading.renumber_liftM, Reading.renumber_pure]
  | scope, parent, _, .module x ⟨type, attributes, loc⟩ status :: items => by
    cases halias : type.alias? with
    | none =>
      simp only [renumberItems, SignatureItem.renumber, documentItems, Ident.renumber_name,
        ModuleType.alias?_renumber, halias, Option.map_none, ModuleType.isSignature_renumber,
        ModuleType.document_renumber scope _ type, documentItems_renumber scope parent false items,
        Reading.renumber_bind, Reading.renumber_pure, Load.readDoc_renumber,
        Load.readCanonical_renumber]
    | some p =>
      simp only [renumberItems, SignatureItem.renumber, documentItems, Ident.renumber_name,
        ModuleType.alias?_renumber, halias, Option.map_some, ModuleType.isSignature_renumber,
        Scope.resolve_renumber, documentItems_renumber scope parent false items,
        Reading.renumber_bind, Reading.renumber_liftM, Reading.renumber_pure,
        Load.readDoc_renumber, Load.readCanonical_renumber]
  | scope, parent, _, .moduleType x ⟨some type, attributes, loc⟩ :: items => by
    simp only [renumberItems, SignatureItem.renumber, documentItems, Ident.renumber_name,
      ModuleType.document_renumber scope _ type, documentItems_renumber scope parent false items,
      Option.any_some, ModuleType.isSignature_renumber, Reading.renumber_bind,
      Reading.renumber_pure, Load.readDoc_renumber, Load.readCanonical_renumber]
  | scope, parent, _, .moduleType x ⟨none, attributes, loc⟩ :: items => by
    simp only [renumberItems, SignatureItem.renumber, documentItems, Ident.renumber_name,
      documentItems_renumber scope parent false items, Reading.renumber_bind,
      Reading.renumber_pure, Load.readDoc_renumber, Load.readCanonical_renumber]
  | scope, parent, _, .class x d status :: items => by
    simp only [renumberItems, SignatureItem.renumber, documentItems,
      ClassDeclaration.document_renumber, documentItems_renumber scope parent false items,
      Reading.renumber_bind, Reading.renumber_pure]
  | scope, parent, _, .classType x d status :: items => by
    simp only [renumberItems, SignatureItem.renumber, documentItems,
      ClassTypeDeclaration.document_renumber, documentItems_renumber scope parent false items,
      Reading.renumber_bind, Reading.renumber_pure]

end

/-- A renumbered compiled signature is documented like the signature. -/
@[simp]
theorem Signature.document_renumber (scope : Scope) (parent : Identifier)
    (items : List SignatureItem) :
  Signature.document config (scope.renumber ρ) parent (renumberItems ρ items)
    = (Signature.document config scope parent items).renumber ρ
  := by
  have hscope : ((scope.renumber ρ).bindCompiled parent (renumberItems ρ items)).scope
      = (scope.bindCompiled parent items).scope.renumber ρ := by
    rw [Scope.bindCompiled_renumber]
    rfl
  simp only [Signature.document, length_renumberItems, hscope, documentItems_renumber,
    Reading.renumber_bind, Reading.renumber_tell, Reading.renumber_pure]

end Compiled

namespace Written

/-- Comments have no numbers in them. -/
theorem documentCommented_renumber (attributes : List Attribute) (item : Reading Model.Item) :
  documentCommented config attributes (item.renumber ρ)
    = (documentCommented config attributes item).renumber ρ
  := by
  simp only [documentCommented, Reading.renumber_bind, Reading.renumber_pure,
    Load.readComments_renumber]

/-- If documenting the members of a group commutes with a renumbering, then so does
documenting the group. -/
theorem documentGroup_renumber {α : Type} {attributes : α → List Attribute} {g : α → α}
    {document document' : Model.RecFlag → α → Reading Model.Item}
    (hattributes : ∀ d, attributes (g d) = attributes d)
    (hdocument : ∀ flag d, document' flag (g d) = (document flag d).renumber ρ) :
  ∀ (flag : Model.RecFlag) (ds : List α),
    documentGroup config attributes document' flag (ds.map g)
      = (documentGroup config attributes document flag ds).renumber ρ
  | _, [] => rfl
  | flag, d :: ds => by
    simp only [List.map_cons, documentGroup, hattributes, hdocument,
      documentCommented_renumber, documentGroup_renumber hattributes hdocument .subsequent ds,
      Reading.renumber_bind, Reading.renumber_pure]

theorem documentHead_renumber (scope : Scope) (type : CoreType) :
  documentHead (scope.renumber ρ) (type.renumber ρ)
    = Outcome.renumber ρ (documentHead scope type)
  := by
  cases type with
  | constr info p args =>
    simp only [CoreType.renumber, documentHead, Scope.resolve_renumber, Outcome.renumber_map]
  | _ => rfl

/-- A renumbered clause is documented like the clause. -/
theorem WithClause.document_renumber (scope : Scope) (subject : Subject) (c : WithClause) :
  (c.renumber ρ).document config (scope.renumber ρ) subject
    = (c.document config scope subject).renumber ρ
  := by
  rcases c with ⟨name, constraint⟩
  cases constraint with
  | typeEq d =>
    simp only [WithClause.document, WithClause.renumber, WithConstraint.renumber,
      TypeDeclaration.documentEquation_renumber, Reading.renumber_bind, Reading.renumber_pure]
  | moduleEq p =>
    simp only [WithClause.document, WithClause.renumber, WithConstraint.renumber,
      Scope.resolve_renumber, Reading.renumber_bind, Reading.renumber_liftM,
      Reading.renumber_pure]
  | typeSubst d =>
    have hmanifest : (d.renumber ρ).manifest = d.manifest.map (CoreType.renumber ρ) := rfl
    simp only [WithClause.document, WithClause.renumber, WithConstraint.renumber, hmanifest]
    cases d.manifest with
    | none => rfl
    | some manifest =>
      simp only [Option.map_some, documentHead_renumber,
        TypeDeclaration.documentEquation_renumber, Reading.renumber_bind,
        Reading.renumber_liftM, Reading.renumber_pure]
  | moduleSubst p =>
    simp only [WithClause.document, WithClause.renumber, WithConstraint.renumber,
      Scope.resolve_renumber, Reading.renumber_bind, Reading.renumber_liftM,
      Reading.renumber_pure]

/-- A renumbered module expression is documented like the expression. -/
theorem ModuleExpr.document_renumber (scope : Scope) (owner : Identifier) (expr : ModuleExpr) :
  (expr.renumber ρ).document config (scope.renumber ρ) owner
    = (expr.document config scope owner).renumber ρ
  := by
  cases expr with
  | path info p =>
    simp only [ModuleExpr.renumber, ModuleExpr.document, Scope.resolve_renumber,
      Reading.renumber_bind, Reading.renumber_liftM, Reading.renumber_pure]
  | _ =>
    simp only [ModuleExpr.renumber, ModuleExpr.document, ModuleExpr.info,
      ModuleExprInfo.renumber, Compiled.ModuleType.document_renumber, Reading.renumber_bind,
      Reading.renumber_pure]

/-- A renumbered written module type is an alias if the module type is. -/
@[simp]
theorem ModuleType.alias?_renumber (type : ModuleType) :
  (type.renumber ρ).alias? = type.alias?.map (Path.renumber ρ)
  := by
  rcases type with _ | _ | ⟨_, _ | _, _⟩ | _ | _ | _ <;> rfl

@[simp]
theorem ModuleType.isSignature_renumber (type : ModuleType) :
  (type.renumber ρ).isSignature = type.isSignature
  := by
  rcases type with _ | _ | ⟨_, _ | _, _⟩ | _ | _ | _ <;> rfl

mutual

/-- Documenting a renumbered module type gives the documentation of the module type. -/
theorem ModuleType.document_renumber :
  ∀ (scope : Scope) (owner : Identifier) (type : ModuleType),
    (type.renumber ρ).document config (scope.renumber ρ) owner
      = (type.document config scope owner).renumber ρ
  | scope, _, .path _ p => by
    simp only [ModuleType.renumber, ModuleType.document, Scope.resolve_renumber,
      Reading.renumber_bind, Reading.renumber_liftM, Reading.renumber_pure]
  | scope, owner, .signature _ items => by
    have hscope : ((scope.renumber ρ).bindWritten owner (renumberItems ρ items)).scope
        = (scope.bindWritten owner items).scope.renumber ρ := by
      rw [Scope.bindWritten_renumber]
      rfl
    simp only [ModuleType.renumber, ModuleType.document, length_renumberItems, hscope,
      documentItems_renumber _ owner items, Reading.renumber_bind, Reading.renumber_tell,
      Reading.renumber_pure]
  | scope, owner, .functor _ .unit result => by
    simp only [ModuleType.renumber, ModuleType.document,
      ModuleType.document_renumber scope owner result, Reading.renumber_bind,
      Reading.renumber_pure]
  | scope, owner, .functor _ (.named x arg) result => by
    simp only [ModuleType.renumber, ModuleType.document, Ident.renumber_name,
      Scope.functorArgument_renumber, Scope.writtenShape_renumber,
      Scope.addFunctorParameter_renumber, ModuleType.document_renumber _ _ arg,
      ModuleType.document_renumber _ owner result, ModuleType.isSignature_renumber,
      Reading.renumber_bind, Reading.renumber_tell, Reading.renumber_pure]
  | scope, owner, .constrained _ body clauses => by
    have hclauses := Reading.each_renumber ρ
      (WithClause.document_renumber ρ config scope (scope.subjectOf owner body)) clauses
    simp only [ModuleType.renumber, ModuleType.document,
      ModuleType.document_renumber scope owner body, Scope.subjectOf_renumber, hclauses,
      Reading.renumber_bind, Reading.renumber_pure]
  | scope, owner, .typeOf _ expr => by
    simp only [ModuleType.renumber, ModuleType.document, ModuleExpr.document_renumber,
      Reading.renumber_bind, Reading.renumber_pure]
  | _, _, .alias info p => by
    simp only [ModuleType.renumber, ModuleType.document, Path.renumber_text,
      Reading.renumber_fail]
    rfl

/-- Renumbered written items are documented like the items. -/
theorem documentItems_renumber :
  ∀ (scope : Scope) (parent : Identifier) (items : List SignatureItem),
    documentItems config (scope.renumber ρ) parent (renumberItems ρ items)
      = (documentItems config scope parent items).renumber ρ
  | _, _, [] => by
    simp only [renumberItems, documentItems, Reading.renumber_pure]
  | scope, parent, item :: items => by
    simp only [renumberItems, documentItems, SignatureItem.document_renumber scope parent item,
      documentItems_renumber scope parent items, Reading.renumber_bind, Reading.renumber_pure]

/-- A renumbered item is documented like the item. -/
theorem SignatureItem.document_renumber :
  ∀ (scope : Scope) (parent : Identifier) (item : SignatureItem),
    (item.renumber ρ).document config (scope.renumber ρ) parent
      = (item.document config scope parent).renumber ρ
  | scope, parent, .value _ d => by
    rw [SignatureItem.renumber, SignatureItem.document, ValueDescription.document_renumber,
      documentCommented_renumber]
    rfl
  | scope, parent, .type _ flag ds => by
    rw [SignatureItem.renumber, SignatureItem.document, SignatureItem.document]
    apply documentGroup_renumber
    · intro d
      rfl
    · intro flag d
      simp only [TypeDeclaration.documentItem, TypeDeclaration.document_renumber,
        Reading.renumber_bind, Reading.renumber_pure]
  | scope, parent, .typeSubst _ ds => by
    rw [SignatureItem.renumber, SignatureItem.document, SignatureItem.document]
    apply documentGroup_renumber
    · intro d
      rfl
    · intro flag d
      simp only [TypeDeclaration.documentSubstitution, TypeDeclaration.document_renumber,
        Reading.renumber_bind, Reading.renumber_pure]
  | scope, parent, .extension _ d => by
    simp only [SignatureItem.renumber, SignatureItem.document,
      TypeExtension.document_renumber, ← documentCommented_renumber, Reading.renumber_bind,
      Reading.renumber_pure]
    rfl
  | scope, parent, .exception _ d => by
    simp only [SignatureItem.renumber, SignatureItem.document,
      ExtensionConstructor.documentException, ExtensionConstructor.document_renumber,
      ← documentCommented_renumber, Reading.renumber_bind, Reading.renumber_pure]
    rfl
  | scope, parent, .module _ d => by
    rw [SignatureItem.renumber, SignatureItem.document, SignatureItem.document,
      ModuleDeclaration.document_renumber scope parent .ordinary d]
  | scope, parent, .moduleSubst _ d => by
    simp only [SignatureItem.renumber, SignatureItem.document, ModuleSubstitution.document,
      ModuleSubstitution.renumber, Ident.renumber_name, Scope.resolve_renumber,
      ← documentCommented_renumber, Reading.renumber_bind, Reading.renumber_liftM,
      Reading.renumber_pure, Load.readDoc_renumber]
  | scope, parent, .recModule _ ds => by
    rw [SignatureItem.renumber, SignatureItem.document, SignatureItem.document,
      documentModules_renumber scope parent .ordinary ds]
  | scope, parent, .moduleType _ ⟨x, some type, attributes, loc⟩ => by
    simp only [SignatureItem.renumber, SignatureItem.document, Ident.renumber_name,
      ModuleType.document_renumber scope _ type, Option.any_some,
      ModuleType.isSignature_renumber, ← documentCommented_renumber, Reading.renumber_bind,
      Reading.renumber_tell, Reading.renumber_pure, Load.readDoc_renumber,
      Load.readCanonical_renumber]
  | scope, parent, .moduleType _ ⟨x, none, attributes, loc⟩ => by
    simp only [SignatureItem.renumber, SignatureItem.document, Ident.renumber_name,
      ← documentCommented_renumber, Reading.renumber_bind, Reading.renumber_tell,
      Reading.renumber_pure, Load.readDoc_renumber, Load.readCanonical_renumber]
  | _, _, .opened _ _ => by
    simp only [SignatureItem.renumber, SignatureItem.document, Reading.renumber_pure]
  | scope, parent, .included _ ⟨type, content, loc, attributes⟩ => by
    simp only [SignatureItem.renumber, SignatureItem.document,
      ModuleType.document_renumber scope parent type, Compiled.Signature.document_renumber,
      ← documentCommented_renumber, Reading.renumber_bind, Reading.renumber_tell,
      Reading.renumber_pure, Load.readDoc_renumber]
  | scope, parent, .class _ ds => by
    rw [SignatureItem.renumber, SignatureItem.document, SignatureItem.document]
    apply documentGroup_renumber
    · intro d
      rfl
    · intro flag d
      simp only [ClassDeclaration.documentItem, ClassDeclaration.document_renumber,
        Reading.renumber_bind, Reading.renumber_pure]
  | scope, parent, .classType _ ds => by
    rw [SignatureItem.renumber, SignatureItem.document, SignatureItem.document]
    apply documentGroup_renumber
    · intro d
      rfl
    · intro flag d
      simp only [ClassDeclaration.documentClassTypeItem,
        ClassDeclaration.documentClassType_renumber, Reading.renumber_bind,
        Reading.renumber_pure]
  | _, _, .floating _ a => by
    simp only [SignatureItem.renumber, SignatureItem.document, Reading.renumber_bind,
      Reading.renumber_pure, Load.readComments_renumber]

theorem documentModules_renumber :
  ∀ (scope : Scope) (parent : Identifier) (flag : Model.RecFlag)
    (ds : List ModuleDeclaration),
    documentModules config (scope.renumber ρ) parent flag (renumberModules ρ ds)
      = (documentModules config scope parent flag ds).renumber ρ
  | _, _, _, [] => by
    simp only [renumberModules, documentModules, Reading.renumber_pure]
  | scope, parent, flag, d :: ds => by
    simp only [renumberModules, documentModules,
      ModuleDeclaration.document_renumber scope parent flag d,
      documentModules_renumber scope parent .subsequent ds, Reading.renumber_bind,
      Reading.renumber_pure]

theorem ModuleDeclaration.document_renumber :
  ∀ (scope : Scope) (parent : Identifier) (flag : Model.RecFlag) (d : ModuleDeclaration),
    (d.renumber ρ).document config (scope.renumber ρ) parent flag
      = (d.document config scope parent flag).renumber ρ
  | scope, parent, flag, ⟨x, type, attributes, loc⟩ => by
    cases halias : type.alias? with
    | none =>
      simp only [ModuleDeclaration.renumber, ModuleDeclaration.document, Ident.renumber_name,
        ModuleType.alias?_renumber, halias, Option.map_none, ModuleType.isSignature_renumber,
        ModuleType.document_renumber scope _ type, ← documentCommented_renumber,
        Reading.renumber_bind, Reading.renumber_tell, Reading.renumber_pure,
        Load.readDoc_renumber, Load.readCanonical_renumber]
    | some p =>
      simp only [ModuleDeclaration.renumber, ModuleDeclaration.document, Ident.renumber_name,
        ModuleType.alias?_renumber, halias, Option.map_some, ModuleType.isSignature_renumber,
        Scope.resolve_renumber, ← documentCommented_renumber, Reading.renumber_bind,
        Reading.renumber_tell, Reading.renumber_liftM, Reading.renumber_pure,
        Load.readDoc_renumber, Load.readCanonical_renumber]

end

/-- The signature with its numbers replaced. -/
def Signature.renumber (ρ : Renumbering) (signature : Signature) : Signature :=
  renumberItems ρ signature

/-- A renumbered written signature is documented like the signature. -/
theorem Signature.document_renumber (parent : Identifier) (signature : Signature) :
  Signature.document config .empty parent (signature.renumber ρ)
    = (Signature.document config .empty parent signature).renumber ρ
  := by
  have hscope : (Scope.empty.bindWritten parent (renumberItems ρ signature)).scope
      = (Scope.empty.bindWritten parent signature).scope.renumber ρ := by
    rw [← Scope.renumber_empty ρ, Scope.bindWritten_renumber]
    rfl
  simp only [Signature.document, Signature.renumber, length_renumberItems, hscope,
    documentItems_renumber, Reading.renumber_bind, Reading.renumber_tell,
    Reading.renumber_pure]

end Written

/-- Loading a renumbered signature gives the interface of the signature, or fails with the
renumbered error. -/
theorem Model.Interface.load_renumber (container unit : String)
    (signature : Written.Signature) :
  Model.Interface.load config container unit (signature.renumber ρ)
    = (Model.Interface.load config container unit signature).renumber ρ
  := by
  simp only [Model.Interface.load, Written.Signature.document_renumber, Reading.renumber_bind,
    Reading.renumber_tell, Reading.renumber_pure]

/-- The numbers of the compiler do not show: a renumbered signature loads to the same interface
while the same events are told, and when a load fails then the renumbered one fails with the
same error, except that an unbound identifier has its new stamp. -/
theorem load_renumbered (ρ : Renumbering) (config : Config) (container unit : String)
    (signature : Written.Signature) :
  (∀ interface,
    (Model.Interface.load config container unit (signature.renumber ρ)).outcome = .ok interface ↔
      (Model.Interface.load config container unit signature).outcome = .ok interface) ∧
  (∀ e,
    (Model.Interface.load config container unit (signature.renumber ρ)).outcome = .error e ↔
      ∃ e', (Model.Interface.load config container unit signature).outcome = .error e' ∧
        e'.renumber ρ = e) ∧
  (Model.Interface.load config container unit (signature.renumber ρ)).events
    = (Model.Interface.load config container unit signature).events
  := by
  rw [Model.Interface.load_renumber]
  constructor
  · intro interface
    apply Outcome.renumber_eq_ok ρ
  · constructor
    · intro e
      apply Outcome.renumber_eq_error ρ
    · rfl

/-- The renumbering that negates all numbers. -/
def Renumbering.negation : Renumbering where
  stamp n := -n
  var n := -n
  stamp_injective _ _ h := Int32.neg_inj.mp h
  stamp_zero := rfl
  var_injective _ _ h := Int32.neg_inj.mp h

/-- A type `t` and a value `x` of this type. -/
def renumberSample : Written.Signature :=
  [.type .none .recursive [⟨⟨"t", 2, 0⟩, [], [], .abstract, .publicly, none, .none, []⟩],
    .value .none ⟨⟨"x", 4, 0⟩, .constr ⟨.none, []⟩ (.ident ⟨"t", 2, 0⟩) [], [], .none, []⟩]

/-- With negated numbers the sample loads to the same interface, and its value alone is rejected
with the negated number of the type. -/
theorem renumberSample_renumbered :
  let negated := renumberSample.renumber .negation
  let value : Written.Signature := renumberSample.drop 1
  (∃ interface, (Model.Interface.load .standard "pkg" "Unit" renumberSample).outcome
      = .ok interface ∧
    (Model.Interface.load .standard "pkg" "Unit" negated).outcome = .ok interface) ∧
  (Model.Interface.load .standard "pkg" "Unit" negated).events
    = (Model.Interface.load .standard "pkg" "Unit" renumberSample).events ∧
  (Model.Interface.load .standard "pkg" "Unit" value).outcome
    = .error (.unboundIdent ⟨"t", 2, 0⟩) ∧
  (Model.Interface.load .standard "pkg" "Unit" (value.renumber .negation)).outcome
    = .error (.unboundIdent ⟨"t", -2, 0⟩)
  := by
  intro negated value
  obtain ⟨hok, -, hevents⟩ :=
    load_renumbered .negation .standard "pkg" "Unit" renumberSample
  obtain ⟨-, herror, -⟩ := load_renumbered .negation .standard "pkg" "Unit" value
  constructor
  · rcases hload : (Model.Interface.load .standard "pkg" "Unit" renumberSample).outcome with
      e | interface
    · cases hload
    · use interface, rfl
      apply (hok interface).mpr hload
  constructor
  · apply hevents
  have hvalue : (Model.Interface.load .standard "pkg" "Unit" value).outcome
      = .error (.unboundIdent ⟨"t", 2, 0⟩) := rfl
  constructor
  · apply hvalue
  · apply (herror _).mpr
    use .unboundIdent ⟨"t", 2, 0⟩, hvalue
    rfl

end InterfaceDocs
