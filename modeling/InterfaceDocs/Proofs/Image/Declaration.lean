import InterfaceDocs.Load.WrittenDeclaration
import InterfaceDocs.Proofs.Image.Type

/-!
# Documenting images of declarations

Written values, types and constructors are documented with the same values as their compiled
images.  The two readers look at the parts of a type in different orders, which decides between
errors only.
-/

namespace InterfaceDocs.Written

open Outcome (Same)

variable (config : Config) (scope : Scope) (names : VarNames) (parent : Identifier)

/-- An optional type and its image are documented with the same value. -/
theorem documentOption_of_compiles {type : Option CoreType} {type' : Option Compiled.TypeExpr}
    (h : Option.Rel TypeCompiles type type') :
  Same (documentOption config scope type).outcome (Compiled.documentOption scope names type')
  := by
  cases h with
  | none => apply Same.refl
  | some htype =>
    rw [documentOption, Reading.optional, Reading.outcome_bind]
    apply Same.bind (htype.document config scope names)
    intro t
    apply Same.refl

/-! ### Values -/

/-- A value without primitives is regular, and one with primitives is external. -/
theorem PrimitivesCompile.document (id : Identifier) (doc : Doc) (type : Model.TypeExpr) :
  ∀ {primitives : List String} {kind : Compiled.ValueKind}, PrimitivesCompile primitives kind →
    (if primitives.isEmpty then Model.Item.value ⟨id, doc, type⟩
      else .external ⟨id, doc, type, primitives⟩)
      = match kind with
        | .regular => .value ⟨id, doc, type⟩
        | .primitive p => .external ⟨id, doc, type, p.names⟩
  | _, _, .regular => rfl
  | _, _, .single => rfl
  | _, _, .native hname => by simp [Compiled.Primitive.names, hname]

/-- A value and its image are documented with the same value. -/
theorem ValueCompiles.document {d : ValueDescription} {d' : Compiled.ValueDescription}
    (h : ValueCompiles d d') :
  Same (d.document config scope parent).outcome
    (d'.document config scope parent d.ident).outcome
  := by
  rw [ValueDescription.document, Compiled.ValueDescription.document, h.attributes]
  apply Same.step (Same.refl _)
  intro doc
  apply Same.step (h.type.document config scope _)
  intro type
  rw [PrimitivesCompile.document _ _ _ h.kind]
  apply Same.refl

/-! ### Types -/

/-- A label and its image are documented with the same value. -/
theorem LabelCompiles.document {d : LabelDeclaration} {d' : Compiled.LabelDeclaration}
    (h : LabelCompiles d d') :
  Same (d.document config scope parent).outcome
    (d'.document config scope names parent).outcome
  := by
  rw [LabelDeclaration.document, Compiled.LabelDeclaration.document, h.attributes, h.ident,
    h.mutability]
  apply Same.step (Same.refl _)
  intro doc
  apply Same.step (h.type.document config scope names)
  intro type
  apply Same.refl

theorem documentLabels_of_compiles {labels : List LabelDeclaration}
    {labels' : List Compiled.LabelDeclaration} (h : List.Forall₂ LabelCompiles labels labels') :
  Same (Reading.each (LabelDeclaration.document config scope parent) labels).outcome
    (Reading.each (Compiled.LabelDeclaration.document config scope names parent)
      labels').outcome
  := Same.each (h.imp fun _ _ hlabel => hlabel.document config scope names parent)

/-- The arguments of a constructor and their image are documented with the same value. -/
theorem ArgumentsCompile.document {args : ConstructorArguments}
    {args' : Compiled.ConstructorArguments} (h : ArgumentsCompile args args') :
  Same (args.document config scope parent).outcome
    (args'.document config scope names parent).outcome
  := by
  cases h with
  | tuple htypes =>
    apply Same.step (htypes.document config scope names)
    intro ts
    apply Same.refl
  | record hlabels =>
    apply Same.step (documentLabels_of_compiles config scope names parent hlabels)
    intro fs
    apply Same.refl

/-- A constructor and its image are documented with the same value. -/
theorem ConstructorCompiles.document {d : ConstructorDeclaration}
    {d' : Compiled.ConstructorDeclaration} (h : ConstructorCompiles d d') :
  Same (d.document config scope parent).outcome
    (d'.document config scope names parent).outcome
  := by
  rw [ConstructorDeclaration.document, Compiled.ConstructorDeclaration.document,
    Compiled.documentConstructor, h.attributes, h.ident]
  apply Same.step (Same.refl _)
  intro doc
  apply Same.step (h.args.document config scope names _)
  intro args
  apply Same.step (documentOption_of_compiles config scope names h.result)
  intro result
  apply Same.refl

/-- The kind of a type and its image are documented with the same value. -/
theorem KindCompiles.document {kind : TypeKind} {kind' : Compiled.TypeKind}
    (h : KindCompiles kind kind') :
  Same (kind.document config scope parent).outcome
    (kind'.document config scope names parent).outcome
  := by
  cases h with
  | abstract => apply Same.refl
  | variant hconstructors =>
    apply Same.step
      (Same.each (hconstructors.imp fun _ _ h => h.document config scope names parent))
    intro cs
    apply Same.refl
  | record hlabels =>
    apply Same.step (documentLabels_of_compiles config scope names parent hlabels)
    intro fs
    apply Same.refl
  | extensible => apply Same.refl

/-- A type parameter that has an image is documented, with the name and the variance of the
image. -/
theorem ParamCompiles.document {p : TypeParam} {type : Compiled.TypeExpr} {v : Variance}
    (h : ParamCompiles p type v) (owner : String) :
  p.document owner = .ok (Compiled.documentParam names type v)
  := by
  cases h
  rfl

theorem ParamsCompile.document {ps : List TypeParam} {types : List Compiled.TypeExpr}
    {vs : List Variance} (h : ParamsCompile ps types vs) (owner : String) :
  documentParams owner ps = .ok (Compiled.documentParams names types vs)
  := by
  induction h with
  | nil => rfl
  | cons hparam _ ih =>
    rw [documentParams, hparam.document names owner, ih]
    rfl

/-- Parameters without variances are documented as unmarked ones. -/
theorem documentParams_of_unmarked {ps : List TypeParam} {types : List Compiled.TypeExpr}
    (h : List.Forall₂ (fun p type => ParamCompiles p type .null) ps types) (owner : String) :
  documentParams owner ps = .ok (Compiled.documentParams names types [])
  := by
  induction h with
  | nil => rfl
  | cons hparam _ ih =>
    rw [documentParams, hparam.document names owner, ih]
    rfl

/-- The equation of a type without constraints. -/
theorem TypeDeclarationCompiles.documentEquation {d : TypeDeclaration}
    {d' : Compiled.TypeDeclaration} (h : TypeDeclarationCompiles d d') :
  Same (d.documentEquation config scope).outcome
    (Compiled.documentOption scope names d'.manifest >>= fun manifest =>
      .ok ⟨Compiled.documentParams names d'.params d'.variance, d'.privacy.isPrivate, manifest,
        []⟩)
  := by
  rw [TypeDeclaration.documentEquation, h.constraints, h.params.document names, h.privacy,
    Reading.outcome_bind]
  apply Same.bind (documentOption_of_compiles config scope names h.manifest)
  intro manifest
  apply Same.refl

/-- A type declaration and its image are documented with the same value. -/
theorem TypeDeclarationCompiles.document {d : TypeDeclaration}
    {d' : Compiled.TypeDeclaration} (h : TypeDeclarationCompiles d d') :
  Same (d.document config scope parent).outcome
    (d'.document config scope parent d.ident).outcome
  := by
  let x := parent.child .type d.ident.name
  let varNames := VarNames.collect d'.types
  let doc := Doc.ofAttributes config d.attributes
  let canonical := Load.canonicalPath doc
  let record (manifest : Option Model.TypeExpr) (representation : Option Model.Representation) :
      Except LoadError Model.TypeDecl :=
    .ok ⟨x, doc, canonical,
      ⟨Compiled.documentParams varNames d'.params d'.variance, d'.privacy.isPrivate, manifest,
        []⟩, representation⟩
  have hwritten : Same (d.document config scope parent).outcome
      (Compiled.documentOption scope varNames d'.manifest >>= fun manifest =>
        (d'.kind.document config scope varNames x).outcome >>= record manifest) := by
    apply Same.skip rfl
    apply Same.skip rfl
    apply Same.skip rfl
    have hequation := h.documentEquation config scope varNames
    have hkind := h.kind.document config scope varNames x
    have hsteps := hequation.bind fun equation => hkind.bind fun representation =>
      Same.refl (.ok (⟨x, doc, canonical, equation, representation⟩ : Model.TypeDecl))
    rw [bind_assoc] at hsteps
    simp only [Reading.outcome_bind, Reading.outcome_pure]
    apply hsteps
  have hcompiled : Same (d'.document config scope parent d.ident).outcome
      ((d'.kind.document config scope varNames x).outcome >>= fun representation =>
        Compiled.documentOption scope varNames d'.manifest >>= fun manifest =>
          record manifest representation) := by
    rw [Compiled.TypeDeclaration.document, Reading.outcome_bind, h.attributes]
    apply Same.bind (Same.refl _)
    intro representation
    apply Same.skip rfl
    apply Same.skip rfl
    rw [Reading.outcome_bind]
    apply Same.refl
  exact (hwritten.trans (Same.bind_comm _ _ _)).trans hcompiled.symm

/-- A constructor of an extensible type and its image are documented with the same value. -/
theorem ExtensionConstructorCompiles.document {d : ExtensionConstructor}
    {d' : Compiled.ExtensionConstructor} (h : ExtensionConstructorCompiles d d')
    (x : Identifier) :
  Same (d.document config scope x).outcome (d'.document config scope x).outcome
  := by
  cases h with
  | mk hargs hresult hattributes =>
    rw [Compiled.ExtensionConstructor.document, Compiled.documentConstructor]
    apply Same.symm
    apply Same.skip (Load.outcome_readDoc config x _)
    apply Same.symm
    apply Same.step (hargs.document config scope _ x)
    intro args
    apply Same.step (documentOption_of_compiles config scope _ hresult)
    intro result
    rw [hattributes]
    apply Same.refl

end InterfaceDocs.Written
