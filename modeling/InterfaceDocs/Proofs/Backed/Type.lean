import InterfaceDocs.Load.WrittenDeclaration
import InterfaceDocs.Proofs.Backed.Scope

/-!
# References of types

In a backed scope, the documentation of a type points into the list that backs the scope.
-/

namespace InterfaceDocs

variable {ids : List Identifier} {config : Config} {scope : Scope}

/-- Projecting names from a reference adds no targets. -/
theorem Reference.targets_extend (r : Reference) (names : List String) :
  (r.extend names).targets = r.targets
  := by
  induction names generalizing r with
  | nil => rfl
  | cons name names ih => apply ih (r.dot name)

/-- A canonical path is not resolved, so it points at nothing. -/
@[simp]
theorem Model.targetsCanonical_canonicalPath (doc : Doc) :
  Model.targetsCanonical (Load.canonicalPath doc) = []
  := by
  have key : ∀ s, Model.targetsCanonical (Reference.ofDotted s) = [] := by
    intro s
    unfold Reference.ofDotted
    split
    · rfl
    · split
      · rfl
      · simp [Model.targetsCanonical, Reference.targets_extend, Reference.targets]
  unfold Load.canonicalPath
  cases doc.canonical with
  | none => rfl
  | some s =>
    rw [Option.bind_some]
    apply key s

theorem Model.TypeExpr.targets_quantified (vars : List String) (body : Model.TypeExpr) :
  (Model.TypeExpr.quantified vars body).targets = body.targets
  := by
  unfold Model.TypeExpr.quantified
  split
  · rfl
  · rfl

namespace Compiled

variable {names : VarNames}

mutual

/-- The references in the documentation of a compiled type point into the list. -/
theorem TypeExpr.document_targets (hscope : scope.Backed ids) :
  ∀ {type : TypeExpr} {out : Model.TypeExpr}, type.document scope names = .ok out →
    out.targets ⊆ ids
  | .var name id, _, h => by
    obtain rfl := Except.ok.inj h
    simp [Model.TypeExpr.targets]
  | .univar name id, _, h => by
    obtain rfl := Except.ok.inj h
    simp [Model.TypeExpr.targets]
  | .arrow label arg res, _, h => by
    rw [TypeExpr.document_arrow] at h
    simp at h
    obtain ⟨arg', harg, res', hres, rfl⟩ := h
    have htargets : arg'.targets ⊆ ids := by
      rcases documentArgument_eq_ok harg with harg | ⟨name, harg⟩
      · apply TypeExpr.document_targets hscope harg
      · have hconstr := TypeExpr.document_targets hscope harg
        simpa [Model.TypeExpr.targets, Model.targetsTypes, Reference.targets] using hconstr
    simp [Model.TypeExpr.targets, htargets, TypeExpr.document_targets hscope hres]
  | .tuple types, _, h => by
    simp [TypeExpr.document] at h
    obtain ⟨types', htypes, rfl⟩ := h
    apply documentTypes_targets hscope htypes
  | .constr p args, _, h => by
    simp [TypeExpr.document] at h
    obtain ⟨r, hr, args', hargs, rfl⟩ := h
    simp [Model.TypeExpr.targets, hscope.resolve hr, documentTypes_targets hscope hargs]
  | .object methods isOpen, _, h => by
    simp [TypeExpr.document] at h
    obtain ⟨methods', hmethods, rfl⟩ := h
    apply documentMethods_targets hscope hmethods
  | .variant entries isClosed (some (.mk p args)), _, h => by
    simp [TypeExpr.document] at h
    obtain ⟨r, hr, args', hargs, rfl⟩ := h
    have htargets := And.intro (hscope.resolve hr) (documentTypes_targets hscope hargs)
    split
    · simpa [Model.TypeExpr.targets] using htargets
    · simpa [Model.TypeExpr.targets, Model.targetsElements] using htargets
  | .variant entries isClosed none, _, h => by
    simp [TypeExpr.document] at h
    obtain ⟨elements, helements, rfl⟩ := h
    apply documentRow_targets hscope helements
  | .poly body vars, _, h => by
    simp [TypeExpr.document] at h
    obtain ⟨body', hbody, rfl⟩ := h
    rw [Model.TypeExpr.targets_quantified]
    apply TypeExpr.document_targets hscope hbody
  | .package p fields types, _, h => by
    simp [TypeExpr.document] at h
    obtain ⟨r, subject, hr, substitutions, hsubstitutions, rfl⟩ := h
    obtain ⟨htargets, hsubject⟩ := hscope.resolveSubject hr
    simp [Model.TypeExpr.targets, htargets,
      documentPackage_targets hscope hsubject hsubstitutions]
  | .alias type name, _, h => by
    simp [TypeExpr.document] at h
    obtain ⟨type', htype, rfl⟩ := h
    rw [Model.TypeExpr.targets]
    apply TypeExpr.document_targets hscope htype

theorem documentTypes_targets (hscope : scope.Backed ids) :
  ∀ {types : List TypeExpr} {out : List Model.TypeExpr},
    documentTypes scope names types = .ok out → Model.targetsTypes out ⊆ ids
  | [], _, h => by
    obtain rfl := Except.ok.inj h
    simp [Model.targetsTypes]
  | type :: types, _, h => by
    simp [documentTypes] at h
    obtain ⟨type', htype, types', htypes, rfl⟩ := h
    simp [Model.targetsTypes, TypeExpr.document_targets hscope htype,
      documentTypes_targets hscope htypes]

theorem documentMethods_targets (hscope : scope.Backed ids) :
  ∀ {methods : List ObjectMethod} {out : List Model.ObjectField},
    documentMethods scope names methods = .ok out → Model.targetsFields out ⊆ ids
  | [], _, h => by
    obtain rfl := Except.ok.inj h
    simp [Model.targetsFields]
  | .mk name type :: methods, _, h => by
    simp [documentMethods] at h
    obtain ⟨type', htype, methods', hmethods, rfl⟩ := h
    simp [Model.targetsFields, TypeExpr.document_targets hscope htype,
      documentMethods_targets hscope hmethods]

/-- The references in the entries of a variant point into the list. -/
theorem documentRow_targets (hscope : scope.Backed ids) :
  ∀ {entries : List RowEntry} {out : List Model.VariantElement},
    documentRow scope names entries = .ok out → Model.targetsElements out ⊆ ids
  | [], _, h => by
    obtain rfl := Except.ok.inj h
    simp [Model.targetsElements]
  | .mk tag (.present none) :: entries, _, h => by
    simp [documentRow] at h
    obtain ⟨elements, helements, rfl⟩ := h
    simp [Model.targetsElements, Model.targetsTypes, documentRow_targets hscope helements]
  | .mk tag (.present (some type)) :: entries, _, h => by
    simp [documentRow] at h
    obtain ⟨type', htype, elements, helements, rfl⟩ := h
    simp [Model.targetsElements, Model.targetsTypes, TypeExpr.document_targets hscope htype,
      documentRow_targets hscope helements]
  | .mk tag (.either constant types) :: entries, _, h => by
    simp [documentRow] at h
    obtain ⟨types', htypes, elements, helements, rfl⟩ := h
    simp [Model.targetsElements, documentTypes_targets hscope htypes,
      documentRow_targets hscope helements]
  | .mk tag .absent :: entries, _, h => by
    rw [documentRow] at h
    apply documentRow_targets hscope h

/-- The references in the constraints of a package point into the list if its subject is backed. -/
theorem documentPackage_targets (hscope : scope.Backed ids) {subject : Subject}
    (hsubject : subject.Backed ids) :
  ∀ {fields : List LongIdent} {types : List TypeExpr}
    {out : List Model.PackageSubstitution},
    documentPackage scope names subject fields types = .ok out → Model.targetsPackage out ⊆ ids
  | field :: fields, type :: types, _, h => by
    simp [documentPackage] at h
    obtain ⟨type', htype, substitutions, hsubstitutions, rfl⟩ := h
    simp [Model.targetsPackage, hsubject.fragment, TypeExpr.document_targets hscope htype,
      documentPackage_targets hscope hsubject hsubstitutions]
  | [], types, _, h => by
    simp [documentPackage] at h
    subst h
    simp [Model.targetsPackage]
  | _ :: _, [], _, h => by
    simp [documentPackage] at h
    subst h
    simp [Model.targetsPackage]

end

/-- The references in an optional type point into the list. -/
theorem documentOption_targets (hscope : scope.Backed ids) {type : Option TypeExpr}
    {out : Option Model.TypeExpr} (h : documentOption scope names type = .ok out) :
  Model.targetsOption out ⊆ ids
  := by
  cases type with
  | none =>
    obtain rfl := Except.ok.inj h
    simp [Model.targetsOption]
  | some type =>
    simp [documentOption] at h
    obtain ⟨type', htype, rfl⟩ := h
    simpa [Model.targetsOption] using TypeExpr.document_targets hscope htype

/-- The references in the argument of an arrow point into the list, also without the option type
that is taken off. -/
theorem documentArgument_targets (hscope : scope.Backed ids) {label : ArgLabel}
    {arg : TypeExpr} {out : Model.TypeExpr}
    (h : documentArgument scope names label arg = .ok out) :
  out.targets ⊆ ids
  := by
  rcases documentArgument_eq_ok h with h | ⟨name, h⟩
  · apply TypeExpr.document_targets hscope h
  · have hconstr := TypeExpr.document_targets hscope h
    simpa [Model.TypeExpr.targets, Model.targetsTypes, Reference.targets] using hconstr

end Compiled

namespace Written

mutual

/-- The references in the documentation of a written type point into the list. -/
theorem CoreType.document_targets (hscope : scope.Backed ids) :
  ∀ {type : CoreType} {out : Model.TypeExpr}, (type.document config scope).outcome = .ok out →
    out.targets ⊆ ids
  | .any _, _, h => by
    obtain rfl := Except.ok.inj h
    simp [Model.TypeExpr.targets]
  | .var _ name, _, h => by
    obtain rfl := Except.ok.inj h
    simp [Model.TypeExpr.targets]
  | .arrow _ label arg res, _, h => by
    simp [CoreType.document] at h
    obtain ⟨arg', harg, res', hres, rfl⟩ := h
    simp [Model.TypeExpr.targets, CoreType.document_targets hscope harg,
      CoreType.document_targets hscope hres]
  | .tuple _ types, _, h => by
    simp [CoreType.document] at h
    obtain ⟨types', htypes, rfl⟩ := h
    apply documentTypes_targets hscope htypes
  | .constr _ p args, _, h => by
    simp [CoreType.document] at h
    obtain ⟨r, hr, args', hargs, rfl⟩ := h
    simp [Model.TypeExpr.targets, hscope.resolve hr, documentTypes_targets hscope hargs]
  | .object _ fields closure, _, h => by
    simp [CoreType.document] at h
    obtain ⟨fields', hfields, rfl⟩ := h
    apply documentObjectFields_targets hscope hfields
  | .class _ p args, _, h => by
    simp [CoreType.document] at h
    obtain ⟨r, hr, args', hargs, rfl⟩ := h
    simp [Model.TypeExpr.targets, hscope.resolve hr, documentTypes_targets hscope hargs]
  | .alias _ type name, _, h => by
    simp [CoreType.document] at h
    obtain ⟨type', htype, rfl⟩ := h
    rw [Model.TypeExpr.targets]
    apply CoreType.document_targets hscope htype
  | .variant _ fields closure present, _, h => by
    simp [CoreType.document] at h
    obtain ⟨elements, helements, rfl⟩ := h
    apply documentRowFields_targets hscope helements
  | .poly _ vars body, _, h => by
    simp [CoreType.document] at h
    obtain ⟨body', hbody, rfl⟩ := h
    rw [Model.TypeExpr.targets_quantified]
    apply CoreType.document_targets hscope hbody
  | .package _ p fields _, _, h => by
    simp [CoreType.document] at h
    obtain ⟨r, subject, hr, substitutions, hsubstitutions, rfl⟩ := h
    obtain ⟨htargets, hsubject⟩ := hscope.resolveSubject hr
    simp [Model.TypeExpr.targets, htargets,
      documentPackageFields_targets hscope hsubject hsubstitutions]

theorem documentTypes_targets (hscope : scope.Backed ids) :
  ∀ {types : List CoreType} {out : List Model.TypeExpr},
    (documentTypes config scope types).outcome = .ok out → Model.targetsTypes out ⊆ ids
  | [], _, h => by
    obtain rfl := Except.ok.inj h
    simp [Model.targetsTypes]
  | type :: types, _, h => by
    simp [documentTypes] at h
    obtain ⟨type', htype, types', htypes, rfl⟩ := h
    simp [Model.targetsTypes, CoreType.document_targets hscope htype,
      documentTypes_targets hscope htypes]

theorem documentObjectFields_targets (hscope : scope.Backed ids) :
  ∀ {fields : List ObjectField} {out : List Model.ObjectField},
    (documentObjectFields config scope fields).outcome = .ok out →
      Model.targetsFields out ⊆ ids
  | [], _, h => by
    obtain rfl := Except.ok.inj h
    simp [Model.targetsFields]
  | .method name _ type :: fields, _, h => by
    simp [documentObjectFields] at h
    obtain ⟨type', htype, fields', hfields, rfl⟩ := h
    simp [Model.targetsFields, CoreType.document_targets hscope htype,
      documentObjectFields_targets hscope hfields]
  | .inherit type :: fields, _, h => by
    simp [documentObjectFields] at h
    obtain ⟨type', htype, fields', hfields, rfl⟩ := h
    simp [Model.targetsFields, CoreType.document_targets hscope htype,
      documentObjectFields_targets hscope hfields]

/-- The references in the fields of a polymorphic variant point into the list. -/
theorem documentRowFields_targets (hscope : scope.Backed ids) :
  ∀ {fields : List RowField} {out : List Model.VariantElement},
    (documentRowFields config scope fields).outcome = .ok out →
      Model.targetsElements out ⊆ ids
  | [], _, h => by
    obtain rfl := Except.ok.inj h
    simp [Model.targetsElements]
  | .tag name attributes constant args :: fields, _, h => by
    simp [documentRowFields] at h
    obtain ⟨args', hargs, fields', hfields, rfl⟩ := h
    simp [Model.targetsElements, documentTypes_targets hscope hargs,
      documentRowFields_targets hscope hfields]
  | .inherit type :: fields, _, h => by
    simp [documentRowFields] at h
    obtain ⟨type', htype, fields', hfields, rfl⟩ := h
    simp [Model.targetsElements, CoreType.document_targets hscope htype,
      documentRowFields_targets hscope hfields]

/-- The references in the constraints of a written package point into the list if its subject is
backed. -/
theorem documentPackageFields_targets (hscope : scope.Backed ids) {subject : Subject}
    (hsubject : subject.Backed ids) :
  ∀ {fields : List PackageField} {out : List Model.PackageSubstitution},
    (documentPackageFields config scope subject fields).outcome = .ok out →
      Model.targetsPackage out ⊆ ids
  | [], _, h => by
    obtain rfl := Except.ok.inj h
    simp [Model.targetsPackage]
  | .mk name type :: fields, _, h => by
    simp [documentPackageFields] at h
    obtain ⟨type', htype, fields', hfields, rfl⟩ := h
    simp [Model.targetsPackage, hsubject.fragment, CoreType.document_targets hscope htype,
      documentPackageFields_targets hscope hsubject hfields]

end

theorem documentOption_targets (hscope : scope.Backed ids) {type : Option CoreType}
    {out : Option Model.TypeExpr} (h : (documentOption config scope type).outcome = .ok out) :
  Model.targetsOption out ⊆ ids
  := by
  rcases Reading.optional_eq_ok.mp h with ⟨-, rfl⟩ | ⟨type, type', -, htype, rfl⟩
  · simp [Model.targetsOption]
  · simpa [Model.targetsOption] using CoreType.document_targets hscope htype

end Written

end InterfaceDocs
