import InterfaceDocs.Load.WrittenDeclaration
import InterfaceDocs.Proofs.WellFormed.Scope

/-!
# Well-formed types

In a rooted scope, the documentation of a type is well formed.
-/

namespace InterfaceDocs

variable {root : Identifier} {config : Config} {scope : Scope}

/-! ### Compiled types -/

namespace Compiled

variable {names : VarNames}

/-- A documented argument is well formed if the documentation of its type is. -/
theorem documentArgument_wellFormed {label : ArgLabel} {arg : TypeExpr} {out : Model.TypeExpr}
    (harg : ∀ out, arg.document scope names = .ok out → out.WellFormed root)
    (h : documentArgument scope names label arg = .ok out) :
  out.WellFormed root
  := by
  rcases documentArgument_eq_ok h with h | ⟨name, h⟩
  · apply harg out h
  · cases harg _ h with
    | constr _ hargs => apply hargs out (List.mem_singleton_self out)

mutual

/-- The documentation of a compiled type is well formed. -/
theorem TypeExpr.document_wellFormed (hscope : scope.Rooted root) :
  ∀ {type : TypeExpr} {out : Model.TypeExpr}, type.document scope names = .ok out →
    out.WellFormed root
  | .var name id, _, h => by
    obtain rfl := Except.ok.inj h
    constructor
  | .univar name id, _, h => by
    obtain rfl := Except.ok.inj h
    constructor
  | .arrow label arg res, _, h => by
    rw [TypeExpr.document_arrow] at h
    simp at h
    obtain ⟨arg', harg, res', hres, rfl⟩ := h
    apply Model.TypeExpr.WellFormed.arrow
    · apply documentArgument_wellFormed (fun _ => TypeExpr.document_wellFormed hscope) harg
    · apply TypeExpr.document_wellFormed hscope hres
  | .tuple types, _, h => by
    simp [TypeExpr.document] at h
    obtain ⟨types', htypes, rfl⟩ := h
    constructor
    apply documentTypes_wellFormed hscope htypes
  | .constr p args, _, h => by
    simp [TypeExpr.document] at h
    obtain ⟨r, hr, args', hargs, rfl⟩ := h
    constructor
    · apply hscope.resolve hr
    · apply documentTypes_wellFormed hscope hargs
  | .object methods isOpen, _, h => by
    simp [TypeExpr.document] at h
    obtain ⟨methods', hmethods, rfl⟩ := h
    constructor
    apply documentMethods_wellFormed hscope hmethods
  | .variant entries isClosed (some (.mk p args)), _, h => by
    simp [TypeExpr.document] at h
    obtain ⟨r, hr, args', hargs, rfl⟩ := h
    have hconstr : (Model.TypeExpr.constr r args').WellFormed root :=
      .constr (hscope.resolve hr) (documentTypes_wellFormed hscope hargs)
    split
    · apply hconstr
    · apply Model.TypeExpr.WellFormed.variant
      rw [List.forall_mem_singleton]
      constructor
      apply hconstr
  | .variant entries isClosed none, _, h => by
    simp [TypeExpr.document] at h
    obtain ⟨elements, helements, rfl⟩ := h
    constructor
    apply documentRow_wellFormed hscope helements
  | .poly body vars, _, h => by
    simp [TypeExpr.document] at h
    obtain ⟨body', hbody, rfl⟩ := h
    exact (TypeExpr.document_wellFormed hscope hbody).quantified _
  | .package p fields types, _, h => by
    simp [TypeExpr.document] at h
    obtain ⟨r, subject, hr, substitutions, hsubstitutions, rfl⟩ := h
    obtain ⟨htargets, hsubject⟩ := hscope.resolveSubject hr
    constructor
    · apply htargets
    · apply documentPackage_wellFormed hscope hsubject hsubstitutions
  | .alias type name, _, h => by
    simp [TypeExpr.document] at h
    obtain ⟨type', htype, rfl⟩ := h
    constructor
    apply TypeExpr.document_wellFormed hscope htype

/-- The documentation of compiled types is well formed. -/
theorem documentTypes_wellFormed (hscope : scope.Rooted root) :
  ∀ {types : List TypeExpr} {out : List Model.TypeExpr},
    documentTypes scope names types = .ok out → ∀ type ∈ out, type.WellFormed root
  | [], _, h => by
    obtain rfl := Except.ok.inj h
    simp
  | type :: types, _, h => by
    simp [documentTypes] at h
    obtain ⟨type', htype, types', htypes, rfl⟩ := h
    rw [List.forall_mem_cons]
    use TypeExpr.document_wellFormed hscope htype, documentTypes_wellFormed hscope htypes

theorem documentMethods_wellFormed (hscope : scope.Rooted root) :
  ∀ {methods : List ObjectMethod} {out : List Model.ObjectField},
    documentMethods scope names methods = .ok out → ∀ field ∈ out, field.WellFormed root
  | [], _, h => by
    obtain rfl := Except.ok.inj h
    simp
  | .mk name type :: methods, _, h => by
    simp [documentMethods] at h
    obtain ⟨type', htype, methods', hmethods, rfl⟩ := h
    rw [List.forall_mem_cons]
    constructor
    · constructor
      apply TypeExpr.document_wellFormed hscope htype
    · apply documentMethods_wellFormed hscope hmethods

/-- The documentation of the entries of a variant is well formed. -/
theorem documentRow_wellFormed (hscope : scope.Rooted root) :
  ∀ {entries : List RowEntry} {out : List Model.VariantElement},
    documentRow scope names entries = .ok out → ∀ element ∈ out, element.WellFormed root
  | [], _, h => by
    obtain rfl := Except.ok.inj h
    simp
  | .mk tag (.present none) :: entries, _, h => by
    simp [documentRow] at h
    obtain ⟨elements, helements, rfl⟩ := h
    rw [List.forall_mem_cons]
    use .constructor (by simp), documentRow_wellFormed hscope helements
  | .mk tag (.present (some type)) :: entries, _, h => by
    simp [documentRow] at h
    obtain ⟨type', htype, elements, helements, rfl⟩ := h
    rw [List.forall_mem_cons]
    constructor
    · apply Model.VariantElement.WellFormed.constructor
      rw [List.forall_mem_singleton]
      apply TypeExpr.document_wellFormed hscope htype
    · apply documentRow_wellFormed hscope helements
  | .mk tag (.either constant types) :: entries, _, h => by
    simp [documentRow] at h
    obtain ⟨types', htypes, elements, helements, rfl⟩ := h
    rw [List.forall_mem_cons]
    constructor
    · constructor
      apply documentTypes_wellFormed hscope htypes
    · apply documentRow_wellFormed hscope helements
  | .mk tag .absent :: entries, _, h => by
    rw [documentRow] at h
    apply documentRow_wellFormed hscope h

/-- The substitutions of a package are well formed if the subject of the package is rooted. -/
theorem documentPackage_wellFormed (hscope : scope.Rooted root) {subject : Subject}
    (hsubject : subject.Rooted root) :
  ∀ {fields : List LongIdent} {types : List TypeExpr} {out : List Model.PackageSubstitution},
    documentPackage scope names subject fields types = .ok out →
      ∀ s ∈ out, s.WellFormed root
  | field :: fields, type :: types, _, h => by
    simp [documentPackage] at h
    obtain ⟨type', htype, substitutions, hsubstitutions, rfl⟩ := h
    rw [List.forall_mem_cons]
    constructor
    · constructor
      · apply hsubject.fragment .type field
      · apply TypeExpr.document_wellFormed hscope htype
    · apply documentPackage_wellFormed hscope hsubject hsubstitutions
  | [], types, _, h => by
    simp [documentPackage] at h
    subst h
    simp
  | _ :: _, [], _, h => by
    simp [documentPackage] at h
    subst h
    simp

end

/-- The documentation of an optional type, if there is one, is well formed. -/
theorem documentOption_wellFormed (hscope : scope.Rooted root) {type : Option TypeExpr}
    {out : Option Model.TypeExpr} (h : documentOption scope names type = .ok out) :
  ∀ type ∈ out, type.WellFormed root
  := by
  cases type with
  | none =>
    obtain rfl := Except.ok.inj h
    simp
  | some type =>
    simp [documentOption] at h
    obtain ⟨type', htype, rfl⟩ := h
    simpa using TypeExpr.document_wellFormed hscope htype

end Compiled

/-! ### Written types -/

namespace Written

mutual

/-- The documentation of a written type is well formed. -/
theorem CoreType.document_wellFormed (hscope : scope.Rooted root) :
  ∀ {type : CoreType} {out : Model.TypeExpr}, (type.document config scope).outcome = .ok out →
    out.WellFormed root
  | .any _, _, h => by
    obtain rfl := Except.ok.inj h
    constructor
  | .var _ name, _, h => by
    obtain rfl := Except.ok.inj h
    constructor
  | .arrow _ label arg res, _, h => by
    simp [CoreType.document] at h
    obtain ⟨arg', harg, res', hres, rfl⟩ := h
    constructor
    · apply CoreType.document_wellFormed hscope harg
    · apply CoreType.document_wellFormed hscope hres
  | .tuple _ types, _, h => by
    simp [CoreType.document] at h
    obtain ⟨types', htypes, rfl⟩ := h
    constructor
    apply documentTypes_wellFormed hscope htypes
  | .constr _ p args, _, h => by
    simp [CoreType.document] at h
    obtain ⟨r, hr, args', hargs, rfl⟩ := h
    constructor
    · apply hscope.resolve hr
    · apply documentTypes_wellFormed hscope hargs
  | .object _ fields closure, _, h => by
    simp [CoreType.document] at h
    obtain ⟨fields', hfields, rfl⟩ := h
    constructor
    apply documentObjectFields_wellFormed hscope hfields
  | .class _ p args, _, h => by
    simp [CoreType.document] at h
    obtain ⟨r, hr, args', hargs, rfl⟩ := h
    constructor
    · apply hscope.resolve hr
    · apply documentTypes_wellFormed hscope hargs
  | .alias _ type name, _, h => by
    simp [CoreType.document] at h
    obtain ⟨type', htype, rfl⟩ := h
    constructor
    apply CoreType.document_wellFormed hscope htype
  | .variant _ fields closure present, _, h => by
    simp [CoreType.document] at h
    obtain ⟨elements, helements, rfl⟩ := h
    constructor
    apply documentRowFields_wellFormed hscope helements
  | .poly _ vars body, _, h => by
    simp [CoreType.document] at h
    obtain ⟨body', hbody, rfl⟩ := h
    exact (CoreType.document_wellFormed hscope hbody).quantified vars
  | .package _ p fields _, _, h => by
    simp [CoreType.document] at h
    obtain ⟨r, subject, hr, substitutions, hsubstitutions, rfl⟩ := h
    obtain ⟨htargets, hsubject⟩ := hscope.resolveSubject hr
    constructor
    · apply htargets
    · apply documentPackageFields_wellFormed hscope hsubject hsubstitutions

/-- The documentation of written types is well formed. -/
theorem documentTypes_wellFormed (hscope : scope.Rooted root) :
  ∀ {types : List CoreType} {out : List Model.TypeExpr},
    (documentTypes config scope types).outcome = .ok out → ∀ type ∈ out, type.WellFormed root
  | [], _, h => by
    obtain rfl := Except.ok.inj h
    simp
  | type :: types, _, h => by
    simp [documentTypes] at h
    obtain ⟨type', htype, types', htypes, rfl⟩ := h
    rw [List.forall_mem_cons]
    use CoreType.document_wellFormed hscope htype, documentTypes_wellFormed hscope htypes

theorem documentObjectFields_wellFormed (hscope : scope.Rooted root) :
  ∀ {fields : List ObjectField} {out : List Model.ObjectField},
    (documentObjectFields config scope fields).outcome = .ok out →
      ∀ field ∈ out, field.WellFormed root
  | [], _, h => by
    obtain rfl := Except.ok.inj h
    simp
  | .method name _ type :: fields, _, h => by
    simp [documentObjectFields] at h
    obtain ⟨type', htype, fields', hfields, rfl⟩ := h
    rw [List.forall_mem_cons]
    constructor
    · constructor
      apply CoreType.document_wellFormed hscope htype
    · apply documentObjectFields_wellFormed hscope hfields
  | .inherit type :: fields, _, h => by
    simp [documentObjectFields] at h
    obtain ⟨type', htype, fields', hfields, rfl⟩ := h
    rw [List.forall_mem_cons]
    constructor
    · constructor
      apply CoreType.document_wellFormed hscope htype
    · apply documentObjectFields_wellFormed hscope hfields

/-- The documentation of the fields of a polymorphic variant is well formed. -/
theorem documentRowFields_wellFormed (hscope : scope.Rooted root) :
  ∀ {fields : List RowField} {out : List Model.VariantElement},
    (documentRowFields config scope fields).outcome = .ok out →
      ∀ element ∈ out, element.WellFormed root
  | [], _, h => by
    obtain rfl := Except.ok.inj h
    simp
  | .tag name attributes constant args :: fields, _, h => by
    simp [documentRowFields] at h
    obtain ⟨args', hargs, fields', hfields, rfl⟩ := h
    rw [List.forall_mem_cons]
    constructor
    · constructor
      apply documentTypes_wellFormed hscope hargs
    · apply documentRowFields_wellFormed hscope hfields
  | .inherit type :: fields, _, h => by
    simp [documentRowFields] at h
    obtain ⟨type', htype, fields', hfields, rfl⟩ := h
    rw [List.forall_mem_cons]
    constructor
    · constructor
      apply CoreType.document_wellFormed hscope htype
    · apply documentRowFields_wellFormed hscope hfields

/-- The substitutions of a written package are well formed if its subject is rooted. -/
theorem documentPackageFields_wellFormed (hscope : scope.Rooted root) {subject : Subject}
    (hsubject : subject.Rooted root) :
  ∀ {fields : List PackageField} {out : List Model.PackageSubstitution},
    (documentPackageFields config scope subject fields).outcome = .ok out →
      ∀ s ∈ out, s.WellFormed root
  | [], _, h => by
    obtain rfl := Except.ok.inj h
    simp
  | .mk name type :: fields, _, h => by
    simp [documentPackageFields] at h
    obtain ⟨type', htype, fields', hfields, rfl⟩ := h
    rw [List.forall_mem_cons]
    constructor
    · constructor
      · apply hsubject.fragment .type name.txt
      · apply CoreType.document_wellFormed hscope htype
    · apply documentPackageFields_wellFormed hscope hsubject hfields

end

theorem documentOption_wellFormed (hscope : scope.Rooted root) {type : Option CoreType}
    {out : Option Model.TypeExpr} (h : (documentOption config scope type).outcome = .ok out) :
  ∀ type ∈ out, type.WellFormed root
  := by
  rcases Reading.optional_eq_ok.mp h with ⟨-, rfl⟩ | ⟨type, type', -, htype, rfl⟩
  · simp
  · simpa using CoreType.document_wellFormed hscope htype

end Written

end InterfaceDocs
