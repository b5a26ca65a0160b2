import InterfaceDocs.Load.WrittenType
import InterfaceDocs.Proofs.Visit.Scope

/-!
# Visits to types

Documenting a type expression gives a value exactly when the visits to it are sound.
-/

namespace InterfaceDocs

variable {env : List Ident} {scope : Scope}

namespace Compiled

variable {names : VarNames}

/-- An argument has a documentation exactly when its type has one. -/
theorem isOk_documentArgument {label : ArgLabel} {arg : TypeExpr} :
  Outcome.IsOk (documentArgument scope names label arg) ↔
    Outcome.IsOk (arg.document scope names)
  := by
  unfold documentArgument
  split
  · rename_i p type
    split
    · rename_i hoption
      obtain ⟨name, hname⟩ := resolve_of_isOptionPath scope hoption .type
      simp [TypeExpr.document, documentTypes, hname]
    · rfl
  · rfl

mutual

/-- A compiled type is documented exactly when the visits to it are sound. -/
theorem TypeExpr.isOk_document (h : scope.Binds env) :
  ∀ type : TypeExpr, Outcome.IsOk (type.document scope names) ↔ AllSound (type.visits env)
  | .var _ _ => by simp [TypeExpr.document, TypeExpr.visits]
  | .univar _ _ => by simp [TypeExpr.document, TypeExpr.visits]
  | .arrow label arg res => by
    simp [TypeExpr.document_arrow, TypeExpr.visits, isOk_documentArgument,
      TypeExpr.isOk_document h arg, TypeExpr.isOk_document h res]
  | .tuple types => by
    simp [TypeExpr.document, TypeExpr.visits, isOk_documentTypes h types]
  | .constr p args => by
    simp [TypeExpr.document, TypeExpr.visits, h.isOk_resolve, isOk_documentTypes h args]
  | .object methods _ => by
    simp [TypeExpr.document, TypeExpr.visits, isOk_documentMethods h methods]
  | .variant _ _ (some (.mk p args)) => by
    simp [TypeExpr.document, TypeExpr.visits, h.isOk_resolve, isOk_documentTypes h args]
  | .variant entries _ none => by
    simp [TypeExpr.document, TypeExpr.visits, isOk_documentRow h entries]
  | .poly body _ => by
    simp [TypeExpr.document, TypeExpr.visits, TypeExpr.isOk_document h body]
  | .package p fields types => by
    simp [TypeExpr.document, TypeExpr.visits, h.isOk_resolveSubject,
      isOk_documentPackage h _ fields types]
  | .alias type _ => by
    simp [TypeExpr.document, TypeExpr.visits, TypeExpr.isOk_document h type]

/-- Compiled types are documented exactly when the visits to them are sound. -/
theorem isOk_documentTypes (h : scope.Binds env) :
  ∀ types : List TypeExpr,
    Outcome.IsOk (documentTypes scope names types) ↔ AllSound (visitsTypes env types)
  | [] => by simp [documentTypes, visitsTypes]
  | type :: types => by
    simp [documentTypes, visitsTypes, TypeExpr.isOk_document h type, isOk_documentTypes h types]

theorem isOk_documentMethods (h : scope.Binds env) :
  ∀ methods : List ObjectMethod,
    Outcome.IsOk (documentMethods scope names methods) ↔ AllSound (visitsMethods env methods)
  | [] => by simp [documentMethods, visitsMethods]
  | .mk _ type :: methods => by
    simp [documentMethods, visitsMethods, TypeExpr.isOk_document h type,
      isOk_documentMethods h methods]

/-- The entries of a variant are documented exactly when the visits to them are sound. -/
theorem isOk_documentRow (h : scope.Binds env) :
  ∀ entries : List RowEntry,
    Outcome.IsOk (documentRow scope names entries) ↔ AllSound (visitsRow env entries)
  | [] => by simp [documentRow, visitsRow]
  | .mk _ (.present none) :: entries => by
    simp [documentRow, visitsRow, isOk_documentRow h entries]
  | .mk _ (.present (some type)) :: entries => by
    simp [documentRow, visitsRow, TypeExpr.isOk_document h type, isOk_documentRow h entries]
  | .mk _ (.either _ types) :: entries => by
    simp [documentRow, visitsRow, isOk_documentTypes h types, isOk_documentRow h entries]
  | .mk _ .absent :: entries => by
    simp [documentRow, visitsRow, isOk_documentRow h entries]

/-- The constraints of a package are documented exactly when the visits to those with a name are
sound. -/
theorem isOk_documentPackage (h : scope.Binds env) :
  ∀ (subject : Subject) (fields : List LongIdent) (types : List TypeExpr),
    Outcome.IsOk (documentPackage scope names subject fields types) ↔
      AllSound (visitsPackage env fields types)
  | _, [], [] => by simp [documentPackage, visitsPackage]
  | _, [], _ :: _ => by simp [documentPackage, visitsPackage]
  | _, _ :: _, [] => by simp [documentPackage, visitsPackage]
  | subject, _ :: fields, type :: types => by
    simp [documentPackage, visitsPackage, TypeExpr.isOk_document h type,
      isOk_documentPackage h subject fields types]

end

theorem isOk_documentOption (h : scope.Binds env) {type : Option TypeExpr} :
  Outcome.IsOk (documentOption scope names type) ↔ AllSound (visitsOption env type)
  := by
  cases type with
  | none => simp [documentOption, visitsOption]
  | some type => simp [documentOption, visitsOption, TypeExpr.isOk_document h]

end Compiled

namespace Written

variable {config : Config}

mutual

/-- A written type is documented exactly when the visits to it are sound. -/
theorem CoreType.isOk_document (h : scope.Binds env) :
  ∀ type : CoreType,
    Outcome.IsOk (type.document config scope).outcome ↔ AllSound (type.visits env)
  | .any _ => by simp [CoreType.document, CoreType.visits]
  | .var _ _ => by simp [CoreType.document, CoreType.visits]
  | .arrow _ _ arg res => by
    simp [CoreType.document, CoreType.visits, CoreType.isOk_document h arg,
      CoreType.isOk_document h res]
  | .tuple _ types => by
    simp [CoreType.document, CoreType.visits, isOk_documentTypes h types]
  | .constr _ p args => by
    simp [CoreType.document, CoreType.visits, h.isOk_resolve, isOk_documentTypes h args]
  | .object _ fields _ => by
    simp [CoreType.document, CoreType.visits, isOk_documentObjectFields h fields]
  | .class _ p args => by
    simp [CoreType.document, CoreType.visits, h.isOk_resolve, isOk_documentTypes h args]
  | .alias _ type _ => by
    simp [CoreType.document, CoreType.visits, CoreType.isOk_document h type]
  | .variant _ fields _ _ => by
    simp [CoreType.document, CoreType.visits, isOk_documentRowFields h fields]
  | .poly _ _ body => by
    simp [CoreType.document, CoreType.visits, CoreType.isOk_document h body]
  | .package _ p fields _ => by
    simp [CoreType.document, CoreType.visits, h.isOk_resolveSubject,
      isOk_documentPackageFields h _ fields]

/-- Written types are documented exactly when the visits to them are sound. -/
theorem isOk_documentTypes (h : scope.Binds env) :
  ∀ types : List CoreType,
    Outcome.IsOk (documentTypes config scope types).outcome ↔ AllSound (visitsTypes env types)
  | [] => by simp [documentTypes, visitsTypes]
  | type :: types => by
    simp [documentTypes, visitsTypes, CoreType.isOk_document h type, isOk_documentTypes h types]

theorem isOk_documentObjectFields (h : scope.Binds env) :
  ∀ fields : List ObjectField,
    Outcome.IsOk (documentObjectFields config scope fields).outcome ↔
      AllSound (visitsObjectFields env fields)
  | [] => by simp [documentObjectFields, visitsObjectFields]
  | .method _ _ type :: fields => by
    simp [documentObjectFields, visitsObjectFields, CoreType.isOk_document h type,
      isOk_documentObjectFields h fields]
  | .inherit type :: fields => by
    simp [documentObjectFields, visitsObjectFields, CoreType.isOk_document h type,
      isOk_documentObjectFields h fields]

/-- The fields of a polymorphic variant are documented exactly when the visits to them are sound. -/
theorem isOk_documentRowFields (h : scope.Binds env) :
  ∀ fields : List RowField,
    Outcome.IsOk (documentRowFields config scope fields).outcome ↔
      AllSound (visitsRowFields env fields)
  | [] => by simp [documentRowFields, visitsRowFields]
  | .tag _ _ _ args :: fields => by
    simp [documentRowFields, visitsRowFields, isOk_documentTypes h args,
      isOk_documentRowFields h fields]
  | .inherit type :: fields => by
    simp [documentRowFields, visitsRowFields, CoreType.isOk_document h type,
      isOk_documentRowFields h fields]

/-- The constraints of a written package are documented exactly when the visits to them are
sound. -/
theorem isOk_documentPackageFields (h : scope.Binds env) :
  ∀ (subject : Subject) (fields : List PackageField),
    Outcome.IsOk (documentPackageFields config scope subject fields).outcome ↔
      AllSound (visitsPackageFields env fields)
  | _, [] => by simp [documentPackageFields, visitsPackageFields]
  | subject, .mk _ type :: fields => by
    simp [documentPackageFields, visitsPackageFields, CoreType.isOk_document h type,
      isOk_documentPackageFields h subject fields]

end

end Written

end InterfaceDocs
