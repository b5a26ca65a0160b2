import InterfaceDocs.Load.WrittenType
import InterfaceDocs.Proofs.Hygiene.Scope

/-!
# Types in scopes that agree

Documenting a type gives the same in scopes that agree on its identifiers.
-/

namespace InterfaceDocs

variable {xs : List Ident} {s t : Scope}

/-- The identifiers of an element are among those of the list. -/
theorem idents_subset_of_mem {α : Type} {idents : α → List Ident} {as : List α} {a : α}
    (hx : as.flatMap idents ⊆ xs) (ha : a ∈ as) :
  idents a ⊆ xs
  := by
  intro x hxa
  apply hx (List.mem_flatMap.mpr ⟨a, ha, hxa⟩)

/-! ### Compiled types -/

namespace Compiled

/-- If a type is documented with the same outcome in two scopes and with two namings, so is an
argument of this type. -/
theorem documentArgument_congr {names names' : VarNames} (label : ArgLabel) {arg : TypeExpr}
    (harg : arg.document s names = arg.document t names') :
  documentArgument s names label arg = documentArgument t names' label arg
  := by
  unfold documentArgument
  split
  · rename_i p type
    split
    · rename_i hoption
      obtain ⟨name, hname⟩ := resolve_of_isOptionPath s hoption .type
      obtain ⟨name', hname'⟩ := resolve_of_isOptionPath t hoption .type
      simp only [TypeExpr.document, documentTypes, hname, hname'] at harg
      generalize type.document s names = out at harg ⊢
      generalize type.document t names' = out' at harg ⊢
      cases out <;> cases out' <;> simp_all [bind, Except.bind, pure, Except.pure]
    · apply harg
  · apply harg

variable (names : VarNames)

mutual

/-- Documenting a compiled type depends on what its identifiers are bound to. -/
theorem TypeExpr.document_congr (h : s.Agree xs t) :
  ∀ type : TypeExpr, type.idents ⊆ xs → type.document s names = type.document t names
  | .var _ _, _ => by
    rw [TypeExpr.document, TypeExpr.document]
  | .univar _ _, _ => by
    rw [TypeExpr.document, TypeExpr.document]
  | .arrow label arg res, hx => by
    obtain ⟨harg, hres⟩ := List.append_subset.mp hx
    rw [TypeExpr.document_arrow, TypeExpr.document_arrow,
      documentArgument_congr label (TypeExpr.document_congr h arg harg),
      TypeExpr.document_congr h res hres]
  | .tuple types, hx => by
    rw [TypeExpr.document, TypeExpr.document, documentTypes_congr h types hx]
  | .constr p args, hx => by
    obtain ⟨hp, hargs⟩ := List.append_subset.mp hx
    rw [TypeExpr.document, TypeExpr.document, Scope.resolve_congr h .type hp,
      documentTypes_congr h args hargs]
  | .object methods _, hx => by
    rw [TypeExpr.document, TypeExpr.document, documentMethods_congr h methods hx]
  | .variant _ _ (some (.mk p args)), hx => by
    obtain ⟨hp, hargs⟩ := List.append_subset.mp hx
    rw [TypeExpr.document, TypeExpr.document, Scope.resolve_congr h .type hp,
      documentTypes_congr h args hargs]
  | .variant entries _ none, hx => by
    rw [TypeExpr.document, TypeExpr.document, documentRow_congr h entries hx]
  | .poly body _, hx => by
    rw [TypeExpr.document, TypeExpr.document, TypeExpr.document_congr h body hx]
  | .package p fields types, hx => by
    obtain ⟨hp, htypes⟩ := List.append_subset.mp hx
    have hfields (subject : Subject) := documentPackage_congr h subject fields types htypes
    simp only [TypeExpr.document, Scope.resolveSubject_congr h hp, hfields]
  | .alias type _, hx => by
    rw [TypeExpr.document, TypeExpr.document, TypeExpr.document_congr h type hx]

/-- Types are documented alike in scopes that agree on their identifiers. -/
theorem documentTypes_congr (h : s.Agree xs t) :
  ∀ types : List TypeExpr, identsTypes types ⊆ xs →
    documentTypes s names types = documentTypes t names types
  | [], _ => rfl
  | type :: types, hx => by
    obtain ⟨htype, htypes⟩ := List.append_subset.mp hx
    rw [documentTypes, documentTypes, TypeExpr.document_congr h type htype,
      documentTypes_congr h types htypes]

theorem documentMethods_congr (h : s.Agree xs t) :
  ∀ methods : List ObjectMethod, identsMethods methods ⊆ xs →
    documentMethods s names methods = documentMethods t names methods
  | [], _ => rfl
  | .mk _ type :: methods, hx => by
    obtain ⟨htype, hmethods⟩ := List.append_subset.mp hx
    rw [documentMethods, documentMethods, TypeExpr.document_congr h type htype,
      documentMethods_congr h methods hmethods]

/-- The entries of a variant are documented alike in scopes that agree on their identifiers. -/
theorem documentRow_congr (h : s.Agree xs t) :
  ∀ entries : List RowEntry, identsRow entries ⊆ xs →
    documentRow s names entries = documentRow t names entries
  | [], _ => rfl
  | .mk _ (.present none) :: entries, hx => by
    rw [documentRow, documentRow, documentRow_congr h entries hx]
  | .mk _ (.present (some type)) :: entries, hx => by
    obtain ⟨htype, hentries⟩ := List.append_subset.mp hx
    rw [documentRow, documentRow, TypeExpr.document_congr h type htype,
      documentRow_congr h entries hentries]
  | .mk _ (.either _ types) :: entries, hx => by
    obtain ⟨htypes, hentries⟩ := List.append_subset.mp hx
    rw [documentRow, documentRow, documentTypes_congr h types htypes,
      documentRow_congr h entries hentries]
  | .mk _ .absent :: entries, hx => by
    rw [documentRow, documentRow, documentRow_congr h entries hx]

/-- The constraints of a package are documented alike in scopes that agree on their identifiers. -/
theorem documentPackage_congr (h : s.Agree xs t) :
  ∀ (subject : Subject) (fields : List LongIdent) (types : List TypeExpr),
    identsTypes types ⊆ xs →
      documentPackage s names subject fields types = documentPackage t names subject fields types
  | _, [], _, _ => by
    rw [documentPackage, documentPackage] <;> simp
  | _, _ :: _, [], _ => by
    rw [documentPackage, documentPackage] <;> simp
  | subject, _ :: fields, type :: types, hx => by
    obtain ⟨htype, htypes⟩ := List.append_subset.mp hx
    rw [documentPackage, documentPackage, TypeExpr.document_congr h type htype,
      documentPackage_congr h subject fields types htypes]

end

theorem documentOption_congr (h : s.Agree xs t) {type : Option TypeExpr}
    (hx : identsOption type ⊆ xs) :
  documentOption s names type = documentOption t names type
  := by
  cases type with
  | none => rfl
  | some type =>
    have htype := idents_subset_of_mem hx List.mem_cons_self
    rw [documentOption, documentOption, TypeExpr.document_congr names h type htype]

end Compiled

/-! ### Written types -/

namespace Written

variable (config : Config)

mutual

/-- Documenting a written type depends on what its identifiers are bound to. -/
theorem CoreType.document_congr (h : s.Agree xs t) :
  ∀ type : CoreType, type.idents ⊆ xs → type.document config s = type.document config t
  | .any _, _ => by
    rw [CoreType.document, CoreType.document]
  | .var _ _, _ => by
    rw [CoreType.document, CoreType.document]
  | .arrow _ _ arg res, hx => by
    obtain ⟨harg, hres⟩ := List.append_subset.mp hx
    rw [CoreType.document, CoreType.document, CoreType.document_congr h arg harg,
      CoreType.document_congr h res hres]
  | .tuple _ types, hx => by
    rw [CoreType.document, CoreType.document, documentTypes_congr h types hx]
  | .constr _ p args, hx => by
    obtain ⟨hp, hargs⟩ := List.append_subset.mp hx
    rw [CoreType.document, CoreType.document, Scope.resolve_congr h .type hp,
      documentTypes_congr h args hargs]
  | .object _ fields _, hx => by
    rw [CoreType.document, CoreType.document, documentObjectFields_congr h fields hx]
  | .class _ p args, hx => by
    obtain ⟨hp, hargs⟩ := List.append_subset.mp hx
    rw [CoreType.document, CoreType.document, Scope.resolve_congr h .classType hp,
      documentTypes_congr h args hargs]
  | .alias _ type _, hx => by
    rw [CoreType.document, CoreType.document, CoreType.document_congr h type hx]
  | .variant _ fields _ _, hx => by
    rw [CoreType.document, CoreType.document, documentRowFields_congr h fields hx]
  | .poly _ _ body, hx => by
    rw [CoreType.document, CoreType.document, CoreType.document_congr h body hx]
  | .package _ p fields _, hx => by
    obtain ⟨hp, hfields⟩ := List.append_subset.mp hx
    have hpackage (subject : Subject) := documentPackageFields_congr h subject fields hfields
    simp only [CoreType.document, Scope.resolveSubject_congr h hp, hpackage]

/-- Written types are documented alike in scopes that agree on their identifiers. -/
theorem documentTypes_congr (h : s.Agree xs t) :
  ∀ types : List CoreType, identsTypes types ⊆ xs →
    documentTypes config s types = documentTypes config t types
  | [], _ => by
    rw [documentTypes, documentTypes]
  | type :: types, hx => by
    obtain ⟨htype, htypes⟩ := List.append_subset.mp hx
    rw [documentTypes, documentTypes, CoreType.document_congr h type htype,
      documentTypes_congr h types htypes]

theorem documentObjectFields_congr (h : s.Agree xs t) :
  ∀ fields : List ObjectField, identsObjectFields fields ⊆ xs →
    documentObjectFields config s fields = documentObjectFields config t fields
  | [], _ => by
    rw [documentObjectFields, documentObjectFields]
  | .method _ _ type :: fields, hx => by
    obtain ⟨htype, hfields⟩ := List.append_subset.mp hx
    rw [documentObjectFields, documentObjectFields, CoreType.document_congr h type htype,
      documentObjectFields_congr h fields hfields]
  | .inherit type :: fields, hx => by
    obtain ⟨htype, hfields⟩ := List.append_subset.mp hx
    rw [documentObjectFields, documentObjectFields, CoreType.document_congr h type htype,
      documentObjectFields_congr h fields hfields]

/-- The fields of a polymorphic variant are documented alike in scopes that agree on their
identifiers. -/
theorem documentRowFields_congr (h : s.Agree xs t) :
  ∀ fields : List RowField, identsRowFields fields ⊆ xs →
    documentRowFields config s fields = documentRowFields config t fields
  | [], _ => by
    rw [documentRowFields, documentRowFields]
  | .tag _ _ _ args :: fields, hx => by
    obtain ⟨hargs, hfields⟩ := List.append_subset.mp hx
    rw [documentRowFields, documentRowFields, documentTypes_congr h args hargs,
      documentRowFields_congr h fields hfields]
  | .inherit type :: fields, hx => by
    obtain ⟨htype, hfields⟩ := List.append_subset.mp hx
    rw [documentRowFields, documentRowFields, CoreType.document_congr h type htype,
      documentRowFields_congr h fields hfields]

theorem documentPackageFields_congr (h : s.Agree xs t) :
  ∀ (subject : Subject) (fields : List PackageField), identsPackageFields fields ⊆ xs →
    documentPackageFields config s subject fields = documentPackageFields config t subject fields
  | _, [], _ => by
    rw [documentPackageFields, documentPackageFields]
  | subject, .mk _ type :: fields, hx => by
    obtain ⟨htype, hfields⟩ := List.append_subset.mp hx
    rw [documentPackageFields, documentPackageFields, CoreType.document_congr h type htype,
      documentPackageFields_congr h subject fields hfields]

end

end Written

end InterfaceDocs
