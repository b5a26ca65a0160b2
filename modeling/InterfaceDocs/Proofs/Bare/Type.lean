import InterfaceDocs.Load.WrittenType
import InterfaceDocs.Proofs.Agreement
import InterfaceDocs.Proofs.Bare.Tree
import InterfaceDocs.Proofs.Model.Bare

/-!
# Documenting bare types

A type expression and its bare form are documented alike up to documentation, whatever the
configurations are.
-/

namespace InterfaceDocs.Written

open Reading (Agree)

variable (config config' : Config) (scope : Scope)

mutual

/-- A type expression agrees with its bare form up to documentation. -/
theorem CoreType.document_bare :
  ∀ type : CoreType,
    (type.document config scope).Agree Model.TypeExpr.bare (type.bare.document config' scope)
  | .any _ => by
    rw [CoreType.bare, CoreType.document, CoreType.document]
    apply Agree.refl
  | .var _ name => by
    rw [CoreType.bare, CoreType.document, CoreType.document]
    apply Agree.refl
  | .arrow _ label arg res => by
    rw [CoreType.bare, CoreType.document, CoreType.document]
    apply Agree.bind arg.document_bare
    intro a a' ha
    apply Agree.bind res.document_bare
    intro r r' hr
    apply Agree.pure
    rw [Model.TypeExpr.bare, Model.TypeExpr.bare, ha, hr]
  | .tuple _ types => by
    rw [CoreType.bare, CoreType.document, CoreType.document]
    apply Agree.bind (documentTypes_bare types)
    intro ts ts' hts
    apply Agree.pure
    rw [Model.TypeExpr.bare, Model.TypeExpr.bare, hts]
  | .constr _ p args => by
    rw [CoreType.bare, CoreType.document, CoreType.document]
    apply Agree.bind_right
    intro r
    apply Agree.bind (documentTypes_bare args)
    intro ts ts' hts
    apply Agree.pure
    rw [Model.TypeExpr.bare, Model.TypeExpr.bare, hts]
  | .object _ fields closure => by
    rw [CoreType.bare, CoreType.document, CoreType.document]
    apply Agree.bind (documentObjectFields_bare fields)
    intro fs fs' hfs
    apply Agree.pure
    rw [Model.TypeExpr.bare, Model.TypeExpr.bare, hfs]
  | .class _ p args => by
    rw [CoreType.bare, CoreType.document, CoreType.document]
    apply Agree.bind_right
    intro r
    apply Agree.bind (documentTypes_bare args)
    intro ts ts' hts
    apply Agree.pure
    rw [Model.TypeExpr.bare, Model.TypeExpr.bare, hts]
  | .alias _ type name => by
    rw [CoreType.bare, CoreType.document, CoreType.document]
    apply Agree.bind type.document_bare
    intro t t' ht
    apply Agree.pure
    rw [Model.TypeExpr.bare, Model.TypeExpr.bare, ht]
  | .variant _ fields closure present => by
    rw [CoreType.bare, CoreType.document, CoreType.document]
    apply Agree.bind (documentRowFields_bare fields)
    intro es es' hes
    apply Agree.pure
    rw [Model.TypeExpr.bare, Model.TypeExpr.bare, hes]
  | .poly _ vars body => by
    rw [CoreType.bare, CoreType.document, CoreType.document]
    apply Agree.bind body.document_bare
    intro t t' ht
    apply Agree.pure
    rw [Model.TypeExpr.bare_quantified, Model.TypeExpr.bare_quantified, ht]
  | .package _ p fields _ => by
    rw [CoreType.bare, CoreType.document, CoreType.document]
    apply Agree.bind_right
    rintro ⟨r, subject⟩
    apply Agree.bind (documentPackageFields_bare subject fields)
    intro ss ss' hss
    apply Agree.pure
    rw [Model.TypeExpr.bare, Model.TypeExpr.bare, hss]

/-- Types and their bare forms agree up to documentation. -/
theorem documentTypes_bare :
  ∀ types : List CoreType,
    (documentTypes config scope types).Agree Model.bareTypes
      (documentTypes config' scope (bareTypes types))
  | [] => by
    rw [bareTypes, documentTypes, documentTypes]
    apply Agree.refl
  | type :: types => by
    rw [bareTypes, documentTypes, documentTypes]
    apply Agree.bind type.document_bare
    intro t t' ht
    apply Agree.bind (documentTypes_bare types)
    intro ts ts' hts
    apply Agree.pure
    rw [Model.bareTypes, Model.bareTypes, ht, hts]

theorem documentObjectFields_bare :
  ∀ fields : List ObjectField,
    (documentObjectFields config scope fields).Agree Model.bareObjectFields
      (documentObjectFields config' scope (bareObjectFields fields))
  | [] => by
    rw [bareObjectFields, documentObjectFields, documentObjectFields]
    apply Agree.refl
  | .method name _ type :: fields => by
    rw [bareObjectFields, documentObjectFields, documentObjectFields]
    apply Agree.bind type.document_bare
    intro t t' ht
    apply Agree.bind (documentObjectFields_bare fields)
    intro fs fs' hfs
    apply Agree.pure
    rw [Model.bareObjectFields, Model.bareObjectFields, ht, hfs]
  | .inherit type :: fields => by
    rw [bareObjectFields, documentObjectFields, documentObjectFields]
    apply Agree.bind type.document_bare
    intro t t' ht
    apply Agree.bind (documentObjectFields_bare fields)
    intro fs fs' hfs
    apply Agree.pure
    rw [Model.bareObjectFields, Model.bareObjectFields, ht, hfs]

/-- The fields of a polymorphic variant and their bare forms agree up to documentation. -/
theorem documentRowFields_bare :
  ∀ fields : List RowField,
    (documentRowFields config scope fields).Agree Model.bareElements
      (documentRowFields config' scope (bareRowFields fields))
  | [] => by
    rw [bareRowFields, documentRowFields, documentRowFields]
    apply Agree.refl
  | .tag name attributes constant args :: fields => by
    rw [bareRowFields, documentRowFields, documentRowFields]
    apply Agree.bind (documentTypes_bare args)
    intro ts ts' hts
    apply Agree.bind (Load.readAnonymousDoc_agree config config' name.txt attributes [])
    intro doc doc' _
    apply Agree.bind (documentRowFields_bare fields)
    intro es es' hes
    apply Agree.pure
    rw [Model.bareElements, Model.bareElements, hts, hes]
  | .inherit type :: fields => by
    rw [bareRowFields, documentRowFields, documentRowFields]
    apply Agree.bind type.document_bare
    intro t t' ht
    apply Agree.bind (documentRowFields_bare fields)
    intro es es' hes
    apply Agree.pure
    rw [Model.bareElements, Model.bareElements, ht, hes]

/-- The constraints of a package and their bare forms agree up to documentation. -/
theorem documentPackageFields_bare :
  ∀ (subject : Subject) (fields : List PackageField),
    (documentPackageFields config scope subject fields).Agree Model.barePackage
      (documentPackageFields config' scope subject (barePackageFields fields))
  | _, [] => by
    rw [barePackageFields, documentPackageFields, documentPackageFields]
    apply Agree.refl
  | subject, .mk name type :: fields => by
    rw [barePackageFields, documentPackageFields, documentPackageFields]
    apply Agree.bind type.document_bare
    intro t t' ht
    apply Agree.bind (documentPackageFields_bare subject fields)
    intro ss ss' hss
    apply Agree.pure
    rw [Model.barePackage, Model.barePackage, ht, hss]

end

end InterfaceDocs.Written
