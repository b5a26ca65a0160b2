import InterfaceDocs.Proofs.Rewrite.Signature
import Mathlib.Tactic.Use

/-!
# Quantifiers without variables

A quantified type without variables is documented as its body, so such quantifiers may be dropped
from the types of a signature wherever types are only documented (`CoreType.document_collapsed`).
A reader that looks at a type itself sees the quantifier: a type parameter under a quantifier is
not a variable.  The collapsed form of a signature has no other quantifiers without variables, and
signatures with the same collapsed form are loaded alike (`load_eq_of_collapsed_eq`).
-/

namespace InterfaceDocs

/-- A last step that gives what it is given may be left out. -/
theorem Reading.bind_pure {α : Type} (x : Reading α) :
  x >>= pure = x
  := by
  rcases x with ⟨events, e | a⟩
  · rfl
  · change Reading.mk (events ++ []) (.ok a) = _
    rw [List.append_nil]

namespace Written

/-! ### Types -/

mutual

/-- The type expression without its quantifiers that bind no variables. -/
def CoreType.collapsed : CoreType → CoreType
  | .any info => .any info
  | .var info name => .var info name
  | .arrow info label arg res => .arrow info label arg.collapsed res.collapsed
  | .tuple info types => .tuple info (collapsedTypes types)
  | .constr info p args => .constr info p (collapsedTypes args)
  | .object info fields closure => .object info (collapsedObjectFields fields) closure
  | .class info p args => .class info p (collapsedTypes args)
  | .alias info type name => .alias info type.collapsed name
  | .variant info fields closure present =>
    .variant info (collapsedRowFields fields) closure present
  | .poly _ [] body => body.collapsed
  | .poly info (v :: vars) body => .poly info (v :: vars) body.collapsed
  | .package info p fields loc => .package info p (collapsedPackageFields fields) loc

/-- The type expressions, collapsed. -/
def collapsedTypes : List CoreType → List CoreType
  | [] => []
  | type :: types => type.collapsed :: collapsedTypes types

/-- The fields of an object type with their types collapsed. -/
def collapsedObjectFields : List ObjectField → List ObjectField
  | [] => []
  | .method name attributes type :: fields =>
    .method name attributes type.collapsed :: collapsedObjectFields fields
  | .inherit type :: fields => .inherit type.collapsed :: collapsedObjectFields fields

/-- The fields of a polymorphic variant with their types collapsed. -/
def collapsedRowFields : List RowField → List RowField
  | [] => []
  | .tag name attributes constant args :: fields =>
    .tag name attributes constant (collapsedTypes args) :: collapsedRowFields fields
  | .inherit type :: fields => .inherit type.collapsed :: collapsedRowFields fields

/-- The constraints of a package type with their types collapsed. -/
def collapsedPackageFields : List PackageField → List PackageField
  | [] => []
  | .mk name type :: fields => .mk name type.collapsed :: collapsedPackageFields fields

end

variable (config : Config) (scope : Scope)

mutual

/-- A type expression is documented as its collapsed form. -/
theorem CoreType.document_collapsed :
  ∀ type : CoreType, type.collapsed.document config scope = type.document config scope
  | .any _ => by
    rw [CoreType.collapsed]
  | .var _ _ => by
    rw [CoreType.collapsed]
  | .arrow _ _ arg res => by
    rw [CoreType.collapsed, CoreType.document, CoreType.document, arg.document_collapsed,
      res.document_collapsed]
  | .tuple _ types => by
    rw [CoreType.collapsed, CoreType.document, CoreType.document, documentTypes_collapsed types]
  | .constr _ _ args => by
    rw [CoreType.collapsed, CoreType.document, CoreType.document, documentTypes_collapsed args]
  | .object _ fields _ => by
    rw [CoreType.collapsed, CoreType.document, CoreType.document,
      documentObjectFields_collapsed fields]
  | .class _ _ args => by
    rw [CoreType.collapsed, CoreType.document, CoreType.document, documentTypes_collapsed args]
  | .alias _ type _ => by
    rw [CoreType.collapsed, CoreType.document, CoreType.document, type.document_collapsed]
  | .variant _ fields _ _ => by
    rw [CoreType.collapsed, CoreType.document, CoreType.document,
      documentRowFields_collapsed fields]
  | .poly _ [] body => by
    -- A quantifier without variables gives back the body.
    rw [CoreType.collapsed, body.document_collapsed, CoreType.document]
    apply (Reading.bind_pure (body.document config scope)).symm
  | .poly _ (_ :: _) body => by
    rw [CoreType.collapsed, CoreType.document, CoreType.document, body.document_collapsed]
  | .package _ _ fields _ => by
    simp only [CoreType.collapsed, CoreType.document, documentPackageFields_collapsed _ fields]

/-- Collapsed types are documented like the types. -/
theorem documentTypes_collapsed :
  ∀ types : List CoreType,
    documentTypes config scope (collapsedTypes types) = documentTypes config scope types
  | [] => by
    rw [collapsedTypes]
  | type :: types => by
    rw [collapsedTypes, documentTypes, documentTypes, type.document_collapsed,
      documentTypes_collapsed types]

theorem documentObjectFields_collapsed :
  ∀ fields : List ObjectField,
    documentObjectFields config scope (collapsedObjectFields fields)
      = documentObjectFields config scope fields
  | [] => by
    rw [collapsedObjectFields]
  | .method _ _ type :: fields => by
    rw [collapsedObjectFields, documentObjectFields, documentObjectFields,
      type.document_collapsed, documentObjectFields_collapsed fields]
  | .inherit type :: fields => by
    rw [collapsedObjectFields, documentObjectFields, documentObjectFields,
      type.document_collapsed, documentObjectFields_collapsed fields]

theorem documentRowFields_collapsed :
  ∀ fields : List RowField,
    documentRowFields config scope (collapsedRowFields fields)
      = documentRowFields config scope fields
  | [] => by
    rw [collapsedRowFields]
  | .tag _ _ _ args :: fields => by
    rw [collapsedRowFields, documentRowFields, documentRowFields, documentTypes_collapsed args,
      documentRowFields_collapsed fields]
  | .inherit type :: fields => by
    rw [collapsedRowFields, documentRowFields, documentRowFields, type.document_collapsed,
      documentRowFields_collapsed fields]

theorem documentPackageFields_collapsed :
  ∀ (subject : Subject) (fields : List PackageField),
    documentPackageFields config scope subject (collapsedPackageFields fields)
      = documentPackageFields config scope subject fields
  | _, [] => by
    rw [collapsedPackageFields]
  | subject, .mk _ type :: fields => by
    rw [collapsedPackageFields, documentPackageFields, documentPackageFields,
      type.document_collapsed, documentPackageFields_collapsed subject fields]

end

/-! ### Types that are looked at -/

/-- Whether a type is anonymous. -/
def CoreType.isAny : CoreType → Bool
  | .any _ => true
  | _ => false

/-- Whether a type is an applied constructor. -/
def CoreType.isConstr : CoreType → Bool
  | .constr _ _ _ => true
  | _ => false

/-- The collapsed type, which keeps a quantifier in front if the collapsed body is of a kind that
a reader looks for. -/
def CoreType.collapsedUnless (kept : CoreType → Bool) : CoreType → CoreType
  | .poly info [] body =>
    if kept body.collapsed then .poly info [] body.collapsed else body.collapsed
  | type => type.collapsed

/-- Whatever is kept, the type is documented alike. -/
theorem CoreType.document_collapsedUnless (kept : CoreType → Bool) (type : CoreType) :
  (type.collapsedUnless kept).document config scope = type.document config scope
  := by
  rw [CoreType.collapsedUnless.eq_def]
  split
  · rename_i info body
    split
    · rw [CoreType.document, CoreType.document, body.document_collapsed]
    · have h := CoreType.document_collapsed config scope (.poly info [] body)
      rw [CoreType.collapsed] at h
      apply h
  · apply CoreType.document_collapsed

/-- The type of the object itself is documented unless it is anonymous. -/
theorem documentSelf_of_isAny_eq_false {type : CoreType} (h : type.isAny = false) :
  documentSelf config scope type = do return some (← type.document config scope)
  := by
  cases type with
  | any info => cases h
  | _ => rfl

/-- What is not an applied constructor has no head. -/
theorem documentHead_of_isConstr_eq_false {type : CoreType} (h : type.isConstr = false) :
  documentHead scope type = .ok none
  := by
  cases type with
  | constr info p args => cases h
  | _ => rfl

/-- A quantifier without variables is kept in front of a type parameter. -/
theorem TypeParam.document_collapsedUnless (owner : String) (p : TypeParam) :
  TypeParam.document owner { p with type := p.type.collapsedUnless fun _ => true }
    = p.document owner
  := by
  rcases p with ⟨type, variance, injectivity⟩
  cases type with
  | poly info vars body => cases vars <;> rfl
  | _ => rfl

/-- A type is of the kind that a reader looks for exactly if its collapsed form is, when the
quantifiers before such types are kept. -/
theorem CoreType.kept_collapsedUnless {kept : CoreType → Bool}
    (hpoly : ∀ info vars body, kept (.poly info vars body) = false)
    (hcollapsed : ∀ type, (∀ info vars body, type ≠ .poly info vars body) →
      kept type.collapsed = kept type) (type : CoreType) :
  kept (type.collapsedUnless kept) = kept type
  := by
  cases type with
  | poly info vars body =>
    rw [hpoly]
    cases vars with
    | nil =>
      rw [collapsedUnless]
      split
      · apply hpoly
      · rename_i hkept
        apply Bool.eq_false_iff.mpr hkept
    | cons v vars => apply hpoly
  | _ =>
    apply hcollapsed
    intro info vars body h
    cases h

/-- A quantifier is kept in front of an anonymous type, so no type becomes anonymous. -/
theorem CoreType.isAny_collapsedUnless (type : CoreType) :
  (type.collapsedUnless isAny).isAny = type.isAny
  := by
  apply kept_collapsedUnless (fun _ _ _ => rfl)
  intro type htype
  cases type with
  | poly info vars body => apply absurd rfl (htype info vars body)
  | _ => rfl

/-- A quantifier is kept in front of an applied constructor, so no type becomes one. -/
theorem CoreType.isConstr_collapsedUnless (type : CoreType) :
  (type.collapsedUnless isConstr).isConstr = type.isConstr
  := by
  apply kept_collapsedUnless (fun _ _ _ => rfl)
  intro type htype
  cases type with
  | poly info vars body => apply absurd rfl (htype info vars body)
  | _ => rfl

/-- It is kept in front of an anonymous self type, which would be left out without it. -/
theorem documentSelf_collapsedUnless (type : CoreType) :
  documentSelf config scope (type.collapsedUnless CoreType.isAny)
    = documentSelf config scope type
  := by
  cases hany : type.isAny with
  | true =>
    cases type with
    | any info => rfl
    | _ => cases hany
  | false =>
    have hany' := type.isAny_collapsedUnless.trans hany
    rw [documentSelf_of_isAny_eq_false config scope hany,
      documentSelf_of_isAny_eq_false config scope hany', type.document_collapsedUnless]

/-- It is kept in front of an applied constructor, which would be a head without it. -/
theorem documentHead_collapsedUnless (type : CoreType) :
  documentHead scope (type.collapsedUnless CoreType.isConstr) = documentHead scope type
  := by
  cases hconstr : type.isConstr with
  | true =>
    cases type with
    | constr info p args => rfl
    | _ => cases hconstr
  | false =>
    have hconstr' := type.isConstr_collapsedUnless.trans hconstr
    rw [documentHead_of_isConstr_eq_false scope hconstr,
      documentHead_of_isConstr_eq_false scope hconstr']

/-! ### Signatures -/

/-- The rewriting that drops the quantifiers without variables. -/
def TypeRewriting.collapse : TypeRewriting where
  type := CoreType.collapsed
  param := CoreType.collapsedUnless fun _ => true
  self := CoreType.collapsedUnless CoreType.isAny
  manifest := CoreType.collapsedUnless CoreType.isConstr
  document_type := CoreType.document_collapsed
  document_param := TypeParam.document_collapsedUnless
  document_self := documentSelf_collapsedUnless
  document_manifest config scope := CoreType.document_collapsedUnless config scope _
  documentHead_manifest := documentHead_collapsedUnless

/-- The signature without the quantifiers that bind no variables.  They stay where they are the
outermost part of a type parameter, of a self type that would be anonymous without them, or of a
manifest in a substitution constraint that would have a head without them. -/
def Signature.collapsed (signature : Signature) : Signature :=
  signature.rewrite .collapse

end Written

/-- Signatures that differ in quantifiers without variables are loaded alike, with the same events
and the same interface or error.  A type parameter has the same quantifiers in front in both. -/
theorem load_eq_of_collapsed_eq (config : Config) (container unit : String)
    {signature signature' : Written.Signature} (h : signature.collapsed = signature'.collapsed) :
  Model.Interface.load config container unit signature
    = Model.Interface.load config container unit signature'
  := by
  calc Model.Interface.load config container unit signature
      = Model.Interface.load config container unit signature.collapsed :=
        (Model.Interface.load_rewrite .collapse config container unit signature).symm
    _ = Model.Interface.load config container unit signature'.collapsed := by rw [h]
    _ = Model.Interface.load config container unit signature' :=
        Model.Interface.load_rewrite .collapse config container unit signature'

/-- A record type `t` with a manifest, a class with a self type and a method, and a module type
with a substitution of a type, in which quantifiers without variables may stand. -/
def quantifierSample (q : Written.CoreType → Written.CoreType) : Written.Signature :=
  let info : Written.NodeInfo := ⟨.none, []⟩
  let a : Written.CoreType := .var info "a"
  let t : Written.CoreType := .constr info (.ident ⟨"t", 1, 0⟩) [q a]
  let body : Written.ModuleType := .signature info
    [.type .none .recursive [⟨⟨"u", 7, 0⟩, [], [], .abstract, .publicly, none, .none, []⟩]]
  [.type .none .recursive [⟨⟨"t", 1, 0⟩, [⟨a, .unmarked, .unmarked⟩],
      [⟨q a, q (q (.any info)), .none⟩],
      .record [⟨⟨"f", 2, 0⟩, .immutable, q (.arrow info .positional (q a) t), .none, []⟩],
      .publicly, some (q t), .none, []⟩],
    .class .none [⟨.concrete, [], ⟨"c", 3, 0⟩, ⟨"c", 4, 0⟩, ⟨"c", 5, 0⟩,
      .signature info (q (.var info "self"))
        [.method info "m" .publicly .concrete (q (.poly info ["b"] (q (.var info "b"))))],
      .none, []⟩],
    .moduleType .none ⟨⟨"S", 6, 0⟩, some (.constrained info body
      [⟨⟨.ident "u", .none⟩, .typeSubst
        ⟨⟨"u", 8, 0⟩, [], [], .abstract, .publicly, some (q (.tuple info [q t, t])), .none, []⟩⟩]),
      [], .none⟩]

/-- With quantifiers without variables the sample gives the interface that it gives without
them. -/
theorem quantifierSample_load :
  let quantify : Written.CoreType → Written.CoreType := .poly ⟨.none, []⟩ []
  (quantifierSample quantify).collapsed = (quantifierSample id).collapsed ∧
    Model.Interface.load .standard "pkg" "Unit" (quantifierSample quantify)
      = Model.Interface.load .standard "pkg" "Unit" (quantifierSample id) ∧
    ∃ interface, (Model.Interface.load .standard "pkg" "Unit" (quantifierSample quantify)).outcome
      = .ok interface
  := by
  intro quantify
  have hcollapsed : (quantifierSample quantify).collapsed = (quantifierSample id).collapsed := rfl
  have hload := load_eq_of_collapsed_eq .standard "pkg" "Unit" hcollapsed
  use hcollapsed, hload
  refine ⟨_, rfl⟩

/-- An abstract type with a parameter. -/
def parameterSample (param : Written.CoreType) : Written.Signature :=
  [.type .none .recursive [⟨⟨"t", 1, 0⟩, [⟨param, .unmarked, .unmarked⟩], [], .abstract,
    .publicly, none, .none, []⟩]]

/-- A variable is a type parameter, and under a quantifier without variables it is none. -/
theorem parameterSample_quantified :
  let info : Written.NodeInfo := ⟨.none, []⟩
  (∃ interface, (Model.Interface.load .standard "pkg" "Unit"
      (parameterSample (.var info "a"))).outcome = .ok interface) ∧
    (Model.Interface.load .standard "pkg" "Unit"
      (parameterSample (.poly info [] (.var info "a")))).outcome
        = .error (.invalidTypeParameter "t" .none)
  := ⟨⟨_, rfl⟩, rfl⟩

end InterfaceDocs
