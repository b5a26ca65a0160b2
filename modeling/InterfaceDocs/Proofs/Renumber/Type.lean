import InterfaceDocs.Proofs.Outcome
import InterfaceDocs.Proofs.Renumber.Scope
import InterfaceDocs.Load.WrittenType

/-!
# Renumbered types

The names of anonymous variables depend on the order in which the variables appear, so they
are the same after a renumbering (`VarNames.collect_renumber`, `VarNames.name_renumber`).
Documenting a renumbered type gives the documentation of the type.
-/

namespace InterfaceDocs

variable (ρ : Renumbering)

/-! ### Documentation -/

namespace Load

/-- Reading documentation fails with no identifier. -/
@[simp]
theorem readDoc_renumber (config : Config) (id : Identifier) (attributes : List Attribute) :
  (readDoc config id attributes).renumber ρ = readDoc config id attributes
  := rfl

@[simp]
theorem readAnonymousDoc_renumber (config : Config) (name : String)
    (attributes : List Attribute) :
  (readAnonymousDoc config name attributes).renumber ρ
    = readAnonymousDoc config name attributes
  := rfl

@[simp]
theorem readComments_renumber (config : Config) (attributes : List Attribute) :
  (readComments config attributes).renumber ρ = readComments config attributes
  := rfl

@[simp]
theorem readCanonical_renumber (doc : Doc) :
  (readCanonical doc).renumber ρ = readCanonical doc
  := rfl

end Load

/-! ### Names of variables -/

/-- The names with the ids of the variables renumbered. -/
def VarNames.renumber (names : VarNames) : VarNames :=
  ⟨names.names.map fun (id, name) => (ρ.var id, name)⟩

namespace Compiled

mutual

/-- The expressions in a renumbered type are the renumbered expressions. -/
theorem TypeExpr.nodes_renumber :
  ∀ type : TypeExpr, (type.renumber ρ).nodes = type.nodes.map (TypeExpr.renumber ρ)
  | .var none _ => rfl
  | .var (some _) _ => rfl
  | .univar none _ => rfl
  | .univar (some _) _ => rfl
  | .arrow _ arg res => by
    simp only [TypeExpr.renumber, TypeExpr.nodes, arg.nodes_renumber, res.nodes_renumber,
      List.map_cons, List.map_append]
  | .tuple types => by
    simp only [TypeExpr.renumber, TypeExpr.nodes, nodesList_renumber types, List.map_cons]
  | .constr _ args => by
    simp only [TypeExpr.renumber, TypeExpr.nodes, nodesList_renumber args, List.map_cons]
  | .package _ _ types => by
    simp only [TypeExpr.renumber, TypeExpr.nodes, nodesList_renumber types, List.map_cons]
  | .object methods _ => by
    simp only [TypeExpr.renumber, TypeExpr.nodes, nodesMethods_renumber methods, List.map_cons]
  | .variant entries _ none => by
    simp only [TypeExpr.renumber, TypeExpr.nodes, nodesRow_renumber entries, List.map_cons,
      List.append_nil]
  | .variant entries _ (some (.mk _ args)) => by
    simp only [TypeExpr.renumber, TypeExpr.nodes, nodesRow_renumber entries,
      nodesList_renumber args, List.map_cons, List.map_append]
  | .poly body vars => by
    simp only [TypeExpr.renumber, TypeExpr.nodes, body.nodes_renumber, nodesList_renumber vars,
      List.map_cons, List.map_append]
  | .alias type _ => by
    simp only [TypeExpr.renumber, TypeExpr.nodes, type.nodes_renumber, List.map_cons]

/-- The expressions in renumbered types are the renumbered expressions. -/
theorem nodesList_renumber :
  ∀ types : List TypeExpr,
    nodesList (renumberTypes ρ types) = (nodesList types).map (TypeExpr.renumber ρ)
  | [] => rfl
  | type :: types => by
    simp only [renumberTypes, nodesList, type.nodes_renumber, nodesList_renumber types,
      List.map_append]

theorem nodesMethods_renumber :
  ∀ methods : List ObjectMethod,
    nodesMethods (renumberMethods ρ methods) = (nodesMethods methods).map (TypeExpr.renumber ρ)
  | [] => rfl
  | .mk _ type :: methods => by
    simp only [renumberMethods, nodesMethods, type.nodes_renumber,
      nodesMethods_renumber methods, List.map_append]

theorem nodesRow_renumber :
  ∀ entries : List RowEntry,
    nodesRow (renumberRow ρ entries) = (nodesRow entries).map (TypeExpr.renumber ρ)
  | [] => rfl
  | .mk _ (.present none) :: entries => nodesRow_renumber entries
  | .mk _ (.present (some type)) :: entries => by
    simp only [renumberRow, nodesRow, type.nodes_renumber, nodesRow_renumber entries,
      List.map_append]
  | .mk _ (.either _ types) :: entries => by
    simp only [renumberRow, nodesRow, nodesList_renumber types, nodesRow_renumber entries,
      List.map_append]
  | .mk _ .absent :: entries => nodesRow_renumber entries

end

end Compiled

namespace VarNames

open Compiled

/-- A renumbered expression uses the same name. -/
theorem usedName_renumber :
  ∀ type : TypeExpr, usedName (type.renumber ρ) = usedName type
  | .var none _ => rfl
  | .var (some _) _ => rfl
  | .univar none _ => rfl
  | .univar (some _) _ => rfl
  | .arrow _ _ _ => rfl
  | .tuple _ => rfl
  | .constr _ _ => rfl
  | .object _ _ => rfl
  | .variant _ _ none => rfl
  | .variant _ _ (some (.mk _ _)) => rfl
  | .poly _ _ => rfl
  | .package _ _ _ => rfl
  | .alias _ _ => rfl

/-- The id of an anonymous variable is renumbered. -/
theorem anonymousId_renumber :
  ∀ type : TypeExpr, anonymousId (type.renumber ρ) = (anonymousId type).map ρ.var
  | .var none _ => rfl
  | .var (some _) _ => rfl
  | .univar none _ => rfl
  | .univar (some _) _ => rfl
  | .arrow _ _ _ => rfl
  | .tuple _ => rfl
  | .constr _ _ => rfl
  | .object _ _ => rfl
  | .variant _ _ none => rfl
  | .variant _ _ (some (.mk _ _)) => rfl
  | .poly _ _ => rfl
  | .package _ _ _ => rfl
  | .alias _ _ => rfl

/-- Renumbering keeps which ids are repetitions. -/
theorem distinct_map (ids : List Int32) :
  distinct (ids.map ρ.var) = (distinct ids).map ρ.var
  := by
  induction ids with
  | nil => rfl
  | cons id ids ih =>
    simp only [List.map_cons, distinct, ih, List.filter_map]
    congr 3
    funext other
    simp [ρ.var_injective.eq_iff]

/-- The names of the anonymous variables are the same after a renumbering. -/
@[simp]
theorem collect_renumber (types : List TypeExpr) :
  collect (types.map (TypeExpr.renumber ρ)) = (collect types).renumber ρ
  := by
  have hused : usedNames (types.map (TypeExpr.renumber ρ)) = usedNames types := by
    have h : usedName ∘ TypeExpr.renumber ρ = usedName := by
      funext type
      apply usedName_renumber ρ type
    rw [usedNames, ← renumberTypes_eq_map, nodesList_renumber, List.filterMap_map, h, usedNames]
  have hids : anonymousIds (types.map (TypeExpr.renumber ρ))
      = (anonymousIds types).map ρ.var := by
    have h : anonymousId ∘ TypeExpr.renumber ρ = fun type => (anonymousId type).map ρ.var := by
      funext type
      apply anonymousId_renumber ρ type
    rw [anonymousIds, ← renumberTypes_eq_map, nodesList_renumber, List.filterMap_map, h,
      ← List.map_filterMap, distinct_map, anonymousIds]
  simp only [collect, hused, hids, List.length_map, renumber, List.zip_map_left]
  rfl

/-- The name that is found for a renumbered id is that of the id, because different ids stay
different. -/
theorem lookup_map (names : List (Int32 × String)) (id : Int32) :
  (names.map fun (id, name) => (ρ.var id, name)).lookup (ρ.var id) = names.lookup id
  := by
  induction names with
  | nil => rfl
  | cons entry names ih =>
    have h : (ρ.var id == ρ.var entry.1) = (id == entry.1) := by
      rw [beq_eq_decide, beq_eq_decide, decide_eq_decide]
      apply ρ.var_injective.eq_iff
    rw [List.map_cons, List.lookup_cons, List.lookup_cons, h, ih]

/-- A renumbered anonymous variable has the name of the variable. -/
@[simp]
theorem name_renumber (names : VarNames) (id : Int32) :
  (names.renumber ρ).name none (ρ.var id) = names.name none id
  := by
  simp only [VarNames.name, renumber, lookup_map]

end VarNames

/-! ### Compiled types -/

namespace Compiled

variable (scope : Scope) (names : VarNames)

/-- Renumbered paths are told to be the option type as before, because it is predefined. -/
theorem isOptionPath_renumber (p : Path) :
  isOptionPath (p.renumber ρ) = isOptionPath p
  := by
  cases p with
  | ident x => rfl
  | dot head name => rfl
  | apply functor argument => rfl

theorem presentTags_renumber :
  ∀ entries : List RowEntry, presentTags (renumberRow ρ entries) = presentTags entries
  | [] => rfl
  | .mk tag (.present none) :: entries => congrArg (tag :: ·) (presentTags_renumber entries)
  | .mk tag (.present (some _)) :: entries => congrArg (tag :: ·) (presentTags_renumber entries)
  | .mk _ (.either _ _) :: entries => presentTags_renumber entries
  | .mk _ .absent :: entries => presentTags_renumber entries

theorem hasPossibleTag_renumber :
  ∀ entries : List RowEntry, hasPossibleTag (renumberRow ρ entries) = hasPossibleTag entries
  | [] => rfl
  | .mk _ (.present none) :: entries => hasPossibleTag_renumber entries
  | .mk _ (.present (some _)) :: entries => hasPossibleTag_renumber entries
  | .mk _ (.either _ _) :: _ => rfl
  | .mk _ .absent :: entries => hasPossibleTag_renumber entries

/-- A renumbered variant is of the same kind. -/
theorem variantKind_renumber (entries : List RowEntry) (isClosed : Bool) :
  variantKind (renumberRow ρ entries) isClosed = variantKind entries isClosed
  := by
  rw [variantKind, hasPossibleTag_renumber, presentTags_renumber, variantKind]

/-- A renumbered variable of a quantifier has the same name. -/
theorem quantifiedName_renumber :
  ∀ type : TypeExpr,
    quantifiedName (names.renumber ρ) (type.renumber ρ) = quantifiedName names type
  | .var none id => congrArg some (names.name_renumber ρ id)
  | .var (some _) _ => rfl
  | .univar none id => congrArg some (names.name_renumber ρ id)
  | .univar (some _) _ => rfl
  | .arrow _ _ _ => rfl
  | .tuple _ => rfl
  | .constr _ _ => rfl
  | .object _ _ => rfl
  | .variant _ _ none => rfl
  | .variant _ _ (some (.mk _ _)) => rfl
  | .poly _ _ => rfl
  | .package _ _ _ => rfl
  | .alias _ _ => rfl

theorem quantifiedNames_renumber (types : List TypeExpr) :
  (renumberTypes ρ types).filterMap (quantifiedName (names.renumber ρ))
    = types.filterMap (quantifiedName names)
  := by
  have h : quantifiedName (names.renumber ρ) ∘ TypeExpr.renumber ρ = quantifiedName names := by
    funext type
    apply quantifiedName_renumber ρ names type
  rw [renumberTypes_eq_map, List.filterMap_map, h]

/-- An argument is documented like its type, with the option type of an optional label taken
off before and after a renumbering. -/
theorem documentArgument_renumber :
  ∀ (label : ArgLabel) {arg : TypeExpr},
    (arg.renumber ρ).document (scope.renumber ρ) (names.renumber ρ)
      = Outcome.renumber ρ (arg.document scope names) →
    documentArgument (scope.renumber ρ) (names.renumber ρ) label (arg.renumber ρ)
      = Outcome.renumber ρ (documentArgument scope names label arg)
  | .optional _, .constr p [type], h => by
    by_cases hoption : isOptionPath p
    · obtain ⟨name, hname⟩ := resolve_of_isOptionPath scope hoption .type
      simp [TypeExpr.renumber, renumberTypes, TypeExpr.document, documentTypes, hname] at h
      simp only [TypeExpr.renumber, renumberTypes, documentArgument, isOptionPath_renumber,
        hoption, if_true]
      apply Outcome.eq_of_bind_eq (f := fun out => Model.TypeExpr.constr (.core name) [out]) _ h
      intro out out' heq
      simpa using heq
    · simp only [TypeExpr.renumber, renumberTypes] at h
      simp only [TypeExpr.renumber, renumberTypes, documentArgument, isOptionPath_renumber,
        hoption, Bool.false_eq_true, if_false, h]
  | .optional _, .constr _ [], h => h
  | .optional _, .constr _ (_ :: _ :: _), h => h
  | .optional _, .var none _, h => h
  | .optional _, .var (some _) _, h => h
  | .optional _, .univar none _, h => h
  | .optional _, .univar (some _) _, h => h
  | .optional _, .arrow _ _ _, h => h
  | .optional _, .tuple _, h => h
  | .optional _, .object _ _, h => h
  | .optional _, .variant _ _ none, h => h
  | .optional _, .variant _ _ (some (.mk _ _)), h => h
  | .optional _, .poly _ _, h => h
  | .optional _, .package _ _ _, h => h
  | .optional _, .alias _ _, h => h
  | .positional, _, h => h
  | .labelled _, _, h => h

mutual

/-- Documenting a renumbered type expression gives the documentation of the expression. -/
theorem TypeExpr.document_renumber :
  ∀ type : TypeExpr, (type.renumber ρ).document (scope.renumber ρ) (names.renumber ρ)
    = Outcome.renumber ρ (type.document scope names)
  | .var none id => by
    simp only [TypeExpr.renumber, TypeExpr.document, VarNames.name_renumber, Outcome.renumber_ok]
  | .var (some _) _ => rfl
  | .univar none id => by
    simp only [TypeExpr.renumber, TypeExpr.document, VarNames.name_renumber, Outcome.renumber_ok]
  | .univar (some _) _ => rfl
  | .arrow label arg res => by
    have harg := documentArgument_renumber ρ scope names label arg.document_renumber
    rw [TypeExpr.renumber, TypeExpr.document_arrow, TypeExpr.document_arrow, harg,
      res.document_renumber]
    simp only [Outcome.renumber_bind, Outcome.renumber_pure]
  | .tuple types => by
    simp only [TypeExpr.renumber, TypeExpr.document, documentTypes_renumber types,
      Outcome.renumber_bind, Outcome.renumber_pure]
  | .constr p args => by
    simp only [TypeExpr.renumber, TypeExpr.document, Scope.resolve_renumber,
      documentTypes_renumber args, Outcome.renumber_bind, Outcome.renumber_pure]
  | .object methods isOpen => by
    simp only [TypeExpr.renumber, TypeExpr.document, documentMethods_renumber methods,
      Outcome.renumber_bind, Outcome.renumber_pure]
  | .variant entries isClosed none => by
    simp only [TypeExpr.renumber, TypeExpr.document, variantKind_renumber,
      documentRow_renumber entries, Outcome.renumber_bind, Outcome.renumber_pure]
  | .variant entries isClosed (some (.mk p args)) => by
    simp only [TypeExpr.renumber, TypeExpr.document, Scope.resolve_renumber,
      documentTypes_renumber args, Outcome.renumber_bind, Outcome.renumber_pure]
  | .poly body vars => by
    simp only [TypeExpr.renumber, TypeExpr.document, quantifiedNames_renumber,
      body.document_renumber, Outcome.renumber_bind, Outcome.renumber_pure]
  | .package p fields types => by
    simp only [TypeExpr.renumber, TypeExpr.document, Scope.resolveSubject_renumber,
      documentPackage_renumber _ fields types, Outcome.renumber_bind, Outcome.renumber_pure]
  | .alias type name => by
    simp only [TypeExpr.renumber, TypeExpr.document, type.document_renumber,
      Outcome.renumber_bind, Outcome.renumber_pure]

/-- Renumbered types are documented like the types. -/
theorem documentTypes_renumber :
  ∀ types : List TypeExpr,
    documentTypes (scope.renumber ρ) (names.renumber ρ) (renumberTypes ρ types)
      = Outcome.renumber ρ (documentTypes scope names types)
  | [] => rfl
  | type :: types => by
    simp only [renumberTypes, documentTypes, type.document_renumber,
      documentTypes_renumber types, Outcome.renumber_bind, Outcome.renumber_pure]

theorem documentMethods_renumber :
  ∀ methods : List ObjectMethod,
    documentMethods (scope.renumber ρ) (names.renumber ρ) (renumberMethods ρ methods)
      = Outcome.renumber ρ (documentMethods scope names methods)
  | [] => rfl
  | .mk name type :: methods => by
    simp only [renumberMethods, documentMethods, type.document_renumber,
      documentMethods_renumber methods, Outcome.renumber_bind, Outcome.renumber_pure]

/-- The renumbered entries of a variant are documented like the entries. -/
theorem documentRow_renumber :
  ∀ entries : List RowEntry,
    documentRow (scope.renumber ρ) (names.renumber ρ) (renumberRow ρ entries)
      = Outcome.renumber ρ (documentRow scope names entries)
  | [] => rfl
  | .mk tag (.present none) :: entries => by
    simp only [renumberRow, documentRow, documentRow_renumber entries, Outcome.renumber_bind,
      Outcome.renumber_pure]
  | .mk tag (.present (some type)) :: entries => by
    simp only [renumberRow, documentRow, type.document_renumber, documentRow_renumber entries,
      Outcome.renumber_bind, Outcome.renumber_pure]
  | .mk tag (.either constant types) :: entries => by
    simp only [renumberRow, documentRow, documentTypes_renumber types,
      documentRow_renumber entries, Outcome.renumber_bind, Outcome.renumber_pure]
  | .mk _ .absent :: entries => documentRow_renumber entries

/-- The renumbered constraints of a package are documented like the constraints. -/
theorem documentPackage_renumber :
  ∀ (subject : Subject) (fields : List LongIdent) (types : List TypeExpr),
    documentPackage (scope.renumber ρ) (names.renumber ρ) subject fields (renumberTypes ρ types)
      = Outcome.renumber ρ (documentPackage scope names subject fields types)
  | _, [], [] => rfl
  | _, [], _ :: _ => rfl
  | _, _ :: _, [] => rfl
  | subject, field :: fields, type :: types => by
    simp only [renumberTypes, documentPackage, type.document_renumber,
      documentPackage_renumber subject fields types, Outcome.renumber_bind,
      Outcome.renumber_pure]

end

/-- A renumbered optional type is documented like the type. -/
theorem documentOption_renumber (type : Option TypeExpr) :
  documentOption (scope.renumber ρ) (names.renumber ρ) (type.map (TypeExpr.renumber ρ))
    = Outcome.renumber ρ (documentOption scope names type)
  := by
  cases type with
  | none => rfl
  | some type =>
    simp only [Option.map_some, documentOption, TypeExpr.document_renumber,
      Outcome.renumber_bind, Outcome.renumber_pure]

theorem documentParam_renumber (v : Variance) :
  ∀ param : TypeExpr,
    documentParam (names.renumber ρ) (param.renumber ρ) v = documentParam names param v
  | .var none id => by
    simp only [TypeExpr.renumber, documentParam, VarNames.name_renumber]
  | .var (some _) _ => rfl
  | .univar none _ => rfl
  | .univar (some _) _ => rfl
  | .arrow _ _ _ => rfl
  | .tuple _ => rfl
  | .constr _ _ => rfl
  | .object _ _ => rfl
  | .variant _ _ none => rfl
  | .variant _ _ (some (.mk _ _)) => rfl
  | .poly _ _ => rfl
  | .package _ _ _ => rfl
  | .alias _ _ => rfl

/-- Renumbered type parameters are documented like the parameters. -/
@[simp]
theorem documentParams_renumber :
  ∀ (params : List TypeExpr) (vs : List Variance),
    documentParams (names.renumber ρ) (params.map (TypeExpr.renumber ρ)) vs
      = documentParams names params vs
  | [], _ => rfl
  | param :: params, [] => by
    simp only [List.map_cons, documentParams, documentParam_renumber,
      documentParams_renumber params []]
  | param :: params, v :: vs => by
    simp only [List.map_cons, documentParams, documentParam_renumber,
      documentParams_renumber params vs]

end Compiled

/-! ### Written types -/

namespace Written

variable (config : Config) (scope : Scope)

mutual

/-- Documenting a renumbered type expression gives the documentation of the expression. -/
theorem CoreType.document_renumber :
  ∀ type : CoreType, (type.renumber ρ).document config (scope.renumber ρ)
    = (type.document config scope).renumber ρ
  | .any _ => rfl
  | .var _ _ => rfl
  | .arrow _ label arg res => by
    simp only [CoreType.renumber, CoreType.document, arg.document_renumber,
      res.document_renumber, Reading.renumber_bind, Reading.renumber_pure]
  | .tuple _ types => by
    simp only [CoreType.renumber, CoreType.document, documentTypes_renumber types,
      Reading.renumber_bind, Reading.renumber_pure]
  | .constr _ p args => by
    simp only [CoreType.renumber, CoreType.document, Scope.resolve_renumber,
      documentTypes_renumber args, Reading.renumber_bind, Reading.renumber_liftM,
      Reading.renumber_pure]
  | .object _ fields closure => by
    simp only [CoreType.renumber, CoreType.document, documentObjectFields_renumber fields,
      Reading.renumber_bind, Reading.renumber_pure]
  | .class _ p args => by
    simp only [CoreType.renumber, CoreType.document, Scope.resolve_renumber,
      documentTypes_renumber args, Reading.renumber_bind, Reading.renumber_liftM,
      Reading.renumber_pure]
  | .alias _ type name => by
    simp only [CoreType.renumber, CoreType.document, type.document_renumber,
      Reading.renumber_bind, Reading.renumber_pure]
  | .variant _ fields closure present => by
    simp only [CoreType.renumber, CoreType.document, documentRowFields_renumber fields,
      Reading.renumber_bind, Reading.renumber_pure]
  | .poly _ vars body => by
    simp only [CoreType.renumber, CoreType.document, body.document_renumber,
      Reading.renumber_bind, Reading.renumber_pure]
  | .package _ p fields _ => by
    simp only [CoreType.renumber, CoreType.document, Scope.resolveSubject_renumber,
      documentPackageFields_renumber _ fields, Reading.renumber_bind, Reading.renumber_liftM,
      Reading.renumber_pure]

/-- Renumbered written types are documented like the types. -/
theorem documentTypes_renumber :
  ∀ types : List CoreType,
    documentTypes config (scope.renumber ρ) (renumberTypes ρ types)
      = (documentTypes config scope types).renumber ρ
  | [] => rfl
  | type :: types => by
    simp only [renumberTypes, documentTypes, type.document_renumber,
      documentTypes_renumber types, Reading.renumber_bind, Reading.renumber_pure]

theorem documentObjectFields_renumber :
  ∀ fields : List ObjectField,
    documentObjectFields config (scope.renumber ρ) (renumberObjectFields ρ fields)
      = (documentObjectFields config scope fields).renumber ρ
  | [] => rfl
  | .method name _ type :: fields => by
    simp only [renumberObjectFields, documentObjectFields, type.document_renumber,
      documentObjectFields_renumber fields, Reading.renumber_bind, Reading.renumber_pure]
  | .inherit type :: fields => by
    simp only [renumberObjectFields, documentObjectFields, type.document_renumber,
      documentObjectFields_renumber fields, Reading.renumber_bind, Reading.renumber_pure]

/-- The renumbered fields of a polymorphic variant are documented like the fields. -/
theorem documentRowFields_renumber :
  ∀ fields : List RowField,
    documentRowFields config (scope.renumber ρ) (renumberRowFields ρ fields)
      = (documentRowFields config scope fields).renumber ρ
  | [] => rfl
  | .tag name attributes constant args :: fields => by
    simp only [renumberRowFields, documentRowFields, documentTypes_renumber args,
      documentRowFields_renumber fields, Reading.renumber_bind, Reading.renumber_pure,
      Load.readAnonymousDoc_renumber]
  | .inherit type :: fields => by
    simp only [renumberRowFields, documentRowFields, type.document_renumber,
      documentRowFields_renumber fields, Reading.renumber_bind, Reading.renumber_pure]

/-- The renumbered constraints of a written package are documented like the constraints. -/
theorem documentPackageFields_renumber :
  ∀ (subject : Subject) (fields : List PackageField),
    documentPackageFields config (scope.renumber ρ) subject (renumberPackageFields ρ fields)
      = (documentPackageFields config scope subject fields).renumber ρ
  | _, [] => rfl
  | subject, .mk name type :: fields => by
    simp only [renumberPackageFields, documentPackageFields, type.document_renumber,
      documentPackageFields_renumber subject fields, Reading.renumber_bind,
      Reading.renumber_pure]

end

end Written

end InterfaceDocs
