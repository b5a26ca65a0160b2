import InterfaceDocs.Proofs.Model.Variables
import InterfaceDocs.Proofs.Outcome
import InterfaceDocs.Proofs.VarNames.Basic

/-!
# Shown variables

The documentation of a type shows most of its variables.  Of a polymorphic variant that abbreviates
a type only the arguments of the abbreviation are shown, of the variables of a quantifier only those
that are variables, and of a package type only the types that belong to a name.  `TypeExpr.shown`
lists the variables that are shown; they are among the visited ones, in the same order
(`TypeExpr.shown_sublist`), and what is printed for them are their names
(`TypeExpr.document_variables`).
-/

namespace InterfaceDocs.Compiled

open VarNames (Variable asVariable)

mutual

/-- The variables of a type expression that are shown, from left to right. -/
def TypeExpr.shown : TypeExpr → List Variable
  | .var name id => [(name, id)]
  | .univar name id => [(name, id)]
  | .arrow _ arg res => arg.shown ++ res.shown
  | .tuple types => shownTypes types
  | .constr _ args => shownTypes args
  | .object methods _ => shownMethods methods
  | .variant _ _ (some (.mk _ args)) => shownTypes args
  | .variant entries _ none => shownRow entries
  | .poly body vars => vars.filterMap asVariable ++ body.shown
  | .package _ names types => shownPackage names types
  | .alias type _ => type.shown

/-- The variables of a list of type expressions that are shown. -/
def shownTypes : List TypeExpr → List Variable
  | [] => []
  | type :: types => type.shown ++ shownTypes types

/-- The variables of a list of methods that are shown. -/
def shownMethods : List ObjectMethod → List Variable
  | [] => []
  | .mk _ type :: methods => type.shown ++ shownMethods methods

/-- The variables of a list of tags that are shown. -/
def shownRow : List RowEntry → List Variable
  | [] => []
  | .mk _ (.present (some type)) :: entries => type.shown ++ shownRow entries
  | .mk _ (.present none) :: entries => shownRow entries
  | .mk _ (.either _ types) :: entries => shownTypes types ++ shownRow entries
  | .mk _ .absent :: entries => shownRow entries

/-- The variables of the types of a package that are shown. -/
def shownPackage : List LongIdent → List TypeExpr → List Variable
  | _ :: names, type :: types => type.shown ++ shownPackage names types
  | _, _ => []

end

/-- The variable that a type parameter is; a parameter is a variable or anonymous. -/
def asParameter : TypeExpr → Option Variable
  | .var name id => some (name, id)
  | _ => none

/-- The shown variables are listed type by type. -/
theorem shownTypes_eq_flatMap (types : List TypeExpr) :
  shownTypes types = types.flatMap TypeExpr.shown
  := by
  induction types with
  | nil => rfl
  | cons type types ih => rw [shownTypes, ih, List.flatMap_cons]

theorem shownTypes_append (types others : List TypeExpr) :
  shownTypes (types ++ others) = shownTypes types ++ shownTypes others
  := by
  rw [shownTypes_eq_flatMap, List.flatMap_append, shownTypes_eq_flatMap, shownTypes_eq_flatMap]

/-- The types in front are visited first. -/
theorem nodesList_append (types others : List TypeExpr) :
  nodesList (types ++ others) = nodesList types ++ nodesList others
  := by
  rw [nodesList_eq_flatMap, List.flatMap_append, nodesList_eq_flatMap, nodesList_eq_flatMap]

/-! ### Shown variables are visited -/

/-- The variables among the visited expressions, in the order of the visits. -/
def visited (nodes : List TypeExpr) : List Variable :=
  nodes.filterMap asVariable

theorem visited_append (nodes others : List TypeExpr) :
  visited (nodes ++ others) = visited nodes ++ visited others
  := List.filterMap_append

/-- What is shown of the parts is visited behind the expression that they are the parts of. -/
theorem sublist_visited_cons {vs : List Variable} {nodes : List TypeExpr}
    (h : vs.Sublist (visited nodes)) (type : TypeExpr) :
  vs.Sublist (visited (type :: nodes))
  := h.trans ((List.sublist_cons_self type nodes).filterMap asVariable)

/-- The variables among types are visited in their order. -/
theorem filterMap_sublist_visited {f : TypeExpr → Option Variable}
    (hf : ∀ type v, f type = some v → asVariable type = some v) (types : List TypeExpr) :
  (types.filterMap f).Sublist (visited (nodesList types))
  := by
  induction types with
  | nil => apply List.Sublist.slnil
  | cons type types ih =>
    rw [nodesList, visited_append, ← List.singleton_append, List.filterMap_append]
    apply List.Sublist.append _ ih
    cases hv : f type with
    | none =>
      rw [List.filterMap_cons_none hv]
      apply List.nil_sublist
    | some v =>
      rw [List.filterMap_cons_some hv, List.filterMap_nil, List.singleton_sublist, visited,
        List.mem_filterMap]
      use type, type.self_mem_nodes, hf type v hv

mutual

/-- The variables that are shown of a type expression are visited in the same order. -/
theorem TypeExpr.shown_sublist :
  ∀ type : TypeExpr, type.shown.Sublist (visited type.nodes)
  | .var _ _ => List.Sublist.refl _
  | .univar _ _ => List.Sublist.refl _
  | .arrow _ arg res => by
    rw [TypeExpr.shown, TypeExpr.nodes]
    apply sublist_visited_cons
    rw [visited_append]
    apply List.Sublist.append arg.shown_sublist res.shown_sublist
  | .tuple types => by
    rw [TypeExpr.shown, TypeExpr.nodes]
    apply sublist_visited_cons (shownTypes_sublist types)
  | .constr _ args => by
    rw [TypeExpr.shown, TypeExpr.nodes]
    apply sublist_visited_cons (shownTypes_sublist args)
  | .object methods _ => by
    rw [TypeExpr.shown, TypeExpr.nodes]
    apply sublist_visited_cons (shownMethods_sublist methods)
  | .variant entries _ (some (.mk _ args)) => by
    rw [TypeExpr.shown, TypeExpr.nodes]
    apply sublist_visited_cons
    rw [visited_append]
    apply List.sublist_append_of_sublist_right (shownTypes_sublist args)
  | .variant entries _ none => by
    rw [TypeExpr.shown, TypeExpr.nodes, List.append_nil]
    apply sublist_visited_cons (shownRow_sublist entries)
  | .poly body vars => by
    rw [TypeExpr.shown, TypeExpr.nodes]
    apply sublist_visited_cons
    rw [visited_append]
    apply List.Sublist.append _ body.shown_sublist
    apply filterMap_sublist_visited (fun _ _ h => h)
  | .package _ names types => by
    rw [TypeExpr.shown, TypeExpr.nodes]
    apply sublist_visited_cons (shownPackage_sublist names types)
  | .alias type _ => by
    rw [TypeExpr.shown, TypeExpr.nodes]
    apply sublist_visited_cons type.shown_sublist

/-- The variables that are shown of types are visited in their order. -/
theorem shownTypes_sublist :
  ∀ types : List TypeExpr, (shownTypes types).Sublist (visited (nodesList types))
  | [] => List.Sublist.slnil
  | type :: types => by
    rw [shownTypes, nodesList, visited_append]
    apply List.Sublist.append type.shown_sublist (shownTypes_sublist types)

theorem shownMethods_sublist :
  ∀ methods : List ObjectMethod, (shownMethods methods).Sublist (visited (nodesMethods methods))
  | [] => List.Sublist.slnil
  | .mk _ type :: methods => by
    rw [shownMethods, nodesMethods, visited_append]
    apply List.Sublist.append type.shown_sublist (shownMethods_sublist methods)

/-- The variables that are shown of a variant are visited in their order. -/
theorem shownRow_sublist :
  ∀ entries : List RowEntry, (shownRow entries).Sublist (visited (nodesRow entries))
  | [] => List.Sublist.slnil
  | .mk _ (.present (some type)) :: entries => by
    rw [shownRow, nodesRow, visited_append]
    apply List.Sublist.append type.shown_sublist (shownRow_sublist entries)
  | .mk _ (.present none) :: entries => by
    rw [shownRow, nodesRow]
    apply shownRow_sublist entries
  | .mk _ (.either _ types) :: entries => by
    rw [shownRow, nodesRow, visited_append]
    apply List.Sublist.append (shownTypes_sublist types) (shownRow_sublist entries)
  | .mk _ .absent :: entries => by
    rw [shownRow, nodesRow]
    apply shownRow_sublist entries

/-- The variables that are shown of a package are visited in their order. -/
theorem shownPackage_sublist :
  ∀ (names : List LongIdent) (types : List TypeExpr),
    (shownPackage names types).Sublist (visited (nodesList types))
  | [], _ => by
    rw [shownPackage]
    · apply List.nil_sublist
    · simp
  | _ :: _, [] => by
    rw [shownPackage]
    · apply List.nil_sublist
    · simp
  | _ :: names, type :: types => by
    rw [shownPackage, nodesList, visited_append]
    apply List.Sublist.append type.shown_sublist (shownPackage_sublist names types)

end

/-! ### Shown variables are printed -/

variable {scope : Scope} {names : VarNames}

/-- A quantifier prints the names of its variables. -/
theorem quantifiedName_eq (names : VarNames) (type : TypeExpr) :
  quantifiedName names type = (asVariable type).map names.print
  := by
  cases type <;> rfl

theorem filterMap_quantifiedName (names : VarNames) (vars : List TypeExpr) :
  vars.filterMap (quantifiedName names) = (vars.filterMap asVariable).map names.print
  := by
  rw [List.map_filterMap]
  congr 1
  funext type
  apply quantifiedName_eq

/-- The option type that is taken off an argument has the same variables. -/
theorem variables_of_documentArgument {label : ArgLabel} {arg : TypeExpr} {out : Model.TypeExpr}
    {printed : List String} (h : documentArgument scope names label arg = .ok out)
    (harg : ∀ type, arg.document scope names = .ok type → type.variables = printed) :
  out.variables = printed
  := by
  rcases documentArgument_eq_ok h with h | ⟨name, h⟩
  · apply harg out h
  · have hoption := harg _ h
    rwa [Model.TypeExpr.variables, Model.variablesTypes, Model.variablesTypes,
      List.append_nil] at hoption

mutual

/-- The documentation of a type prints the names of the variables that are shown. -/
theorem TypeExpr.document_variables :
  ∀ {type : TypeExpr} {out : Model.TypeExpr}, type.document scope names = .ok out →
    out.variables = type.shown.map names.print
  | .var name id, _, h => by
    obtain rfl := Except.ok.inj h
    rfl
  | .univar name id, _, h => by
    obtain rfl := Except.ok.inj h
    rfl
  | .arrow label arg res, _, h => by
    rw [TypeExpr.document_arrow] at h
    simp at h
    obtain ⟨arg', harg, res', hres, rfl⟩ := h
    have hvariables : arg'.variables = arg.shown.map names.print := by
      apply variables_of_documentArgument harg
      intro type htype
      apply TypeExpr.document_variables htype
    rw [Model.TypeExpr.variables, hvariables, TypeExpr.document_variables hres, TypeExpr.shown,
      List.map_append]
  | .tuple types, _, h => by
    simp [TypeExpr.document] at h
    obtain ⟨types', htypes, rfl⟩ := h
    rw [Model.TypeExpr.variables, TypeExpr.shown, documentTypes_variables htypes]
  | .constr p args, _, h => by
    simp [TypeExpr.document] at h
    obtain ⟨r, -, args', hargs, rfl⟩ := h
    rw [Model.TypeExpr.variables, TypeExpr.shown, documentTypes_variables hargs]
  | .object methods isOpen, _, h => by
    simp [TypeExpr.document] at h
    obtain ⟨methods', hmethods, rfl⟩ := h
    rw [Model.TypeExpr.variables, TypeExpr.shown, documentMethods_variables hmethods]
  | .variant entries isClosed (some (.mk p args)), _, h => by
    simp [TypeExpr.document] at h
    obtain ⟨r, -, args', hargs, rfl⟩ := h
    rw [TypeExpr.shown, ← documentTypes_variables hargs]
    split
    · rfl
    · simp [Model.TypeExpr.variables, Model.variablesElements]
  | .variant entries isClosed none, _, h => by
    simp [TypeExpr.document] at h
    obtain ⟨elements, helements, rfl⟩ := h
    rw [Model.TypeExpr.variables, TypeExpr.shown, documentRow_variables helements]
  | .poly body vars, _, h => by
    simp [TypeExpr.document] at h
    obtain ⟨body', hbody, rfl⟩ := h
    rw [Model.TypeExpr.variables_quantified, filterMap_quantifiedName,
      TypeExpr.document_variables hbody, TypeExpr.shown, List.map_append]
  | .package p fields types, _, h => by
    simp [TypeExpr.document] at h
    obtain ⟨r, subject, -, substitutions, hsubstitutions, rfl⟩ := h
    rw [Model.TypeExpr.variables, TypeExpr.shown, documentPackage_variables hsubstitutions]
  | .alias type name, _, h => by
    simp [TypeExpr.document] at h
    obtain ⟨type', htype, rfl⟩ := h
    rw [Model.TypeExpr.variables, TypeExpr.shown, TypeExpr.document_variables htype]

/-- The documentation of types prints the names of the variables that are shown. -/
theorem documentTypes_variables :
  ∀ {types : List TypeExpr} {out : List Model.TypeExpr},
    documentTypes scope names types = .ok out →
      Model.variablesTypes out = (shownTypes types).map names.print
  | [], _, h => by
    obtain rfl := Except.ok.inj h
    rfl
  | type :: types, _, h => by
    simp [documentTypes] at h
    obtain ⟨type', htype, types', htypes, rfl⟩ := h
    rw [Model.variablesTypes, shownTypes, List.map_append, TypeExpr.document_variables htype,
      documentTypes_variables htypes]

/-- The documentation of methods prints the names of the variables that are shown. -/
theorem documentMethods_variables :
  ∀ {methods : List ObjectMethod} {out : List Model.ObjectField},
    documentMethods scope names methods = .ok out →
      Model.variablesFields out = (shownMethods methods).map names.print
  | [], _, h => by
    obtain rfl := Except.ok.inj h
    rfl
  | .mk name type :: methods, _, h => by
    simp [documentMethods] at h
    obtain ⟨type', htype, methods', hmethods, rfl⟩ := h
    rw [Model.variablesFields, shownMethods, List.map_append, TypeExpr.document_variables htype,
      documentMethods_variables hmethods]

/-- The documentation of a variant prints the names of the variables that are shown. -/
theorem documentRow_variables :
  ∀ {entries : List RowEntry} {out : List Model.VariantElement},
    documentRow scope names entries = .ok out →
      Model.variablesElements out = (shownRow entries).map names.print
  | [], _, h => by
    obtain rfl := Except.ok.inj h
    rfl
  | .mk tag (.present none) :: entries, _, h => by
    simp [documentRow] at h
    obtain ⟨elements, helements, rfl⟩ := h
    rw [Model.variablesElements, shownRow, documentRow_variables helements]
    rfl
  | .mk tag (.present (some type)) :: entries, _, h => by
    simp [documentRow] at h
    obtain ⟨type', htype, elements, helements, rfl⟩ := h
    rw [Model.variablesElements, Model.variablesTypes, Model.variablesTypes, List.append_nil,
      shownRow, List.map_append, TypeExpr.document_variables htype,
      documentRow_variables helements]
  | .mk tag (.either constant types) :: entries, _, h => by
    simp [documentRow] at h
    obtain ⟨types', htypes, elements, helements, rfl⟩ := h
    rw [Model.variablesElements, shownRow, List.map_append, documentTypes_variables htypes,
      documentRow_variables helements]
  | .mk tag .absent :: entries, _, h => by
    rw [documentRow] at h
    rw [shownRow, documentRow_variables h]

/-- The documentation of a package prints the names of the variables that are shown. -/
theorem documentPackage_variables {subject : Subject} :
  ∀ {fields : List LongIdent} {types : List TypeExpr}
    {out : List Model.PackageSubstitution},
    documentPackage scope names subject fields types = .ok out →
      Model.variablesPackage out = (shownPackage fields types).map names.print
  | field :: fields, type :: types, _, h => by
    simp [documentPackage] at h
    obtain ⟨type', htype, substitutions, hsubstitutions, rfl⟩ := h
    rw [Model.variablesPackage, shownPackage, List.map_append, TypeExpr.document_variables htype,
      documentPackage_variables hsubstitutions]
  | [], types, _, h => by
    simp [documentPackage] at h
    subst h
    simp [Model.variablesPackage, shownPackage]
  | _ :: _, [], _, h => by
    simp [documentPackage] at h
    subst h
    simp [Model.variablesPackage, shownPackage]

end

theorem documentOption_variables {type : Option TypeExpr} {out : Option Model.TypeExpr}
    (h : documentOption scope names type = .ok out) :
  Model.variablesOption out = (shownTypes type.toList).map names.print
  := by
  cases type with
  | none =>
    obtain rfl := Except.ok.inj h
    rfl
  | some type =>
    simp [documentOption] at h
    obtain ⟨type', htype, rfl⟩ := h
    simp [Model.variablesOption, shownTypes, TypeExpr.document_variables htype]

/-- The documentation of an argument prints the names of the variables that its type shows. -/
theorem documentArgument_variables {label : ArgLabel} {arg : TypeExpr} {out : Model.TypeExpr}
    (h : documentArgument scope names label arg = .ok out) :
  out.variables = arg.shown.map names.print
  := by
  apply variables_of_documentArgument h
  intro type htype
  apply TypeExpr.document_variables htype

/-- A type parameter is printed with its name if it is a variable. -/
theorem name_documentParam (names : VarNames) (param : TypeExpr) (v : Variance) :
  (documentParam names param v).name = (asParameter param).map names.print
  := by
  cases param <;> rfl

/-- Type parameters are printed with the names of those that are variables. -/
theorem documentParams_variables (names : VarNames) :
  ∀ (params : List TypeExpr) (vs : List Variance),
    Model.variablesParams (documentParams names params vs)
      = (params.filterMap asParameter).map names.print
  | [], _ => by
    rw [documentParams]
    rfl
  | param :: params, [] => by
    rw [documentParams, Model.variablesParams, List.filterMap_cons, name_documentParam,
      List.filterMap_cons, ← Model.variablesParams, documentParams_variables names params []]
    cases asParameter param <;> rfl
  | param :: params, v :: vs => by
    rw [documentParams, Model.variablesParams, List.filterMap_cons, name_documentParam,
      List.filterMap_cons, ← Model.variablesParams, documentParams_variables names params vs]
    cases asParameter param <;> rfl

end InterfaceDocs.Compiled
