import InterfaceDocs.Proofs.VarNames.Shown

/-!
# Names of variables in declarations

The documentation of a declaration prints the names of the variables that it shows: of its
parameters, and of its types as they are shown.  All of them are visited when the names are
collected, so each anonymous variable has a name of its own and the name `_` is printed for none
(`VarNames.prints_of_visited`).  Together with the properties of the collected names this says that
the variables of a declaration are printed faithfully (`generated_names_faithful`).
-/

namespace InterfaceDocs

/-- What is listed of the readings of a list is listed element by element. -/
theorem Reading.flatMap_of_each {α β γ : Type} {f : α → Reading β} {g : β → List γ}
    {g' : α → List γ} {as : List α} {bs : List β} (h : (each f as).outcome = .ok bs)
    (hf : ∀ a b, (f a).outcome = .ok b → g b = g' a) :
  bs.flatMap g = as.flatMap g'
  := by
  have hall := each_eq_ok.mp h
  clear h
  induction hall with
  | nil => rfl
  | cons hb _ ih => rw [List.flatMap_cons, List.flatMap_cons, hf _ _ hb, ih]

namespace Compiled

open VarNames (Variable)

/-! ### Shown variables of declarations -/

/-- The variables that a declaration with the given parameters and types shows. -/
def shownIn (params types : List TypeExpr) : List Variable :=
  params.filterMap asParameter ++ shownTypes types

/-- The variables that a type declaration shows. -/
def TypeDeclaration.shown (d : TypeDeclaration) : List Variable :=
  shownIn d.params (d.manifest.toList ++ d.kind.types)

/-- The variables that an extension constructor shows. -/
def ExtensionConstructor.shown (d : ExtensionConstructor) : List Variable :=
  shownTypes (d.args.types ++ d.result.toList)

/-- The variables that an extension shows as its parameters. -/
def ExtensionConstructor.shownHead (d : ExtensionConstructor) : List Variable :=
  d.typeParams.filterMap asParameter

/-- The variables that a class shows. -/
def ClassDeclaration.shown (d : ClassDeclaration) : List Variable :=
  shownIn d.params d.type.types

/-- The variables that a class type declaration shows. -/
def ClassTypeDeclaration.shown (d : ClassTypeDeclaration) : List Variable :=
  shownIn d.params d.type.types

/-- Parameters that are variables are visited in their order. -/
theorem parameters_sublist (params : List TypeExpr) :
  (params.filterMap asParameter).Sublist (visited (nodesList params))
  := by
  apply filterMap_sublist_visited
  intro type v h
  cases type with
  | var name id => apply h
  | _ => cases h

/-- The variables of parameters and types are visited in their order. -/
theorem shownIn_sublist (params types : List TypeExpr) :
  (shownIn params types).Sublist (visited (nodesList (params ++ types)))
  := by
  rw [shownIn, nodesList_append, visited_append]
  apply List.Sublist.append (parameters_sublist params) (shownTypes_sublist types)

/-- The variables that a type declaration shows are visited in their order. -/
theorem TypeDeclaration.shown_sublist (d : TypeDeclaration) :
  d.shown.Sublist (visited (nodesList d.types))
  := by
  rw [TypeDeclaration.types, List.append_assoc]
  apply shownIn_sublist

/-- The variables that a constructor shows are visited in their order, behind the parameters of the
type. -/
theorem ExtensionConstructor.shown_sublist (d : ExtensionConstructor) :
  d.shown.Sublist (visited (nodesList d.types))
  := by
  rw [ExtensionConstructor.types, List.append_assoc, nodesList_append, visited_append]
  apply List.sublist_append_of_sublist_right
  apply shownTypes_sublist

/-- The parameters that an extension shows are visited in their order, in front of the arguments. -/
theorem ExtensionConstructor.shownHead_sublist (d : ExtensionConstructor) :
  d.shownHead.Sublist (visited (nodesList d.types))
  := by
  rw [ExtensionConstructor.types, List.append_assoc, nodesList_append, visited_append]
  apply List.sublist_append_of_sublist_left
  apply parameters_sublist

/-! ### Printed variables of declarations -/

section

variable {config : Config} {scope : Scope} {names : VarNames} {parent : Identifier} {x : Ident}

theorem LabelDeclaration.document_variables {d : LabelDeclaration} {out : Model.Field}
    (h : (d.document config scope names parent).outcome = .ok out) :
  out.variables = d.type.shown.map names.print
  := by
  simp [LabelDeclaration.document] at h
  obtain ⟨type, htype, rfl⟩ := h
  apply TypeExpr.document_variables htype

/-- The documentation of labels prints the names of the variables that their types show. -/
theorem documentLabels_variables {labels : List LabelDeclaration} {out : List Model.Field}
    (h : (Reading.each (LabelDeclaration.document config scope names parent) labels).outcome
      = .ok out) :
  out.flatMap Model.Field.variables
    = (shownTypes (labels.map LabelDeclaration.type)).map names.print
  := by
  rw [shownTypes_eq_flatMap, List.flatMap_map, List.map_flatMap]
  apply Reading.flatMap_of_each h
  intro d field hfield
  apply LabelDeclaration.document_variables hfield

/-- The documentation of the arguments of a constructor prints the names of the variables they
show. -/
theorem ConstructorArguments.document_variables {args : ConstructorArguments}
    {out : Model.ConstructorArgs}
    (h : (args.document config scope names parent).outcome = .ok out) :
  out.variables = (shownTypes args.types).map names.print
  := by
  cases args with
  | tuple types =>
    simp [ConstructorArguments.document] at h
    obtain ⟨types', htypes, rfl⟩ := h
    apply documentTypes_variables htypes
  | record labels =>
    simp [ConstructorArguments.document] at h
    obtain ⟨fields, hfields, rfl⟩ := h
    apply documentLabels_variables hfields

/-- The documentation of a constructor prints the names of the variables it shows, those of its
result last. -/
theorem documentConstructor_variables {id : Identifier} {args : ConstructorArguments}
    {result : Option TypeExpr} {attributes : List Attribute} {out : Model.Constructor}
    (h : (documentConstructor config scope names id args result attributes).outcome = .ok out) :
  out.variables = (shownTypes (args.types ++ result.toList)).map names.print
  := by
  simp [documentConstructor] at h
  obtain ⟨args', hargs, result', hresult, rfl⟩ := h
  rw [Model.Constructor.variables, ConstructorArguments.document_variables hargs,
    documentOption_variables hresult, shownTypes_append, List.map_append]

/-- The representation of a type prints the names of the variables that the kind of the type
shows. -/
theorem TypeKind.document_variables {id : Identifier} {kind : TypeKind}
    {out : Option Model.Representation}
    (h : (kind.document config scope names id).outcome = .ok out) :
  out.toList.flatMap Model.Representation.variables = (shownTypes kind.types).map names.print
  := by
  cases kind with
  | abstract =>
    obtain rfl := Except.ok.inj h
    rfl
  | record labels =>
    simp [TypeKind.document] at h
    obtain ⟨fields, hfields, rfl⟩ := h
    rw [Option.toList_some, List.flatMap_singleton]
    apply documentLabels_variables hfields
  | variant constructors =>
    simp [TypeKind.document] at h
    obtain ⟨constructors', hconstructors, rfl⟩ := h
    rw [Option.toList_some, List.flatMap_singleton, TypeKind.types, shownTypes_eq_flatMap,
      List.flatMap_assoc, List.map_flatMap]
    apply Reading.flatMap_of_each hconstructors
    intro d constructor hconstructor
    rw [← shownTypes_eq_flatMap]
    apply documentConstructor_variables hconstructor
  | extensible =>
    obtain rfl := Except.ok.inj h
    rfl

/-- The documentation of a value prints the names that are collected for its type. -/
theorem ValueDescription.document_variables {d : ValueDescription} {out : Model.Item}
    (h : (d.document config scope parent x).outcome = .ok out) :
  out.valueVariables = d.type.shown.map (VarNames.collect [d.type]).print
  := by
  simp [ValueDescription.document] at h
  obtain ⟨type, htype, rfl⟩ := h
  split
  · apply TypeExpr.document_variables htype
  · apply TypeExpr.document_variables htype

/-- The documentation of a type declaration prints the names that are collected for it. -/
theorem TypeDeclaration.document_variables {d : TypeDeclaration} {out : Model.TypeDecl}
    (h : (d.document config scope parent x).outcome = .ok out) :
  out.variables = d.shown.map (VarNames.collect d.types).print
  := by
  simp [TypeDeclaration.document] at h
  obtain ⟨representation, hrepresentation, manifest, hmanifest, rfl⟩ := h
  rw [Model.TypeDecl.variables, Model.TypeEquation.variables, TypeDeclaration.shown, shownIn,
    shownTypes_append, List.map_append, List.map_append, ← documentOption_variables hmanifest,
    ← TypeKind.document_variables hrepresentation, documentParams_variables]
  simp

/-- The documentation of a constructor prints the names that are collected for it and for the
parameters of its type. -/
theorem ExtensionConstructor.document_variables {d : ExtensionConstructor} {id : Identifier}
    {out : Model.Constructor} (h : (d.document config scope id).outcome = .ok out) :
  out.variables = d.shown.map (VarNames.collect d.types).print
  := documentConstructor_variables h

/-- The parameters of an extension are printed with the names that are collected for its
constructor. -/
theorem ExtensionConstructor.documentHead_variables {d : ExtensionConstructor}
    {constructors : List Model.Constructor} {out : Model.Extension}
    (h : d.documentHead scope constructors = .ok out) :
  Model.variablesParams out.typeParams = d.shownHead.map (VarNames.collect d.types).print
  := by
  simp [ExtensionConstructor.documentHead] at h
  obtain ⟨typePath, -, rfl⟩ := h
  apply documentParams_variables

/-! ### Classes -/

/-- The names of the variables in the items of a class are listed element by element. -/
theorem variables_of_documentEach {α : Type} {f : α → Except LoadError Model.ClassItem}
    {type : α → TypeExpr} {as : List α} {items : List Model.ClassItem}
    (h : documentEach f as = .ok items)
    (hf : ∀ a item, f a = .ok item →
      Model.variablesClassItems [item] = (type a).shown.map names.print) :
  Model.variablesClassItems items = (shownTypes (as.map type)).map names.print
  := by
  induction as generalizing items with
  | nil =>
    obtain rfl := Except.ok.inj h
    rfl
  | cons a as ih =>
    simp [documentEach] at h
    obtain ⟨item, hitem, items, hitems, rfl⟩ := h
    rw [← List.singleton_append, Model.variablesClassItems_append, hf a item hitem, ih hitems,
      List.map_cons, shownTypes, List.map_append]

theorem InstanceVariable.document_variables {owner : Identifier} {v : InstanceVariable}
    {item : Model.ClassItem} (h : v.document scope names owner = .ok item) :
  Model.variablesClassItems [item] = v.type.shown.map names.print
  := by
  simp [InstanceVariable.document] at h
  obtain ⟨type, htype, rfl⟩ := h
  rw [Model.variablesClassItems, Model.variablesClassItems, List.append_nil,
    TypeExpr.document_variables htype]

theorem Method.document_variables {owner : Identifier} {m : Method} {item : Model.ClassItem}
    (h : m.document scope names owner = .ok item) :
  Model.variablesClassItems [item] = m.type.shown.map names.print
  := by
  simp [Method.document] at h
  obtain ⟨type, htype, rfl⟩ := h
  rw [Model.variablesClassItems, Model.variablesClassItems, List.append_nil,
    TypeExpr.document_variables htype]

/-- The documentation of a class type prints the names of the variables it shows, those of the
object itself first. -/
theorem ClassType.document_variables {owner : Identifier} {type : ClassType}
    {out : Model.ClassTypeExpr} (h : type.document scope names owner = .ok out) :
  out.variables = (shownTypes type.types).map names.print
  := by
  cases type with
  | constr p args =>
    simp [ClassType.document] at h
    obtain ⟨r, -, args', hargs, rfl⟩ := h
    apply documentTypes_variables hargs
  | signature body =>
    simp [ClassType.document] at h
    obtain ⟨vars, hvars, methods, hmethods, self, hself, rfl⟩ := h
    have hvars : Model.variablesClassItems vars
        = (shownTypes (body.instanceVariables.map InstanceVariable.type)).map names.print := by
      apply variables_of_documentEach hvars
      intro v item hitem
      apply InstanceVariable.document_variables hitem
    have hmethods : Model.variablesClassItems methods
        = (shownTypes (body.methods.map Method.type)).map names.print := by
      apply variables_of_documentEach hmethods
      intro m item hitem
      apply Method.document_variables hitem
    rw [Model.ClassTypeExpr.variables, Model.variablesClassItems_append, hvars, hmethods,
      documentOption_variables hself, ClassType.types, shownTypes_append, shownTypes_append,
      List.map_append, List.map_append, List.append_assoc]
  | arrow label arg res => cases h

/-- The type of a class prints the names of the variables it shows, argument by argument. -/
theorem ClassType.documentDecl_variables {owner : Identifier} {type : ClassType}
    {out : Model.ClassDecl} (h : type.documentDecl scope names owner = .ok out) :
  out.variables = (shownTypes type.types).map names.print
  := by
  induction type generalizing out with
  | constr p args =>
    simp [ClassType.documentDecl] at h
    obtain ⟨type, htype, rfl⟩ := h
    apply ClassType.document_variables htype
  | signature body =>
    simp [ClassType.documentDecl] at h
    obtain ⟨type, htype, rfl⟩ := h
    apply ClassType.document_variables htype
  | arrow label arg res ih =>
    simp [ClassType.documentDecl] at h
    obtain ⟨arg', harg, res', hres, rfl⟩ := h
    rw [Model.ClassDecl.variables, documentArgument_variables harg, ih hres, ClassType.types,
      shownTypes, List.map_append]

/-- The documentation of a class prints the names that are collected for it. -/
theorem ClassDeclaration.document_variables {d : ClassDeclaration} {out : Model.Class}
    (h : (d.document config scope parent x).outcome = .ok out) :
  out.variables = d.shown.map (VarNames.collect d.types).print
  := by
  simp [ClassDeclaration.document] at h
  obtain ⟨type, htype, rfl⟩ := h
  rw [Model.Class.variables, ClassDeclaration.shown, shownIn, List.map_append,
    ← ClassType.documentDecl_variables htype, documentParams_variables]

/-- The documentation of a class type declaration prints the names that are collected for it. -/
theorem ClassTypeDeclaration.document_variables {d : ClassTypeDeclaration}
    {out : Model.ClassType} (h : (d.document config scope parent x).outcome = .ok out) :
  out.variables = d.shown.map (VarNames.collect d.types).print
  := by
  simp [ClassTypeDeclaration.document] at h
  obtain ⟨type, htype, rfl⟩ := h
  rw [Model.ClassType.variables, ClassTypeDeclaration.shown, shownIn, List.map_append,
    ← ClassType.document_variables htype, documentParams_variables]

end

end Compiled

/-! ### Faithful names -/

namespace VarNames

open Compiled

variable {types : List TypeExpr}

/-- The names of the variables in the given types are faithful: they tell variables apart, and
those of anonymous variables are not the names of aliases.  An anonymous variable has the name
among `a`, `b`, and so on that is used in no type and whose number is that of the anonymous
variables in front of its first visit. -/
structure Faithful (names : VarNames) (types : List TypeExpr) : Prop where
  apart : ∀ u v, OccursIn u types → OccursIn v types → ∀ x y, asVariable u = some x →
    asVariable v = some y → (names.print x = names.print y ↔ SameVariable x y)
  unaliased : ∀ u, OccursIn u types → ∀ id, asVariable u = some (none, id) →
    ∀ type name, OccursIn (.alias type name) types → names.print (none, id) ≠ name
  order : ∀ front t back id, nodesList types = front ++ t :: back →
    asVariable t = some (none, id) → (∀ u ∈ front, asVariable u ≠ some (none, id)) →
    names.print (none, id) = letterName (Nat.nth (fun n => ¬ IsUsed types (letterName n))
      (Set.ncard { i | ∃ u ∈ front, asVariable u = some (none, i) }))

/-- The printed names are those that were collected for the shown variables, which are visited in
this order.  They tell the shown variables apart; each anonymous one was collected, and the name
`_` is printed only for a variable that is called so. -/
structure Prints (types : List TypeExpr) (shown : List Variable) (printed : List String) :
    Prop where
  names : printed = shown.map (collect types).print
  order : shown.Sublist (visited (nodesList types))
  apart : ∀ u ∈ shown.zip printed, ∀ v ∈ shown.zip printed, u.2 = v.2 ↔ SameVariable u.1 v.1
  collected : ∀ id, (none, id) ∈ shown →
    ∃ n, (collect types).names.lookup id = some (letterName n)
  fallback : "_" ∈ printed → ∃ id, (some "_", id) ∈ shown

/-- The names that are collected for types are faithful. -/
theorem collect_faithful (types : List TypeExpr) :
  (collect types).Faithful types
  := by
  constructor
  · intro u v hu hv x y hx hy
    apply print_eq_print_iff hu hv hx hy
  · rintro u hu id hid type name halias rfl
    apply name_notMem_usedNames (mem_anonymousIds.mpr ⟨u, hu, hid⟩)
    rw [mem_usedNames]
    use .alias type ((collect types).print (none, id)), halias
    right
    use type
    rfl
  · intro front t back id hvisit ht hfirst
    rw [← unused_usedNames, print, name, lookup_of_first hvisit ht hfirst, Option.getD_some]

-- The name `a` of the alias and the explicit name `b` are skipped.
example :
  (collect [.poly (.arrow .positional (.univar none 1)
      (.alias (.variant [.mk "A" (.either false [.var none 2])] true none) "a")) [.univar none 1],
    .var (some "b") 0]).names = [(1, "c"), (2, "d")]
  := by decide +kernel

/-- Visited variables occur in the types. -/
theorem occursIn_of_mem_visited {v : Variable} (h : v ∈ visited (nodesList types)) :
  ∃ t, OccursIn t types ∧ asVariable t = some v
  := by
  obtain ⟨t, ht, hv⟩ := List.mem_filterMap.mp h
  use t, mem_nodesList.mp ht

/-- An anonymous variable that is visited does not get the fallback name. -/
theorem lookup_of_mem_visited {id : Int32} (h : (none, id) ∈ visited (nodesList types)) :
  ∃ n, (collect types).names.lookup id = some (letterName n)
  := by
  obtain ⟨k, hk⟩ := List.mem_iff_getElem?.mp (mem_anonymousIds.mpr (occursIn_of_mem_visited h))
  use Nat.nth (Unused (usedNames types)) k, lookup_collect hk

/-- Printing the collected names of visited variables is faithful. -/
theorem prints_of_visited {shown : List Variable} {printed : List String}
    (horder : shown.Sublist (visited (nodesList types)))
    (hnames : printed = shown.map (collect types).print) :
  Prints types shown printed
  := by
  constructor
  · apply hnames
  · apply horder
  · rw [hnames, ← List.map_prod_left_eq_zip]
    intro u hu v hv
    obtain ⟨x, hx, rfl⟩ := List.mem_map.mp hu
    obtain ⟨y, hy, rfl⟩ := List.mem_map.mp hv
    obtain ⟨t, ht, htx⟩ := occursIn_of_mem_visited (horder.subset hx)
    obtain ⟨s, hs, hsy⟩ := occursIn_of_mem_visited (horder.subset hy)
    apply print_eq_print_iff ht hs htx hsy
  · intro id hid
    apply lookup_of_mem_visited (horder.subset hid)
  · rw [hnames, List.mem_map]
    rintro ⟨⟨_ | name, id⟩, hv, hprint⟩
    · obtain ⟨n, hn⟩ := lookup_of_mem_visited (horder.subset hv)
      rw [print, VarNames.name, hn, Option.getD_some] at hprint
      apply absurd hprint (letterName_ne_fallback n)
    · obtain rfl : name = "_" := hprint
      use id

end VarNames

open Compiled VarNames

/-- The names of the variables in compiled types are faithful, and they are what the documentation
prints: of types, of a value, a type declaration, an extension constructor, the extension that it
opens, a class and a class type declaration, each with the names that are collected for it. -/
theorem generated_names_faithful :
  (∀ types, (collect types).Faithful types) ∧
  (∀ scope types out, documentTypes scope (.collect types) types = .ok out →
    Prints types (shownTypes types) (Model.variablesTypes out)) ∧
  ∀ (config : Config) (scope : Scope) (parent : Identifier) (x : Ident),
    (∀ (d : ValueDescription) out, (d.document config scope parent x).outcome = .ok out →
      Prints [d.type] d.type.shown out.valueVariables) ∧
    (∀ (d : TypeDeclaration) out, (d.document config scope parent x).outcome = .ok out →
      Prints d.types d.shown out.variables) ∧
    (∀ (d : ExtensionConstructor) out, (d.document config scope parent).outcome = .ok out →
      Prints d.types d.shown out.variables) ∧
    (∀ (d : ExtensionConstructor) constructors out, d.documentHead scope constructors = .ok out →
      Prints d.types d.shownHead (Model.variablesParams out.typeParams)) ∧
    (∀ (d : ClassDeclaration) out, (d.document config scope parent x).outcome = .ok out →
      Prints d.types d.shown out.variables) ∧
    ∀ (d : ClassTypeDeclaration) out, (d.document config scope parent x).outcome = .ok out →
      Prints d.types d.shown out.variables
  := by
  use collect_faithful
  constructor
  · intro scope types out h
    apply prints_of_visited (shownTypes_sublist types) (documentTypes_variables h)
  intro config scope parent x
  constructor
  · intro d out h
    apply prints_of_visited _ (ValueDescription.document_variables h)
    have hsublist := shownTypes_sublist [d.type]
    rwa [shownTypes, shownTypes, List.append_nil] at hsublist
  constructor
  · intro d out h
    apply prints_of_visited d.shown_sublist (TypeDeclaration.document_variables h)
  constructor
  · intro d out h
    apply prints_of_visited d.shown_sublist (ExtensionConstructor.document_variables h)
  constructor
  · intro d constructors out h
    apply prints_of_visited d.shownHead_sublist (ExtensionConstructor.documentHead_variables h)
  constructor
  · intro d out h
    apply prints_of_visited (shownIn_sublist _ _) (ClassDeclaration.document_variables h)
  · intro d out h
    apply prints_of_visited (shownIn_sublist _ _) (ClassTypeDeclaration.document_variables h)

/-- A type with an anonymous parameter and a parameter `b`, whose manifest has a quantified
variable and an alias `a`, and whose only field has the type of the first parameter. -/
def namingSample : TypeDeclaration where
  params := [.var none 1, .var (some "b") 2]
  kind := .record [⟨⟨"f", 3, 0⟩, .immutable, .var none 1, .none, []⟩]
  privacy := .publicly
  manifest := some (.poly (.arrow .positional (.univar none 3)
    (.alias (.variant [.mk "A" (.either false [.var none 1])] true none) "a")) [.univar none 3])
  variance := []
  loc := .none
  attributes := []

/-- The anonymous variables of `namingSample` are printed as `c` and `d`, because `a` and `b` are
used. -/
theorem namingSample_faithful :
  let d := namingSample
  let id : Identifier := .child (.root "pkg" "Unit") .type "t"
  let out : Model.TypeDecl :=
    ⟨id, .absent, none, ⟨[⟨some "c", none, false⟩, ⟨some "b", none, false⟩], false,
      some (.poly ["d"] (.arrow none (.var "d")
        (.alias (.variant (.closed []) [.constructor "A" false [.var "c"] .absent]) "a"))), []⟩,
      some (.record [⟨.child id .field "f", .absent, false, .var "c"⟩])⟩
  (d.document .standard .empty (.root "pkg" "Unit") ⟨"t", 4, 0⟩).outcome = .ok out ∧
  Prints d.types [(none, 1), (some "b", 2), (none, 3), (none, 3), (none, 1), (none, 1)]
    ["c", "b", "d", "d", "c", "c"]
  := by
  intro d id out
  have hnames : collect d.types = ⟨[(1, "c"), (3, "d")]⟩ :=
    congrArg VarNames.mk (by decide +kernel)
  have hout : (d.document .standard .empty (.root "pkg" "Unit") ⟨"t", 4, 0⟩).outcome = .ok out := by
    rw [TypeDeclaration.document, hnames]
    rfl
  obtain ⟨-, -, hprints⟩ := generated_names_faithful
  obtain ⟨-, htype, -⟩ := hprints .standard .empty (.root "pkg" "Unit") ⟨"t", 4, 0⟩
  use hout
  apply htype d out hout

end InterfaceDocs
