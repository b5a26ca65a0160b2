import InterfaceDocs.Json.Written
import InterfaceDocs.Proofs.Json.Compiled

/-!
# Reading back written signatures

Written types, declarations, classes, modules and signatures are read back.
-/

namespace InterfaceDocs

open Json

/-! ### Nodes -/

section Node

variable {layout : Layout} {info : Written.NodeInfo} {name loc attributes : String} {desc : Json}

/-- The location and the attributes of a node are read back from their slots. -/
@[simp]
theorem Written.NodeInfo.ofSlots_fields :
  NodeInfo.ofSlots (layout.slot (info.loc.field layout loc))
    (layout.slot (Attribute.listField layout attributes info.attributes)) = some info
  := by
  simp [NodeInfo.ofSlots]

/-- The slots of a node are those of what it is, of its location and of its attributes. -/
theorem Written.NodeInfo.record?_node (h : [name, loc, attributes].Nodup) :
  (info.node layout (name, loc, attributes) desc).record? [name, loc, attributes]
    = some [layout.slot (.plain name desc), layout.slot (info.loc.field layout loc),
      layout.slot (Attribute.listField layout attributes info.attributes)]
  := layout.record?_record rfl h

/-- What a node is has less height than the node. -/
theorem Json.ReadsBelow.node {α : Type} {read : Json → Option α} {write : α → Json}
    (h : ReadsBelow read write (info.node layout (name, loc, attributes) desc)) :
  ReadsBelow read write desc
  := h.field List.mem_cons_self (layout.mentions_plain _ _)

end Node

namespace Written

variable (layout : Layout)

/-! ### Types -/

/-- A node is read as what it is, with its location and its attributes. -/
theorem CoreType.step_node (self : Json → Option CoreType) (info : NodeInfo) (desc : Json) :
  CoreType.step self (CoreType.node layout info desc) = CoreType.readDesc self info desc
  := by
  rw [CoreType.step, CoreType.node, NodeInfo.record?_node (by decide)]
  simp

theorem arr_coreTypesToJson (types : List CoreType) :
  .arr (coreTypesToJson layout types) = ofList (CoreType.toJson layout) types
  := by
  apply congrArg arr
  induction types with
  | nil => rfl
  | cons type types ih => rw [coreTypesToJson, ih, List.map_cons]

/-- Writes a field of an object type. -/
def ObjectField.toJson (layout : Layout) : ObjectField → Json
  | .method name attributes type =>
    tagged "OTtag" (.arr [name.toJson layout .str, attributesToJson layout attributes,
      type.toJson layout])
  | .inherit type => tagged "OTinherit" (type.toJson layout)

theorem arr_objectFieldsToJson (fields : List ObjectField) :
  .arr (objectFieldsToJson layout fields) = ofList (ObjectField.toJson layout) fields
  := by
  apply congrArg arr
  induction fields with
  | nil => rfl
  | cons field fields ih =>
    cases field <;> rw [objectFieldsToJson, ih, List.map_cons, ObjectField.toJson]

/-- Writes a field of a polymorphic variant. -/
def RowField.toJson (layout : Layout) : RowField → Json
  | .tag name attributes constant args =>
    tagged "Rtag" (.arr [name.toJson layout .str, attributesToJson layout attributes,
      .bool constant, .ofList (CoreType.toJson layout) args])
  | .inherit type => tagged "Rinherit" (type.toJson layout)

theorem arr_rowFieldsToJson (fields : List RowField) :
  .arr (rowFieldsToJson layout fields) = ofList (RowField.toJson layout) fields
  := by
  apply congrArg arr
  induction fields with
  | nil => rfl
  | cons field fields ih =>
    cases field with
    | tag name attributes constant args =>
      rw [rowFieldsToJson, ih, arr_coreTypesToJson, List.map_cons, RowField.toJson]
    | inherit type => rw [rowFieldsToJson, ih, List.map_cons, RowField.toJson]

/-- Writes a constraint of a package type. -/
def PackageField.toJson (layout : Layout) : PackageField → Json
  | .mk name type => .arr [name.toJson layout LongIdent.toJson, type.toJson layout]

theorem arr_packageFieldsToJson (fields : List PackageField) :
  .arr (packageFieldsToJson layout fields) = ofList (PackageField.toJson layout) fields
  := by
  apply congrArg arr
  induction fields with
  | nil => rfl
  | cons field fields ih =>
    cases field
    rw [packageFieldsToJson, ih, List.map_cons, PackageField.toJson]

/-- Attributes that are always written are read back. -/
@[simp]
theorem list?_attributesToJson (as : List Attribute) :
  list? Attribute.ofJson? (attributesToJson layout as) = some as
  := by
  apply list?_ofList
  intro a _
  apply a.ofJson?_toJson layout

section Parts

variable {layout} {self : Json → Option CoreType}

/-- Types below a value are read back by what reads back all below the value. -/
theorem read_coreTypes {types : List CoreType}
    (h : ReadsBelow self (CoreType.toJson layout) (.ofList (CoreType.toJson layout) types)) :
  list? self (.ofList (CoreType.toJson layout) types) = some types
  := by
  apply list?_ofList
  intro type htype
  apply h.read_item (List.mem_map_of_mem htype)

/-- A field of an object type is read back if the types below it are. -/
theorem ObjectField.read_toJson {field : ObjectField}
    (h : ReadsBelow self (CoreType.toJson layout) (field.toJson layout)) :
  ObjectField.read self (field.toJson layout) = some field
  := by
  cases field with
  | method name attributes type =>
    have hname := name.ofJson?_toJson layout string?_str
    have htype : self (type.toJson layout) = some type := h.content.read_item (by simp)
    simp [ObjectField.toJson, ObjectField.read, variant?, tagged, hname, htype]
  | inherit type =>
    have htype : self (type.toJson layout) = some type := h.read_content
    simp [ObjectField.toJson, ObjectField.read, variant?, tagged, htype]

/-- A field of a polymorphic variant is read back if the types below it are. -/
theorem RowField.read_toJson {field : RowField}
    (h : ReadsBelow self (CoreType.toJson layout) (field.toJson layout)) :
  RowField.read self (field.toJson layout) = some field
  := by
  cases field with
  | tag name attributes constant args =>
    have hname := name.ofJson?_toJson layout string?_str
    have hargs := read_coreTypes (h.content.item (j := .ofList _ args) (by simp))
    simp [RowField.toJson, RowField.read, variant?, tagged, hname, hargs]
  | inherit type =>
    have htype : self (type.toJson layout) = some type := h.read_content
    simp [RowField.toJson, RowField.read, variant?, tagged, htype]

/-- A constraint of a package type is read back if the types below it are. -/
theorem PackageField.read_toJson {field : PackageField}
    (h : ReadsBelow self (CoreType.toJson layout) (field.toJson layout)) :
  PackageField.read self (field.toJson layout) = some field
  := by
  obtain ⟨name, type⟩ := field
  have hname := name.ofJson?_toJson layout LongIdent.ofJson?_toJson
  have htype : self (type.toJson layout) = some type := h.read_item (by simp)
  simp [PackageField.toJson, PackageField.read, hname, htype]

end Parts

/-- A written type is read back. -/
@[simp]
theorem CoreType.ofJson?_toJson (t : CoreType) :
  CoreType.ofJson? (t.toJson layout) = some t
  := by
  apply read_of_step _ t
  intro self t h
  cases t with
  | any info =>
    rw [CoreType.toJson, CoreType.step_node]
    rfl
  | var info name =>
    rw [CoreType.toJson, CoreType.step_node]
    rfl
  | arrow info label arg res =>
    rw [CoreType.toJson] at h ⊢
    have harg : self (arg.toJson layout) = some arg := h.node.content.read_item (by simp)
    have hres : self (res.toJson layout) = some res := h.node.content.read_item (by simp)
    simp [CoreType.step_node, CoreType.readDesc, variant?, tagged, harg, hres]
  | tuple info types =>
    rw [CoreType.toJson, arr_coreTypesToJson] at h ⊢
    have htypes := read_coreTypes h.node.content
    simp [CoreType.step_node, CoreType.readDesc, variant?, tagged, htypes]
  | constr info path args =>
    rw [CoreType.toJson, arr_coreTypesToJson] at h ⊢
    have hargs := read_coreTypes (h.node.content.item (j := .ofList _ args) (by simp))
    simp [CoreType.step_node, CoreType.readDesc, variant?, tagged, hargs]
  | object info fields closure =>
    rw [CoreType.toJson, arr_objectFieldsToJson] at h ⊢
    have hfields := (h.node.content.item (j := .ofList _ fields) (by simp)).list
      fun _ => ObjectField.read_toJson
    simp [CoreType.step_node, CoreType.readDesc, variant?, tagged, hfields]
  | «class» info path args =>
    rw [CoreType.toJson, arr_coreTypesToJson] at h ⊢
    have hargs := read_coreTypes (h.node.content.item (j := .ofList _ args) (by simp))
    simp [CoreType.step_node, CoreType.readDesc, variant?, tagged, hargs]
  | «alias» info type name =>
    rw [CoreType.toJson] at h ⊢
    have htype : self (type.toJson layout) = some type := h.node.content.read_item (by simp)
    simp [CoreType.step_node, CoreType.readDesc, variant?, tagged, htype]
  | variant info fields closure present =>
    rw [CoreType.toJson, arr_rowFieldsToJson] at h ⊢
    have hfields := (h.node.content.item (j := .ofList _ fields) (by simp)).list
      fun _ => RowField.read_toJson
    have hpresent : nullable? (list? string?) (ofOption (.ofList .str) present)
        = some present := by
      apply nullable?_ofOption
      · intro tags _
        apply list?_strings tags
      · simp [ofList]
    simp [CoreType.step_node, CoreType.readDesc, variant?, tagged, hfields, hpresent]
  | poly info vars body =>
    rw [CoreType.toJson] at h ⊢
    have hbody : self (body.toJson layout) = some body := h.node.content.read_item (by simp)
    simp [CoreType.step_node, CoreType.readDesc, variant?, tagged, hbody]
  | package info path fields loc =>
    rw [CoreType.toJson, arr_packageFieldsToJson] at h ⊢
    have hfields : list? (PackageField.read self) (.ofList (PackageField.toJson layout) fields)
        = some fields := by
      apply ReadsBelow.list _ fun _ => PackageField.read_toJson
      apply h.node.content.field (f := .plain "pack_fields" (.ofList _ fields)) (by simp)
        (by simp)
    rw [CoreType.step_node]
    simp only [CoreType.readDesc, variant?, tagged]
    rw [layout.record?_record]
    · simp [hfields]
    · rfl
    · decide

/-- A type is never written as null, which stands for an absent type. -/
theorem CoreType.toJson_ne_null (t : CoreType) :
  t.toJson layout ≠ .null
  := by
  cases t <;> rw [CoreType.toJson] <;> exact layout.record_ne_null _

/-- An optional type is read back from its slot, which may be empty when there is none. -/
@[simp]
theorem CoreType.optionOfSlot_optionField (name : String) (t : Option CoreType) :
  CoreType.optionOfSlot (layout.slot (CoreType.optionField layout name t)) = some t
  := by
  apply layout.orDefault_none_slot
  · intro b _
    apply b.ofJson?_toJson layout
  · apply CoreType.toJson_ne_null layout

/-! ### Declarations -/

/-- A written value is read back. -/
@[simp]
theorem ValueDescription.ofJson?_toJson (d : ValueDescription) :
  ValueDescription.ofJson? (d.toJson layout) = some d
  := by
  rw [ValueDescription.ofJson?, ValueDescription.toJson, layout.record?_record]
  · have hprimitives : (layout.slot
        ⟨"val_prim", .ofList .str d.primitives, d.primitives.isEmpty⟩).orDefault []
          (list? string?) = some d.primitives :=
      layout.orDefault_nil_slot fun s _ => string?_str s
    simp [hprimitives]
  · rfl
  · decide

/-- A type parameter is read back with its variance and its injectivity. -/
@[simp]
theorem TypeParam.ofJson?_toJson (p : TypeParam) :
  TypeParam.ofJson? (p.toJson layout) = some p
  := by
  simp [TypeParam.ofJson?, TypeParam.toJson]

/-- Type parameters are read back from their slot, which may be empty when there are none. -/
@[simp]
theorem TypeParam.listOfSlot_listField (name : String) (ps : List TypeParam) :
  TypeParam.listOfSlot (layout.slot (TypeParam.listField layout name ps)) = some ps
  := by
  apply layout.orDefault_nil_slot
  intro p _
  apply p.ofJson?_toJson layout

/-- A constraint on types is read back. -/
@[simp]
theorem TypeConstraint.ofJson?_toJson (c : TypeConstraint) :
  TypeConstraint.ofJson? (c.toJson layout) = some c
  := by
  simp [TypeConstraint.ofJson?, TypeConstraint.toJson]

/-- A written label is read back. -/
@[simp]
theorem LabelDeclaration.ofJson?_toJson (d : LabelDeclaration) :
  LabelDeclaration.ofJson? (d.toJson layout) = some d
  := by
  rw [LabelDeclaration.ofJson?, LabelDeclaration.toJson, layout.record?_record]
  · simp
  · rfl
  · decide

/-- The arguments of a constructor are read back, both as types and as labels. -/
@[simp]
theorem ConstructorArguments.ofJson?_toJson (args : ConstructorArguments) :
  ConstructorArguments.ofJson? (args.toJson layout) = some args
  := by
  cases args <;>
    simp [ConstructorArguments.ofJson?, ConstructorArguments.toJson, variant?, tagged]

/-- A written constructor is read back. -/
@[simp]
theorem ConstructorDeclaration.ofJson?_toJson (d : ConstructorDeclaration) :
  ConstructorDeclaration.ofJson? (d.toJson layout) = some d
  := by
  rw [ConstructorDeclaration.ofJson?, ConstructorDeclaration.toJson, layout.record?_record]
  · simp
  · rfl
  · decide

/-- The kind of a written type is read back. -/
@[simp]
theorem TypeKind.ofJson?_toJson (kind : TypeKind) :
  TypeKind.ofJson? (kind.toJson layout) = some kind
  := by
  cases kind <;> simp [TypeKind.ofJson?, TypeKind.toJson, variant?, tagged, Json.bare]

/-- A written type declaration is read back. -/
@[simp]
theorem TypeDeclaration.ofJson?_toJson (d : TypeDeclaration) :
  TypeDeclaration.ofJson? (d.toJson layout) = some d
  := by
  rw [TypeDeclaration.ofJson?, TypeDeclaration.toJson, layout.record?_record]
  · simp
  · rfl
  · decide

/-- A constructor of an extensible type is read back as a declaration or as a rebinding. -/
@[simp]
theorem ExtensionKind.ofJson?_toJson (kind : ExtensionKind) :
  ExtensionKind.ofJson? (kind.toJson layout) = some kind
  := by
  cases kind with
  | declared args result =>
    have hresult : nullable? CoreType.ofJson? (ofOption (CoreType.toJson layout) result)
        = some result := by
      apply nullable?_ofOption
      · intro type _
        apply type.ofJson?_toJson layout
      · apply CoreType.toJson_ne_null layout
    simp [ExtensionKind.ofJson?, ExtensionKind.toJson, variant?, tagged, hresult]
  | rebound path => simp [ExtensionKind.ofJson?, ExtensionKind.toJson, variant?, tagged]

/-- A written constructor of an extensible type is read back. -/
@[simp]
theorem ExtensionConstructor.ofJson?_toJson (d : ExtensionConstructor) :
  ExtensionConstructor.ofJson? (d.toJson layout) = some d
  := by
  rw [ExtensionConstructor.ofJson?, ExtensionConstructor.toJson, layout.record?_record]
  · simp
  · rfl
  · decide

/-- An extension of a type is read back. -/
@[simp]
theorem TypeExtension.ofJson?_toJson (d : TypeExtension) :
  TypeExtension.ofJson? (d.toJson layout) = some d
  := by
  rw [TypeExtension.ofJson?, TypeExtension.toJson, layout.record?_record]
  · simp
  · rfl
  · decide

/-! ### Classes -/

/-- A node of a class type is read as what it is, with its location and its attributes. -/
theorem ClassType.step_node (self : Json → Option ClassType) (info : NodeInfo) (desc : Json) :
  ClassType.step self (ClassType.node layout info desc) = ClassType.readDesc self info desc
  := by
  rw [ClassType.step, ClassType.node, NodeInfo.record?_node (by decide)]
  simp

/-- A node of a class field is read as what it is, with its location and its attributes. -/
theorem ClassField.read_node (self : Json → Option ClassType) (info : NodeInfo) (desc : Json) :
  ClassField.read self (ClassField.node layout info desc) = ClassField.readDesc self info desc
  := by
  rw [ClassField.read, ClassField.node, NodeInfo.record?_node (by decide)]
  simp

theorem arr_classFieldsToJson (fields : List ClassField) :
  .arr (classFieldsToJson layout fields) = ofList (ClassField.toJson layout) fields
  := by
  apply congrArg arr
  induction fields with
  | nil => rfl
  | cons field fields ih => rw [classFieldsToJson, ih, List.map_cons]

variable {layout} in
/-- A field of a class is read back if the class types below it are. -/
theorem ClassField.read_toJson {self : Json → Option ClassType} {field : ClassField}
    (h : ReadsBelow self (ClassType.toJson layout) (field.toJson layout)) :
  ClassField.read self (field.toJson layout) = some field
  := by
  cases field with
  | inherit info type =>
    rw [ClassField.toJson] at h ⊢
    have htype : self (type.toJson layout) = some type := h.node.read_content
    simp [ClassField.read_node, ClassField.readDesc, variant?, tagged, htype]
  | _ => simp [ClassField.toJson, ClassField.read_node, ClassField.readDesc, variant?, tagged]

/-- A written class type is read back. -/
@[simp]
theorem ClassType.ofJson?_toJson (t : ClassType) :
  ClassType.ofJson? (t.toJson layout) = some t
  := by
  apply read_of_step _ t
  intro self t h
  cases t with
  | constr info path args =>
    simp [ClassType.toJson, ClassType.step_node, ClassType.readDesc, variant?, tagged]
  | signature info selfType fields =>
    rw [ClassType.toJson, arr_classFieldsToJson] at h ⊢
    have hfields : list? (ClassField.read self) (.ofList (ClassField.toJson layout) fields)
        = some fields := by
      apply ReadsBelow.list _ fun _ => ClassField.read_toJson
      apply h.node.content.field (f := .plain "csig_fields" (.ofList _ fields)) (by simp)
        (by simp)
    rw [ClassType.step_node]
    simp only [ClassType.readDesc, variant?, tagged]
    rw [layout.record?_record]
    · simp [hfields]
    · rfl
    · decide
  | arrow info label arg res =>
    rw [ClassType.toJson] at h ⊢
    have hres : self (res.toJson layout) = some res := h.node.content.read_item (by simp)
    simp [ClassType.step_node, ClassType.readDesc, variant?, tagged, hres]

/-- A written class is read back with all identifiers it introduces. -/
@[simp]
theorem ClassDeclaration.ofJson?_toJson (d : ClassDeclaration) :
  ClassDeclaration.ofJson? (d.toJson layout) = some d
  := by
  rw [ClassDeclaration.ofJson?, ClassDeclaration.toJson, layout.record?_record]
  · simp
  · rfl
  · decide

/-! ### Modules -/

/-- A node of a module expression is read as what it is, with its computed type and its location. -/
theorem ModuleExpr.step_node (self : Json → Option ModuleExpr) (info : ModuleExprInfo)
    (desc : Json) :
  ModuleExpr.step self (ModuleExpr.node layout info desc) = ModuleExpr.readDesc self info desc
  := by
  rw [ModuleExpr.step, ModuleExpr.node, layout.record?_record]
  · simp
  · rfl
  · decide

/-- A module expression is read back. -/
@[simp]
theorem ModuleExpr.ofJson?_toJson (e : ModuleExpr) :
  ModuleExpr.ofJson? (e.toJson layout) = some e
  := by
  apply read_of_step _ e
  intro self e h
  have hdesc {info : ModuleExprInfo} {desc : Json}
      (h : ReadsBelow self (ModuleExpr.toJson layout) (ModuleExpr.node layout info desc)) :
      ReadsBelow self (ModuleExpr.toJson layout) desc :=
    h.field List.mem_cons_self (layout.mentions_plain _ _)
  cases e with
  | apply info f a =>
    rw [ModuleExpr.toJson] at h ⊢
    have hf : self (f.toJson layout) = some f := (hdesc h).content.read_item (by simp)
    have ha : self (a.toJson layout) = some a := (hdesc h).content.read_item (by simp)
    simp [ModuleExpr.step_node, ModuleExpr.readDesc, variant?, tagged, hf, ha]
  | constraint info expr =>
    rw [ModuleExpr.toJson] at h ⊢
    have hexpr : self (expr.toJson layout) = some expr := (hdesc h).read_content
    simp [ModuleExpr.step_node, ModuleExpr.readDesc, variant?, tagged, hexpr]
  | _ =>
    simp [ModuleExpr.toJson, ModuleExpr.step_node, ModuleExpr.readDesc, variant?, tagged,
      Json.bare]

/-- A constraint on a module type is read back. -/
@[simp]
theorem WithConstraint.ofJson?_toJson (c : WithConstraint) :
  WithConstraint.ofJson? (c.toJson layout) = some c
  := by
  cases c <;> simp [WithConstraint.ofJson?, WithConstraint.toJson, variant?, tagged]

/-- A clause of a constrained module type is read back with the name it constrains. -/
@[simp]
theorem WithClause.ofJson?_toJson (c : WithClause) :
  WithClause.ofJson? (c.toJson layout) = some c
  := by
  have hname := c.name.ofJson?_toJson layout LongIdent.ofJson?_toJson
  simp [WithClause.ofJson?, WithClause.toJson, hname]

@[simp]
theorem ModuleSubstitution.ofJson?_toJson (d : ModuleSubstitution) :
  ModuleSubstitution.ofJson? (d.toJson layout) = some d
  := by
  rw [ModuleSubstitution.ofJson?, ModuleSubstitution.toJson, layout.record?_record]
  · simp
  · rfl
  · decide

@[simp]
theorem OpenDescription.ofJson?_toJson (d : OpenDescription) :
  OpenDescription.ofJson? (d.toJson layout) = some d
  := by
  rw [OpenDescription.ofJson?, OpenDescription.toJson, layout.record?_record]
  · simp
  · rfl
  · decide

/-! ### Signatures -/

/-- A node of a module type is read as what it is, with its location and its attributes. -/
theorem ModuleType.step_node (self : Json → Option ModuleType) (info : NodeInfo) (desc : Json) :
  ModuleType.step self (ModuleType.node layout info desc) = ModuleType.readDesc self info desc
  := by
  rw [ModuleType.step, ModuleType.node, NodeInfo.record?_node (by decide)]
  simp

/-- A node of a signature item is read as what it is, with its location. -/
theorem SignatureItem.read_node (self : Json → Option ModuleType) (loc : Location)
    (desc : Json) :
  SignatureItem.read self (SignatureItem.node layout loc desc)
    = SignatureItem.readDesc self loc desc
  := by
  rw [SignatureItem.read, SignatureItem.node, layout.record?_record]
  · simp
  · rfl
  · decide

theorem arr_itemsToJson (items : Signature) :
  .arr (itemsToJson layout items) = ofList (SignatureItem.toJson layout) items
  := by
  apply congrArg arr
  induction items with
  | nil => rfl
  | cons item items ih => rw [itemsToJson, ih, List.map_cons]

theorem arr_modulesToJson (ds : List ModuleDeclaration) :
  .arr (modulesToJson layout ds) = ofList (ModuleDeclaration.toJson layout) ds
  := by
  apply congrArg arr
  induction ds with
  | nil => rfl
  | cons d ds ih => rw [modulesToJson, ih, List.map_cons]

/-- Writes a module type declaration. -/
def ModuleTypeDeclaration.toJson (layout : Layout) (d : ModuleTypeDeclaration) : Json :=
  layout.record [.plain "mtd_id" (d.ident.toJson layout),
    ⟨"mtd_type", ofOption (ModuleType.toJson layout) d.type, d.type.isNone⟩,
    Attribute.listField layout "mtd_attributes" d.attributes, d.loc.field layout "mtd_loc"]

/-- Writes an include. -/
def IncludeDescription.toJson (layout : Layout) (d : IncludeDescription) : Json :=
  layout.record [.plain "incl_mod" (d.type.toJson layout),
    .plain "incl_type" (Compiled.Signature.toJson layout d.content),
    d.loc.field layout "incl_loc", Attribute.listField layout "incl_attributes" d.attributes]

theorem SignatureItem.toJson_moduleType (loc : Location) (d : ModuleTypeDeclaration) :
  (SignatureItem.moduleType loc d).toJson layout
    = SignatureItem.node layout loc (tagged "Tsig_modtype" (d.toJson layout))
  := by
  rcases d with ⟨ident, _ | type, attributes, declLoc⟩
  · rw [SignatureItem.toJson]
    rfl
  · rw [SignatureItem.toJson]
    rfl

/-- An include is written as a node around its description. -/
theorem SignatureItem.toJson_included (loc : Location) (d : IncludeDescription) :
  (SignatureItem.included loc d).toJson layout
    = SignatureItem.node layout loc (tagged "Tsig_include" (d.toJson layout))
  := by
  cases d
  rw [SignatureItem.toJson]
  rfl

/-- A module type is never written as null, which stands for an abstract one. -/
theorem ModuleType.toJson_ne_null (t : ModuleType) :
  t.toJson layout ≠ .null
  := by
  cases t <;> rw [ModuleType.toJson] <;> exact layout.record_ne_null _

section Items

variable {layout} {self : Json → Option ModuleType}

/-- A written module is read back if the module types below it are. -/
theorem ModuleDeclaration.read_toJson {d : ModuleDeclaration}
    (h : ReadsBelow self (ModuleType.toJson layout) (d.toJson layout)) :
  ModuleDeclaration.read self (d.toJson layout) = some d
  := by
  obtain ⟨ident, type, attributes, loc⟩ := d
  rw [ModuleDeclaration.toJson] at h ⊢
  have htype : self (type.toJson layout) = some type :=
    h.read_field (List.mem_cons_of_mem _ List.mem_cons_self)
  rw [ModuleDeclaration.read, layout.record?_record]
  · simp [htype]
  · rfl
  · decide

/-- A written module type declaration is read back if the module types below it are. -/
theorem ModuleTypeDeclaration.read_toJson {d : ModuleTypeDeclaration}
    (h : ReadsBelow self (ModuleType.toJson layout) (d.toJson layout)) :
  ModuleTypeDeclaration.read self (d.toJson layout) = some d
  := by
  obtain ⟨ident, type, attributes, loc⟩ := d
  have htype : (layout.slot
      ⟨"mtd_type", ofOption (ModuleType.toJson layout) type, type.isNone⟩).orDefault none
        (nullable? self) = some type := by
    apply layout.orDefault_none_slot
    · rintro type rfl
      apply h.read_field (List.mem_cons_of_mem _ List.mem_cons_self)
    · apply ModuleType.toJson_ne_null layout
  rw [ModuleTypeDeclaration.read, ModuleTypeDeclaration.toJson, layout.record?_record]
  · simp [htype]
  · rfl
  · decide

/-- An include is read back with its content if the module types below it are. -/
theorem IncludeDescription.read_toJson {d : IncludeDescription}
    (h : ReadsBelow self (ModuleType.toJson layout) (d.toJson layout)) :
  IncludeDescription.read self (d.toJson layout) = some d
  := by
  obtain ⟨type, content, loc, attributes⟩ := d
  have htype : self (type.toJson layout) = some type := h.read_field List.mem_cons_self
  rw [IncludeDescription.read, IncludeDescription.toJson, layout.record?_record]
  · simp [htype]
  · rfl
  · decide

/-- The parameter of a functor is read back if the module types below it are. -/
theorem FunctorParameter.read_toJson {param : FunctorParameter}
    (h : ReadsBelow self (ModuleType.toJson layout) (param.toJson layout)) :
  FunctorParameter.read self (param.toJson layout) = some param
  := by
  cases param with
  | unit => simp [FunctorParameter.toJson, FunctorParameter.read, variant?, Json.bare]
  | named x type =>
    rw [FunctorParameter.toJson] at h ⊢
    have htype : self (type.toJson layout) = some type := h.content.read_item (by simp)
    simp [FunctorParameter.read, variant?, tagged, htype]

theorem SignatureItem.readsBelow_desc {loc : Location} {desc : Json}
    (h : ReadsBelow self (ModuleType.toJson layout) (SignatureItem.node layout loc desc)) :
  ReadsBelow self (ModuleType.toJson layout) desc
  := h.field List.mem_cons_self (layout.mentions_plain _ _)

/-- An item of a written signature is read back. -/
theorem SignatureItem.read_toJson {item : SignatureItem}
    (h : ReadsBelow self (ModuleType.toJson layout) (item.toJson layout)) :
  SignatureItem.read self (item.toJson layout) = some item
  := by
  cases item with
  | module loc d =>
    rw [SignatureItem.toJson] at h ⊢
    have hd := ModuleDeclaration.read_toJson (SignatureItem.readsBelow_desc h).content
    simp [SignatureItem.read_node, SignatureItem.readDesc, variant?, tagged, hd]
  | recModule loc ds =>
    rw [SignatureItem.toJson, arr_modulesToJson] at h ⊢
    have hds := (SignatureItem.readsBelow_desc h).content.list
      fun _ => ModuleDeclaration.read_toJson
    simp [SignatureItem.read_node, SignatureItem.readDesc, variant?, tagged, hds]
  | moduleType loc d =>
    rw [SignatureItem.toJson_moduleType] at h ⊢
    have hd := ModuleTypeDeclaration.read_toJson (SignatureItem.readsBelow_desc h).content
    simp [SignatureItem.read_node, SignatureItem.readDesc, variant?, tagged, hd]
  | included loc d =>
    rw [SignatureItem.toJson_included] at h ⊢
    have hd := IncludeDescription.read_toJson (SignatureItem.readsBelow_desc h).content
    simp [SignatureItem.read_node, SignatureItem.readDesc, variant?, tagged, hd]
  | _ =>
    simp [SignatureItem.toJson, SignatureItem.read_node, SignatureItem.readDesc, variant?, tagged]

/-- A signature is read back if the module types below it are. -/
theorem Signature.read_record {items : Signature}
    (h : ReadsBelow self (ModuleType.toJson layout)
      (.ofList (SignatureItem.toJson layout) items)) :
  Signature.read self
    (layout.record [.plain "sig_items" (.ofList (SignatureItem.toJson layout) items)])
    = some items
  := by
  have hitems := h.list fun _ => SignatureItem.read_toJson
  rw [Signature.read, layout.record?_record]
  · simp [hitems]
  · rfl
  · decide

end Items

/-- A written module type is read back. -/
@[simp]
theorem ModuleType.ofJson?_toJson (t : ModuleType) :
  ModuleType.ofJson? (t.toJson layout) = some t
  := by
  apply read_of_step _ t
  intro self t h
  cases t with
  | path info p =>
    simp [ModuleType.toJson, ModuleType.step_node, ModuleType.readDesc, variant?, tagged]
  | signature info items =>
    rw [ModuleType.toJson, arr_itemsToJson] at h ⊢
    have hitems := Signature.read_record
      (h.node.content.field List.mem_cons_self (layout.mentions_plain _ _))
    simp [ModuleType.step_node, ModuleType.readDesc, variant?, tagged, hitems]
  | functor info param result =>
    rw [ModuleType.toJson] at h ⊢
    have hparam := FunctorParameter.read_toJson
      (h.node.content.item (j := param.toJson layout) (by simp))
    have hresult : self (result.toJson layout) = some result :=
      h.node.content.read_item (by simp)
    simp [ModuleType.step_node, ModuleType.readDesc, variant?, tagged, hparam, hresult]
  | constrained info body clauses =>
    rw [ModuleType.toJson] at h ⊢
    have hbody : self (body.toJson layout) = some body := h.node.content.read_item (by simp)
    simp [ModuleType.step_node, ModuleType.readDesc, variant?, tagged, hbody]
  | typeOf info expr =>
    simp [ModuleType.toJson, ModuleType.step_node, ModuleType.readDesc, variant?, tagged]
  | «alias» info p =>
    simp [ModuleType.toJson, ModuleType.step_node, ModuleType.readDesc, variant?, tagged]

/-- A written signature is read back. -/
theorem Signature.ofJson?_toJson (items : Signature) :
  Signature.ofJson? (Signature.toJson layout items) = some items
  := by
  rw [Signature.ofJson?, Signature.toJson, arr_itemsToJson]
  apply Signature.read_record
  exact .of_forall (ModuleType.ofJson?_toJson layout) _

/-- The parts of written signatures are read back. -/
structure PartsReadBack : Prop where
  types : ReadsBack CoreType.ofJson? CoreType.toJson
  values : ReadsBack ValueDescription.ofJson? ValueDescription.toJson
  typeParams : ReadsBack TypeParam.ofJson? TypeParam.toJson
  typeConstraints : ReadsBack TypeConstraint.ofJson? TypeConstraint.toJson
  labels : ReadsBack LabelDeclaration.ofJson? LabelDeclaration.toJson
  constructorArguments : ReadsBack ConstructorArguments.ofJson? ConstructorArguments.toJson
  constructors : ReadsBack ConstructorDeclaration.ofJson? ConstructorDeclaration.toJson
  typeKinds : ReadsBack TypeKind.ofJson? TypeKind.toJson
  typeDeclarations : ReadsBack TypeDeclaration.ofJson? TypeDeclaration.toJson
  extensionKinds : ReadsBack ExtensionKind.ofJson? ExtensionKind.toJson
  extensionConstructors : ReadsBack ExtensionConstructor.ofJson? ExtensionConstructor.toJson
  typeExtensions : ReadsBack TypeExtension.ofJson? TypeExtension.toJson
  classTypes : ReadsBack ClassType.ofJson? ClassType.toJson
  classes : ReadsBack ClassDeclaration.ofJson? ClassDeclaration.toJson
  moduleExprs : ReadsBack ModuleExpr.ofJson? ModuleExpr.toJson
  withConstraints : ReadsBack WithConstraint.ofJson? WithConstraint.toJson
  withClauses : ReadsBack WithClause.ofJson? WithClause.toJson
  moduleSubstitutions : ReadsBack ModuleSubstitution.ofJson? ModuleSubstitution.toJson
  opens : ReadsBack OpenDescription.ofJson? OpenDescription.toJson
  moduleTypes : ReadsBack ModuleType.ofJson? ModuleType.toJson
  objectFields : ReadsBack (ObjectField.read CoreType.ofJson?) ObjectField.toJson
  rowFields : ReadsBack (RowField.read CoreType.ofJson?) RowField.toJson
  packageFields : ReadsBack (PackageField.read CoreType.ofJson?) PackageField.toJson
  classFields : ReadsBack (ClassField.read ClassType.ofJson?) ClassField.toJson
  modules : ReadsBack (ModuleDeclaration.read ModuleType.ofJson?) ModuleDeclaration.toJson
  moduleTypeDeclarations :
    ReadsBack (ModuleTypeDeclaration.read ModuleType.ofJson?) ModuleTypeDeclaration.toJson
  includes : ReadsBack (IncludeDescription.read ModuleType.ofJson?) IncludeDescription.toJson
  functorParameters : ReadsBack (FunctorParameter.read ModuleType.ofJson?) FunctorParameter.toJson
  items : ReadsBack (SignatureItem.read ModuleType.ofJson?) SignatureItem.toJson

/-- All that written signatures consist of is read back, in every layout. -/
theorem partsReadBack :
  PartsReadBack
  where
  types := CoreType.ofJson?_toJson
  values := ValueDescription.ofJson?_toJson
  typeParams := TypeParam.ofJson?_toJson
  typeConstraints := TypeConstraint.ofJson?_toJson
  labels := LabelDeclaration.ofJson?_toJson
  constructorArguments := ConstructorArguments.ofJson?_toJson
  constructors := ConstructorDeclaration.ofJson?_toJson
  typeKinds := TypeKind.ofJson?_toJson
  typeDeclarations := TypeDeclaration.ofJson?_toJson
  extensionKinds := ExtensionKind.ofJson?_toJson
  extensionConstructors := ExtensionConstructor.ofJson?_toJson
  typeExtensions := TypeExtension.ofJson?_toJson
  classTypes := ClassType.ofJson?_toJson
  classes := ClassDeclaration.ofJson?_toJson
  moduleExprs := ModuleExpr.ofJson?_toJson
  withConstraints := WithConstraint.ofJson?_toJson
  withClauses := WithClause.ofJson?_toJson
  moduleSubstitutions := ModuleSubstitution.ofJson?_toJson
  opens := OpenDescription.ofJson?_toJson
  moduleTypes := ModuleType.ofJson?_toJson
  objectFields := fun layout _ =>
    ObjectField.read_toJson (.of_forall (CoreType.ofJson?_toJson layout) _)
  rowFields := fun layout _ =>
    RowField.read_toJson (.of_forall (CoreType.ofJson?_toJson layout) _)
  packageFields := fun layout _ =>
    PackageField.read_toJson (.of_forall (CoreType.ofJson?_toJson layout) _)
  classFields := fun layout _ =>
    ClassField.read_toJson (.of_forall (ClassType.ofJson?_toJson layout) _)
  modules := fun layout _ =>
    ModuleDeclaration.read_toJson (.of_forall (ModuleType.ofJson?_toJson layout) _)
  moduleTypeDeclarations := fun layout _ =>
    ModuleTypeDeclaration.read_toJson (.of_forall (ModuleType.ofJson?_toJson layout) _)
  includes := fun layout _ =>
    IncludeDescription.read_toJson (.of_forall (ModuleType.ofJson?_toJson layout) _)
  functorParameters := fun layout _ =>
    FunctorParameter.read_toJson (.of_forall (ModuleType.ofJson?_toJson layout) _)
  items := fun layout _ =>
    SignatureItem.read_toJson (.of_forall (ModuleType.ofJson?_toJson layout) _)

/-- Written signatures are read back with all that they consist of, in every layout: with all
fields of their records, without the fields that hold their defaults, and with their records
as arrays. -/
theorem signature_readsBack :
  ReadsBack Signature.ofJson? Signature.toJson ∧ PartsReadBack ∧ Compiled.PartsReadBack ∧
    LeavesReadBack
  := ⟨Signature.ofJson?_toJson, partsReadBack, Compiled.partsReadBack, leavesReadBack⟩

end Written

end InterfaceDocs
