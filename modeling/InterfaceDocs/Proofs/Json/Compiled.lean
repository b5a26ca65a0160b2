import InterfaceDocs.Json.Compiled
import InterfaceDocs.Proofs.Json.Leaf

/-!
# Reading back compiled signatures

Compiled types, declarations, classes and signatures are read back.  The parts of a nested
value are read back by any reader that reads back the types that are less high
(`Json.ReadsBelow`); each list is written as the list of its written elements.
-/

namespace InterfaceDocs.Compiled

open Json

variable (layout : Layout)

/-! ### Types -/

theorem arr_typesToJson (types : List TypeExpr) :
  .arr (typesToJson layout types) = ofList (TypeExpr.toJson layout) types
  := by
  apply congrArg arr
  induction types with
  | nil => rfl
  | cons type types ih => rw [typesToJson, ih, List.map_cons]

/-- Writes a method of an object type. -/
def ObjectMethod.toJson (layout : Layout) : ObjectMethod → Json
  | .mk name type => .arr [.str name, type.toJson layout]

theorem arr_methodsToJson (methods : List ObjectMethod) :
  .arr (methodsToJson layout methods) = ofList (ObjectMethod.toJson layout) methods
  := by
  apply congrArg arr
  induction methods with
  | nil => rfl
  | cons m methods ih =>
    cases m
    rw [methodsToJson, ih, List.map_cons, ObjectMethod.toJson]

/-- Writes a tag of a polymorphic variant. -/
def RowField.toJson (layout : Layout) : RowField → Json
  | .present arg => tagged "Rpresent" (ofOption (TypeExpr.toJson layout) arg)
  | .either constant args =>
    tagged "Reither" (.arr [.bool constant, .ofList (TypeExpr.toJson layout) args])
  | .absent => .str "Rabsent"

/-- Writes a tag of a polymorphic variant with its name. -/
def RowEntry.toJson (layout : Layout) : RowEntry → Json
  | .mk tag field => .arr [.str tag, field.toJson layout]

theorem arr_rowToJson (entries : List RowEntry) :
  .arr (rowToJson layout entries) = ofList (RowEntry.toJson layout) entries
  := by
  apply congrArg arr
  induction entries with
  | nil => rfl
  | cons entry entries ih =>
    obtain ⟨tag, field⟩ := entry
    rw [List.map_cons, ← ih]
    rcases field with (_ | arg) | ⟨constant, args⟩ | _
    · rw [rowToJson]
      rfl
    · rw [rowToJson]
      rfl
    · rw [rowToJson, arr_typesToJson]
      rfl
    · rw [rowToJson]
      rfl

/-- Writes the abbreviation of a polymorphic variant. -/
def RowName.toJson (layout : Layout) : RowName → Json
  | .mk path args => .arr [path.toJson layout, .ofList (TypeExpr.toJson layout) args]

/-- A polymorphic variant is written as its entries, the flag that closes it and its optional
name. -/
theorem TypeExpr.toJson_variant (fields : List RowEntry) (isClosed : Bool)
    (name : Option RowName) :
  (TypeExpr.variant fields isClosed name).toJson layout
    = tagged "Tvariant" (layout.record
      [.plain "row_fields" (.ofList (RowEntry.toJson layout) fields),
        .plain "row_closed" (.bool isClosed),
        ⟨"row_name", ofOption (RowName.toJson layout) name, name.isNone⟩])
  := by
  rcases name with _ | ⟨path, args⟩
  · rw [TypeExpr.toJson, arr_rowToJson]
    rfl
  · rw [TypeExpr.toJson, arr_rowToJson, arr_typesToJson]
    rfl

/-- A type is never written as null, which stands for an absent type. -/
theorem TypeExpr.toJson_ne_null (t : TypeExpr) :
  t.toJson layout ≠ .null
  := by
  cases t with
  | variant => simp [TypeExpr.toJson_variant, tagged]
  | _ => simp [TypeExpr.toJson, tagged]

/-- The name of a variant is never written as null. -/
theorem RowName.toJson_ne_null (n : RowName) :
  n.toJson layout ≠ .null
  := by
  cases n
  simp [RowName.toJson]

section Parts

variable {layout} {self : Json → Option TypeExpr}

/-- Types below a value are read back by what reads back all below the value. -/
theorem read_types {types : List TypeExpr}
    (h : ReadsBelow self (TypeExpr.toJson layout) (.ofList (TypeExpr.toJson layout) types)) :
  list? self (.ofList (TypeExpr.toJson layout) types) = some types
  := by
  apply list?_ofList
  intro type htype
  apply h.read_item (List.mem_map_of_mem htype)

/-- A method of an object type is read back if the types below it are. -/
theorem ObjectMethod.read_toJson {m : ObjectMethod}
    (h : ReadsBelow self (TypeExpr.toJson layout) (m.toJson layout)) :
  ObjectMethod.read self (m.toJson layout) = some m
  := by
  obtain ⟨name, type⟩ := m
  have htype : self (type.toJson layout) = some type := h.read_item (by simp)
  simp [ObjectMethod.toJson, ObjectMethod.read, htype]

/-- The field of a tag is read back if the types below it are. -/
theorem RowField.read_toJson {field : RowField}
    (h : ReadsBelow self (TypeExpr.toJson layout) (field.toJson layout)) :
  RowField.read self (field.toJson layout) = some field
  := by
  cases field with
  | present arg =>
    have harg : nullable? self (ofOption (TypeExpr.toJson layout) arg) = some arg := by
      apply nullable?_ofOption
      · rintro type rfl
        apply h.read_content
      · apply TypeExpr.toJson_ne_null layout
    simp [RowField.toJson, RowField.read, variant?, tagged, harg]
  | either constant args =>
    have hargs := read_types (h.content.item (j := .ofList _ args) (by simp))
    simp [RowField.toJson, RowField.read, variant?, tagged, hargs]
  | absent => rfl

/-- An entry of a variant is read back if the types below it are. -/
theorem RowEntry.read_toJson {entry : RowEntry}
    (h : ReadsBelow self (TypeExpr.toJson layout) (entry.toJson layout)) :
  RowEntry.read self (entry.toJson layout) = some entry
  := by
  obtain ⟨tag, field⟩ := entry
  have hfield := RowField.read_toJson (h.item (j := field.toJson layout) (by simp))
  simp [RowEntry.toJson, RowEntry.read, hfield]

/-- The name of a variant is read back if the types below it are. -/
theorem RowName.read_toJson {name : RowName}
    (h : ReadsBelow self (TypeExpr.toJson layout) (name.toJson layout)) :
  RowName.read self (name.toJson layout) = some name
  := by
  obtain ⟨path, args⟩ := name
  have hargs := read_types (h.item (j := .ofList (TypeExpr.toJson layout) args) (by simp))
  simp [RowName.toJson, RowName.read, hargs]

end Parts

/-- A variable is read back, also when it has no name. -/
@[simp]
theorem readVariable_writeVariable (make : Option String → Int32 → TypeExpr)
    (name : Option String) (id : Int32) :
  readVariable make (writeVariable name id) = some (make name id)
  := by
  cases name <;> simp [readVariable, writeVariable, parts?, slots?, slot?, ofOption,
    Slot.optional, Slot.required, nullable?]

/-- A compiled type is read back. -/
@[simp]
theorem TypeExpr.ofJson?_toJson (t : TypeExpr) :
  TypeExpr.ofJson? (t.toJson layout) = some t
  := by
  apply read_of_step _ t
  intro self t h
  cases t with
  | var name id => simp [TypeExpr.toJson, TypeExpr.step, variant?, tagged]
  | arrow label arg res =>
    rw [TypeExpr.toJson] at h ⊢
    have harg : self (arg.toJson layout) = some arg := h.content.read_item (by simp)
    have hres : self (res.toJson layout) = some res := h.content.read_item (by simp)
    simp [TypeExpr.step, variant?, tagged, harg, hres]
  | tuple types =>
    rw [TypeExpr.toJson, arr_typesToJson] at h ⊢
    have htypes : list? self (.ofList _ types) = some types := read_types h.content
    simp [TypeExpr.step, variant?, tagged, htypes]
  | constr path args =>
    rw [TypeExpr.toJson, arr_typesToJson] at h ⊢
    have hargs : list? self (.ofList _ args) = some args := read_types (h.content.item (by simp))
    simp [TypeExpr.step, variant?, tagged, hargs]
  | object methods isOpen =>
    rw [TypeExpr.toJson, arr_methodsToJson] at h ⊢
    have hmethods := (h.content.item (j := .ofList _ methods) (by simp)).list
      fun _ => ObjectMethod.read_toJson
    simp [TypeExpr.step, variant?, tagged, hmethods]
  | variant fields isClosed name =>
    rw [TypeExpr.toJson_variant] at h ⊢
    have hfields : list? (RowEntry.read self) (.ofList (RowEntry.toJson layout) fields)
        = some fields := by
      apply ReadsBelow.list _ fun _ => RowEntry.read_toJson
      apply h.content.field List.mem_cons_self (layout.mentions_plain _ _)
    have hname : (layout.slot
        ⟨"row_name", ofOption (RowName.toJson layout) name, name.isNone⟩).orDefault none
          (nullable? (RowName.read self)) = some name := by
      apply layout.orDefault_none_slot
      · rintro n rfl
        apply RowName.read_toJson
        apply h.content.field (f := .plain "row_name" (n.toJson layout))
          (by simp [Field.plain, ofOption]) (layout.mentions_plain _ _)
      · apply RowName.toJson_ne_null layout
    simp only [TypeExpr.step, variant?, tagged]
    rw [layout.record?_record]
    · simp [hfields, hname]
    · rfl
    · decide
  | poly body vars =>
    rw [TypeExpr.toJson, arr_typesToJson] at h ⊢
    have hbody : self (body.toJson layout) = some body := h.content.read_item (by simp)
    have hvars : list? self (.ofList _ vars) = some vars := read_types (h.content.item (by simp))
    simp [TypeExpr.step, variant?, tagged, hbody, hvars]
  | univar name id => simp [TypeExpr.toJson, TypeExpr.step, variant?, tagged]
  | package path names types =>
    rw [TypeExpr.toJson, arr_typesToJson] at h ⊢
    have htypes : list? self (.ofList _ types) = some types :=
      read_types (h.content.item (by simp))
    simp [TypeExpr.step, variant?, tagged, htypes]
  | «alias» type name =>
    rw [TypeExpr.toJson] at h ⊢
    have htype : self (type.toJson layout) = some type := h.content.read_item (by simp)
    simp [TypeExpr.step, variant?, tagged, htype]

/-- An optional type is read back from its slot, which may be empty when there is none. -/
@[simp]
theorem TypeExpr.optionOfSlot_optionField (name : String) (t : Option TypeExpr) :
  TypeExpr.optionOfSlot (layout.slot (TypeExpr.optionField layout name t)) = some t
  := by
  apply layout.orDefault_none_slot
  · intro b _
    apply b.ofJson?_toJson layout
  · apply TypeExpr.toJson_ne_null layout

/-! ### Declarations -/

/-- A primitive is read back. -/
@[simp]
theorem Primitive.ofJson?_toJson (p : Primitive) :
  Primitive.ofJson? (p.toJson layout) = some p
  := by
  rw [Primitive.ofJson?, Primitive.toJson, layout.record?_record]
  · have hnative : (layout.slot
        ⟨"prim_native_name", .str p.nativeName, p.nativeName == ""⟩).orDefault "" string?
          = some p.nativeName :=
      layout.orDefault_beq_slot (string?_str p.nativeName)
    simp [hnative]
  · rfl
  · decide

@[simp]
theorem ValueKind.ofJson?_toJson (kind : ValueKind) :
  ValueKind.ofJson? (kind.toJson layout) = some kind
  := by
  cases kind with
  | regular => rfl
  | primitive p => simp [ValueKind.ofJson?, ValueKind.toJson, variant?, tagged]

/-- A value is read back. -/
@[simp]
theorem ValueDescription.ofJson?_toJson (d : ValueDescription) :
  ValueDescription.ofJson? (d.toJson layout) = some d
  := by
  rw [ValueDescription.ofJson?, ValueDescription.toJson, layout.record?_record]
  · simp
  · rfl
  · decide

/-- A label is read back. -/
@[simp]
theorem LabelDeclaration.ofJson?_toJson (d : LabelDeclaration) :
  LabelDeclaration.ofJson? (d.toJson layout) = some d
  := by
  rw [LabelDeclaration.ofJson?, LabelDeclaration.toJson, layout.record?_record]
  · simp
  · rfl
  · decide

/-- The arguments of a constructor are read back, both as types and as labels. -/
@[simp]
theorem ConstructorArguments.ofJson?_toJson (args : ConstructorArguments) :
  ConstructorArguments.ofJson? (args.toJson layout) = some args
  := by
  cases args <;>
    simp [ConstructorArguments.ofJson?, ConstructorArguments.toJson, variant?, tagged]

/-- A constructor is read back. -/
@[simp]
theorem ConstructorDeclaration.ofJson?_toJson (d : ConstructorDeclaration) :
  ConstructorDeclaration.ofJson? (d.toJson layout) = some d
  := by
  rw [ConstructorDeclaration.ofJson?, ConstructorDeclaration.toJson, layout.record?_record]
  · simp
  · rfl
  · decide

/-- The kind of a type is read back. -/
@[simp]
theorem TypeKind.ofJson?_toJson (kind : TypeKind) :
  TypeKind.ofJson? (kind.toJson layout) = some kind
  := by
  cases kind <;> simp [TypeKind.ofJson?, TypeKind.toJson, variant?, tagged, Json.bare]

/-- Variances are read back from their slot, which may be empty when there are none. -/
@[simp]
theorem varianceOfSlot_varianceField (name : String) (vs : List Variance) :
  varianceOfSlot (layout.slot (varianceField name vs)) = some vs
  := by
  apply layout.orDefault_nil_slot
  intro v _
  apply v.ofJson?_toJson

/-- A type declaration is read back. -/
@[simp]
theorem TypeDeclaration.ofJson?_toJson (d : TypeDeclaration) :
  TypeDeclaration.ofJson? (d.toJson layout) = some d
  := by
  rw [TypeDeclaration.ofJson?, TypeDeclaration.toJson, layout.record?_record]
  · simp
  · rfl
  · decide

/-- A constructor of an extensible type is read back. -/
@[simp]
theorem ExtensionConstructor.ofJson?_toJson (d : ExtensionConstructor) :
  ExtensionConstructor.ofJson? (d.toJson layout) = some d
  := by
  rw [ExtensionConstructor.ofJson?, ExtensionConstructor.toJson, layout.record?_record]
  · simp
  · rfl
  · decide

/-! ### Classes -/

@[simp]
theorem InstanceVariable.ofJson?_toJson (v : InstanceVariable) :
  InstanceVariable.ofJson? (v.toJson layout) = some v
  := by
  simp [InstanceVariable.ofJson?, InstanceVariable.toJson]

@[simp]
theorem Method.ofJson?_toJson (m : Method) :
  Method.ofJson? (m.toJson layout) = some m
  := by
  simp [Method.ofJson?, Method.toJson]

/-- The body of a class type is read back. -/
@[simp]
theorem ClassSignature.ofJson?_toJson (s : ClassSignature) :
  ClassSignature.ofJson? (s.toJson layout) = some s
  := by
  rw [ClassSignature.ofJson?, ClassSignature.toJson, layout.record?_record]
  · simp
  · rfl
  · decide

/-- A compiled class type is read back. -/
@[simp]
theorem ClassType.ofJson?_toJson (t : ClassType) :
  ClassType.ofJson? (t.toJson layout) = some t
  := by
  apply read_of_step _ t
  intro self t h
  cases t with
  | constr path args => simp [ClassType.toJson, ClassType.step, variant?, tagged]
  | signature body => simp [ClassType.toJson, ClassType.step, variant?, tagged]
  | arrow label arg res =>
    have hres : self (res.toJson layout) = some res := h.content.read_item (by simp)
    simp [ClassType.toJson, ClassType.step, variant?, tagged, hres]

/-- An optional identifier is read back from its slot, which may be empty when there is none. -/
@[simp]
theorem identOfSlot_identField (name : String) (x : Option Ident) :
  identOfSlot (layout.slot (identField layout name x)) = some x
  := by
  apply layout.orDefault_none_slot
  · intro b _
    apply b.ofJson?_toJson layout
  · exact fun b => layout.record_ne_null _

/-- A class is read back with the optional identifiers of its class type and its object type. -/
@[simp]
theorem ClassDeclaration.ofJson?_toJson (d : ClassDeclaration) :
  ClassDeclaration.ofJson? (d.toJson layout) = some d
  := by
  rw [ClassDeclaration.ofJson?, ClassDeclaration.toJson, layout.record?_record]
  · simp
  · rfl
  · decide

/-- A class type declaration is read back with the optional identifier of its object type. -/
@[simp]
theorem ClassTypeDeclaration.ofJson?_toJson (d : ClassTypeDeclaration) :
  ClassTypeDeclaration.ofJson? (d.toJson layout) = some d
  := by
  rw [ClassTypeDeclaration.ofJson?, ClassTypeDeclaration.toJson, layout.record?_record]
  · simp
  · rfl
  · decide

/-! ### Signatures -/

@[simp]
theorem RecStatus.ofJson?_toJson (status : RecStatus) :
  RecStatus.ofJson? status.toJson = some status
  := by
  cases status <;> rfl

@[simp]
theorem ExtStatus.ofJson?_toJson (status : ExtStatus) :
  ExtStatus.ofJson? status.toJson = some status
  := by
  cases status <;> rfl

theorem arr_itemsToJson (items : Signature) :
  .arr (itemsToJson layout items) = ofList (SignatureItem.toJson layout) items
  := by
  apply congrArg arr
  induction items with
  | nil => rfl
  | cons item items ih => rw [itemsToJson, ih, List.map_cons]

/-- Writes a module declaration. -/
def ModuleDeclaration.toJson (layout : Layout) (d : ModuleDeclaration) : Json :=
  layout.record [.plain "md_type" (d.type.toJson layout),
    Attribute.listField layout "md_attributes" d.attributes, d.loc.field layout "md_loc"]

/-- Writes a module type declaration. -/
def ModuleTypeDeclaration.toJson (layout : Layout) (d : ModuleTypeDeclaration) : Json :=
  layout.record [⟨"mtd_type", ofOption (ModuleType.toJson layout) d.type, d.type.isNone⟩,
    Attribute.listField layout "mtd_attributes" d.attributes, d.loc.field layout "mtd_loc"]

/-- A module is written as its identifier, its declaration and its place in the group. -/
theorem SignatureItem.toJson_module (x : Ident) (d : ModuleDeclaration) (status : RecStatus) :
  (SignatureItem.module x d status).toJson layout
    = tagged "SigModule" (.arr [x.toJson layout, d.toJson layout, status.toJson])
  := by
  cases d
  rw [SignatureItem.toJson]
  rfl

/-- A module type is written as its identifier and its declaration. -/
theorem SignatureItem.toJson_moduleType (x : Ident) (d : ModuleTypeDeclaration) :
  (SignatureItem.moduleType x d).toJson layout
    = tagged "SigModtype" (.arr [x.toJson layout, d.toJson layout])
  := by
  rcases d with ⟨_ | type, attributes, loc⟩
  · rw [SignatureItem.toJson]
    rfl
  · rw [SignatureItem.toJson]
    rfl

/-- A functor is written as its parameter, the optional type of the parameter, and its result. -/
theorem ModuleType.toJson_functor (param : Ident) (type : Option ModuleType)
    (result : ModuleType) :
  (ModuleType.functor param type result).toJson layout
    = tagged "MtyFunctor" (.obj [("param", param.toJson layout),
      ("param_type", ofOption (ModuleType.toJson layout) type),
      ("result", result.toJson layout)])
  := by
  cases type
  · rw [ModuleType.toJson]
    rfl
  · rw [ModuleType.toJson]
    rfl

/-- A module type is never written as null, which stands for an abstract one. -/
theorem ModuleType.toJson_ne_null (t : ModuleType) :
  t.toJson layout ≠ .null
  := by
  cases t with
  | functor => simp [ModuleType.toJson_functor, tagged]
  | _ => simp [ModuleType.toJson, tagged]

section Items

variable {layout} {self : Json → Option ModuleType}

/-- A module declaration is read back if the module types below it are. -/
theorem ModuleDeclaration.read_toJson {d : ModuleDeclaration}
    (h : ReadsBelow self (ModuleType.toJson layout) (d.toJson layout)) :
  ModuleDeclaration.read self (d.toJson layout) = some d
  := by
  obtain ⟨type, attributes, loc⟩ := d
  have htype : self (type.toJson layout) = some type := h.read_field List.mem_cons_self
  rw [ModuleDeclaration.read, ModuleDeclaration.toJson, layout.record?_record]
  · simp [htype]
  · rfl
  · decide

/-- The type of a module type declaration is less high than the declaration. -/
theorem ModuleTypeDeclaration.read_toJson {d : ModuleTypeDeclaration}
    (h : ReadsBelow self (ModuleType.toJson layout) (d.toJson layout)) :
  ModuleTypeDeclaration.read self (d.toJson layout) = some d
  := by
  obtain ⟨type, attributes, loc⟩ := d
  have htype : (layout.slot
      ⟨"mtd_type", ofOption (ModuleType.toJson layout) type, type.isNone⟩).orDefault none
        (nullable? self) = some type := by
    apply layout.orDefault_none_slot
    · rintro type rfl
      apply h.read_field List.mem_cons_self
    · apply ModuleType.toJson_ne_null layout
  rw [ModuleTypeDeclaration.read, ModuleTypeDeclaration.toJson, layout.record?_record]
  · simp [htype]
  · rfl
  · decide

/-- An item of a compiled signature is read back. -/
theorem SignatureItem.read_toJson {item : SignatureItem}
    (h : ReadsBelow self (ModuleType.toJson layout) (item.toJson layout)) :
  SignatureItem.read self (item.toJson layout) = some item
  := by
  cases item with
  | module x d status =>
    rw [SignatureItem.toJson_module] at h ⊢
    have hd := ModuleDeclaration.read_toJson (h.content.item (j := d.toJson layout) (by simp))
    simp [SignatureItem.read, variant?, tagged, hd]
  | moduleType x d =>
    rw [SignatureItem.toJson_moduleType] at h ⊢
    have hd := ModuleTypeDeclaration.read_toJson (h.content.item (j := d.toJson layout) (by simp))
    simp [SignatureItem.read, variant?, tagged, hd]
  | _ => simp [SignatureItem.toJson, SignatureItem.read, variant?, tagged]

end Items

/-- A compiled module type is read back. -/
@[simp]
theorem ModuleType.ofJson?_toJson (t : ModuleType) :
  ModuleType.ofJson? (t.toJson layout) = some t
  := by
  apply read_of_step _ t
  intro self t h
  cases t with
  | path p => simp [ModuleType.toJson, ModuleType.step, variant?, tagged]
  | signature items =>
    rw [ModuleType.toJson, arr_itemsToJson] at h ⊢
    have hitems := h.content.list fun _ => SignatureItem.read_toJson
    simp [ModuleType.step, variant?, tagged, hitems]
  | functor param type result =>
    rw [ModuleType.toJson_functor] at h ⊢
    have htype : nullable? self (ofOption (ModuleType.toJson layout) type) = some type := by
      apply nullable?_ofOption
      · rintro type rfl
        apply h.content type (height_lt_obj (m := ("param_type", _)) (by simp [ofOption]))
      · apply ModuleType.toJson_ne_null layout
    have hresult : self (result.toJson layout) = some result :=
      h.content result (height_lt_obj (m := ("result", _)) (by simp))
    simp [ModuleType.step, variant?, tagged, parts?, slots?, slot?, Slot.required, Slot.optional,
      htype, hresult]
  | «alias» p => simp [ModuleType.toJson, ModuleType.step, variant?, tagged]

/-- A compiled signature is read back. -/
@[simp]
theorem Signature.ofJson?_toJson (items : Signature) :
  Signature.ofJson? (Signature.toJson layout items) = some items
  := by
  rw [Signature.ofJson?, Signature.toJson, arr_itemsToJson]
  apply list?_ofList
  intro item _
  apply SignatureItem.read_toJson (.of_forall (ModuleType.ofJson?_toJson layout) _)

/-- Compiled signatures and their parts are read back. -/
structure PartsReadBack : Prop where
  types : ReadsBack TypeExpr.ofJson? TypeExpr.toJson
  primitives : ReadsBack Primitive.ofJson? Primitive.toJson
  valueKinds : ReadsBack ValueKind.ofJson? ValueKind.toJson
  values : ReadsBack ValueDescription.ofJson? ValueDescription.toJson
  labels : ReadsBack LabelDeclaration.ofJson? LabelDeclaration.toJson
  constructorArguments : ReadsBack ConstructorArguments.ofJson? ConstructorArguments.toJson
  constructors : ReadsBack ConstructorDeclaration.ofJson? ConstructorDeclaration.toJson
  typeKinds : ReadsBack TypeKind.ofJson? TypeKind.toJson
  typeDeclarations : ReadsBack TypeDeclaration.ofJson? TypeDeclaration.toJson
  extensions : ReadsBack ExtensionConstructor.ofJson? ExtensionConstructor.toJson
  instanceVariables : ReadsBack InstanceVariable.ofJson? InstanceVariable.toJson
  methods : ReadsBack Method.ofJson? Method.toJson
  classBodies : ReadsBack ClassSignature.ofJson? ClassSignature.toJson
  classTypes : ReadsBack ClassType.ofJson? ClassType.toJson
  classes : ReadsBack ClassDeclaration.ofJson? ClassDeclaration.toJson
  classTypeDeclarations : ReadsBack ClassTypeDeclaration.ofJson? ClassTypeDeclaration.toJson
  recStatuses : ReadsBack RecStatus.ofJson? fun _ => RecStatus.toJson
  extStatuses : ReadsBack ExtStatus.ofJson? fun _ => ExtStatus.toJson
  moduleTypes : ReadsBack ModuleType.ofJson? ModuleType.toJson
  signatures : ReadsBack Signature.ofJson? Signature.toJson
  objectMethods : ReadsBack (ObjectMethod.read TypeExpr.ofJson?) ObjectMethod.toJson
  rowFields : ReadsBack (RowField.read TypeExpr.ofJson?) RowField.toJson
  rowEntries : ReadsBack (RowEntry.read TypeExpr.ofJson?) RowEntry.toJson
  rowNames : ReadsBack (RowName.read TypeExpr.ofJson?) RowName.toJson
  modules : ReadsBack (ModuleDeclaration.read ModuleType.ofJson?) ModuleDeclaration.toJson
  moduleTypeDeclarations :
    ReadsBack (ModuleTypeDeclaration.read ModuleType.ofJson?) ModuleTypeDeclaration.toJson
  items : ReadsBack (SignatureItem.read ModuleType.ofJson?) SignatureItem.toJson

/-- All that compiled signatures consist of is read back, in every layout. -/
theorem partsReadBack :
  PartsReadBack
  where
  types := TypeExpr.ofJson?_toJson
  primitives := Primitive.ofJson?_toJson
  valueKinds := ValueKind.ofJson?_toJson
  values := ValueDescription.ofJson?_toJson
  labels := LabelDeclaration.ofJson?_toJson
  constructorArguments := ConstructorArguments.ofJson?_toJson
  constructors := ConstructorDeclaration.ofJson?_toJson
  typeKinds := TypeKind.ofJson?_toJson
  typeDeclarations := TypeDeclaration.ofJson?_toJson
  extensions := ExtensionConstructor.ofJson?_toJson
  instanceVariables := InstanceVariable.ofJson?_toJson
  methods := Method.ofJson?_toJson
  classBodies := ClassSignature.ofJson?_toJson
  classTypes := ClassType.ofJson?_toJson
  classes := ClassDeclaration.ofJson?_toJson
  classTypeDeclarations := ClassTypeDeclaration.ofJson?_toJson
  recStatuses := fun _ => RecStatus.ofJson?_toJson
  extStatuses := fun _ => ExtStatus.ofJson?_toJson
  moduleTypes := ModuleType.ofJson?_toJson
  signatures := Signature.ofJson?_toJson
  objectMethods := fun layout _ =>
    ObjectMethod.read_toJson (.of_forall (TypeExpr.ofJson?_toJson layout) _)
  rowFields := fun layout _ =>
    RowField.read_toJson (.of_forall (TypeExpr.ofJson?_toJson layout) _)
  rowEntries := fun layout _ =>
    RowEntry.read_toJson (.of_forall (TypeExpr.ofJson?_toJson layout) _)
  rowNames := fun layout _ =>
    RowName.read_toJson (.of_forall (TypeExpr.ofJson?_toJson layout) _)
  modules := fun layout _ =>
    ModuleDeclaration.read_toJson (.of_forall (ModuleType.ofJson?_toJson layout) _)
  moduleTypeDeclarations := fun layout _ =>
    ModuleTypeDeclaration.read_toJson (.of_forall (ModuleType.ofJson?_toJson layout) _)
  items := fun layout _ =>
    SignatureItem.read_toJson (.of_forall (ModuleType.ofJson?_toJson layout) _)

end InterfaceDocs.Compiled
