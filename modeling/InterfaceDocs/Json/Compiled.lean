import InterfaceDocs.Compiled.Signature
import InterfaceDocs.Json.Leaf

/-!
# The JSON form of compiled signatures

Readers and writers of compiled types, declarations and signatures.  Where types nest, `step`
reads one level of a value.
-/

namespace InterfaceDocs.Compiled

open Json

/-! ### Types -/

/-- Reads a method of an object type. -/
def ObjectMethod.read (self : Json → Option TypeExpr) : Json → Option ObjectMethod
  | .arr [name, type] => do return .mk (← name.string?) (← self type)
  | _ => none

/-- Reads a tag of a polymorphic variant. -/
def RowField.read (self : Json → Option TypeExpr) (j : Json) : Option RowField :=
  match j.variant? with
  | some ("Rpresent", some arg) => do return .present (← arg.nullable? self)
  | some ("Reither", some (.arr [constant, args])) => do
    return .either (← constant.bool?) (← args.list? self)
  | some ("Rabsent", content) => bare .absent content
  | _ => none

/-- Reads a tag of a polymorphic variant with its name. -/
def RowEntry.read (self : Json → Option TypeExpr) : Json → Option RowEntry
  | .arr [tag, field] => do return .mk (← tag.string?) (← RowField.read self field)
  | _ => none

/-- Reads the abbreviation of a polymorphic variant. -/
def RowName.read (self : Json → Option TypeExpr) : Json → Option RowName
  | .arr [path, args] => do return .mk (← Path.ofJson? path) (← args.list? self)
  | _ => none

/-- Reads the name and the id of a variable. -/
def readVariable (make : Option String → Int32 → TypeExpr) (j : Json) : Option TypeExpr := do
  let [name, id] ← j.parts? ["name", "id"] | none
  return make (← name.optional string?) (← id.required int32?)

/-- Reads one level of a type expression. -/
def TypeExpr.step (self : Json → Option TypeExpr) (j : Json) : Option TypeExpr :=
  match j.variant? with
  | some ("Tvar", some content) => readVariable .var content
  | some ("Tarrow", some (.arr [label, arg, res])) => do
    return .arrow (← ArgLabel.ofJson? label) (← self arg) (← self res)
  | some ("Ttuple", some types) => do return .tuple (← types.list? self)
  | some ("Tconstr", some (.arr [path, args])) => do
    return .constr (← Path.ofJson? path) (← args.list? self)
  | some ("Tobject", some (.arr [methods, isOpen])) => do
    return .object (← methods.list? (ObjectMethod.read self)) (← isOpen.bool?)
  | some ("Tvariant", some content) => do
    let [fields, isClosed, name] ← content.record? ["row_fields", "row_closed", "row_name"]
      | none
    return .variant (← fields.required (list? (RowEntry.read self)))
      (← isClosed.required bool?) (← name.orDefault none (nullable? (RowName.read self)))
  | some ("Tpoly", some (.arr [body, vars])) => do
    return .poly (← self body) (← vars.list? self)
  | some ("Tunivar", some content) => readVariable .univar content
  | some ("Tpackage", some (.arr [path, names, types])) => do
    return .package (← Path.ofJson? path) (← names.list? LongIdent.ofJson?)
      (← types.list? self)
  | some ("Talias", some (.arr [type, name])) => do
    return .alias (← self type) (← name.string?)
  | _ => none

/-- Reads a type expression. -/
def TypeExpr.ofJson? (j : Json) : Option TypeExpr :=
  j.read TypeExpr.step

/-- Writes the name and the id of a variable. -/
def writeVariable (name : Option String) (id : Int32) : Json :=
  .obj [("name", ofOption .str name), ("id", .int id.toInt)]

mutual

/-- Writes a type expression. -/
def TypeExpr.toJson (layout : Layout) : TypeExpr → Json
  | .var name id => tagged "Tvar" (writeVariable name id)
  | .arrow label arg res =>
    tagged "Tarrow" (.arr [label.toJson, arg.toJson layout, res.toJson layout])
  | .tuple types => tagged "Ttuple" (.arr (typesToJson layout types))
  | .constr path args =>
    tagged "Tconstr" (.arr [path.toJson layout, .arr (typesToJson layout args)])
  | .object methods isOpen =>
    tagged "Tobject" (.arr [.arr (methodsToJson layout methods), .bool isOpen])
  | .variant fields isClosed name =>
    tagged "Tvariant" (layout.record
      [.plain "row_fields" (.arr (rowToJson layout fields)),
        .plain "row_closed" (.bool isClosed),
        ⟨"row_name",
          match name with
          | none => .null
          | some (.mk path args) => .arr [path.toJson layout, .arr (typesToJson layout args)],
          name.isNone⟩])
  | .poly body vars =>
    tagged "Tpoly" (.arr [body.toJson layout, .arr (typesToJson layout vars)])
  | .univar name id => tagged "Tunivar" (writeVariable name id)
  | .package path names types =>
    tagged "Tpackage" (.arr [path.toJson layout, .ofList LongIdent.toJson names,
      .arr (typesToJson layout types)])
  | .alias type name => tagged "Talias" (.arr [type.toJson layout, .str name])

/-- Writes a list of type expressions. -/
def typesToJson (layout : Layout) : List TypeExpr → List Json
  | [] => []
  | type :: types => type.toJson layout :: typesToJson layout types

/-- Writes the methods of an object type. -/
def methodsToJson (layout : Layout) : List ObjectMethod → List Json
  | [] => []
  | .mk name type :: methods =>
    .arr [.str name, type.toJson layout] :: methodsToJson layout methods

/-- Writes the tags of a polymorphic variant. -/
def rowToJson (layout : Layout) : List RowEntry → List Json
  | [] => []
  | .mk tag field :: entries =>
    .arr [.str tag,
      match field with
      | .present none => tagged "Rpresent" .null
      | .present (some arg) => tagged "Rpresent" (arg.toJson layout)
      | .either constant args =>
        tagged "Reither" (.arr [.bool constant, .arr (typesToJson layout args)])
      | .absent => .str "Rabsent"] :: rowToJson layout entries

end

/-- Reads an optional type that is none unless it is given. -/
def TypeExpr.optionOfSlot (slot : Slot) : Option (Option TypeExpr) :=
  slot.orDefault none (nullable? TypeExpr.ofJson?)

/-- An optional type that may be left out if there is none. -/
def TypeExpr.optionField (layout : Layout) (name : String) (type : Option TypeExpr) : Field :=
  ⟨name, ofOption (TypeExpr.toJson layout) type, type.isNone⟩

/-! ### Declarations -/

/-- Reads a primitive. -/
def Primitive.ofJson? (j : Json) : Option Primitive := do
  let [name, arity, native] ← j.record? ["prim_name", "prim_arity", "prim_native_name"]
    | none
  return ⟨← name.required string?, ← arity.required int32?, ← native.orDefault "" string?⟩

/-- Writes a primitive. -/
def Primitive.toJson (layout : Layout) (p : Primitive) : Json :=
  layout.record [.plain "prim_name" (.str p.name), .plain "prim_arity" (.int p.arity.toInt),
    ⟨"prim_native_name", .str p.nativeName, p.nativeName == ""⟩]

/-- Reads the kind of a value. -/
def ValueKind.ofJson? (j : Json) : Option ValueKind :=
  match j.variant? with
  | some ("ValReg", content) => bare .regular content
  | some ("ValPrim", some p) => do return .primitive (← Primitive.ofJson? p)
  | _ => none

/-- Writes the kind of a value. -/
def ValueKind.toJson (layout : Layout) : ValueKind → Json
  | .regular => .str "ValReg"
  | .primitive p => tagged "ValPrim" (p.toJson layout)

/-- Reads the description of a value. -/
def ValueDescription.ofJson? (j : Json) : Option ValueDescription := do
  let [type, kind, loc, attributes] ← j.record?
    ["val_type", "val_kind", "val_loc", "val_attributes"] | none
  return ⟨← type.required TypeExpr.ofJson?, ← kind.required ValueKind.ofJson?,
    ← Location.ofSlot loc, ← Attribute.listOfSlot attributes⟩

/-- Writes the description of a value. -/
def ValueDescription.toJson (layout : Layout) (d : ValueDescription) : Json :=
  layout.record [.plain "val_type" (d.type.toJson layout),
    .plain "val_kind" (d.kind.toJson layout), d.loc.field layout "val_loc",
    Attribute.listField layout "val_attributes" d.attributes]

/-- Reads a field of a record. -/
def LabelDeclaration.ofJson? (j : Json) : Option LabelDeclaration := do
  let [ident, mutability, type, loc, attributes] ← j.record?
    ["ld_id", "ld_mutable", "ld_type", "ld_loc", "ld_attributes"] | none
  return ⟨← ident.required Ident.ofJson?,
    ← mutability.orDefault .immutable MutableFlag.ofJson?, ← type.required TypeExpr.ofJson?,
    ← Location.ofSlot loc, ← Attribute.listOfSlot attributes⟩

/-- Writes a field of a record. -/
def LabelDeclaration.toJson (layout : Layout) (d : LabelDeclaration) : Json :=
  layout.record [.plain "ld_id" (d.ident.toJson layout),
    ⟨"ld_mutable", d.mutability.toJson, d.mutability == .immutable⟩,
    .plain "ld_type" (d.type.toJson layout), d.loc.field layout "ld_loc",
    Attribute.listField layout "ld_attributes" d.attributes]

/-- Reads the arguments of a constructor. -/
def ConstructorArguments.ofJson? (j : Json) : Option ConstructorArguments :=
  match j.variant? with
  | some ("CstrTuple", some types) => do return .tuple (← types.list? TypeExpr.ofJson?)
  | some ("CstrRecord", some labels) => do
    return .record (← labels.list? LabelDeclaration.ofJson?)
  | _ => none

/-- Writes the arguments of a constructor. -/
def ConstructorArguments.toJson (layout : Layout) : ConstructorArguments → Json
  | .tuple types => tagged "CstrTuple" (.ofList (TypeExpr.toJson layout) types)
  | .record labels => tagged "CstrRecord" (.ofList (LabelDeclaration.toJson layout) labels)

/-- Reads a constructor. -/
def ConstructorDeclaration.ofJson? (j : Json) : Option ConstructorDeclaration := do
  let [ident, args, result, loc, attributes] ← j.record?
    ["cd_id", "cd_args", "cd_res", "cd_loc", "cd_attributes"] | none
  return ⟨← ident.required Ident.ofJson?, ← args.required ConstructorArguments.ofJson?,
    ← TypeExpr.optionOfSlot result, ← Location.ofSlot loc, ← Attribute.listOfSlot attributes⟩

/-- Writes a constructor. -/
def ConstructorDeclaration.toJson (layout : Layout) (d : ConstructorDeclaration) : Json :=
  layout.record [.plain "cd_id" (d.ident.toJson layout), .plain "cd_args" (d.args.toJson layout),
    TypeExpr.optionField layout "cd_res" d.result, d.loc.field layout "cd_loc",
    Attribute.listField layout "cd_attributes" d.attributes]

/-- Reads the representation of a type. -/
def TypeKind.ofJson? (j : Json) : Option TypeKind :=
  match j.variant? with
  | some ("TypeAbstract", content) => bare .abstract content
  | some ("TypeRecord", some labels) => do
    return .record (← labels.list? LabelDeclaration.ofJson?)
  | some ("TypeVariant", some constructors) => do
    return .variant (← constructors.list? ConstructorDeclaration.ofJson?)
  | some ("TypeOpen", content) => bare .extensible content
  | _ => none

/-- Writes the representation of a type. -/
def TypeKind.toJson (layout : Layout) : TypeKind → Json
  | .abstract => .str "TypeAbstract"
  | .record labels => tagged "TypeRecord" (.ofList (LabelDeclaration.toJson layout) labels)
  | .variant constructors =>
    tagged "TypeVariant" (.ofList (ConstructorDeclaration.toJson layout) constructors)
  | .extensible => .str "TypeOpen"

/-- Reads variances that are none unless they are given. -/
def varianceOfSlot (slot : Slot) : Option (List Variance) :=
  slot.orDefault [] (list? Variance.ofJson?)

/-- Variances that may be left out if there are none. -/
def varianceField (name : String) (vs : List Variance) : Field :=
  ⟨name, .ofList Variance.toJson vs, vs.isEmpty⟩

/-- Reads a type declaration. -/
def TypeDeclaration.ofJson? (j : Json) : Option TypeDeclaration := do
  let [params, kind, privacy, manifest, variance, loc, attributes] ← j.record?
    ["type_params", "type_kind", "type_private", "type_manifest", "type_variance", "type_loc",
      "type_attributes"] | none
  return ⟨← params.required (list? TypeExpr.ofJson?), ← kind.required TypeKind.ofJson?,
    ← privacy.orDefault .publicly PrivateFlag.ofJson?, ← TypeExpr.optionOfSlot manifest,
    ← varianceOfSlot variance, ← Location.ofSlot loc, ← Attribute.listOfSlot attributes⟩

/-- Writes a type declaration. -/
def TypeDeclaration.toJson (layout : Layout) (d : TypeDeclaration) : Json :=
  layout.record [.plain "type_params" (.ofList (TypeExpr.toJson layout) d.params),
    .plain "type_kind" (d.kind.toJson layout),
    ⟨"type_private", d.privacy.toJson, d.privacy == .publicly⟩,
    TypeExpr.optionField layout "type_manifest" d.manifest,
    varianceField "type_variance" d.variance, d.loc.field layout "type_loc",
    Attribute.listField layout "type_attributes" d.attributes]

/-- Reads an extension constructor. -/
def ExtensionConstructor.ofJson? (j : Json) : Option ExtensionConstructor := do
  let [path, params, args, result, privacy, loc, attributes] ← j.record?
    ["ext_type_path", "ext_type_params", "ext_args", "ext_ret_type", "ext_private", "ext_loc",
      "ext_attributes"] | none
  return ⟨← path.required Path.ofJson?, ← params.orDefault [] (list? TypeExpr.ofJson?),
    ← args.required ConstructorArguments.ofJson?, ← TypeExpr.optionOfSlot result,
    ← privacy.orDefault .publicly PrivateFlag.ofJson?, ← Location.ofSlot loc,
    ← Attribute.listOfSlot attributes⟩

/-- Writes an extension constructor. -/
def ExtensionConstructor.toJson (layout : Layout) (d : ExtensionConstructor) : Json :=
  layout.record [.plain "ext_type_path" (d.typePath.toJson layout),
    ⟨"ext_type_params", .ofList (TypeExpr.toJson layout) d.typeParams, d.typeParams.isEmpty⟩,
    .plain "ext_args" (d.args.toJson layout),
    TypeExpr.optionField layout "ext_ret_type" d.result,
    ⟨"ext_private", d.privacy.toJson, d.privacy == .publicly⟩, d.loc.field layout "ext_loc",
    Attribute.listField layout "ext_attributes" d.attributes]

/-! ### Classes -/

/-- Reads an instance variable. -/
def InstanceVariable.ofJson? : Json → Option InstanceVariable
  | .arr [name, mutability, virtuality, type] => do
    return ⟨← name.string?, ← MutableFlag.ofJson? mutability, ← VirtualFlag.ofJson? virtuality,
      ← TypeExpr.ofJson? type⟩
  | _ => none

/-- Writes an instance variable. -/
def InstanceVariable.toJson (layout : Layout) (v : InstanceVariable) : Json :=
  .arr [.str v.name, v.mutability.toJson, v.virtuality.toJson, v.type.toJson layout]

/-- Reads a method. -/
def Method.ofJson? : Json → Option Method
  | .arr [name, privacy, virtuality, type] => do
    return ⟨← name.string?, ← PrivateFlag.ofJson? privacy, ← VirtualFlag.ofJson? virtuality,
      ← TypeExpr.ofJson? type⟩
  | _ => none

/-- Writes a method. -/
def Method.toJson (layout : Layout) (m : Method) : Json :=
  .arr [.str m.name, m.privacy.toJson, m.virtuality.toJson, m.type.toJson layout]

/-- Reads the body of a class. -/
def ClassSignature.ofJson? (j : Json) : Option ClassSignature := do
  let [self, vars, methods] ← j.record? ["csig_self", "csig_vars", "csig_methods"]
    | none
  return ⟨← TypeExpr.optionOfSlot self, ← vars.orDefault [] (list? InstanceVariable.ofJson?),
    ← methods.orDefault [] (list? Method.ofJson?)⟩

/-- Writes the body of a class. -/
def ClassSignature.toJson (layout : Layout) (s : ClassSignature) : Json :=
  layout.record [TypeExpr.optionField layout "csig_self" s.self,
    ⟨"csig_vars", .ofList (InstanceVariable.toJson layout) s.instanceVariables,
      s.instanceVariables.isEmpty⟩,
    ⟨"csig_methods", .ofList (Method.toJson layout) s.methods, s.methods.isEmpty⟩]

/-- Reads one level of a class type. -/
def ClassType.step (self : Json → Option ClassType) (j : Json) : Option ClassType :=
  match j.variant? with
  | some ("CtyConstr", some (.arr [path, args])) => do
    return .constr (← Path.ofJson? path) (← args.list? TypeExpr.ofJson?)
  | some ("CtySignature", some body) => do return .signature (← ClassSignature.ofJson? body)
  | some ("CtyArrow", some (.arr [label, arg, res])) => do
    return .arrow (← ArgLabel.ofJson? label) (← TypeExpr.ofJson? arg) (← self res)
  | _ => none

/-- Reads a class type. -/
def ClassType.ofJson? (j : Json) : Option ClassType :=
  j.read ClassType.step

/-- Writes a class type. -/
def ClassType.toJson (layout : Layout) : ClassType → Json
  | .constr path args =>
    tagged "CtyConstr" (.arr [path.toJson layout, .ofList (TypeExpr.toJson layout) args])
  | .signature body => tagged "CtySignature" (body.toJson layout)
  | .arrow label arg res =>
    tagged "CtyArrow" (.arr [label.toJson, arg.toJson layout, res.toJson layout])

/-- Reads an optional identifier that is none unless it is given. -/
def identOfSlot (slot : Slot) : Option (Option Ident) :=
  slot.orDefault none (nullable? Ident.ofJson?)

/-- An optional identifier that may be left out if there is none. -/
def identField (layout : Layout) (name : String) (x : Option Ident) : Field :=
  ⟨name, ofOption (Ident.toJson layout) x, x.isNone⟩

/-- Reads a class. -/
def ClassDeclaration.ofJson? (j : Json) : Option ClassDeclaration := do
  let [classType, object, params, type, variance, loc, attributes] ← j.record?
    ["cty_id_class_type", "cty_id_object", "cty_params", "cty_type", "cty_variance", "cty_loc",
      "cty_attributes"] | none
  return ⟨← identOfSlot classType, ← identOfSlot object,
    ← params.required (list? TypeExpr.ofJson?), ← type.required ClassType.ofJson?,
    ← varianceOfSlot variance, ← Location.ofSlot loc, ← Attribute.listOfSlot attributes⟩

/-- Writes a class. -/
def ClassDeclaration.toJson (layout : Layout) (d : ClassDeclaration) : Json :=
  layout.record [identField layout "cty_id_class_type" d.classTypeIdent,
    identField layout "cty_id_object" d.objectIdent,
    .plain "cty_params" (.ofList (TypeExpr.toJson layout) d.params),
    .plain "cty_type" (d.type.toJson layout), varianceField "cty_variance" d.variance,
    d.loc.field layout "cty_loc", Attribute.listField layout "cty_attributes" d.attributes]

/-- Reads a class type declaration. -/
def ClassTypeDeclaration.ofJson? (j : Json) : Option ClassTypeDeclaration := do
  let [object, params, type, variance, loc, attributes] ← j.record?
    ["clty_id_object", "clty_params", "clty_type", "clty_variance", "clty_loc",
      "clty_attributes"] | none
  return ⟨← identOfSlot object, ← params.required (list? TypeExpr.ofJson?),
    ← type.required ClassType.ofJson?, ← varianceOfSlot variance, ← Location.ofSlot loc,
    ← Attribute.listOfSlot attributes⟩

/-- Writes a class type declaration. -/
def ClassTypeDeclaration.toJson (layout : Layout) (d : ClassTypeDeclaration) : Json :=
  layout.record [identField layout "clty_id_object" d.objectIdent,
    .plain "clty_params" (.ofList (TypeExpr.toJson layout) d.params),
    .plain "clty_type" (d.type.toJson layout), varianceField "clty_variance" d.variance,
    d.loc.field layout "clty_loc", Attribute.listField layout "clty_attributes" d.attributes]

/-! ### Signatures -/

/-- Reads the position of an item in its group. -/
def RecStatus.ofJson? : Json → Option RecStatus :=
  choice? [("TrecNot", .alone), ("TrecFirst", .first), ("TrecNext", .next)]

/-- Writes the position of an item in its group. -/
def RecStatus.toJson : RecStatus → Json
  | .alone => .str "TrecNot"
  | .first => .str "TrecFirst"
  | .next => .str "TrecNext"

/-- Reads the status of an extension constructor. -/
def ExtStatus.ofJson? : Json → Option ExtStatus :=
  choice? [("TextFirst", .first), ("TextNext", .next), ("TextException", .exception)]

/-- Writes the status of an extension constructor. -/
def ExtStatus.toJson : ExtStatus → Json
  | .first => .str "TextFirst"
  | .next => .str "TextNext"
  | .exception => .str "TextException"

/-- Reads a module declaration. -/
def ModuleDeclaration.read (self : Json → Option ModuleType) (j : Json) :
    Option ModuleDeclaration := do
  let [type, attributes, loc] ← j.record? ["md_type", "md_attributes", "md_loc"] | none
  return ⟨← type.required self, ← Attribute.listOfSlot attributes, ← Location.ofSlot loc⟩

/-- Reads a module type declaration. -/
def ModuleTypeDeclaration.read (self : Json → Option ModuleType) (j : Json) :
    Option ModuleTypeDeclaration := do
  let [type, attributes, loc] ← j.record? ["mtd_type", "mtd_attributes", "mtd_loc"] | none
  return ⟨← type.orDefault none (nullable? self), ← Attribute.listOfSlot attributes,
    ← Location.ofSlot loc⟩

/-- Reads an item of a signature. -/
def SignatureItem.read (self : Json → Option ModuleType) (j : Json) : Option SignatureItem :=
  match j.variant? with
  | some ("SigValue", some (.arr [x, d])) => do
    return .value (← Ident.ofJson? x) (← ValueDescription.ofJson? d)
  | some ("SigType", some (.arr [x, d, status])) => do
    return .type (← Ident.ofJson? x) (← TypeDeclaration.ofJson? d) (← RecStatus.ofJson? status)
  | some ("SigTypext", some (.arr [x, d, status])) => do
    return .extension (← Ident.ofJson? x) (← ExtensionConstructor.ofJson? d)
      (← ExtStatus.ofJson? status)
  | some ("SigModule", some (.arr [x, d, status])) => do
    return .module (← Ident.ofJson? x) (← ModuleDeclaration.read self d)
      (← RecStatus.ofJson? status)
  | some ("SigModtype", some (.arr [x, d])) => do
    return .moduleType (← Ident.ofJson? x) (← ModuleTypeDeclaration.read self d)
  | some ("SigClass", some (.arr [x, d, status])) => do
    return .class (← Ident.ofJson? x) (← ClassDeclaration.ofJson? d)
      (← RecStatus.ofJson? status)
  | some ("SigClassType", some (.arr [x, d, status])) => do
    return .classType (← Ident.ofJson? x) (← ClassTypeDeclaration.ofJson? d)
      (← RecStatus.ofJson? status)
  | _ => none

/-- Reads one level of a module type. -/
def ModuleType.step (self : Json → Option ModuleType) (j : Json) : Option ModuleType :=
  match j.variant? with
  | some ("MtyIdent", some p) => do return .path (← Path.ofJson? p)
  | some ("MtySignature", some items) => do
    return .signature (← items.list? (SignatureItem.read self))
  | some ("MtyFunctor", some content) => do
    let [param, type, result] ← content.parts? ["param", "param_type", "result"] | none
    return .functor (← param.required Ident.ofJson?) (← type.optional self)
      (← result.required self)
  | some ("MtyAlias", some p) => do return .alias (← Path.ofJson? p)
  | _ => none

/-- Reads a module type. -/
def ModuleType.ofJson? (j : Json) : Option ModuleType :=
  j.read ModuleType.step

/-- Reads a signature. -/
def Signature.ofJson? (j : Json) : Option Signature :=
  j.list? (SignatureItem.read ModuleType.ofJson?)

mutual

/-- Writes a module type. -/
def ModuleType.toJson (layout : Layout) : ModuleType → Json
  | .path p => tagged "MtyIdent" (p.toJson layout)
  | .signature items => tagged "MtySignature" (.arr (itemsToJson layout items))
  | .functor param type result =>
    tagged "MtyFunctor" (.obj [("param", param.toJson layout),
      ("param_type",
        match type with
        | none => .null
        | some type => type.toJson layout),
      ("result", result.toJson layout)])
  | .alias p => tagged "MtyAlias" (p.toJson layout)

/-- Writes the items of a signature. -/
def itemsToJson (layout : Layout) : List SignatureItem → List Json
  | [] => []
  | item :: items => item.toJson layout :: itemsToJson layout items

/-- Writes an item of a signature. -/
def SignatureItem.toJson (layout : Layout) : SignatureItem → Json
  | .value x d => tagged "SigValue" (.arr [x.toJson layout, d.toJson layout])
  | .type x d status =>
    tagged "SigType" (.arr [x.toJson layout, d.toJson layout, status.toJson])
  | .extension x d status =>
    tagged "SigTypext" (.arr [x.toJson layout, d.toJson layout, status.toJson])
  | .module x ⟨type, attributes, loc⟩ status =>
    tagged "SigModule" (.arr [x.toJson layout,
      layout.record [.plain "md_type" (type.toJson layout),
        Attribute.listField layout "md_attributes" attributes, loc.field layout "md_loc"],
      status.toJson])
  | .moduleType x ⟨type, attributes, loc⟩ =>
    tagged "SigModtype" (.arr [x.toJson layout,
      layout.record
        [⟨"mtd_type",
            match type with
            | none => .null
            | some type => type.toJson layout,
            type.isNone⟩,
          Attribute.listField layout "mtd_attributes" attributes, loc.field layout "mtd_loc"]])
  | .class x d status =>
    tagged "SigClass" (.arr [x.toJson layout, d.toJson layout, status.toJson])
  | .classType x d status =>
    tagged "SigClassType" (.arr [x.toJson layout, d.toJson layout, status.toJson])

end

/-- Writes a signature. -/
def Signature.toJson (layout : Layout) (items : Signature) : Json :=
  .arr (itemsToJson layout items)

/-- The alternatives that have named parts. -/
def namedAlternatives : List (String × List String) :=
  [("Tvar", ["name", "id"]), ("Tunivar", ["name", "id"]),
    ("MtyFunctor", ["param", "param_type", "result"])]

end InterfaceDocs.Compiled
